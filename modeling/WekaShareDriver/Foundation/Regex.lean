import WekaShareDriver.Foundation.Dict

/-! # Regular expressions by backtracking

Patterns as the `re` module of Python reads them: alternatives are tried in order, a greedy
repetition takes as much as it can and a lazy one as little, and each gives way when what
follows fails. `Foundation.Regex.run` runs a pattern at one place with what follows it as a
continuation; `Foundation.Regex.search` takes the first place at which the pattern matches.

Where what follows a greedy repetition cannot begin with what is repeated there is nothing
to give way to (`Foundation.Regex.greedy_of_stuck`), and places at which a pattern cannot
begin are skipped (`Foundation.Regex.searchFrom_append`).
-/

namespace Foundation

/-- A regular expression; repetitions are of single characters. -/
inductive Regex where
  | empty
  | one (accepts : Char → Bool)
  | star (greedy : Bool) (accepts : Char → Bool)
  | optional (accepts : Char → Bool)
  | boundary (word : Char → Bool)
  | group (name : Nat) (inner : Regex)
  | back (name : Nat)
  | seq (first second : Regex)

namespace Regex

/-- A place in a text: what stands before it, the nearest first, and what stands after. -/
structure Cursor where
  before : List Char
  after : List Char
  deriving DecidableEq

/-- What the groups of a pattern matched. -/
abbrev Captures : Type := Dict Nat (List Char)

variable {β : Type}

/-- Take as many accepted characters as what follows allows. -/
def greedy (accepts : Char → Bool) (next : Cursor → Option β) :
    List Char → List Char → Option β
  | before, [] => next ⟨before, []⟩
  | before, char :: rest =>
      if accepts char then
        (greedy accepts next (char :: before) rest).orElse fun _ => next ⟨before, char :: rest⟩
      else next ⟨before, char :: rest⟩

/-- Take as few accepted characters as what follows allows. -/
def lazy (accepts : Char → Bool) (next : Cursor → Option β) : List Char → List Char → Option β
  | before, [] => next ⟨before, []⟩
  | before, char :: rest =>
      (next ⟨before, char :: rest⟩).orElse fun _ =>
        if accepts char then lazy accepts next (char :: before) rest else none

/-- The next character is of a word and the last one is not, or the other way round. -/
def atBoundary (word : Char → Bool) (place : Cursor) : Bool :=
  place.before.head?.any word != place.after.head?.any word

/-- Run a pattern at a place. -/
def run : Regex → Captures → Cursor → (Captures → Cursor → Option β) → Option β
  | .empty, captures, place, next => next captures place
  | .one accepts, captures, place, next =>
      match place.after with
      | [] => none
      | char :: rest =>
          if accepts char then next captures ⟨char :: place.before, rest⟩ else none
  | .star true accepts, captures, place, next =>
      greedy accepts (next captures) place.before place.after
  | .star false accepts, captures, place, next =>
      lazy accepts (next captures) place.before place.after
  | .optional accepts, captures, place, next =>
      match place.after with
      | [] => next captures place
      | char :: rest =>
          if accepts char then
            (next captures ⟨char :: place.before, rest⟩).orElse fun _ => next captures place
          else next captures place
  | .boundary word, captures, place, next =>
      if atBoundary word place then next captures place else none
  | .group name inner, captures, place, next =>
      inner.run captures place fun captures' place' =>
        next (captures'.assign name
          (place'.before.take (place'.before.length - place.before.length)).reverse) place'
  | .back name, captures, place, next =>
      match captures.get? name with
      | none => none
      | some text =>
          if text <+: place.after then
            next captures ⟨text.reverse ++ place.before, place.after.drop text.length⟩
          else none
  | .seq first second, captures, place, next =>
      first.run captures place fun captures' place' => second.run captures' place' next

/-- A match: where it starts, where it ends and what its groups took. -/
structure Match where
  start : Cursor
  stop : Cursor
  captures : Captures

/-- The match of a pattern that starts at a place. -/
def matchAt (pattern : Regex) (start : Cursor) : Option Match :=
  pattern.run [] start fun captures stop => some ⟨start, stop, captures⟩

/-- The first match at or after a place. -/
def searchFrom (pattern : Regex) : List Char → List Char → Option Match
  | before, [] => pattern.matchAt ⟨before, []⟩
  | before, char :: rest =>
      (pattern.matchAt ⟨before, char :: rest⟩).orElse fun _ =>
        searchFrom pattern (char :: before) rest

/-- `re.search(pattern, text)`. -/
def search (pattern : Regex) (text : List Char) : Option Match := searchFrom pattern [] text

/-- The matches from a place on, one after the other; each takes a character at least. -/
def findAllFrom (pattern : Regex) : Nat → Cursor → List Match
  | 0, _ => []
  | fuel + 1, place =>
      match searchFrom pattern place.before place.after with
      | none => []
      | some found => found :: findAllFrom pattern fuel found.stop

/-- `re.finditer(pattern, text)`, for a pattern that takes a character at least. -/
def findAll (pattern : Regex) (text : List Char) : List Match :=
  findAllFrom pattern (text.length + 1) ⟨[], text⟩

/-- A text as a pattern. -/
def literal : List Char → Regex
  | [] => .empty
  | char :: rest => .seq (.one (· == char)) (literal rest)

/-- A text as a pattern, up to an alikeness of characters. -/
def spelled (alike : Char → Char → Bool) : List Char → Regex
  | [] => .empty
  | char :: rest => .seq (.one (alike char)) (spelled alike rest)

/-- One or more accepted characters. -/
def plus (accepts : Char → Bool) : Regex := .seq (.one accepts) (.star true accepts)

variable {accepts : Char → Bool} {pattern : Regex} {next : Cursor → Option β}

/-- Where what follows cannot begin with what is repeated, all of it is taken. -/
theorem greedy_of_stuck (stuck : ∀ before char rest, accepts char →
    next ⟨before, char :: rest⟩ = none) (before after : List Char) :
    greedy accepts next before after =
      next ⟨(after.takeWhile accepts).reverse ++ before, after.dropWhile accepts⟩ := by
  induction after generalizing before with
  | nil => rfl
  | cons char rest ih =>
      rw [greedy]
      by_cases accepted : accepts char = true
      · rw [if_pos accepted, ih, stuck before char rest accepted,
          List.takeWhile_cons_of_pos accepted, List.dropWhile_cons_of_pos accepted, List.reverse_cons, List.append_assoc]
        exact Option.orElse_eq_or.trans Option.or_none
      · rw [if_neg accepted, List.takeWhile_cons_of_neg accepted,
          List.dropWhile_cons_of_neg accepted]
        rfl

/-- A pattern that begins with some of the characters. -/
def Begins (pattern : Regex) (accepts : Char → Bool) : Prop :=
  ∀ (captures : Captures) (place : Cursor) (next : Captures → Cursor → Option Match),
    place.after.head?.any accepts = false → pattern.run captures place next = none

/-- One character begins with itself. -/
theorem begins_one (accepts : Char → Bool) : Begins (.one accepts) accepts := by
  rintro captures ⟨before, after⟩ next absent
  cases after with
  | nil => rfl
  | cons char rest => exact if_neg (by simpa using absent)

/-- A group begins as its pattern does. -/
theorem Begins.group {name : Nat} (begins : pattern.Begins accepts) :
    Begins (.group name pattern) accepts := fun _ _ _ absent => begins _ _ _ absent

/-- A sequence begins as its first pattern does. -/
theorem Begins.seq {rest : Regex} (begins : pattern.Begins accepts) :
    Begins (.seq pattern rest) accepts := fun _ _ _ absent => begins _ _ _ absent

/-- A literal begins with its first character. -/
theorem begins_literal (first : Char) (rest : List Char) :
    Begins (literal (first :: rest)) (· == first) := (begins_one _).seq

/-- A greedy repetition before a pattern that cannot begin with it takes all there is. -/
theorem run_star_seq {accepts' : Char → Bool} (begins : pattern.Begins accepts')
    (apart : ∀ char, accepts char → accepts' char = false) (captures : Captures) (place : Cursor)
    (next : Captures → Cursor → Option Match) :
    (Regex.seq (.star true accepts) pattern).run captures place next =
      pattern.run captures ⟨(place.after.takeWhile accepts).reverse ++ place.before,
        place.after.dropWhile accepts⟩ next := by
  refine greedy_of_stuck (fun before char rest accepted => ?_) place.before place.after
  exact begins _ _ _ (by simpa using apart char accepted)

/-- A character, then the rest. -/
theorem run_one_cons {char : Char} (accepted : accepts char) (captures : Captures)
    (before rest : List Char) (next : Captures → Cursor → Option β) :
    (Regex.one accepts).run captures ⟨before, char :: rest⟩ next =
      next captures ⟨char :: before, rest⟩ := if_pos accepted

/-- A text that stands there is matched. -/
theorem run_literal (text : List Char) (captures : Captures) (before rest : List Char)
    (next : Captures → Cursor → Option β) :
    (literal text).run captures ⟨before, text ++ rest⟩ next =
      next captures ⟨text.reverse ++ before, rest⟩ := by
  induction text generalizing before with
  | nil => rfl
  | cons first others ih =>
      have step : (literal (first :: others)).run captures ⟨before, first :: (others ++ rest)⟩
          next = (literal others).run captures ⟨first :: before, others ++ rest⟩ next :=
        if_pos (beq_self_eq_true first)
      rw [List.cons_append, step, ih, List.reverse_cons, List.append_assoc]
      rfl

/-- A text that does not stand there is not matched. -/
theorem run_literal_eq_none {text before after : List Char} (absent : ¬ text <+: after)
    (captures : Captures) (next : Captures → Cursor → Option β) :
    (literal text).run captures ⟨before, after⟩ next = none := by
  induction text generalizing before after with
  | nil => exact absurd List.nil_prefix absent
  | cons first others ih =>
      cases after with
      | nil => rfl
      | cons char rest =>
          by_cases same : char = first
          · subst same
            have step : (literal (char :: others)).run captures ⟨before, char :: rest⟩ next =
                (literal others).run captures ⟨char :: before, rest⟩ next :=
              if_pos (beq_self_eq_true char)
            rw [step]
            exact ih fun stands => absent (List.cons_prefix_cons.mpr ⟨rfl, stands⟩)
          · exact if_neg (by simpa using same)

/-- Places at which the pattern cannot begin are skipped. -/
theorem searchFrom_append (begins : pattern.Begins accepts) (before front after : List Char)
    (absent : ∀ char ∈ front, accepts char = false) :
    searchFrom pattern before (front ++ after) =
      searchFrom pattern (front.reverse ++ before) after := by
  induction front generalizing before with
  | nil => rfl
  | cons char rest ih =>
      have here : pattern.matchAt ⟨before, char :: (rest ++ after)⟩ = none :=
        begins _ _ _ (by simpa using absent char List.mem_cons_self)
      have later := ih (char :: before) fun other member =>
        absent other (List.mem_cons_of_mem _ member)
      rw [List.cons_append, searchFrom, here, List.reverse_cons, List.append_assoc]
      exact later

/-- A pattern that can begin nowhere matches nowhere. -/
theorem searchFrom_eq_none (begins : pattern.Begins accepts) (before after : List Char)
    (absent : ∀ char ∈ after, accepts char = false) : searchFrom pattern before after = none := by
  have skipped := searchFrom_append begins before after [] absent
  rw [List.append_nil] at skipped
  rw [skipped]
  exact begins _ _ _ rfl

/-- A lazy repetition ends at the first place from which what follows goes on. -/
theorem lazy_of_first {taken rest : List Char} {result : β} (before : List Char)
    (all : ∀ char ∈ taken, accepts char)
    (early : ∀ front back, taken = front ++ back → back ≠ [] →
      next ⟨front.reverse ++ before, back ++ rest⟩ = none)
    (goes : next ⟨taken.reverse ++ before, rest⟩ = some result) :
    lazy accepts next before (taken ++ rest) = some result := by
  induction taken generalizing before with
  | nil =>
      have here : next ⟨before, rest⟩ = some result := goes
      cases rest <;> simp [lazy, here]
  | cons first others ih =>
      have here : next ⟨before, first :: (others ++ rest)⟩ = none :=
        early [] (first :: others) rfl (List.cons_ne_nil _ _)
      have later := ih (first :: before) (fun char member => all char (List.mem_cons_of_mem _ member))
        (fun front back split some' => by
          simpa using early (first :: front) back (by rw [split]; rfl) some')
        (by simpa using goes)
      rw [List.cons_append, lazy, here, if_pos (all first List.mem_cons_self)]
      exact later

/-- A lazy repetition fails where what follows goes on from no place. -/
theorem lazy_eq_none (before after : List Char)
    (fails : ∀ front back, after = front ++ back →
      next ⟨front.reverse ++ before, back⟩ = none) :
    lazy accepts next before after = none := by
  induction after generalizing before with
  | nil => exact fails [] [] rfl
  | cons char rest ih =>
      have later := ih (char :: before) fun front back split => by
        simpa using fails (char :: front) back (by rw [split]; rfl)
      have here : next ⟨before, char :: rest⟩ = none := fails [] (char :: rest) rfl
      rw [lazy, here, later]
      simp

/-- A spelled text matches what is alike, character by character. -/
theorem isSome_run_spelled {alike : Char → Char → Bool} (text : List Char) (captures : Captures)
    (place : Cursor) {next : Captures → Cursor → Option β} :
    ((spelled alike text).run captures place next).isSome ↔ ∃ said rest,
      place.after = said ++ rest ∧ List.Forall₂ (fun char other => alike char other) text said ∧
      (next captures ⟨said.reverse ++ place.before, rest⟩).isSome := by
  induction text generalizing place with
  | nil =>
      constructor
      · intro here
        exact ⟨[], place.after, rfl, .nil, here⟩
      · rintro ⟨said, rest, split, alike', there⟩
        cases alike'
        obtain ⟨before, after⟩ := place
        obtain rfl : after = rest := split
        exact there
  | cons char text ih =>
      obtain ⟨before, after⟩ := place
      cases after with
      | nil =>
          refine ⟨fun impossible => absurd impossible Bool.false_ne_true, ?_⟩
          rintro ⟨said, rest, split, alike', -⟩
          obtain ⟨rfl, -⟩ := List.append_eq_nil_iff.mp split.symm
          cases alike'
      | cons first after =>
          simp only [spelled, run]
          by_cases same : alike char first
          · simp only [same, ↓reduceIte, ih]
            constructor
            · rintro ⟨said, rest, rfl, alike', there⟩
              exact ⟨first :: said, rest, rfl, .cons same alike', by simpa using there⟩
            · rintro ⟨said, rest, split, alike', there⟩
              cases alike' with
              | cons here later =>
                  obtain ⟨rfl, rfl⟩ := List.cons_eq_cons.mp split
                  exact ⟨_, rest, rfl, later, by simpa using there⟩
          · simp only [same, Bool.false_eq_true, ↓reduceIte, Option.isSome_none, false_iff]
            rintro ⟨said, rest, split, alike', -⟩
            cases alike' with
            | cons here later =>
                obtain ⟨rfl, -⟩ := List.cons_eq_cons.mp split
                exact same here

/-- A search finds the first place at which the pattern matches. -/
theorem searchFrom_eq_some_iff {before text : List Char} {found : Match} :
    searchFrom pattern before text = some found ↔ ∃ front after, text = front ++ after ∧
      pattern.matchAt ⟨front.reverse ++ before, after⟩ = some found ∧
      ∀ early late, front = early ++ late → late ≠ [] →
        pattern.matchAt ⟨early.reverse ++ before, late ++ after⟩ = none := by
  induction text generalizing before with
  | nil =>
      refine ⟨fun here => ⟨[], [], rfl, here, fun early late split some' => ?_⟩, ?_⟩
      · exact absurd (List.append_eq_nil_iff.mp split.symm).2 some'
      · rintro ⟨front, after, split, here, -⟩
        obtain ⟨rfl, rfl⟩ := List.append_eq_nil_iff.mp split.symm
        exact here
  | cons char rest ih =>
      cases first : pattern.matchAt ⟨before, char :: rest⟩ with
      | some here =>
          rw [searchFrom, first]
          refine ⟨fun same => ⟨[], char :: rest, rfl, first.trans same, ?_⟩, ?_⟩
          · intro early late split some'
            exact absurd (List.append_eq_nil_iff.mp split.symm).2 some'
          · rintro ⟨front, after, split, found', none'⟩
            cases front with
            | nil =>
                obtain rfl : char :: rest = after := split
                exact first.symm.trans found'
            | cons other front =>
                have clash := none' [] (other :: front) rfl (List.cons_ne_nil _ _)
                rw [← split] at clash
                cases first.symm.trans clash
      | none =>
          rw [searchFrom, first, Option.orElse_none, ih]
          constructor
          · rintro ⟨front, after, rfl, found', none'⟩
            refine ⟨char :: front, after, rfl, by simpa using found', ?_⟩
            intro early late split some'
            cases early with
            | nil =>
                obtain rfl : char :: front = late := split
                exact first
            | cons other early =>
                obtain ⟨rfl, split'⟩ := List.cons_eq_cons.mp split
                simpa using none' early late split' some'
          · rintro ⟨front, after, split, found', none'⟩
            cases front with
            | nil =>
                obtain rfl : char :: rest = after := split
                cases first.symm.trans found'
            | cons other front =>
                obtain ⟨rfl, rfl⟩ := List.cons_eq_cons.mp split
                refine ⟨front, after, rfl, by simpa using found', fun early late split some' => ?_⟩
                simpa using none' (char :: early) late (by rw [split]; rfl) some'

/-- A search finds something where the pattern matches somewhere. -/
theorem isSome_searchFrom {before front after : List Char}
    (matched : (pattern.matchAt ⟨front.reverse ++ before, after⟩).isSome) :
    (searchFrom pattern before (front ++ after)).isSome := by
  induction front generalizing before with
  | nil => cases after <;> simp_all [searchFrom]
  | cons char rest ih =>
      have later : (searchFrom pattern (char :: before) (rest ++ after)).isSome :=
        ih (by simpa using matched)
      rw [List.cons_append, searchFrom, Option.orElse_eq_or, Option.isSome_or, later, Bool.or_true]

/-- What a group captures. -/
theorem take_length_sub (taken before : List Char) :
    ((taken.reverse ++ before).take
      ((taken.reverse ++ before).length - before.length)).reverse = taken := by
  have count : (taken.reverse ++ before).length - before.length = taken.reverse.length := by
    rw [List.length_append]
    omega
  rw [count, List.take_left, List.reverse_reverse]

/-! ## What a pattern can change -/

/-- The groups of a pattern. -/
def names : Regex → List Nat
  | .group name inner => name :: inner.names
  | .seq first second => first.names ++ second.names
  | _ => []

/-- Where greedy repetition succeeds, what comes after it has succeeded somewhere. -/
theorem greedy_reaches {before after : List Char} {result : β}
    (done : greedy accepts next before after = some result) : ∃ place, next place = some result := by
  induction after generalizing before with
  | nil => exact ⟨_, done⟩
  | cons char rest ih =>
      rw [greedy] at done
      by_cases accepted : accepts char = true
      · rw [if_pos accepted] at done
        cases later : greedy accepts next (char :: before) rest with
        | none => exact ⟨_, by simpa [later] using done⟩
        | some found => exact ih (later.trans (by simpa [later] using done))
      · rw [if_neg accepted] at done
        exact ⟨_, done⟩

/-- Where lazy repetition succeeds, what comes after it has succeeded somewhere. -/
theorem lazy_reaches {before after : List Char} {result : β}
    (done : lazy accepts next before after = some result) : ∃ place, next place = some result := by
  induction after generalizing before with
  | nil => exact ⟨_, done⟩
  | cons char rest ih =>
      rw [lazy] at done
      cases here : next ⟨before, char :: rest⟩ with
      | some found => exact ⟨_, here.trans (by simpa [here] using done)⟩
      | none =>
          by_cases accepted : accepts char = true
          · exact ih (by simpa [here, accepted] using done)
          · simp [here, accepted] at done

/-- A match goes on from some place, and no group but the pattern's own is another there. -/
theorem run_reaches {captures : Captures} {place : Cursor} {next : Captures → Cursor → Option β}
    {result : β} (done : pattern.run captures place next = some result) :
    ∃ captures' place', next captures' place' = some result ∧
      ∀ name ∉ pattern.names, captures'.get? name = captures.get? name := by
  induction pattern generalizing captures place next with
  | empty => exact ⟨_, _, done, fun _ _ => rfl⟩
  | one accepts =>
      rw [run] at done
      cases here : place.after with
      | nil => simp [here] at done
      | cons char rest =>
          by_cases accepted : accepts char = true
          · exact ⟨_, _, by simpa [here, accepted] using done, fun _ _ => rfl⟩
          · simp [here, accepted] at done
  | star greedy' accepts =>
      cases greedy' with
      | true =>
          obtain ⟨place', reached⟩ := greedy_reaches done
          exact ⟨_, _, reached, fun _ _ => rfl⟩
      | false =>
          obtain ⟨place', reached⟩ := lazy_reaches done
          exact ⟨_, _, reached, fun _ _ => rfl⟩
  | optional accepts =>
      rw [run] at done
      cases here : place.after with
      | nil => exact ⟨_, _, by simpa [here] using done, fun _ _ => rfl⟩
      | cons char rest =>
          by_cases accepted : accepts char = true
          · cases taken : next captures ⟨char :: place.before, rest⟩ with
            | none => exact ⟨_, _, by simpa [here, accepted, taken] using done, fun _ _ => rfl⟩
            | some found =>
                refine ⟨_, _, taken.trans ?_, fun _ _ => rfl⟩
                simpa [here, accepted, taken] using done
          · exact ⟨_, _, by simpa [here, accepted] using done, fun _ _ => rfl⟩
  | boundary word =>
      rw [run] at done
      by_cases bounded : atBoundary word place = true
      · exact ⟨_, _, by simpa [bounded] using done, fun _ _ => rfl⟩
      · simp [bounded] at done
  | group name inner ih =>
      obtain ⟨captures', place', reached, kept⟩ := ih done
      refine ⟨_, _, reached, fun other apart => ?_⟩
      obtain ⟨ne, apart'⟩ := not_or.mp (mt List.mem_cons.mpr apart)
      rw [Dict.get?_assign, if_neg ne, kept other apart']
  | back name =>
      rw [run] at done
      cases taken : captures.get? name with
      | none => simp [taken] at done
      | some text =>
          by_cases stands : text <+: place.after
          · exact ⟨_, _, by simpa [taken, stands] using done, fun _ _ => rfl⟩
          · simp [taken, stands] at done
  | seq first second ihFirst ihSecond =>
      obtain ⟨captures', place', reached, kept⟩ := ihFirst done
      obtain ⟨captures'', place'', reached', kept'⟩ := ihSecond reached
      refine ⟨_, _, reached', fun name apart => ?_⟩
      obtain ⟨apart', apart''⟩ := not_or.mp (mt List.mem_append.mpr apart)
      rw [kept' name apart'', kept name apart']

/-! ## A captured run of characters and what follows it -/

section Captured

variable {tail : Regex} {accepts' : Char → Bool} {taken rest : List Char}

/-- Accepted characters before one that is not are just the longest accepted front. -/
theorem takeWhile_append_of_head (all : ∀ char ∈ taken, accepts char)
    (ends : rest.head?.any accepts = false) :
    (taken ++ rest).takeWhile accepts = taken ∧ (taken ++ rest).dropWhile accepts = rest := by
  have stops : rest.takeWhile accepts = [] ∧ rest.dropWhile accepts = rest := by
    cases rest with
    | nil => exact ⟨rfl, rfl⟩
    | cons char others =>
        have stop : ¬ accepts char = true := by simpa using ends
        exact ⟨List.takeWhile_cons_of_neg stop, List.dropWhile_cons_of_neg stop⟩
  rw [List.takeWhile_append_of_pos all, List.dropWhile_append_of_pos all, stops.1, stops.2,
    List.append_nil]
  exact ⟨rfl, rfl⟩

/-- A run of characters is captured as a whole where what follows cannot begin with one. -/
theorem run_group_plus (begins : tail.Begins accepts')
    (apart : ∀ char, accepts char → accepts' char = false) (nonempty : taken ≠ [])
    (all : ∀ char ∈ taken, accepts char) (ends : rest.head?.any accepts = false) (name : Nat)
    (captures : Captures) (before : List Char) (next : Captures → Cursor → Option Match) :
    (Regex.seq (.group name (plus accepts)) tail).run captures ⟨before, taken ++ rest⟩ next =
      tail.run (captures.assign name taken) ⟨taken.reverse ++ before, rest⟩ next := by
  cases taken with
  | nil => exact absurd rfl nonempty
  | cons first others =>
      have first' : accepts first := all first List.mem_cons_self
      obtain ⟨took, left⟩ := takeWhile_append_of_head
        (fun char member => all char (List.mem_cons_of_mem _ member)) ends
      have continued : (Regex.seq (.group name (plus accepts)) tail).run captures
          ⟨before, (first :: others) ++ rest⟩ next =
            greedy accepts (fun place' => tail.run (captures.assign name
              (place'.before.take (place'.before.length - before.length)).reverse) place' next)
              (first :: before) (others ++ rest) := if_pos first'
      rw [continued, greedy_of_stuck (fun before' char rest' accepted =>
        begins _ _ _ (by simpa using apart char accepted)), took, left]
      have captured : ((others.reverse ++ first :: before).take
          ((others.reverse ++ first :: before).length - before.length)).reverse =
            first :: others := by
        have split : others.reverse ++ first :: before = (first :: others).reverse ++ before := by
          simp
        rw [split, take_length_sub]
      rw [captured, List.reverse_cons, List.append_assoc]
      rfl

/-- A search for a run of characters ends at the first run that what follows accepts. -/
theorem searchFrom_group_plus (begins : tail.Begins accepts')
    (apart : ∀ char, accepts char → accepts' char = false) {front : List Char}
    (absent : ∀ char ∈ front, accepts char = false) (nonempty : taken ≠ [])
    (all : ∀ char ∈ taken, accepts char) (ends : rest.head?.any accepts = false) (name : Nat)
    {found : Match} (before : List Char)
    (follows : tail.run (Dict.assign [] name taken)
      ⟨taken.reverse ++ (front.reverse ++ before), rest⟩ (fun captures stop =>
        some ⟨⟨front.reverse ++ before, taken ++ rest⟩, stop, captures⟩) = some found) :
    searchFrom (.seq (.group name (plus accepts)) tail) before (front ++ (taken ++ rest)) =
      some found := by
  have here : (Regex.seq (.group name (plus accepts)) tail).matchAt
      ⟨front.reverse ++ before, taken ++ rest⟩ = some found :=
    (run_group_plus begins apart nonempty all ends name _ _ _).trans follows
  have begins' : (Regex.seq (.group name (plus accepts)) tail).Begins accepts :=
    (begins_one accepts).seq.group.seq
  rw [searchFrom_append begins' before front (taken ++ rest) absent]
  cases taken with
  | nil => exact absurd rfl nonempty
  | cons first others =>
      rw [List.cons_append, searchFrom]
      rw [List.cons_append] at here
      rw [here]
      rfl

/-- A search for a run of characters fails if what follows the only run is not accepted. -/
theorem searchFrom_group_plus_eq_none (begins : tail.Begins accepts')
    (apart : ∀ char, accepts char → accepts' char = false) {front : List Char}
    (absent : ∀ char ∈ front, accepts char = false) (all : ∀ char ∈ taken, accepts char)
    (absent' : ∀ char ∈ rest, accepts char = false) (name : Nat) (before : List Char)
    (fails : ∀ captures before (next : Captures → Cursor → Option Match),
      tail.run captures ⟨before, rest⟩ next = none) :
    searchFrom (.seq (.group name (plus accepts)) tail) before (front ++ (taken ++ rest)) =
      none := by
  have begins' : (Regex.seq (.group name (plus accepts)) tail).Begins accepts :=
    (begins_one accepts).seq.group.seq
  have ends : rest.head?.any accepts = false := by
    cases rest with
    | nil => rfl
    | cons char others => exact absent' char List.mem_cons_self
  rw [searchFrom_append begins' before front (taken ++ rest) absent]
  generalize front.reverse ++ before = before
  induction taken generalizing before with
  | nil => exact searchFrom_eq_none begins' before rest absent'
  | cons first others ih =>
      have here : (Regex.seq (.group name (plus accepts)) tail).matchAt
          ⟨before, (first :: others) ++ rest⟩ = none :=
        (run_group_plus begins apart (List.cons_ne_nil _ _) all ends name _ _ _).trans
          (fails _ _ _)
      rw [List.cons_append, searchFrom]
      rw [List.cons_append] at here
      rw [here]
      exact ih (fun char member => all char (List.mem_cons_of_mem _ member)) _

end Captured

end Regex

end Foundation
