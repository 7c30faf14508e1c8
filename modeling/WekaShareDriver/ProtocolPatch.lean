import WekaShareDriver.Foundation.PythonTuple
import WekaShareDriver.Foundation.Regex

/-! # Adding WEKAFS to the supported protocols

`patch-wekafs-protocol.py` of the CI adds WEKAFS to the tuple
`SUPPORTED_SHARE_PROTOCOLS` of a `constants.py`. One regular expression finds the tuple and
what stands in it; the file is written with the new entry and read again with the same
expression.

What the expression finds is the first header of the file that has a parenthesis after it,
up to that parenthesis, without the white space and one comma before it
(`WekaShareDriver.ProtocolPatch.search_place`, `WekaShareDriver.ProtocolPatch.exists_place`).
A file that names the marker there is left as it is, and a file that was patched names it, so
that a second run changes nothing (`WekaShareDriver.ProtocolPatch.main_main`).
-/

namespace WekaShareDriver

open Foundation

namespace ProtocolPatch

/-- The text of a file. -/
abbrev Source : Type := List Char

/-- `MARKER` -/
def marker : Source := "WEKAFS".toList

/-- `SUPPORTED_SHARE_PROTOCOLS` -/
def tupleName : Source := "SUPPORTED_SHARE_PROTOCOLS".toList

/-- `['\"]` -/
def isQuoteMark (char : Char) : Bool := char == '\'' || char == '"'

/-- `(SUPPORTED_SHARE_PROTOCOLS\s*=\s*\()` -/
def header : Regex :=
  .seq (.literal tupleName) (.seq (.star true Text.isSpace) (.seq (.one (· == '='))
    (.seq (.star true Text.isSpace) (.one (· == '(')))))

/-- `(,?\s*)(\))` -/
def closing : Regex :=
  .seq (.group 3 (.seq (.optional (· == ',')) (.star true Text.isSpace)))
    (.group 4 (.one (· == ')')))

/-- `PATTERN`; its second group is called `body`. -/
def pattern : Regex :=
  .seq (.group 1 header) (.seq (.group 2 (.star false (· != ')'))) closing)

/-- `['\"]WEKAFS['\"]` -/
def markerPattern : Regex :=
  .seq (.one isQuoteMark) (.seq (.literal marker) (.one isQuoteMark))

/-- `(['\"])(\w+)\1`; `word` is `\w`. -/
def entryPattern (word : Char → Bool) : Regex :=
  .seq (.group 1 (.one isQuoteMark)) (.seq (.group 2 (.plus word)) (.back 1))

/-- `match.group(name)` -/
def group (found : Regex.Match) (name : Nat) : Source := (found.captures.get? name).getD []

/-- The marker stands in the text between quotes. -/
def mentions (text : Source) : Bool := (markerPattern.search text).isSome

/-- `text.rstrip()` -/
def rstrip (text : Source) : Source := (text.reverse.dropWhile Text.isSpace).reverse

/-- A text file as it is read: every line ends with a newline. -/
def newlines : Source → Source
  | '\r' :: '\n' :: rest => '\n' :: newlines rest
  | '\r' :: rest => '\n' :: newlines rest
  | char :: rest => char :: newlines rest
  | [] => []

section Layout

variable (word : Char → Bool)

/-- The quote of the last entry. -/
def lastQuote (body : Source) : Source :=
  match ((entryPattern word).findAll body).getLast? with
  | none => ['\'']
  | some found => group found 1

/-- The new entry. -/
def addition (body : Source) : Source := lastQuote word body ++ marker ++ lastQuote word body

/-- `body.rsplit('\n', 1)[-1]` -/
def lastLine (body : Source) : Source := (body.reverse.takeWhile (· != '\n')).reverse

/-- `re.match(r'\s*', last_line).group(0)` -/
def indentOf (body : Source) : Source := (lastLine body).takeWhile Text.isSpace

/-- `indent or '    '` -/
def indent (body : Source) : Source :=
  if indentOf (rstrip body) = [] then List.replicate 4 ' ' else indentOf (rstrip body)

/-- The last line would be too long with the new entry on it. -/
def overlong (body : Source) : Bool :=
  (lastLine (rstrip body)).length + (addition word body).length + 3 > 79

/-- What goes between the entries and the new one. -/
def separation (body : Source) : Source :=
  if overlong word body then ',' :: '\n' :: indent body else [',', ' ']

def newBody (body : Source) : Source :=
  rstrip body ++ separation word body ++ addition word body

/-- The text with the new entry. -/
def patched (found : Regex.Match) : Source :=
  found.start.before.reverse ++ (group found 1 ++ newBody word (group found 2) ++ group found 4) ++
    found.stop.after

/-- What a run comes to: the exit code, the file and what was written to the terminal. -/
structure Outcome where
  code : Nat
  file : Source
  said : String

/-- `main`, when the file can be read and written. -/
def main (argv : List String) (file : Source) : Outcome :=
  match argv with
  | [_, path] =>
      let src := newlines file
      match pattern.search src with
      | none =>
          ⟨1, file, "SUPPORTED_SHARE_PROTOCOLS tuple not found in " ++ path ++
            " -- Manila may have restructured it; this patcher needs updating\n"⟩
      | some found =>
          if mentions (group found 2) then
            ⟨0, file, "WEKAFS already in SUPPORTED_SHARE_PROTOCOLS\n"⟩
          else
            let src' := patched word found
            match pattern.search (newlines src') with
            | none => ⟨1, src', "patch did not take effect in " ++ path ++ "\n"⟩
            | some check =>
                if mentions (group check 2) then
                  ⟨0, src', "Patched WEKAFS into SUPPORTED_SHARE_PROTOCOLS (" ++
                    String.ofList ((Text.strip (String.ofList (group check 2))).toList.map
                      fun char => if char = '\n' then ' ' else char) ++ ")\n"⟩
                else ⟨1, src', "patch did not take effect in " ++ path ++ "\n"⟩
  | _ => ⟨1, file, "usage: patch-wekafs-protocol.py <constants.py>\n"⟩

end Layout

/-! ## What the expression matches -/

section Pattern

variable {text front head body gap behind : Source} {found : Regex.Match}
  {captures : Regex.Captures} {before after : List Char}
  {next : Regex.Captures → Regex.Cursor → Option Regex.Match}

def Spaces (text : Source) : Prop := ∀ char ∈ text, Text.isSpace char

/-- The name of the tuple, the sign of the assignment and the opening parenthesis. -/
def IsHeader (head : Source) : Prop :=
  ∃ first second, Spaces first ∧ Spaces second ∧
    head = tupleName ++ (first ++ '=' :: (second ++ ['(']))

/-- White space with a comma before it perhaps. -/
def IsGap (gap : Source) : Prop := ∃ blanks, Spaces blanks ∧ (gap = blanks ∨ gap = ',' :: blanks)

private theorem exists_spaces (text : Source) : ∃ front rest, text = front ++ rest ∧ Spaces front ∧
    rest.head?.any Text.isSpace = false := by
  refine ⟨text.takeWhile Text.isSpace, text.dropWhile Text.isSpace,
    List.takeWhile_append_dropWhile.symm, fun char member => List.mem_takeWhile_imp member, ?_⟩
  induction text with
  | nil => rfl
  | cons char rest ih =>
      by_cases space : Text.isSpace char = true
      · rw [List.dropWhile_cons_of_pos space]
        exact ih
      · rw [List.dropWhile_cons_of_neg space]
        simpa using space

/-- White space before something that begins with another character. -/
theorem run_spaces {rest : Regex} {char : Char} (begins : rest.Begins (· == char))
    (apart : Text.isSpace char = false) (spaces : Spaces front)
    (ends : text.head?.any Text.isSpace = false) :
    (Regex.seq (.star true Text.isSpace) rest).run captures ⟨before, front ++ text⟩ next =
      rest.run captures ⟨front.reverse ++ before, text⟩ next := by
  have other : ∀ space, Text.isSpace space → (space == char) = false := by
    intro space isSpace
    rw [beq_eq_false_iff_ne]
    rintro rfl
    rw [isSpace] at apart
    cases apart
  obtain ⟨taken, left⟩ := Regex.takeWhile_append_of_head spaces ends
  rw [Regex.run_star_seq begins other]
  simp only [taken, left]

private theorem run_one_seq {rest : Regex} {char : Char} :
    (Regex.seq (.one (· == char)) rest).run captures ⟨before, char :: text⟩ next =
      rest.run captures ⟨char :: before, text⟩ next := if_pos (beq_self_eq_true char)

private theorem eq_cons_of_run_one {char : Char} (done : (Regex.one (· == char)).run captures
    ⟨before, text⟩ next = some found) : ∃ rest, text = char :: rest := by
  cases text with
  | nil => cases done
  | cons other rest =>
      by_cases same : other = char
      · exact ⟨rest, by rw [same]⟩
      · simp [Regex.run, same] at done

private theorem run_header (isHeader : IsHeader head) :
    header.run captures ⟨before, head ++ text⟩ next =
      next captures ⟨head.reverse ++ before, text⟩ := by
  obtain ⟨first, second, spaces, spaces', rfl⟩ := isHeader
  have split : tupleName ++ (first ++ '=' :: (second ++ ['('])) ++ text =
      tupleName ++ (first ++ '=' :: (second ++ '(' :: text)) := by simp
  rw [split, header, Regex.run, Regex.run_literal,
    run_spaces (Regex.begins_one _).seq (by decide) spaces rfl, run_one_seq,
    run_spaces (Regex.begins_one _) (by decide) spaces' rfl]
  refine (Regex.run_one_cons (beq_self_eq_true '(') _ _ _ _).trans ?_
  simp

/-- The header matches nothing but headers. -/
theorem exists_header (done : header.run captures ⟨before, text⟩ next = some found) :
    ∃ head rest, IsHeader head ∧ text = head ++ rest := by
  by_cases named : tupleName <+: text
  · obtain ⟨rest, rfl⟩ := named
    obtain ⟨first, rest', rfl, spaces, ends⟩ := exists_spaces rest
    rw [header, Regex.run, Regex.run_literal,
      run_spaces (Regex.begins_one _).seq (by decide) spaces ends] at done
    obtain ⟨rest'', rfl⟩ : ∃ rest'', rest' = '=' :: rest'' := by
      rw [Regex.run] at done
      exact eq_cons_of_run_one done
    obtain ⟨second, last, rfl, spaces', ends'⟩ := exists_spaces rest''
    rw [run_one_seq, run_spaces (Regex.begins_one _) (by decide) spaces' ends'] at done
    obtain ⟨left, rfl⟩ := eq_cons_of_run_one done
    exact ⟨_, left, ⟨first, second, spaces, spaces', rfl⟩, by simp⟩
  · rw [header, Regex.run, Regex.run_literal_eq_none named] at done
    cases done

/-- White space before the closing parenthesis is taken as a whole. -/
theorem run_blanks (taken : Regex.Cursor → Source) (spaces : Spaces front)
    (ends : text.head?.any Text.isSpace = false) :
    (Regex.star true Text.isSpace).run captures ⟨before, front ++ text⟩
        (fun captures' place' => (Regex.group 4 (.one (· == ')'))).run
          (captures'.assign 3 (taken place')) place' next) =
      (Regex.group 4 (.one (· == ')'))).run
        (captures.assign 3 (taken ⟨front.reverse ++ before, text⟩))
        ⟨front.reverse ++ before, text⟩ next := by
  obtain ⟨all, left⟩ := Regex.takeWhile_append_of_head spaces ends
  have stuck : ∀ before char rest, Text.isSpace char →
      (fun place' : Regex.Cursor => (Regex.group 4 (.one (· == ')'))).run
        (captures.assign 3 (taken place')) place' next) ⟨before, char :: rest⟩ = none := by
    intro before char rest space
    refine (Regex.begins_one (· == ')')).group _ _ _ ?_
    rw [List.head?_cons, Option.any_some, beq_eq_false_iff_ne]
    rintro rfl
    cases space
  refine (Regex.greedy_of_stuck stuck before (front ++ text)).trans ?_
  simp only [all, left]

private theorem run_close :
    (Regex.group 4 (.one (· == ')'))).run captures ⟨before, ')' :: behind⟩ next =
      next (captures.assign 4 [')']) ⟨')' :: before, behind⟩ := by
  refine (Regex.run_one_cons (beq_self_eq_true ')') _ _ _ _).trans ?_
  have captured := Regex.take_length_sub [')'] before
  rw [List.reverse_singleton, List.singleton_append] at captured
  simp only [captured]

private theorem exists_close
    (done : (Regex.group 4 (.one (· == ')'))).run captures ⟨before, text⟩ next =
    some found) : ∃ behind, text = ')' :: behind := by
  have inner : (Regex.one (· == ')')).run captures ⟨before, text⟩ (fun captures' place' =>
    next (captures'.assign 4 (place'.before.take (place'.before.length - before.length)).reverse)
      place') = some found := done
  exact eq_cons_of_run_one inner

private theorem run_optional_cons (char : Char) : (Regex.optional (· == char)).run captures
    ⟨before, char :: text⟩ next = (next captures ⟨char :: before, text⟩).orElse fun _ =>
      next captures ⟨before, char :: text⟩ := if_pos (beq_self_eq_true char)

private theorem run_optional_of_ne {char other : Char} (apart : other ≠ char) :
    (Regex.optional (· == char)).run captures ⟨before, other :: text⟩ next =
      next captures ⟨before, other :: text⟩ := if_neg (by simpa using apart)

/-- The closing part after the comma it may begin with. -/
theorem run_closing_eq : closing.run captures ⟨before, text⟩ next =
    (Regex.optional (· == ',')).run captures ⟨before, text⟩ fun captures' place' =>
      (Regex.star true Text.isSpace).run captures' place' fun captures'' place'' =>
        (Regex.group 4 (.one (· == ')'))).run (captures''.assign 3
          (place''.before.take (place''.before.length - before.length)).reverse) place'' next :=
  rfl

/-- The closing part matches a gap and a parenthesis. -/
theorem run_closing (isGap : IsGap gap) : closing.run captures ⟨before, gap ++ ')' :: behind⟩ next =
    next ((captures.assign 3 gap).assign 4 [')']) ⟨')' :: (gap.reverse ++ before), behind⟩ := by
  obtain ⟨blanks, spaces, same | rfl⟩ := isGap
  · obtain rfl : blanks = gap := same.symm
    have plain : ∃ char rest, blanks ++ ')' :: behind = char :: rest ∧ char ≠ ',' := by
      cases blanks with
      | nil => exact ⟨')', behind, rfl, by decide⟩
      | cons first others =>
          refine ⟨first, others ++ ')' :: behind, rfl, ?_⟩
          rintro rfl
          cases spaces ',' List.mem_cons_self
    obtain ⟨char, rest, split, other⟩ := plain
    have skipped : closing.run captures ⟨before, blanks ++ ')' :: behind⟩ next =
        (Regex.star true Text.isSpace).run captures ⟨before, blanks ++ ')' :: behind⟩
          fun captures'' place'' => (Regex.group 4 (.one (· == ')'))).run (captures''.assign 3
            (place''.before.take (place''.before.length - before.length)).reverse) place''
              next := by
      rw [run_closing_eq, split, run_optional_of_ne other]
    rw [skipped, run_blanks _ spaces rfl, run_close]
    simp only [Regex.take_length_sub]
  · have alone : (Regex.star true Text.isSpace).run captures ⟨before, ',' :: (blanks ++
        ')' :: behind)⟩ (fun captures'' place'' => (Regex.group 4 (.one (· == ')'))).run
          (captures''.assign 3
            (place''.before.take (place''.before.length - before.length)).reverse) place''
              next) = none := by
      have none : Spaces [] := fun _ member => absurd member List.not_mem_nil
      refine (run_blanks _ none (by rfl : Option.any Text.isSpace
        (List.head? (',' :: (blanks ++ ')' :: behind))) = false)).trans ?_
      rfl
    have taken : closing.run captures ⟨before, ',' :: (blanks ++ ')' :: behind)⟩ next =
        (Regex.star true Text.isSpace).run captures ⟨',' :: before, blanks ++ ')' :: behind⟩
          fun captures'' place'' => (Regex.group 4 (.one (· == ')'))).run (captures''.assign 3
            (place''.before.take (place''.before.length - before.length)).reverse) place''
              next := by
      rw [run_closing_eq, run_optional_cons, alone]
      simp
    have captured := Regex.take_length_sub (',' :: blanks) before
    rw [List.reverse_cons, List.append_assoc, List.singleton_append] at captured
    rw [List.cons_append, taken, run_blanks _ spaces rfl, run_close, captured, List.reverse_cons,
      List.append_assoc, List.singleton_append]

private theorem exists_gap (done : closing.run captures ⟨before, text⟩ next = some found) :
    ∃ gap behind, IsGap gap ∧ text = gap ++ ')' :: behind := by
  have blank : ∀ (before' text' : List Char), (Regex.star true Text.isSpace).run captures
      ⟨before', text'⟩ (fun captures'' place'' => (Regex.group 4 (.one (· == ')'))).run
        (captures''.assign 3
          (place''.before.take (place''.before.length - before.length)).reverse) place''
            next) = some found → ∃ blanks behind, Spaces blanks ∧ text' = blanks ++ ')' :: behind := by
    intro before' text' done'
    obtain ⟨front, rest, rfl, spaces, ends⟩ := exists_spaces text'
    rw [run_blanks _ spaces ends] at done'
    obtain ⟨behind, rfl⟩ := exists_close done'
    exact ⟨front, behind, spaces, rfl⟩
  rw [run_closing_eq] at done
  cases text with
  | nil => cases done
  | cons char rest =>
      by_cases comma : char = ','
      · subst comma
        rw [run_optional_cons] at done
        rcases Option.or_eq_some_iff.mp (Option.orElse_eq_or.symm.trans done) with taken | ⟨-, alone⟩
        · obtain ⟨blanks, behind, spaces, rfl⟩ := blank _ _ taken
          exact ⟨',' :: blanks, behind, ⟨blanks, spaces, .inr rfl⟩, rfl⟩
        · obtain ⟨blanks, behind, spaces, split⟩ := blank _ _ alone
          exact ⟨blanks, behind, ⟨blanks, spaces, .inl rfl⟩, split⟩
      · rw [run_optional_of_ne comma] at done
        obtain ⟨blanks, behind, spaces, split⟩ := blank _ _ done
        exact ⟨blanks, behind, ⟨blanks, spaces, .inl rfl⟩, split⟩

private theorem isGap_nil :
    IsGap [] := ⟨[], fun _ member => absurd member List.not_mem_nil, .inl rfl⟩

private theorem not_mem_gap (isGap : IsGap gap) : ')' ∉ gap := by
  intro member
  obtain ⟨blanks, spaces, rfl | rfl⟩ := isGap
  · cases spaces _ member
  · rcases List.mem_cons.mp member with clash | member
    · cases clash
    · cases spaces _ member

/-- The shortest beginning of a text that leaves a gap. -/
theorem exists_body (region : Source) : ∃ body gap, region = body ++ gap ∧ IsGap gap ∧
    ∀ front back, body = front ++ back → back ≠ [] → ¬ IsGap (back ++ gap) := by
  induction region with
  | nil =>
      refine ⟨[], [], rfl, isGap_nil, fun front back split some' => ?_⟩
      exact absurd (List.append_eq_nil_iff.mp split.symm).2 some'
  | cons char rest ih =>
      by_cases whole : IsGap (char :: rest)
      · refine ⟨[], _, rfl, whole, fun front back split some' => ?_⟩
        exact absurd (List.append_eq_nil_iff.mp split.symm).2 some'
      · obtain ⟨body, gap, rfl, isGap, shortest⟩ := ih
        refine ⟨char :: body, gap, rfl, isGap, fun front back split some' => ?_⟩
        cases front with
        | nil =>
            obtain rfl : char :: body = back := split
            exact whole
        | cons other front =>
            obtain ⟨rfl, split'⟩ := List.cons_eq_cons.mp split
            exact shortest front back split' some'

/-- Texts are divided by the first occurrence of a character in one way only. -/
theorem append_cons_inj {char : Char} {first second rest rest' : Source} (absent : char ∉ first)
    (absent' : char ∉ second) (same : first ++ char :: rest = second ++ char :: rest') :
    first = second ∧ rest = rest' := by
  induction first generalizing second with
  | nil =>
      cases second with
      | nil => exact ⟨rfl, (List.cons_eq_cons.mp same).2⟩
      | cons other others =>
          exact absurd ((List.cons_eq_cons.mp same).1 ▸ List.mem_cons_self) absent'
  | cons other others ih =>
      cases second with
      | nil => exact absurd ((List.cons_eq_cons.mp same).1 ▸ List.mem_cons_self) absent
      | cons other' others' =>
          obtain ⟨rfl, same'⟩ := List.cons_eq_cons.mp same
          obtain ⟨rfl, rfl⟩ := ih (fun member => absent (List.mem_cons_of_mem _ member))
            (fun member => absent' (List.mem_cons_of_mem _ member)) same'
          exact ⟨rfl, rfl⟩

/-- What the expression takes of a text that begins with a header: the shortest body that
leaves a gap before the next closing parenthesis. -/
structure Stretch (text : Source) where
  head : Source
  body : Source
  gap : Source
  behind : Source
  whole : text = head ++ (body ++ (gap ++ ')' :: behind))
  isHeader : IsHeader head
  isGap : IsGap gap
  inner : ')' ∉ body
  shortest : ∀ front back, body = front ++ back → back ≠ [] → ¬ IsGap (back ++ gap)

/-- The match of a stretch after some text. -/
def Stretch.toMatch {text : Source} (stretch : Stretch text) (before : List Char) :
    Regex.Match where
  start := ⟨before, text⟩
  stop := ⟨')' :: (stretch.gap.reverse ++ (stretch.body.reverse ++
    (stretch.head.reverse ++ before))), stretch.behind⟩
  captures := (((Dict.assign [] 1 stretch.head).assign 2 stretch.body).assign 3
    stretch.gap).assign 4 [')']

private theorem matchAt_stretch (stretch : Stretch text) (before : List Char) :
    pattern.matchAt ⟨before, text⟩ = some (stretch.toMatch before) := by
  obtain ⟨head, body, gap, behind, rfl, isHeader, isGap, inner, shortest⟩ := stretch
  have early : ∀ front back, body = front ++ back → back ≠ [] →
      ∀ captures before (next : Regex.Captures → Regex.Cursor → Option Regex.Match),
        closing.run captures ⟨before, back ++ (gap ++ ')' :: behind)⟩ next = none := by
    intro front back split some' captures before next
    cases done : closing.run captures ⟨before, back ++ (gap ++ ')' :: behind)⟩ next with
    | none => rfl
    | some found =>
        obtain ⟨gap', behind', isGap', split'⟩ := exists_gap done
        have absent : ')' ∉ back ++ gap := by
          rw [List.mem_append, not_or]
          exact ⟨fun member => inner (split ▸ List.mem_append_right _ member), not_mem_gap isGap⟩
        rw [← List.append_assoc] at split'
        obtain ⟨same, -⟩ := append_cons_inj absent (not_mem_gap isGap') split'
        exact absurd (same ▸ isGap') (shortest front back split some')
  rw [pattern, Regex.matchAt, Regex.run, Regex.run, run_header isHeader]
  refine Regex.lazy_of_first (head.reverse ++ before) ?_ (fun front back split some' => ?_) ?_
  · intro char member
    simpa using fun same : char = ')' => inner (same ▸ member)
  · exact early front back split some' _ _ _
  · refine (run_closing isGap).trans ?_
    simp only [Regex.take_length_sub]
    rfl

/-- There is a stretch wherever a parenthesis stands after a header. -/
theorem nonempty_stretch {rest : Source} (isHeader : IsHeader head) (closed : ')' ∈ rest) :
    Nonempty (Stretch (head ++ rest)) := by
  obtain ⟨region, behind, rfl, absent⟩ := List.eq_append_cons_of_mem closed
  obtain ⟨body, gap, rfl, isGap, shortest⟩ := exists_body region
  exact ⟨⟨head, body, gap, behind, by simp, isHeader, isGap,
    fun member => absent (List.mem_append_left _ member), shortest⟩⟩

/-- The expression matches nothing but stretches. -/
theorem exists_stretch {before : List Char} (here : pattern.matchAt ⟨before, text⟩ = some found) :
    ∃ stretch : Stretch text, found = stretch.toMatch before := by
  have parts := here
  rw [pattern, Regex.matchAt, Regex.run, Regex.run] at parts
  obtain ⟨head, rest, isHeader, rfl⟩ := exists_header parts
  rw [run_header isHeader] at parts
  by_cases closed : ')' ∈ rest
  · obtain ⟨stretch⟩ := nonempty_stretch isHeader closed
    exact ⟨stretch, Option.some.inj (here.symm.trans (matchAt_stretch stretch before))⟩
  · have fails : ∀ front back, rest = front ++ back →
        ∀ captures before (next : Regex.Captures → Regex.Cursor → Option Regex.Match),
          closing.run captures ⟨before, back⟩ next = none := by
      intro front back split captures before next
      cases done : closing.run captures ⟨before, back⟩ next with
      | none => rfl
      | some found =>
          obtain ⟨gap, behind, -, rfl⟩ := exists_gap done
          exact absurd (by simp [split]) closed
    have unmatched : (Regex.seq (.group 2 (.star false (· != ')'))) closing).run
        (Dict.assign [] 1 ((head.reverse ++ before).take
          ((head.reverse ++ before).length - before.length)).reverse)
        ⟨head.reverse ++ before, rest⟩ (fun captures stop =>
          some (⟨⟨before, head ++ rest⟩, stop, captures⟩ : Regex.Match)) = none :=
      Regex.lazy_eq_none _ _ fun front back split => fails front back split _ _ _
    cases unmatched.symm.trans parts

/-- The first place of a text at which the expression matches. -/
structure Place (text : Source) where
  front : Source
  rest : Source
  whole : text = front ++ rest
  stretch : Stretch rest
  earliest : ∀ early late head rest', front = early ++ late → late ≠ [] → IsHeader head →
    late ++ rest ≠ head ++ rest'

def Place.toMatch {text : Source} (place : Place text) : Regex.Match :=
  place.stretch.toMatch place.front.reverse

private theorem not_mem_header (isHeader : IsHeader head) : ')' ∉ head := by
  obtain ⟨first, second, spaces, spaces', rfl⟩ := isHeader
  have space : Text.isSpace ')' = false := by decide
  have name : ')' ∉ tupleName := by decide
  have absent : ∀ {blanks : Source}, Spaces blanks → ')' ∉ blanks := by
    intro blanks spaces member
    rw [spaces _ member] at space
    cases space
  simp [name, absent spaces, absent spaces']

private theorem search_place (place : Place text) : pattern.search text = some place.toMatch := by
  obtain ⟨front, rest, rfl, stretch, earliest⟩ := place
  refine Regex.searchFrom_eq_some_iff.mpr ⟨front, rest, rfl, ?_, ?_⟩
  · rw [List.append_nil]
    exact matchAt_stretch stretch _
  · intro early late split some'
    cases here : pattern.matchAt ⟨early.reverse ++ [], late ++ rest⟩ with
    | none => rfl
    | some found =>
        obtain ⟨other, -⟩ := exists_stretch here
        exact absurd other.whole (earliest early late _ _ split some' other.isHeader)

/-- A match of the pattern is a place in the file. -/
theorem exists_place (here : pattern.search text = some found) :
    ∃ place : Place text, found = place.toMatch := by
  obtain ⟨front, rest, rfl, matched, earlier⟩ := Regex.searchFrom_eq_some_iff.mp here
  rw [List.append_nil] at matched
  obtain ⟨stretch, rfl⟩ := exists_stretch matched
  refine ⟨⟨front, rest, rfl, stretch, ?_⟩, rfl⟩
  intro early late head rest' split some' isHeader same
  have closed : ')' ∈ rest' := by
    have member : ')' ∈ late ++ rest := by simp [stretch.whole]
    rw [same] at member
    exact (List.mem_append.mp member).resolve_left (not_mem_header isHeader)
  obtain ⟨other⟩ := nonempty_stretch isHeader closed
  rw [← same] at other
  cases (earlier early late split some').symm.trans (matchAt_stretch other _)

/-- The groups of a match are the head, the body and the parenthesis. -/
theorem group_toMatch (place : Place text) :
    group place.toMatch 1 = place.stretch.head ∧ group place.toMatch 2 = place.stretch.body ∧
      group place.toMatch 4 = [')'] := by
  simp [group, Place.toMatch, Stretch.toMatch, Dict.get?_assign]

/-- The patched file: only the body of the tuple is new. -/
theorem patched_toMatch (word : Char → Bool) (place : Place text) :
    patched word place.toMatch = place.front ++ (place.stretch.head ++
      (newBody word place.stretch.body ++ ')' :: place.stretch.behind)) := by
  obtain ⟨head, body, close⟩ := group_toMatch place
  rw [patched, head, body, close]
  simp [Place.toMatch, Stretch.toMatch]

end Pattern

/-! ## What is kept of the body -/

section Body

variable {word : Char → Bool} {text body gap : Source}

/-- A text is what is left of it and the blanks at its end. -/
theorem exists_rstrip (text : Source) : ∃ blanks, text = rstrip text ++ blanks ∧ Spaces blanks ∧
    (rstrip text).getLast?.any Text.isSpace = false := by
  obtain ⟨front, rest, split, spaces, ends⟩ := exists_spaces text.reverse
  have dropped : rstrip text = rest.reverse := by
    rw [rstrip, split, (Regex.takeWhile_append_of_head spaces ends).2]
  have whole : text = rest.reverse ++ front.reverse := by
    rw [← List.reverse_append, ← split, List.reverse_reverse]
  refine ⟨front.reverse, by rw [dropped, ← whole], ?_, ?_⟩
  · exact fun char member => spaces char (List.mem_reverse.mp member)
  · rw [dropped, List.getLast?_reverse]
    exact ends

private theorem isSeparator_of_mem_gap (isGap : IsGap gap) :
    (∀ char ∈ gap, PythonTuple.isSeparator char) ∧ gap.count ',' ≤ 1 := by
  obtain ⟨blanks, spaces, same⟩ := isGap
  have absent : blanks.count ',' = 0 := by
    refine List.count_eq_zero.mpr fun member => ?_
    cases spaces _ member
  have separators : ∀ char ∈ blanks, PythonTuple.isSeparator char := by
    intro char member
    simp [PythonTuple.isSeparator, spaces char member]
  rcases same with rfl | rfl
  · exact ⟨separators, by omega⟩
  · refine ⟨fun char member => ?_, by simp [absent]⟩
    rcases List.mem_cons.mp member with rfl | member
    · rfl
    · exact separators char member

/-- What a stretch does not keep: white space and one comma, and a comma unless there is none. -/
theorem Stretch.exists_dropped (stretch : Stretch text) :
    ∃ dropped, stretch.body ++ stretch.gap = rstrip stretch.body ++ dropped ∧
      (∀ char ∈ dropped, PythonTuple.isSeparator char) ∧ dropped.count ',' ≤ 1 ∧
      (dropped.count ',' = 0 → (rstrip stretch.body).getLast? ≠ some ',') := by
  obtain ⟨head, body, gap, behind, -, isHeader, isGap, inner, shortest⟩ := stretch
  obtain ⟨blanks, whole, spaces, -⟩ := exists_rstrip body
  obtain ⟨separators, once⟩ := isSeparator_of_mem_gap isGap
  have absent : blanks.count ',' = 0 := by
    refine List.count_eq_zero.mpr fun member => ?_
    cases spaces _ member
  refine ⟨blanks ++ gap, ?_, ?_, by simp [absent, once], ?_⟩
  · rw [← List.append_assoc, ← whole]
  · intro char member
    rcases List.mem_append.mp member with early | late
    · simp [PythonTuple.isSeparator, spaces char early]
    · exact separators char late
  · -- a comma at the end of what is kept would belong to the gap
    intro count last
    obtain ⟨front, kept⟩ := List.getLast?_eq_some_iff.mp last
    have gapless : gap.count ',' = 0 := by
      rw [List.count_append] at count
      omega
    have plain : Spaces gap := by
      obtain ⟨blanks', spaces', rfl | rfl⟩ := isGap
      · exact spaces'
      · simp at gapless
    refine shortest front (',' :: blanks) ?_ (List.cons_ne_nil _ _) ⟨blanks ++ gap, ?_, .inr rfl⟩
    · rw [whole, kept]
      simp
    · intro char member
      exact (List.mem_append.mp member).elim (spaces char) (plain char)

/-! The quote of the last entry is a quote. -/

private theorem mem_findAllFrom {regex : Regex} {fuel : Nat} {place : Regex.Cursor}
    {found : Regex.Match}
    (member : found ∈ regex.findAllFrom fuel place) :
    ∃ start, regex.matchAt start = some found := by
  induction fuel generalizing place with
  | zero => cases member
  | succ fuel ih =>
      rw [Regex.findAllFrom] at member
      cases here : regex.searchFrom place.before place.after with
      | none => simp [here] at member
      | some first =>
          rw [here] at member
          rcases List.mem_cons.mp member with rfl | member
          · obtain ⟨front, after, -, matched, -⟩ := Regex.searchFrom_eq_some_iff.mp here
            exact ⟨_, matched⟩
          · exact ih member

private theorem group_entry {start : Regex.Cursor} {found : Regex.Match}
    (matched : (entryPattern word).matchAt start = some found) :
    ∃ quote, isQuoteMark quote ∧ group found 1 = [quote] := by
  obtain ⟨before, after⟩ := start
  cases after with
  | nil => cases matched
  | cons char rest =>
      by_cases quote : isQuoteMark char = true
      · have captured := Regex.take_length_sub [char] before
        rw [List.reverse_singleton, List.singleton_append] at captured
        have rest' : (Regex.seq (.group 2 (.plus word)) (.back 1)).run (Dict.assign [] 1 [char])
            ⟨char :: before, rest⟩ (fun captures stop =>
              some (⟨⟨before, char :: rest⟩, stop, captures⟩ : Regex.Match)) = some found := by
          have taken := matched
          rw [entryPattern, Regex.matchAt, Regex.run, Regex.run, Regex.run_one_cons quote] at taken
          simpa only [captured] using taken
        obtain ⟨captures, stop, last, kept⟩ := Regex.run_reaches rest'
        cases last
        refine ⟨char, quote, ?_⟩
        have one := kept 1 (by simp [Regex.names, Regex.plus])
        rw [group, one]
        rfl
      · have failed : (entryPattern word).matchAt ⟨before, char :: rest⟩ = none := if_neg quote
        cases failed.symm.trans matched

/-- The quote taken from the body is one of the two. -/
theorem exists_lastQuote (word : Char → Bool) (body : Source) :
    ∃ quote : PythonTuple.Quote, lastQuote word body = [quote.char] := by
  have named : ∃ char, isQuoteMark char ∧ lastQuote word body = [char] := by
    rw [lastQuote]
    cases last : ((entryPattern word).findAll body).getLast? with
    | none => exact ⟨'\'', rfl, rfl⟩
    | some found =>
        obtain ⟨start, matched⟩ := mem_findAllFrom (List.mem_of_getLast? last)
        exact group_entry matched
  obtain ⟨char, isQuote, same⟩ := named
  rcases Bool.or_eq_true_iff.mp isQuote with single | double
  · exact ⟨.single, by rw [same, eq_of_beq single]; rfl⟩
  · exact ⟨.double, by rw [same, eq_of_beq double]; rfl⟩

end Body

/-! ## Lines -/

section Lines

variable {front text : Source}

/-- Universal newlines leave no carriage return. -/
theorem not_mem_newlines (text : Source) : '\r' ∉ newlines text := by
  fun_induction newlines text with
  | case1 rest ih => simpa using ih
  | case2 rest _ ih => simpa using ih
  | case3 char rest _ apart ih => exact List.not_mem_cons_of_ne_of_not_mem (Ne.symm apart) ih
  | case4 => simp

/-- Universal newlines leave a text without carriage returns. -/
theorem newlines_of_not_mem (absent : '\r' ∉ text) : newlines text = text := by
  fun_induction newlines text with
  | case1 rest ih => simp at absent
  | case2 rest _ ih => simp at absent
  | case3 char rest _ other ih => rw [ih (fun member => absent (List.mem_cons_of_mem _ member))]
  | case4 => rfl

/-- Universal newlines leave every other character. -/
theorem newlines_cons {char : Char} (other : char ≠ '\r') :
    newlines (char :: text) = char :: newlines text :=
  newlines.eq_3 char text (fun _ same _ => other same) other

/-- A carriage return by itself becomes a line feed. -/
theorem newlines_return (alone : text.head? ≠ some '\n') :
    newlines ('\r' :: text) = '\n' :: newlines text :=
  newlines.eq_2 text fun rest same => alone (by rw [same]; rfl)

/-- Texts are read one after the other unless a line break is divided. -/
theorem newlines_append {char : Char} (apart : char ≠ '\n') (front text : Source) :
    newlines (front ++ char :: text) = newlines front ++ newlines (char :: text) := by
  fun_induction newlines front with
  | case1 rest ih => simp [newlines, ih]
  | case2 rest alone ih =>
      have alone' : (rest ++ char :: text).head? ≠ some '\n' := by
        cases rest with
        | nil => simpa using apart
        | cons other others => simpa using fun same => alone others (by rw [same])
      rw [List.cons_append, newlines_return alone', ih]
      rfl
  | case3 first rest _ other ih =>
      rw [List.cons_append, newlines_cons other, ih]
      rfl
  | case4 => rfl

end Lines

/-! ## A file that was patched -/

section Patched

variable {word : Char → Bool} {text body : Source}

/-- The indentation is blank. -/
theorem spaces_indent (body : Source) : Spaces (indent body) := by
  rw [indent]
  by_cases empty : indentOf (rstrip body) = []
  · rw [if_pos empty]
    intro char member
    rw [List.eq_of_mem_replicate member]
    rfl
  · rw [if_neg empty]
    exact fun char member => List.mem_takeWhile_imp member

private theorem mem_of_mem_indent {char : Char} (member : char ∈ indent body) :
    char = ' ' ∨ char ∈ body := by
  rw [indent] at member
  by_cases empty : indentOf (rstrip body) = []
  · rw [if_pos empty] at member
    exact .inl (List.eq_of_mem_replicate member)
  · rw [if_neg empty] at member
    have inLine := (List.takeWhile_sublist _).mem member
    have inKept := (List.takeWhile_sublist _).mem (List.mem_reverse.mp inLine)
    obtain ⟨blanks, whole, -, -⟩ := exists_rstrip body
    rw [whole]
    exact .inr (List.mem_append_left _ (List.mem_reverse.mp inKept))

/-- What is put before the new entry only separates. -/
theorem isSeparator_of_mem_separation {char : Char} (member : char ∈ separation word body) :
    PythonTuple.isSeparator char := by
  rw [separation] at member
  by_cases long : overlong word body = true
  · rw [if_pos long] at member
    rcases List.mem_cons.mp member with rfl | member
    · rfl
    rcases List.mem_cons.mp member with rfl | member
    · rfl
    · simp [PythonTuple.isSeparator, spaces_indent body char member]
  · rw [if_neg long] at member
    rcases List.mem_cons.mp member with rfl | member
    · rfl
    · rw [List.mem_singleton.mp member]
      rfl

/-- The characters of the new body. -/
theorem mem_newBody {char : Char} (member : char ∈ newBody word body) :
    char ∈ body ∨ char ∈ [',', '\n', ' ', '\'', '"'] ∨ char ∈ marker := by
  obtain ⟨blanks, whole, -, -⟩ := exists_rstrip body
  obtain ⟨quote, last⟩ := exists_lastQuote word body
  rw [newBody, addition, last] at member
  rcases List.mem_append.mp member with early | late
  · rcases List.mem_append.mp early with kept | between
    · rw [whole]
      exact .inl (List.mem_append_left _ kept)
    · rw [separation] at between
      by_cases long : overlong word body = true
      · rw [if_pos long] at between
        rcases List.mem_cons.mp between with rfl | between
        · simp
        rcases List.mem_cons.mp between with rfl | between
        · simp
        rcases mem_of_mem_indent between with rfl | inBody
        · simp
        · exact .inl inBody
      · rw [if_neg long] at between
        simp only [List.mem_cons, List.not_mem_nil, or_false] at between
        rcases between with rfl | rfl <;> simp
  · simp only [List.mem_append, List.mem_singleton] at late
    rcases late with (rfl | named) | rfl
    · cases quote <;> simp [PythonTuple.Quote.char]
    · exact .inr (.inr named)
    · cases quote <;> simp [PythonTuple.Quote.char]

private theorem mentions_newBody (word : Char → Bool) (body : Source) :
    mentions (newBody word body) := by
  obtain ⟨quote, last⟩ := exists_lastQuote word body
  have isQuote : isQuoteMark quote.char := by cases quote <;> rfl
  rw [mentions, newBody, addition, last, Regex.search]
  refine Regex.isSome_searchFrom ?_
  have here : ∀ before : List Char, (markerPattern.matchAt
      ⟨before, [quote.char] ++ marker ++ [quote.char]⟩).isSome := by
    intro before
    rw [markerPattern, Regex.matchAt, Regex.run, List.append_assoc, List.singleton_append,
      Regex.run_one_cons isQuote, Regex.run, Regex.run_literal, Regex.run_one_cons isQuote]
    rfl
  exact here _

/-- The head of the tuple ends with its only parenthesis. -/
theorem exists_header_init {head : Source} (isHeader : IsHeader head) :
    ∃ front, head = front ++ ['('] ∧ '(' ∉ front := by
  obtain ⟨first, second, spaces, spaces', rfl⟩ := isHeader
  have absent : ∀ {blanks : Source}, Spaces blanks → '(' ∉ blanks := by
    intro blanks spaces member
    cases spaces _ member
  refine ⟨tupleName ++ (first ++ '=' :: second), by simp, ?_⟩
  have name : '(' ∉ tupleName := by decide
  simp [name, absent spaces, absent spaces']

/-- The expression finds a file that was patched at the same place. -/
def Place.again (word : Char → Bool) (place : Place text) :
    Place (patched word place.toMatch) where
  front := place.front
  rest := place.stretch.head ++ (newBody word place.stretch.body ++ ')' :: place.stretch.behind)
  whole := patched_toMatch word place
  stretch :=
    { head := place.stretch.head
      body := newBody word place.stretch.body
      gap := []
      behind := place.stretch.behind
      whole := rfl
      isHeader := place.stretch.isHeader
      isGap := isGap_nil
      inner := by
        intro member
        rcases mem_newBody member with inBody | clash | clash
        · exact place.stretch.inner inBody
        · simp at clash
        · simp [marker] at clash
      shortest := by
        intro front back split some' isGap
        obtain ⟨quote, last⟩ := exists_lastQuote word place.stretch.body
        have end' : (newBody word place.stretch.body).getLast? = some quote.char := by
          rw [newBody, addition, last, ← List.append_assoc, List.getLast?_concat]
        have member : quote.char ∈ back ++ [] := by
          rw [split, List.getLast?_append_of_ne_nil _ some'] at end'
          rw [List.append_nil]
          exact List.mem_of_getLast? end'
        have separator := (isSeparator_of_mem_gap isGap).1 _ member
        cases quote <;> cases separator }
  earliest := by
    intro early late head rest' split some' isHeader same
    obtain ⟨front, shape, absent⟩ := exists_header_init isHeader
    obtain ⟨front', shape', -⟩ := exists_header_init place.stretch.isHeader
    obtain ⟨first, more, split', absent'⟩ :=
      List.eq_append_cons_of_mem (by simp [shape'] : '(' ∈ late ++ place.stretch.head)
    -- a header ends at the first parenthesis, which was there before
    have whole : first ++ '(' :: (more ++ (newBody word place.stretch.body ++
        ')' :: place.stretch.behind)) = front ++ '(' :: rest' := by
      rw [← List.append_assoc, split', shape] at same
      simpa using same
    obtain ⟨rfl, -⟩ := append_cons_inj absent' absent whole
    refine place.earliest early late head (more ++ (place.stretch.body ++ (place.stretch.gap ++
      ')' :: place.stretch.behind))) split some' isHeader ?_
    refine (congrArg (late ++ ·) place.stretch.whole).trans ?_
    rw [← List.append_assoc, split', shape]
    simp

/-- Patching a file without carriage returns adds none. -/
theorem not_mem_patched (absent : '\r' ∉ text) (place : Place text) :
    '\r' ∉ patched word place.toMatch := by
  rw [place.whole, place.stretch.whole] at absent
  rw [patched_toMatch]
  simp only [List.mem_append, List.mem_cons, not_or] at absent ⊢
  obtain ⟨inFront, inHead, inBody, -, close, inBehind⟩ := absent
  refine ⟨inFront, inHead, fun member => ?_, close, inBehind⟩
  rcases mem_newBody member with kept | clash | clash
  · exact inBody kept
  · simp at clash
  · simp [marker] at clash

section Runs

variable {file : Source}

/-- A file in which the tuple was found and the marker was not is patched. -/
theorem main_patches (word : Char → Bool) (script path : String) (read : newlines file = text)
    (place : Place text) (absent : mentions place.stretch.body = false) :
    (main word [script, path] file).code = 0 ∧
      (main word [script, path] file).file = patched word place.toMatch := by
  subst read
  have again := search_place (place.again word)
  have named := (group_toMatch (place.again word)).2.1
  have same : newlines (patched word place.toMatch) = patched word place.toMatch :=
    newlines_of_not_mem (not_mem_patched (not_mem_newlines file) place)
  simp only [main, search_place place, (group_toMatch place).2.1, absent, Bool.false_eq_true,
    ↓reduceIte, same, again, named]
  simp [Place.again, mentions_newBody]

/-- A file that names the marker where the tuple was found is left as it is. -/
theorem main_keeps (word : Char → Bool) (script path : String) (read : newlines file = text)
    (place : Place text) (named : mentions place.stretch.body) :
    (main word [script, path] file).code = 0 ∧ (main word [script, path] file).file = file := by
  subst read
  simp only [main, search_place place, (group_toMatch place).2.1, named, ↓reduceIte,
    and_self]

/-- Without the tuple nothing is written. -/
theorem main_fails (word : Char → Bool) (script path : String)
    (missing : pattern.search (newlines file) = none) :
    (main word [script, path] file).code = 1 ∧ (main word [script, path] file).file = file := by
  simp only [main, missing, and_self]

/-- Running the script again changes nothing. -/
theorem main_main (word : Char → Bool) (script path : String) (file : Source) :
    (main word [script, path] (main word [script, path] file).file).file =
      (main word [script, path] file).file := by
  cases found : pattern.search (newlines file) with
  | none =>
      obtain ⟨-, kept⟩ := main_fails word script path found
      rw [kept, kept]
  | some match' =>
      obtain ⟨place, rfl⟩ := exists_place found
      cases named : mentions place.stretch.body with
      | true =>
          obtain ⟨-, kept⟩ := main_keeps word script path rfl place named
          rw [kept, kept]
      | false =>
          obtain ⟨-, written⟩ := main_patches word script path rfl place named
          have same : newlines (patched word place.toMatch) = patched word place.toMatch :=
            newlines_of_not_mem (not_mem_patched (not_mem_newlines file) place)
          rw [written]
          exact (main_keeps word script path same (place.again word)
            (mentions_newBody word place.stretch.body)).2

end Runs

end Patched

end ProtocolPatch

end WekaShareDriver
