import WekaShareDriver.ProtocolTuple

/-! # The constants of Manila after the patch

A `constants.py` is what stands before the tuple of the supported protocols, the tuple and
what stands after it; Python reads its entries. The script supports WEKAFS if, whenever it
reports success, what stands around the tuple is what it was, Python reads the old entries
and then the marker if it was not among them, and a second run changes nothing.

The expression of the script knows nothing of comments and literals. The parenthesis it
finds may stand in one of them, and what it keeps of the tuple may end in a comment, so that
the new entry becomes part of the comment, and with it the parenthesis that closes the tuple.
`WekaShareDriver.ProtocolPatch.supports_iff` says for which files it does what it is for.
-/

namespace WekaShareDriver.ProtocolPatch

open Foundation
open PythonTuple (Mark Mode Value feed lex points)

section Constants

variable (database : List Char → Option Nat)

/-- Python reads a text as a tuple of string literals, from its opening parenthesis to its
closing one. -/
def ReadsAs (tuple : Source) (entries : List Value) : Prop :=
  ∃ inner, newlines tuple = '(' :: inner ∧
    PythonTuple.read database inner = some (entries, [])

/-- A `constants.py`: the text up to the tuple, the assignment included, the tuple and the text
after it. -/
structure Constants where
  before : Source
  tuple : Source
  after : Source
  entries : List Value
  reads : ReadsAs database tuple entries

def Constants.text {database : List Char → Option Nat} (constants : Constants database) :
    Source := constants.before ++ (constants.tuple ++ constants.after)

variable {database} (word : Char → Bool)

/-- A file is the constants with a tuple that supports the marker. -/
def Supported (constants : Constants database) (file : Source) : Prop :=
  ∃ tuple, file = constants.before ++ (tuple ++ constants.after) ∧
    ReadsAs database tuple (supported constants.entries)

/-- Success means that Manila supports WEKAFS and nothing else changed. -/
def Supports (script path : String) (constants : Constants database) : Prop :=
  let run := main word [script, path] constants.text
  run.code = 0 → Supported constants run.file ∧
    (main word [script, path] run.file).file = run.file

/-- The text that is kept up to the new entry. -/
def kept (found : Regex.Match) : Source :=
  found.start.before.reverse ++ (group found 1 ++ rstrip (group found 2))

/-- The new entry becomes one of the tuple: what is kept ends with a literal, or the entry
stands on a line of its own behind a comment that a comma stands before. -/
def Extends (body : Source) (marks : List Mark) (mode : Mode) : Prop :=
  (overlong word body → ∀ char ∈ indent body, PythonTuple.isBlank char) ∧
    (mode.settled ∨ mode = .comment ∧ overlong word body ∧ marks.getLast? = some .comma)

/-- What the script is given lets it do what it is for: where the expression finds something,
it finds the marker exactly if that is an entry, or the parenthesis it finds closes the tuple
and the new entry becomes one of it, or all of the new entry becomes part of a comment of a
tuple that has the marker elsewhere. -/
def Patchable (constants : Constants database) : Prop :=
  ∀ found, pattern.search (newlines constants.text) = some found →
    mentions (group found 2) ∧ markerValue ∈ constants.entries ∨
    mentions (group found 2) = false ∧ '\r' ∉ constants.before ∧ '\r' ∉ constants.after ∧
      ∃ lead marks mode, kept found = constants.before ++ '(' :: lead ∧
        feed database .layout lead = some (marks, mode) ∧
        (found.stop.after = constants.after ∧ markerValue ∉ constants.entries ∧
            Extends word (group found 2) marks mode ∨
          constants.after.length < found.stop.after.length ∧ mode = .comment ∧
            overlong word (group found 2) = false ∧ markerValue ∈ constants.entries)

end Constants

/-! ## The tuple in the text -/

section Text

variable {database : List Char → Option Nat} {word : Char → Bool} {text front back after : Source}
  {entries : List Value}

private theorem exists_of_newlines {char : Char} (apart : char ≠ '\n')
    (read : newlines text = front ++ char :: back) :
    ∃ front' back', text = front' ++ char :: back' ∧ newlines front' = front ∧
      newlines back' = back := by
  fun_induction newlines text generalizing front with
  | case1 rest ih =>
      cases front with
      | nil => exact absurd (List.cons_eq_cons.mp read).1.symm apart
      | cons first others =>
          obtain ⟨rfl, read'⟩ := List.cons_eq_cons.mp read
          obtain ⟨front', back', rfl, rfl, rfl⟩ := ih read'
          exact ⟨'\r' :: '\n' :: front', back', rfl, rfl, rfl⟩
  | case2 rest alone ih =>
      cases front with
      | nil => exact absurd (List.cons_eq_cons.mp read).1.symm apart
      | cons first others =>
          obtain ⟨rfl, read'⟩ := List.cons_eq_cons.mp read
          obtain ⟨front', back', rfl, rfl, rfl⟩ := ih read'
          refine ⟨'\r' :: front', back', rfl, newlines_return fun line => ?_, rfl⟩
          cases front' with
          | nil => cases line
          | cons other others =>
              obtain rfl : other = '\n' := by simpa using line
              exact alone (others ++ char :: back') rfl
  | case3 first rest _ other ih =>
      cases front with
      | nil =>
          obtain ⟨rfl, rfl⟩ := List.cons_eq_cons.mp read
          exact ⟨[], rest, rfl, rfl, rfl⟩
      | cons first' others =>
          obtain ⟨rfl, read'⟩ := List.cons_eq_cons.mp read
          obtain ⟨front', back', rfl, rfl, rfl⟩ := ih read'
          exact ⟨first :: front', back', rfl, newlines_cons other, rfl⟩
  | case4 => simp at read

/-- A tuple and how Python reads it. -/
theorem exists_inner {tuple : Source} (reads : ReadsAs database tuple entries) :
    ∃ inner marks close, newlines tuple = '(' :: (inner ++ [')']) ∧
      feed database .layout inner = some (marks, close) ∧ close.settled ∧
      PythonTuple.assemble [] none marks = some entries := by
  obtain ⟨inner, whole, read⟩ := reads
  obtain ⟨marks, lexed, assembled⟩ := PythonTuple.read_eq_some_iff.mp read
  obtain ⟨front, close, rfl, fed, settled⟩ := PythonTuple.lex_eq_some lexed
  exact ⟨front, marks, close, whole, fed, settled, assembled⟩

private theorem newlines_eq_nil (empty : newlines text = []) : text = [] := by
  fun_induction newlines text with
  | case4 => rfl
  | _ => cases empty

private theorem Constants.newlines_text (constants : Constants database) : newlines constants.text =
    newlines constants.before ++ (newlines constants.tuple ++ newlines constants.after) := by
  obtain ⟨inner, -, -, whole, -⟩ := exists_inner constants.reads
  have begins : newlines constants.tuple = [] ++ '(' :: (inner ++ [')']) := whole
  have ends : newlines constants.tuple = ('(' :: inner) ++ ')' :: [] := whole
  obtain ⟨front, rest, opens, empty, -⟩ := exists_of_newlines (by decide) begins
  obtain ⟨front', rest', closes, -, empty'⟩ := exists_of_newlines (by decide) ends
  obtain rfl := newlines_eq_nil empty
  obtain rfl := newlines_eq_nil empty'
  have first : newlines constants.text =
      newlines constants.before ++ newlines (constants.tuple ++ constants.after) := by
    rw [Constants.text, opens]
    exact newlines_append (by decide) _ _
  have second : newlines (constants.tuple ++ constants.after) =
      newlines constants.tuple ++ newlines constants.after := by
    rw [closes, List.append_assoc, List.singleton_append, newlines_append (by decide),
      newlines_append (by decide), newlines_cons (by decide), newlines_cons (by decide)]
    simp [newlines]
  rw [first, second]

private theorem exists_of_append_eq {char : Char} {dropped more kept before : Source}
    (absent : char ∉ dropped) (same : kept ++ dropped = before ++ char :: more) :
    ∃ lead, kept = before ++ char :: lead ∧ more = lead ++ dropped := by
  rcases List.append_eq_append_iff.mp same with ⟨gap, -, late⟩ | ⟨gap, early, late⟩
  · exact absurd (late ▸ List.mem_append_right gap List.mem_cons_self) absent
  · cases gap with
    | nil =>
        rw [List.nil_append] at late
        exact absurd (late ▸ List.mem_cons_self) absent
    | cons first lead =>
        obtain ⟨rfl, late'⟩ := List.cons_eq_cons.mp late
        exact ⟨lead, early, late'⟩

/-- What comes first of two divisions of a text at an opening and at a closing parenthesis. -/
theorem located {dropped inner behind before kept : Source} (open' : '(' ∉ dropped)
    (close : ')' ∉ dropped) (same : kept ++ (dropped ++ ')' :: behind) =
      before ++ '(' :: (inner ++ ')' :: after)) :
    (∃ more, before = kept ++ (dropped ++ ')' :: more)) ∨
    (∃ lead, kept = before ++ '(' :: lead ∧ inner = lead ++ dropped ∧ behind = after) ∨
    (∃ lead more, kept = before ++ '(' :: lead ∧ inner = lead ++ (dropped ++ ')' :: more) ∧
      behind = more ++ ')' :: after) ∨
    ∃ more, kept = before ++ '(' :: (inner ++ ')' :: more) ∧
      after = more ++ (dropped ++ ')' :: behind) := by
  rw [← List.append_assoc] at same
  rcases List.append_eq_append_iff.mp same with ⟨gap, early, late⟩ | ⟨gap, early, late⟩
  · cases gap with
    | nil => cases late
    | cons char more =>
        obtain ⟨rfl, -⟩ := List.cons_eq_cons.mp late
        exact .inl ⟨more, by rw [early, List.append_assoc]⟩
  · cases gap with
    | nil => cases late
    | cons char more =>
        obtain ⟨rfl, rest⟩ := List.cons_eq_cons.mp late
        obtain ⟨lead, begins, rfl⟩ := exists_of_append_eq open' early
        rcases List.append_eq_append_iff.mp rest with ⟨gap, early', late'⟩ | ⟨gap, early', late'⟩
        · cases gap with
          | nil =>
              rw [List.append_nil] at early'
              exact .inr (.inl ⟨lead, begins, early'.symm, (List.cons_eq_cons.mp late').2.symm⟩)
          | cons char more =>
              obtain ⟨rfl, behind'⟩ := List.cons_eq_cons.mp late'
              obtain ⟨more', rfl, rfl⟩ := exists_of_append_eq close early'
              exact .inr (.inr (.inr ⟨more', begins, behind'.trans (List.append_assoc _ _ _)⟩))
        · cases gap with
          | nil =>
              rw [List.append_nil] at early'
              exact .inr (.inl ⟨lead, begins, early', (List.cons_eq_cons.mp late').2⟩)
          | cons char more =>
              obtain ⟨rfl, behind'⟩ := List.cons_eq_cons.mp late'
              exact .inr (.inr (.inl ⟨lead, more, begins,
                by rw [early', List.append_assoc], behind'⟩))

/-- What Python reads after the opening parenthesis decides what the constants are. -/
theorem exists_tuple_iff {before rest : Source} (absent : '\r' ∉ rest) :
    (∃ tuple, before ++ '(' :: rest = before ++ (tuple ++ after) ∧
      ReadsAs database tuple entries) ↔
      PythonTuple.read database rest = some (entries, after) := by
  constructor
  · rintro ⟨tuple, same, inner, whole, read⟩
    have split := List.append_cancel_left same
    have plain : '\r' ∉ tuple := by
      intro member
      have member' : '\r' ∈ '(' :: rest := split ▸ List.mem_append_left _ member
      rcases List.mem_cons.mp member' with clash | member'
      · cases clash
      · exact absent member'
    rw [newlines_of_not_mem plain] at whole
    subst whole
    obtain rfl : rest = inner ++ after := (List.cons_eq_cons.mp split).2
    exact PythonTuple.read_append read after
  · intro read
    obtain ⟨front, rfl, complete⟩ := PythonTuple.exists_of_read read
    refine ⟨'(' :: (front ++ [')']), by simp, front ++ [')'], ?_, complete⟩
    refine newlines_of_not_mem fun member => absent ?_
    simp only [List.mem_cons, List.mem_append, List.not_mem_nil, or_false] at member ⊢
    rcases member with clash | early | clash
    · cases clash
    · exact .inl early
    · exact .inr (.inl clash)

/-- Only the old tuple stands between the same texts. -/
theorem supported_text_iff (constants : Constants database) :
    Supported constants constants.text ↔ markerValue ∈ constants.entries := by
  rw [← eq_supported_iff]
  constructor
  · rintro ⟨tuple, same, inner, whole, read⟩
    obtain ⟨inner', whole', read'⟩ := constants.reads
    obtain rfl : constants.tuple = tuple :=
      List.append_cancel_right (List.append_cancel_left same)
    obtain rfl : inner' = inner := (List.cons_eq_cons.mp (whole'.symm.trans whole)).2
    exact (Prod.mk.inj (Option.some.inj (read'.symm.trans read))).1
  · intro same
    exact ⟨constants.tuple, rfl, same ▸ constants.reads⟩

/-- A separation and a quote are not what was dropped and a parenthesis. -/
theorem separation_ne {dropped body rest rest' : Source}
    (separators : ∀ char ∈ dropped, PythonTuple.isSeparator char) :
    separation word body ++ (addition word body ++ rest) ≠ dropped ++ ')' :: rest' := by
  intro same
  obtain ⟨quote, last⟩ := exists_lastQuote word body
  have quoted : addition word body ++ rest = quote.char :: (marker ++ [quote.char] ++ rest) := by
    rw [addition, last]
    simp
  have stops : PythonTuple.isSeparator quote.char = false := by cases quote <;> rfl
  have first : (separation word body ++ (addition word body ++ rest)).dropWhile
      PythonTuple.isSeparator = addition word body ++ rest := by
    rw [List.dropWhile_append_of_pos fun char member => isSeparator_of_mem_separation member,
      quoted, List.dropWhile_cons_of_neg (by simp [stops])]
  have second : (dropped ++ ')' :: rest').dropWhile PythonTuple.isSeparator = ')' :: rest' := by
    rw [List.dropWhile_append_of_pos separators]
    rfl
  have clash := (List.cons_eq_cons.mp (quoted.symm.trans (first.symm.trans
    ((congrArg _ same).trans second)))).1
  cases quote <;> cases clash

end Text

/-! ## The file that is written -/

section Written

variable {database : List Char → Option Nat} {word : Char → Bool} {text : Source}

private theorem kept_toMatch (place : Place text) : kept place.toMatch =
    place.front ++ (place.stretch.head ++ rstrip place.stretch.body) := by
  obtain ⟨head, body, -⟩ := group_toMatch place
  rw [kept, head, body]
  simp [Place.toMatch, Stretch.toMatch]

/-- What is kept ends as the body does, or with the parenthesis of the header. -/
theorem getLast?_kept (place : Place text) : (kept place.toMatch).getLast? =
    (rstrip place.stretch.body).getLast?.or (some '(') := by
  obtain ⟨front, shape, -⟩ := exists_header_init place.stretch.isHeader
  rw [kept_toMatch, shape]
  simp only [List.append_assoc, List.getLast?_append]
  cases (rstrip place.stretch.body).getLast? <;> rfl

/-- The text that was read and the text that is written. -/
theorem exists_kept (word : Char → Bool) (place : Place text) : ∃ dropped,
    text = kept place.toMatch ++ (dropped ++ ')' :: place.stretch.behind) ∧
    patched word place.toMatch = kept place.toMatch ++ (separation word place.stretch.body ++
      (addition word place.stretch.body ++ ')' :: place.stretch.behind)) ∧
    (∀ char ∈ dropped, PythonTuple.isSeparator char) ∧ dropped.count ',' ≤ 1 ∧
    (dropped.count ',' = 0 → (kept place.toMatch).getLast? ≠ some ',') ∧
    (kept place.toMatch).getLast?.any Text.isSpace = false := by
  obtain ⟨dropped, whole, separators, once, last⟩ := place.stretch.exists_dropped
  obtain ⟨-, -, -, solid⟩ := exists_rstrip place.stretch.body
  refine ⟨dropped, ?_, ?_, separators, once, fun none' => ?_, ?_⟩
  · have split : text = place.front ++ (place.stretch.head ++ (place.stretch.body ++
        place.stretch.gap ++ ')' :: place.stretch.behind)) := by
      rw [List.append_assoc place.stretch.body, ← place.stretch.whole]
      exact place.whole
    refine split.trans ?_
    rw [kept_toMatch, whole]
    simp
  · rw [patched_toMatch, kept_toMatch, newBody]
    simp
  · rw [getLast?_kept]
    cases here : (rstrip place.stretch.body).getLast? with
    | none => simp
    | some char => simpa [here] using last none'
  · rw [getLast?_kept]
    cases here : (rstrip place.stretch.body).getLast? with
    | none => rfl
    | some char => simpa [here] using solid

private theorem getLast?_lead {kept before lead : Source} {char : Char}
    (begins : kept = before ++ '(' :: lead) (last : lead.getLast? = some char) :
    kept.getLast? = some char := by
  have some' : lead ≠ [] := by
    rintro rfl
    cases last
  rw [begins, List.append_cons, List.getLast?_append_of_ne_nil _ some', last]

private theorem exists_lead_iff {kept before lead : Source} {marks : List Mark} {mode : Mode}
    {condition : List Mark → Mode → Prop} (begins : kept = before ++ '(' :: lead)
    (fed : feed database .layout lead = some (marks, mode)) :
    (∃ lead marks mode, kept = before ++ '(' :: lead ∧
      feed database .layout lead = some (marks, mode) ∧ condition marks mode) ↔
      condition marks mode := by
  constructor
  · rintro ⟨lead', marks', mode', begins', fed', holds⟩
    obtain rfl : lead = lead' :=
      (List.cons_eq_cons.mp (List.append_cancel_left (begins.symm.trans begins'))).2
    cases fed.symm.trans fed'
    exact holds
  · exact fun holds => ⟨lead, marks, mode, begins, fed, holds⟩

/-- The state of the lexer in the middle of a text. -/
theorem exists_feed {lead rest : Source} {mode close : Mode} {marks : List Mark}
    (fed : feed database mode (lead ++ rest) = some (marks, close)) :
    ∃ early middle later, feed database mode lead = some (early, middle) ∧
      feed database middle rest = some (later, close) ∧ marks = early ++ later := by
  rw [PythonTuple.feed_append] at fed
  cases before : feed database mode lead with
  | none => simp [before] at fed
  | some state =>
      rw [before] at fed
      obtain ⟨later, fed', rfl⟩ := PythonTuple.after_eq_some fed
      exact ⟨_, _, later, rfl, fed', rfl⟩

/-- A file that was patched supports the marker exactly under the condition on what is kept. -/
theorem supported_patched_iff (constants : Constants database)
    (place : Place (newlines constants.text)) :
    Supported constants (patched word place.toMatch) ↔
      '\r' ∉ constants.before ∧ '\r' ∉ constants.after ∧
      ∃ lead marks mode, kept place.toMatch = constants.before ++ '(' :: lead ∧
        feed database .layout lead = some (marks, mode) ∧
        (place.stretch.behind = constants.after ∧ markerValue ∉ constants.entries ∧
            Extends word place.stretch.body marks mode ∨
          constants.after.length < place.stretch.behind.length ∧ mode = .comment ∧
            overlong word place.stretch.body = false ∧ markerValue ∈ constants.entries) := by
  have plain : '\r' ∉ patched word place.toMatch :=
    not_mem_patched (not_mem_newlines constants.text) place
  by_cases clean : '\r' ∉ constants.before ∧ '\r' ∉ constants.after
  · obtain ⟨dropped, whole, written, separators, once, comma, solid⟩ := exists_kept word place
    obtain ⟨inner, all, close, reads, fed, settled, assembled⟩ := exists_inner constants.reads
    have absent : '(' ∉ dropped ∧ ')' ∉ dropped := by
      constructor <;> (intro member; cases separators _ member)
    have divided : kept place.toMatch ++ (dropped ++ ')' :: place.stretch.behind) =
        constants.before ++ '(' :: (inner ++ ')' :: constants.after) := by
      rw [← whole, constants.newlines_text, newlines_of_not_mem clean.1,
        newlines_of_not_mem clean.2, reads]
      simp
    have conditions : ∀ condition : Prop, ('\r' ∉ constants.before ∧ '\r' ∉ constants.after ∧
        condition) ↔ condition := fun _ => ⟨fun all => all.2.2, fun all => ⟨clean.1, clean.2, all⟩⟩
    rw [conditions, Supported]
    rcases located absent.1 absent.2 divided with ⟨more, early⟩ | ⟨lead, begins, rfl, same⟩ |
      ⟨lead, more, begins, rfl, behind⟩ | ⟨more, begins, late⟩
    · -- the parenthesis stands before the tuple
      refine iff_of_false ?_ ?_
      · rintro ⟨tuple, same, -⟩
        rw [written, early, List.append_assoc, List.append_assoc] at same
        exact separation_ne separators (List.append_cancel_left same)
      · rintro ⟨lead, -, -, begins, -⟩
        have length := congrArg List.length begins
        rw [early] at length
        simp only [List.length_append, List.length_cons] at length
        omega
    · -- the parenthesis closes the tuple
      obtain ⟨marks, mode, later, fedLead, fedDropped, rfl⟩ := exists_feed fed
      have leadComma : dropped.count ',' = 0 → lead.getLast? ≠ some ',' :=
        fun none' last => comma none' (getLast?_lead begins last)
      have leadSolid : lead.getLast?.any Text.isSpace = false := by
        cases last : lead.getLast? with
        | none => rfl
        | some char => simpa [getLast?_lead begins last] using solid
      rw [exists_lead_iff begins fedLead, written, begins, List.append_assoc, List.cons_append,
        same, exists_tuple_iff, read_closed_iff fedLead separators once leadComma leadSolid
          fedDropped settled assembled]
      · simp [Extends]
      · intro member
        rw [written, begins, same] at plain
        simp_all
    · -- the parenthesis stands in the tuple
      obtain ⟨marks, mode, later, fedLead, -, rfl⟩ := exists_feed fed
      rw [exists_lead_iff begins fedLead, written, begins, List.append_assoc, List.cons_append,
        behind, exists_tuple_iff, read_inside_iff fedLead separators fed settled assembled]
      · have apart : more ++ ')' :: constants.after ≠ constants.after := by
          intro clash
          have length := congrArg List.length clash
          simp only [List.length_append, List.length_cons] at length
          omega
        have longer : constants.after.length < (more ++ ')' :: constants.after).length := by
          simp only [List.length_append, List.length_cons]
          omega
        simp only [apart, false_and, longer, true_and, false_or]
      · intro member
        rw [written, begins, behind] at plain
        simp_all
    · -- the parenthesis stands behind the tuple
      refine iff_of_false ?_ ?_
      · intro holds
        have read : PythonTuple.read database (inner ++ ')' :: (more ++ (separation word
            place.stretch.body ++ (addition word place.stretch.body ++
              ')' :: place.stretch.behind)))) = some (supported constants.entries,
                constants.after) := by
          rw [written, begins, List.append_assoc, List.cons_append, List.append_assoc,
            List.cons_append] at holds
          refine (exists_tuple_iff fun member => ?_).mp holds
          rw [written, begins] at plain
          simp_all
        obtain ⟨marks, lexed, -⟩ := PythonTuple.read_eq_some_iff.mp read
        rw [PythonTuple.lex_of_feed fed, PythonTuple.lex_close settled] at lexed
        have rest := (Prod.mk.inj (Option.some.inj lexed)).2
        rw [late] at rest
        exact separation_ne separators (List.append_cancel_left rest)
      · rintro ⟨lead, marks, mode, begins', fed', -⟩
        obtain rfl : lead = inner ++ ')' :: more :=
          (List.cons_eq_cons.mp (List.append_cancel_left (begins'.symm.trans begins))).2
        obtain ⟨early, middle, later, fedInner, fedClose, -⟩ := exists_feed fed'
        cases fed.symm.trans fedInner
        cases (PythonTuple.feed_close settled).symm.trans fedClose
  · refine ⟨fun ⟨tuple, same, _⟩ => absurd ⟨fun member => plain ?_, fun member => plain ?_⟩ clean,
      fun all => absurd ⟨all.1, all.2.1⟩ clean⟩
    · rw [same]
      exact List.mem_append_left _ member
    · rw [same]
      exact List.mem_append_right _ (List.mem_append_right _ member)

/-- The script does what it is for exactly on the files it can patch. -/
theorem supports_iff (word : Char → Bool) (script path : String)
    (constants : Constants database) :
    Supports word script path constants ↔ Patchable word constants := by
  have again := main_main word script path constants.text
  cases searched : pattern.search (newlines constants.text) with
  | none =>
      obtain ⟨code, -⟩ := main_fails word script path searched
      refine iff_of_true (fun success => ?_) fun found match' => ?_
      · rw [code] at success
        cases success
      · cases searched.symm.trans match'
  | some found =>
      obtain ⟨place, rfl⟩ := exists_place searched
      have stop : place.toMatch.stop.after = place.stretch.behind := rfl
      have only : Patchable word constants ↔ _ :=
        ⟨fun all => all place.toMatch searched, fun here found match' => by
          cases searched.symm.trans match'
          exact here⟩
      rw [only, (group_toMatch place).2.1, stop]
      cases named : mentions place.stretch.body with
      | true =>
          obtain ⟨code, file⟩ := main_keeps word script path rfl place named
          simp only [Supports, code, file, forall_const, and_true, supported_text_iff,
            true_and, Bool.true_eq_false, false_and, or_false]
      | false =>
          obtain ⟨code, file⟩ := main_patches word script path rfl place named
          rw [file] at again
          simp only [Supports, code, file, again, forall_const, and_true, supported_patched_iff,
            Bool.false_eq_true, false_and, true_and, false_or]

/-! A tuple without comments, and one with a parenthesis in a comment. -/

/-- `\w` on ASCII. -/
def asciiWord (char : Char) : Bool := char.isAlphanum || char == '_'

/-- The interpreter names no character. -/
def namesNothing (_ : List Char) : Option Nat := none

example : (main asciiWord ["patch-wekafs-protocol.py", "constants.py"]
    "SUPPORTED_SHARE_PROTOCOLS = (\n    'NFS', 'MAPRFS', 'LUSTRE')\n".toList).file =
      "SUPPORTED_SHARE_PROTOCOLS = (\n    'NFS', 'MAPRFS', 'LUSTRE', 'WEKAFS')\n".toList := by
  decide +kernel

def windowsConstants : Constants namesNothing where
  before := "SUPPORTED_SHARE_PROTOCOLS = ".toList
  tuple := "(\n    'NFS', 'CIFS',  # SMB (Windows)\n    'CEPHFS')".toList
  after := "\n".toList
  entries := ["NFS", "CIFS", "CEPHFS"].map fun entry => entry.toList.map Char.toNat
  reads := ⟨"\n    'NFS', 'CIFS',  # SMB (Windows)\n    'CEPHFS')".toList, by decide +kernel,
    by decide +kernel⟩

/-- The script reports success and has written the marker into the comment. -/
theorem comment_takes_marker :
    (main asciiWord ["patch-wekafs-protocol.py", "constants.py"] windowsConstants.text).code = 0 ∧
      ¬ Supports asciiWord "patch-wekafs-protocol.py" "constants.py" windowsConstants := by
  have code : (main asciiWord ["patch-wekafs-protocol.py", "constants.py"]
      windowsConstants.text).code = 0 := by decide +kernel
  have file : (main asciiWord ["patch-wekafs-protocol.py", "constants.py"]
      windowsConstants.text).file = windowsConstants.before ++ '(' :: ("\n    'NFS', 'CIFS',  " ++
        "# SMB (Windows, 'WEKAFS')\n    'CEPHFS')\n").toList := by decide +kernel
  refine ⟨code, fun supports => ?_⟩
  obtain ⟨⟨tuple, same, reads⟩, -⟩ := supports code
  rw [file] at same
  have read := (exists_tuple_iff (by decide +kernel)).mp ⟨tuple, same, reads⟩
  revert read
  decide +kernel

end Written

end WekaShareDriver.ProtocolPatch
