import Mathlib
import WekaShareDriver.ProtocolPatch

/-! # The patched tuple as Python reads it

What the script keeps of a tuple leaves Python's lexer in some mode, and the mode decides how
the separation, the new entry and the parenthesis after it are read: behind a literal as an
entry, behind a comment as a part of it or as an entry of the next line, in a literal as a
part of that. `read_closed_iff` is for a parenthesis that closes the tuple, and
`read_inside_iff` for one in a comment or a literal.
-/

namespace WekaShareDriver.ProtocolPatch

open Foundation
open PythonTuple (Mark Mode Value feed lex points)

/-- `'WEKAFS'` -/
def markerValue : Value := marker.map Char.toNat

/-! ## How the new entry is read -/

section Addition

variable {database : List Char → Option Nat} {word : Char → Bool} {mode : Mode}
  {body rest blanks : Source}

private theorem feed_marker (quote : PythonTuple.Quote) :
    feed database .layout ([quote.char] ++ marker ++ [quote.char]) =
      some (.literal :: points markerValue, .layout) := by
  cases quote <;> rfl

private theorem lex_addition (word : Char → Bool) (body rest : Source) :
    lex database .layout (addition word body ++ ')' :: rest) =
      some (.literal :: points markerValue, rest) := by
  obtain ⟨quote, last⟩ := exists_lastQuote word body
  rw [addition, last, PythonTuple.lex_of_feed (feed_marker quote), PythonTuple.lex_close rfl]
  simp

private theorem feed_blanks (all : ∀ char ∈ blanks, PythonTuple.isBlank char) :
    feed database .layout blanks = some ([], .layout) := by
  induction blanks with
  | nil => rfl
  | cons char rest ih =>
      have blank := all char List.mem_cons_self
      have open' : Mode.layout.closes char = false :=
        PythonTuple.closes_of_isSeparator (PythonTuple.isSeparator_of_isBlank blank)
      have taken : PythonTuple.step database .layout char = some ([], .layout) := if_pos blank
      rw [PythonTuple.feed_cons open' taken,
        ih fun other member => all other (List.mem_cons_of_mem _ member)]
      rfl

/-- White space that Python does not take for blanks is not read. -/
theorem lex_spaces_eq_none (spaces : Spaces blanks)
    (strange : ¬ ∀ char ∈ blanks, PythonTuple.isBlank char) (text : Source) :
    lex database .layout (blanks ++ text) = none := by
  induction blanks with
  | nil => exact absurd (fun _ member => absurd member List.not_mem_nil) strange
  | cons char rest ih =>
      have space := spaces char List.mem_cons_self
      have separator : PythonTuple.isSeparator char := by simp [PythonTuple.isSeparator, space]
      have other : char ≠ ',' := by rintro rfl; cases space
      rw [List.cons_append, lex, PythonTuple.closes_of_isSeparator separator, PythonTuple.step]
      cases blank : PythonTuple.isBlank char with
      | false =>
          rw [PythonTuple.layoutStep_eq_none separator other blank]
          rfl
      | true =>
          have step : PythonTuple.layoutStep char = some ([], .layout) := if_pos blank
          rw [step]
          refine (PythonTuple.after_nil _).trans (ih ?_ fun all => strange fun char' member => ?_)
          · exact fun char' member => spaces char' (List.mem_cons_of_mem _ member)
          · rcases List.mem_cons.mp member with rfl | member
            · exact blank
            · exact all char' member

/-- The new entry on a line of its own. -/
theorem lex_indent (word : Char → Bool) (body rest : Source) :
    lex database .layout (indent body ++ (addition word body ++ ')' :: rest)) =
      if ∀ char ∈ indent body, PythonTuple.isBlank char then
        some (.literal :: points markerValue, rest) else none := by
  by_cases blank : ∀ char ∈ indent body, PythonTuple.isBlank char
  · rw [if_pos blank, PythonTuple.lex_of_feed (feed_blanks blank), lex_addition,
      PythonTuple.after_nil]
  · rw [if_neg blank, lex_spaces_eq_none (spaces_indent body) blank]

/-- The new entry behind a literal. -/
theorem lex_new_settled (settled : mode.settled) (word : Char → Bool) (body rest : Source) :
    lex database mode (separation word body ++ (addition word body ++ ')' :: rest)) =
      if overlong word body → ∀ char ∈ indent body, PythonTuple.isBlank char then
        some (.comma :: .literal :: points markerValue, rest) else none := by
  have comma : feed database mode [','] = some ([.comma], .layout) := by
    have taken : PythonTuple.step database mode ',' = some ([.comma], .layout) := by
      rw [PythonTuple.step_of_settled settled rfl]
      rfl
    rw [PythonTuple.feed_cons (PythonTuple.closes_of_isSeparator rfl) taken]
    rfl
  rw [separation]
  cases long : overlong word body with
  | true =>
      have line : feed database mode [',', '\n'] = some ([.comma], .layout) := by
        rw [← List.singleton_append, PythonTuple.feed_append, comma]
        rfl
      have split : ',' :: '\n' :: indent body ++ (addition word body ++ ')' :: rest) =
          [',', '\n'] ++ (indent body ++ (addition word body ++ ')' :: rest)) := rfl
      rw [if_pos rfl, split, PythonTuple.lex_of_feed line, lex_indent]
      by_cases blank : ∀ char ∈ indent body, PythonTuple.isBlank char
      · rw [if_pos blank, if_pos fun _ => blank]
        rfl
      · rw [if_neg blank, if_neg fun all => blank (all rfl)]
        rfl
  | false =>
      have blank : feed database mode [',', ' '] = some ([.comma], .layout) := by
        rw [← List.singleton_append, PythonTuple.feed_append, comma]
        rfl
      rw [if_neg Bool.false_ne_true, PythonTuple.lex_of_feed blank, lex_addition,
        if_pos fun clash => absurd clash Bool.false_ne_true]
      rfl

/-- The new entry behind a comment, on the same line: it belongs to the comment. -/
theorem lex_new_comment (short : overlong word body = false) (rest : Source) :
    lex database .comment (separation word body ++ (addition word body ++ ')' :: rest)) =
      lex database .comment rest := by
  obtain ⟨quote, last⟩ := exists_lastQuote word body
  have line : '\n' ∉ [',', ' '] ++ ([quote.char] ++ marker ++ [quote.char]) ++ [')'] := by
    cases quote <;> decide
  have split : [',', ' '] ++ ([quote.char] ++ marker ++ [quote.char] ++ ')' :: rest) =
      [',', ' '] ++ ([quote.char] ++ marker ++ [quote.char]) ++ [')'] ++ rest := by simp
  rw [separation, short, if_neg Bool.false_ne_true, addition, last, split,
    PythonTuple.lex_comment line]

/-- The new entry behind a comment, on the next line. -/
theorem lex_new_line (long : overlong word body) (rest : Source) :
    lex database .comment (separation word body ++ (addition word body ++ ')' :: rest)) =
      if ∀ char ∈ indent body, PythonTuple.isBlank char then
        some (.literal :: points markerValue, rest) else none := by
  have line : feed database .comment [',', '\n'] = some ([], .layout) := rfl
  have split : ',' :: '\n' :: indent body ++ (addition word body ++ ')' :: rest) =
      [',', '\n'] ++ (indent body ++ (addition word body ++ ')' :: rest)) := rfl
  rw [separation, if_pos long, split, PythonTuple.lex_of_feed line, lex_indent,
    PythonTuple.after_nil]

private theorem exists_separation (word : Char → Bool) (body : Source) :
    ∃ more, separation word body = ',' :: more := by
  rw [separation]
  split_ifs
  · exact ⟨_, rfl⟩
  · exact ⟨_, rfl⟩

/-- The new entry in a literal ends it, or is a part of it. -/
theorem marker_inside (literal : PythonTuple.Literal) (quote : PythonTuple.Quote) :
    (∀ rest, lex database (.inside literal 0) ([quote.char] ++ marker ++ [quote.char] ++
      ')' :: rest) = none) ∨
    feed database (.inside literal 0) ([quote.char] ++ marker ++ [quote.char] ++ [')']) =
      some (points (([quote.char] ++ marker ++ [quote.char] ++ [')']).map Char.toNat),
        .inside literal 0) := by
  obtain ⟨raw, long, quote'⟩ := literal
  cases raw <;> cases long <;> cases quote <;> cases quote' <;>
    first | exact .inr rfl | exact .inl fun _ => rfl

/-- The new entry in a literal: the tuple is not read any more, or the literal is another. -/
theorem lex_new_literal {literal : PythonTuple.Literal} (here : mode.literal? = some literal)
    (word : Char → Bool) (body : Source) :
    (∀ rest, lex database mode (separation word body ++ (addition word body ++ ')' :: rest)) =
      none) ∨
    ∃ tail : Value, 'W'.toNat ∈ tail ∧ ∀ rest, lex database mode (separation word body ++
      (addition word body ++ ')' :: rest)) =
        PythonTuple.after (points (mode.held ++ tail)) (lex database (.inside literal 0) rest) := by
  obtain ⟨quote, last⟩ := exists_lastQuote word body
  obtain ⟨more, split⟩ := exists_separation word body
  have separators : ∀ char ∈ more, PythonTuple.isSeparator char := by
    intro char member
    have inAll : char ∈ separation word body := split ▸ List.mem_cons_of_mem _ member
    exact isSeparator_of_mem_separation inAll
  have absent : ')' ∉ more := by
    intro member
    cases separators _ member
  have open' : mode.closes ',' = false := PythonTuple.closes_of_isSeparator rfl
  rw [split, addition, last]
  cases taken : PythonTuple.step database mode ',' with
  | none =>
      refine .inl fun rest => ?_
      rw [List.cons_append, lex, open', taken]
      rfl
  | some result =>
      obtain ⟨marks, next⟩ := result
      rcases PythonTuple.step_of_isPlain here rfl taken with ⟨first, rfl, rfl, -⟩ | ⟨clash, -⟩
      · have comma : feed database mode [','] =
            some (points (mode.held ++ first), .inside literal 0) := by
          rw [PythonTuple.feed_cons open' taken]
          simp [feed]
        have begun : ∀ text, lex database mode (',' :: text) = PythonTuple.after
            (points (mode.held ++ first)) (lex database (.inside literal 0) text) :=
          fun text => PythonTuple.lex_of_feed comma
        cases fed : feed database (.inside literal 0) more with
        | none =>
            refine .inl fun rest => ?_
            rw [List.cons_append, begun, PythonTuple.lex_eq_none absent fed]
            rfl
        | some state =>
            obtain ⟨inside, blanks, same⟩ := PythonTuple.feed_inside separators fed
            have fed' : feed database (.inside literal 0) more =
                some (points blanks, .inside literal 0) := by rw [fed, ← inside, ← same]
            rcases marker_inside literal quote with ends | goesOn
            · refine .inl fun rest => ?_
              rw [List.cons_append, begun, PythonTuple.lex_of_feed fed', ends]
              rfl
            · refine .inr ⟨first ++ blanks ++
                ([quote.char] ++ marker ++ [quote.char] ++ [')']).map Char.toNat, ?_,
                fun rest => ?_⟩
              · simp [marker]
              · have close : [quote.char] ++ marker ++ [quote.char] ++ ')' :: rest =
                    [quote.char] ++ marker ++ [quote.char] ++ [')'] ++ rest := by simp
                rw [List.cons_append, begun, PythonTuple.lex_of_feed fed', close,
                  PythonTuple.lex_of_feed goesOn]
                simp [PythonTuple.points_append]
      · cases clash

end Addition

/-! ## The entries with the new one -/

/-- The entries of a tuple that supports the marker. -/
def supported (entries : List Value) : List Value :=
  if markerValue ∈ entries then entries else entries ++ [markerValue]

section Entries

variable {database : List Char → Option Nat} {word : Char → Bool} {mode close : Mode}
  {marks more : List Mark} {lead dropped body after : Source} {entries found : List Value}
  {entry : Option Value}

private theorem append_eq_supported_iff :
    entries ++ [markerValue] = supported entries ↔ markerValue ∉ entries := by
  rw [supported]
  by_cases member : markerValue ∈ entries
  · simp [member]
  · simp [member]

private theorem assemble_marker (entries : List Value) (entry : Option Value) :
    PythonTuple.assemble entries entry (.literal :: points markerValue) =
      if entries = [] then none else some (entries ++ [entry.getD [] ++ markerValue]) := by
  have some' : markerValue ≠ [] := by decide
  have step : PythonTuple.assemble entries entry (.literal :: (points markerValue ++ [])) =
      PythonTuple.assemble entries (some (entry.getD [])) (points markerValue ++ []) := rfl
  rw [List.append_nil] at step
  rw [step, ← List.append_nil (points markerValue), PythonTuple.assemble_points _ _ some']
  rfl

/-- Commas behind an entry, one at most, leave the entries as they are. -/
theorem assemble_commas {count : Nat} (once : count ≤ 1)
    (assembled : PythonTuple.assemble entries entry (List.replicate count .comma) = some found) :
    found = entries ++ entry.toList ∧ (entry = none → count = 0 ∧ entries ≠ []) := by
  obtain rfl | rfl : count = 0 ∨ count = 1 := by omega
  · by_cases empty : entries = []
    · simp [PythonTuple.assemble, empty] at assembled
    · simp only [List.replicate_zero, PythonTuple.assemble, empty, ↓reduceIte,
        Option.some.injEq] at assembled
      exact ⟨assembled.symm, fun _ => ⟨rfl, empty⟩⟩
  · cases entry with
    | none => cases assembled
    | some value =>
        simp only [List.replicate_one, PythonTuple.assemble, List.append_eq_nil_iff,
          List.cons_ne_nil, and_false, ↓reduceIte, Option.toList_none, List.append_nil,
          Option.some.injEq] at assembled
        exact ⟨assembled.symm, fun clash => absurd clash (Option.some_ne_none value)⟩

/-- The state of the parser behind some marks. -/
theorem exists_gather (assembled : PythonTuple.assemble [] none (marks ++ more) = some found) :
    ∃ entries entry, PythonTuple.gather [] none marks = some (entries, entry) ∧
      PythonTuple.assemble entries entry more = some found := by
  rw [PythonTuple.assemble_append] at assembled
  cases gathered : PythonTuple.gather [] none marks with
  | none => simp [gathered] at assembled
  | some state => exact ⟨state.1, state.2, rfl, by simpa [gathered] using assembled⟩

private theorem read_of_lex (fed : feed database .layout lead = some (marks, mode))
    (gathered : PythonTuple.gather [] none marks = some (entries, entry)) (text : Source) :
    PythonTuple.read database (lead ++ text) = (lex database mode text).bind fun result =>
      (PythonTuple.assemble entries entry result.1).map fun found => (found, result.2) := by
  rw [PythonTuple.read, PythonTuple.lex_of_feed fed]
  cases lex database mode text with
  | none => rfl
  | some result => simp [PythonTuple.assemble_append, gathered]

/-- Behind a literal the new entry is read as one. -/
theorem read_behind_literal (settled : mode.settled)
    (fed : feed database .layout lead = some (marks, mode)) {value : Value}
    (gathered : PythonTuple.gather [] none marks = some (entries, some value)) :
    PythonTuple.read database (lead ++ (separation word body ++ (addition word body ++
      ')' :: after))) = if overlong word body → ∀ char ∈ indent body, PythonTuple.isBlank char then
        some (entries ++ [value] ++ [markerValue], after) else none := by
  rw [read_of_lex fed gathered, lex_new_settled settled]
  by_cases blank : overlong word body → ∀ char ∈ indent body, PythonTuple.isBlank char
  · have step : PythonTuple.assemble entries (some value) (.comma :: .literal ::
        points markerValue) = PythonTuple.assemble (entries ++ [value]) none (.literal ::
          points markerValue) := rfl
    rw [if_pos blank, if_pos blank]
    simp [step, assemble_marker]
  · rw [if_neg blank, if_neg blank]
    rfl

/-- Behind a comment on a line of its own, the new entry goes on with the last one unless a
comma stands before the comment. -/
theorem read_behind_comment (long : overlong word body)
    (fed : feed database .layout lead = some (marks, .comment))
    (gathered : PythonTuple.gather [] none marks = some (entries, entry)) :
    PythonTuple.read database (lead ++ (separation word body ++ (addition word body ++
      ')' :: after))) = if (∀ char ∈ indent body, PythonTuple.isBlank char) ∧ entries ≠ [] then
        some (entries ++ [entry.getD [] ++ markerValue], after) else none := by
  rw [read_of_lex fed gathered, lex_new_line long]
  by_cases blank : ∀ char ∈ indent body, PythonTuple.isBlank char
  · by_cases empty : entries = []
    · rw [if_pos blank, if_neg fun all => all.2 empty]
      simp [assemble_marker, empty]
    · rw [if_pos blank, if_pos ⟨blank, empty⟩]
      simp [assemble_marker, empty]
  · rw [if_neg blank, if_neg fun all => blank all.1]
    rfl

/-- Behind a comment on its line, the new entry is not read, and the tuple ends elsewhere. -/
theorem read_in_comment (short : overlong word body = false)
    (fed : feed database .layout lead = some (marks, .comment)) (text : Source) :
    PythonTuple.read database (lead ++ (separation word body ++ (addition word body ++
      ')' :: text))) = PythonTuple.read database (lead ++ text) := by
  rw [PythonTuple.read, PythonTuple.read, PythonTuple.lex_of_feed fed,
    PythonTuple.lex_of_feed fed, lex_new_comment short]

private theorem length_lt_of_read {text rest : Source}
    (fed : feed database .layout lead = some (marks, mode))
    (read : PythonTuple.read database (lead ++ text) = some (found, rest)) :
    rest.length < text.length := by
  obtain ⟨all, lexed, -⟩ := PythonTuple.read_eq_some_iff.mp read
  rw [PythonTuple.lex_of_feed fed] at lexed
  obtain ⟨later, lexed', -⟩ := PythonTuple.after_eq_some lexed
  exact PythonTuple.length_lt_of_lex lexed'

/-- An entry that goes on with the marker is not one of its own. -/
theorem append_marker_ne_supported (early : List Value) (value : Value) :
    early ++ [value ++ markerValue] ≠ supported (early ++ [value]) := by
  intro same
  rw [supported] at same
  by_cases member : markerValue ∈ early ++ [value]
  · rw [if_pos member] at same
    have empty : markerValue = [] := by simpa using same
    cases empty
  · rw [if_neg member] at same
    have length := congrArg List.length same
    simp at length

/-- What the lexer is in behind a text that white space and a comma, perhaps, divide from the
end of the tuple. -/
theorem mode_of_closed (separators : ∀ char ∈ dropped, PythonTuple.isSeparator char)
    (fed : feed database mode dropped = some (more, close)) (settled : close.settled) :
    mode.settled ∨ mode = .comment ∨ mode = .continued := by
  cases mode with
  | layout => exact .inl rfl
  | twice raw quote => exact .inl rfl
  | comment => exact .inr (.inl rfl)
  | continued => exact .inr (.inr rfl)
  | prefixed raw =>
      cases dropped with
      | nil =>
          cases fed
          cases settled
      | cons char rest =>
          have separator := separators char List.mem_cons_self
          simp [feed, PythonTuple.closes_of_isSeparator separator, PythonTuple.step,
            PythonTuple.ofChar?_of_isSeparator separator] at fed
  | opened _ _ | inside _ _ | escaped _ _ =>
      have inside := PythonTuple.literal?_of_feed rfl separators fed
      rw [PythonTuple.settled_of_literal? inside] at settled
      cases settled

/-- Where the parenthesis that was found closes the tuple. -/
theorem read_closed_iff (fed : feed database .layout lead = some (marks, mode))
    (separators : ∀ char ∈ dropped, PythonTuple.isSeparator char) (once : dropped.count ',' ≤ 1)
    (last : dropped.count ',' = 0 → lead.getLast? ≠ some ',')
    (solid : lead.getLast?.any Text.isSpace = false)
    (fed' : feed database mode dropped = some (more, close)) (settled : close.settled)
    (whole : PythonTuple.assemble [] none (marks ++ more) = some entries) :
    PythonTuple.read database (lead ++ (separation word body ++ (addition word body ++
      ')' :: after))) = some (supported entries, after) ↔
      markerValue ∉ entries ∧
        (overlong word body → ∀ char ∈ indent body, PythonTuple.isBlank char) ∧
        (mode.settled ∨ mode = .comment ∧ overlong word body ∧ marks.getLast? = some .comma) := by
  obtain ⟨early, entry, gathered, rest⟩ := exists_gather whole
  have begun := PythonTuple.gather_isSome_iff gathered
  rcases mode_of_closed separators fed' settled with here | rfl | rfl
  · obtain ⟨-, rfl⟩ := PythonTuple.feed_separators here separators fed'
    obtain ⟨all, open'⟩ := assemble_commas once rest
    cases entry with
    | none =>
        -- a comma ends what is kept, and there is none behind it
        obtain ⟨none', nonempty⟩ := open' rfl
        rcases List.eq_nil_or_concat lead with rfl | ⟨front, char, rfl⟩
        · cases fed
          cases gathered
          exact absurd rfl nonempty
        · rw [List.concat_eq_append] at fed last solid
          rw [List.getLast?_concat] at last solid
          have other : PythonTuple.isSeparator char = false := by
            have space : Text.isSpace char = false := by simpa using solid
            have comma : char ≠ ',' := by simpa using last none'
            simp [PythonTuple.isSeparator, space, comma]
          cases begun.mpr (PythonTuple.feed_concat_speaks fed here other)
    | some value =>
        rw [read_behind_literal here fed gathered]
        have entries' : entries = early ++ [value] := all
        by_cases blank : overlong word body → ∀ char ∈ indent body, PythonTuple.isBlank char
        · rw [if_pos blank, ← entries', Option.some.injEq, Prod.mk.injEq,
            append_eq_supported_iff]
          exact ⟨fun absent => ⟨absent.1, blank, .inl here⟩, fun all => ⟨all.1, rfl⟩⟩
        · rw [if_neg blank]
          simp [blank]
  · have line : '\n' ∈ dropped := by
      by_contra absent
      rw [PythonTuple.feed_comment absent] at fed'
      cases fed'
      cases settled
    obtain ⟨comment, blanks, rfl, absent⟩ := List.eq_append_cons_of_mem line
    rw [PythonTuple.feed_comment_line absent] at fed'
    obtain ⟨-, rfl⟩ := PythonTuple.feed_separators rfl
      (fun char member => separators char (by simp [member])) fed'
    have once' : blanks.count ',' ≤ 1 := by
      rw [List.count_append, List.count_cons] at once
      omega
    obtain ⟨all, open'⟩ := assemble_commas once' rest
    cases long : overlong word body with
    | false =>
        rw [read_in_comment long fed]
        refine ⟨fun read => ?_, fun clash => ?_⟩
        · cases (length_lt_of_read fed read).false
        · rcases clash.2.2 with clash | ⟨-, clash, -⟩ <;> cases clash
    | true =>
        rw [read_behind_comment long fed gathered]
        cases entry with
        | none =>
            obtain ⟨-, nonempty⟩ := open' rfl
            have entries' : entries = early := by simpa using all
            have comma : marks.getLast? = some .comma := by
              cases last' : marks.getLast? with
              | none =>
                  rw [List.getLast?_eq_none_iff.mp last'] at gathered
                  cases gathered
                  exact absurd rfl nonempty
              | some mark =>
                  by_contra other
                  cases begun.mpr ⟨mark, last', fun same => other (by rw [same])⟩
            by_cases blank : ∀ char ∈ indent body, PythonTuple.isBlank char
            · rw [if_pos ⟨blank, nonempty⟩, ← entries', Option.some.injEq, Prod.mk.injEq,
                Option.getD_none, List.nil_append, append_eq_supported_iff]
              exact ⟨fun absent => ⟨absent.1, fun _ => blank, .inr ⟨rfl, rfl, comma⟩⟩,
                fun all => ⟨all.1, rfl⟩⟩
            · rw [if_neg fun all => blank all.1]
              exact ⟨fun clash => absurd clash (Option.some_ne_none _).symm,
                fun all => absurd (all.2.1 rfl) blank⟩
        | some value =>
            have entries' : entries = early ++ [value] := all
            constructor
            · intro read
              split_ifs at read
              exact absurd (Prod.mk.inj (Option.some.inj read)).1
                (entries' ▸ append_marker_ne_supported early value)
            · rintro ⟨-, -, clash | ⟨-, -, comma⟩⟩
              · cases clash
              · obtain ⟨mark, last', other⟩ := begun.mp rfl
                exact absurd (Option.some.inj (last'.symm.trans comma)) other
  · obtain ⟨tail, split⟩ := exists_separation word body
    have none' : PythonTuple.read database (lead ++ (separation word body ++
        (addition word body ++ ')' :: after))) = none := by
      rw [read_of_lex fed gathered, split]
      rfl
    rw [none']
    refine ⟨fun clash => absurd clash (Option.some_ne_none _).symm, fun all => ?_⟩
    rcases all.2.2 with clash | ⟨clash, -⟩ <;> cases clash

/-- Where a parenthesis does not close the tuple: in a comment or in a literal. -/
theorem mode_of_open (separators : ∀ char ∈ dropped, PythonTuple.isSeparator char)
    (fed : feed database mode (dropped ++ [')']) = some (more, close)) :
    mode = .comment ∧ more = [] ∧ close = .comment ∨ ∃ literal, mode.literal? = some literal := by
  have closed : ∀ {mode : Mode} {front : Source} {more : List Mark}, mode.settled →
      (∀ char ∈ front, PythonTuple.isSeparator char) →
      feed database mode (front ++ [')']) ≠ some (more, close) := by
    intro mode front more settled separators fed
    rw [PythonTuple.feed_append] at fed
    cases before : feed database mode front with
    | none => simp [before] at fed
    | some state =>
        obtain ⟨early, next⟩ := state
        obtain ⟨settled', -⟩ := PythonTuple.feed_separators settled separators before
        simp [before, PythonTuple.feed_close settled'] at fed
  cases mode with
  | layout => exact absurd fed (closed rfl separators)
  | twice raw quote => exact absurd fed (closed rfl separators)
  | comment =>
      by_cases line : '\n' ∈ dropped
      · obtain ⟨comment, blanks, rfl, absent⟩ := List.eq_append_cons_of_mem line
        rw [List.append_assoc, List.cons_append, PythonTuple.feed_comment_line absent] at fed
        exact absurd fed (closed rfl fun char member => separators char (by simp [member]))
      · rw [PythonTuple.feed_comment (by simp [line])] at fed
        cases fed
        exact .inl ⟨rfl, rfl, rfl⟩
  | continued =>
      cases dropped with
      | nil => cases fed
      | cons char rest =>
          by_cases line : char = '\n'
          · subst line
            have taken : PythonTuple.step database .continued '\n' = some ([], .layout) := rfl
            rw [List.cons_append, PythonTuple.feed_cons rfl taken, PythonTuple.after_nil] at fed
            exact absurd fed (closed rfl fun char member =>
              separators char (List.mem_cons_of_mem _ member))
          · have separator := separators char List.mem_cons_self
            simp [feed, PythonTuple.closes_of_isSeparator separator, PythonTuple.step,
              line] at fed
  | prefixed raw =>
      cases dropped with
      | nil => cases fed
      | cons char rest =>
          have separator := separators char List.mem_cons_self
          simp [feed, PythonTuple.closes_of_isSeparator separator, PythonTuple.step,
            PythonTuple.ofChar?_of_isSeparator separator] at fed
  | opened raw quote => exact .inr ⟨_, rfl⟩
  | inside literal quotes => exact .inr ⟨_, rfl⟩
  | escaped literal escape => exact .inr ⟨_, rfl⟩

/-- The supported protocols are those listed exactly if the new one is among them. -/
theorem eq_supported_iff : entries = supported entries ↔ markerValue ∈ entries := by
  rw [supported]
  by_cases member : markerValue ∈ entries
  · simp [member]
  · simp [member]

/-- With another text in the place of a literal's, a tuple does not support the marker as it
should. -/
theorem ne_supported_of_replaced {early later : List Value} {value value' : Value}
    (other : value' ≠ value) : early ++ value' :: later ≠ supported (early ++ value :: later) := by
  intro same
  rw [supported] at same
  by_cases member : markerValue ∈ early ++ value :: later
  · rw [if_pos member] at same
    exact other (by simpa using same)
  · rw [if_neg member] at same
    have length := congrArg List.length same
    simp at length

/-- Where the parenthesis that was found does not close the tuple. -/
theorem read_inside_iff {behind : Source} {all : List Mark}
    (fed : feed database .layout lead = some (marks, mode))
    (separators : ∀ char ∈ dropped, PythonTuple.isSeparator char)
    (fed' : feed database .layout (lead ++ (dropped ++ ')' :: behind)) = some (all, close))
    (settled : close.settled) (whole : PythonTuple.assemble [] none all = some entries) :
    PythonTuple.read database (lead ++ (separation word body ++ (addition word body ++
      ')' :: (behind ++ ')' :: after)))) = some (supported entries, after) ↔
      mode = .comment ∧ overlong word body = false ∧ markerValue ∈ entries := by
  obtain ⟨held, middle, last, fedClose, fedBehind, rfl⟩ : ∃ held middle last,
      feed database mode (dropped ++ [')']) = some (held, middle) ∧
      feed database middle behind = some (last, close) ∧ all = marks ++ (held ++ last) := by
    have split : lead ++ (dropped ++ ')' :: behind) = lead ++ (dropped ++ [')'] ++ behind) := by
      simp
    rw [split, PythonTuple.feed_append, fed] at fed'
    obtain ⟨later, fedLater, rfl⟩ := PythonTuple.after_eq_some fed'
    simp only [PythonTuple.feed_append mode (dropped ++ [')'])] at fedLater
    cases fedClose : feed database mode (dropped ++ [')']) with
    | none => simp [fedClose] at fedLater
    | some state =>
        rw [fedClose] at fedLater
        obtain ⟨last, fedBehind, rfl⟩ := PythonTuple.after_eq_some fedLater
        exact ⟨_, _, last, rfl, fedBehind, rfl⟩
  have lexBehind : lex database middle (behind ++ ')' :: after) = some (last, after) := by
    rw [PythonTuple.lex_of_feed fedBehind, PythonTuple.lex_close settled]
    simp
  obtain ⟨early, entry, gathered, rest⟩ := exists_gather whole
  rcases mode_of_open separators fedClose with ⟨rfl, rfl, rfl⟩ | ⟨literal, here⟩
  · cases long : overlong word body with
    | false =>
        have assembled : PythonTuple.assemble early entry last = some entries := rest
        rw [read_in_comment long fed, read_of_lex fed gathered, lexBehind]
        simp [assembled, eq_supported_iff]
    | true =>
        rw [read_behind_comment long fed gathered]
        refine ⟨fun read => ?_, fun all => nomatch all.2.1⟩
        split_ifs at read
        have same := congrArg List.length (Prod.mk.inj (Option.some.inj read)).2
        simp only [List.length_append, List.length_cons] at same
        omega
  · have apart : mode ≠ .comment := by
      rintro rfl
      cases here
    refine ⟨fun read => ?_, fun all => absurd all.1 apart⟩
    rw [read_of_lex fed gathered] at read
    obtain ⟨rfl, tail, rfl, nonempty, plain⟩ :=
      PythonTuple.feed_plain_close here separators fedClose
    rcases lex_new_literal here word body with ends | ⟨tail', marked, goesOn⟩
    · rw [ends] at read
      cases read
    · have held : mode.held ++ tail ≠ [] := by simp [nonempty]
      have held' : mode.held ++ tail' ≠ [] := fun empty => by
        rw [(List.append_eq_nil_iff.mp empty).2] at marked
        cases marked
      rw [PythonTuple.assemble_points _ _ held] at rest
      obtain ⟨text, later, rfl, other⟩ := PythonTuple.assemble_replace rest
      rw [goesOn, lexBehind] at read
      simp only [PythonTuple.after_some, Option.bind_some,
        PythonTuple.assemble_points _ _ held', other] at read
      have same := (Prod.mk.inj (Option.some.inj read)).1
      refine absurd same (ne_supported_of_replaced fun equal => ?_)
      -- the marker has a letter, and what was there has none
      have tails : tail' = tail := by simpa using equal
      rcases plain _ (tails ▸ marked) with clash | ⟨char, isPlain, clash⟩
      · cases clash
      · have range := PythonTuple.toNat_of_isPlain isPlain
        have letter : 'W'.toNat = 87 := rfl
        omega

end Entries

end WekaShareDriver.ProtocolPatch
