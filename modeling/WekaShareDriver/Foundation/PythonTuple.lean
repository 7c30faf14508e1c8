import WekaShareDriver.Foundation.Text
import Mathlib.Tactic.Common

/-! # Tuples of string literals as Python reads them

The text after the opening parenthesis of a tuple of string literals is read in two passes,
as a compiler does. `Foundation.PythonTuple.lex` goes through the characters (blanks,
comments, continued lines, literals of every form with their escape sequences) and leaves
marks: a literal begins, a code point of it, a comma. `Foundation.PythonTuple.assemble` puts
the entries of the tuple together from the marks; literals that stand side by side are one
entry. What is read so far decides how the rest is read only through the mode of the lexer
(`Foundation.PythonTuple.lex_of_feed`), and how it is assembled only through what the entries
before it were (`Foundation.PythonTuple.assemble_replace`).
-/

namespace Foundation.PythonTuple

/-- The code points of a string. -/
abbrev Value : Type := List Nat

/-- What a literal stands between. -/
inductive Quote where
  | single
  | double
  deriving DecidableEq

def Quote.char : Quote → Char
  | .single => '\''
  | .double => '"'

/-- The quote a character is. -/
def Quote.ofChar? (char : Char) : Option Quote :=
  if char = Quote.single.char then some .single
  else if char = Quote.double.char then some .double
  else none

/-- How a literal is written: as it stands, between three quotes, with which quote. -/
structure Literal where
  raw : Bool
  long : Bool
  quote : Quote
  deriving DecidableEq

/-- An escape sequence that is not complete. -/
inductive Escape where
  | started
  | octal (left value : Nat)
  | hex (left value : Nat)
  | named (spelled : Option (List Char))
  deriving DecidableEq

/-- Where the lexer is. -/
inductive Mode where
  | layout
  | comment
  | continued
  | prefixed (raw : Bool)
  | opened (raw : Bool) (quote : Quote)
  | twice (raw : Bool) (quote : Quote)
  | inside (literal : Literal) (quotes : Nat)
  | escaped (literal : Literal) (escape : Escape)
  deriving DecidableEq

/-- What the lexer tells the parser. -/
inductive Mark where
  | literal
  | point (point : Nat)
  | comma
  deriving DecidableEq

/-- What reading one character comes to; `none` where Python does not accept it. -/
abbrev Step : Type := Option (List Mark × Mode)

/-- Marks that were left before. -/
def after {α : Type} (marks : List Mark) (read : Option (List Mark × α)) :
    Option (List Mark × α) :=
  read.map fun result => (marks ++ result.1, result.2)

/-- The blanks between the tokens of a tuple. -/
def isBlank (char : Char) : Bool :=
  char == ' ' || char == '\t' || char == '\x0c' || char == '\n'

/-- A character between tokens. -/
def layoutStep (char : Char) : Step :=
  if isBlank char then some ([], .layout)
  else if char = '#' then some ([], .comment)
  else if char = '\\' then some ([], .continued)
  else if char = ',' then some ([.comma], .layout)
  else if char = 'r' ∨ char = 'R' then some ([], .prefixed true)
  else if char = 'u' ∨ char = 'U' then some ([], .prefixed false)
  else (Quote.ofChar? char).map fun quote => ([.literal], .opened false quote)

/-- A character of a literal, where no quote and no escape sequence is under way. -/
def insideStep (literal : Literal) (char : Char) : Step :=
  if char = literal.quote.char then
    some ([], if literal.long then .inside literal 1 else .layout)
  else if char = '\\' then some ([], .escaped literal .started)
  else if char = '\n' ∧ literal.long = false then none
  else some ([.point char.toNat], .inside literal 0)

/-- The escape sequences of one character. -/
def shortEscape (char : Char) : Option Nat :=
  if char = '\\' ∨ (Quote.ofChar? char).isSome then some char.toNat
  else if char = 'a' then some 7
  else if char = 'b' then some 8
  else if char = 'f' then some 12
  else if char = 'n' then some 10
  else if char = 'r' then some 13
  else if char = 't' then some 9
  else if char = 'v' then some 11
  else none

def octalDigit (char : Char) : Option Nat :=
  if '0' ≤ char ∧ char ≤ '7' then some (char.toNat - '0'.toNat) else none

def hexDigit (char : Char) : Option Nat :=
  if char.isDigit then some (char.toNat - '0'.toNat)
  else if 'a' ≤ char ∧ char ≤ 'f' then some (char.toNat - 'a'.toNat + 10)
  else if 'A' ≤ char ∧ char ≤ 'F' then some (char.toNat - 'A'.toNat + 10)
  else none

/-- The character after a backslash. A sequence Python does not know stands for itself. -/
def startedStep (literal : Literal) (char : Char) : Step :=
  if literal.raw then some ([.point '\\'.toNat, .point char.toNat], .inside literal 0)
  else if char = '\n' then some ([], .inside literal 0)
  else match shortEscape char with
  | some point => some ([.point point], .inside literal 0)
  | none =>
  match octalDigit char with
  | some value => some ([], .escaped literal (.octal 2 value))
  | none =>
  if char = 'x' then some ([], .escaped literal (.hex 2 0))
  else if char = 'u' then some ([], .escaped literal (.hex 4 0))
  else if char = 'U' then some ([], .escaped literal (.hex 8 0))
  else if char = 'N' then some ([], .escaped literal (.named none))
  else some ([.point '\\'.toNat, .point char.toNat], .inside literal 0)

section Lexer

variable (database : List Char → Option Nat)

/-- A character of an escape sequence; `database` is what the Unicode database of the
interpreter names. -/
def escapedStep (literal : Literal) : Escape → Char → Step
  | .started, char => startedStep literal char
  | .octal left value, char =>
      match octalDigit char, left with
      | some digit, left + 1 => some ([], .escaped literal (.octal left (8 * value + digit)))
      | _, _ => after [.point value] (insideStep literal char)
  | .hex left value, char =>
      match hexDigit char with
      | none => none
      | some digit =>
          if 1 < left then some ([], .escaped literal (.hex (left - 1) (16 * value + digit)))
          else if 16 * value + digit < 0x110000 then
            some ([.point (16 * value + digit)], .inside literal 0)
          else none
  | .named none, char =>
      if char = '\x7b' then some ([], .escaped literal (.named (some []))) else none
  | .named (some spelled), char =>
      if char = '\x7d' then
        (database spelled.reverse).map fun point => ([.point point], .inside literal 0)
      else if char.isAlpha ∨ char.isDigit ∨ char = ' ' ∨ char = '-' then
        some ([], .escaped literal (.named (some (char :: spelled))))
      else none

/-- One character of the text. -/
def step : Mode → Char → Step
  | .layout, char => layoutStep char
  | .comment, char => some ([], if char = '\n' then .layout else .comment)
  | .continued, char => if char = '\n' then some ([], .layout) else none
  | .prefixed raw, char =>
      (Quote.ofChar? char).map fun quote => ([.literal], .opened raw quote)
  | .opened raw quote, char =>
      if char = quote.char then some ([], .twice raw quote)
      else insideStep ⟨raw, false, quote⟩ char
  | .twice raw quote, char =>
      -- the literal was empty unless a third quote follows
      if char = quote.char then some ([], .inside ⟨raw, true, quote⟩ 0) else layoutStep char
  | .inside literal quotes, char =>
      if char = literal.quote.char then
        some ([], if literal.long ∧ quotes < 2 then .inside literal (quotes + 1) else .layout)
      else
        after (List.replicate quotes (.point literal.quote.char.toNat)) (insideStep literal char)
  | .escaped literal escape, char => escapedStep database literal escape char

/-- Between tokens: the last one, if it was a literal, is complete. -/
def Mode.settled : Mode → Bool
  | .layout | .twice _ _ => true
  | _ => false

/-- The parenthesis that ends the tuple. -/
def Mode.closes (mode : Mode) (char : Char) : Bool := mode.settled && char == ')'

/-- The marks of the text up to the end of the tuple, and what stands after it. -/
def lex : Mode → List Char → Option (List Mark × List Char)
  | _, [] => none
  | mode, char :: rest =>
      if mode.closes char then some ([], rest)
      else match step database mode char with
      | none => none
      | some (marks, next) => after marks (lex next rest)

/-- The marks of a text that does not end the tuple, and the mode it leaves. -/
def feed : Mode → List Char → Option (List Mark × Mode)
  | mode, [] => some ([], mode)
  | mode, char :: rest =>
      if mode.closes char then none
      else match step database mode char with
      | none => none
      | some (marks, next) => after marks (feed next rest)

end Lexer

/-- The entries of a tuple from its marks: those that are complete, then the one that is not.
One literal in parentheses is no tuple, and no comma stands without an entry before it. -/
def assemble : List Value → Option Value → List Mark → Option (List Value)
  | entries, entry, [] => if entries = [] then none else some (entries ++ entry.toList)
  | entries, entry, .literal :: marks => assemble entries (some (entry.getD [])) marks
  | entries, entry, .point point :: marks =>
      assemble entries (some (entry.getD [] ++ [point])) marks
  | _, none, .comma :: _ => none
  | entries, some entry, .comma :: marks => assemble (entries ++ [entry]) none marks

/-- The tuple that begins after an opening parenthesis, and what stands after it. -/
def read (database : List Char → Option Nat) (text : List Char) :
    Option (List Value × List Char) :=
  (lex database .layout text).bind fun (marks, rest) =>
    (assemble [] none marks).map fun entries => (entries, rest)

/-! ## Reading in parts -/

section Parts

variable {α : Type} {marks more : List Mark} {database : List Char → Option Nat}
  {mode next : Mode} {char : Char} {front text rest : List Char}

@[simp] theorem after_none : after marks (none : Option (List Mark × α)) = none := rfl

@[simp] theorem after_some (result : List Mark × α) :
    after marks (some result) = some (marks ++ result.1, result.2) := rfl

@[simp] theorem after_nil (read : Option (List Mark × α)) : after [] read = read := by
  cases read <;> rfl

@[simp] theorem after_after (read : Option (List Mark × α)) :
    after marks (after more read) = after (marks ++ more) read := by
  cases read <;> simp

/-- Marks put in front of what was read are in front of the whole. -/
theorem after_eq_some {read : Option (List Mark × α)} {whole : List Mark} {left : α}
    (done : after marks read = some (whole, left)) :
    ∃ later, read = some (later, left) ∧ whole = marks ++ later := by
  cases read with
  | none => cases done
  | some later =>
      cases done
      exact ⟨later.1, rfl, rfl⟩

/-- Reading one character, and then the rest. -/
theorem feed_cons (inside : mode.closes char = false)
    (taken : step database mode char = some (marks, next)) :
    feed database mode (char :: rest) = after marks (feed database next rest) := by
  rw [feed, inside, taken]
  rfl

/-- Reading a text is reading its front, and then the rest in the mode that leaves. -/
theorem feed_append (mode : Mode) (front text : List Char) :
    feed database mode (front ++ text) = (feed database mode front).bind fun result =>
      after result.1 (feed database result.2 text) := by
  induction front generalizing mode with
  | nil => simp [feed]
  | cons char rest ih =>
      rw [List.cons_append, feed, feed]
      by_cases closes : mode.closes char = true
      · simp [closes]
      · simp only [closes, Bool.false_eq_true, ↓reduceIte]
        cases step database mode char with
        | none => rfl
        | some taken =>
            simp only [ih]
            cases feed database taken.2 rest <;> simp

/-- What a text left decides how what stands after it is read only through its mode. -/
theorem lex_of_feed (fed : feed database mode front = some (marks, next)) :
    lex database mode (front ++ text) = after marks (lex database next text) := by
  induction front generalizing mode marks with
  | nil =>
      cases fed
      simp
  | cons char rest ih =>
      rw [feed] at fed
      rw [List.cons_append, lex]
      by_cases closes : mode.closes char = true
      · simp [closes] at fed
      · simp only [closes, Bool.false_eq_true, ↓reduceIte] at fed ⊢
        cases taken : step database mode char with
        | none => simp [taken] at fed
        | some result =>
            obtain ⟨later, fed', split⟩ := after_eq_some (by simpa [taken] using fed)
            simp [ih fed', split]

/-- The lexer stops behind the parenthesis that closes the tuple. -/
theorem lex_of_closes (closes : mode.closes char = true) :
    lex database mode (char :: rest) = some ([], rest) := by rw [lex, if_pos closes]

/-- A tuple ends at a parenthesis between its tokens. -/
theorem lex_eq_some (read : lex database mode text = some (marks, rest)) :
    ∃ front last, text = front ++ ')' :: rest ∧
      feed database mode front = some (marks, last) ∧ last.settled := by
  induction text generalizing mode marks with
  | nil => cases read
  | cons char others ih =>
      rw [lex] at read
      by_cases closes : mode.closes char = true
      · rw [if_pos closes] at read
        cases read
        obtain ⟨settled, here⟩ := Bool.and_eq_true_iff.mp closes
        exact ⟨[], mode, by simp [eq_of_beq here], rfl, settled⟩
      · simp only [closes, Bool.false_eq_true, ↓reduceIte] at read
        cases taken : step database mode char with
        | none => simp [taken] at read
        | some result =>
            obtain ⟨later, read', split⟩ := after_eq_some (by simpa [taken] using read)
            obtain ⟨front, last, whole, fed, settled⟩ := ih read'
            refine ⟨char :: front, last, by rw [whole]; rfl, ?_, settled⟩
            rw [feed_cons (by simpa using closes) taken, fed, split]
            rfl

/-- Between tokens a closing parenthesis ends the tuple. -/
theorem lex_close (settled : mode.settled) :
    lex database mode (')' :: rest) = some ([], rest) :=
  lex_of_closes (by simp [Mode.closes, settled])

/-- Text that goes on inside the tuple has no closing parenthesis between tokens. -/
theorem feed_close (settled : mode.settled) : feed database mode (')' :: rest) = none := by
  simp [feed, Mode.closes, settled]

/-- Reading takes at least the parenthesis. -/
theorem length_lt_of_lex (read : lex database mode text = some (marks, rest)) :
    rest.length < text.length := by
  obtain ⟨front, last, whole, -, -⟩ := lex_eq_some read
  simp only [whole, List.length_append, List.length_cons]
  omega

end Parts

/-! ## Between the tokens and in comments -/

section Layout

variable {database : List Char → Option Nat} {mode next : Mode} {char : Char}
  {marks : List Mark} {text front rest : List Char}

/-- White space and commas. -/
def isSeparator (char : Char) : Bool := Text.isSpace char || char == ','

/-- Between tokens a character that opens no string is layout. -/
theorem step_of_settled (settled : mode.settled) (other : Quote.ofChar? char = none) :
    step database mode char = layoutStep char := by
  cases mode with
  | layout => rfl
  | twice raw quote =>
      refine if_neg fun same => ?_
      rw [same] at other
      cases quote <;> cases other
  | _ => cases settled

/-- A separator opens no string. -/
theorem ofChar?_of_isSeparator (separator : isSeparator char) : Quote.ofChar? char = none := by
  have single : char ≠ Quote.single.char := by rintro rfl; cases separator
  have double : char ≠ Quote.double.char := by rintro rfl; cases separator
  simp [Quote.ofChar?, single, double]

/-- A separator does not end the tuple. -/
theorem closes_of_isSeparator (separator : isSeparator char) : mode.closes char = false := by
  have other : char ≠ ')' := by rintro rfl; cases separator
  simp [Mode.closes, other]

/-- White space between tokens that is no blank is not read. -/
theorem layoutStep_eq_none (separator : isSeparator char) (other : char ≠ ',')
    (strange : isBlank char = false) : layoutStep char = none := by
  have apart : char ≠ '#' ∧ char ≠ '\\' ∧ char ≠ 'r' ∧ char ≠ 'R' ∧ char ≠ 'u' ∧
      char ≠ 'U' := by
    refine ⟨?_, ?_, ?_, ?_, ?_, ?_⟩ <;> (rintro rfl; cases separator)
  simp [layoutStep, strange, other, apart, ofChar?_of_isSeparator separator]

/-- A separator leaves the lexer between tokens, and only a comma is marked. -/
theorem layoutStep_of_isSeparator (separator : isSeparator char) (taken :
    layoutStep char = some (marks, next)) :
    next = .layout ∧ marks = if char = ',' then [.comma] else [] := by
  by_cases comma : char = ','
  · subst comma
    cases taken
    exact ⟨rfl, rfl⟩
  · cases blank : isBlank char with
    | true =>
        rw [layoutStep, if_pos blank] at taken
        cases taken
        exact ⟨rfl, (if_neg comma).symm⟩
    | false => cases (layoutStep_eq_none separator comma blank).symm.trans taken

/-- White space and commas between tokens leave the commas. -/
theorem feed_separators (settled : mode.settled)
    (separators : ∀ char ∈ text, isSeparator char)
    (fed : feed database mode text = some (marks, next)) :
    next.settled ∧ marks = List.replicate (text.count ',') .comma := by
  induction text generalizing mode marks with
  | nil =>
      cases fed
      exact ⟨settled, rfl⟩
  | cons char rest ih =>
      have separator := separators char List.mem_cons_self
      rw [feed, closes_of_isSeparator separator,
        step_of_settled settled (ofChar?_of_isSeparator separator)] at fed
      simp only [Bool.false_eq_true, ↓reduceIte] at fed
      cases taken : layoutStep char with
      | none => simp [taken] at fed
      | some result =>
          obtain ⟨later, fed', whole⟩ := after_eq_some (by simpa [taken] using fed)
          obtain ⟨layout, mark⟩ := layoutStep_of_isSeparator separator taken
          obtain ⟨settled', more⟩ := ih (by rw [layout]; rfl)
            (fun other member => separators other (List.mem_cons_of_mem _ member)) fed'
          refine ⟨settled', ?_⟩
          rw [whole, mark, more, List.count_cons]
          by_cases comma : char = ','
          · simp [comma, List.replicate_succ]
          · simp [comma]

/-- A comment goes on to the end of the line. -/
theorem feed_comment (line : '\n' ∉ text) :
    feed database .comment text = some ([], .comment) := by
  induction text with
  | nil => rfl
  | cons char rest ih =>
      have step' : step database .comment char = some ([], .comment) := by
        have other : char ≠ '\n' := fun same => line (same ▸ List.mem_cons_self)
        simp [step, other]
      rw [feed_cons (by simp [Mode.closes, Mode.settled]) step',
        ih fun member => line (List.mem_cons_of_mem _ member)]
      rfl

/-- A comment ends with its line. -/
theorem feed_comment_line (line : '\n' ∉ front) :
    feed database .comment (front ++ '\n' :: rest) = feed database .layout rest := by
  rw [feed_append, feed_comment line]
  have step' : step database .comment '\n' = some ([], .layout) := rfl
  simp [feed_cons (by simp [Mode.closes, Mode.settled]) step']

/-- What stands after a comment begins a line further down. -/
theorem lex_comment (line : '\n' ∉ front) :
    lex database .comment (front ++ text) = lex database .comment text := by
  rw [lex_of_feed (feed_comment line), after_nil]

end Layout

/-! ## In a literal -/

section Literals

variable {database : List Char → Option Nat} {mode next : Mode} {char : Char}
  {marks : List Mark} {text : List Char} {literal : Literal}

/-- The literal that is being read. -/
def Mode.literal? : Mode → Option Literal
  | .opened raw quote => some ⟨raw, false, quote⟩
  | .inside literal _ | .escaped literal _ => some literal
  | _ => none

/-- Within a literal the lexer is not between tokens. -/
theorem settled_of_literal? (here : mode.literal? = some literal) : mode.settled = false := by
  cases mode <;> first | rfl | cases here

/-- The code points read whose marks are not left yet. -/
def Mode.held : Mode → Value
  | .inside literal quotes => List.replicate quotes literal.quote.char.toNat
  | .escaped _ (.octal _ value) => [value]
  | _ => []

/-- The marks of code points. -/
def points (value : Value) : List Mark := value.map .point

/-- The marks of a text are those of its parts in order. -/
theorem points_append (first second : Value) :
    points (first ++ second) = points first ++ points second := List.map_append

/-- White space, commas and parentheses. -/
def isPlain (char : Char) : Bool := isSeparator char || char == ')'

/-- Plain characters stand before the digits or behind the letters. -/
theorem toNat_of_isPlain (plain : isPlain char) : char.toNat < 48 ∨ 122 < char.toNat := by
  simp only [isPlain, isSeparator, Text.isSpace, Bool.or_eq_true, Bool.and_eq_true,
    decide_eq_true_eq, beq_iff_eq] at plain
  rcases plain with (space | rfl) | rfl
  · omega
  · decide
  · decide

/-- A plain character is no digit. -/
theorem not_isDigit_of_isPlain (plain : isPlain char) : char.isDigit = false := by
  have range := toNat_of_isPlain plain
  rw [Bool.eq_false_iff, ne_eq, Text.isDigit_iff]
  omega

/-- A plain character is no letter. -/
theorem not_isAlpha_of_isPlain (plain : isPlain char) : char.isAlpha = false := by
  have range := toNat_of_isPlain plain
  rw [Bool.eq_false_iff, ne_eq, Text.isAlpha_iff]
  omega

/-- A plain character is no octal digit. -/
theorem octalDigit_of_isPlain (plain : isPlain char) : octalDigit char = none := by
  refine if_neg fun digit => ?_
  have range := toNat_of_isPlain plain
  have low : 48 ≤ char.toNat := UInt32.le_iff_toNat_le.mp digit.1
  have high : char.toNat ≤ 55 := UInt32.le_iff_toNat_le.mp digit.2
  omega

/-- A plain character is no hexadecimal digit. -/
theorem hexDigit_of_isPlain (plain : isPlain char) : hexDigit char = none := by
  have range := toNat_of_isPlain plain
  have small : ¬ ('a' ≤ char ∧ char ≤ 'f') := by
    intro digit
    have low : 97 ≤ char.toNat := UInt32.le_iff_toNat_le.mp digit.1
    have high : char.toNat ≤ 102 := UInt32.le_iff_toNat_le.mp digit.2
    omega
  have capital : ¬ ('A' ≤ char ∧ char ≤ 'F') := by
    intro digit
    have low : 65 ≤ char.toNat := UInt32.le_iff_toNat_le.mp digit.1
    have high : char.toNat ≤ 70 := UInt32.le_iff_toNat_le.mp digit.2
    omega
  rw [hexDigit, not_isDigit_of_isPlain plain, if_neg Bool.false_ne_true, if_neg small,
    if_neg capital]

/-- A plain character differs from every one that is not plain. -/
theorem ne_of_isPlain (plain : isPlain char) (other : Char) (apart : isPlain other = false) :
    char ≠ other := by
  rintro rfl
  rw [plain] at apart
  cases apart

/-- A plain character in a literal stands for itself, save a line feed in a short one. -/
theorem insideStep_of_isPlain (plain : isPlain char) :
    insideStep literal char = if char = '\n' ∧ literal.long = false then none
      else some ([.point char.toNat], .inside literal 0) := by
  have quote : char ≠ literal.quote.char := by
    cases literal with | mk raw long quote => cases quote <;> exact ne_of_isPlain plain _ rfl
  rw [insideStep, if_neg quote, if_neg (ne_of_isPlain plain _ rfl)]

/-- After a backslash a plain character stands with it, save a line feed where the literal is not
raw: both are dropped. -/
theorem startedStep_of_isPlain (plain : isPlain char) :
    startedStep literal char = if literal.raw = false ∧ char = '\n' then
        some ([], .inside literal 0)
      else some ([.point '\\'.toNat, .point char.toNat], .inside literal 0) := by
  have apart := ne_of_isPlain plain
  have short : shortEscape char = none := by
    simp (disch := decide) [shortEscape, Quote.ofChar?, Quote.char, apart]
  rw [startedStep, short, octalDigit_of_isPlain plain]
  by_cases raw : literal.raw = true
  · simp [raw]
  · by_cases line : char = '\n'
    · simp [raw, line]
    · simp (disch := decide) [raw, line, apart]

/-- What stands for itself in a literal, a backslash before it perhaps, or goes on with the
name of a character. -/
theorem step_of_isPlain (here : mode.literal? = some literal) (plain : isPlain char)
    (taken : step database mode char = some (marks, next)) :
    (∃ tail : Value, next = .inside literal 0 ∧ marks = points (mode.held ++ tail) ∧
      (∀ point ∈ tail, point = '\\'.toNat ∨ point = char.toNat) ∧
      (char ≠ '\n' → tail ≠ [])) ∨
    (char = ' ' ∧ marks = [] ∧ mode.held = [] ∧
      ∃ spelled, mode = .escaped literal (.named (some spelled)) ∧
        next = .escaped literal (.named (some (char :: spelled)))) := by
  have apart := ne_of_isPlain plain
  have itself : ∀ before : List Mark, ∀ {marks' : List Mark} {next' : Mode},
      after before (insideStep literal char) = some (marks', next') →
      next' = .inside literal 0 ∧ marks' = before ++ [.point char.toNat] := by
    intro before marks' next' inside
    rw [insideStep_of_isPlain plain] at inside
    by_cases line : char = '\n' ∧ literal.long = false
    · simp [line] at inside
    · rw [if_neg line] at inside
      cases inside
      exact ⟨rfl, rfl⟩
  have quote : ∀ quote : Quote, char ≠ quote.char := by
    intro quote
    cases quote <;> exact apart _ rfl
  cases mode with
  | opened raw opening =>
      cases here
      rw [step, if_neg (quote opening), ← after_nil (insideStep _ _)] at taken
      obtain ⟨rfl, rfl⟩ := itself [] taken
      exact .inl ⟨[char.toNat], rfl, rfl, by simp, by simp⟩
  | inside current quotes =>
      cases here
      rw [step, if_neg (quote _)] at taken
      obtain ⟨rfl, rfl⟩ := itself _ taken
      refine .inl ⟨[char.toNat], rfl, ?_, by simp, by simp⟩
      simp [points, Mode.held]
  | escaped current escape =>
      cases here
      rw [step] at taken
      cases escape with
      | started =>
          rw [escapedStep, startedStep_of_isPlain plain] at taken
          by_cases line : literal.raw = false ∧ char = '\n'
          · rw [if_pos line] at taken
            cases taken
            exact .inl ⟨[], rfl, rfl, by simp, fun other => absurd line.2 other⟩
          · rw [if_neg line] at taken
            cases taken
            exact .inl ⟨['\\'.toNat, char.toNat], rfl, rfl, by simp, by simp⟩
      | octal left value =>
          have inside : after [.point value] (insideStep literal char) = some (marks, next) := by
            simpa only [escapedStep, octalDigit_of_isPlain plain] using taken
          obtain ⟨rfl, rfl⟩ := itself [.point value] inside
          exact .inl ⟨[char.toNat], rfl, rfl, by simp, by simp⟩
      | hex left value =>
          rw [escapedStep, hexDigit_of_isPlain plain] at taken
          cases taken
      | named spelled =>
          cases spelled with
          | none =>
              rw [escapedStep, if_neg (apart _ rfl)] at taken
              cases taken
          | some spelled =>
              rw [escapedStep, if_neg (apart _ rfl)] at taken
              by_cases space : char = ' '
              · subst space
                cases taken
                exact .inr ⟨rfl, rfl, rfl, spelled, rfl, rfl⟩
              · have rest : ¬ (char.isAlpha ∨ char.isDigit ∨ char = ' ' ∨ char = '-') := by
                  simp (disch := decide) [not_isAlpha_of_isPlain plain,
                    not_isDigit_of_isPlain plain, space, apart]
                rw [if_neg rest] at taken
                cases taken
  | _ => cases here

/-- White space and commas before a parenthesis in a literal stand for themselves. -/
theorem feed_plain_close (here : mode.literal? = some literal)
    (separators : ∀ char ∈ text, isSeparator char)
    (fed : feed database mode (text ++ [')']) = some (marks, next)) :
    next = .inside literal 0 ∧ ∃ tail : Value, marks = points (mode.held ++ tail) ∧
      tail ≠ [] ∧ ∀ point ∈ tail, point = '\\'.toNat ∨ ∃ char, isPlain char ∧
        point = char.toNat := by
  have open' : ∀ (mode : Mode) (char : Char), mode.literal? = some literal →
      mode.closes char = false := fun mode char here => by
    rw [Mode.closes, settled_of_literal? here, Bool.false_and]
  induction text generalizing mode marks with
  | nil =>
      rw [List.nil_append, feed, open' _ _ here] at fed
      cases taken : step database mode ')' with
      | none => simp [taken] at fed
      | some result =>
          obtain ⟨left, mode'⟩ := result
          simp only [taken, feed, after_some, List.append_nil, Bool.false_eq_true, ↓reduceIte,
            Option.some.injEq, Prod.mk.injEq] at fed
          rcases step_of_isPlain here rfl taken with ⟨tail, rfl, rfl, all, some⟩ | ⟨space, -⟩
          · refine ⟨fed.2.symm, tail, fed.1.symm, some (by decide), fun point member => ?_⟩
            exact (all point member).imp_right fun same => ⟨')', rfl, same⟩
          · cases space
  | cons char rest ih =>
      have separator := separators char List.mem_cons_self
      have plain : isPlain char := by simp [isPlain, separator]
      rw [List.cons_append, feed, open' _ _ here] at fed
      cases taken : step database mode char with
      | none => simp [taken] at fed
      | some result =>
          obtain ⟨left, mode'⟩ := result
          obtain ⟨later, fed', whole⟩ := after_eq_some (by simpa [taken] using fed)
          have others := fun other member => separators other (List.mem_cons_of_mem char member)
          rcases step_of_isPlain here plain taken with ⟨tail, rfl, rfl, all, -⟩ |
            ⟨-, rfl, held, spelled, -, rfl⟩
          · obtain ⟨inside, more, left, some, all'⟩ := ih rfl others fed'
            refine ⟨inside, tail ++ more, ?_, by simp [some], fun point member => ?_⟩
            · rw [whole, left, ← points_append, List.append_assoc]
              rfl
            · rcases List.mem_append.mp member with early | late
              · exact (all point early).imp_right fun same => ⟨char, plain, same⟩
              · exact all' point late
          · obtain ⟨inside, tail, left, some, all⟩ := ih rfl others fed'
            refine ⟨inside, tail, ?_, some, all⟩
            rw [whole, left, held]
            rfl

end Literals

/-! ## Entries -/

section Entries

variable {entries found : List Value} {marks : List Mark} {value : Value}

/-- Code points go on with the entry. -/
theorem assemble_points (entries : List Value) (entry : Option Value) {value : Value}
    (some' : value ≠ []) (marks : List Mark) :
    assemble entries entry (points value ++ marks) =
      assemble entries (some (entry.getD [] ++ value)) marks := by
  induction value generalizing entry with
  | nil => exact absurd rfl some'
  | cons point rest ih =>
      cases rest with
      | nil => rfl
      | cons second others =>
          have step : assemble entries entry (points (point :: second :: others) ++ marks) =
              assemble entries (some (entry.getD [] ++ [point]))
                (points (second :: others) ++ marks) := rfl
          rw [step, ih _ (List.cons_ne_nil _ _)]
          simp

/-- Entries that are complete are kept, whatever they are. -/
theorem assemble_keeps {entry : Option Value} (nonempty : entries ≠ [])
    (read : assemble entries entry marks = some found) :
    ∃ more, found = entries ++ more ∧ ∀ entries' : List Value, entries' ≠ [] →
      assemble entries' entry marks = some (entries' ++ more) := by
  induction marks generalizing entries entry with
  | nil =>
      rw [assemble, if_neg nonempty] at read
      cases read
      exact ⟨entry.toList, rfl, fun entries' other => if_neg other⟩
  | cons mark rest ih =>
      cases mark with
      | literal => exact ih nonempty read
      | point point => exact ih nonempty read
      | comma =>
          cases entry with
          | none => cases read
          | some value =>
              obtain ⟨more, whole, other⟩ := ih (by simp) read
              refine ⟨value :: more, by simp [whole], fun entries' _ => ?_⟩
              exact (other (entries' ++ [value]) (by simp)).trans (by simp)

/-- Another beginning of the entry that is not complete changes that entry and no other. -/
theorem assemble_replace (read : assemble entries (some value) marks = some found) :
    ∃ rest more, found = entries ++ (value ++ rest) :: more ∧ ∀ value' : Value,
      assemble entries (some value') marks = some (entries ++ (value' ++ rest) :: more) := by
  induction marks generalizing value with
  | nil =>
      by_cases empty : entries = []
      · simp [assemble, empty] at read
      · simp only [assemble, empty, ↓reduceIte, Option.toList_some, Option.some.injEq] at read
        exact ⟨[], [], by simp [← read], fun value' => by simp [assemble, empty]⟩
  | cons mark rest ih =>
      cases mark with
      | literal => exact ih read
      | point point =>
          obtain ⟨later, more, whole, other⟩ := ih read
          refine ⟨point :: later, more, by simp [whole], fun value' => ?_⟩
          exact (other (value' ++ [point])).trans (by simp)
      | comma =>
          have nonempty : entries ++ [value] ≠ [] := by simp
          obtain ⟨more, whole, other⟩ := assemble_keeps nonempty read
          refine ⟨[], more, by simp [whole], fun value' => ?_⟩
          exact (other (entries ++ [value']) (by simp)).trans (by simp)

end Entries

/-! ## The entry that is not complete -/

section Gather

variable {database : List Char → Option Nat} {mode next : Mode} {char : Char}
  {marks more : List Mark} {text : List Char} {entries found : List Value}
  {entry : Option Value}

/-- The entries that marks complete, and the one they do not. -/
def gather : List Value → Option Value → List Mark → Option (List Value × Option Value)
  | entries, entry, [] => some (entries, entry)
  | entries, entry, .literal :: marks => gather entries (some (entry.getD [])) marks
  | entries, entry, .point point :: marks =>
      gather entries (some (entry.getD [] ++ [point])) marks
  | _, none, .comma :: _ => none
  | entries, some entry, .comma :: marks => gather (entries ++ [entry]) none marks

/-- Assembling marks is gathering the first of them, and then assembling the rest. -/
theorem assemble_append (entries : List Value) (entry : Option Value) (marks more : List Mark) :
    assemble entries entry (marks ++ more) =
      (gather entries entry marks).bind fun state => assemble state.1 state.2 more := by
  induction marks generalizing entries entry with
  | nil => rfl
  | cons mark rest ih =>
      cases mark with
      | literal => exact ih _ _
      | point point => exact ih _ _
      | comma =>
          cases entry with
          | none => rfl
          | some value => exact ih _ _

/-- Gathering marks is gathering the first of them, and then the rest. -/
theorem gather_append (entries : List Value) (entry : Option Value) (marks more : List Mark) :
    gather entries entry (marks ++ more) =
      (gather entries entry marks).bind fun state => gather state.1 state.2 more := by
  induction marks generalizing entries entry with
  | nil => rfl
  | cons mark rest ih =>
      cases mark with
      | literal => exact ih _ _
      | point point => exact ih _ _
      | comma =>
          cases entry with
          | none => rfl
          | some value => exact ih _ _

/-- After a comma there is no entry yet, after anything else there is. -/
theorem gather_concat {mark : Mark}
    (gathered : gather entries entry (marks ++ [mark]) = some (found, none)) : mark = .comma := by
  rw [gather_append] at gathered
  cases before : gather entries entry marks with
  | none => simp [before] at gathered
  | some state =>
      cases mark with
      | comma => rfl
      | literal => simp [before, gather] at gathered
      | point point => simp [before, gather] at gathered

/-- After a comma no entry is open. -/
theorem gather_comma {value : Value}
    (gathered : gather entries entry (marks ++ [.comma]) = some (found, some value)) : False := by
  rw [gather_append] at gathered
  cases before : gather entries entry marks with
  | none => simp [before] at gathered
  | some state =>
      obtain ⟨entries', entry'⟩ := state
      cases entry' <;> simp [before, gather] at gathered

/-- An entry has begun exactly if the last mark is not a comma. -/
theorem gather_isSome_iff (gathered : gather [] none marks = some (found, entry)) :
    entry.isSome ↔ ∃ mark, marks.getLast? = some mark ∧ mark ≠ .comma := by
  rcases List.eq_nil_or_concat marks with rfl | ⟨front, mark, rfl⟩
  · cases gathered
    simp
  · rw [List.concat_eq_append] at gathered
    rw [List.concat_eq_append, List.getLast?_concat]
    cases entry with
    | none => simp [gather_concat gathered]
    | some value =>
        have other : mark ≠ .comma := by
          rintro rfl
          exact gather_comma gathered
        simpa using other

/-- The lexer is between the quotes of a literal. -/
def Mode.within : Mode → Bool
  | .opened _ _ | .twice _ _ | .inside _ _ | .escaped _ _ => true
  | _ => false

/-- A blank separates tokens. -/
theorem isSeparator_of_isBlank (blank : isBlank char) : isSeparator char := by
  simp only [isBlank, Bool.or_eq_true, beq_iff_eq] at blank
  rcases blank with ((rfl | rfl) | rfl) | rfl <;> rfl

/-- A character that leads from the layout into an entry begins a literal. -/
theorem layoutStep_speaks (taken : layoutStep char = some (marks, next))
    (speaks : next.within ∨ next.settled ∧ isSeparator char = false) : marks = [.literal] := by
  rw [layoutStep] at taken
  by_cases blank : isBlank char = true
  · rw [if_pos blank] at taken
    cases taken
    simp [Mode.within, isSeparator_of_isBlank blank] at speaks
  by_cases comma : char = ','
  · subst comma
    cases taken
    simp [Mode.within, isSeparator] at speaks
  rw [if_neg blank] at taken
  split_ifs at taken
  iterate 4
    cases taken
    simp [Mode.within, Mode.settled] at speaks
  cases quote : Quote.ofChar? char with
  | none => simp [quote] at taken
  | some quote' =>
      simp only [quote, Option.map_some, Option.some.injEq, Prod.mk.injEq] at taken
      exact taken.1.symm

/-- No comma is marked in a literal. -/
theorem not_comma_of_insideStep {literal : Literal}
    (taken : insideStep literal char = some (marks, next)) : Mark.comma ∉ marks := by
  rw [insideStep] at taken
  split_ifs at taken <;> cases taken <;> simp

/-- No comma is marked after a backslash. -/
theorem not_comma_of_startedStep {literal : Literal}
    (taken : startedStep literal char = some (marks, next)) : Mark.comma ∉ marks := by
  cases short : shortEscape char with
  | some point =>
      simp only [startedStep, short] at taken
      split_ifs at taken <;> cases taken <;> simp
  | none =>
      cases digit : octalDigit char with
      | some value =>
          simp only [startedStep, short, digit] at taken
          split_ifs at taken <;> cases taken <;> simp
      | none =>
          simp only [startedStep, short, digit] at taken
          split_ifs at taken <;> cases taken <;> simp

/-- No comma is marked in an escape. -/
theorem not_comma_of_escapedStep {literal : Literal} {escape : Escape}
    (taken : escapedStep database literal escape char = some (marks, next)) :
    Mark.comma ∉ marks := by
  cases escape with
  | started => exact not_comma_of_startedStep taken
  | octal left value =>
      have inside : after [.point value] (insideStep literal char) = some (marks, next) →
          Mark.comma ∉ marks := by
        intro taken
        obtain ⟨later, taken', rfl⟩ := after_eq_some taken
        simpa using not_comma_of_insideStep taken'
      cases digit : octalDigit char with
      | none => exact inside (by simpa [escapedStep, digit] using taken)
      | some digit' =>
          cases left with
          | zero => exact inside (by simpa [escapedStep, digit] using taken)
          | succ left =>
              simp only [escapedStep, digit, Option.some.injEq, Prod.mk.injEq] at taken
              simp [← taken.1]
  | hex left value =>
      rw [escapedStep] at taken
      cases digit : hexDigit char with
      | none => simp [digit] at taken
      | some digit' =>
          rw [digit] at taken
          simp only at taken
          split_ifs at taken <;> cases taken <;> simp
  | named spelled =>
      cases spelled with
      | none =>
          rw [escapedStep] at taken
          split_ifs at taken
          cases taken
          simp
      | some spelled =>
          rw [escapedStep] at taken
          split_ifs at taken
          · cases point : database spelled.reverse with
            | none => simp [point] at taken
            | some point' =>
                simp only [point, Option.map_some, Option.some.injEq, Prod.mk.injEq] at taken
                simp [← taken.1]
          · cases taken
            simp

/-- A step that goes on with a literal or ends one tells no comma. -/
theorem step_speaks (taken : step database mode char = some (marks, next))
    (speaks : next.within ∨ next.settled ∧ isSeparator char = false) :
    (∃ mark, marks.getLast? = some mark ∧ mark ≠ .comma) ∨ marks = [] ∧ mode.within := by
  have begins : marks = [.literal] →
      (∃ mark, marks.getLast? = some mark ∧ mark ≠ .comma) ∨ marks = [] ∧ mode.within := by
    rintro rfl
    exact .inl ⟨.literal, rfl, by simp⟩
  have goesOn : mode.within → Mark.comma ∉ marks →
      (∃ mark, marks.getLast? = some mark ∧ mark ≠ .comma) ∨ marks = [] ∧ mode.within := by
    intro within absent
    cases last : marks.getLast? with
    | none => exact .inr ⟨List.getLast?_eq_none_iff.mp last, within⟩
    | some mark =>
        exact .inl ⟨mark, rfl, fun same => absent (same ▸ List.mem_of_getLast? last)⟩
  cases mode with
  | layout => exact begins (layoutStep_speaks taken speaks)
  | comment =>
      by_cases line : char = '\n'
      · subst line
        cases taken
        simp [Mode.within, isSeparator, Text.isSpace] at speaks
      · simp only [step, line, ↓reduceIte, Option.some.injEq, Prod.mk.injEq] at taken
        simp [← taken.2, Mode.within, Mode.settled] at speaks
  | continued =>
      by_cases line : char = '\n'
      · subst line
        cases taken
        simp [Mode.within, isSeparator, Text.isSpace] at speaks
      · simp [step, line] at taken
  | prefixed raw =>
      cases quote : Quote.ofChar? char with
      | none => simp [step, quote] at taken
      | some quote' =>
          simp only [step, quote, Option.map_some, Option.some.injEq, Prod.mk.injEq] at taken
          exact begins taken.1.symm
  | opened raw quote =>
      rw [step] at taken
      split_ifs at taken
      · cases taken
        exact .inr ⟨rfl, rfl⟩
      · exact goesOn rfl (not_comma_of_insideStep taken)
  | twice raw quote =>
      rw [step] at taken
      split_ifs at taken
      · cases taken
        exact .inr ⟨rfl, rfl⟩
      · exact begins (layoutStep_speaks taken speaks)
  | inside literal quotes =>
      rw [step] at taken
      split_ifs at taken
      · cases taken
        exact .inr ⟨rfl, rfl⟩
      · cases taken
        exact .inr ⟨rfl, rfl⟩
      · obtain ⟨later, taken', rfl⟩ := after_eq_some taken
        refine goesOn rfl ?_
        simp [not_comma_of_insideStep taken']
  | escaped literal escape => exact goesOn rfl (not_comma_of_escapedStep taken)

/-- The last mark of two texts is that of the second, if it has any. -/
theorem getLast?_append_speaks {mark : Mark} (last : more.getLast? = some mark) :
    (marks ++ more).getLast? = some mark := by
  rw [List.getLast?_append, last]
  rfl

/-- In a literal the last mark is not a comma. -/
theorem feed_speaks (fed : feed database mode text = some (marks, next)) (within : next.within) :
    (∃ mark, marks.getLast? = some mark ∧ mark ≠ .comma) ∨ marks = [] ∧ mode.within := by
  induction text generalizing mode marks with
  | nil =>
      cases fed
      exact .inr ⟨rfl, within⟩
  | cons char rest ih =>
      rw [feed] at fed
      by_cases closes : mode.closes char = true
      · simp [closes] at fed
      · simp only [closes, Bool.false_eq_true, ↓reduceIte] at fed
        cases taken : step database mode char with
        | none => simp [taken] at fed
        | some result =>
            obtain ⟨later, fed', rfl⟩ := after_eq_some (by simpa [taken] using fed)
            rcases ih fed' with ⟨mark, last, other⟩ | ⟨rfl, within'⟩
            · exact .inl ⟨mark, getLast?_append_speaks last, other⟩
            · rw [List.append_nil]
              exact step_speaks taken (.inl within')

/-- Behind a literal the last mark is not a comma. -/
theorem feed_concat_speaks (fed : feed database .layout (text ++ [char]) = some (marks, next))
    (settled : next.settled) (other : isSeparator char = false) :
    ∃ mark, marks.getLast? = some mark ∧ mark ≠ .comma := by
  rw [feed_append] at fed
  cases before : feed database .layout text with
  | none => simp [before] at fed
  | some state =>
      obtain ⟨early, middle⟩ := state
      obtain ⟨later, fed', rfl⟩ := after_eq_some (by simpa [before] using fed)
      rw [feed] at fed'
      by_cases closes : middle.closes char = true
      · simp [closes] at fed'
      · simp only [closes, Bool.false_eq_true, ↓reduceIte] at fed'
        cases taken : step database middle char with
        | none => simp [taken] at fed'
        | some result =>
            obtain ⟨left, middle'⟩ := result
            simp only [taken, feed, after_some, List.append_nil, Option.some.injEq,
              Prod.mk.injEq] at fed'
            obtain ⟨rfl, rfl⟩ := fed'
            rcases step_speaks taken (.inr ⟨settled, other⟩) with ⟨mark, last, apart⟩ |
              ⟨rfl, within⟩
            · exact ⟨mark, getLast?_append_speaks last, apart⟩
            · rw [List.append_nil]
              rcases feed_speaks before within with spoken | ⟨-, clash⟩
              · exact spoken
              · cases clash

/-- White space and commas do not end a literal. -/
theorem literal?_of_feed {literal : Literal} (here : mode.literal? = some literal)
    (separators : ∀ char ∈ text, isSeparator char)
    (fed : feed database mode text = some (marks, next)) : next.literal? = some literal := by
  induction text generalizing mode marks with
  | nil =>
      cases fed
      exact here
  | cons char rest ih =>
      have separator := separators char List.mem_cons_self
      have plain : isPlain char := by simp [isPlain, separator]
      rw [feed, closes_of_isSeparator separator] at fed
      cases taken : step database mode char with
      | none => simp [taken] at fed
      | some result =>
          obtain ⟨left, mode'⟩ := result
          obtain ⟨later, fed', -⟩ := after_eq_some (by simpa [taken] using fed)
          have here' : mode'.literal? = some literal := by
            rcases step_of_isPlain here plain taken with ⟨tail, rfl, -⟩ |
              ⟨-, -, -, spelled, -, rfl⟩ <;> rfl
          exact ih here' (fun other member => separators other (List.mem_cons_of_mem _ member)) fed'

/-- A text that is not read up to its end and has no parenthesis is not read at all. -/
theorem lex_eq_none (absent : ')' ∉ text) (fed : feed database mode text = none)
    (rest : List Char) : lex database mode (text ++ rest) = none := by
  induction text generalizing mode with
  | nil => cases fed
  | cons char others ih =>
      have open' : mode.closes char = false := by
        have other : char ≠ ')' := fun same => absent (same ▸ List.mem_cons_self)
        simp [Mode.closes, other]
      rw [feed, open'] at fed
      rw [List.cons_append, lex, open']
      cases taken : step database mode char with
      | none => rfl
      | some result =>
          cases later : feed database result.2 others with
          | some done => simp [taken, later] at fed
          | none => simp [ih (fun member => absent (List.mem_cons_of_mem _ member)) later]

/-- White space and commas in a literal stand for themselves or are not read. -/
theorem feed_inside {literal : Literal} (separators : ∀ char ∈ text, isSeparator char)
    (fed : feed database (.inside literal 0) text = some (marks, next)) :
    next = .inside literal 0 ∧ ∃ value : Value, marks = points value := by
  induction text generalizing marks with
  | nil =>
      cases fed
      exact ⟨rfl, [], rfl⟩
  | cons char rest ih =>
      have separator := separators char List.mem_cons_self
      have plain : isPlain char := by simp [isPlain, separator]
      rw [feed, closes_of_isSeparator separator] at fed
      cases taken : step database (.inside literal 0) char with
      | none => simp [taken] at fed
      | some result =>
          obtain ⟨left, mode'⟩ := result
          obtain ⟨later, fed', whole⟩ := after_eq_some (by simpa [taken] using fed)
          rcases step_of_isPlain rfl plain taken with ⟨tail, rfl, rfl, -⟩ | ⟨-, -, -, spelled, clash, -⟩
          · obtain ⟨inside, value, rfl⟩ :=
              ih (fun other member => separators other (List.mem_cons_of_mem _ member)) fed'
            exact ⟨inside, _, by rw [whole, ← points_append]⟩
          · cases clash

end Gather

/-! ## Tuples with text behind them -/

section Read

variable {database : List Char → Option Nat} {text rest : List Char} {entries : List Value}

/-- Reading a tuple is lexing it and assembling its marks. -/
theorem read_eq_some_iff : read database text = some (entries, rest) ↔
    ∃ marks, lex database .layout text = some (marks, rest) ∧
      assemble [] none marks = some entries := by
  rw [read]
  cases lexed : lex database .layout text with
  | none => simp
  | some result =>
      obtain ⟨marks, left⟩ := result
      cases assembled : assemble [] none marks with
      | none => simp [assembled]
      | some found => simp [assembled, and_comm]

/-- What stands behind a tuple is not read. -/
theorem read_append (complete : read database text = some (entries, [])) (rest : List Char) :
    read database (text ++ rest) = some (entries, rest) := by
  obtain ⟨marks, lexed, assembled⟩ := read_eq_some_iff.mp complete
  obtain ⟨front, last, rfl, fed, settled⟩ := lex_eq_some lexed
  refine read_eq_some_iff.mpr ⟨marks, ?_, assembled⟩
  rw [List.append_assoc, lex_of_feed fed, List.cons_append, lex_close settled]
  simp

/-- What is read ends with the first closing parenthesis between tokens, and the same is read
without what follows it. -/
theorem exists_of_read (found : read database text = some (entries, rest)) :
    ∃ front, text = front ++ ')' :: rest ∧ read database (front ++ [')']) = some (entries, []) := by
  obtain ⟨marks, lexed, assembled⟩ := read_eq_some_iff.mp found
  obtain ⟨front, last, rfl, fed, settled⟩ := lex_eq_some lexed
  refine ⟨front, rfl, read_eq_some_iff.mpr ⟨marks, ?_, assembled⟩⟩
  rw [lex_of_feed fed, lex_close settled]
  simp

end Read

end Foundation.PythonTuple
