import Mathlib.Data.List.Infix
import Mathlib.Data.List.TakeWhile

/-! # Slicing, searching and splitting text

The string operations a Python program uses, on Lean strings: each is the list
operation on the characters, and its `toList` lemma says so.
-/

namespace Foundation.Text

/-- The first characters of a string, `text[:count]`. -/
def take (text : String) (count : Nat) : String := String.ofList (text.toList.take count)

/-- `text[:stop]`; a negative bound counts from the end. -/
def sliceTo (text : String) (stop : Int) : String :=
  if 0 ≤ stop then take text stop.toNat
  else take text (text.toList.length - (-stop).toNat)

/-- The text without any occurrence of a character, `text.replace(char, '')`. -/
def remove (text : String) (char : Char) : String :=
  String.ofList (text.toList.filter (· != char))

/-- `piece in text`. -/
def contains (text piece : String) : Bool := decide (piece.toList <:+: text.toList)

/-- `text.startswith(front)`. -/
def startsWith (text front : String) : Bool := decide (front.toList <+: text.toList)

/-- `text.split(char)`. -/
def splitOn (text : String) (char : Char) : List String :=
  (text.toList.splitOn char).map String.ofList

/-- `text.lower()` on the letters of ASCII. -/
def lower (text : String) : String := String.ofList (text.toList.map Char.toLower)

/-- The white space `str.strip` and `str.split` recognise. -/
def isSpace (char : Char) : Bool :=
  let code := char.toNat
  (9 ≤ code && code ≤ 13) || (28 ≤ code && code ≤ 32) || code == 0x85 || code == 0xa0 ||
    code == 0x1680 || (0x2000 ≤ code && code ≤ 0x200a) || code == 0x2028 || code == 0x2029 ||
    code == 0x202f || code == 0x205f || code == 0x3000

/-- `text.strip()`. -/
def strip (text : String) : String :=
  String.ofList (((text.toList.dropWhile isSpace).reverse.dropWhile isSpace).reverse)

/-- What stands after the last occurrence of a character, or all of the text:
`text.rsplit(char, 1)[-1]`. -/
def afterLast (text : String) (char : Char) : String :=
  String.ofList ((text.toList.reverse.takeWhile (· != char)).reverse)

/-- What stands after the first occurrence of a character, or all of the text:
`text.split(char, 1)[-1]`. -/
def afterFirst (text : String) (char : Char) : String :=
  match text.toList.dropWhile (· != char) with
  | [] => text
  | _ :: rest => String.ofList rest

/-- `text.lstrip(char)`. -/
def lstrip (text : String) (char : Char) : String :=
  String.ofList (text.toList.dropWhile (· == char))

/-- The words of a line, `text.split()`. -/
def words (text : String) : List String :=
  ((text.toList.splitOnP isSpace).filter (· ≠ [])).map String.ofList

@[simp] theorem toList_take (text : String) (count : Nat) :
    (take text count).toList = text.toList.take count := String.toList_ofList

/-! ## Digits and letters of ASCII -/

/-- The digits by their codes. -/
theorem isDigit_iff {char : Char} : char.isDigit = true ↔ 48 ≤ char.toNat ∧ char.toNat ≤ 57 := by
  simp [Char.isDigit, UInt32.le_iff_toNat_le]

/-- The capital letters by their codes. -/
theorem isUpper_iff {char : Char} :
    char.isUpper = true ↔ char.val ≥ 'A'.val ∧ char.val ≤ 'Z'.val := decide_eq_true_iff

/-- The letters by their codes. -/
theorem isAlpha_iff {char : Char} : char.isAlpha = true ↔
    65 ≤ char.toNat ∧ char.toNat ≤ 90 ∨ 97 ≤ char.toNat ∧ char.toNat ≤ 122 := by
  change (decide (char.val ≥ 'A'.val ∧ char.val ≤ 'Z'.val) ||
    (decide (char.val ≥ 'a'.val) && decide (char.val ≤ 'z'.val))) = true ↔ _
  simp [UInt32.le_iff_toNat_le]

/-- A letter is no digit. -/
theorem not_isDigit_of_isAlpha {char : Char} (letter : char.isAlpha = true) :
    ¬ char.isDigit = true := by
  rw [isAlpha_iff] at letter
  rw [isDigit_iff]
  omega

/-- White space is no digit. -/
theorem not_isDigit_of_isSpace {char : Char} (space : isSpace char = true) :
    ¬ char.isDigit = true := by
  rw [isDigit_iff]
  simp [isSpace] at space
  omega

/-- Only letters have small letters, which are letters. -/
theorem toLower_eq_or (char : Char) :
    char.toLower = char ∨ char.isAlpha = true ∧ char.toLower.isAlpha = true := by
  by_cases upper : char.isUpper = true
  · right
    have bounds := isUpper_iff.mp upper
    have range : 65 ≤ char.toNat ∧ char.toNat ≤ 90 := by
      simpa [UInt32.le_iff_toNat_le] using bounds
    have small : char.toLower.toNat = char.toNat + 32 := by
      have lowered : char.toLower = _ := dif_pos bounds
      rw [lowered]
      change (char.val + ('a'.val - 'A'.val)).toNat = char.val.toNat + 32
      change 65 ≤ char.val.toNat ∧ char.val.toNat ≤ 90 at range
      have apart : ('a'.val - 'A'.val : UInt32).toNat = 32 := by decide
      rw [UInt32.toNat_add, apart]
      omega
    rw [isAlpha_iff, isAlpha_iff, small]
    omega
  · left
    exact dif_neg fun bounds => upper (isUpper_iff.mpr bounds)

/-! ## What stands after a character -/

/-- What stands after the last of a character, read from the end. -/
theorem toList_afterLast (text : String) (char : Char) :
    (afterLast text char).toList = (text.toList.reverse.takeWhile (· != char)).reverse :=
  String.toList_ofList

/-- What was put after a character is what stands after its last occurrence. -/
theorem afterLast_append {front text : String} {char : Char}
    (ends : front.toList.getLast? = some char)
    (absent : char ∉ text.toList) : afterLast (front ++ text) char = text := by
  obtain ⟨rest, split⟩ := List.getLast?_eq_some_iff.mp ends
  have every : ∀ other ∈ text.toList.reverse, (other != char) = true := by
    intro other member
    simp only [bne_iff_ne]
    rintro rfl
    exact absent (List.mem_reverse.mp member)
  rw [← String.toList_inj, toList_afterLast, String.toList_append, List.reverse_append, split,
    List.reverse_append, List.takeWhile_append_of_pos every, List.reverse_singleton,
    List.singleton_append, List.takeWhile_cons_of_neg (by simp), List.append_nil,
    List.reverse_reverse]

/-- What stands after a character that occurs is shorter than the text. -/
theorem length_afterFirst_lt {text : String} {char : Char} (member : char ∈ text.toList) :
    (afterFirst text char).toList.length < text.toList.length := by
  have shorter := List.length_dropWhile_le (· != char) text.toList
  unfold afterFirst
  cases rest : text.toList.dropWhile (· != char) with
  | nil =>
      have every := List.dropWhile_eq_nil_iff.mp rest char member
      simp at every
  | cons first others =>
      rw [rest, List.length_cons] at shorter
      rw [String.toList_ofList]
      omega

/-- Stripping makes no text longer. -/
theorem length_lstrip_le (text : String) (char : Char) :
    (lstrip text char).toList.length ≤ text.toList.length := by
  rw [lstrip, String.toList_ofList]
  exact List.length_dropWhile_le _ _

/-- A text contains a piece if the piece is an infix of it. -/
theorem contains_iff {text piece : String} :
    contains text piece = true ↔ piece.toList <:+: text.toList := decide_eq_true_iff

/-- A text starts with another if that is a prefix of it. -/
theorem startsWith_iff {text front : String} :
    startsWith text front = true ↔ front.toList <+: text.toList := decide_eq_true_iff

/-- A text starts with what it was put together from. -/
theorem startsWith_append (front rest : String) : startsWith (front ++ rest) front = true := by
  rw [startsWith_iff, String.toList_append]
  exact List.prefix_append _ _

/-- Texts with one front are the same only if their ends are. -/
theorem append_left_inj {front left right : String} :
    front ++ left = front ++ right ↔ left = right := by
  rw [← String.toList_inj, String.toList_append, String.toList_append, List.append_cancel_left_eq,
    String.toList_inj]

/-- A piece without the separator lies inside one of the parts it separates. -/
theorem infix_of_infix_append_cons {α : Type} {piece left right : List α} {separator : α}
    (within : piece <:+: left ++ separator :: right) (absent : separator ∉ piece) :
    piece <:+: left ∨ piece <:+: right := by
  rcases List.infix_append_iff.mp within with inLeft | inRight | ⟨front, back, rfl, ends, starts⟩
  · exact Or.inl inLeft
  · rcases List.infix_cons_iff.mp inRight with starts | inside
    · cases piece with
      | nil => exact Or.inl List.nil_infix
      | cons first rest =>
          obtain ⟨rfl, _⟩ := List.cons_prefix_cons.mp starts
          exact absurd List.mem_cons_self absent
    · exact Or.inr inside
  · cases back with
    | nil => exact Or.inl (by simpa using ends.isInfix)
    | cons first rest =>
        obtain ⟨rfl, _⟩ := List.cons_prefix_cons.mp starts
        exact absurd (by simp) absent

end Foundation.Text
