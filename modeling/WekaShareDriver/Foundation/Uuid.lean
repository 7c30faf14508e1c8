import WekaShareDriver.Foundation.Text

/-! # UUIDs

The canonical text of a UUID: five groups of hexadecimal digits separated by dashes.
-/

namespace Foundation

/-- The digits of a UUID. -/
def hexDigits : List Char := "0123456789abcdef".toList

/-- The five groups of digits of a UUID. -/
structure UuidGroups where
  first : List Char
  second : List Char
  third : List Char
  fourth : List Char
  fifth : List Char
  lengths : first.length = 8 ∧ second.length = 4 ∧ third.length = 4 ∧ fourth.length = 4 ∧
    fifth.length = 12
  digits : ∀ char ∈ first ++ second ++ third ++ fourth ++ fifth, char ∈ hexDigits

namespace UuidGroups

variable (groups : UuidGroups)

/-- The text with its dashes. -/
def text : List Char :=
  groups.first ++ '-' :: (groups.second ++ '-' :: (groups.third ++
    '-' :: (groups.fourth ++ '-' :: groups.fifth)))

private theorem take_text : groups.text.take 8 = groups.first := by
  rw [text, ← groups.lengths.1, List.take_left]

private theorem digit_first {char : Char} (member : char ∈ groups.first) : char ∈ hexDigits :=
  groups.digits char (by simp [member])

end UuidGroups

/-- The canonical text of a UUID. -/
def IsUuid (text : String) : Prop := ∃ groups : UuidGroups, text.toList = groups.text

namespace IsUuid

variable {text text' : String}

/-- Eight digits stand at the start. -/
theorem take_eight (uuid : IsUuid text) : (Text.take text 8).toList.length = 8 ∧
    ∀ char ∈ (Text.take text 8).toList, char ∈ hexDigits := by
  obtain ⟨groups, same⟩ := uuid
  rw [Text.toList_take, same, groups.take_text]
  exact ⟨groups.lengths.1, fun _ => groups.digit_first⟩

end IsUuid

end Foundation
