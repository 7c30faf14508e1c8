import WekaShareDriver.Foundation.Text

/-! # Trimming and splitting text

Trimming drops what satisfies a predicate at both ends of a list. It does not see what is
padded to the ends (`Foundation.trim_pad`), and neither does the list of the trimmed parts
between separators that are not trimmed themselves (`Foundation.map_trim_splitOn`).
-/

namespace Foundation

section Lists

variable {α : Type} {p : α → Bool} {front back list : List α}

/-- Drop what satisfies a predicate at both ends of a list. -/
def trim (p : α → Bool) (list : List α) : List α :=
  ((list.dropWhile p).reverse.dropWhile p).reverse

/-- Padding in front is trimmed away. -/
theorem trim_append_left (padding : ∀ x ∈ front, p x) : trim p (front ++ list) = trim p list := by
  rw [trim, List.dropWhile_append_of_pos padding]
  rfl

/-- Padding at the end is trimmed away. -/
theorem trim_append_right (padding : ∀ x ∈ back, p x) : trim p (list ++ back) = trim p list := by
  have padding' : ∀ x ∈ back.reverse, p x := fun x member => padding x (List.mem_reverse.mp member)
  by_cases empty : list.dropWhile p = []
  · have all : ∀ x ∈ list ++ back, p x := by
      intro x member
      rcases List.mem_append.mp member with inList | inBack
      · exact List.dropWhile_eq_nil_iff.mp empty x inList
      · exact padding x inBack
    rw [trim, trim, empty, List.dropWhile_eq_nil_iff.mpr all]
  · have dropped : (list ++ back).dropWhile p = list.dropWhile p ++ back := by
      rw [List.dropWhile_append, if_neg (by simpa using empty)]
    rw [trim, dropped, List.reverse_append, List.dropWhile_append_of_pos padding']
    rfl

/-- What is padded to the ends is trimmed. -/
theorem trim_pad (left : ∀ x ∈ front, p x) (right : ∀ x ∈ back, p x) :
    trim p (front ++ list ++ back) = trim p list := by
  rw [trim_append_right right, trim_append_left left]

/-- A list is its trimmed part with padding around it. -/
theorem exists_trim (p : α → Bool) (list : List α) : ∃ front back, (∀ x ∈ front, p x) ∧
    (∀ x ∈ back, p x) ∧ list = front ++ trim p list ++ back := by
  refine ⟨list.takeWhile p, ((list.dropWhile p).reverse.takeWhile p).reverse,
    fun x member => List.mem_takeWhile_imp member,
    fun x member => List.mem_takeWhile_imp (List.mem_reverse.mp member), ?_⟩
  rw [trim, List.append_assoc, ← List.reverse_append, List.takeWhile_append_dropWhile,
    List.reverse_reverse, List.takeWhile_append_dropWhile]

/-- Trimming twice is trimming once. -/
theorem trim_trim (p : α → Bool) (list : List α) : trim p (trim p list) = trim p list := by
  obtain ⟨front, back, left, right, split⟩ := exists_trim p list
  have whole : trim p list = trim p (front ++ trim p list ++ back) := congrArg (trim p) split
  rw [trim_pad left right] at whole
  exact whole.symm

variable [DecidableEq α] {separator : α}

/-- Text after a split belongs to the last part. -/
theorem splitOn_append_of_not_mem (list : List α) (absent : separator ∉ back) :
    ∃ front last, list.splitOn separator = front ++ [last] ∧
      (list ++ back).splitOn separator = front ++ [last ++ back] := by
  induction list with
  | nil => exact ⟨[], [], by simp, by simp [List.splitOn_eq_singleton absent]⟩
  | cons first rest ih =>
      obtain ⟨front, last, split, split'⟩ := ih
      rw [List.cons_append, List.splitOn_cons_eq_if_modifyHead,
        List.splitOn_cons_eq_if_modifyHead, split, split']
      by_cases same : first = separator
      · exact ⟨[] :: front, last, by simp [same], by simp [same]⟩
      · cases front with
        | nil => exact ⟨[], first :: last, by simp [same], by simp [same]⟩
        | cons part front =>
            exact ⟨(first :: part) :: front, last, by simp [same], by simp [same]⟩

/-- Text before a split belongs to the first part. -/
theorem splitOn_append_left_of_not_mem (list : List α) (absent : separator ∉ front) :
    (front ++ list).splitOn separator =
      (list.splitOn separator).modifyHead (front ++ ·) := by
  induction front with
  | nil =>
      rw [List.nil_append]
      cases list.splitOn separator <;> rfl
  | cons first rest ih =>
      have differs : ¬ first = separator := fun same => absent (by simp [same])
      rw [List.cons_append, List.splitOn_cons_eq_if_modifyHead,
        ih fun member => absent (List.mem_cons_of_mem _ member), if_neg (by simpa using differs)]
      cases list.splitOn separator <;> rfl

/-- The trimmed parts of a text are not changed by padding. -/
theorem map_trim_splitOn (kept : p separator = false) (left : ∀ x ∈ front, p x)
    (right : ∀ x ∈ back, p x) :
    ((front ++ list ++ back).splitOn separator).map (trim p) =
      (list.splitOn separator).map (trim p) := by
  have absent {padding : List α} (all : ∀ x ∈ padding, p x) : separator ∉ padding := by
    intro member
    rw [all separator member] at kept
    cases kept
  obtain ⟨init, last, split, split'⟩ := splitOn_append_of_not_mem list (absent right)
  rw [List.append_assoc, splitOn_append_left_of_not_mem _ (absent left), split, split']
  have trimmed : trim p (last ++ back) = trim p last := trim_append_right right
  cases init with
  | nil => simp [trim_append_left left, trimmed]
  | cons part init => simp [trim_append_left left, trimmed]

end Lists

namespace Text

variable {front back text : String} {separator : Char}

/-- A text of white space only. -/
def Blank (text : String) : Prop := ∀ char ∈ text.toList, isSpace char

/-- Stripping a text trims the white space around its characters. -/
theorem toList_strip (text : String) : (strip text).toList = trim isSpace text.toList :=
  String.toList_ofList

/-- Texts are stripped to one text if their characters are trimmed to the same. -/
theorem strip_eq_iff {left right : String} :
    strip left = strip right ↔ trim isSpace left.toList = trim isSpace right.toList := by
  rw [← String.toList_inj, toList_strip, toList_strip]

/-- Blanks around a text are stripped away. -/
theorem strip_pad (left : Blank front) (right : Blank back) :
    strip (front ++ text ++ back) = strip text := by
  rw [strip_eq_iff, String.toList_append, String.toList_append, trim_pad left right]

/-- Stripping twice is stripping once. -/
theorem strip_strip (text : String) : strip (strip text) = strip text := by
  rw [strip_eq_iff, toList_strip, trim_trim]

/-- Of a blank text nothing is left. -/
theorem strip_of_blank (blank : Blank text) : strip text = "" := by
  have none : trim isSpace text.toList = [] := by
    rw [← List.append_nil text.toList]
    exact trim_append_left blank
  rw [← String.toList_inj, toList_strip, none]
  rfl

/-- A text is its stripped part with blanks around it. -/
theorem exists_strip (text : String) :
    ∃ front back, Blank front ∧ Blank back ∧ text = front ++ strip text ++ back := by
  obtain ⟨front, back, left, right, split⟩ := exists_trim isSpace text.toList
  refine ⟨String.ofList front, String.ofList back, ?_, ?_, ?_⟩
  · rwa [Blank, String.toList_ofList]
  · rwa [Blank, String.toList_ofList]
  · rw [← String.toList_inj, String.toList_append, String.toList_append, String.toList_ofList,
      String.toList_ofList, toList_strip]
    exact split

/-- The stripped parts of a text do not depend on the white space around it. -/
theorem map_strip_splitOn (kept : isSpace separator = false) (text : String) :
    (splitOn (strip text) separator).map strip = (splitOn text separator).map strip := by
  obtain ⟨front, back, left, right, split⟩ := exists_trim isSpace text.toList
  have parts : ((front ++ trim isSpace text.toList ++ back).splitOn separator).map
      (trim isSpace) = _ := map_trim_splitOn kept left right
  rw [← split] at parts
  have stripped (list : List (List Char)) : (list.map String.ofList).map strip =
      (list.map (trim isSpace)).map String.ofList := by
    simp only [List.map_map]
    refine List.map_congr_left fun part _ => ?_
    rw [← String.toList_inj, Function.comp_apply, Function.comp_apply, toList_strip,
      String.toList_ofList, String.toList_ofList]
  rw [splitOn, splitOn, stripped, stripped, toList_strip, parts]

/-- A text with a separator is split into the parts of both sides. -/
theorem splitOn_append (left right : String) (separator : Char) :
    splitOn (left ++ String.singleton separator ++ right) separator =
      splitOn left separator ++ splitOn right separator := by
  simp only [splitOn, String.toList_append, String.toList_singleton, List.append_assoc,
    List.singleton_append, List.splitOn_append_cons_self, List.map_append]

/-- A text without the separator is one piece. -/
theorem splitOn_of_not_mem (absent : separator ∉ text.toList) :
    splitOn text separator = [text] := by
  rw [splitOn, List.splitOn_eq_singleton absent, List.map_singleton, String.ofList_toList]

/-- A word before a space is the first of the words. -/
theorem words_append {word : String} {space : Char} (nonempty : word ≠ "")
    (plain : ∀ char ∈ word.toList, isSpace char = false) (blank : isSpace space = true)
    (rest : String) : words (word ++ String.singleton space ++ rest) = word :: words rest := by
  have filled : word.toList ≠ [] := fun empty => nonempty (by rw [← String.toList_inj, empty]; rfl)
  have whole : word.toList.splitOnP isSpace = [word.toList] :=
    List.splitOnP_eq_singleton fun char member => by simp [plain char member]
  simp only [words, String.toList_append, String.toList_singleton, List.append_assoc,
    List.singleton_append, List.splitOnP_append_cons _ _ blank, whole]
  simp [filled]

end Text

end Foundation
