import Mathlib.Data.List.Basic

/-! # Dictionaries

A dictionary is the list of its items in the order the keys were first
assigned. Assigning a key already present replaces its value in place.
-/

namespace Foundation

/-- The items of a dictionary. -/
abbrev Dict (κ ν : Type) : Type := List (κ × ν)

namespace Dict

variable {κ ν : Type} [DecidableEq κ]

/-- `dict.get(key)`. -/
def get? (dict : Dict κ ν) (key : κ) : Option ν := List.lookup key dict

/-- `dict[key] = value`. -/
def assign : Dict κ ν → κ → ν → Dict κ ν
  | [], key, value => [(key, value)]
  | (other, old) :: rest, key, value =>
      if key = other then (other, value) :: rest else (other, old) :: assign rest key value

@[simp] theorem get?_nil (key : κ) : get? ([] : Dict κ ν) key = none := rfl

/-- What a dictionary with one more entry in front has under a key. -/
theorem get?_cons (other : κ) (old : ν) (rest : Dict κ ν) (key : κ) :
    get? ((other, old) :: rest) key = if key = other then some old else get? rest key := by
  by_cases same : key = other
  · simp [get?, same]
  · have differ : (key == other) = false := beq_false_of_ne same
    simp [get?, List.lookup_cons, same, differ]

/-- An assignment changes what is under its key and nothing else. -/
theorem get?_assign (dict : Dict κ ν) (key other : κ) (value : ν) :
    get? (assign dict key value) other = if other = key then some value else get? dict other := by
  induction dict with
  | nil => simp only [assign, get?_cons, get?_nil]
  | cons item rest ih =>
      obtain ⟨held, old⟩ := item
      by_cases here : key = held
      · subst here
        simp only [assign, ↓reduceIte, get?_cons]
        split <;> rfl
      · simp only [assign, here, ↓reduceIte, get?_cons, ih]
        by_cases same : other = held
        · subst same
          rw [if_pos rfl, if_pos rfl, if_neg (Ne.symm here)]
        · simp only [same, ↓reduceIte]

@[simp] theorem get?_assign_self (dict : Dict κ ν) (key : κ) (value : ν) :
    get? (assign dict key value) key = some value := by
  rw [get?_assign, if_pos rfl]

/-- What is under the other keys stays. -/
theorem get?_assign_of_ne (dict : Dict κ ν) {key other : κ} (value : ν) (different : other ≠ key) :
    get? (assign dict key value) other = get? dict other := by
  rw [get?_assign, if_neg different]

/-- A key with nothing under it is not among the keys. -/
theorem not_mem_keys_of_get?_none {dict : Dict κ ν} {key : κ} (absent : get? dict key = none) :
    key ∉ dict.map Prod.fst := by
  intro member
  obtain ⟨item, listed, rfl⟩ := List.mem_map.mp member
  have differs := List.lookup_eq_none_iff.mp absent item listed
  rw [bne_self_eq_false] at differs
  cases differs

/-- A new key is added at the end. -/
theorem assign_of_get?_none {dict : Dict κ ν} {key : κ} (absent : get? dict key = none) (value : ν) :
    assign dict key value = dict ++ [(key, value)] := by
  induction dict with
  | nil => rfl
  | cons item rest ih =>
      obtain ⟨held, old⟩ := item
      rw [get?_cons] at absent
      by_cases here : key = held
      · rw [if_pos here] at absent
        cases absent
      · rw [if_neg here] at absent
        rw [assign, if_neg here, ih absent, List.cons_append]

end Dict

end Foundation
