import Mathlib.Data.List.Nodup
import Mathlib.Logic.Function.Basic

/-! # Registries of named records

A registry keeps the records of one kind that a server has issued: each under a
uid that is never issued twice, and at most one under each key
(`Foundation.Registry`). Both facts are part of the structure, so every
registry that can be built has them. Looking a record up by its key turns the
registry into a partial function of keys, and creating, changing and erasing a
record are then updates of that function at one key
(`Foundation.Registry.find?_insert`, `Foundation.Registry.find?_modify`,
`Foundation.Registry.find?_erase`). What holds of every record is kept by all of
them under the obvious conditions (`Foundation.Registry.Every`).
-/

namespace Foundation

/-- A record together with the uid it was issued under. -/
structure Entry (ρ : Type) where
  uid : Nat
  val : ρ
  deriving DecidableEq

/-- Records carrying a key that identifies them. -/
class Keyed (ρ : Type) (κ : outParam Type) where
  key : ρ → κ

/-- The records issued and not erased, in the order of their creation. -/
structure Registry (ρ : Type) {κ : Type} [Keyed ρ κ] where
  rows : List (Entry ρ)
  next : Nat
  below : ∀ entry ∈ rows, entry.uid < next
  uids : (rows.map Entry.uid).Nodup
  keys : (rows.map fun entry => Keyed.key entry.val).Nodup

namespace Registry

variable {ρ κ : Type} [Keyed ρ κ]

/-- A registry is its records and the number that is issued next. -/
@[ext] theorem ext {first second : Registry ρ} (rows : first.rows = second.rows)
    (next : first.next = second.next) : first = second := by
  cases first
  cases second
  simp_all only

/-- Nothing issued yet. -/
def empty : Registry ρ := ⟨[], 0, by simp, by simp, by simp⟩

/-- Records with one uid are one record. -/
theorem eq_of_uid (registry : Registry ρ) {first second : Entry ρ} (left : first ∈ registry.rows)
    (right : second ∈ registry.rows) (same : first.uid = second.uid) : first = second :=
  List.inj_on_of_nodup_map registry.uids left right same

/-- Records with one key are one record. -/
theorem eq_of_key (registry : Registry ρ) {first second : Entry ρ} (left : first ∈ registry.rows)
    (right : second ∈ registry.rows) (same : Keyed.key first.val = Keyed.key second.val) :
    first = second :=
  List.inj_on_of_nodup_map registry.keys left right same

/-- The record issued under a uid. -/
def get? (registry : Registry ρ) (uid : Nat) : Option (Entry ρ) :=
  registry.rows.find? fun entry => entry.uid == uid

/-- What is found by uid is a record with that uid. -/
theorem get?_eq_some_iff {registry : Registry ρ} {uid : Nat} {entry : Entry ρ} :
    registry.get? uid = some entry ↔ entry ∈ registry.rows ∧ entry.uid = uid := by
  constructor
  · intro found
    exact ⟨List.mem_of_find?_eq_some found, by simpa using List.find?_some found⟩
  · rintro ⟨member, rfl⟩
    cases found : registry.get? entry.uid with
    | none => simpa using List.find?_eq_none.mp found entry member
    | some other =>
        have same : other.uid = entry.uid := by simpa using List.find?_some found
        rw [registry.eq_of_uid (List.mem_of_find?_eq_some found) member same]

/-- A record is found by its uid. -/
theorem get?_of_mem {registry : Registry ρ} {entry : Entry ρ} (member : entry ∈ registry.rows) :
    registry.get? entry.uid = some entry :=
  get?_eq_some_iff.mpr ⟨member, rfl⟩

variable [DecidableEq κ]

/-- The record with a key. -/
def find? (registry : Registry ρ) (key : κ) : Option (Entry ρ) :=
  registry.rows.find? fun entry => decide (Keyed.key entry.val = key)

/-- What is found by key is a record with that key. -/
theorem find?_eq_some_iff {registry : Registry ρ} {key : κ} {entry : Entry ρ} :
    registry.find? key = some entry ↔ entry ∈ registry.rows ∧ Keyed.key entry.val = key := by
  constructor
  · intro found
    exact ⟨List.mem_of_find?_eq_some found, by simpa using List.find?_some found⟩
  · rintro ⟨member, rfl⟩
    cases found : registry.find? (Keyed.key entry.val) with
    | none => simpa using List.find?_eq_none.mp found entry member
    | some other =>
        have same : Keyed.key other.val = Keyed.key entry.val := by
          simpa using List.find?_some found
        rw [registry.eq_of_key (List.mem_of_find?_eq_some found) member same]

/-- Nothing is found by a key that no record has. -/
theorem find?_eq_none_iff {registry : Registry ρ} {key : κ} :
    registry.find? key = none ↔ ∀ entry ∈ registry.rows, Keyed.key entry.val ≠ key := by
  simp [find?, List.find?_eq_none]

/-- A record is found by its key. -/
theorem find?_of_mem {registry : Registry ρ} {entry : Entry ρ} (member : entry ∈ registry.rows) :
    registry.find? (Keyed.key entry.val) = some entry :=
  find?_eq_some_iff.mpr ⟨member, rfl⟩

omit [DecidableEq κ] in
/-- No record is there twice. -/
theorem nodup_rows (registry : Registry ρ) : registry.rows.Nodup := .of_map _ registry.uids

/-- At most one record carries a key. -/
theorem filter_key (registry : Registry ρ) (key : κ) :
    registry.rows.filter (fun entry => decide (Keyed.key entry.val = key)) =
      (registry.find? key).toList := by
  cases found : registry.find? key with
  | none =>
      rw [Option.toList_none, List.filter_eq_nil_iff]
      intro entry member
      simpa using find?_eq_none_iff.mp found entry member
  | some entry =>
      obtain ⟨member, carries⟩ := find?_eq_some_iff.mp found
      have distinct : (registry.rows.filter fun other =>
          decide (Keyed.key other.val = key)).Nodup :=
        registry.nodup_rows.filter _
      have only : ∀ other ∈ registry.rows.filter fun other =>
          decide (Keyed.key other.val = key), other = entry := by
        intro other inside
        obtain ⟨member', carries'⟩ := List.mem_filter.mp inside
        exact registry.eq_of_key member' member ((of_decide_eq_true carries').trans carries.symm)
      have inside : entry ∈ registry.rows.filter fun other =>
          decide (Keyed.key other.val = key) :=
        List.mem_filter.mpr ⟨member, decide_eq_true carries⟩
      rw [Option.toList_some]
      by_contra other
      rcases (distinct.ne_singleton_iff entry).mp other with none' | ⟨another, inside', differs⟩
      · rw [none'] at inside
        cases inside
      · exact differs (only another inside')

/-- Nothing is found in the empty registry. -/
theorem find?_empty (key : κ) : (empty : Registry ρ).find? key = none := rfl

/-- A record found by its key is the one issued under its uid. -/
theorem get?_of_find? {registry : Registry ρ} {key : κ} {entry : Entry ρ}
    (found : registry.find? key = some entry) : registry.get? entry.uid = some entry :=
  get?_of_mem (find?_eq_some_iff.mp found).1

/-- A selection of the records finds by key what the whole registry finds, when
the key decides the selection. -/
theorem find?_filter (registry : Registry ρ) (selected : Entry ρ → Bool) (named : Entry ρ → Bool)
    (key : κ) (exact' : ∀ entry : Entry ρ, (selected entry && named entry) =
      decide (Keyed.key entry.val = key)) :
    (registry.rows.filter selected).find? named = registry.find? key := by
  rw [List.find?_filter, find?]
  congr 1
  funext entry
  rw [← exact' entry, Bool.decide_and, Bool.decide_eq_true, Bool.decide_eq_true]

/-! ## Creating, changing and erasing a record -/

/-- Issue a new record under a free key. -/
def issue (registry : Registry ρ) (val : ρ) (free : registry.find? (Keyed.key val) = none) :
    Registry ρ where
  rows := registry.rows ++ [⟨registry.next, val⟩]
  next := registry.next + 1
  below := by
    intro entry member
    rcases List.mem_append.mp member with earlier | latest
    · exact Nat.lt_succ_of_lt (registry.below entry earlier)
    · rw [List.mem_singleton.mp latest]
      exact Nat.lt_succ_self _
  uids := by
    rw [List.map_append, List.nodup_append]
    refine ⟨registry.uids, by simp, ?_⟩
    intro uid earlier uid' latest same
    obtain ⟨entry, member, rfl⟩ := List.mem_map.mp earlier
    simp only [List.map_cons, List.map_nil, List.mem_singleton] at latest
    exact absurd (registry.below entry member) (by rw [same, latest]; exact Nat.lt_irrefl _)
  keys := by
    rw [List.map_append, List.nodup_append]
    refine ⟨registry.keys, by simp, ?_⟩
    intro key earlier key' latest same
    obtain ⟨entry, member, rfl⟩ := List.mem_map.mp earlier
    simp only [List.map_cons, List.map_nil, List.mem_singleton] at latest
    exact find?_eq_none_iff.mp free entry member (same.trans latest)

/-- Issue a new record; nothing changes when its key is taken. -/
def insert (registry : Registry ρ) (val : ρ) : Registry ρ :=
  if free : registry.find? (Keyed.key val) = none then registry.issue val free else registry

/-- Change the record under a uid, keeping its key. -/
def modify (registry : Registry ρ) (uid : Nat) (change' : ρ → ρ)
    (keeps : ∀ val, Keyed.key (change' val) = Keyed.key val) : Registry ρ where
  rows := registry.rows.map fun entry =>
    if entry.uid = uid then ⟨entry.uid, change' entry.val⟩ else entry
  next := registry.next
  below := by
    intro entry member
    obtain ⟨original, earlier, rfl⟩ := List.mem_map.mp member
    split
    · exact registry.below original earlier
    · exact registry.below original earlier
  uids := by
    rw [List.map_map]
    convert registry.uids using 2
    funext entry
    simp only [Function.comp_apply]
    split <;> rfl
  keys := by
    rw [List.map_map]
    convert registry.keys using 2
    funext entry
    simp only [Function.comp_apply]
    split
    · exact keeps _
    · rfl

/-- Change every record, keeping uids and keys. -/
def modifyAll (registry : Registry ρ) (change' : ρ → ρ)
    (keeps : ∀ val, Keyed.key (change' val) = Keyed.key val) : Registry ρ where
  rows := registry.rows.map fun entry => ⟨entry.uid, change' entry.val⟩
  next := registry.next
  below := by
    intro entry member
    obtain ⟨original, earlier, rfl⟩ := List.mem_map.mp member
    exact registry.below original earlier
  uids := by
    rw [List.map_map]
    exact registry.uids
  keys := by
    rw [List.map_map]
    convert registry.keys using 2
    funext entry
    exact keeps _

/-- Remove the records that do not satisfy a test. -/
def filter (registry : Registry ρ) (keep : Entry ρ → Bool) : Registry ρ where
  rows := registry.rows.filter keep
  next := registry.next
  below := fun entry member => registry.below entry (List.mem_filter.mp member).1
  uids := registry.uids.sublist (List.filter_sublist.map _)
  keys := registry.keys.sublist (List.filter_sublist.map _)

/-- Remove the record under a uid. -/
def erase (registry : Registry ρ) (uid : Nat) : Registry ρ :=
  registry.filter fun entry => entry.uid != uid

/-- After an insertion under a free key the records are those before and the new one. -/
theorem mem_insert {registry : Registry ρ} {val : ρ}
    (free : registry.find? (Keyed.key val) = none) {entry : Entry ρ} :
    entry ∈ (registry.insert val).rows ↔
      entry ∈ registry.rows ∨ entry = ⟨registry.next, val⟩ := by
  simp [insert, issue, free]

omit [DecidableEq κ] in
/-- After an erasure the records are those with other uids. -/
theorem mem_erase {registry : Registry ρ} {uid : Nat} {entry : Entry ρ} :
    entry ∈ (registry.erase uid).rows ↔ entry ∈ registry.rows ∧ entry.uid ≠ uid := by
  simp [erase, filter]

omit [DecidableEq κ] in
/-- An erased uid stands for nothing. -/
theorem get?_erase (registry : Registry ρ) (uid : Nat) : (registry.erase uid).get? uid = none := by
  cases found : (registry.erase uid).get? uid with
  | none => rfl
  | some entry =>
      obtain ⟨member, same⟩ := get?_eq_some_iff.mp found
      exact absurd same (mem_erase.mp member).2

omit [DecidableEq κ] in
/-- After a change the records are those before, the one with the uid changed. -/
theorem mem_modify {registry : Registry ρ} {uid : Nat} {change' : ρ → ρ}
    {keeps : ∀ val, Keyed.key (change' val) = Keyed.key val} {entry : Entry ρ} :
    entry ∈ (registry.modify uid change' keeps).rows ↔
      ∃ original ∈ registry.rows,
        (if original.uid = uid then ⟨original.uid, change' original.val⟩ else original) = entry :=
  List.mem_map

omit [DecidableEq κ] in
/-- A changed record is found by its uid. -/
theorem get?_modify {registry : Registry ρ} {entry : Entry ρ}
    (found : registry.get? entry.uid = some entry) (change' : ρ → ρ)
    (keeps : ∀ val, Keyed.key (change' val) = Keyed.key val) :
    (registry.modify entry.uid change' keeps).get? entry.uid =
      some ⟨entry.uid, change' entry.val⟩ := by
  have member := (get?_eq_some_iff.mp found).1
  exact get?_eq_some_iff.mpr ⟨mem_modify.mpr ⟨entry, member, if_pos rfl⟩, rfl⟩

omit [DecidableEq κ] in
/-- Two changes of one record are one. -/
theorem modify_modify (registry : Registry ρ) (uid : Nat) (first second : ρ → ρ)
    (keeps : ∀ val, Keyed.key (first val) = Keyed.key val)
    (keeps' : ∀ val, Keyed.key (second val) = Keyed.key val) :
    (registry.modify uid first keeps).modify uid second keeps' =
      registry.modify uid (fun val => second (first val)) fun val => (keeps' _).trans (keeps val) := by
  refine Registry.ext ?_ rfl
  simp only [modify, List.map_map]
  refine List.map_congr_left fun entry _ => ?_
  by_cases same : entry.uid = uid <;> simp [same]

omit [DecidableEq κ] in
/-- What a record was changed to does not matter once it is erased. -/
theorem erase_modify (registry : Registry ρ) (uid : Nat) (change' : ρ → ρ)
    (keeps : ∀ val, Keyed.key (change' val) = Keyed.key val) :
    (registry.modify uid change' keeps).erase uid = registry.erase uid := by
  refine Registry.ext ?_ rfl
  simp only [erase, filter, modify]
  induction registry.rows with
  | nil => rfl
  | cons entry rest ih =>
      rw [List.map_cons]
      by_cases same : entry.uid = uid
      · simpa [same] using ih
      · simpa [same] using ih

omit [DecidableEq κ] in
/-- The records before the last one have other uids. -/
theorem uid_ne_of_last {registry : Registry ρ} {earlier : List (Entry ρ)} {last : Entry ρ}
    (split : registry.rows = earlier ++ [last]) {entry : Entry ρ} (member : entry ∈ earlier) :
    entry.uid ≠ last.uid := by
  have distinct := registry.uids
  rw [split, List.map_append, List.nodup_append] at distinct
  exact distinct.2.2 _ (List.mem_map_of_mem member) _ (by simp)

omit [DecidableEq κ] in
/-- Changing the last record leaves the earlier ones. -/
theorem rows_modify_last {registry : Registry ρ} {earlier : List (Entry ρ)} {last : Entry ρ}
    (split : registry.rows = earlier ++ [last]) (change' : ρ → ρ)
    (keeps : ∀ val, Keyed.key (change' val) = Keyed.key val) :
    (registry.modify last.uid change' keeps).rows = earlier ++ [⟨last.uid, change' last.val⟩] := by
  have kept : earlier.map (fun entry =>
      if entry.uid = last.uid then ⟨entry.uid, change' entry.val⟩ else entry) = earlier :=
    (List.map_congr_left fun entry member => if_neg (uid_ne_of_last split member)).trans
      (List.map_id _)
  simp only [modify, split, List.map_append, kept, List.map_cons, ↓reduceIte, List.map_nil]

omit [DecidableEq κ] in
/-- Erasing the last record leaves the earlier ones. -/
theorem rows_erase_last {registry : Registry ρ} {earlier : List (Entry ρ)} {last : Entry ρ}
    (split : registry.rows = earlier ++ [last]) : (registry.erase last.uid).rows = earlier := by
  have kept : (earlier.filter fun entry => entry.uid != last.uid) = earlier :=
    List.filter_eq_self.mpr fun entry member => bne_iff_ne.mpr (uid_ne_of_last split member)
  simp only [erase, filter, split, List.filter_append, kept, List.filter_cons, bne_self_eq_false,
    Bool.false_eq_true, ↓reduceIte, List.filter_nil, List.append_nil]

/-- Erasing the record found at a key leaves those of the other keys. -/
theorem erase_of_find? {registry : Registry ρ} {key : κ} {entry : Entry ρ}
    (found : registry.find? key = some entry) :
    registry.erase entry.uid = registry.filter fun other => decide (Keyed.key other.val ≠ key) := by
  obtain ⟨member, carries⟩ := find?_eq_some_iff.mp found
  refine Registry.ext ?_ rfl
  refine List.filter_congr fun other inside => ?_
  by_cases same : Keyed.key other.val = key
  · rw [registry.eq_of_key inside member (same.trans carries.symm)]
    simp [carries]
  · have different : other.uid ≠ entry.uid := by
      intro equal
      rw [registry.eq_of_uid inside member equal] at same
      exact same carries
    simp [same, different]

omit [DecidableEq κ] in
/-- What every record satisfies removes none. -/
theorem filter_eq_self {registry : Registry ρ} {keep : Entry ρ → Bool}
    (all : ∀ entry ∈ registry.rows, keep entry = true) : registry.filter keep = registry :=
  Registry.ext (List.filter_eq_self.mpr all) rfl

omit [DecidableEq κ] in
/-- Filtering twice is filtering by both. -/
theorem filter_filter (registry : Registry ρ) (first second : Entry ρ → Bool) :
    (registry.filter first).filter second = registry.filter fun entry => first entry && second entry := by
  refine Registry.ext ?_ rfl
  simp only [filter, List.filter_filter]
  exact List.filter_congr fun entry _ => Bool.and_comm _ _

omit [DecidableEq κ] in
/-- Filters that agree on the records leave the same. -/
theorem filter_congr {registry : Registry ρ} {first second : Entry ρ → Bool}
    (same : ∀ entry ∈ registry.rows, first entry = second entry) :
    registry.filter first = registry.filter second :=
  Registry.ext (List.filter_congr same) rfl

omit [DecidableEq κ] in
/-- A filter leaves the records it keeps. -/
theorem mem_filter {registry : Registry ρ} {keep : Entry ρ → Bool} {entry : Entry ρ} :
    entry ∈ (registry.filter keep).rows ↔ entry ∈ registry.rows ∧ keep entry = true :=
  List.mem_filter

/-- Creating a record updates the lookup at its key. -/
theorem find?_insert (registry : Registry ρ) (val : ρ)
    (free : registry.find? (Keyed.key val) = none) :
    (registry.insert val).find? =
      Function.update registry.find? (Keyed.key val) (some ⟨registry.next, val⟩) := by
  funext key
  by_cases same : key = Keyed.key val
  · subst same
    rw [Function.update_self, find?_eq_some_iff, mem_insert free]
    exact ⟨Or.inr rfl, rfl⟩
  · rw [Function.update_of_ne same]
    cases found : registry.find? key with
    | some entry =>
        rw [find?_eq_some_iff] at found ⊢
        exact ⟨(mem_insert free).mpr (Or.inl found.1), found.2⟩
    | none =>
        rw [find?_eq_none_iff] at found ⊢
        intro entry member
        rcases (mem_insert free).mp member with earlier | rfl
        · exact found entry earlier
        · exact fun equal => same equal.symm

/-- Changing the record found at a key updates the lookup at that key. -/
theorem find?_modify {registry : Registry ρ} {key : κ} {entry : Entry ρ}
    (found : registry.find? key = some entry) (change' : ρ → ρ)
    (keeps : ∀ val, Keyed.key (change' val) = Keyed.key val) :
    (registry.modify entry.uid change' keeps).find? =
      Function.update registry.find? key (some ⟨entry.uid, change' entry.val⟩) := by
  have here := find?_eq_some_iff.mp found
  funext other
  by_cases same : other = key
  · subst same
    rw [Function.update_self, find?_eq_some_iff, mem_modify]
    exact ⟨⟨entry, here.1, by simp⟩, by rw [keeps]; exact here.2⟩
  · rw [Function.update_of_ne same]
    cases lookup : registry.find? other with
    | some kept =>
        have there := find?_eq_some_iff.mp lookup
        have different : kept.uid ≠ entry.uid := by
          intro equal
          rw [registry.eq_of_uid there.1 here.1 equal] at there
          exact same (there.2.symm.trans here.2)
        exact find?_eq_some_iff.mpr ⟨mem_modify.mpr ⟨kept, there.1, by simp [different]⟩, there.2⟩
    | none =>
        rw [find?_eq_none_iff] at lookup ⊢
        intro changed member
        obtain ⟨original, earlier, rfl⟩ := mem_modify.mp member
        split
        · rw [keeps]
          exact lookup original earlier
        · exact lookup original earlier

/-- Erasing the record found at a key clears the lookup at that key. -/
theorem find?_erase {registry : Registry ρ} {key : κ} {entry : Entry ρ}
    (found : registry.find? key = some entry) :
    (registry.erase entry.uid).find? = Function.update registry.find? key none := by
  have here := find?_eq_some_iff.mp found
  funext other
  by_cases same : other = key
  · subst same
    rw [Function.update_self, find?_eq_none_iff]
    intro kept member equal
    obtain ⟨earlier, different⟩ := mem_erase.mp member
    exact different (congrArg Entry.uid (registry.eq_of_key earlier here.1
      (equal.trans here.2.symm)))
  · rw [Function.update_of_ne same]
    cases lookup : registry.find? other with
    | some kept =>
        have there := find?_eq_some_iff.mp lookup
        refine find?_eq_some_iff.mpr ⟨mem_erase.mpr ⟨there.1, ?_⟩, there.2⟩
        intro equal
        rw [registry.eq_of_uid there.1 here.1 equal] at there
        exact same (there.2.symm.trans here.2)
    | none =>
        rw [find?_eq_none_iff] at lookup ⊢
        exact fun kept member => lookup kept (mem_erase.mp member).1

/-- Changing all records changes every lookup. -/
theorem find?_modifyAll (registry : Registry ρ) (change' : ρ → ρ)
    (keeps : ∀ val, Keyed.key (change' val) = Keyed.key val) (key : κ) :
    (registry.modifyAll change' keeps).find? key =
      (registry.find? key).map fun entry => ⟨entry.uid, change' entry.val⟩ := by
  cases found : registry.find? key with
  | some entry =>
      have here := find?_eq_some_iff.mp found
      exact find?_eq_some_iff.mpr ⟨List.mem_map.mpr ⟨entry, here.1, rfl⟩, by rw [keeps]; exact here.2⟩
  | none =>
      rw [find?_eq_none_iff] at found
      refine find?_eq_none_iff.mpr fun changed member => ?_
      obtain ⟨original, earlier, rfl⟩ := List.mem_map.mp member
      rw [keeps]
      exact found original earlier

/-! ## Later states of a registry -/

/-- A later state of a registry: a uid issued before stands for the same key, if
for anything. -/
structure Follows (earlier later : Registry ρ) : Prop where
  next : earlier.next ≤ later.next
  keys : ∀ entry ∈ later.rows, entry.uid < earlier.next →
    ∃ origin ∈ earlier.rows, origin.uid = entry.uid ∧ Keyed.key origin.val = Keyed.key entry.val

namespace Follows

omit [DecidableEq κ]

variable {first second : Registry ρ}

/-- A registry follows itself. -/
theorem refl (registry : Registry ρ) : Follows registry registry :=
  ⟨Nat.le_refl _, fun entry member _ => ⟨entry, member, rfl, rfl⟩⟩

/-- Where nothing new is issued, every record was there before. -/
theorem origin (follows : Follows first second) (same : second.next = first.next)
    {entry : Entry ρ} (member : entry ∈ second.rows) :
    ∃ origin ∈ first.rows, origin.uid = entry.uid ∧
      Keyed.key origin.val = Keyed.key entry.val :=
  follows.keys entry member (same ▸ second.below entry member)

/-- Changing a record issues nothing and keeps all keys. -/
theorem modify (registry : Registry ρ) (uid : Nat) (change' : ρ → ρ)
    (keeps : ∀ val, Keyed.key (change' val) = Keyed.key val) :
    Follows registry (registry.modify uid change' keeps) := by
  refine ⟨Nat.le_refl _, fun entry member _ => ?_⟩
  obtain ⟨origin, earlier, rfl⟩ := mem_modify.mp member
  refine ⟨origin, earlier, ?_⟩
  split
  · exact ⟨rfl, (keeps _).symm⟩
  · exact ⟨rfl, rfl⟩

/-- Changing all records issues nothing and keeps all keys. -/
theorem modifyAll (registry : Registry ρ) (change' : ρ → ρ)
    (keeps : ∀ val, Keyed.key (change' val) = Keyed.key val) :
    Follows registry (registry.modifyAll change' keeps) := by
  refine ⟨Nat.le_refl _, fun entry member _ => ?_⟩
  obtain ⟨origin, earlier, rfl⟩ := List.mem_map.mp member
  exact ⟨origin, earlier, rfl, (keeps _).symm⟩

/-- Erasing a record issues nothing and keeps all keys. -/
theorem erase (registry : Registry ρ) (uid : Nat) : Follows registry (registry.erase uid) :=
  ⟨Nat.le_refl _, fun entry member _ => ⟨entry, (mem_erase.mp member).1, rfl, rfl⟩⟩

end Follows

/-- What is issued new was not there before. -/
theorem Follows.insert (registry : Registry ρ) (val : ρ) :
    Follows registry (registry.insert val) := by
  by_cases free : registry.find? (Keyed.key val) = none
  · have next : (registry.insert val).next = registry.next + 1 := by simp [Registry.insert, free, issue]
    refine ⟨next ▸ Nat.le_succ _, fun entry member earlier => ?_⟩
    rcases (mem_insert free).mp member with old | rfl
    · exact ⟨entry, old, rfl, rfl⟩
    · exact absurd earlier (Nat.lt_irrefl _)
  · have same : registry.insert val = registry := by simp [Registry.insert, free]
    rw [same]
    exact .refl registry

/-! ## What holds of every record -/

/-- Every record has a property. -/
def Every (property : ρ → Prop) (registry : Registry ρ) : Prop :=
  ∀ entry ∈ registry.rows, property entry.val

namespace Every

variable {property : ρ → Prop} {registry : Registry ρ}

omit [DecidableEq κ] in
/-- Where nothing was issued, every record has any property. -/
theorem empty : (Registry.empty : Registry ρ).Every property := by
  intro entry member
  cases member

/-- A record that is found by its key has the property. -/
theorem find? (every : registry.Every property) {key : κ} {entry : Entry ρ}
    (found : registry.find? key = some entry) : property entry.val :=
  every entry (find?_eq_some_iff.mp found).1

/-- A new record has to have the property. -/
theorem insert (every : registry.Every property) {val : ρ} (new : property val) :
    (registry.insert val).Every property := by
  by_cases free : registry.find? (Keyed.key val) = none
  · intro entry member
    rcases (mem_insert free).mp member with old | rfl
    · exact every entry old
    · exact new
  · have same : registry.insert val = registry := by simp [Registry.insert, free]
    rw [same]
    exact every

omit [DecidableEq κ]

/-- A change of a record has to keep the property. -/
theorem modify (every : registry.Every property) {uid : Nat} {change' : ρ → ρ}
    {keeps : ∀ val, Keyed.key (change' val) = Keyed.key val}
    (kept : ∀ val, property val → property (change' val)) :
    (registry.modify uid change' keeps).Every property := by
  intro entry member
  obtain ⟨original, earlier, rfl⟩ := mem_modify.mp member
  split
  · exact kept _ (every original earlier)
  · exact every original earlier

/-- A change of all records has to keep the property. -/
theorem modifyAll (every : registry.Every property) {change' : ρ → ρ}
    {keeps : ∀ val, Keyed.key (change' val) = Keyed.key val}
    (kept : ∀ val, property val → property (change' val)) :
    (registry.modifyAll change' keeps).Every property := by
  intro entry member
  obtain ⟨original, earlier, rfl⟩ := List.mem_map.mp member
  exact kept _ (every original earlier)

/-- The records that are left after an erasure have the property. -/
theorem erase (every : registry.Every property) (uid : Nat) :
    (registry.erase uid).Every property :=
  fun entry member => every entry (mem_erase.mp member).1

end Every

end Registry

end Foundation
