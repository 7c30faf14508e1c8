import WekaShareDriver.Access.Nfs
import Mathlib.Data.Finset.Basic

/-! # Exports to client groups

What NFS access to one filesystem means, apart from how the cluster stores it:
under each group name there may be a group with its networks and a permission of
the filesystem to it (`WekaShareDriver.NfsState`). A client mounts at a level
through a permission of that level to a group that holds a network of the
client's.

A rule grants one network to one group (`WekaShareDriver.Grant`). Accepting a
grant and retracting a group's access take several calls, and what all the
states between them keep is proved here once.
-/

namespace WekaShareDriver

/-- The access through one group: its networks, if the group exists, and the
filesystem's permission to it. -/
@[ext] structure GroupAccess where
  networks : Option (Finset String)
  permission : Option PermissionType
  deriving DecidableEq

/-- The access to one filesystem by group name. -/
abbrev NfsState : Type := String → GroupAccess

/-- A network granted to a group. -/
structure Grant where
  group : String
  network : String
  type : PermissionType
  deriving DecidableEq

namespace GroupAccess

variable {access access' access'' : GroupAccess} {network other : String}
  {type type' : PermissionType}

/-- Neither a group nor a permission. -/
def absent : GroupAccess := ⟨none, none⟩

/-- The networks of the group, none if there is no group. -/
def held (access : GroupAccess) : Finset String := access.networks.getD ∅

/-- The group holds the network and the permission is of the type. -/
def Grants (access : GroupAccess) (network : String) (type : PermissionType) : Prop :=
  network ∈ access.held ∧ access.permission = some type

/-- The access once a network has been accepted. -/
def accept (access : GroupAccess) (network : String) (type : PermissionType) : GroupAccess :=
  ⟨some (insert network access.held), some type⟩

/-- What may be left while a network is accepted: the group may exist by then and
hold the network, and a permission of another type is withdrawn before the new
one is given. -/
structure Accepting (access : GroupAccess) (network : String) (type : PermissionType)
    (access' : GroupAccess) : Prop where
  networks : access'.networks = access.networks ∨ access'.networks = some access.held ∨
    access'.networks = some (insert network access.held)
  permission : access'.permission = access.permission ∨ access'.permission = some type ∨
    access.permission ≠ some type ∧ access'.permission = none

/-- What may be left while the access of a group is retracted. -/
structure Retracting (access access' : GroupAccess) : Prop where
  networks : access'.networks = none ∨
    ∃ left, left ⊆ access.held ∧ access'.networks = some left ∧ access.networks.isSome
  permission : access'.permission = none ∨ access'.permission = access.permission

@[simp] theorem held_absent : absent.held = ∅ := rfl

@[simp] theorem held_accept : (access.accept network type).held = insert network access.held := rfl

/-- A group that holds nothing else holds just the accepted network. -/
theorem accept_of_held (fits : access.held ⊆ {network}) :
    access.accept network type = ⟨some {network}, some type⟩ := by
  have only : insert network access.held = {network} := by
    apply Finset.Subset.antisymm
    · exact Finset.insert_subset (Finset.mem_singleton_self _) fits
    · exact Finset.singleton_subset_iff.mpr (Finset.mem_insert_self _ _)
  rw [accept, only]

/-- Nothing is accepted yet. -/
theorem Accepting.refl : access.Accepting network type access := ⟨Or.inl rfl, Or.inl rfl⟩

/-- Accepting a network adds at most that network. -/
theorem Accepting.held (step : access.Accepting network type access') :
    access.held ⊆ access'.held ∧ access'.held ⊆ insert network access.held := by
  have weaker := Finset.subset_insert network access.held
  unfold GroupAccess.held at weaker ⊢
  rcases step.networks with same | same | same
  · rw [same]
    exact ⟨Finset.Subset.refl _, weaker⟩
  · rw [same]
    exact ⟨Finset.Subset.refl _, weaker⟩
  · rw [same]
    exact ⟨weaker, Finset.Subset.refl _⟩

/-- Accepting a network again keeps its grant. -/
theorem Accepting.grants (step : access.Accepting network type access')
    (grants : access.Grants other type) : access'.Grants other type := by
  refine ⟨step.held.1 grants.1, ?_⟩
  rcases step.permission with same | given | ⟨differs, _⟩
  · rw [same]
    exact grants.2
  · exact given
  · exact absurd grants.2 differs

/-- Nothing is retracted yet. -/
theorem Retracting.refl : access.Retracting access := by
  refine ⟨?_, Or.inr rfl⟩
  cases present : access.networks with
  | none => exact Or.inl rfl
  | some networks =>
      right
      refine ⟨networks, ?_, rfl, rfl⟩
      unfold GroupAccess.held
      rw [present]
      exact Finset.Subset.refl _

/-- While access is retracted, no network is added. -/
theorem Retracting.held (step : access.Retracting access') : access'.held ⊆ access.held := by
  rcases step.networks with gone | ⟨left, fewer, same, _⟩
  · unfold GroupAccess.held
    rw [gone]
    exact Finset.empty_subset _
  · unfold GroupAccess.held at fewer ⊢
    rw [same]
    exact fewer

/-- Retracting may go on. -/
theorem Retracting.trans (first : access.Retracting access')
    (second : access'.Retracting access'') : access.Retracting access'' := by
  constructor
  · rcases second.networks with gone | ⟨left, fewer, same, present⟩
    · exact Or.inl gone
    · right
      refine ⟨left, fewer.trans first.held, same, ?_⟩
      rcases first.networks with gone | ⟨_, _, _, earlier⟩
      · rw [gone] at present
        cases present
      · exact earlier
  · rcases second.permission with gone | same
    · exact Or.inl gone
    · rw [same]
      exact first.permission

/-- Of no access nothing else is left. -/
theorem Retracting.absent (step : absent.Retracting access') : access' = absent := by
  ext1
  · rcases step.networks with gone | ⟨_, _, _, impossible⟩
    · exact gone
    · cases impossible
  · rcases step.permission with gone | same
    · exact gone
    · exact same

end GroupAccess

namespace NfsState

variable {state state' state'' : NfsState} {grant : Grant} {name : String}
  {matching matching' : String → Prop}

/-- Accept a grant to its group. -/
def accept (state : NfsState) (grant : Grant) : NfsState :=
  Function.update state grant.group ((state grant.group).accept grant.network grant.type)

/-- Accept grants in order. -/
def acceptAll (state : NfsState) (granted : List Grant) : NfsState := granted.foldl accept state

/-- Drop the access through the matching groups. -/
def clear (state : NfsState) (matching : String → Prop) [DecidablePred matching] : NfsState :=
  fun name => if matching name then .absent else state name

/-- The states passed while a grant is accepted. -/
def Accepting (state : NfsState) (grant : Grant) (state' : NfsState) : Prop :=
  ∃ access, (state grant.group).Accepting grant.network grant.type access ∧
    state' = Function.update state grant.group access

/-- The states passed while matching groups are cleared. -/
def Clearing (state : NfsState) (matching : String → Prop) (state' : NfsState) : Prop :=
  ∀ name, state' name = state name ∨ matching name ∧ (state name).Retracting (state' name)

/-- Nothing is accepted yet. -/
theorem Accepting.refl : state.Accepting grant state :=
  ⟨_, .refl, (Function.update_eq_self _ _).symm⟩

/-- Accepting a grant touches its own group only. -/
theorem Accepting.of_ne (step : state.Accepting grant state') (ne : name ≠ grant.group) :
    state' name = state name := by
  obtain ⟨access, _, rfl⟩ := step
  exact Function.update_of_ne ne ..

/-- While a grant is accepted, its group accepts the network. -/
theorem Accepting.group (step : state.Accepting grant state') :
    (state grant.group).Accepting grant.network grant.type (state' grant.group) := by
  obtain ⟨access, accepting, rfl⟩ := step
  rw [Function.update_self]
  exact accepting

/-- Nothing is cleared yet. -/
theorem Clearing.refl : state.Clearing matching state := fun _ => Or.inl rfl

/-- Clearing may go on. -/
theorem Clearing.trans (first : state.Clearing matching state')
    (second : state'.Clearing matching state'') : state.Clearing matching state'' := by
  intro name
  rcases second name with same | ⟨matched, retracting⟩
  · rw [same]
    exact first name
  · rcases first name with same | ⟨_, earlier⟩
    · rw [← same]
      exact Or.inr ⟨matched, retracting⟩
    · exact Or.inr ⟨matched, earlier.trans retracting⟩

/-- Clearing the matching groups is clearing some of more. -/
theorem Clearing.mono (step : state.Clearing matching state')
    (wider : ∀ name, matching name → matching' name) : state.Clearing matching' state' :=
  fun name => (step name).imp_right fun ⟨matched, retracting⟩ => ⟨wider name matched, retracting⟩

/-- Clearing leaves the other groups alone. -/
theorem Clearing.of_not (step : state.Clearing matching state') (unmatched : ¬ matching name) :
    state' name = state name := by
  rcases step name with same | ⟨matched, _⟩
  · exact same
  · exact absurd matched unmatched

/-- While groups are cleared, the access of each is retracted. -/
theorem Clearing.retracting (step : state.Clearing matching state') (name : String) :
    (state name).Retracting (state' name) := by
  rcases step name with same | ⟨_, retracting⟩
  · rw [same]
    exact .refl
  · exact retracting

/-- The same access: through every group the same networks and the same permission. A group without
networks gives as much access as none. -/
def Alike (state state' : NfsState) : Prop :=
  ∀ name, (state name).held = (state' name).held ∧
    (state name).permission = (state' name).permission

/-- Equal access is alike. -/
theorem Alike.refl : state.Alike state := fun _ => ⟨rfl, rfl⟩

/-- Alikeness may be read from either side. -/
theorem Alike.symm (alike : state.Alike state') : state'.Alike state :=
  fun name => ⟨(alike name).1.symm, (alike name).2.symm⟩

/-- What is alike to the same is alike. -/
theorem Alike.trans (first : state.Alike state') (second : state'.Alike state'') :
    state.Alike state'' :=
  fun name => ⟨(first name).1.trans (second name).1, (first name).2.trans (second name).2⟩

/-- Where access was alike, it is after a grant. -/
theorem Alike.accept (alike : state.Alike state') :
    (state.accept grant).Alike (state'.accept grant) := by
  intro name
  by_cases own : name = grant.group
  · subst own
    rw [NfsState.accept, NfsState.accept, Function.update_self, Function.update_self,
      GroupAccess.held_accept, GroupAccess.held_accept, (alike grant.group).1]
    exact ⟨rfl, rfl⟩
  · rw [NfsState.accept, NfsState.accept, Function.update_of_ne own, Function.update_of_ne own]
    exact alike name

/-- Where access was alike, it is after the same groups were cleared. -/
theorem Alike.clear [DecidablePred matching] [DecidablePred matching'] (alike : state.Alike state')
    (same : ∀ name, matching name ↔ matching' name) :
    (state.clear matching).Alike (state'.clear matching') := by
  intro name
  by_cases matched : matching name
  · simp only [NfsState.clear, matched, (same name).mp matched, ↓reduceIte, and_self]
  · have unmatched : ¬ matching' name := fun matched' => matched ((same name).mpr matched')
    simp only [NfsState.clear, matched, unmatched, ↓reduceIte]
    exact alike name

@[simp] theorem accept_self : state.accept grant grant.group =
    (state grant.group).accept grant.network grant.type :=
  Function.update_self ..

section Lists

variable {granted : List Grant} {network : String}

/-- A group that nothing is granted to is left alone. -/
theorem acceptAll_of_foreign (foreign : ∀ grant ∈ granted, grant.group ≠ name) :
    state.acceptAll granted name = state name := by
  unfold acceptAll
  induction granted generalizing state with
  | nil => rfl
  | cons grant rest ih =>
      rw [List.foldl_cons, ih fun grant member => foreign grant (List.mem_cons_of_mem _ member)]
      exact Function.update_of_ne (foreign grant List.mem_cons_self).symm ..

/-- No network is held but the granted ones and those held before. -/
theorem held_acceptAll (held : network ∈ (state.acceptAll granted name).held) :
    network ∈ (state name).held ∨ ∃ grant ∈ granted, grant.network = network := by
  induction granted generalizing state with
  | nil => exact Or.inl held
  | cons grant rest ih =>
      rcases ih held with earlier | ⟨later, member, same⟩
      · by_cases own : name = grant.group
        · subst own
          rw [accept_self, GroupAccess.held_accept, Finset.mem_insert] at earlier
          rcases earlier with same | before
          · exact Or.inr ⟨grant, List.mem_cons_self, same.symm⟩
          · exact Or.inl before
        · rw [accept, Function.update_of_ne own] at earlier
          exact Or.inl earlier
      · exact Or.inr ⟨later, List.mem_cons_of_mem _ member, same⟩

/-- Where access was alike, it is after the same grants. -/
theorem Alike.acceptAll (alike : state.Alike state') :
    (state.acceptAll granted).Alike (state'.acceptAll granted) := by
  unfold NfsState.acceptAll
  induction granted generalizing state state' with
  | nil => exact alike
  | cons grant rest ih => exact ih alike.accept

end Lists

end NfsState

end WekaShareDriver
