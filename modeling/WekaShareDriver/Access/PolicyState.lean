import WekaShareDriver.Share
import Mathlib.Data.Finset.Basic

/-! # Allow lists at two levels

What the per-share policies mean for one filesystem, apart from how the cluster
stores them: at each level there is no list, or a list of addresses that may be
attached (`WekaShareDriver.PolicyState`). A filesystem without an attached list
is open to every holder of a mount token; with one, only listed sources may
mount.

Granting and revoking an address take several calls, and the states between
those calls are states of the filesystem too
(`WekaShareDriver.PolicyState.Granting`, `WekaShareDriver.PolicyState.Revoking`).
What is kept by every one of them is proved here once.
-/

namespace WekaShareDriver

/-- A policy as one filesystem sees it. -/
structure AllowList (Address : Type) where
  addresses : Finset Address
  readOnly : Bool
  attached : Bool
  deriving DecidableEq

/-- The lists of a filesystem by level. -/
abbrev PolicyState (Address : Type) : Type := Level → Option (AllowList Address)

namespace PolicyState

variable {Address : Type} {state state' : PolicyState Address} {level level' : Level}
  {address kept : Address}

/-- An address is in the list of a level. -/
def Listed (state : PolicyState Address) (level : Level) (address : Address) : Prop :=
  ∃ list, state level = some list ∧ address ∈ list.addresses

/-- An address is in an attached list of a level. -/
def Granted (state : PolicyState Address) (level : Level) (address : Address) : Prop :=
  ∃ list, state level = some list ∧ list.attached = true ∧ address ∈ list.addresses

/-- No list is attached. -/
def Open (state : PolicyState Address) : Prop :=
  ∀ level list, state level = some list → list.attached = false

/-- A client may mount at a level: the filesystem is open, or an address that
matches the client is granted. -/
def Allows {Client : Type} (matching : Address → Client → Prop) (state : PolicyState Address)
    (level : Level) (client : Client) : Prop :=
  state.Open ∨ ∃ address, state.Granted level address ∧ matching address client

/-- Lists of a level are read-only exactly at the read-only level. -/
def Flagged (state : PolicyState Address) : Prop :=
  ∀ level list, state level = some list → list.readOnly = (level == .ro)

/-- The addresses of a level. -/
def addressesAt (state : PolicyState Address) (level : Level) : Finset Address :=
  (state level).elim ∅ AllowList.addresses

/-- Replace the list of a level. -/
def put (state : PolicyState Address) (level : Level) (list : Option (AllowList Address)) :
    PolicyState Address :=
  Function.update state level list

@[simp] theorem put_self (list : Option (AllowList Address)) : state.put level list level = list :=
  Function.update_self ..

@[simp] theorem put_of_ne (ne : level' ≠ level) (list : Option (AllowList Address)) :
    state.put level list level' = state level' :=
  Function.update_of_ne ne ..

/-- What is granted is listed. -/
theorem Granted.listed (granted : state.Granted level address) : state.Listed level address := by
  obtain ⟨list, held, _, member⟩ := granted
  exact ⟨list, held, member⟩

/-- Where something is granted, a list is attached. -/
theorem not_open_of_granted (granted : state.Granted level address) : ¬ state.Open := by
  obtain ⟨list, held, attached, _⟩ := granted
  intro isOpen
  rw [isOpen level list held] at attached
  cases attached

/-- The addresses at a level are those listed there. -/
theorem mem_addressesAt : address ∈ state.addressesAt level ↔ state.Listed level address := by
  unfold addressesAt Listed
  cases state level with
  | none => simp
  | some list => simp

/-- A change of one level's list leaves the other level alone. -/
theorem granted_put_of_ne {list : Option (AllowList Address)} (ne : level' ≠ level) :
    (state.put level list).Granted level' kept ↔ state.Granted level' kept := by
  unfold Granted
  rw [put_of_ne ne]

private theorem listed_put_of_ne {list : Option (AllowList Address)} (ne : level' ≠ level) :
    (state.put level list).Listed level' kept ↔ state.Listed level' kept := by
  unfold Listed
  rw [put_of_ne ne]

private theorem listed_put_self {list : AllowList Address} :
    (state.put level (some list)).Listed level kept ↔ kept ∈ list.addresses := by
  simp [Listed]

private theorem flagged_put {list : Option (AllowList Address)} (flagged : state.Flagged)
    (new : ∀ entry, list = some entry → entry.readOnly = (level == .ro)) :
    (state.put level list).Flagged := by
  intro other entry held
  by_cases same : other = level
  · subst same
    rw [put_self] at held
    exact new entry held
  · rw [put_of_ne same] at held
    exact flagged other entry held

section Changes

variable [DecidableEq Address]

/-- The list of a level with one more address; a new list is not attached. -/
def widen (state : PolicyState Address) (level : Level) (address : Address) : AllowList Address :=
  match state level with
  | none => ⟨{address}, level == .ro, false⟩
  | some list => { list with addresses := insert address list.addresses }

/-- Add an address to a level and attach the list. -/
def grant (state : PolicyState Address) (level : Level) (address : Address) :
    PolicyState Address :=
  state.put level (some { state.widen level address with attached := true })

/-- Remove an address from a level; the list goes with its last address. -/
def revoke (state : PolicyState Address) (level : Level) (address : Address) :
    PolicyState Address :=
  match state level with
  | none => state
  | some list =>
      if list.addresses.erase address = ∅ then state.put level none
      else state.put level (some { list with addresses := list.addresses.erase address })

/-- The states passed while an address is granted. -/
inductive Granting (state : PolicyState Address) (level : Level) (address : Address) :
    PolicyState Address → Prop where
  | before : Granting state level address state
  | admitted : Granting state level address (state.put level (some (state.widen level address)))
  | done : Granting state level address (state.grant level address)

/-- The states passed while an address is revoked. A list is detached only once
it is empty. -/
inductive Revoking (state : PolicyState Address) (level : Level) (address : Address) :
    PolicyState Address → Prop where
  | before : Revoking state level address state
  | erased (list : AllowList Address) (held : state level = some list) :
      Revoking state level address
        (state.put level (some { list with addresses := list.addresses.erase address }))
  | detached (list : AllowList Address) (held : state level = some list)
      (last : list.addresses.erase address = ∅) :
      Revoking state level address
        (state.put level (some { list with
          addresses := list.addresses.erase address, attached := false }))
  | done : Revoking state level address (state.revoke level address)

/-! ## Lookups -/

@[simp] theorem grant_self : state.grant level address level =
    some { state.widen level address with attached := true } :=
  put_self _

@[simp] theorem grant_of_ne (ne : level' ≠ level) :
    state.grant level address level' = state level' :=
  put_of_ne ne _

/-- A widened list has one more address. -/
theorem mem_widen {other : Address} : other ∈ (state.widen level address).addresses ↔
    other = address ∨ state.Listed level other := by
  unfold widen Listed
  cases state level with
  | none => simp
  | some list => simp

private theorem widen_attached (granted : state.Granted level kept) :
    (state.widen level address).attached = true := by
  obtain ⟨list, held, attached, _⟩ := granted
  simp only [widen, held, attached]

@[simp] theorem revoke_of_ne (ne : level' ≠ level) :
    state.revoke level address level' = state level' := by
  cases held : state level with
  | none => simp only [revoke, held]
  | some list =>
      by_cases last : list.addresses.erase address = ∅
      · simp only [revoke, held, last, ↓reduceIte, put_of_ne ne]
      · simp only [revoke, held, last, ↓reduceIte, put_of_ne ne]

/-- Revoking where there is no list changes nothing. -/
theorem revoke_none (missing : state level = none) : state.revoke level address = state := by
  simp only [revoke, missing]

/-- Revoking the last address of a list leaves no list. -/
theorem revoke_last {list : AllowList Address} (held : state level = some list)
    (last : list.addresses.erase address = ∅) :
    state.revoke level address = state.put level none := by
  simp only [revoke, held, last, ↓reduceIte]

/-- Revoking one of more addresses leaves the others. -/
theorem revoke_more {list : AllowList Address} (held : state level = some list)
    (more : list.addresses.erase address ≠ ∅) :
    state.revoke level address =
      state.put level (some { list with addresses := list.addresses.erase address }) := by
  simp only [revoke, held, more, ↓reduceIte]

/-! ## What granting and revoking keep -/

/-- What is granted is granted. -/
theorem granted_grant : (state.grant level address).Granted level address :=
  ⟨_, grant_self, rfl, mem_widen.mpr (Or.inl rfl)⟩

/-- Granting an address takes nothing away. -/
theorem Granting.granted (step : state.Granting level address state')
    (granted : state.Granted level' kept) : state'.Granted level' kept := by
  cases step with
  | before => exact granted
  | admitted =>
      by_cases same : level' = level
      · subst same
        exact ⟨_, put_self _, widen_attached granted,
          mem_widen.mpr (Or.inr granted.listed)⟩
      · exact (granted_put_of_ne same).mpr granted
  | done =>
      by_cases same : level' = level
      · subst same
        exact ⟨_, grant_self, rfl, mem_widen.mpr (Or.inr granted.listed)⟩
      · exact (granted_put_of_ne same).mpr granted

/-- Granting an address lists nothing else. -/
theorem Granting.listed (step : state.Granting level address state')
    (listed : state'.Listed level' kept) :
    state.Listed level' kept ∨ level' = level ∧ kept = address := by
  by_cases same : level' = level
  · subst same
    have added (list : AllowList Address)
        (same : list.addresses = (state.widen level' address).addresses)
        (listed : (state.put level' (some list)).Listed level' kept) :
        state.Listed level' kept ∨ level' = level' ∧ kept = address := by
      rw [listed_put_self, same] at listed
      rcases mem_widen.mp listed with equal | earlier
      · exact Or.inr ⟨rfl, equal⟩
      · exact Or.inl earlier
    cases step with
    | before => exact Or.inl listed
    | admitted => exact added _ rfl listed
    | done => exact added { state.widen level' address with attached := true } rfl listed
  · left
    cases step with
    | before => exact listed
    | admitted => exact (listed_put_of_ne same).mp listed
    | done => exact (listed_put_of_ne same).mp listed

/-- Revoking one address keeps every other, at any level. -/
theorem Revoking.granted (step : state.Revoking level address state')
    (granted : state.Granted level' kept) (differ : level' = level → kept ≠ address) :
    state'.Granted level' kept := by
  by_cases same : level' = level
  · subst same
    obtain ⟨list, held, attached, member⟩ := granted
    have remains : kept ∈ list.addresses.erase address :=
      Finset.mem_erase.mpr ⟨differ rfl, member⟩
    have more : list.addresses.erase address ≠ ∅ := Finset.ne_empty_of_mem remains
    have erased : (state.put level' (some { list with
        addresses := list.addresses.erase address })).Granted level' kept :=
      ⟨_, put_self _, attached, remains⟩
    cases step with
    | before => exact ⟨list, held, attached, member⟩
    | erased list' held' =>
        rw [held, Option.some.injEq] at held'
        subst held'
        exact erased
    | detached list' held' last =>
        rw [held, Option.some.injEq] at held'
        subst held'
        exact absurd last more
    | done =>
        rw [revoke_more held more]
        exact erased
  · cases step with
    | before => exact granted
    | erased list held => exact (granted_put_of_ne same).mpr granted
    | detached list held last => exact (granted_put_of_ne same).mpr granted
    | done =>
        unfold Granted at granted ⊢
        rwa [revoke_of_ne same]

/-- Revoking lists nothing new. -/
theorem Revoking.listed (step : state.Revoking level address state')
    (listed : state'.Listed level' kept) : state.Listed level' kept := by
  by_cases same : level' = level
  · subst same
    have kept_of_erased : ∀ list, state level' = some list →
        kept ∈ list.addresses.erase address → state.Listed level' kept :=
      fun list held member => ⟨list, held, Finset.mem_of_mem_erase member⟩
    cases step with
    | before => exact listed
    | erased list held => exact kept_of_erased list held (listed_put_self.mp listed)
    | detached list held last => exact kept_of_erased list held (listed_put_self.mp listed)
    | done =>
        obtain ⟨list', held', member⟩ := listed
        cases held : state level' with
        | none =>
            rw [revoke_none held, held] at held'
            cases held'
        | some list =>
            by_cases last : list.addresses.erase address = ∅
            · rw [revoke_last held last, put_self] at held'
              cases held'
            · rw [revoke_more held last, put_self, Option.some.injEq] at held'
              subst held'
              exact kept_of_erased list held member
  · cases step with
    | before => exact listed
    | erased list held => exact (listed_put_of_ne same).mp listed
    | detached list held last => exact (listed_put_of_ne same).mp listed
    | done =>
        unfold Listed at listed ⊢
        rwa [revoke_of_ne same] at listed

/-- While an address is granted, the flags stay right. -/
theorem Granting.flagged (step : state.Granting level address state') (flagged : state.Flagged) :
    state'.Flagged := by
  have admitted : (state.widen level address).readOnly = (level == .ro) := by
    unfold widen
    cases held : state level with
    | none => rfl
    | some list => exact flagged level list held
  cases step with
  | before => exact flagged
  | admitted => exact flagged_put flagged fun entry equal => by cases equal; exact admitted
  | done => exact flagged_put flagged fun entry equal => by cases equal; exact admitted

/-- While an address is revoked, the flags stay right. -/
theorem Revoking.flagged (step : state.Revoking level address state') (flagged : state.Flagged) :
    state'.Flagged := by
  cases step with
  | before => exact flagged
  | erased list held =>
      exact flagged_put flagged fun entry equal => by cases equal; exact flagged level list held
  | detached list held last =>
      exact flagged_put flagged fun entry equal => by cases equal; exact flagged level list held
  | done =>
      unfold revoke
      cases held : state level with
      | none => exact flagged
      | some list =>
          dsimp only
          split
          · exact flagged_put flagged fun entry equal => by cases equal
          · exact flagged_put flagged fun entry equal => by
              cases equal
              exact flagged level list held

end Changes

end PolicyState

end WekaShareDriver
