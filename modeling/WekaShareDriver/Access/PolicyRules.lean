import WekaShareDriver.Access.PolicyState

/-! # Rules applied to allow lists

A rule is an address at a level. Applying it grants the address there and
revokes it at the other level; removing it revokes it at both. Applying a list
of rules and then pruning what no rule expects leaves exactly the rules
(`WekaShareDriver.PolicyState.holds_prune_applyAll`), provided no address stands
at two levels and no empty list was left behind that nothing visits.
-/

namespace WekaShareDriver

namespace PolicyState

variable {Address : Type} {state : PolicyState Address} {level level' : Level}
  {address other : Address}

/-- A list without addresses was left at a level. -/
def Leftover (state : PolicyState Address) (level : Level) : Prop :=
  ∃ list, state level = some list ∧ list.addresses = ∅

/-- The list of a level, if there is one, is attached. -/
def Attached (state : PolicyState Address) (level : Level) : Prop :=
  ∀ list, state level = some list → list.attached = true

/-- The lists are exactly the given sets: a list exists if and only if its set
is non-empty, and every list is attached. -/
structure Holds (state : PolicyState Address) (sets : Level → Finset Address) : Prop where
  addresses : ∀ level, state.addressesAt level = sets level
  exists_iff : ∀ level, (state level).isSome ↔ sets level ≠ ∅
  attached : ∀ level, state.Attached level

/-- The addresses at a level are those of its list. -/
theorem addressesAt_of_some {list : AllowList Address} (held : state level = some list) :
    state.addressesAt level = list.addresses := by
  simp only [addressesAt, held, Option.elim_some]

/-- Without a list there are no addresses at a level. -/
theorem addressesAt_of_none (missing : state level = none) : state.addressesAt level = ∅ := by
  simp only [addressesAt, missing, Option.elim_none]

/-- What is left of `Holds` once the addresses are known. -/
theorem holds_iff {sets : Level → Finset Address}
    (addresses : ∀ level, state.addressesAt level = sets level) :
    state.Holds sets ↔ ∀ level, ¬ state.Leftover level ∧ state.Attached level := by
  constructor
  · intro holds level
    refine ⟨?_, holds.attached level⟩
    rintro ⟨list, held, empty⟩
    have nonempty := (holds.exists_iff level).mp (by rw [held]; rfl)
    rw [← addresses level, addressesAt_of_some held] at nonempty
    exact nonempty empty
  · intro clean
    refine ⟨addresses, fun level => ?_, fun level => (clean level).2⟩
    rw [← addresses level]
    cases held : state level with
    | none => simp [addressesAt_of_none held]
    | some list =>
        rw [addressesAt_of_some held]
        exact ⟨fun _ empty => (clean level).1 ⟨list, held, empty⟩, fun _ => rfl⟩

/-- The sets and the flags determine the lists. -/
theorem Holds.ext {state' : PolicyState Address} {sets : Level → Finset Address}
    (holds : state.Holds sets) (holds' : state'.Holds sets) (flagged : state.Flagged)
    (flagged' : state'.Flagged) : state = state' := by
  funext level
  have same := (holds.exists_iff level).trans (holds'.exists_iff level).symm
  cases held : state level with
  | none =>
      cases held' : state' level with
      | none => rfl
      | some list' => simp [held, held'] at same
  | some list =>
      cases held' : state' level with
      | none => simp [held, held'] at same
      | some list' =>
          have addresses : list.addresses = list'.addresses := by
            rw [← addressesAt_of_some held, ← addressesAt_of_some held', holds.addresses,
              holds'.addresses]
          have readOnly : list.readOnly = list'.readOnly := by
            rw [flagged level list held, flagged' level list' held']
          have attached : list.attached = list'.attached := by
            rw [holds.attached level list held, holds'.attached level list' held']
          cases list
          cases list'
          simp only at addresses readOnly attached
          subst addresses readOnly attached
          rfl

private theorem not_leftover_of_listed (listed : state.Listed level address) :
    ¬ state.Leftover level := by
  obtain ⟨list, held, member⟩ := listed
  rintro ⟨list', held', empty⟩
  rw [held, Option.some.injEq] at held'
  subst held'
  rw [empty] at member
  exact absurd member (Finset.notMem_empty _)

section Changes

variable [DecidableEq Address]

private theorem addressesAt_grant_self :
    (state.grant level address).addressesAt level = insert address (state.addressesAt level) := by
  ext other
  rw [addressesAt_of_some grant_self, Finset.mem_insert, mem_addressesAt]
  exact mem_widen

private theorem addressesAt_grant_of_ne (ne : level' ≠ level) :
    (state.grant level address).addressesAt level' = state.addressesAt level' := by
  unfold addressesAt
  rw [grant_of_ne ne]

private theorem addressesAt_revoke_self :
    (state.revoke level address).addressesAt level = (state.addressesAt level).erase address := by
  cases held : state level with
  | none => rw [revoke_none held, addressesAt_of_none held, Finset.erase_empty]
  | some list =>
      rw [addressesAt_of_some held]
      by_cases last : list.addresses.erase address = ∅
      · rw [revoke_last held last, addressesAt_of_none (put_self none), last]
      · rw [revoke_more held last, addressesAt_of_some (put_self _)]

private theorem addressesAt_revoke_of_ne (ne : level' ≠ level) :
    (state.revoke level address).addressesAt level' = state.addressesAt level' := by
  unfold addressesAt
  rw [revoke_of_ne ne]

private theorem not_leftover_grant (clean : level' ≠ level → ¬ state.Leftover level') :
    ¬ (state.grant level address).Leftover level' := by
  by_cases same : level' = level
  · subst same
    exact not_leftover_of_listed granted_grant.listed
  · unfold Leftover
    rw [grant_of_ne same]
    exact clean same

/-- Revoking visits the level: no empty list stays there. -/
theorem not_leftover_revoke (clean : level' ≠ level → ¬ state.Leftover level') :
    ¬ (state.revoke level address).Leftover level' := by
  by_cases same : level' = level
  · subst same
    rintro ⟨list', held', empty⟩
    cases held : state level' with
    | none =>
        rw [revoke_none held, held] at held'
        cases held'
    | some list =>
        by_cases last : list.addresses.erase address = ∅
        · rw [revoke_last held last, put_self] at held'
          cases held'
        · rw [revoke_more held last, put_self, Option.some.injEq] at held'
          subst held'
          exact last empty
  · unfold Leftover
    rw [revoke_of_ne same]
    exact clean same

private theorem attached_grant (attached : level' ≠ level → state.Attached level') :
    (state.grant level address).Attached level' := by
  intro list held
  by_cases same : level' = level
  · subst same
    rw [grant_self, Option.some.injEq] at held
    rw [← held]
  · rw [grant_of_ne same] at held
    exact attached same list held

private theorem attached_revoke (attached : state.Attached level') :
    (state.revoke level address).Attached level' := by
  intro list' held'
  by_cases same : level' = level
  · subst same
    cases held : state level' with
    | none =>
        rw [revoke_none held] at held'
        exact attached list' held'
    | some list =>
        by_cases last : list.addresses.erase address = ∅
        · rw [revoke_last held last, put_self] at held'
          cases held'
        · rw [revoke_more held last, put_self, Option.some.injEq] at held'
          rw [← held']
          exact attached list held
  · rw [revoke_of_ne same] at held'
    exact attached list' held'

/-! ## Lists of rules -/

/-- Grant an address at its level and clear it at the other. -/
def applyRule (state : PolicyState Address) (rule : Level × Address) : PolicyState Address :=
  (state.grant rule.1 rule.2).revoke rule.1.other rule.2

/-- Clear an address at both levels. -/
def removeRule (state : PolicyState Address) (address : Address) : PolicyState Address :=
  (state.revoke .rw address).revoke .ro address

/-- The states passed while a rule is applied. -/
def Applying (state : PolicyState Address) (rule : Level × Address) (state' : PolicyState Address) :
    Prop :=
  state.Granting rule.1 rule.2 state' ∨
    (state.grant rule.1 rule.2).Revoking rule.1.other rule.2 state'

/-- The states passed while a rule is removed. -/
def Removing (state : PolicyState Address) (address : Address) (state' : PolicyState Address) :
    Prop :=
  state.Revoking .rw address state' ∨ (state.revoke .rw address).Revoking .ro address state'

/-- Apply rules in order. -/
def applyAll (state : PolicyState Address) (rules : List (Level × Address)) :
    PolicyState Address :=
  rules.foldl applyRule state

/-- Remove addresses in order. -/
def removeAll (state : PolicyState Address) (addresses : List Address) : PolicyState Address :=
  addresses.foldl removeRule state

/-- Clear addresses of one level in order. -/
def revokeAll (state : PolicyState Address) (level : Level) (addresses : List Address) :
    PolicyState Address :=
  addresses.foldl (fun state address => state.revoke level address) state

/-- Clear what no rule expects, level by level, given each level's addresses in
some order. -/
def prune (state : PolicyState Address) (rules : List (Level × Address))
    (listing : Level → List Address) : PolicyState Address :=
  (state.revokeAll .rw ((listing .rw).filter fun address => (Level.rw, address) ∉ rules)).revokeAll
    .ro ((listing .ro).filter fun address => (Level.ro, address) ∉ rules)

/-- The addresses the rules put at a level. -/
def ruleSet (rules : List (Level × Address)) (level : Level) : Finset Address :=
  ((rules.filter fun rule => rule.1 = level).map Prod.snd).toFinset

@[simp] theorem mem_ruleSet {rules : List (Level × Address)} :
    address ∈ ruleSet rules level ↔ (level, address) ∈ rules := by
  simp [ruleSet]

section Steps

variable {state' : PolicyState Address} {rule : Level × Address}

/-- Nothing of the rule is applied yet. -/
theorem Applying.before : state.Applying rule state := Or.inl .before

/-- The whole rule is applied. -/
theorem applying_applyRule : state.Applying rule (state.applyRule rule) := Or.inr .done

/-- Nothing of the rule is removed yet. -/
theorem Removing.before : state.Removing address state := Or.inl .before

/-- The whole rule is removed. -/
theorem removing_removeRule : state.Removing address (state.removeRule address) := Or.inr .done

/-- Applying a rule keeps every grant but those of its address at the other
level. -/
theorem Applying.granted (step : state.Applying rule state')
    (granted : state.Granted level other) (differ : other = rule.2 → level = rule.1) :
    state'.Granted level other := by
  rcases step with granting | revoking
  · exact granting.granted granted
  · refine revoking.granted (Granting.done.granted granted) fun opposite same => ?_
    exact Level.other_ne rule.1 (opposite.symm.trans (differ same))

/-- An applied rule is granted. -/
theorem granted_applyRule : (state.applyRule rule).Granted rule.1 rule.2 :=
  Revoking.done.granted granted_grant fun opposite =>
    absurd opposite.symm (Level.other_ne rule.1)

/-- A list with an address that moves keeps being granted, at one of the two
levels. -/
theorem Applying.granted_somewhere (step : state.Applying rule state')
    (granted : state.Granted level other) :
    state'.Granted level other ∨ (rule.2 = other ∧ state'.Granted rule.1 other) := by
  by_cases same : other = rule.2
  · subst same
    rcases step with granting | revoking
    · exact Or.inl (granting.granted granted)
    · refine Or.inr ⟨rfl, revoking.granted granted_grant fun opposite => ?_⟩
      exact absurd opposite.symm (Level.other_ne rule.1)
  · exact Or.inl (step.granted granted fun equal => absurd equal same)

/-- While a rule is applied, nothing is listed but its address and what was. -/
theorem Applying.listed (step : state.Applying rule state') (listed : state'.Listed level other) :
    state.Listed level other ∨ (level, other) = rule := by
  have added : level = rule.1 ∧ other = rule.2 → (level, other) = rule :=
    fun ⟨first, second⟩ => by rw [first, second]
  rcases step with granting | revoking
  · exact (granting.listed listed).imp_right added
  · exact (Granting.done.listed (revoking.listed listed)).imp_right added

/-- While a rule is applied, the flags stay right. -/
theorem Applying.flagged (step : state.Applying rule state') (flagged : state.Flagged) :
    state'.Flagged := by
  rcases step with granting | revoking
  · exact granting.flagged flagged
  · exact revoking.flagged (Granting.done.flagged flagged)

/-- While a rule is removed, the other addresses stay granted. -/
theorem Removing.granted (step : state.Removing address state')
    (granted : state.Granted level other) (differ : other ≠ address) :
    state'.Granted level other := by
  rcases step with first | second
  · exact first.granted granted fun _ => differ
  · exact second.granted (Revoking.done.granted granted fun _ => differ) fun _ => differ

/-- While a rule is removed, nothing is listed but what was. -/
theorem Removing.listed (step : state.Removing address state')
    (listed : state'.Listed level other) : state.Listed level other := by
  rcases step with first | second
  · exact first.listed listed
  · exact Revoking.done.listed (second.listed listed)

/-- While a rule is removed, the flags stay right. -/
theorem Removing.flagged (step : state.Removing address state') (flagged : state.Flagged) :
    state'.Flagged := by
  rcases step with first | second
  · exact first.flagged flagged
  · exact second.flagged (Revoking.done.flagged flagged)

end Steps

/-- A level without a rule has no list, so only the others must be attached. -/
theorem attached_of_addresses {rules : List (Level × Address)}
    (addresses : ∀ level, state.addressesAt level = ruleSet rules level)
    (nothing : ¬ state.Leftover level)
    (attached : (∃ address, (level, address) ∈ rules) → state.Attached level) :
    state.Attached level := by
  by_cases ruled : ∃ address, (level, address) ∈ rules
  · exact attached ruled
  · intro list held
    refine absurd ⟨list, held, ?_⟩ nothing
    rw [← addressesAt_of_some held, addresses]
    ext address
    simp only [mem_ruleSet, Finset.notMem_empty, iff_false]
    exact fun member => ruled ⟨address, member⟩

/-- Once a rule is applied, its address is at its level and not at the other; all others are where
they were. -/
theorem mem_applyRule {rule : Level × Address} :
    other ∈ (state.applyRule rule).addressesAt level ↔
      (level, other) = rule ∨ other ∈ state.addressesAt level ∧ (level.other, other) ≠ rule := by
  obtain ⟨ruled, address⟩ := rule
  unfold applyRule
  rcases Level.eq_or_eq_other ruled level with rfl | rfl
  · rw [addressesAt_revoke_of_ne (Level.other_ne level).symm, addressesAt_grant_self,
      Finset.mem_insert]
    have opposite : (level.other, other) ≠ (level, address) :=
      fun equal => Level.other_ne level (congrArg Prod.fst equal)
    simp [opposite]
  · rw [addressesAt_revoke_self, addressesAt_grant_of_ne (Level.other_ne ruled),
      Finset.mem_erase]
    have opposite : (ruled.other, other) ≠ (ruled, address) :=
      fun equal => Level.other_ne ruled (congrArg Prod.fst equal)
    simp only [opposite, false_or, Level.other_other, ne_eq, Prod.mk.injEq, true_and]
    exact and_comm

private theorem not_leftover_applyRule {rule : Level × Address} :
    ¬ (state.applyRule rule).Leftover level := by
  apply not_leftover_revoke
  intro opposite
  apply not_leftover_grant
  intro ne
  rcases Level.eq_or_eq_other rule.1 level with equal | equal
  · exact absurd equal ne
  · exact absurd equal opposite

private theorem attached_applyRule {rule : Level × Address}
    (attached : level ≠ rule.1 → state.Attached level) : (state.applyRule rule).Attached level :=
  attached_revoke (attached_grant attached)

/-- Applying rules that put no address at two levels: an address ends up at its
rule's level, and one without a rule stays where it was. -/
theorem mem_applyAll {rules : List (Level × Address)} (distinct : (rules.map Prod.snd).Nodup) :
    address ∈ (state.applyAll rules).addressesAt level ↔
      (level, address) ∈ rules ∨
        address ∈ state.addressesAt level ∧ (level.other, address) ∉ rules := by
  induction rules generalizing state with
  | nil => simp [applyAll]
  | cons rule rest ih =>
      rw [List.map_cons, List.nodup_cons] at distinct
      have fresh : ∀ level, (level, rule.2) ∉ rest := fun level member =>
        distinct.1 (List.mem_map.mpr ⟨_, member, rfl⟩)
      change address ∈ ((state.applyRule rule).applyAll rest).addressesAt level ↔ _
      rw [ih distinct.2, mem_applyRule, List.mem_cons, List.mem_cons]
      have opposite : (level, address) = rule → (level.other, address) ∉ rest := by
        rintro rfl
        exact fresh _
      tauto

/-- Once rules are applied, nothing is listed but their addresses and what was. -/
theorem listed_applyAll {rules : List (Level × Address)}
    (listed : (state.applyAll rules).Listed level address) :
    state.Listed level address ∨ (level, address) ∈ rules := by
  induction rules generalizing state with
  | nil => exact Or.inl listed
  | cons rule rest ih =>
      rcases ih listed with earlier | later
      · refine (applying_applyRule.listed earlier).imp_right fun same => ?_
        rw [same]
        exact List.mem_cons_self
      · exact Or.inr (List.mem_cons_of_mem _ later)

/-- Once addresses are removed, nothing is listed but what was. -/
theorem listed_removeAll {addresses : List Address}
    (listed : (state.removeAll addresses).Listed level address) : state.Listed level address := by
  induction addresses generalizing state with
  | nil => exact listed
  | cons first rest ih => exact removing_removeRule.listed (ih listed)

private theorem not_leftover_applyAll {rules : List (Level × Address)}
    (clean : rules ≠ [] ∨ ¬ state.Leftover level) : ¬ (state.applyAll rules).Leftover level := by
  induction rules generalizing state with
  | nil =>
      rcases clean with impossible | clean
      · exact absurd rfl impossible
      · exact clean
  | cons rule rest ih => exact ih (Or.inr not_leftover_applyRule)

private theorem attached_applyAll {rules : List (Level × Address)}
    (attached : (∃ address, (level, address) ∈ rules) ∨ state.Attached level) :
    (state.applyAll rules).Attached level := by
  induction rules generalizing state with
  | nil =>
      rcases attached with ⟨_, impossible⟩ | attached
      · cases impossible
      · exact attached
  | cons rule rest ih =>
      change ((state.applyRule rule).applyAll rest).Attached level
      refine ih ?_
      rcases attached with ⟨address, member⟩ | attached
      · rcases List.mem_cons.mp member with equal | later
        · right
          subst equal
          exact attached_applyRule fun ne => absurd rfl ne
        · exact Or.inl ⟨address, later⟩
      · exact Or.inr (attached_applyRule fun _ => attached)

private theorem addressesAt_revokeAll_self (addresses : List Address) :
    (state.revokeAll level addresses).addressesAt level =
      (state.addressesAt level).filter (· ∉ addresses) := by
  induction addresses generalizing state with
  | nil => simp [revokeAll]
  | cons first rest ih =>
      change ((state.revoke level first).revokeAll level rest).addressesAt level = _
      rw [ih, addressesAt_revoke_self]
      ext other
      simp only [Finset.mem_filter, Finset.mem_erase, List.mem_cons, not_or]
      tauto

private theorem revokeAll_of_ne (addresses : List Address) (ne : level' ≠ level) :
    state.revokeAll level addresses level' = state level' := by
  induction addresses generalizing state with
  | nil => rfl
  | cons first rest ih => exact ih.trans (revoke_of_ne ne)

/-- Revoking at one level leaves the addresses at the other. -/
theorem addressesAt_revokeAll_of_ne (addresses : List Address) (ne : level' ≠ level) :
    (state.revokeAll level addresses).addressesAt level' = state.addressesAt level' := by
  unfold addressesAt
  rw [revokeAll_of_ne addresses ne]

private theorem not_leftover_revokeAll (addresses : List Address)
    (clean : ¬ state.Leftover level') : ¬ (state.revokeAll level addresses).Leftover level' := by
  induction addresses generalizing state with
  | nil => exact clean
  | cons first rest ih => exact ih (not_leftover_revoke fun _ => clean)

private theorem attached_revokeAll (addresses : List Address)
    (attached : state.Attached level') : (state.revokeAll level addresses).Attached level' := by
  induction addresses generalizing state with
  | nil => exact attached
  | cons first rest ih => exact ih (attached_revoke attached)

private theorem mem_removeRule :
    other ∈ (state.removeRule address).addressesAt level ↔
      other ∈ state.addressesAt level ∧ other ≠ address := by
  unfold removeRule
  cases level with
  | rw =>
      rw [addressesAt_revoke_of_ne (by decide), addressesAt_revoke_self, Finset.mem_erase]
      exact and_comm
  | ro =>
      rw [addressesAt_revoke_self, addressesAt_revoke_of_ne (by decide), Finset.mem_erase]
      exact and_comm

private theorem mem_removeAll {addresses : List Address} :
    address ∈ (state.removeAll addresses).addressesAt level ↔
      address ∈ state.addressesAt level ∧ address ∉ addresses := by
  induction addresses generalizing state with
  | nil => simp [removeAll]
  | cons first rest ih =>
      change address ∈ ((state.removeRule first).removeAll rest).addressesAt level ↔ _
      rw [ih, mem_removeRule, List.mem_cons, not_or, and_assoc]

private theorem not_leftover_removeAll {addresses : List Address} (clean : ¬ state.Leftover level) :
    ¬ (state.removeAll addresses).Leftover level := by
  induction addresses generalizing state with
  | nil => exact clean
  | cons first rest ih =>
      exact ih (not_leftover_revoke fun _ => not_leftover_revoke fun _ => clean)

private theorem attached_removeAll {addresses : List Address} (attached : state.Attached level) :
    (state.removeAll addresses).Attached level := by
  induction addresses generalizing state with
  | nil => exact attached
  | cons first rest ih => exact ih (attached_revoke (attached_revoke attached))

/-- Applying rules to lists of given sets and then removing addresses leaves
the lists of the sets so changed. -/
theorem Holds.update {rules after : List (Level × Address)} {removed : List Address}
    {sets : Level → Finset Address} (holds : state.Holds sets)
    (distinct : (rules.map Prod.snd).Nodup)
    (changed : ∀ level address, (level, address) ∈ after ↔ ((level, address) ∈ rules ∨
      address ∈ sets level ∧ (level.other, address) ∉ rules) ∧ address ∉ removed) :
    ((state.applyAll rules).removeAll removed).Holds (ruleSet after) := by
  have addresses : ∀ level,
      ((state.applyAll rules).removeAll removed).addressesAt level = ruleSet after level := by
    intro level
    ext address
    rw [mem_removeAll, mem_applyAll distinct, mem_ruleSet, changed, holds.addresses]
  have clean := (holds_iff holds.addresses).mp holds
  refine (holds_iff addresses).mpr fun level => ⟨?_, ?_⟩
  · exact not_leftover_removeAll (not_leftover_applyAll (Or.inr (clean level).1))
  · exact attached_removeAll (attached_applyAll (Or.inr (clean level).2))

/-- Once rules are applied, the flags are right. -/
theorem flagged_applyAll {rules : List (Level × Address)} (flagged : state.Flagged) :
    (state.applyAll rules).Flagged := by
  induction rules generalizing state with
  | nil => exact flagged
  | cons rule rest ih => exact ih (applying_applyRule.flagged flagged)

/-- Once rules are removed, the flags are right. -/
theorem flagged_removeAll {addresses : List Address} (flagged : state.Flagged) :
    (state.removeAll addresses).Flagged := by
  induction addresses generalizing state with
  | nil => exact flagged
  | cons first rest ih => exact ih (removing_removeRule.flagged flagged)

private theorem flagged_revokeAll {addresses : List Address} (flagged : state.Flagged) :
    (state.revokeAll level addresses).Flagged := by
  induction addresses generalizing state with
  | nil => exact flagged
  | cons first rest ih => exact ih (Revoking.done.flagged flagged)

/-! ## What rules keep granted -/

/-- An address with a rule ends up granted at a level some rule gives it. -/
theorem granted_applyAll {rules : List (Level × Address)}
    (granted : (∃ level, (level, address) ∈ rules) ∨ state.Granted level address) :
    ∃ level', ((level', address) ∈ rules ∨ level' = level) ∧
      (state.applyAll rules).Granted level' address := by
  induction rules generalizing state level with
  | nil =>
      rcases granted with ⟨_, impossible⟩ | granted
      · cases impossible
      · exact ⟨level, Or.inr rfl, granted⟩
  | cons rule rest ih =>
      have here : (∃ level, (level, address) ∈ rest) ∨
          ∃ level', ((level', address) = rule ∨ level' = level) ∧
            (state.applyRule rule).Granted level' address := by
        rcases granted with ⟨ruled, member⟩ | granted
        · rcases List.mem_cons.mp member with rfl | later
          · exact Or.inr ⟨ruled, Or.inl rfl, granted_applyRule⟩
          · exact Or.inl ⟨ruled, later⟩
        · rcases applying_applyRule.granted_somewhere granted with kept | ⟨same, moved⟩
          · exact Or.inr ⟨level, Or.inr rfl, kept⟩
          · exact Or.inr ⟨rule.1, Or.inl (by rw [← same]), moved⟩
      rcases here with later | ⟨level', placed, granted'⟩
      · obtain ⟨level', placed, granted'⟩ := @ih (state.applyRule rule) level (Or.inl later)
        exact ⟨level', placed.imp_left (List.mem_cons_of_mem _), granted'⟩
      · obtain ⟨level'', placed', granted''⟩ := ih (Or.inr granted')
        refine ⟨level'', ?_, granted''⟩
        rcases placed' with later | rfl
        · exact Or.inl (List.mem_cons_of_mem _ later)
        · rcases placed with same | same
          · exact Or.inl (by rw [same]; exact List.mem_cons_self)
          · exact Or.inr same

private theorem granted_revokeAll {addresses : List Address}
    (granted : state.Granted level' address)
    (differ : level' = level → address ∉ addresses) :
    (state.revokeAll level addresses).Granted level' address := by
  induction addresses generalizing state with
  | nil => exact granted
  | cons first rest ih =>
      refine ih (Revoking.done.granted granted fun same equal => ?_) fun same member =>
        differ same (List.mem_cons_of_mem _ member)
      exact differ same (by rw [equal]; exact List.mem_cons_self)

/-- Pruning leaves granted what a rule expects. -/
theorem granted_prune {rules : List (Level × Address)} {listing : Level → List Address}
    (granted : state.Granted level address) (ruled : (level, address) ∈ rules) :
    (state.prune rules listing).Granted level address := by
  refine granted_revokeAll (granted_revokeAll granted ?_) ?_
  · intro same
    subst same
    simp [ruled]
  · intro same
    subst same
    simp [ruled]

/-! ## Full synchronization -/

/-- Pruning by complete listings leaves the addresses that a rule expects. -/
theorem mem_prune {rules : List (Level × Address)} {listing : Level → List Address}
    (complete : ∀ level, (listing level).toFinset = state.addressesAt level) :
    address ∈ (state.prune rules listing).addressesAt level ↔
      address ∈ state.addressesAt level ∧ (level, address) ∈ rules := by
  have listed : address ∈ state.addressesAt level → address ∈ listing level := fun member => by
    rwa [← complete, List.mem_toFinset] at member
  unfold prune
  cases level with
  | rw =>
      rw [addressesAt_revokeAll_of_ne _ (by decide), addressesAt_revokeAll_self]
      simp only [Finset.mem_filter, List.mem_filter, decide_eq_true_eq, not_and, not_not]
      exact and_congr_right fun member => ⟨fun kept => kept (listed member), fun rule _ => rule⟩
  | ro =>
      rw [addressesAt_revokeAll_self, addressesAt_revokeAll_of_ne _ (by decide)]
      simp only [Finset.mem_filter, List.mem_filter, decide_eq_true_eq, not_and, not_not]
      exact and_congr_right fun member => ⟨fun kept => kept (listed member), fun rule _ => rule⟩

/-- A list with some of its addresses taken out; none is left of one without addresses. -/
def remaining (list : AllowList Address) (addresses : List Address) : Option (AllowList Address) :=
  if list.addresses.filter (· ∉ addresses) = ∅ then none
  else some { list with addresses := list.addresses.filter (· ∉ addresses) }

private theorem revokeAll_none {addresses : List Address} (missing : state level = none) :
    state.revokeAll level addresses = state := by
  induction addresses with
  | nil => rfl
  | cons first rest ih =>
      change (state.revoke level first).revokeAll level rest = state
      rw [revoke_none missing, ih]

private theorem revokeAll_some {addresses : List Address} {list : AllowList Address}
    (held : state level = some list) (nonempty : addresses ≠ []) :
    state.revokeAll level addresses = state.put level (remaining list addresses) := by
  induction addresses generalizing state list with
  | nil => exact absurd rfl nonempty
  | cons first rest ih =>
      change (state.revoke level first).revokeAll level rest = _
      have taken : list.addresses.filter (· ∉ first :: rest) =
          (list.addresses.erase first).filter (· ∉ rest) := by
        ext other
        simp only [List.mem_cons, not_or, Finset.mem_filter, Finset.mem_erase]
        tauto
      by_cases last : list.addresses.erase first = ∅
      · rw [revoke_last held last, revokeAll_none (put_self none), remaining, taken, last]
        rfl
      · rw [revoke_more held last]
        cases rest with
        | nil =>
            have all : list.addresses.filter (· ∉ [first]) = list.addresses.erase first := by
              rw [taken]
              simp
            rw [remaining, all, if_neg last]
            rfl
        | cons second rest =>
            rw [ih (put_self _) (List.cons_ne_nil _ _), put, put, Function.update_idem, remaining,
              remaining, taken]
            rfl

/-- Only which addresses are revoked matters, not their order. -/
theorem revokeAll_congr {first second : List Address}
    (same : ∀ address, address ∈ first ↔ address ∈ second) :
    state.revokeAll level first = state.revokeAll level second := by
  cases held : state level with
  | none => rw [revokeAll_none held, revokeAll_none held]
  | some list =>
      by_cases empty : first = []
      · have empty' : second = [] := List.eq_nil_iff_forall_not_mem.mpr fun address member => by
          rw [← same, empty] at member
          cases member
        rw [empty, empty']
      · have nonempty' : second ≠ [] := by
          obtain ⟨address, member⟩ := List.exists_mem_of_ne_nil _ empty
          exact List.ne_nil_of_mem ((same address).mp member)
        rw [revokeAll_some held empty, revokeAll_some held nonempty', remaining, remaining]
        simp only [same]

/-- Only which addresses are pruned matters. -/
theorem prune_congr {rules rules' : List (Level × Address)}
    {listing listing' : Level → List Address}
    (same : ∀ level address, address ∈ listing level ∧ (level, address) ∉ rules ↔
      address ∈ listing' level ∧ (level, address) ∉ rules') :
    state.prune rules listing = state.prune rules' listing' := by
  have kept (level : Level) (address : Address) :
      (address ∈ (listing level).filter fun address => (level, address) ∉ rules) ↔
        address ∈ (listing' level).filter fun address => (level, address) ∉ rules' := by
    simpa only [List.mem_filter, decide_eq_true_eq] using same level address
  unfold prune
  rw [revokeAll_congr (kept .rw), revokeAll_congr (kept .ro)]

private theorem attached_prune {rules : List (Level × Address)} {listing : Level → List Address}
    (attached : state.Attached level) : (state.prune rules listing).Attached level :=
  attached_revokeAll _ (attached_revokeAll _ attached)

private theorem not_leftover_prune {rules : List (Level × Address)} {listing : Level → List Address}
    (clean : ¬ state.Leftover level) : ¬ (state.prune rules listing).Leftover level :=
  not_leftover_revokeAll _ (not_leftover_revokeAll _ clean)

/-- Once pruned, the flags are right. -/
theorem flagged_prune {rules : List (Level × Address)} {listing : Level → List Address}
    (flagged : state.Flagged) : (state.prune rules listing).Flagged :=
  flagged_revokeAll (flagged_revokeAll flagged)

/-- Applying the rules alone leaves exactly the rules if besides nothing was
listed that no rule names. -/
theorem holds_applyAll {rules : List (Level × Address)} (distinct : (rules.map Prod.snd).Nodup) :
    (state.applyAll rules).Holds (ruleSet rules) ↔
      (rules ≠ [] ∨ ∀ level, ¬ state.Leftover level) ∧
        ∀ level address, state.Listed level address → ∃ level', (level', address) ∈ rules := by
  constructor
  · intro holds
    have clean := (holds_iff holds.addresses).mp holds
    refine ⟨?_, fun level address listed => ?_⟩
    · by_cases empty : rules = []
      · subst empty
        exact Or.inr fun level => (clean level).1
      · exact Or.inl empty
    · by_cases opposite : (level.other, address) ∈ rules
      · exact ⟨level.other, opposite⟩
      · refine ⟨level, ?_⟩
        rw [← mem_ruleSet, ← holds.addresses, mem_applyAll distinct]
        exact Or.inr ⟨mem_addressesAt.mpr listed, opposite⟩
  · intro ⟨clean, covered⟩
    have addresses : ∀ level, (state.applyAll rules).addressesAt level = ruleSet rules level := by
      intro level
      ext address
      rw [mem_applyAll distinct, mem_ruleSet]
      constructor
      · intro member
        rcases member with ruled | ⟨listed, unmoved⟩
        · exact ruled
        · obtain ⟨level', ruled⟩ := covered level address (mem_addressesAt.mp listed)
          rcases Level.eq_or_eq_other level level' with rfl | rfl
          · exact ruled
          · exact absurd ruled unmoved
      · exact Or.inl
    refine (holds_iff addresses).mpr fun level => ?_
    have nothing : ¬ (state.applyAll rules).Leftover level :=
      not_leftover_applyAll (clean.imp id fun clean => clean level)
    exact ⟨nothing, attached_of_addresses addresses nothing fun ruled =>
      attached_applyAll (Or.inl ruled)⟩

/-- Applying the rules and pruning the rest leaves exactly the rules, unless
there is no rule and an empty list was left behind. -/
theorem holds_prune_applyAll {rules : List (Level × Address)} {listing : Level → List Address}
    (distinct : (rules.map Prod.snd).Nodup)
    (complete : ∀ level, (listing level).toFinset = (state.applyAll rules).addressesAt level) :
    ((state.applyAll rules).prune rules listing).Holds (ruleSet rules) ↔
      rules ≠ [] ∨ ∀ level, ¬ state.Leftover level := by
  have addresses : ∀ level,
      ((state.applyAll rules).prune rules listing).addressesAt level = ruleSet rules level := by
    intro level
    ext address
    rw [mem_prune complete, mem_applyAll distinct, mem_ruleSet]
    tauto
  rw [holds_iff addresses]
  constructor
  · intro clean
    by_cases empty : rules = []
    · right
      intro level leftover
      subst empty
      apply (clean level).1
      -- Without addresses at this level, pruning visits the other level only.
      obtain ⟨list, held, none⟩ := leftover
      have unlisted : listing level = [] := by
        rw [← List.toFinset_eq_empty_iff, complete, ← none]
        exact addressesAt_of_some held
      refine ⟨list, ?_, none⟩
      unfold prune
      cases level with
      | rw =>
          rw [revokeAll_of_ne _ (by decide), unlisted]
          exact held
      | ro =>
          rw [unlisted]
          change (state.applyAll []).revokeAll .rw _ .ro = some list
          rw [revokeAll_of_ne _ (by decide)]
          exact held
    · exact Or.inl empty
  · intro clean level
    have nothing : ¬ ((state.applyAll rules).prune rules listing).Leftover level :=
      not_leftover_prune (not_leftover_applyAll (clean.imp id fun clean => clean level))
    exact ⟨nothing, attached_of_addresses addresses nothing fun ruled =>
      attached_prune (attached_applyAll (Or.inl ruled))⟩

end Changes

end PolicyState

end WekaShareDriver
