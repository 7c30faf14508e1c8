import WekaShareDriver.Access.InForce
import WekaShareDriver.Access.LiveRules

/-! # The policies between two lists of rules

While the rules of a share change from one list to another, the policies pass
through states in which rules of both lists stay granted, no other address is
listed, and some address is granted as long as both lists have one
(`WekaShareDriver.PolicyBetween`). Without failures every call of an update
leaves such a state (`WekaShareDriver.wp_updateWekafsPolicies_between`).
-/

namespace WekaShareDriver

open Foundation Program

/-- The policies while the rules change from one list to another. -/
structure PolicyBetween (before after : List AccessRule) (state : PolicyState String) : Prop where
  kept : ∀ rule ∈ before, rule ∈ after → ∀ ip, rule.target? = some ip →
    state.Granted rule.accessLevel ip
  listed : ∀ level ip, state.Listed level ip →
    (level, ip) ∈ policyRules before ∨ (level, ip) ∈ policyRules after
  guarded : policyTargets before ≠ [] → policyTargets after ≠ [] →
    ∃ level ip, state.Granted level ip

/-- The policies once some rules have been applied. -/
structure PolicyAdding (before after visited : List AccessRule) (state : PolicyState String) :
    Prop where
  kept : ∀ rule, (rule ∈ before ∨ rule ∈ visited) → rule ∈ after → ∀ ip, rule.target? = some ip →
    state.Granted rule.accessLevel ip
  listed : ∀ level ip, state.Listed level ip →
    (level, ip) ∈ policyRules before ∨ (level, ip) ∈ policyRules after
  guarded : policyTargets before ≠ [] → ∃ level ip, state.Granted level ip

variable {before after visited : List AccessRule} {state state' : PolicyState String}
  {rule rule' : AccessRule} {update : AccessUpdate}

/-- Lists that are exactly some rules grant each rule's address. -/
theorem PolicyState.Holds.granted {rules : List (Level × String)} {level : Level} {ip : String}
    (holds : state.Holds (PolicyState.ruleSet rules)) (ruled : (level, ip) ∈ rules) :
    state.Granted level ip := by
  have member : ip ∈ state.addressesAt level := by
    rw [holds.addresses, PolicyState.mem_ruleSet]
    exact ruled
  obtain ⟨list, held, inside⟩ := PolicyState.mem_addressesAt.mp member
  exact ⟨list, held, holds.attached level list held, inside⟩

/-- There are addresses if some rule has one. -/
theorem policyTargets_ne_nil {rules : List AccessRule} : policyTargets rules ≠ [] ↔
    ∃ rule ∈ rules, ∃ ip, rule.target? = some ip := by
  constructor
  · intro nonempty
    obtain ⟨ip, member⟩ := List.exists_mem_of_ne_nil _ nonempty
    obtain ⟨rule, inside, found⟩ := mem_policyTargets.mp member
    exact ⟨rule, inside, ip, found⟩
  · intro ⟨rule, inside, ip, found⟩
    exact List.ne_nil_of_mem (mem_policyTargets.mpr ⟨rule, inside, found⟩)

/-- Before anything is applied. -/
theorem PolicyState.Holds.adding (holds : state.Holds (PolicyState.ruleSet (policyRules before))) :
    PolicyAdding before after [] state := by
  have granted : ∀ rule ∈ before, ∀ ip, rule.target? = some ip →
      state.Granted rule.accessLevel ip := by
    intro rule inside ip found
    apply holds.granted
    exact mem_policyRules.mpr ⟨rule, inside, policyRule?_eq_some_iff.mpr ⟨found, rfl⟩⟩
  refine ⟨fun rule origin _ ip found => ?_, fun level ip listed => ?_, fun nonempty => ?_⟩
  · rcases origin with inside | impossible
    · exact granted rule inside ip found
    · cases impossible
  · left
    rw [← PolicyState.mem_ruleSet, ← holds.addresses]
    exact PolicyState.mem_addressesAt.mpr listed
  · obtain ⟨rule, inside, ip, found⟩ := policyTargets_ne_nil.mp nonempty
    exact ⟨_, ip, granted rule inside ip found⟩

/-- While rules are applied, the policies are between the two lists. -/
theorem PolicyAdding.between (adding : PolicyAdding before after visited state) :
    PolicyBetween before after state :=
  ⟨fun rule inside => adding.kept rule (Or.inl inside), adding.listed,
    fun nonempty _ => adding.guarded nonempty⟩

/-- While one more rule is applied, the earlier ones stay granted. -/
theorem PolicyAdding.applying {target : Level × String}
    (adding : PolicyAdding before after visited state) (compatible : Compatible after)
    (member : rule' ∈ after) (found : rule'.policyRule? = some target)
    (step : state.Applying target state') : PolicyAdding before after visited state' := by
  obtain ⟨address, level⟩ := policyRule?_eq_some_iff.mp found
  refine ⟨fun rule origin inside ip held => ?_, fun other ip listed => ?_, fun nonempty => ?_⟩
  · refine step.granted (adding.kept rule origin inside ip held) fun same => ?_
    subst same
    rw [compatible.eq_of_target inside member held address]
    exact level
  · rcases step.listed listed with earlier | same
    · exact adding.listed other ip earlier
    · right
      rw [same]
      exact mem_policyRules.mpr ⟨rule', member, found⟩
  · obtain ⟨other, ip, granted⟩ := adding.guarded nonempty
    rcases step.granted_somewhere granted with kept | ⟨_, moved⟩
    · exact ⟨other, ip, kept⟩
    · exact ⟨target.1, ip, moved⟩

/-- An applied rule is granted besides the earlier ones. -/
theorem PolicyAdding.applied {target : Level × String}
    (adding : PolicyAdding before after visited state) (compatible : Compatible after)
    (member : rule' ∈ after) (found : rule'.policyRule? = some target) :
    PolicyAdding before after (visited ++ [rule']) (state.applyRule target) := by
  have kept := adding.applying compatible member found PolicyState.applying_applyRule
  refine ⟨fun rule origin inside ip held => ?_, kept.listed, kept.guarded⟩
  rcases origin with earlier | applied
  · exact kept.kept rule (Or.inl earlier) inside ip held
  · rcases List.mem_append.mp applied with visited' | last
    · exact kept.kept rule (Or.inr visited') inside ip held
    · rw [List.mem_singleton.mp last] at held ⊢
      obtain ⟨address, level⟩ := policyRule?_eq_some_iff.mp found
      rw [address, Option.some.injEq] at held
      rw [level, ← held]
      exact PolicyState.granted_applyRule

/-- A rule without an address changes nothing. -/
theorem PolicyAdding.skip (adding : PolicyAdding before after visited state)
    (missing : rule'.policyRule? = none) :
    PolicyAdding before after (visited ++ [rule']) state := by
  refine ⟨fun rule origin inside ip held => ?_, adding.listed, adding.guarded⟩
  rcases origin with earlier | applied
  · exact adding.kept rule (Or.inl earlier) inside ip held
  · rcases List.mem_append.mp applied with visited' | last
    · exact adding.kept rule (Or.inr visited') inside ip held
    · rw [List.mem_singleton.mp last] at held
      have found : rule'.policyRule? = some (rule'.accessLevel, ip) :=
        policyRule?_eq_some_iff.mpr ⟨held, rfl⟩
      rw [missing] at found
      cases found

/-- The policies once every rule has been applied. -/
structure PolicyDropping (before after : List AccessRule) (state : PolicyState String) : Prop where
  kept : ∀ rule ∈ after, ∀ ip, rule.target? = some ip → state.Granted rule.accessLevel ip
  listed : ∀ level ip, state.Listed level ip →
    (level, ip) ∈ policyRules before ∨ (level, ip) ∈ policyRules after

/-- Once every rule is applied, the policies are between the two lists. -/
theorem PolicyDropping.between (dropping : PolicyDropping before after state) :
    PolicyBetween before after state := by
  refine ⟨fun rule _ inside => dropping.kept rule inside, dropping.listed, fun _ nonempty => ?_⟩
  obtain ⟨rule, inside, ip, found⟩ := policyTargets_ne_nil.mp nonempty
  exact ⟨_, ip, dropping.kept rule inside ip found⟩

variable {session : Session} {share : Share} {fsUid : Uid} {w : World} {mountPassword : String}

/-- Without failures every call of an update leaves the policies between the
rules before it and those after it. -/
theorem wp_updateWekafsPolicies_between
    (compatible : Compatible (update.result before ++ update.deleteRules))
    (holds : (policyState session share fsUid w).Holds
      (PolicyState.ruleSet (policyRules before))) :
    (updateWekafsPolicies session share (some fsUid) mountPassword update.applied
        update.deleteRules update.fullSync).wp reliable
      (passing (Within session share fsUid w (PolicyBetween before (update.result before))))
      (ending
        (fun _ => Within session share fsUid w (PolicyDropping before (update.result before)))
        (fun _ => Within session share fsUid w (PolicyBetween before (update.result before)))) w := by
  apply wp_updateWekafsPolicies_phases honest_noFaults
    (fun visited _ => PolicyAdding before (update.result before) visited)
    (fun _ => PolicyDropping before (update.result before))
  · intro visited rule rest states state split adding
    have applied : rule ∈ update.applied := by simp [split]
    have member : rule ∈ update.result before := AccessUpdate.applied_subset_result applied
    refine ⟨fun state' step => ?_, fun states' state' added => ?_⟩
    · cases found : rule.policyRule? with
      | none =>
          rw [(adding_of_missing found).mp step]
          exact adding.between
      | some target =>
          rw [adding_of_found found] at step
          exact (adding.applying compatible.left member found step).between
    · cases added with
      | unlisted missing _ => exact adding.skip missing
      | applied found => exact adding.applied compatible.left member found
      | failed _ possible _ => exact absurd possible not_possible_noFaults
  · intro states state adding
    refine ⟨fun rule inside => adding.kept rule ?_ inside, adding.listed⟩
    exact (AccessUpdate.mem_result inside).symm
  · intro other removed states state state' dropping step
    obtain ⟨rule', deleted, target⟩ := mem_policyTargets.mp removed
    refine ⟨fun rule inside ip held => ?_, fun level ip listed =>
      dropping.listed level ip (step.listed listed)⟩
    refine step.granted (dropping.kept rule inside ip held) fun same => ?_
    rw [same] at held
    exact compatible.target_ne inside deleted held target
  · intro full level other states state state' unexpected dropping step
    refine ⟨fun rule inside ip held => ?_, fun level ip listed =>
      dropping.listed level ip (step.listed listed)⟩
    refine step.granted (dropping.kept rule inside ip held) fun sameLevel same => ?_
    rw [AccessUpdate.result, if_pos full] at inside
    apply unexpected
    refine mem_policyRules.mpr ⟨rule, inside, policyRule?_eq_some_iff.mpr ⟨?_, sameLevel⟩⟩
    rw [held, same]
  · exact fun _ _ dropping => dropping.between
  · exact holds.adding

end WekaShareDriver
