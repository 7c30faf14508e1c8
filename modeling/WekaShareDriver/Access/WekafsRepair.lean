import WekaShareDriver.Access.Rules
import WekaShareDriver.Access.Runs

/-! # Full synchronization of a WEKAFS share

A full sync without failures either applies its rules and prunes the rest, or
stops before the pruning at a rule that cannot be read
(`WekaShareDriver.Synced`). It leaves exactly the IPv4 rules unless an empty
policy was left behind and no rule visits it, or a rule names no network
(`WekaShareDriver.fullSync_repairs_iff`).
-/

namespace WekaShareDriver

open Foundation Program

/-- What a full sync does to the allow lists. -/
inductive Synced (rules : List AccessRule) (before : PolicyState String) :
    PolicyState String → Prop where
  | pruned (readable : ∀ rule ∈ rules, ¬ rule.Malformed) (listing : Level → List String)
      (complete : ∀ level, (listing level).toFinset =
        (before.applyAll (policyRules rules)).addressesAt level) :
      Synced rules before ((before.applyAll (policyRules rules)).prune (policyRules rules) listing)
  | stopped (malformed : ∃ rule ∈ rules, rule.Malformed) :
      Synced rules before (before.applyAll (policyRules rules))

/-- The states from which a full sync converges to its rules. -/
structure Repairable (rules : List AccessRule) (before : PolicyState String) : Prop where
  addressed : ∀ rule ∈ rules, ¬ rule.Unreadable
  visited : ipv4Rules rules ≠ [] ∨ ∀ level, ¬ before.Leftover level
  pruned : (∀ rule ∈ rules, ¬ rule.Malformed) ∨
    ∀ level ip, before.Listed level ip → ∃ level', (level', ip) ∈ policyRules rules

variable {cfg : Config} {share : Share} {fsUid : Uid} {w : World} {rules : List AccessRule}
  {before after : PolicyState String}

private theorem policyRules_ne_nil (addressed : ∀ rule ∈ rules, ¬ rule.Unreadable) :
    policyRules rules ≠ [] ↔ ipv4Rules rules ≠ [] := by
  rw [ipv4Rules_ne_nil]
  constructor
  · intro nonempty
    obtain ⟨target, member⟩ := List.exists_mem_of_ne_nil _ nonempty
    obtain ⟨rule, ruled, found⟩ := mem_policyRules.mp member
    obtain ⟨same, unreadable⟩ :=
      AccessRule.network?_of_target? (policyRule?_eq_some_iff.mp found).1
    cases denotes : rule.network? with
    | some net => exact ⟨rule, ruled, net, denotes⟩
    | none =>
        have bare := unreadable (same.symm.trans denotes)
        exact absurd bare (addressed rule ruled)
  · intro ⟨rule, ruled, net, denotes⟩
    obtain ⟨ip, target, _⟩ := AccessRule.target?_of_network? denotes
    have found : rule.policyRule? = some (rule.accessLevel, ip) :=
      policyRule?_eq_some_iff.mpr ⟨target, rfl⟩
    exact List.ne_nil_of_mem (mem_policyRules.mpr ⟨rule, ruled, found⟩)

/-- A rule that names no network leaves its text in an attached policy. -/
theorem not_holds_of_unreadable {rule : AccessRule} (member : rule ∈ rules)
    (unreadable : rule.Unreadable) (synced : Synced rules before after) :
    ¬ after.Holds (ipv4Addresses rules) := by
  intro holds
  have found : rule.policyRule? = some (rule.accessLevel, rule.accessTo) :=
    policyRule?_eq_some_iff.mpr ⟨unreadable.target?, rfl⟩
  have ruled : (rule.accessLevel, rule.accessTo) ∈ policyRules rules :=
    mem_policyRules.mpr ⟨rule, member, found⟩
  obtain ⟨level, placed, granted⟩ : ∃ level, ((level, rule.accessTo) ∈ policyRules rules ∨
      level = rule.accessLevel) ∧
      (before.applyAll (policyRules rules)).Granted level rule.accessTo :=
    PolicyState.granted_applyAll (Or.inl ⟨_, ruled⟩)
  have placed' : (level, rule.accessTo) ∈ policyRules rules := by
    rcases placed with ruled' | rfl
    · exact ruled'
    · exact ruled
  have kept : after.Granted level rule.accessTo := by
    cases synced with
    | pruned readable listing complete => exact PolicyState.granted_prune granted placed'
    | stopped malformed => exact granted
  have expected : rule.accessTo ∈ ipv4Addresses rules level := by
    rw [← holds.addresses]
    exact PolicyState.mem_addressesAt.mpr kept.listed
  obtain ⟨other, ipv4, target⟩ := mem_policyRules.mp (PolicyState.mem_ruleSet.mp expected)
  obtain ⟨_, net, denotes⟩ := mem_ipv4Rules.mp ipv4
  have same := (AccessRule.network?_of_target? (policyRule?_eq_some_iff.mp target).1).1
  rw [denotes, unreadable.2.2] at same
  cases same

/-- A full sync leaves exactly its IPv4 rules if and only if the state before it
was repairable. -/
theorem Synced.holds_iff (distinct : DistinctNetworks rules) (synced : Synced rules before after) :
    after.Holds (ipv4Addresses rules) ↔ Repairable rules before := by
  by_cases addressed : ∀ rule ∈ rules, ¬ rule.Unreadable
  · have sets : ipv4Addresses rules = PolicyState.ruleSet (policyRules rules) := by
      unfold ipv4Addresses
      rw [policyRules_ipv4Rules addressed]
    have nodup : ((policyRules rules).map Prod.snd).Nodup := by
      rw [map_snd_policyRules]
      exact nodup_policyTargets distinct (distinctTexts_of_readable addressed)
    rw [sets]
    cases synced with
    | pruned readable listing complete =>
        rw [PolicyState.holds_prune_applyAll nodup complete, policyRules_ne_nil addressed]
        exact ⟨fun visited => ⟨addressed, visited, Or.inl readable⟩, Repairable.visited⟩
    | stopped malformed =>
        rw [PolicyState.holds_applyAll nodup, policyRules_ne_nil addressed]
        constructor
        · intro ⟨visited, covered⟩
          exact ⟨addressed, visited, Or.inr covered⟩
        · intro repairable
          refine ⟨repairable.visited, ?_⟩
          rcases repairable.pruned with readable | covered
          · obtain ⟨rule, member, broken⟩ := malformed
            exact absurd broken (readable rule member)
          · exact covered
  · have bare : ∃ rule ∈ rules, rule.Unreadable := by simpa using addressed
    obtain ⟨rule, member, unreadable⟩ := bare
    constructor
    · intro holds
      exact absurd holds (not_holds_of_unreadable member unreadable synced)
    · intro repairable
      exact absurd unreadable (repairable.addressed rule member)

/-- A full sync without failures synchronizes the share's policies. -/
theorem wp_sync_wekafs (ready : WekafsReady cfg share fsUid w) :
    ((AccessUpdate.sync rules).program cfg share).wp reliable (passing fun _ => True)
      (fun _ t => Synced rules (sharePolicies cfg share fsUid w) (sharePolicies cfg share fsUid t))
      w := by
  rw [AccessUpdate.program_wekafs ready.protocol, AccessUpdate.applied_sync,
    AccessUpdate.fullSync_sync]
  have synced : (updateWekafsAccess cfg share rules (AccessUpdate.sync rules).deleteRules true).wp
      reliable
      (passing fun u => WekafsReady cfg share fsUid u ∧ True)
      (ending (fun _ t => Synced rules (sharePolicies cfg share fsUid w)
          (sharePolicies cfg share fsUid t))
        fun _ t => Synced rules (sharePolicies cfg share fsUid w)
          (sharePolicies cfg share fsUid t)) w := by
    apply wp_updateWekafsAccess ready (fun _ => True) trivial
    · intro _ t possible
      exact absurd possible not_possible_noFaults
    intro t ready' same
    refine wp_weaken (wp_updateWekafsPolicies_ready ready' wp_updateWekafsPolicies_fullSync)
      (fun _ kept => ⟨kept.1, trivial⟩) ?_ ?_
    · intro _ u reached
      obtain ⟨_, readable, listing, complete, _, final⟩ := reached
      unfold sharePolicies at same ⊢
      rw [same] at complete final
      rw [final]
      exact .pruned readable listing complete
    · intro _ u reached
      obtain ⟨_, malformed, _, final⟩ := reached
      unfold sharePolicies at same ⊢
      rw [final, same]
      exact .stopped malformed
  refine wp_mono (fun _ _ _ _ => trivial) (fun outcome t ended => ?_) synced
  cases outcome with
  | ok states => exact ended
  | error error => exact ended

/-- After any updates with any failures, a full sync without failures leaves
exactly its IPv4 rules if and only if the state before it was repairable. -/
theorem fullSync_repairs_iff {fault : Fault} {allowed : AccessUpdate → Prop} {start : World}
    (ready : WekafsReady cfg share fsUid start)
    (reached : UpdatesReach cfg share fault allowed start w) (distinct : DistinctNetworks rules) :
    (sharePolicies cfg share fsUid
        (((AccessUpdate.sync rules).program cfg share).run respond w).2).Holds
          (ipv4Addresses rules) ↔
      Repairable rules (sharePolicies cfg share fsUid w) := by
  exact (post_run (wp_sync_wekafs (reached.wekafsReady ready))).holds_iff distinct

section Sample

/-- The rule was deleted, but the request to delete its empty policy failed. -/
def leftoverWekafs : World :=
  ((⟨[], [], [sampleRule], []⟩ : AccessUpdate).program sampleConfig
    (sampleShare .wekafs)).runScript respond apiFaults
      [none, none, none, none, none, some (.api (.generic 503 "unavailable"))] grantedWekafs |>.2

private theorem leftoverWekafs_reached : UpdatesReach sampleConfig (sampleShare .wekafs) apiFaults
    (fun _ => True) sampleWekafs leftoverWekafs :=
  grantedWekafs_reached.update trivial (exec_runScript _ _ _)

/-- One sync grants the sample rule and repairs what the failed request left. -/
theorem fullSync_repairs_sample :
    DistinctNetworks [sampleRule] ∧ ((sharePolicies sampleConfig (sampleShare .wekafs) 0
        (((AccessUpdate.sync [sampleRule]).program sampleConfig (sampleShare .wekafs)).run respond
          leftoverWekafs).2).Holds (ipv4Addresses [sampleRule]) ↔
      Repairable [sampleRule] (sharePolicies sampleConfig (sampleShare .wekafs) 0
        leftoverWekafs)) :=
  ⟨by unfold DistinctNetworks; decide,
    fullSync_repairs_iff sampleWekafs_ready leftoverWekafs_reached
      (by unfold DistinctNetworks; decide)⟩

/-- The empty sync after the failed request leaves the empty policy in place. -/
theorem fullSync_leaves_empty_policy :
    WekafsReady sampleConfig (sampleShare .wekafs) 0 sampleWekafs ∧
    (∀ level, sharePolicies sampleConfig (sampleShare .wekafs) 0 sampleWekafs level = none) ∧
    UpdatesReach sampleConfig (sampleShare .wekafs) apiFaults (fun _ => True) sampleWekafs
      leftoverWekafs ∧
    DistinctNetworks [] ∧
    ¬ (sharePolicies sampleConfig (sampleShare .wekafs) 0
      (((AccessUpdate.sync []).program sampleConfig (sampleShare .wekafs)).run respond
        leftoverWekafs).2).Holds (ipv4Addresses []) := by
  refine ⟨sampleWekafs_ready, ?_, leftoverWekafs_reached, List.nodup_nil, fun holds => ?_⟩
  · intro level
    cases level <;> decide
  · have kept : (sharePolicies sampleConfig (sampleShare .wekafs) 0
        (((AccessUpdate.sync []).program sampleConfig (sampleShare .wekafs)).run respond
          leftoverWekafs).2 .rw).isSome = true := by decide
    have nonempty := (holds.exists_iff .rw).mp kept
    exact nonempty (by decide)

end Sample

end WekaShareDriver
