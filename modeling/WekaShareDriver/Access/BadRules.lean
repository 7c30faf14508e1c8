import WekaShareDriver.Access.Rules
import WekaShareDriver.Access.Runs

/-! # Rules that cannot be applied

Manila passes access rules in batches, and some rules to apply may be of no use to the driver: of
another type, for an IPv6 address, or with a text that is no address. Such a rule makes no call at
all, whatever the cluster answers: the batch is the program that applies the other rules, with the
states of the useless ones added to its report (`WekaShareDriver.nfs_bad_rules_skipped`,
`WekaShareDriver.wekafs_bad_rules_skipped`). Nor does a rule to delete of a WEKAFS share; one of an
NFS share is looked up by its id, whatever it is for, and does make calls. There is one exception. A
full sync of a WEKAFS share reads the addresses of all rules once more before it prunes, and a
network that cannot be read then ends the call with an error after the others were applied.
-/

namespace WekaShareDriver

open Foundation Program

/-! ## Reports -/

/-- A report with the state of one more rule, if it has one. -/
def recordState (states : RuleStates) (rule : AccessRule) : Option RuleState → RuleStates
  | some state => states.assign rule.accessId state
  | none => states

/-- The same of what is reported for each rule id. -/
def reportState (report : String → Option RuleState) (rule : AccessRule) :
    Option RuleState → String → Option RuleState
  | some state => Function.update report rule.accessId (some state)
  | none => report

/-- What is reported, with the states of some rules added. -/
def reportStates (own : AccessRule → Option RuleState) (rules : List AccessRule)
    (report : String → Option RuleState) : String → Option RuleState :=
  rules.foldl (fun report rule => reportState report rule (own rule)) report

section Report

variable {own : AccessRule → Option RuleState} {rules : List AccessRule} {rule : AccessRule}

/-- Recording a state changes what is reported for its rule. -/
theorem get?_recordState (states : RuleStates) (rule : AccessRule)
    (state : Option RuleState) :
    (recordState states rule state).get? = reportState states.get? rule state := by
  cases state with
  | none => rfl
  | some state =>
      funext id
      rw [recordState, reportState, Dict.get?_assign, Function.update_apply]

/-- The states of rules with different ids may be added in any order. -/
theorem reportState_reportStates (report : String → Option RuleState) (state : Option RuleState)
    (apart : ∀ other ∈ rules, other.accessId ≠ rule.accessId) :
    reportStates own rules (reportState report rule state) =
      reportState (reportStates own rules report) rule state := by
  unfold reportStates
  induction rules generalizing report with
  | nil => rfl
  | cons other rest ih =>
      have differs := apart other List.mem_cons_self
      have rest' := fun other member => apart other (List.mem_cons_of_mem _ member)
      rw [List.foldl_cons, List.foldl_cons, ← ih _ rest']
      congr 1
      cases state with
      | none => rfl
      | some state =>
          cases found : own other with
          | none => rfl
          | some state' => exact Function.update_comm differs.symm _ _ _

/-- A batch that applies its rules one after the other and records their states: rules whose state
is known beforehand may be left out, and their states added to the report. -/
theorem batch_skips {run : AccessRule → Driver (Option RuleState)} {good : AccessRule → Bool}
    (skips : ∀ rule, good rule = false → run rule = pure (own rule))
    (distinct : (rules.map AccessRule.accessId).Nodup) {visited : List AccessRule}
    (apart : ∀ other ∈ visited, ∀ rule ∈ rules, other.accessId ≠ rule.accessId)
    {states states' : RuleStates} (agree : states.get? = reportStates own visited states'.get?) :
    Dict.get? <$> rules.foldlM (fun states rule => recordState states rule <$> run rule) states =
      (fun states => reportStates own (visited ++ rules.filter fun rule => !good rule)
        states.get?) <$>
        (rules.filter good).foldlM (fun states rule => recordState states rule <$> run rule)
          states' := by
  induction rules generalizing visited states states' with
  | nil => simp only [List.foldlM_nil, List.filter_nil, List.append_nil, map_pure, agree]
  | cons rule rest ih =>
      rw [List.map_cons, List.nodup_cons] at distinct
      have apart' : ∀ other ∈ visited, ∀ rule ∈ rest, other.accessId ≠ rule.accessId :=
        fun other member rule inside => apart other member rule (List.mem_cons_of_mem _ inside)
      rw [List.foldlM_cons]
      cases which : good rule with
      | true =>
          have kept : (rule :: rest).filter good = rule :: rest.filter good :=
            List.filter_cons_of_pos which
          have skipped : ((rule :: rest).filter fun rule => !good rule) =
              rest.filter fun rule => !good rule := List.filter_cons_of_neg (by simp [which])
          rw [kept, skipped, List.foldlM_cons]
          simp only [map_eq_pure_bind, LawfulMonad.bind_assoc, LawfulMonad.pure_bind] at ih ⊢
          refine congrArg (run rule >>= ·) (funext fun state => ih distinct.2 apart' ?_)
          rw [get?_recordState, get?_recordState, agree, reportState_reportStates]
          exact fun other member => apart other member rule List.mem_cons_self
      | false =>
          have kept : (rule :: rest).filter good = rest.filter good :=
            List.filter_cons_of_neg (by simp [which])
          have skipped : ((rule :: rest).filter fun rule => !good rule) =
              rule :: rest.filter fun rule => !good rule :=
            List.filter_cons_of_pos (by simp [which])
          rw [kept, skipped, skips rule which, map_pure, LawfulMonad.pure_bind, List.append_cons]
          refine ih distinct.2 (fun other member later inside => ?_) ?_
          · rcases List.mem_append.mp member with before | here
            · exact apart' other before later inside
            · rw [List.mem_singleton.mp here]
              intro same
              exact distinct.1 (List.mem_map.mpr ⟨later, inside, same.symm⟩)
          · rw [get?_recordState, agree, reportStates, reportStates, List.foldl_append]
            rfl

/-- The whole batch, from an empty report, and with anything done after it. -/
theorem report_skips (run : AccessRule → Driver (Option RuleState)) (good : AccessRule → Bool)
    (skips : ∀ rule, good rule = false → run rule = pure (own rule))
    (distinct : (rules.map AccessRule.accessId).Nodup) (after : Driver Unit) :
    (Dict.get? <$> do
      let states ← rules.foldlM (fun states rule => recordState states rule <$> run rule) []
      after
      return states) =
    (fun states => reportStates own (rules.filter fun rule => !good rule) states.get?) <$> do
      let states ← (rules.filter good).foldlM
        (fun states rule => recordState states rule <$> run rule) []
      after
      return states := by
  have none : ∀ other ∈ ([] : List AccessRule), ∀ rule ∈ rules, other.accessId ≠ rule.accessId :=
    fun _ member => absurd member List.not_mem_nil
  have empty : Dict.get? ([] : RuleStates) = reportStates own [] (Dict.get? ([] : RuleStates)) :=
    rfl
  have batch := batch_skips skips distinct none empty
  have further := congrArg
    (fun batch => batch >>= fun report => after >>= fun _ => pure report) batch
  simpa only [List.nil_append, map_eq_pure_bind, LawfulMonad.bind_assoc, LawfulMonad.pure_bind]
    using further

private theorem forM_skips {step : AccessRule → Driver PUnit} {good : AccessRule → Bool}
    (skips : ∀ rule, good rule = false → step rule = pure ⟨⟩) (rules : List AccessRule) :
    rules.forM step = (rules.filter good).forM step := by
  induction rules with
  | nil => rfl
  | cons rule rest ih =>
      cases which : good rule with
      | true =>
          rw [List.filter_cons_of_pos which]
          exact congrArg (step rule >>= ·) (funext fun _ => ih)
      | false =>
          have skipped : (rule :: rest).filter good = rest.filter good :=
            List.filter_cons_of_neg (by simp [which])
          rw [skipped, ← ih]
          change (step rule >>= fun _ => rest.forM step) = _
          rw [skips rule which]
          rfl

end Report

/-- A rule with an address to grant: of type ip, not for IPv6, and with a text that can be read. -/
def AccessRule.usable (rule : AccessRule) : Bool := rule.target?.isSome

/-- Why a rule is not usable. -/
theorem unused_cases {rule : AccessRule} (unused : AccessRule.usable rule = false) :
    rule.accessType ≠ .ip ∨ isIpv6 rule.accessTo = true ∨
      ∃ error, policyIp rule.accessTo = .error error := by
  by_cases ip : rule.accessType = .ip
  · cases ipv6 : isIpv6 rule.accessTo with
    | true => exact .inr (.inl rfl)
    | false =>
        cases read : policyIp rule.accessTo with
        | error error => exact .inr (.inr ⟨error, rfl⟩)
        | ok wekaIp =>
            have found := AccessRule.target?_eq_some_iff.mpr
              ⟨AccessRule.isIpv4_iff.mpr ⟨ip, ipv6⟩, read⟩
            rw [AccessRule.usable, found] at unused
            cases unused
  · exact .inl ip

/-- A network whose prefix is too long. -/
def unreadRule : AccessRule := ⟨"c3d4e5f6-0000-4000-8000-000000000005", .ip, "10.1.2.0/99", .rw⟩

/-- An IPv6 address. -/
def ipv6Rule : AccessRule := ⟨"d4e5f607-0000-4000-8000-000000000006", .ip, "fd00::1", .rw⟩

/-- A rule that can be applied among others that cannot. -/
def mixedRules : List AccessRule := [unreadRule, sampleRule, ipv6Rule]

/-! ## WEKAFS -/

section Wekafs

variable (session : Session) (share : Share) (fsUid : Option Uid) (mountPassword : String)

/-- The state of a rule that is not usable: one of another type is granted the mount credential,
and one for IPv6 is not reported. -/
def wekafsUnused (rule : AccessRule) : Option RuleState :=
  if rule.accessType ≠ .ip then some ⟨.active, some mountPassword⟩
  else if isIpv6 rule.accessTo then none
  else some ⟨.error, none⟩

/-- Apply one rule and return its state. -/
def wekafsRuleState (rule : AccessRule) : Driver (Option RuleState) :=
  if rule.accessType ≠ .ip then pure (some ⟨.active, some mountPassword⟩)
  else if isIpv6 rule.accessTo then pure none
  else
    tryCatch
      (do
        applyWekafsRule session share fsUid rule
        return some ⟨.active, some mountPassword⟩)
      fun _ => pure (some ⟨.error, none⟩)

/-- A step of a batch applies its rule and records the state. -/
theorem addWekafsRule_eq (states : RuleStates) (rule : AccessRule) :
    addWekafsRule session share fsUid mountPassword states rule =
      recordState states rule <$> wekafsRuleState session share fsUid mountPassword rule := by
  unfold addWekafsRule wekafsRuleState
  split
  · rfl
  · split
    · rfl
    · rw [map_tryCatch]
      simp only [map_eq_pure_bind, LawfulMonad.bind_assoc, LawfulMonad.pure_bind]
      rfl

/-- A rule that is not usable is not applied. -/
theorem wekafsRuleState_unused {rule : AccessRule}
    (unused : AccessRule.usable rule = false) :
    wekafsRuleState session share fsUid mountPassword rule =
      pure (wekafsUnused mountPassword rule) := by
  unfold wekafsRuleState wekafsUnused
  split
  · rfl
  · next ip =>
    split
    · rfl
    · next ipv6 =>
      rcases unused_cases unused with other | ipv6' | ⟨error, unread⟩
      · exact absurd other ip
      · exact absurd ipv6' ipv6
      · rw [applyWekafsRule, unread]
        rfl

private theorem removeWekafsRule_unused {rule : AccessRule}
    (unused : AccessRule.usable rule = false) :
    (tryCatch (removeWekafsRule session share fsUid rule) fun _ => pure () : Driver Unit) =
      pure () := by
  unfold removeWekafsRule
  split
  · rfl
  · next ip =>
    split
    · rfl
    · next ipv6 =>
      rcases unused_cases unused with other | ipv6' | ⟨error, unread⟩
      · exact absurd other ip
      · exact absurd ipv6' ipv6
      · rw [unread]
        rfl

variable (addRules deleteRules : List AccessRule) (fullSync : Bool)

/-- The calls of a reconciliation after its rules were applied. -/
def afterRules (expected : List AccessRule) : Driver Unit := do
  deleteRules.forM fun rule =>
    tryCatch (removeWekafsRule session share fsUid rule) fun _ => pure ()
  if fullSync then pruneWekafsRules session share fsUid expected else pure ()

/-- A reconciliation applies its rules before it does anything else. -/
theorem updateWekafsPolicies_eq :
    updateWekafsPolicies session share fsUid mountPassword addRules deleteRules fullSync =
      addRules.foldlM (addWekafsRule session share fsUid mountPassword) [] >>= fun states =>
        afterRules session share fsUid deleteRules fullSync addRules >>= fun _ => pure states := by
  unfold updateWekafsPolicies afterRules
  refine congrArg (_ >>= ·) (funext fun states => ?_)
  rw [LawfulMonad.bind_assoc]
  cases fullSync <;> rfl

private theorem afterRules_skips (expected : List AccessRule) :
    afterRules session share fsUid deleteRules fullSync expected =
      afterRules session share fsUid (deleteRules.filter AccessRule.usable) fullSync expected := by
  unfold afterRules
  rw [forM_skips (fun rule unused => removeWekafsRule_unused session share fsUid unused)]

/-- What the rules that can be applied expect of pruning is what all expect. -/
theorem expectedIps_filter (readable : ∀ rule ∈ addRules, ¬ rule.Malformed) :
    expectedIps (addRules.filter AccessRule.usable) = expectedIps addRules := by
  have readable' : ∀ rule ∈ addRules.filter AccessRule.usable, ¬ rule.Malformed :=
    fun rule member => readable rule (List.mem_of_mem_filter member)
  rw [expectedIps_eq readable, expectedIps_eq readable']
  congr 1
  unfold policyRules
  rw [List.filterMap_filter]
  refine List.filterMap_congr fun rule _ => ?_
  unfold AccessRule.usable AccessRule.policyRule?
  cases rule.target? <;> rfl

/-- Rules that are not usable make no call: a batch of WEKAFS rules is the program of the usable
ones, with the states of the others added to its report. Only where a full sync meets a network that
cannot be read does it end with an error, after the usable rules were applied and before anything is
pruned. -/
theorem wekafs_bad_rules_skipped (distinct : (addRules.map AccessRule.accessId).Nodup) :
    ((fullSync = true → ∀ rule ∈ addRules, ¬ rule.Malformed) →
      Dict.get? <$> updateWekafsPolicies session share fsUid mountPassword addRules deleteRules
          fullSync =
        (fun states => reportStates (wekafsUnused mountPassword)
          (addRules.filter fun rule => !AccessRule.usable rule) states.get?) <$>
          updateWekafsPolicies session share fsUid mountPassword (addRules.filter AccessRule.usable)
            (deleteRules.filter AccessRule.usable) fullSync) ∧
    ((∃ rule ∈ addRules, rule.Malformed) →
      ∃ error, updateWekafsPolicies session share fsUid mountPassword addRules deleteRules true =
        updateWekafsPolicies session share fsUid mountPassword (addRules.filter AccessRule.usable)
          (deleteRules.filter AccessRule.usable) false >>= fun _ => throw error) := by
  have steps : addWekafsRule session share fsUid mountPassword = fun states rule =>
      recordState states rule <$> wekafsRuleState session share fsUid mountPassword rule :=
    funext fun states => funext fun rule => addWekafsRule_eq ..
  have skips := report_skips (wekafsRuleState session share fsUid mountPassword) AccessRule.usable
    (fun rule unused => wekafsRuleState_unused session share fsUid mountPassword unused) distinct
  constructor
  · intro readable
    have same : afterRules session share fsUid deleteRules fullSync addRules =
        afterRules session share fsUid (deleteRules.filter AccessRule.usable) fullSync
          (addRules.filter AccessRule.usable) := by
      rw [afterRules_skips]
      cases fullSync with
      | false => rfl
      | true =>
          unfold afterRules pruneWekafsRules
          rw [expectedIps_filter addRules (readable rfl)]
    rw [updateWekafsPolicies_eq, updateWekafsPolicies_eq, steps, same]
    exact skips _
  · intro malformed
    obtain ⟨error, raised⟩ := expectedIps_error malformed
    refine ⟨error, ?_⟩
    have stops (states : RuleStates) :
        (afterRules session share fsUid deleteRules true addRules >>= fun _ => pure states) =
          afterRules session share fsUid (deleteRules.filter AccessRule.usable) false
            (addRules.filter AccessRule.usable) >>= fun _ => (throw error : Driver RuleStates) := by
      rw [afterRules_skips, afterRules, afterRules, pruneWekafsRules, raised]
      simp only [LawfulMonad.bind_assoc]
      rfl
    have batch := congrArg (fun batch => batch >>= fun _ => (throw error : Driver RuleStates))
      (skips (afterRules session share fsUid (deleteRules.filter AccessRule.usable) false
        (addRules.filter AccessRule.usable)))
    rw [updateWekafsPolicies_eq, updateWekafsPolicies_eq, steps]
    simpa only [stops, map_eq_pure_bind, LawfulMonad.bind_assoc, LawfulMonad.pure_bind] using batch

/-- A full sync with a network that cannot be read applies the readable rule and raises. -/
theorem wekafs_bad_rules_skipped_sample :
    ∃ error, updateWekafsPolicies .admin (sampleShare .wekafs) none "password" mixedRules [] true =
      updateWekafsPolicies .admin (sampleShare .wekafs) none "password"
        (mixedRules.filter AccessRule.usable) [] false >>= fun _ => throw error :=
  (wekafs_bad_rules_skipped .admin (sampleShare .wekafs) none "password" mixedRules [] true
    (by decide)).2 ⟨unreadRule, by decide, rfl, _, rfl⟩

end Wekafs

/-! ## NFS -/

section Nfs

variable (cfg : Config) (share : Share) (fsName : String)

/-- The state of an NFS rule that is not usable: one for IPv6 is not reported. -/
def nfsUnused (rule : AccessRule) : Option RuleState :=
  if rule.accessType ≠ .ip then some ⟨.error, none⟩
  else if isIpv6 rule.accessTo then none
  else some ⟨.error, none⟩

/-- Apply one rule and return its state. -/
def nfsRuleState (rule : AccessRule) : Driver (Option RuleState) :=
  if rule.accessType ≠ .ip then pure (some ⟨.error, none⟩)
  else if isIpv6 rule.accessTo then pure none
  else
    tryCatch
      (do
        applyNfsRule share fsName rule
        return some ⟨.active, none⟩)
      fun _ => pure (some ⟨.error, none⟩)

/-- A step of an NFS batch applies its rule and records the state. -/
theorem addNfsRule_eq (states : RuleStates) (rule : AccessRule) :
    addNfsRule share fsName states rule =
      recordState states rule <$> nfsRuleState share fsName rule := by
  unfold addNfsRule nfsRuleState
  split
  · rfl
  · split
    · rfl
    · rw [map_tryCatch]
      simp only [map_eq_pure_bind, LawfulMonad.bind_assoc, LawfulMonad.pure_bind]
      rfl

/-- Client groups and policies can be given the same rules. -/
theorem cidrToWekaIp_error {text : String} {error : Error} (unread : policyIp text = .error error) :
    ∃ error, cidrToWekaIp text = .error error := by
  unfold policyIp at unread
  split at unread
  · cases unread
  · next slash =>
    split at unread
    · cases unread
    · next unparsed =>
      refine ⟨.value text, ?_⟩
      rw [cidrToWekaIp, if_neg slash, unparsed]

/-- An NFS rule that is not usable is not applied. -/
theorem nfsRuleState_unused {rule : AccessRule} (unused : rule.usable = false) :
    nfsRuleState share fsName rule = pure (nfsUnused rule) := by
  unfold nfsRuleState nfsUnused
  split
  · rfl
  · next ip =>
    split
    · rfl
    · next ipv6 =>
      rcases unused_cases unused with other | ipv6' | ⟨error, unread⟩
      · exact absurd other ip
      · exact absurd ipv6' ipv6
      · obtain ⟨error, unread⟩ := cidrToWekaIp_error unread
        rw [applyNfsRule, unread]
        rfl

variable (addRules deleteRules : List AccessRule) (fullSync : Bool)

/-- The calls of an update after its rules were applied. -/
def afterNfsRules (expected : List AccessRule) : Driver Unit := do
  deleteRules.forM fun rule =>
    tryCatch (removeNfsRule cfg (cfg.shareName share.id) rule) fun _ => pure ()
  if fullSync then pruneNfsRules cfg share (cfg.shareName share.id) expected else pure ()

private theorem updateNfsAccess_eq :
    updateNfsAccess cfg share addRules deleteRules fullSync =
      addRules.foldlM (addNfsRule share (cfg.shareName share.id)) [] >>= fun states =>
        afterNfsRules cfg share deleteRules fullSync addRules >>= fun _ => pure states := by
  unfold updateNfsAccess afterNfsRules
  refine congrArg (_ >>= ·) (funext fun states => ?_)
  rw [LawfulMonad.bind_assoc]
  cases fullSync <;> rfl

/-- Rules to apply that are not usable make no call: a batch of NFS rules is the program in which
only the usable ones are applied, with the states of the others added to its report; the rules to
delete are not looked at and stay in it. A full sync removes no permission of a group that is named
for any rule to apply, and treats all other permissions as if only the usable rules were there. -/
theorem nfs_bad_rules_skipped (distinct : (addRules.map AccessRule.accessId).Nodup) :
    Dict.get? <$> updateNfsAccess cfg share addRules deleteRules fullSync =
      ((fun states => reportStates nfsUnused (addRules.filter fun rule => !rule.usable)
        states.get?) <$> do
        let states ← (addRules.filter AccessRule.usable).foldlM
          (addNfsRule share (cfg.shareName share.id)) []
        afterNfsRules cfg share deleteRules fullSync addRules
        return states) ∧
    ∀ names perm, (∀ rule ∈ addRules, rule.usable = false →
        perm.val.group ≠ nfsCgName share.id rule.accessId) →
      prunePermission (cfg.shareName share.id) (nfsCgPrefix share.id)
          (addRules.map fun rule => nfsCgName share.id rule.accessId) names perm =
        prunePermission (cfg.shareName share.id) (nfsCgPrefix share.id)
          ((addRules.filter AccessRule.usable).map fun rule => nfsCgName share.id rule.accessId)
          names perm := by
  have steps : addNfsRule share (cfg.shareName share.id) = fun states rule =>
      recordState states rule <$> nfsRuleState share (cfg.shareName share.id) rule :=
    funext fun states => funext fun rule => addNfsRule_eq ..
  constructor
  · rw [updateNfsAccess_eq, steps]
    exact report_skips (nfsRuleState share (cfg.shareName share.id)) AccessRule.usable
      (fun rule unused => nfsRuleState_unused share _ unused) distinct _
  · intro names perm apart
    have same : (perm.val.group ∈ addRules.map fun rule => nfsCgName share.id rule.accessId) ↔
        perm.val.group ∈ (addRules.filter AccessRule.usable).map fun rule =>
          nfsCgName share.id rule.accessId := by
      simp only [List.mem_map, List.mem_filter]
      constructor
      · rintro ⟨rule, member, named⟩
        refine ⟨rule, ⟨member, ?_⟩, named⟩
        by_contra unused
        exact apart rule member (Bool.eq_false_iff.mpr unused) named.symm
      · rintro ⟨rule, ⟨member, -⟩, named⟩
        exact ⟨rule, member, named⟩
    unfold prunePermission
    simp only [same]

/-- A permission for a rule that is in the list no longer. -/
def stalePermission : Entry NfsPermission :=
  ⟨7, ⟨sampleConfig.shareName (sampleShare .nfs).id, nfsCgName (sampleShare .nfs).id "gone", "/",
    .rw, true⟩⟩

/-- A full sync of a batch with one usable rule, and what it does to a permission that is left. -/
theorem nfs_bad_rules_skipped_sample :
    (Dict.get? <$> updateNfsAccess sampleConfig (sampleShare .nfs) mixedRules [] true =
      (fun states => reportStates nfsUnused (mixedRules.filter fun rule => !rule.usable)
        states.get?) <$> do
        let states ← (mixedRules.filter AccessRule.usable).foldlM
          (addNfsRule (sampleShare .nfs) (sampleConfig.shareName (sampleShare .nfs).id)) []
        afterNfsRules sampleConfig (sampleShare .nfs) [] true mixedRules
        return states) ∧
      prunePermission (sampleConfig.shareName (sampleShare .nfs).id)
          (nfsCgPrefix (sampleShare .nfs).id)
          (mixedRules.map fun rule => nfsCgName (sampleShare .nfs).id rule.accessId) []
          stalePermission =
        prunePermission (sampleConfig.shareName (sampleShare .nfs).id)
          (nfsCgPrefix (sampleShare .nfs).id) [nfsCgName (sampleShare .nfs).id sampleRule.accessId]
          [] stalePermission := by
  obtain ⟨applied, pruned⟩ :=
    nfs_bad_rules_skipped sampleConfig (sampleShare .nfs) mixedRules [] true (by decide)
  exact ⟨applied, pruned [] stalePermission (by decide)⟩

end Nfs

end WekaShareDriver
