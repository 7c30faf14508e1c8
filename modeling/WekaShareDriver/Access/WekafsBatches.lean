import WekaShareDriver.Access.BadRules
import WekaShareDriver.Access.Validation

/-! # WEKAFS batches with bad rules

A rule is bad if it cannot be applied for reasons of its own: its text denotes no IPv4 network, or
NFS knows nothing of its type. Where the cluster takes addresses only and nothing else fails, a
batch of WEKAFS rules has one outcome, which its good rules decide: every rule is reported by itself
(`WekaShareDriver.wekafsOutcome`), and the policies are reconciled with the good rules alone
(`WekaShareDriver.wp_updateWekafsAccess_validated`). A full sync that meets a network it cannot read
ends with an error instead (`WekaShareDriver.wp_updateWekafsAccess_raises`).
-/

namespace WekaShareDriver

open Foundation Program

/-- A rule that cannot be applied for reasons of its own: an ip rule for IPv6 or whose text denotes
no IPv4 network and, over NFS, a rule of another type. -/
def AccessRule.bad (protocol : ShareProto) (rule : AccessRule) : Bool :=
  if rule.accessType = .ip then
    isIpv6 rule.accessTo || (WekaShareDriver.network? rule.accessTo).isNone
  else protocol == .nfs

/-- The other rules. -/
def goodRules (protocol : ShareProto) (rules : List AccessRule) : List AccessRule :=
  rules.filter fun rule => !rule.bad protocol

section Kinds

variable {protocol : ShareProto} {rule : AccessRule} {rules : List AccessRule}
  {net : Ipv4.Network}

/-- The rules that are not bad are good. -/
theorem mem_goodRules :
    rule ∈ goodRules protocol rules ↔ rule ∈ rules ∧ rule.bad protocol = false := by
  rw [goodRules, List.mem_filter, Bool.not_eq_true']

/-- The good rules of two lists are those of each. -/
theorem goodRules_append (first second : List AccessRule) :
    goodRules protocol (first ++ second) = goodRules protocol first ++ goodRules protocol second :=
  List.filter_append ..

/-- A bad rule is no good one. -/
theorem goodRules_of_bad (bad : rule.bad protocol = true) :
    goodRules protocol [rule] = [] := by
  rw [goodRules, List.filter_cons_of_neg (by simp [bad]), List.filter_nil]

/-- A rule that is not bad is a good one. -/
theorem goodRules_of_good (good : rule.bad protocol = false) :
    goodRules protocol [rule] = [rule] := by
  rw [goodRules, List.filter_cons_of_pos (by simp [good]), List.filter_nil]

/-- Good rules are good in any list. -/
theorem goodRules_goodRules :
    goodRules protocol (goodRules protocol rules) = goodRules protocol rules := by
  rw [goodRules, goodRules, List.filter_filter]
  simp only [Bool.and_self]

/-- An ip rule whose text denotes a network is good. -/
theorem AccessRule.bad_of_network? (ipType : rule.accessType = .ip)
    (denotes : WekaShareDriver.network? rule.accessTo = some net) : rule.bad protocol = false := by
  rw [bad, if_pos ipType, denotes, isIpv6, Ipv4.isNetworkV6_of_parseNetwork denotes]
  rfl

/-- An ip rule whose text denotes no network is bad. -/
theorem AccessRule.bad_of_none (ipType : rule.accessType = .ip)
    (none' : WekaShareDriver.network? rule.accessTo = none) : rule.bad protocol = true := by
  rw [bad, if_pos ipType, none', Option.isNone_none, Bool.or_true]

/-- A usable rule whose text denotes no network has a bare text. -/
theorem AccessRule.unreadable_of_usable (usable : rule.usable = true)
    (none' : WekaShareDriver.network? rule.accessTo = none) : rule.Unreadable := by
  obtain ⟨ip, found⟩ := Option.isSome_iff_exists.mp usable
  obtain ⟨same, unreadable⟩ := network?_of_target? found
  apply unreadable
  rw [← same, AccessRule.network?, none', ite_self]

end Kinds

/-! ## Reports -/

section Reports

variable {own : AccessRule → Option RuleState} {rules : List AccessRule} {rule : AccessRule}

private theorem reportStates_of_not_mem {report : String → Option RuleState} {id : String}
    (foreign : ∀ rule ∈ rules, rule.accessId ≠ id) :
    reportStates own rules report id = report id := by
  unfold reportStates
  induction rules generalizing report with
  | nil => rfl
  | cons first rest ih =>
      rw [List.foldl_cons, ih fun rule member => foreign rule (List.mem_cons_of_mem _ member)]
      cases own first with
      | none => rfl
      | some state => exact Function.update_of_ne (foreign first List.mem_cons_self).symm ..

private theorem reportStates_of_mem (distinct : (rules.map AccessRule.accessId).Nodup)
    {report : String → Option RuleState} (member : rule ∈ rules)
    (unreported : report rule.accessId = none) :
    reportStates own rules report rule.accessId = own rule := by
  induction rules generalizing report with
  | nil => cases member
  | cons first rest ih =>
      rw [List.map_cons, List.nodup_cons] at distinct
      change reportStates own rest (reportState report first (own first)) rule.accessId = _
      rcases List.mem_cons.mp member with rfl | later
      · rw [reportStates_of_not_mem fun other inside same =>
          distinct.1 (List.mem_map.mpr ⟨other, inside, same⟩)]
        cases own rule with
        | none => exact unreported
        | some state => exact Function.update_self ..
      · have differs : rule.accessId ≠ first.accessId := fun same =>
          distinct.1 (List.mem_map.mpr ⟨rule, later, same⟩)
        refine ih distinct.2 later ?_
        cases own first with
        | none => exact unreported
        | some state => exact (Function.update_of_ne differs ..).trans unreported

/-- In a batch of rules with different ids, the good ones are reported as in a batch of their
own. -/
theorem reportStates_goodRules {protocol : ShareProto}
    (distinct : (rules.map AccessRule.accessId).Nodup) (good : rule ∈ goodRules protocol rules) :
    reportStates own rules (fun _ => none) rule.accessId =
      reportStates own (goodRules protocol rules) (fun _ => none) rule.accessId := by
  have distinct' : ((goodRules protocol rules).map AccessRule.accessId).Nodup :=
    distinct.sublist (List.filter_sublist.map _)
  rw [reportStates_of_mem distinct (mem_goodRules.mp good).1 rfl,
    reportStates_of_mem distinct' good rfl]

/-- A batch that applies its rules one after the other and records their states reports the state
each rule has by itself. -/
theorem wp_report {service : Service Op Op.Res Error World} {guarantee : World → Op → World → Prop}
    {run : AccessRule → Driver (Option RuleState)} (invariant : List AccessRule → World → Prop)
    (step : ∀ visited rule rest t, rules = visited ++ rule :: rest → invariant visited t →
      (run rule).wp service guarantee
        (ending (fun state u => state = own rule ∧ invariant (visited ++ [rule]) u)
          fun _ _ => False) t)
    {w : World} (initial : invariant [] w) :
    (rules.foldlM (fun states rule => recordState states rule <$> run rule) []).wp service guarantee
      (ending
        (fun states t => states.get? = reportStates own rules (fun _ => none) ∧ invariant rules t)
        fun _ _ => False) w := by
  refine wp_foldlM (fun visited states t =>
    Dict.get? states = reportStates own visited (fun _ => none) ∧ invariant visited t) rules ?_
    (fun _ _ reached => reached) ⟨rfl, initial⟩
  intro visited rule rest states t split reached
  obtain ⟨reported, holds⟩ := reached
  rw [onOk_ending, map_eq_pure_bind]
  refine wp_bind_of _ (step visited rule rest t split holds) fun state u left => ?_
  obtain ⟨rfl, holds'⟩ := left
  refine ⟨?_, holds'⟩
  rw [get?_recordState, reported, reportStates, reportStates, List.foldl_append]
  rfl

end Reports

/-! ## Policies -/

section Wekafs

variable {validation : Validation} {cfg : Config} {session : Session} {share : Share} {fsUid : Uid}
  {mountPassword : String} {w : World} {rule : AccessRule} {rules deleteRules : List AccessRule}
  {fullSync : Bool}

/-- What is reported of a rule by itself. -/
def wekafsOutcome (mountPassword : String) (rule : AccessRule) : Option RuleState :=
  if rule.accessType ≠ .ip then some ⟨.active, some mountPassword⟩
  else if isIpv6 rule.accessTo then none
  else if (network? rule.accessTo).isSome then some ⟨.active, some mountPassword⟩
  else some ⟨.error, none⟩

/-- The lists hold addresses only. -/
def Addressed (state : PolicyState String) : Prop :=
  ∀ level ip, state.Listed level ip → (network? ip).isSome = true

/-- A cluster whose lists hold addresses only shows a filesystem no others. -/
theorem addressed_policyState (addressed : w.cluster.Addressed) :
    Addressed (policyState session share fsUid w) := by
  intro level ip listed
  obtain ⟨list, held, member⟩ := listed
  obtain ⟨entry, found, rfl⟩ := Option.map_eq_some_iff.mp held
  exact addressed.policies.find? found ip (List.mem_toFinset.mp member)

/-- What a batch of good rules leaves of the lists, each level's addresses pruned in some order. -/
def Reconciled (rules deleteRules : List AccessRule) (fullSync : Bool)
    (before after : PolicyState String) : Prop :=
  let changed := (before.applyAll (policyRules rules)).removeAll (policyTargets deleteRules)
  ∃ listing : Level → List String, (∀ level, (listing level).toFinset = changed.addressesAt level) ∧
    after = if fullSync then changed.prune (policyRules rules) listing else changed

/-- A batch leaves one result. -/
theorem Reconciled.unique {before after after' : PolicyState String}
    (reconciled : Reconciled rules deleteRules fullSync before after)
    (reconciled' : Reconciled rules deleteRules fullSync before after') : after = after' := by
  obtain ⟨listing, complete, rfl⟩ := reconciled
  obtain ⟨listing', complete', rfl⟩ := reconciled'
  congr 1
  refine PolicyState.prune_congr fun level ip => and_congr_left fun _ => ?_
  rw [← List.mem_toFinset, complete, ← complete', List.mem_toFinset]

private theorem policyRules_append (first second : List AccessRule) :
    policyRules (first ++ second) = policyRules first ++ policyRules second :=
  List.filterMap_append

/-- What good rules ask of the policies denotes a network. -/
theorem network?_of_goodRules {level : Level} {ip : String}
    (member : (level, ip) ∈ policyRules (goodRules .wekafs rules)) :
    (network? ip).isSome = true := by
  obtain ⟨rule, good, found⟩ := mem_policyRules.mp member
  have target := (policyRule?_eq_some_iff.mp found).1
  have ipType := (AccessRule.isIpv4_iff.mp (AccessRule.target?_eq_some_iff.mp target).1).1
  obtain ⟨same, -⟩ := AccessRule.network?_of_target? target
  rw [AccessRule.network?, if_pos ipType] at same
  rw [← same]
  cases parsed : network? rule.accessTo with
  | some net => rfl
  | none =>
      have bad : rule.bad .wekafs = true := AccessRule.bad_of_none ipType parsed
      rw [(mem_goodRules.mp good).2] at bad
      cases bad

/-- What denotes a network is asked of the policies by good rules if by any. -/
theorem mem_policyRules_goodRules {level : Level} {ip : String}
    (denotes : (network? ip).isSome = true) :
    (level, ip) ∈ policyRules (goodRules .wekafs rules) ↔ (level, ip) ∈ policyRules rules := by
  constructor
  · intro member
    obtain ⟨rule, good, found⟩ := mem_policyRules.mp member
    exact mem_policyRules.mpr ⟨rule, (mem_goodRules.mp good).1, found⟩
  · intro member
    obtain ⟨rule, inside, found⟩ := mem_policyRules.mp member
    have target := (policyRule?_eq_some_iff.mp found).1
    have ipType := (AccessRule.isIpv4_iff.mp (AccessRule.target?_eq_some_iff.mp target).1).1
    obtain ⟨same, -⟩ := AccessRule.network?_of_target? target
    obtain ⟨net, parsed⟩ := Option.isSome_iff_exists.mp denotes
    rw [AccessRule.network?, if_pos ipType, parsed] at same
    exact mem_policyRules.mpr
      ⟨rule, mem_goodRules.mpr ⟨inside, AccessRule.bad_of_network? ipType same⟩, found⟩

private theorem Addressed.applyAll {state : PolicyState String} (addressed : Addressed state) :
    Addressed (state.applyAll (policyRules (goodRules .wekafs rules))) := by
  intro level ip listed
  rcases PolicyState.listed_applyAll listed with before | added
  · exact addressed level ip before
  · exact network?_of_goodRules added

/-- Applied by itself, a rule has its outcome, and only a good one changes the lists. -/
theorem wp_wekafsRuleState (addressed : Addressed (policyState session share fsUid w)) :
    (wekafsRuleState session share (some fsUid) mountPassword rule).wp validation.service
      (passing fun _ => True)
      (ending
        (fun state t => state = wekafsOutcome mountPassword rule ∧ Within session share fsUid w
          (· = (policyState session share fsUid w).applyAll
            (policyRules (goodRules .wekafs [rule]))) t)
        fun _ _ => False) w := by
  by_cases ipType : rule.accessType = .ip
  · cases parsed : network? rule.accessTo with
    | some net =>
        have good : rule.bad .wekafs = false := AccessRule.bad_of_network? ipType parsed
        have notIpv6 : isIpv6 rule.accessTo = false := Ipv4.isNetworkV6_of_parseNetwork parsed
        obtain ⟨ip, target, denotes⟩ := AccessRule.target?_of_network?
          (AccessRule.network?_eq_some_iff.mpr ⟨ipType, parsed⟩)
        have read := (AccessRule.target?_eq_some_iff.mp target).2
        have found : rule.policyRule? = some (rule.accessLevel, ip) :=
          policyRule?_eq_some_iff.mpr ⟨target, rfl⟩
        have asked : policyRules [rule] = [(rule.accessLevel, ip)] := by
          rw [policyRules, List.filterMap_cons_some found, List.filterMap_nil]
        have uses : (applyWekafsRule session share (some fsUid) rule).Uses Accepted := by
          unfold applyWekafsRule
          rw [read, liftExcept, pure_bind]
          refine .bind (accepted_policySetIp_present ?_) fun _ => accepted_policySetIp_absent
          rw [denotes]
          rfl
        rw [goodRules_of_good good, asked]
        unfold wekafsRuleState wekafsOutcome
        simp only [ipType, ne_eq, not_true_eq_false, notIpv6, parsed, Option.isSome_some,
          ↓reduceIte, Bool.false_eq_true]
        refine wp_tryCatch_of (fun _ _ => False) (wp_bind_of _ (Validation.wp_of_accepted uses
          (wp_weaken (wp_applyWekafsRule honest_noFaults read) (fun _ _ => trivial)
            (fun _ _ applied => applied) fun _ _ raised => not_possible_noFaults raised.1)) ?_)
          fun _ _ impossible => impossible.elim
        exact fun _ t applied => ⟨rfl, applied⟩
    | none =>
        rw [goodRules_of_bad (AccessRule.bad_of_none ipType parsed)]
        cases usable : rule.usable with
        | false =>
            rw [wekafsRuleState_unused _ _ _ _ usable]
            refine ⟨?_, .refl w, rfl⟩
            rw [wekafsUnused, wekafsOutcome, parsed]
            rfl
        | true =>
            have unreadable := AccessRule.unreadable_of_usable usable parsed
            have notIpv6 := (AccessRule.isIpv4_iff.mp unreadable.1).2
            have unlisted : rule.accessTo ∉
                (policyState session share fsUid w).addressesAt rule.accessLevel := fun member => by
              have denotes := addressed _ _ (PolicyState.mem_addressesAt.mp member)
              rw [parsed] at denotes
              cases denotes
            unfold wekafsRuleState wekafsOutcome
            simp only [ipType, ne_eq, not_true_eq_false, notIpv6, parsed, Option.isSome_none,
              ↓reduceIte, Bool.false_eq_true]
            refine wp_tryCatch_of (fun _ t => t = w) (wp_bind_of (fun _ _ => False)
              (wp_applyWekafsRule_unreadable unreadable unlisted)
              fun _ _ impossible => impossible.elim) fun _ t same => ?_
            subst same
            exact ⟨rfl, .refl t, rfl⟩
  · have good : rule.bad .wekafs = false := by
      rw [AccessRule.bad, if_neg ipType]
      rfl
    have nothing : policyRules [rule] = [] := by
      have missing : rule.policyRule? = none := by
        simp [AccessRule.policyRule?, AccessRule.target?, AccessRule.isIpv4, ipType]
      rw [policyRules, List.filterMap_cons_none missing, List.filterMap_nil]
    rw [goodRules_of_good good, nothing, wekafsRuleState, if_pos ipType]
    refine ⟨?_, .refl w, rfl⟩
    rw [wekafsOutcome, if_pos ipType]

private theorem wp_addWekafsRules_validated
    (addressed : Addressed (policyState session share fsUid w)) :
    (rules.foldlM (addWekafsRule session share (some fsUid) mountPassword) []).wp validation.service
      (passing fun _ => True)
      (ending
        (fun states t => states.get? =
            reportStates (wekafsOutcome mountPassword) rules (fun _ => none) ∧
          Within session share fsUid w (· = (policyState session share fsUid w).applyAll
            (policyRules (goodRules .wekafs rules))) t)
        fun _ _ => False) w := by
  have steps : addWekafsRule session share (some fsUid) mountPassword = fun states rule =>
      recordState states rule <$> wekafsRuleState session share (some fsUid) mountPassword rule :=
    funext fun states => funext fun rule => addWekafsRule_eq ..
  rw [steps]
  refine wp_report (fun visited => Within session share fsUid w
    (· = (policyState session share fsUid w).applyAll (policyRules (goodRules .wekafs visited))))
    ?_ ⟨.refl w, rfl⟩
  intro visited rule rest t split reached
  obtain ⟨frame, applied⟩ := reached
  have addressed' : Addressed (policyState session share fsUid t) := by
    rw [applied]
    exact addressed.applyAll
  refine wp_weaken (wp_wekafsRuleState addressed') (fun _ kept => kept) (fun state u left => ?_)
    fun _ _ impossible => impossible
  obtain ⟨outcome, frame', applied'⟩ := left
  refine ⟨outcome, frame.trans frame', ?_⟩
  rw [applied', applied, goodRules_append, policyRules_append]
  exact List.foldl_append.symm

private theorem wp_removeWekafsRules_validated :
    (deleteRules.forM fun rule =>
        (tryCatch (removeWekafsRule session share (some fsUid) rule) fun _ => pure () :
          Driver Unit)).wp validation.service (passing fun _ => True)
      (ending
        (fun _ => Within session share fsUid w
          (· = (policyState session share fsUid w).removeAll (policyTargets deleteRules)))
        fun _ _ => False) w :=
  Validation.wp_of_accepted (.forM fun rule _ => .tryCatch (accepted_removeWekafsRule rule) fun _ =>
    trivial) wp_removeWekafsRules_reliable

/-- A batch reports every rule by itself and reconciles the lists with the good rules, unless a full
sync meets a network that cannot be read. -/
theorem wp_updateWekafsPolicies_validated
    (addressed : Addressed (policyState session share fsUid w))
    (readable : fullSync = true → ∀ rule ∈ rules, ¬ rule.Malformed) :
    (updateWekafsPolicies session share (some fsUid) mountPassword rules deleteRules fullSync).wp
      validation.service (passing fun _ => True)
      (ending
        (fun states t => states.get? =
            reportStates (wekafsOutcome mountPassword) rules (fun _ => none) ∧
          Reconciled (goodRules .wekafs rules) deleteRules fullSync
            (policyState session share fsUid w) (policyState session share fsUid t))
        fun _ _ => False) w := by
  unfold updateWekafsPolicies
  refine wp_bind_of _ (wp_addWekafsRules_validated addressed) fun states t reached => ?_
  obtain ⟨reported, -, applied⟩ := reached
  refine wp_bind_of _ wp_removeWekafsRules_validated fun _ u reached => ?_
  obtain ⟨-, removed⟩ := reached
  rw [applied] at removed
  cases fullSync with
  | false =>
      refine ⟨reported, fun level => ((policyState session share fsUid u).addressesAt level).toList,
        fun level => ?_, removed⟩
      rw [removed, Finset.toList_toFinset]
  | true =>
      simp only [↓reduceIte]
      refine wp_bind_of _ (Validation.wp_of_accepted (accepted_pruneWekafsRules rules)
        (wp_weaken (wp_pruneWekafsRules_reliable (readable rfl)) (fun _ kept => kept)
          (fun _ _ pruned => pruned) fun _ _ impossible => impossible)) fun _ v pruned => ?_
      obtain ⟨listing, complete, -, pruned⟩ := pruned
      refine ⟨reported, listing, fun level => by rw [complete, removed], ?_⟩
      rw [pruned, ← removed, if_pos rfl]
      refine PolicyState.prune_congr fun level ip => and_congr_right fun member => ?_
      have listed : (policyState session share fsUid u).Listed level ip := by
        rw [← PolicyState.mem_addressesAt, ← complete]
        exact List.mem_toFinset.mpr member
      rw [removed] at listed
      rw [mem_policyRules_goodRules
        (addressed.applyAll level ip (PolicyState.listed_removeAll listed))]

/-- A full sync that meets a network it cannot read ends with an error. -/
theorem wp_updateWekafsPolicies_raises
    (addressed : Addressed (policyState session share fsUid w))
    (malformed : ∃ rule ∈ rules, rule.Malformed) :
    (updateWekafsPolicies session share (some fsUid) mountPassword rules deleteRules true).wp
      validation.service (passing fun _ => True) (ending (fun _ _ => False) fun _ _ => True) w := by
  obtain ⟨error, raises⟩ := pruneWekafsRules_malformed session share fsUid malformed
  unfold updateWekafsPolicies
  refine wp_bind_of _ (wp_weaken (wp_addWekafsRules_validated addressed) (fun _ kept => kept)
    (fun _ _ reached => reached) fun _ _ _ => trivial) fun states t _ => ?_
  refine wp_bind_of (fun _ _ => True) (wp_weaken wp_removeWekafsRules_validated (fun _ kept => kept)
    (fun _ _ _ => trivial) fun _ _ _ => trivial) fun _ u _ => ?_
  simp only [↓reduceIte]
  rw [raises]
  trivial

private theorem wp_updateWekafsAccess_of_batch {done : RuleStates → World → Prop}
    {raised : Error → World → Prop} (ready : WekafsReady cfg share fsUid w)
    (body : ∀ t, sharePolicies cfg share fsUid t = sharePolicies cfg share fsUid w →
      (updateWekafsPolicies (projectSession cfg share.projectId) share (some fsUid)
        (cfg.orgMountPassword share.projectId) rules deleteRules fullSync).wp validation.service
          (passing fun _ => True) (ending done raised) t) :
    (updateWekafsAccess cfg share rules deleteRules fullSync).wp validation.service
      (passing fun _ => True) (ending done raised) w := by
  rw [updateWekafsAccess_eq]
  refine wp_bind_of _ (Validation.wp_of_accepted accepted_openWekafsAccess
    (wp_weaken (wp_openWekafsAccess ready (fun _ => True) trivial) (fun _ _ => trivial)
      (fun _ _ opened => opened) fun _ _ failed => (not_possible_noFaults failed.1).elim))
    fun opened t reached => ?_
  obtain ⟨⟨-, same⟩, found⟩ := reached
  rw [reconcileWekafsAccess_of_opened found]
  exact body t same

variable (validation deleteRules) in
/-- An update of a ready share reports every rule by itself and reconciles its policies with the
good rules, unless a full sync meets a network that cannot be read. -/
theorem wp_updateWekafsAccess_validated (ready : WekafsReady cfg share fsUid w)
    (addressed : Addressed (sharePolicies cfg share fsUid w))
    (readable : fullSync = true → ∀ rule ∈ rules, ¬ rule.Malformed) :
    (updateWekafsAccess cfg share rules deleteRules fullSync).wp validation.service
      (passing fun _ => True)
      (ending
        (fun states t => states.get? = reportStates
            (wekafsOutcome (cfg.orgMountPassword share.projectId)) rules (fun _ => none) ∧
          Reconciled (goodRules .wekafs rules) deleteRules fullSync
            (sharePolicies cfg share fsUid w) (sharePolicies cfg share fsUid t))
        fun _ _ => False) w := by
  refine wp_updateWekafsAccess_of_batch ready fun t same => ?_
  rw [← same] at addressed ⊢
  exact wp_updateWekafsPolicies_validated addressed readable

variable (validation deleteRules) in
/-- A full sync that meets a network it cannot read ends with an error. -/
theorem wp_updateWekafsAccess_raises (ready : WekafsReady cfg share fsUid w)
    (addressed : Addressed (sharePolicies cfg share fsUid w))
    (malformed : ∃ rule ∈ rules, rule.Malformed) :
    (updateWekafsAccess cfg share rules deleteRules true).wp validation.service
      (passing fun _ => True) (ending (fun _ _ => False) fun _ _ => True) w := by
  refine wp_updateWekafsAccess_of_batch ready fun t same => ?_
  rw [← same] at addressed
  exact wp_updateWekafsPolicies_raises addressed malformed

end Wekafs

end WekaShareDriver
