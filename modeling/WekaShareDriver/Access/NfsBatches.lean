import WekaShareDriver.Access.Incremental
import WekaShareDriver.Access.WekafsBatches

/-! # NFS batches with bad rules

Where the cluster takes addresses only and nothing else fails, a batch of NFS rules reports every
rule by itself (`WekaShareDriver.nfsOutcome`) and leaves the access that its good rules give
(`WekaShareDriver.wp_updateNfsAccess_validated`). A text that is no address may leave a group
without networks behind, which gives no access. A full sync expects the groups of all rules, the bad
ones' too: it prunes as one of the good rules does unless a permission was given to a group that is
named for bad rules only (`WekaShareDriver.stale_goodRules_iff`).
-/

namespace WekaShareDriver

open Foundation Program

/-- The groups hold addresses only. -/
def NfsState.Addressed (state : NfsState) : Prop :=
  ∀ name network, network ∈ (state name).held → (network? network).isSome = true

section Nfs

variable {validation : Validation} {cfg : Config} {share : Share} {fsName : String} {w : World}
  {rule : AccessRule} {rules deleteRules : List AccessRule} {fullSync : Bool} {grant : Grant}

/-- What is reported of an NFS rule by itself. -/
def nfsOutcome (rule : AccessRule) : Option RuleState :=
  if rule.accessType ≠ .ip then some ⟨.error, none⟩
  else if isIpv6 rule.accessTo then none
  else if (network? rule.accessTo).isSome then some ⟨.active, none⟩
  else some ⟨.error, none⟩

/-- The exports once the good rules were applied and the deleted ones removed. -/
def changedExports (share : Share) (rules deleteRules : List AccessRule) (before : NfsState) :
    NfsState :=
  let applied := before.acceptAll (grants share (goodRules .nfs rules))
  applied.clear (DoomedAll deleteRules applied)

/-- What a batch leaves of the exports. -/
def exportsAfter (share : Share) (rules deleteRules : List AccessRule) (fullSync : Bool)
    (before : NfsState) : NfsState :=
  let changed := changedExports share rules deleteRules before
  if fullSync then changed.clear (Stale share rules changed) else changed

/-- A cluster whose lists hold addresses only shows a filesystem no others. -/
theorem addressed_nfsState (addressed : w.cluster.Addressed) :
    (nfsState fsName w).Addressed := by
  intro name network held
  cases found : w.cluster.clientGroups.find? name with
  | none =>
      rw [GroupAccess.held, nfsState, found] at held
      cases held
  | some entry =>
      rw [GroupAccess.held, nfsState, found] at held
      obtain ⟨rule, member, rfl⟩ := List.mem_map.mp (List.mem_toFinset.mp held)
      obtain ⟨inside, selected⟩ := List.mem_filter.mp member
      have ipType : rule.type = .ip := by
        rw [Bool.and_eq_true, decide_eq_true_eq] at selected
        exact selected.1
      obtain ⟨net, denotes⟩ := Option.isSome_iff_exists.mp
        (addressed.clientGroups.find? found rule inside ipType)
      rw [normWekaIp, denotes, network?_networkText]
      rfl

private theorem grants_append (first second : List AccessRule) :
    grants share (first ++ second) = grants share first ++ grants share second :=
  List.filterMap_append

/-- What a good rule grants denotes a network. -/
theorem network?_of_grants (member : grant ∈ grants share (goodRules .nfs rules)) :
    (network? grant.network).isSome = true := by
  obtain ⟨rule, good, found⟩ := List.mem_filterMap.mp member
  have ipType := (AccessRule.isIpv4_iff.mp (AccessRule.grant?_eq_some_iff.mp found).1).1
  cases parsed : network? rule.accessTo with
  | none =>
      have bad : rule.bad .nfs = true := AccessRule.bad_of_none ipType parsed
      rw [(mem_goodRules.mp good).2] at bad
      cases bad
  | some net =>
      have found' := AccessRule.grant?_of_network? share
        (AccessRule.network?_eq_some_iff.mpr ⟨ipType, parsed⟩)
      rw [found, Option.some.injEq] at found'
      rw [found', network?_networkText]
      rfl

private theorem NfsState.Addressed.acceptAll {state : NfsState} (addressed : state.Addressed) :
    (state.acceptAll (grants share (goodRules .nfs rules))).Addressed := by
  intro name network held
  rcases held_acceptAll held with before | ⟨grant, member, same⟩
  · exact addressed name network before
  · rw [← same]
    exact network?_of_grants member

private theorem NfsState.Addressed.alike {state state' : NfsState} (addressed : state.Addressed)
    (alike : state'.Alike state) : state'.Addressed := by
  intro name network held
  rw [(alike name).1] at held
  exact addressed name network held

/-- Applied by itself, a rule has its outcome, and only a good one changes the access. -/
theorem wp_nfsRuleState (rooted : Rooted fsName w) (addressed : (nfsState fsName w).Addressed) :
    (nfsRuleState share fsName rule).wp validation.service (passing fun _ => True)
      (ending
        (fun state t => state = nfsOutcome rule ∧ Rooted fsName t ∧ (nfsState fsName t).Alike
          ((nfsState fsName w).acceptAll (grants share (goodRules .nfs [rule]))))
        fun _ _ => False) w := by
  by_cases ipType : rule.accessType = .ip
  · cases parsed : network? rule.accessTo with
    | some net =>
        have good : rule.bad .nfs = false := AccessRule.bad_of_network? ipType parsed
        have notIpv6 : isIpv6 rule.accessTo = false := Ipv4.isNetworkV6_of_parseNetwork parsed
        obtain ⟨wekaIp, read, reduced, stored⟩ := cidrToWekaIp_stored parsed
        have found : rule.grant? share = some _ := AccessRule.grant?_eq_some_iff.mpr
          ⟨AccessRule.isIpv4_iff.mpr ⟨ipType, notIpv6⟩, wekaIp, read, rfl⟩
        rw [goodRules_of_good good, grants, List.filterMap_cons_some found, List.filterMap_nil]
        unfold nfsRuleState nfsOutcome
        simp only [ipType, ne_eq, not_true_eq_false, notIpv6, parsed, Option.isSome_some,
          ↓reduceIte, Bool.false_eq_true]
        refine wp_tryCatch_of (fun _ _ => False) (wp_bind_of _ (Validation.wp_of_accepted
          (accepted_applyNfsRule parsed) (wp_weaken (wp_applyNfsRule rooted read rfl)
            (fun _ _ => trivial) (fun _ _ applied => applied)
            fun _ _ raised => not_possible_noFaults raised.1)) ?_)
          fun _ _ impossible => impossible.elim
        intro _ t applied
        obtain ⟨⟨rooted', -⟩, -, accepted⟩ := applied
        refine ⟨rfl, rooted', ?_⟩
        rw [accepted honest_noFaults (Or.inr (reduced.trans stored.symm))]
        exact .refl
    | none =>
        rw [goodRules_of_bad (AccessRule.bad_of_none ipType parsed)]
        cases usable : rule.usable with
        | false =>
            rw [nfsRuleState_unused _ _ usable]
            refine ⟨?_, rooted, .refl⟩
            rw [nfsUnused, nfsOutcome, parsed]
            rfl
        | true =>
            have unreadable := AccessRule.unreadable_of_usable usable parsed
            have notIpv6 := (AccessRule.isIpv4_iff.mp unreadable.1).2
            have unheld : rule.accessTo ∉
                (nfsState fsName w (nfsCgName share.id rule.accessId)).held := fun member => by
              have denotes := addressed _ _ member
              rw [parsed] at denotes
              cases denotes
            unfold nfsRuleState nfsOutcome
            simp only [ipType, ne_eq, not_true_eq_false, notIpv6, parsed, Option.isSome_none,
              ↓reduceIte, Bool.false_eq_true]
            exact wp_tryCatch_of _ (wp_bind_of (fun _ _ => False)
              (wp_applyNfsRule_unreadable unreadable rooted unheld)
              fun _ _ impossible => impossible.elim) fun _ t left => ⟨rfl, left⟩
  · have bad : rule.bad .nfs = true := by
      rw [AccessRule.bad, if_neg ipType]
      rfl
    rw [goodRules_of_bad bad, nfsRuleState, if_pos ipType]
    refine ⟨?_, rooted, .refl⟩
    rw [nfsOutcome, if_pos ipType]

private theorem wp_addNfsRules_validated (rooted : Rooted fsName w)
    (addressed : (nfsState fsName w).Addressed) :
    (rules.foldlM (addNfsRule share fsName) []).wp validation.service (passing fun _ => True)
      (ending
        (fun states t => states.get? = reportStates nfsOutcome rules (fun _ => none) ∧
          Rooted fsName t ∧ (nfsState fsName t).Alike
            ((nfsState fsName w).acceptAll (grants share (goodRules .nfs rules))))
        fun _ _ => False) w := by
  have steps : addNfsRule share fsName = fun states rule =>
      recordState states rule <$> nfsRuleState share fsName rule :=
    funext fun states => funext fun rule => addNfsRule_eq ..
  rw [steps]
  refine wp_report (fun visited t => Rooted fsName t ∧ (nfsState fsName t).Alike
    ((nfsState fsName w).acceptAll (grants share (goodRules .nfs visited)))) ?_ ⟨rooted, .refl⟩
  intro visited rule rest t split reached
  obtain ⟨rooted', applied⟩ := reached
  refine wp_weaken (wp_nfsRuleState rooted' (addressed.acceptAll.alike applied))
    (fun _ kept => kept) (fun state u left => ?_) fun _ _ impossible => impossible
  obtain ⟨outcome, rooted'', applied'⟩ := left
  refine ⟨outcome, rooted'', ?_⟩
  rw [goodRules_append, grants_append, NfsState.acceptAll, List.foldl_append]
  exact applied'.trans applied.acceptAll

private theorem exported_iff {state state' : NfsState} (alike : state.Alike state')
    (selected : String → Prop) (name : String) :
    state.Exported selected name ↔ state'.Exported selected name := by
  unfold NfsState.Exported
  rw [(alike name).2]

variable (validation rules deleteRules fullSync) in
/-- A batch reports every rule by itself and leaves the access that the good rules give. -/
theorem wp_updateNfsAccess_validated (rooted : Rooted (cfg.shareName share.id) w)
    (addressed : (nfsState (cfg.shareName share.id) w).Addressed) :
    (updateNfsAccess cfg share rules deleteRules fullSync).wp validation.service
      (passing fun _ => True)
      (ending
        (fun states t => states.get? = reportStates nfsOutcome rules (fun _ => none) ∧
          Rooted (cfg.shareName share.id) t ∧ (nfsState (cfg.shareName share.id) t).Alike
            (exportsAfter share rules deleteRules fullSync (nfsState (cfg.shareName share.id) w)))
        fun _ _ => False) w := by
  unfold updateNfsAccess
  refine wp_bind_of _ (wp_addNfsRules_validated rooted addressed) fun states t reached => ?_
  obtain ⟨reported, rooted', applied⟩ := reached
  refine wp_bind_of _ (Validation.wp_of_accepted (.forM fun rule _ =>
    .tryCatch (accepted_removeNfsRule rule) fun _ => trivial)
    (wp_removeNfsRules_reliable rooted')) fun _ u left => ?_
  obtain ⟨rooted'', removed⟩ := left
  have changed : (nfsState (cfg.shareName share.id) u).Alike
      (changedExports share rules deleteRules (nfsState (cfg.shareName share.id) w)) := by
    rw [removed]
    exact applied.clear fun name => exported_iff applied _ name
  cases fullSync with
  | false => exact ⟨reported, rooted'', changed⟩
  | true =>
      simp only [↓reduceIte]
      refine wp_bind_of _ (Validation.wp_of_accepted (accepted_pruneNfsRules rules)
        (wp_weaken (wp_pruneNfsRules rooted'' rules) (fun _ _ => trivial)
          (fun _ _ pruned => pruned) fun _ _ raised => not_possible_noFaults raised.1))
        fun _ v pruned => ?_
      obtain ⟨⟨rootedAtEnd, -⟩, cleared⟩ := pruned
      refine ⟨reported, rootedAtEnd, ?_⟩
      rw [cleared not_possible_noFaults]
      exact changed.clear fun name => exported_iff changed _ name

/-- Where a permission is left after a clearing, its group was not cleared and had it before. -/
theorem permission_clear {state : NfsState} {matching : String → Prop}
    [DecidablePred matching] {name : String}
    (exported : (state.clear matching name).permission.isSome = true) :
    ¬ matching name ∧ (state name).permission.isSome = true := by
  unfold NfsState.clear at exported
  split at exported
  · cases exported
  · next unmatched => exact ⟨unmatched, exported⟩

/-- Where nothing is deleted, a batch changes only groups that are named for good rules. -/
theorem changedExports_of_foreign {before : NfsState} {name : String}
    (foreign : ∀ rule ∈ goodRules .nfs rules, nfsCgName share.id rule.accessId ≠ name) :
    changedExports share rules [] before name = before name := by
  unfold changedExports
  rw [clear_doomedAll_nil]
  refine NfsState.acceptAll_of_foreign fun grant member => ?_
  obtain ⟨rule, good, found⟩ := List.mem_filterMap.mp member
  rw [(AccessRule.grant?_group found).1]
  exact foreign rule good

/-- Where no permission was given to a group that is named for bad rules only, a full sync finds the
same groups stale as one of the good rules. -/
theorem stale_goodRules_iff {before : NfsState}
    (harmless : ∀ rule ∈ rules, rule.bad .nfs = true →
      (before (nfsCgName share.id rule.accessId)).permission.isSome = true →
        ∃ other ∈ goodRules .nfs rules,
          nfsCgName share.id other.accessId = nfsCgName share.id rule.accessId) (name : String) :
    Stale share rules (changedExports share rules [] before) name ↔
      Stale share (goodRules .nfs rules) (changedExports share rules [] before) name := by
  refine and_congr_right fun exported => and_congr_right fun _ => not_congr ?_
  constructor
  · intro member
    obtain ⟨rule, inside, rfl⟩ := List.mem_map.mp member
    by_contra unnamed
    have foreign : ∀ other ∈ goodRules .nfs rules,
        nfsCgName share.id other.accessId ≠ nfsCgName share.id rule.accessId :=
      fun other good same => unnamed (List.mem_map.mpr ⟨other, good, same⟩)
    rw [changedExports_of_foreign foreign] at exported
    cases which : rule.bad .nfs with
    | false => exact foreign rule (mem_goodRules.mpr ⟨inside, which⟩) rfl
    | true =>
        obtain ⟨other, good, same⟩ := harmless rule inside which exported
        exact foreign other good same
  · intro member
    obtain ⟨rule, good, named⟩ := List.mem_map.mp member
    exact List.mem_map.mpr ⟨rule, (mem_goodRules.mp good).1, named⟩

end Nfs

end WekaShareDriver
