import WekaShareDriver.Access.Runs

/-! # Addresses that no failure takes away

The driver believes an error that says a policy is attached already, an address
listed already or a policy gone. With errors that may be wrong about this,
granting an address can return without having granted it; but no step takes an
address out of an attached policy unless it removes that very address from that
very level (`WekaShareDriver.wp_policySetIp_keeps`).
-/

namespace WekaShareDriver

open Foundation Program

namespace PolicyState

variable {Address : Type} {state : PolicyState Address} {level level' : Level} {kept : Address}

/-- A replaced list grants what it holds while attached. -/
theorem Granted.put {list : AllowList Address} (granted : state.Granted level' kept)
    (holds : level' = level → list.attached = true ∧ kept ∈ list.addresses) :
    (state.put level (some list)).Granted level' kept := by
  by_cases same : level' = level
  · subst same
    obtain ⟨attached, member⟩ := holds rfl
    exact ⟨list, put_self _, attached, member⟩
  · exact (granted_put_of_ne same).mpr granted

end PolicyState

/-- An address stays granted, and nothing but the share's policies differs. -/
def Keeps (session : Session) (share : Share) (fsUid : Uid) (level : Level) (ip : String)
    (w t : World) : Prop :=
  PolicyFrame session share w t ∧ (policyState session share fsUid t).Granted level ip

section Step

variable {session : Session} {share : Share} {fsUid : Uid} {level level' : Level}
  {ip kept : String} {fault : Fault} {w t : World} {entry : Entry SecurityPolicy}

/-- Replacing a policy keeps an address, if it is attached with the address where that
is granted. -/
theorem Keeps.replaced {w₀ : World} (keeps : Keeps session share fsUid level' kept w₀ w)
    (replaced : Replaced w t (policyKey session share level) (some entry))
    (holds : level' = level → fsUid ∈ entry.val.attached ∧ kept ∈ entry.val.ips) :
    Keeps session share fsUid level' kept w₀ t := by
  obtain ⟨frame, granted⟩ := keeps
  refine ⟨frame.trans (.of_replaced replaced), ?_⟩
  rw [replaced.policyState]
  refine granted.put fun same => ?_
  obtain ⟨attached, member⟩ := holds same
  exact ⟨decide_eq_true attached, List.mem_toFinset.mpr member⟩

private theorem Keeps.replaced_of_ne {w₀ : World} {replacement : Option (Entry SecurityPolicy)}
    (keeps : Keeps session share fsUid level' kept w₀ w)
    (replaced : Replaced w t (policyKey session share level) replacement) (ne : level' ≠ level) :
    Keeps session share fsUid level' kept w₀ t := by
  obtain ⟨frame, granted⟩ := keeps
  refine ⟨frame.trans (.of_replaced replaced), ?_⟩
  rw [replaced.policyState]
  exact (PolicyState.granted_put_of_ne ne).mpr granted

/-- A kept address is in the attached policy of its level. -/
theorem Keeps.found {w₀ : World} (keeps : Keeps session share fsUid level kept w₀ w)
    (found : w.cluster.policies.find? (policyKey session share level) = some entry) :
    fsUid ∈ entry.val.attached ∧ kept ∈ entry.val.ips := by
  obtain ⟨list, held, attached, member⟩ := keeps.2
  rw [policyState_of_found found, Option.some.injEq] at held
  subst held
  exact ⟨of_decide_eq_true attached, List.mem_toFinset.mp member⟩

private theorem Keeps.ne_of_missing {w₀ : World}
    (keeps : Keeps session share fsUid level' kept w₀ w)
    (missing : w.cluster.policies.find? (policyKey session share level) = none) :
    level' ≠ level := by
  intro same
  subst same
  obtain ⟨list, held, _⟩ := keeps.2
  rw [policyState_of_missing missing] at held
  cases held

/-- Every step that ends keeping an address, however it ends. -/
abbrev keeping (session : Session) (share : Share) (fsUid : Uid) (level : Level) (ip : String)
    (w : World) {α : Type} : Except Error α → World → Prop :=
  ending (fun _ => Keeps session share fsUid level ip w)
    (fun _ => Keeps session share fsUid level ip w)

private theorem wp_ensurePolicyIp_keeps {w₀ : World}
    (keeps : Keeps session share fsUid level' kept w₀ w) :
    (ensurePolicyIp session share level ip
        (w.cluster.policies.find? (policyKey session share level))).wp (service fault)
      (passing (Keeps session share fsUid level' kept w₀))
      (ending
        (fun uid t => Keeps session share fsUid level' kept w₀ t ∧ ∃ entry,
          t.cluster.policies.find? (policyKey session share level) = some entry ∧ entry.uid = uid)
        (fun _ => Keeps session share fsUid level' kept w₀)) w := by
  unfold ensurePolicyIp
  cases found : w.cluster.policies.find? (policyKey session share level) with
  | none =>
      rw [wp_bind, onOk_ending]
      refine wp_createSecurityPolicy found (fun uid t replaced => ?_) fun _ _ => ⟨keeps, keeps⟩
      have kept' := keeps.replaced_of_ne replaced (keeps.ne_of_missing found)
      exact ⟨kept', kept', _, replaced.found, rfl⟩
  | some entry =>
      dsimp only
      rw [wp_ite]
      split
      · rw [wp_bind, onOk_ending, wp_tryCatch, onError_ending]
        refine wp_updateSecurityPolicy found (fun t replaced => ?_) fun error _ => ⟨keeps, ?_⟩
        · have kept' := keeps.replaced replaced fun same => by
            subst same
            obtain ⟨attached, member⟩ := keeps.found found
            refine ⟨attached, ?_⟩
            simp [SecurityPolicy.update, member]
          exact ⟨kept', kept', _, replaced.found, rfl⟩
        · rw [ending_error, wp_ite]
          split
          · exact ⟨keeps, entry, found, rfl⟩
          · exact keeps
      · exact ⟨keeps, entry, found, rfl⟩

private theorem wp_attachPolicy_keeps {w₀ : World}
    (keeps : Keeps session share fsUid level' kept w₀ w)
    (found : w.cluster.policies.find? (policyKey session share level) = some entry) :
    (attachPolicy session fsUid entry.uid).wp (service fault)
      (passing (Keeps session share fsUid level' kept w₀))
      (keeping session share fsUid level' kept w₀) w := by
  have tolerated : ∀ error, ((if isAlreadyExistsError error || isAlreadyAttachedError error
      then pure () else throw error : Driver Unit)).wp (service fault)
        (passing (Keeps session share fsUid level' kept w₀))
        (keeping session share fsUid level' kept w₀) w := by
    intro error
    rw [wp_ite]
    split
    · exact keeps
    · exact keeps
  unfold attachPolicy
  rw [wp_tryCatch, onError_ending]
  refine wp_attachFsSecurityPolicy found (fun t _ replaced => ?_) (fun _ => ⟨keeps, tolerated _⟩)
    fun error _ => ⟨keeps, tolerated error⟩
  have kept' := keeps.replaced replaced fun same => by
    subst same
    obtain ⟨attached, member⟩ := keeps.found found
    exact ⟨List.mem_append_left _ attached, member⟩
  exact ⟨kept', kept'⟩

private theorem wp_retirePolicy_keeps {w₀ : World}
    (keeps : Keeps session share fsUid level' kept w₀ w)
    (found : w.cluster.policies.find? (policyKey session share level) = some entry)
    (ne : level' ≠ level) :
    (retirePolicy session (some fsUid) entry.uid).wp (service fault)
      (passing (Keeps session share fsUid level' kept w₀))
      (keeping session share fsUid level' kept w₀) w := by
  have delete : ∀ t entry', t.cluster.policies.find? (policyKey session share level) = some entry' →
      entry'.uid = entry.uid → Keeps session share fsUid level' kept w₀ t →
      (tryCatch (send session (.deleteSecurityPolicy entry.uid)) fun error =>
        if isNotFound error then pure () else throw error : Driver Unit).wp (service fault)
          (passing (Keeps session share fsUid level' kept w₀))
          (keeping session share fsUid level' kept w₀) t := by
    intro t entry' found' same there
    rw [← same, wp_tryCatch, onError_ending]
    refine wp_deleteSecurityPolicy found' (fun u gone => ?_) fun error _ => ⟨there, ?_⟩
    · have kept' := there.replaced_of_ne gone ne
      exact ⟨kept', kept'⟩
    · rw [ending_error, wp_ite]
      split
      · exact there
      · exact there
  unfold retirePolicy
  dsimp only
  rw [wp_bind, onOk_ending, wp_tryCatch, onError_ending]
  refine wp_detachFsSecurityPolicy found (fun t replaced => ?_) fun error _ => ⟨keeps, ?_⟩
  · have kept' := keeps.replaced_of_ne replaced ne
    exact ⟨kept', delete t _ replaced.found rfl kept'⟩
  · rw [ending_error, wp_ite]
    split
    · exact delete w entry found rfl keeps
    · exact keeps

/-- What is left of a policy after an address is dropped still holds every other
address. -/
theorem wp_dropPolicyIp_keeps {w₀ : World} (keeps : Keeps session share fsUid level' kept w₀ w)
    (found : w.cluster.policies.find? (policyKey session share level) = some entry)
    (differ : level' = level → kept ≠ ip) :
    (dropPolicyIp session ip entry).wp (service fault)
      (passing (Keeps session share fsUid level' kept w₀))
      (ending
        (fun current t => Keeps session share fsUid level' kept w₀ t ∧
          (level' = level → kept ∈ current) ∧
          ∃ entry', t.cluster.policies.find? (policyKey session share level) = some entry' ∧
            entry'.uid = entry.uid)
        (fun _ => Keeps session share fsUid level' kept w₀)) w := by
  have remains : level' = level → kept ∈ entry.val.ips.filter (· ≠ ip) := by
    intro same
    have other := differ same
    subst same
    exact List.mem_filter.mpr ⟨(keeps.found found).2, decide_eq_true other⟩
  unfold dropPolicyIp
  rw [wp_ite]
  split
  · rw [wp_bind, onOk_ending, wp_tryCatch, onError_ending]
    refine wp_updateSecurityPolicy found (fun t replaced => ?_) fun error _ => ⟨keeps, ?_⟩
    · have kept' := keeps.replaced replaced fun same => by
        have other := differ same
        subst same
        obtain ⟨attached, member⟩ := keeps.found found
        refine ⟨attached, ?_⟩
        simp [SecurityPolicy.update, member, other]
      exact ⟨kept', kept', remains, _, replaced.found, rfl⟩
    · rw [ending_error, wp_ite]
      split
      · exact ⟨keeps, remains, entry, found, rfl⟩
      · exact keeps
  · refine ⟨keeps, fun same => ?_, entry, found, rfl⟩
    exact (List.mem_filter.mp (remains same)).1

/-- Setting an address keeps every granted one, unless it removes that very
address from that very level, whatever fails. -/
theorem wp_policySetIp_keeps {w₀ : World} {present : Bool}
    (keeps : Keeps session share fsUid level' kept w₀ w)
    (differ : present = false → level' = level → kept ≠ ip) :
    (policySetIp session share (some fsUid) level ip present).wp (service fault)
      (passing (Keeps session share fsUid level' kept w₀))
      (keeping session share fsUid level' kept w₀) w := by
  unfold policySetIp
  rw [wp_bind, onOk_ending]
  refine wp_getSecurityPolicyByName keeps ?_ fun _ _ => keeps
  rw [ending_ok]
  cases present with
  | true =>
      simp only [↓reduceIte]
      refine wp_bind_of _ (wp_ensurePolicyIp_keeps keeps) fun uid t reached => ?_
      obtain ⟨kept', entry, found, rfl⟩ := reached
      exact wp_attachPolicy_keeps kept' found
  | false =>
      simp only [Bool.false_eq_true, ↓reduceIte]
      cases found : w.cluster.policies.find? (session, wekafsPolicyName share.id level) with
      | none => exact keeps
      | some entry =>
          dsimp only
          refine wp_bind_of _ (wp_dropPolicyIp_keeps keeps found (differ rfl))
            fun current t reached => ?_
          obtain ⟨kept', remains, entry', found', same⟩ := reached
          rw [wp_ite]
          split
          · next empty =>
              have ne : level' ≠ level := by
                intro equal
                have member := remains equal
                rw [empty] at member
                cases member
              rw [← same]
              exact wp_retirePolicy_keeps kept' found' ne
          · exact kept'

/-! ## Whole updates -/

/-- Applying a rule keeps an address, unless the rule moves it to the other level. -/
theorem wp_addWekafsRule_keeps {w₀ : World} {mountPassword : String} {states : RuleStates}
    {rule : AccessRule} (keeps : Keeps session share fsUid level kept w₀ w)
    (unmoved : rule.policyRule? ≠ some (level.other, kept)) :
    (addWekafsRule session share (some fsUid) mountPassword states rule).wp (service fault)
      (passing (Keeps session share fsUid level kept w₀))
      (keeping session share fsUid level kept w₀) w := by
  unfold addWekafsRule
  by_cases foreign : rule.accessType = .ip
  · by_cases ipv6 : isIpv6 rule.accessTo = true
    · simp only [foreign, ne_eq, not_true_eq_false, ipv6, ↓reduceIte]
      exact keeps
    · have ipv4 : rule.isIpv4 = true := AccessRule.isIpv4_iff.mpr ⟨foreign, by simpa using ipv6⟩
      simp only [foreign, ne_eq, not_true_eq_false, ipv6, ↓reduceIte, Bool.false_eq_true]
      refine wp_tryCatch_of (fun _ => Keeps session share fsUid level kept w₀)
        (wp_bind_of (fun _ => Keeps session share fsUid level kept w₀) ?_ fun _ t kept' => kept')
        fun _ t kept' => kept'
      unfold applyWekafsRule
      cases target : policyIp rule.accessTo with
      | error error => exact keeps
      | ok ip =>
          have found : rule.policyRule? = some (rule.accessLevel, ip) := policyRule?_eq_some_iff.mpr
            ⟨AccessRule.target?_eq_some_iff.mpr ⟨ipv4, target⟩, rfl⟩
          rw [liftExcept, pure_bind]
          refine wp_bind_of _ (wp_policySetIp_keeps keeps fun impossible => by cases impossible)
            fun _ t kept' => wp_policySetIp_keeps kept' fun _ same equal => unmoved ?_
          rw [found, same, Level.other_other, equal]
  · simp only [foreign, ne_eq, not_false_eq_true, ↓reduceIte]
    exact keeps

/-- Removing a rule keeps the address of another. -/
theorem wp_removeWekafsRule_keeps {w₀ : World} {rule : AccessRule}
    (keeps : Keeps session share fsUid level kept w₀ w) (other : rule.target? ≠ some kept) :
    (tryCatch (removeWekafsRule session share (some fsUid) rule) fun _ => pure () :
        Driver Unit).wp (service fault)
      (passing (Keeps session share fsUid level kept w₀))
      (keeping session share fsUid level kept w₀) w := by
  refine wp_tryCatch_of (fun _ => Keeps session share fsUid level kept w₀) ?_
    fun _ t kept' => kept'
  unfold removeWekafsRule
  by_cases foreign : rule.accessType = .ip
  · by_cases ipv6 : isIpv6 rule.accessTo = true
    · simp only [foreign, ne_eq, not_true_eq_false, ipv6, ↓reduceIte]
      exact keeps
    · have ipv4 : rule.isIpv4 = true := AccessRule.isIpv4_iff.mpr ⟨foreign, by simpa using ipv6⟩
      simp only [foreign, ne_eq, not_true_eq_false, ipv6, ↓reduceIte, Bool.false_eq_true]
      cases target : policyIp rule.accessTo with
      | error error => exact keeps
      | ok ip =>
          have differ : kept ≠ ip := fun equal =>
            other (by rw [AccessRule.target?_eq_some_iff.mpr ⟨ipv4, target⟩, equal])
          rw [liftExcept, pure_bind]
          exact wp_bind_of _ (wp_policySetIp_keeps keeps fun _ _ => differ) fun _ t kept' =>
            wp_policySetIp_keeps kept' fun _ _ => differ
  · simp only [foreign, ne_eq, not_false_eq_true, ↓reduceIte]
    exact keeps

/-- Pruning a level keeps an address that a rule expects. -/
theorem wp_pruneLevel_keeps {w₀ : World} {expected : List (Level × String)}
    (keeps : Keeps session share fsUid level' kept w₀ w) (wanted : (level', kept) ∈ expected) :
    (pruneLevel session share (some fsUid) expected level).wp (service fault)
      (passing (Keeps session share fsUid level' kept w₀))
      (keeping session share fsUid level' kept w₀) w := by
  unfold pruneLevel
  rw [wp_bind, onOk_ending]
  refine wp_getSecurityPolicyByName keeps ?_ fun _ _ => keeps
  rw [ending_ok]
  cases w.cluster.policies.find? (session, wekafsPolicyName share.id level) with
  | none => exact keeps
  | some entry =>
      refine wp_forM (fun _ => Keeps session share fsUid level' kept w₀) entry.val.ips ?_
        (fun _ kept' => kept') keeps
      intro visited ip rest t _ kept'
      rw [onOk_ending, wp_ite]
      split
      · exact kept'
      · next unwanted =>
          refine wp_tryCatch_of (fun _ => Keeps session share fsUid level' kept w₀)
            (wp_policySetIp_keeps kept' fun _ same equal => ?_) fun _ _ kept'' => kept''
          rw [same, equal] at wanted
          exact unwanted wanted

end Step

end WekaShareDriver
