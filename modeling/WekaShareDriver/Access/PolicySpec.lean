import WekaShareDriver.Access.PolicyCalls

/-! # Setting an address in a per-share policy

`policySetIp` refines granting and revoking an address on allow lists: whatever
calls fail, every state it passes through is one of
`WekaShareDriver.PolicyState.Granting` or `WekaShareDriver.PolicyState.Revoking`,
and when it returns, the address is granted or revoked
(`WekaShareDriver.wp_policySetIp_present`,
`WekaShareDriver.wp_policySetIp_absent`).
-/

namespace WekaShareDriver

open Foundation Program

/-- The name the cluster keeps a share's policy of a level under. -/
def policyKey (session : Session) (share : Share) (level : Level) : Session × String :=
  (session, wekafsPolicyName share.id level)

/-- A policy as a filesystem sees it. -/
def AllowList.ofEntry (fsUid : Uid) (entry : Entry SecurityPolicy) : AllowList String where
  addresses := entry.val.ips.toFinset
  readOnly := entry.val.readOnly
  attached := decide (fsUid ∈ entry.val.attached)

/-- The share's policies as its filesystem sees them. -/
def policyState (session : Session) (share : Share) (fsUid : Uid) (w : World) :
    PolicyState String :=
  fun level => (w.cluster.policies.find? (policyKey session share level)).map
    (AllowList.ofEntry fsUid)

/-- Nothing but the share's own policies differs. -/
structure PolicyFrame (session : Session) (share : Share) (w t : World) : Prop where
  world : t = { w with cluster := { w.cluster with policies := t.cluster.policies } }
  others : ∀ key, (∀ level, key ≠ policyKey session share level) →
    t.cluster.policies.find? key = w.cluster.policies.find? key

variable {session : Session} {share : Share} {fsUid : Uid} {level : Level} {w t u : World}
  {entry : Entry SecurityPolicy} {ip : String}

private theorem policyKey_injective {level' : Level}
    (same : policyKey session share level = policyKey session share level') : level = level' := by
  have names : wekafsPolicyName share.id level = wekafsPolicyName share.id level' :=
    congrArg Prod.snd same
  unfold wekafsPolicyName at names
  have suffixes : level.text = level'.text := Text.append_left_inj.mp names
  cases level <;> cases level' <;> first | rfl | exact absurd suffixes (by decide)

/-- The list of a level is that of the policy found for it. -/
theorem policyState_of_found (found : w.cluster.policies.find? (policyKey session share level) =
    some entry) :
    policyState session share fsUid w level = some (AllowList.ofEntry fsUid entry) := by
  simp only [policyState, found, Option.map_some]

/-- A level without a policy has no list. -/
theorem policyState_of_missing
    (missing : w.cluster.policies.find? (policyKey session share level) = none) :
    policyState session share fsUid w level = none := by
  simp only [policyState, missing, Option.map_none]

/-- Replacing one policy replaces one list. -/
theorem Replaced.policyState {replacement : Option (Entry SecurityPolicy)}
    (replaced : Replaced w t (policyKey session share level) replacement) :
    policyState session share fsUid t =
      (policyState session share fsUid w).put level
        (replacement.map (AllowList.ofEntry fsUid)) := by
  funext other
  unfold WekaShareDriver.policyState
  rw [replaced.lookup]
  by_cases same : other = level
  · subst same
    rw [Function.update_self, PolicyState.put_self]
  · rw [Function.update_of_ne fun equal => same (policyKey_injective equal),
      PolicyState.put_of_ne same]

namespace PolicyFrame

/-- Nothing differs from itself. -/
theorem refl (w : World) : PolicyFrame session share w w := ⟨rfl, fun _ _ => rfl⟩

/-- Two changes of nothing but the policies of the share are one. -/
theorem trans (first : PolicyFrame session share w t) (second : PolicyFrame session share t u) :
    PolicyFrame session share w u := by
  refine ⟨?_, fun key foreign => (second.others key foreign).trans (first.others key foreign)⟩
  rw [second.world, first.world]

/-- Replacing a policy of the share changes nothing else. -/
theorem of_replaced {replacement : Option (Entry SecurityPolicy)}
    (replaced : Replaced w t (policyKey session share level) replacement) :
    PolicyFrame session share w t := by
  refine ⟨replaced.world, fun key foreign => ?_⟩
  rw [replaced.lookup, Function.update_of_ne (foreign level)]

end PolicyFrame

section Calls

variable {fault : Fault} {passed : World → Prop} {done : Unit → World → Prop}

/-- Attaching a policy ends with it attached, whether it was before or not. -/
theorem wp_attachPolicy (honest : Honest fault)
    (found : w.cluster.policies.find? (policyKey session share level) = some entry)
    (here : passed w)
    (attached : ∀ t entry', Replaced w t (policyKey session share level) (some entry') →
      AllowList.ofEntry fsUid entry' = { AllowList.ofEntry fsUid entry with attached := true } →
      passed t ∧ done () t) :
    (attachPolicy session fsUid entry.uid).wp (service fault) (passing passed)
      (ending done fun _ t => Possible fault ∧ passed t) w := by
  apply wp_attachPolicy_found honest found here
  intro t entry' replaced same
  apply attached t entry' replaced
  rcases same with ⟨there, rfl⟩ | rfl
  · simp only [AllowList.ofEntry, there, decide_true]
  · simp [AllowList.ofEntry, SecurityPolicy.attach]

variable (fsUid) in
/-- The policy of a level ends with the address in it. -/
theorem wp_ensurePolicyIp (honest : Honest fault) {done : Uid → World → Prop} (here : passed w)
    (widened : ∀ t entry', Replaced w t (policyKey session share level) (some entry') →
      AllowList.ofEntry fsUid entry' = (policyState session share fsUid w).widen level ip →
      passed t ∧ done entry'.uid t) :
    (ensurePolicyIp session share level ip
        (w.cluster.policies.find? (policyKey session share level))).wp (service fault)
      (passing passed) (ending done fun _ t => Possible fault ∧ passed t) w := by
  unfold ensurePolicyIp
  cases found : w.cluster.policies.find? (policyKey session share level) with
  | none =>
      rw [wp_bind, onOk_ending]
      refine wp_createSecurityPolicy found (fun uid t replaced => ?_) fun error raised =>
        ⟨here, ⟨w, _, error, raised⟩, here⟩
      refine widened t _ replaced ?_
      simp [AllowList.ofEntry, PolicyState.widen, policyState_of_missing found]
  | some entry =>
      have listed : ip ∈ entry.val.ips → done entry.uid w := fun member => by
        refine (widened w entry ?_ ?_).2
        · rw [← found]
          exact .refl w _
        · simp [PolicyState.widen, policyState_of_found found, AllowList.ofEntry, member]
      dsimp only
      rw [wp_ite]
      split
      · next missing =>
          rw [wp_bind, onOk_ending, wp_tryCatch, onError_ending]
          refine wp_updateSecurityPolicy found (fun t replaced => ?_) fun error raised =>
            ⟨here, ?_⟩
          · refine widened t ⟨entry.uid, entry.val.update [ip] []⟩ replaced ?_
            simp only [PolicyState.widen, policyState_of_found found, AllowList.ofEntry]
            congr 1
            ext other
            have updated : (entry.val.update [ip] []).ips = entry.val.ips ++ [ip] := by
              simp [SecurityPolicy.update, missing]
            rw [updated, List.mem_toFinset, List.mem_append, List.mem_singleton,
              Finset.mem_insert, List.mem_toFinset, or_comm]
          · rw [ending_error, wp_ite]
            split
            · next tolerated =>
                obtain ⟨entry', present, there⟩ := honest.alreadyThere w _ _ error raised
                  (Bool.or_eq_true_iff.mpr (Or.inl tolerated))
                rw [Registry.get?_of_find? found, Option.some.injEq] at present
                subst present
                exact absurd (there ip (List.mem_singleton_self ip)) missing
            · exact ⟨⟨w, _, error, raised⟩, here⟩
      · next member => exact listed (not_not.mp member)

variable (fsUid) in
/-- A listed address is removed; the cluster and the local copy agree on what is
left. -/
theorem wp_dropPolicyIp (honest : Honest fault) {done : List String → World → Prop}
    (found : w.cluster.policies.find? (policyKey session share level) = some entry)
    (here : passed w)
    (dropped : ∀ t entry' current, Replaced w t (policyKey session share level) (some entry') →
      entry'.uid = entry.uid → AllowList.ofEntry fsUid entry' = { AllowList.ofEntry fsUid entry with
        addresses := (AllowList.ofEntry fsUid entry).addresses.erase ip } →
      current.toFinset = (AllowList.ofEntry fsUid entry).addresses.erase ip →
      passed t ∧ done current t) :
    (dropPolicyIp session ip entry).wp (service fault) (passing passed)
      (ending done fun _ t => Possible fault ∧ passed t) w := by
  unfold dropPolicyIp
  rw [wp_ite]
  split
  · next member =>
      have erased : (entry.val.ips.filter (· ≠ ip)).toFinset = entry.val.ips.toFinset.erase ip := by
        ext other
        simp [and_comm]
      rw [wp_bind, onOk_ending, wp_tryCatch, onError_ending]
      refine wp_updateSecurityPolicy found (fun t replaced => ?_) fun error raised => ⟨here, ?_⟩
      · refine dropped t ⟨entry.uid, entry.val.update [] [ip]⟩ _ replaced rfl ?_ erased
        simp only [AllowList.ofEntry]
        congr 1
        ext other
        simp [SecurityPolicy.update, and_comm]
      · rw [ending_error, wp_ite]
        split
        · next missing =>
            have gone := honest.gone w _ _ error raised missing
            exact absurd gone (get?_ne_none_of_found found)
        · exact ⟨⟨w, _, error, raised⟩, here⟩
  · next missing =>
      have unlisted : ip ∉ (AllowList.ofEntry fsUid entry).addresses := by
        simpa [AllowList.ofEntry] using missing
      refine (dropped w entry _ ?_ rfl ?_ ?_).2
      · rw [← found]
        exact .refl w _
      · rw [Finset.erase_eq_of_notMem unlisted]
      · rw [Finset.erase_eq_of_notMem unlisted]
        rfl

/-- A policy is detached, unless that fails, and deleted. -/
theorem wp_retirePolicy (honest : Honest fault)
    (found : w.cluster.policies.find? (policyKey session share level) = some entry)
    (here : passed w)
    (detached : ∀ t entry', Replaced w t (policyKey session share level) (some entry') →
      AllowList.ofEntry fsUid entry' = { AllowList.ofEntry fsUid entry with attached := false } →
      passed t)
    (deleted : ∀ t, Replaced w t (policyKey session share level) none → passed t ∧ done () t) :
    (retirePolicy session (some fsUid) entry.uid).wp (service fault) (passing passed)
      (ending done fun _ t => Possible fault ∧ passed t) w := by
  -- The delete runs in the world the detach left.
  have delete : ∀ t entry', Replaced w t (policyKey session share level) (some entry') →
      entry'.uid = entry.uid → passed t →
      (tryCatch (send session (.deleteSecurityPolicy entry.uid)) fun error =>
        if isNotFound error then pure () else throw error : Driver Unit).wp (service fault)
          (passing passed) (ending done fun _ t => Possible fault ∧ passed t) t := by
    intro t entry' replaced same there
    rw [← same, wp_tryCatch, onError_ending]
    refine wp_deleteSecurityPolicy replaced.found (fun u gone => ?_) fun error raised =>
      ⟨there, ?_⟩
    · exact deleted u (replaced.trans gone)
    · rw [ending_error, wp_ite]
      split
      · next missing =>
          have gone := honest.gone t _ _ error raised missing
          exact absurd gone (get?_ne_none_of_found replaced.found)
      · exact ⟨⟨t, _, error, raised⟩, there⟩
  have unchanged : Replaced w w (policyKey session share level) (some entry) := by
    rw [← found]
    exact .refl w _
  unfold retirePolicy
  dsimp only
  rw [wp_bind, onOk_ending, wp_tryCatch, onError_ending]
  refine wp_detachFsSecurityPolicy found (fun t replaced => ?_) fun error raised => ⟨here, ?_⟩
  · have there : passed t := by
      refine detached t ⟨entry.uid, entry.val.detach fsUid⟩ replaced ?_
      simp [AllowList.ofEntry, SecurityPolicy.detach]
    exact ⟨there, delete t _ replaced rfl there⟩
  · rw [ending_error, wp_ite]
    split
    · exact delete w entry unchanged rfl here
    · exact ⟨⟨w, _, error, raised⟩, here⟩

end Calls

/-- A world that differs in the share's policies only, which satisfy a
predicate. -/
def Within (session : Session) (share : Share) (fsUid : Uid) (w : World)
    (states : PolicyState String → Prop) (t : World) : Prop :=
  PolicyFrame session share w t ∧ states (policyState session share fsUid t)

/-- Replacing the policy of a level puts what replaced it into the share's lists. -/
theorem Within.of_replaced {states : PolicyState String → Prop}
    {replacement : Option (Entry SecurityPolicy)}
    (replaced : Replaced w t (policyKey session share level) replacement)
    (state : states ((policyState session share fsUid w).put level
      (replacement.map (AllowList.ofEntry fsUid)))) :
    Within session share fsUid w states t := by
  refine ⟨.of_replaced replaced, ?_⟩
  rw [replaced.policyState]
  exact state

/-- A change of the share's policies before changes nothing else either. -/
theorem Within.trans {states : PolicyState String → Prop} (frame : PolicyFrame session share w t)
    (within : Within session share fsUid t states u) : Within session share fsUid w states u :=
  ⟨frame.trans within.1, within.2⟩

section SetIp

variable {fault : Fault}

/-- Adding an address passes through the states of granting it and ends with it
granted. -/
theorem wp_policySetIp_present (honest : Honest fault) :
    (policySetIp session share (some fsUid) level ip true).wp (service fault)
      (passing (Within session share fsUid w ((policyState session share fsUid w).Granting level ip)))
      (ending
        (fun _ => Within session share fsUid w (· = (policyState session share fsUid w).grant level ip))
        (fun _ t => Possible fault ∧
          Within session share fsUid w ((policyState session share fsUid w).Granting level ip) t))
      w := by
  have here : Within session share fsUid w
      ((policyState session share fsUid w).Granting level ip) w := ⟨.refl w, .before⟩
  unfold policySetIp
  rw [wp_bind, onOk_ending]
  refine wp_getSecurityPolicyByName here ?_ fun error raised => ⟨⟨w, _, error, raised⟩, here⟩
  rw [ending_ok]
  simp only [↓reduceIte]
  refine wp_bind_of (fun uid t => ∃ entry',
    Replaced w t (policyKey session share level) (some entry') ∧
    AllowList.ofEntry fsUid entry' = (policyState session share fsUid w).widen level ip ∧
    entry'.uid = uid) (wp_ensurePolicyIp fsUid honest here ?_) ?_
  · intro t entry' replaced equal
    refine ⟨.of_replaced replaced ?_, entry', replaced, equal, rfl⟩
    rw [Option.map_some, equal]
    exact .admitted
  · rintro uid t ⟨entry', replaced, equal, rfl⟩
    refine wp_attachPolicy honest replaced.found (.of_replaced replaced ?_) ?_
    · rw [Option.map_some, equal]
      exact .admitted
    · intro u entry'' replaced' equal'
      have granted : (policyState session share fsUid w).put level
          ((some entry'').map (AllowList.ofEntry fsUid)) =
            (policyState session share fsUid w).grant level ip := by
        rw [Option.map_some, equal', equal]
        rfl
      refine ⟨.of_replaced (replaced.trans replaced') ?_, .of_replaced (replaced.trans replaced') ?_⟩
      · rw [granted]
        exact .done
      · exact granted

/-- Removing an address passes through the states of revoking it and ends with
it revoked. -/
theorem wp_policySetIp_absent (honest : Honest fault) :
    (policySetIp session share (some fsUid) level ip false).wp (service fault)
      (passing (Within session share fsUid w ((policyState session share fsUid w).Revoking level ip)))
      (ending
        (fun _ =>
          Within session share fsUid w (· = (policyState session share fsUid w).revoke level ip))
        (fun _ t => Possible fault ∧
          Within session share fsUid w ((policyState session share fsUid w).Revoking level ip) t))
      w := by
  have here : Within session share fsUid w
      ((policyState session share fsUid w).Revoking level ip) w := ⟨.refl w, .before⟩
  unfold policySetIp
  rw [wp_bind, onOk_ending]
  refine wp_getSecurityPolicyByName here ?_ fun error raised => ⟨⟨w, _, error, raised⟩, here⟩
  rw [ending_ok]
  simp only [Bool.false_eq_true, ↓reduceIte]
  cases found : w.cluster.policies.find? (session, wekafsPolicyName share.id level) with
  | none =>
      exact ⟨.refl w, (PolicyState.revoke_none (policyState_of_missing found)).symm⟩
  | some entry =>
      have held : policyState session share fsUid w level =
          some (AllowList.ofEntry fsUid entry) := policyState_of_found found
      dsimp only
      refine wp_bind_of (fun current t => ∃ entry',
        Replaced w t (policyKey session share level) (some entry') ∧ entry'.uid = entry.uid ∧
        AllowList.ofEntry fsUid entry' = { AllowList.ofEntry fsUid entry with
          addresses := (AllowList.ofEntry fsUid entry).addresses.erase ip } ∧
        current.toFinset = (AllowList.ofEntry fsUid entry).addresses.erase ip)
        (wp_dropPolicyIp fsUid honest found here ?_) ?_
      · intro t entry' current replaced same equal left
        refine ⟨.of_replaced replaced ?_, entry', replaced, same, equal, left⟩
        rw [Option.map_some, equal]
        exact .erased _ held
      · rintro current t ⟨entry', replaced, same, equal, left⟩
        have erased : Within session share fsUid w
            ((policyState session share fsUid w).Revoking level ip) t := by
          refine .of_replaced replaced ?_
          rw [Option.map_some, equal]
          exact .erased _ held
        rw [wp_ite]
        split
        · next empty =>
            have last : (AllowList.ofEntry fsUid entry).addresses.erase ip = ∅ := by
              rw [← left, empty, List.toFinset_nil]
            rw [← same]
            refine wp_retirePolicy honest replaced.found erased ?_ ?_
            · intro u entry'' replaced' equal'
              refine .of_replaced (replaced.trans replaced') ?_
              rw [Option.map_some, equal', equal]
              exact .detached _ held last
            · intro u replaced'
              have revoked : (policyState session share fsUid w).put level
                  ((none : Option (Entry SecurityPolicy)).map (AllowList.ofEntry fsUid)) =
                    (policyState session share fsUid w).revoke level ip :=
                (PolicyState.revoke_last held last).symm
              refine ⟨.of_replaced (replaced.trans replaced') ?_,
                .of_replaced (replaced.trans replaced') ?_⟩
              · rw [revoked]
                exact .done
              · exact revoked
        · next more =>
            have remains : (AllowList.ofEntry fsUid entry).addresses.erase ip ≠ ∅ := by
              rw [← left]
              simpa using more
            rw [wp_pure, ending_ok]
            refine .of_replaced replaced ?_
            rw [Option.map_some, equal]
            exact (PolicyState.revoke_more held remains).symm

end SetIp

end WekaShareDriver
