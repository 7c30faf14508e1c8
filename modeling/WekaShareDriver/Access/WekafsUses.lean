import WekaShareDriver.Access.WekafsUpdate

/-! # The requests of a WEKAFS access update

After the share's filesystem is found, an update sends only requests about
security policies, all on one session. Whatever they answer, and whatever fails,
nothing but policies changes.
-/

namespace WekaShareDriver

open Foundation Program

/-- A request about security policies. -/
def Request.aboutPolicies : Request → Bool
  | .listSecurityPolicies => true
  | .createSecurityPolicy .. => true
  | .updateSecurityPolicy .. => true
  | .deleteSecurityPolicy _ => true
  | .attachFsSecurityPolicy .. => true
  | .detachFsSecurityPolicy .. => true
  | _ => false

/-- A request about security policies on a session. -/
def PolicyOp (session : Session) (op : Op) : Prop :=
  ∃ request, op = .api session request ∧ request.aboutPolicies = true

variable {session : Session} {share : Share} {fsUid : Option Uid} {mountPassword : String}

/-- A request about policies is one. -/
theorem uses_policyRequest {request : Request} (policy : request.aboutPolicies = true) :
    (send session request).Uses (PolicyOp session) :=
  uses_perform ⟨request, rfl, policy⟩

/-- Looking a policy up makes requests about policies only. -/
theorem uses_getSecurityPolicyByName (name : String) :
    (getSecurityPolicyByName session name).Uses (PolicyOp session) :=
  .bind (uses_policyRequest rfl) fun _ => trivial

/-- Attaching a policy makes requests about policies only. -/
theorem uses_attachPolicy (fsUid policyUid : Uid) :
    (attachPolicy session fsUid policyUid).Uses (PolicyOp session) :=
  .tryCatch (uses_policyRequest rfl) fun _ => .ite (fun _ => trivial) fun _ => trivial

private theorem uses_retirePolicy (policyUid : Uid) :
    (retirePolicy session fsUid policyUid).Uses (PolicyOp session) := by
  have delete : (tryCatch (send session (.deleteSecurityPolicy policyUid)) fun error =>
      if isNotFound error then pure () else throw error : Driver Unit).Uses (PolicyOp session) :=
    .tryCatch (uses_policyRequest rfl) fun _ => .ite (fun _ => trivial) fun _ => trivial
  cases fsUid with
  | none => exact delete
  | some fsUid =>
      exact .bind (.tryCatch (uses_policyRequest rfl) fun _ =>
        .ite (fun _ => trivial) fun _ => trivial) fun _ => delete

private theorem uses_policySetIp (level : Level) (ip : String) (present : Bool) :
    (policySetIp session share fsUid level ip present).Uses (PolicyOp session) := by
  refine .bind (uses_getSecurityPolicyByName _) fun found => .ite (fun _ => ?_) fun _ => ?_
  · refine .bind ?_ fun policyUid => ?_
    · cases found with
      | none => exact .bind (uses_policyRequest rfl) fun _ => trivial
      | some policy =>
          refine .ite (fun _ => ?_) fun _ => trivial
          exact .bind (.tryCatch (uses_policyRequest rfl) fun _ =>
            .ite (fun _ => trivial) fun _ => trivial) fun _ => trivial
    · cases fsUid with
      | none => trivial
      | some fsUid => exact uses_attachPolicy fsUid policyUid
  · cases found with
    | none => trivial
    | some policy =>
        refine .bind (.ite (fun _ => ?_) fun _ => trivial) fun current => ?_
        · exact .bind (.tryCatch (uses_policyRequest rfl) fun _ =>
            .ite (fun _ => trivial) fun _ => trivial) fun _ => trivial
        · exact .ite (fun _ => uses_retirePolicy policy.uid) fun _ => trivial

/-- A pure computation makes no request. -/
theorem uses_liftExcept {α : Type} {allowed : Op → Prop} (value : Except Error α) :
    (liftExcept value).Uses allowed := by
  cases value <;> trivial

private theorem uses_addWekafsRule (states : RuleStates) (rule : AccessRule) :
    (addWekafsRule session share fsUid mountPassword states rule).Uses (PolicyOp session) := by
  refine .ite (fun _ => trivial) fun _ => .ite (fun _ => trivial) fun _ => ?_
  refine .tryCatch (.bind ?_ fun _ => trivial) fun _ => trivial
  exact .bind (uses_liftExcept _) fun ip =>
    .bind (uses_policySetIp _ _ _) fun _ => uses_policySetIp _ _ _

private theorem uses_removeWekafsRule (rule : AccessRule) :
    (removeWekafsRule session share fsUid rule).Uses (PolicyOp session) := by
  refine .ite (fun _ => trivial) fun _ => .ite (fun _ => trivial) fun _ => ?_
  exact .bind (uses_liftExcept _) fun ip =>
    .bind (uses_policySetIp _ _ _) fun _ => uses_policySetIp _ _ _

private theorem uses_pruneWekafsRules (rules : List AccessRule) :
    (pruneWekafsRules session share fsUid rules).Uses (PolicyOp session) := by
  have level : ∀ expected level,
      (pruneLevel session share fsUid expected level).Uses (PolicyOp session) := by
    intro expected level
    refine .bind (uses_getSecurityPolicyByName _) fun found => ?_
    cases found with
    | none => trivial
    | some policy =>
        exact .forM fun ip _ => .ite (fun _ => trivial) fun _ =>
          .tryCatch (uses_policySetIp _ _ _) fun _ => trivial
  exact .bind (uses_liftExcept _) fun expected => .bind (level _ _) fun _ => level _ _

/-- The batch of an update sends requests about policies only. -/
theorem uses_updateWekafsPolicies (addRules deleteRules : List AccessRule) (fullSync : Bool) :
    (updateWekafsPolicies session share fsUid mountPassword addRules deleteRules fullSync).Uses
      (PolicyOp session) := by
  refine .bind (.foldlM (fun states rule _ => uses_addWekafsRule states rule) _) fun states => ?_
  refine .bind (.forM fun rule _ => .tryCatch (uses_removeWekafsRule rule) fun _ => trivial)
    fun _ => ?_
  cases fullSync with
  | false => trivial
  | true => exact .bind (uses_pruneWekafsRules addRules) fun _ => trivial

/-- A request about policies changes nothing but policies, whatever it answers. -/
theorem answer_aboutPolicies {cluster : Cluster} {request : Request}
    (about : request.aboutPolicies = true) :
    (cluster.answer session request).2 =
      { cluster with policies := (cluster.answer session request).2.policies } := by
  cases request with
  | listSecurityPolicies => rfl
  | createSecurityPolicy name ips readOnly => rfl
  | updateSecurityPolicy uid addIps removeIps =>
      simp only [Cluster.answer]
      split <;> rfl
  | deleteSecurityPolicy uid =>
      simp only [Cluster.answer]
      split <;> rfl
  | attachFsSecurityPolicy fsUid policyUid =>
      simp only [Cluster.answer]
      split
      · split <;> rfl
      · rfl
  | detachFsSecurityPolicy fsUid policyUid =>
      simp only [Cluster.answer]
      split <;> rfl
  | _ => cases about

/-- A request about policies changes the policies only. -/
theorem policyOp_changes {fault : Fault} {w t : World} {op : Op} {answer : Except Error op.Res}
    (policy : PolicyOp session op) (answered : service fault w op answer t) :
    t = { w with cluster := { w.cluster with policies := t.cluster.policies } } := by
  obtain ⟨request, rfl, about⟩ := policy
  rcases answered with equal | ⟨_, _, _, rfl⟩
  · have final : t = { w with cluster := (w.cluster.answer session request).2 } :=
      (congrArg Prod.snd equal).symm
    have cluster : t.cluster = (w.cluster.answer session request).2 := by rw [final]
    rw [cluster, ← answer_aboutPolicies about]
    exact final
  · rfl

end WekaShareDriver
