import WekaShareDriver.Access.WekafsSync
import WekaShareDriver.Foundation.Uuid
import WekaShareDriver.GroupEnforcement
import WekaShareDriver.PolicyGuard
import WekaShareDriver.TenantUses
import Mathlib.Data.Bool.AllAny

/-! # Shares governed by a policy group

The rules of a share whose type selects a policy group do not count: the group's
policies govern the share. Which of the two models applies is decided anew by every
update, and a type that cannot be read counts as one that selects no group. As long
as no update with an address to apply meets a failing read, no policy is ever made
for the share itself, or attached to a filesystem (`WekaShareDriver.never_acquires`).
-/

namespace WekaShareDriver

open Foundation Program

/-! ## Names of policies -/

private theorem toList_wekafsPolicyName (shareId : String) (level : Level) :
    (wekafsPolicyName shareId level).toList =
      "manila-".toList ++ ((Text.take shareId 8).toList ++ '-' :: level.text.toList) := by
  simp [wekafsPolicyName, String.toList_append]

/-- No per-share policy has the name of a group's policy. -/
theorem wekafsPolicyName_ne_group {shareId : String} (uuid : IsUuid shareId) (level : Level)
    (group : String) (level' : Level) :
    wekafsPolicyName shareId level ≠ groupPolicyName group level' := by
  intro same
  have lists := congrArg String.toList same
  have shape : (groupPolicyName group level').toList =
      "manila-".toList ++ ('g' :: ("rp-".toList ++ group.toList ++ '-' :: level'.text.toList)) := by
    simp [groupPolicyName, String.toList_append]
  rw [toList_wekafsPolicyName, shape, List.append_cancel_left_eq] at lists
  obtain ⟨long, digits⟩ := uuid.take_eight
  cases start : (Text.take shareId 8).toList with
  | nil => simp [start] at long
  | cons first rest =>
      rw [start, List.cons_append, List.cons.injEq] at lists
      have digit := digits first (by simp [start])
      rw [lists.1] at digit
      exact absurd digit (by decide)

/-- Per-share policies of one name belong to shares with the same start of their
ids. -/
theorem take_eq_of_wekafsPolicyName {shareId shareId' : String} (uuid : IsUuid shareId)
    (uuid' : IsUuid shareId') {level level' : Level}
    (same : wekafsPolicyName shareId level = wekafsPolicyName shareId' level') :
    Text.take shareId 8 = Text.take shareId' 8 := by
  have lists := congrArg String.toList same
  rw [toList_wekafsPolicyName, toList_wekafsPolicyName, List.append_cancel_left_eq] at lists
  have long := uuid.take_eight.1.trans uuid'.take_eight.1.symm
  exact String.toList_inj.mp (List.append_inj lists long).1

/-! ## Calls on a governed share -/

/-- The name of a policy of the share's own. -/
def OwnPolicy (share : Share) (name : String) : Prop :=
  ∃ level, name = wekafsPolicyName share.id level

/-- The calls Manila makes for a share that exists. -/
inductive GovernedCall where
  | createShare
  | updateAccess (update : AccessUpdate)
  | ensureShares (shares : List Share)

namespace GovernedCall

@[reducible] def Result : GovernedCall → Type
  | .createShare => List ExportLocation
  | .updateAccess _ => RuleStates
  | .ensureShares _ => Dict String ShareUpdate

/-- What the driver does for a call. -/
def program (cfg : Config) (share : Share) : (call : GovernedCall) → Driver call.Result
  | .createShare => WekaShareDriver.createShare cfg share
  | .updateAccess update => update.program cfg share
  | .ensureShares shares => WekaShareDriver.ensureShares cfg shares

/-- The faults of a call that leave an update with an address to apply its read of
the share's type. -/
def readable (fault : Fault) : GovernedCall → Fault
  | .updateAccess update => fun w op error =>
      fault w op error ∧ (policyTargets update.applied ≠ [] → ¬ ReadsType op)
  | _ => fault

end GovernedCall

/-- The worlds between calls, each of which returned or raised. -/
inductive GovernedReach (cfg : Config) (share : Share) (fault : Fault) (start : World) :
    World → Prop where
  | start : GovernedReach cfg share fault start start
  | call {w t : World} {call : GovernedCall} {outcome : Except Error call.Result}
      (reached : GovernedReach cfg share fault start w)
      (run : Exec (service (call.readable fault)) (call.program cfg share) w outcome t) :
      GovernedReach cfg share fault start t

variable {cfg : Config} {share : Share} {fault : Fault} {group : String} {session : Session}
  {start w t : World}

/-- Requests that grant something through a policy concern none of the share's own. -/
abbrev AvoidsOwn (share : Share) (u : World) (op : Op) (_ : World) : Prop :=
  Avoids (OwnPolicy share) (fun request => request.grants = true) u op

private theorem avoidsOwn_of_uses {α : Type} {program : Driver α} {invariant : World → Prop}
    (uses : program.Uses NoPolicy)
    (kept : ∀ s op answer t, invariant s → service fault s op answer t → invariant t) :
    Obeys (service fault) invariant (AvoidsOwn share) program :=
  .of_uses uses fun s op answer t free here answered => ⟨free.avoids, kept s op answer t here answered⟩

/-- An operation that is not about policies makes none and acts on none. -/
theorem PolicyFree.noPolicy {op : Op} (free : PolicyFree op) : NoPolicy op := by
  intro session request same
  have about := (free session request same).1
  cases request with
  | createSecurityPolicy name ips readOnly => cases about
  | updateSecurityPolicy uid addIps removeIps | deleteSecurityPolicy uid
    | attachFsSecurityPolicy fsUid uid | detachFsSecurityPolicy fsUid uid => cases about
  | _ => exact ⟨fun _ _ _ created => (by cases created), rfl⟩

/-- An operation that sets up makes no policy and acts on none. -/
theorem SetupOp.noPolicy {op : Op} (setup : SetupOp op) : NoPolicy op := setup.policyFree.noPolicy

/-- The creation of a governed share makes and attaches the policies of its group
only. -/
theorem avoidsOwn_createShare (uuid : IsUuid share.id) (protocol : share.shareProto = .wekafs) :
    Obeys (service fault) (fun _ => True) (AvoidsOwn share) (createShare cfg share) := by
  have other (group : String) (level : Level) : ¬ OwnPolicy share (groupPolicyName group level) := by
    rintro ⟨level', same⟩
    exact wekafsPolicyName_ne_group uuid level' group level same.symm
  have setup {α : Type} {program : Driver α} (uses : program.Uses NoPolicy) :
      Obeys (service fault) (fun _ => True) (AvoidsOwn share) program :=
    avoidsOwn_of_uses uses fun _ _ _ _ _ _ => trivial
  rw [createShare_wekafs protocol]
  refine .bind (.bind (setup ((uses_orgClient _).mono fun _ opens => opens.setup.noPolicy))
    fun session => setup ((uses_createFilesystemIdempotent _ _ _ _ _).mono
      fun _ => PolicyFree.noPolicy)) fun fs => .bind ?_ fun _ => .pure _
  refine .bind (setup (uses_sharePolicyGroup.mono fun _ host => host.setup.noPolicy)) fun found => ?_
  cases found with
  | none => exact .pure _
  | some group =>
      dsimp only
      cases (cfg.policyGroups.get? group).filter (· ≠ []) with
      | none => exact .pure _
      | some levels =>
          exact .bind (setup ((uses_orgClient _).mono fun _ opens => opens.setup.noPolicy))
            fun session => .bind (obeys_ensureGroupPolicy (other _ _) _ _) fun _ =>
              obeys_ensureGroupPolicy (other _ _) _ _

/-- An operation that grants nothing through a policy. -/
def NoGrant (op : Op) : Prop := ∀ session request, op = .api session request → request.grants = false

/-- An operation that grants nothing concerns none of the share's own policies. -/
theorem NoGrant.avoids {op : Op} (quiet : NoGrant op) : AvoidsOwn share w op t := by
  intro session request same grants
  rw [quiet session request same] at grants
  cases grants

private theorem uses_noGrant {request : Request} (quiet : request.grants = false) :
    (send session request).Uses NoGrant := by
  apply uses_perform
  intro session' request' same
  obtain ⟨-, same'⟩ := Op.api.inj same
  rw [← same']
  exact quiet

private theorem noGrant_policySetIp (fsUid : Option Uid) (level : Level) (ip : String) :
    (policySetIp session share fsUid level ip false).Uses NoGrant := by
  have delete (uid : Uid) : (tryCatch (send session (.deleteSecurityPolicy uid)) fun error =>
      if isNotFound error then pure () else throw error : Driver Unit).Uses NoGrant :=
    .tryCatch (uses_noGrant rfl) fun _ => .ite (fun _ => trivial) fun _ => trivial
  have retire (uid : Uid) : (retirePolicy session fsUid uid).Uses NoGrant := by
    cases fsUid with
    | none => exact delete uid
    | some fsUid =>
        exact .bind (.tryCatch (uses_noGrant rfl) fun _ =>
          .ite (fun _ => trivial) fun _ => trivial) fun _ => delete uid
  refine .bind (.bind (uses_noGrant rfl) fun _ => trivial) fun found => ?_
  cases found with
  | none => trivial
  | some policy =>
      refine .bind (.ite (fun _ => ?_) fun _ => trivial) fun current =>
        .ite (fun _ => retire policy.uid) fun _ => trivial
      exact .bind (.tryCatch (uses_noGrant rfl) fun _ =>
        .ite (fun _ => trivial) fun _ => trivial) fun _ => trivial

/-- A rule without an address asks for nothing. -/
theorem noGrant_addWekafsRule {fsUid : Option Uid} {mountPassword : String} {rule : AccessRule}
    (idle : rule.target? = none) (states : RuleStates) :
    (addWekafsRule session share fsUid mountPassword states rule).Uses NoGrant := by
  refine .ite (fun _ => trivial) fun ip => .ite (fun _ => trivial) fun ipv4 => ?_
  have readable : rule.isIpv4 = true := by
    simpa [AccessRule.isIpv4] using ⟨not_not.mp ip, eq_false_of_ne_true ipv4⟩
  have unreadable : ∃ error, policyIp rule.accessTo = .error error := by
    unfold AccessRule.target? at idle
    rw [if_pos readable] at idle
    cases target : policyIp rule.accessTo with
    | ok ip => rw [target] at idle; cases idle
    | error error => exact ⟨error, rfl⟩
  obtain ⟨error, unreadable⟩ := unreadable
  rw [applyWekafsRule, unreadable]
  exact .tryCatch (uses_throw _) fun _ => trivial

/-- A batch without an address to apply grants nothing. -/
theorem noGrant_updateWekafsPolicies {fsUid : Option Uid} {mountPassword : String}
    {addRules deleteRules : List AccessRule} {fullSync : Bool} (idle : policyTargets addRules = []) :
    (updateWekafsPolicies session share fsUid mountPassword addRules deleteRules fullSync).Uses
      NoGrant := by
  have idle' : ∀ rule ∈ addRules, rule.target? = none :=
    List.filterMap_eq_nil_iff.mp idle
  have remove (rule : AccessRule) : (removeWekafsRule session share fsUid rule).Uses NoGrant := by
    refine .ite (fun _ => trivial) fun _ => .ite (fun _ => trivial) fun _ => ?_
    exact .bind (uses_liftExcept _) fun ip =>
      .bind (noGrant_policySetIp _ _ _) fun _ => noGrant_policySetIp _ _ _
  have level (expected : List (Level × String)) (level : Level) :
      (pruneLevel session share fsUid expected level).Uses NoGrant := by
    refine .bind (.bind (uses_noGrant rfl) fun _ => trivial) fun found => ?_
    cases found with
    | none => trivial
    | some policy =>
        exact .forM fun ip _ => .ite (fun _ => trivial) fun _ =>
          .tryCatch (noGrant_policySetIp _ _ _) fun _ => trivial
  refine .bind (.foldlM (fun states rule member => noGrant_addWekafsRule (idle' rule member) states) _)
    fun states => .bind (.forM fun rule _ => .tryCatch (remove rule) fun _ => trivial) fun _ => ?_
  cases fullSync with
  | false => trivial
  | true => exact .bind (.bind (uses_liftExcept _) fun expected =>
      .bind (level _ _) fun _ => level _ _) fun _ => trivial

/-- No operation changes the share types. -/
theorem answered_shareTypes {op : Op} {answer : Except Error op.Res}
    (answered : service fault w op answer t) : t.host.shareTypes = w.host.shareTypes := by
  rcases answered_world answered with rfl | rfl
  · cases op with
    | api session request => rfl
    | login org username password => rfl
    | host given =>
        cases given <;> simp only [respond, Host.answer] <;> repeat' split
        all_goals rfl
  · rfl

/-- An update of a governed share makes and attaches nothing of its own, if a failing
read of the type leaves it nothing to apply. -/
theorem avoidsOwn_update (protocol : share.shareProto = .wekafs) (update : AccessUpdate)
    (readable : policyTargets update.applied ≠ [] → ∀ u op error, ReadsType op →
      ¬ fault u op error) :
    Obeys (service fault) (SelectsGroup share group) (AvoidsOwn share)
      (update.program cfg share) := by
  have selected : ∀ s op answer t, SelectsGroup share group s → service fault s op answer t →
      SelectsGroup share group t :=
    fun _ _ _ _ selects answered => selects.of_shareTypes (answered_shareTypes answered)
  have setup {α : Type} {program : Driver α} (uses : program.Uses NoPolicy) :
      Obeys (service fault) (SelectsGroup share group) (AvoidsOwn share) program :=
    avoidsOwn_of_uses uses selected
  rw [update.program_wekafs protocol]
  refine .bind (setup ((uses_orgClient _).mono fun _ opens => opens.setup.noPolicy)) fun session => ?_
  refine .bind (.ite (fun _ => setup ?_) fun _ => .pure _) fun _ => ?_
  · exact .tryCatch (uses_perform (noPolicy_api (fun _ _ _ created => by cases created) rfl))
      fun _ => .ite (fun _ => trivial) fun _ => trivial
  by_cases idle : policyTargets update.applied = []
  · refine .bind (setup (uses_sharePolicyGroup.mono fun _ host => host.setup.noPolicy)) fun found => ?_
    cases found with
    | some group => exact .pure _
    | none =>
        refine .bind (.ite (fun _ => setup ((uses_getFilesystemByName _ _).mono
          fun _ => SetupOp.noPolicy)) fun _ => .pure _) fun fs => ?_
        exact .of_uses (noGrant_updateWekafsPolicies idle) fun s op answer t quiet here answered =>
          ⟨quiet.avoids, selected s op answer t here answered⟩
  · apply Obeys.bind_knowing fun found _ => found ≠ none
    · intro s selects
      refine wp_sharePolicyGroup_selected selects (fun op reads => ⟨?_, selects⟩)
        ⟨selects, Option.some_ne_none _⟩ fun op error reads failed =>
          absurd failed (readable idle s op error reads)
      obtain ⟨typeId, rfl⟩ := reads
      intro session request same
      cases same
    · intro found s known
      cases found with
      | none => exact absurd rfl known.2
      | some group => exact known

/-- One call on a governed share. -/
theorem avoidsOwn_call (uuid : IsUuid share.id) (protocol : share.shareProto = .wekafs)
    (call : GovernedCall) :
    Obeys (service (call.readable fault)) (SelectsGroup share group) (AvoidsOwn share)
      (call.program cfg share) := by
  have selected : ∀ s op answer t, SelectsGroup share group s →
      service (call.readable fault) s op answer t → SelectsGroup share group t :=
    fun _ _ _ _ selects answered => selects.of_shareTypes (answered_shareTypes answered)
  cases call with
  | createShare => exact (avoidsOwn_createShare uuid protocol).along selected
  | updateAccess update =>
      exact avoidsOwn_update protocol update fun applies u op error reads failed =>
        failed.2 applies reads
  | ensureShares shares =>
      exact avoidsOwn_of_uses ((uses_ensureShares shares).mono fun _ => SetupOp.noPolicy) selected

/-- What a call avoids is withheld wherever it is interrupted. -/
theorem withheld_of_reaches {α : Type} {program : Driver α} {invariant : World → Prop}
    (obeys : Obeys (service fault) invariant (AvoidsOwn share) program) (holds : invariant w)
    (reached : Reaches (service fault) program w t) : Withheld (OwnPolicy share) w t :=
  obeys.related (Withheld (OwnPolicy share)) .refl (fun _ _ _ => .trans)
    (fun _ _ _ _ avoids answered => Avoids.withheld avoids answered) holds reached

/-- Between calls the type still selects the group and nothing was acquired. -/
theorem GovernedReach.withheld (uuid : IsUuid share.id) (protocol : share.shareProto = .wekafs)
    (selects : SelectsGroup share group start) (reached : GovernedReach cfg share fault start w) :
    SelectsGroup share group w ∧ Withheld (OwnPolicy share) start w := by
  induction reached with
  | start => exact ⟨selects, .refl start⟩
  | @call w t call outcome _ run ih =>
      have obeys : Obeys (service (call.readable fault)) (SelectsGroup share group)
          (AvoidsOwn share) (call.program cfg share) :=
        avoidsOwn_call uuid protocol call
      exact ⟨obeys.restored ih.1 run, ih.2.trans (withheld_of_reaches obeys ih.1 run.reaches)⟩

/-- A governed share never acquires policies of its own. -/
theorem never_acquires (uuid : IsUuid share.id) (protocol : share.shareProto = .wekafs)
    (selects : SelectsGroup share group start)
    (reached : GovernedReach cfg share fault start w) (call : GovernedCall)
    (within : Reaches (service (call.readable fault)) (call.program cfg share) w t) :
    Withheld (OwnPolicy share) start t := by
  obtain ⟨selects', held⟩ := reached.withheld uuid protocol selects
  exact held.trans (withheld_of_reaches (avoidsOwn_call uuid protocol call) selects' within)

section Sample

/-- Any read of a share type may fail. -/
def typeFaults : Fault := fun _ op _ =>
  match op with
  | .host (.shareTypeExtraSpecs _) => True
  | _ => False

instance (w : World) (op : Op) (error : Error) : Decidable (typeFaults w op error) := by
  unfold typeFaults
  split <;> infer_instance

/-- The sample share's id. -/
theorem isUuid_sample (protocol : ShareProto) : IsUuid (sampleShare protocol).id := by
  refine ⟨⟨"5a7c1e90".toList, "0000".toList, "4000".toList, "8000".toList,
    "000000000001".toList, by decide, List.all_iff_forall_prop.mp (by decide)⟩, ?_⟩
  change "5a7c1e90-0000-4000-8000-000000000001".toList = _
  decide

/-- The governed share with its group's policy attached. -/
def governedWorld : World := ((createShare groupConfig groupShare).run respond groupWorld).2

/-- A request to add the sample rule. -/
def addSample : AccessUpdate := ⟨[sampleRule], [sampleRule], [], []⟩

/-- An update whose read of the type does not fail leaves the share governed. -/
theorem never_acquires_sample : Withheld (OwnPolicy groupShare) groupWorld
    ((addSample.program groupConfig groupShare).run respond governedWorld).2 := by
  have created : Exec (service (GovernedCall.createShare.readable typeFaults))
      (GovernedCall.createShare.program groupConfig groupShare) groupWorld _ governedWorld :=
    exec_run _ _
  have updated : Exec (service ((GovernedCall.updateAccess addSample).readable typeFaults))
      (addSample.program groupConfig groupShare) governedWorld _ _ := exec_run _ _
  exact never_acquires (isUuid_sample .wekafs) rfl groupWorld_start.selects
    (GovernedReach.start.call created) (.updateAccess addSample) updated.reaches

/-- The world after an update whose read of the type fails. -/
def acquiredWorld : World :=
  ((addSample.program groupConfig groupShare).runScript respond typeFaults
    [none, none, some (.manila "database unavailable")] governedWorld).2

/-- It made a policy of the share's own and attached it. -/
theorem unreadable_type_grants_access :
    IsUuid groupShare.id ∧ SelectsGroup groupShare "gold" groupWorld ∧
      (∃ outcome, Exec (service typeFaults) (createShare groupConfig groupShare) groupWorld outcome
        governedWorld) ∧
      (∃ outcome, Exec (service typeFaults) (addSample.program groupConfig groupShare)
        governedWorld outcome acquiredWorld) ∧
      ¬ Withheld (OwnPolicy groupShare) groupWorld acquiredWorld := by
  refine ⟨isUuid_sample .wekafs, groupWorld_start.selects, ⟨_, exec_run _ _⟩,
    ⟨_, exec_runScript _ _ _⟩, fun withheld => ?_⟩
  have acquired : (acquiredWorld.cluster.policies.find? (projectSession groupConfig (some "p1"),
      wekafsPolicyName groupShare.id .rw)).isSome = true := by decide
  obtain ⟨entry', found⟩ := Option.isSome_iff_exists.mp acquired
  obtain ⟨entry, before, -⟩ := withheld _ _ entry' ⟨.rw, rfl⟩ found
  cases before

end Sample

end WekaShareDriver
