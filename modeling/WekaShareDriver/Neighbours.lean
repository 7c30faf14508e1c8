import WekaShareDriver.GovernedShares

/-! # Shares of one project

The shares of a project keep their policies in one organization, where a policy is
known by its name only. The per-share names carry the start of the share's id, so
the access of one share can be changed, and the share deleted, without touching the
policies of a share whose id starts otherwise
(`WekaShareDriver.neighbour_policies_kept`).
-/

namespace WekaShareDriver

open Foundation Program

/-- The names of the policies that decide on the access to a share: its own, and
those of policy groups. -/
def PolicyOf (share : Share) (name : String) : Prop :=
  OwnPolicy share name ∨ ∃ group level, name = groupPolicyName group level

/-- The calls that change the access to a share or end it. -/
inductive AccessCall where
  | updateAccess (update : AccessUpdate)
  | deleteShare

namespace AccessCall

@[reducible] def Result : AccessCall → Type
  | .updateAccess _ => RuleStates
  | .deleteShare => Unit

/-- What the driver does for a call. -/
def program (cfg : Config) (share : Share) : (call : AccessCall) → Driver call.Result
  | .updateAccess update => update.program cfg share
  | .deleteShare => WekaShareDriver.deleteShare cfg share

/-- The ids of two shares start differently and, where the filesystem is deleted, the
names of their filesystems differ. -/
def Apart (cfg : Config) (share other : Share) : AccessCall → Prop
  | .updateAccess _ => Text.take share.id 8 ≠ Text.take other.id 8
  | .deleteShare => Text.take share.id 8 ≠ Text.take other.id 8 ∧
      cfg.shareName share.id ≠ cfg.shareName other.id

end AccessCall

/-- The worlds between calls for a share that keep apart from another share. -/
inductive AccessReach (cfg : Config) (share other : Share) (fault : Fault) (start : World) :
    World → Prop where
  | start : AccessReach cfg share other fault start start
  | call {w t : World} {call : AccessCall} {outcome : Except Error call.Result}
      (reached : AccessReach cfg share other fault start w) (apart : call.Apart cfg share other)
      (run : Exec (service fault) (call.program cfg share) w outcome t) :
      AccessReach cfg share other fault start t

/-- The policies of the names are the same, with their addresses, and attached to the
filesystem as before. -/
def PoliciesKept (guarded : String → Prop) (fsUid : Uid) (w t : World) : Prop :=
  ∀ session name, guarded name →
    (t.cluster.policies.find? (session, name)).map (policyView fsUid) =
      (w.cluster.policies.find? (session, name)).map (policyView fsUid)

/-- A uid stands for no filesystem of another name. -/
def StandsFor (fsUid : Uid) (fsName : String) (w : World) : Prop :=
  fsUid < w.cluster.filesystems.next ∧
    ∀ fs, w.cluster.filesystems.get? fsUid = some fs → fs.val.name = fsName

variable {cfg : Config} {share other : Share} {fault : Fault} {session : Session} {fsUid : Uid}
  {fsName : String} {guarded : String → Prop} {start w t : World}

/-- Doing nothing keeps the policies. -/
theorem PoliciesKept.refl (w : World) : PoliciesKept guarded fsUid w w := fun _ _ _ => rfl

/-- Policies that are kept twice are kept. -/
theorem PoliciesKept.trans {u : World} (first : PoliciesKept guarded fsUid w t)
    (second : PoliciesKept guarded fsUid t u) : PoliciesKept guarded fsUid w u :=
  fun session name guards => (second session name guards).trans (first session name guards)

/-- No call gives the uid of a filesystem to another name. -/
theorem StandsFor.kept {op : Op} {answer : Except Error op.Res} (stands : StandsFor fsUid fsName w)
    (answered : service fault w op answer t) : StandsFor fsUid fsName t := by
  have follows : w.cluster.filesystems.Follows t.cluster.filesystems :=
    follows_of_answer (fun _ _ _ => answer_filesystems) answered
  refine ⟨Nat.lt_of_lt_of_le stands.1 follows.next, fun fs found => ?_⟩
  obtain ⟨member, rfl⟩ := Registry.get?_eq_some_iff.mp found
  obtain ⟨origin, earlier, uid, key⟩ := follows.keys fs member stands.1
  have named := stands.2 origin (Registry.get?_eq_some_iff.mpr ⟨earlier, uid⟩)
  exact (congrArg Prod.snd key).symm.trans named

private theorem standsFor_of_find? {fs : Entry Filesystem}
    (found : w.cluster.filesystems.find? (session, fsName) = some fs) :
    StandsFor fs.uid fsName w := by
  obtain ⟨member, key⟩ := Registry.find?_eq_some_iff.mp found
  refine ⟨w.cluster.filesystems.below fs member, fun fs' same => ?_⟩
  rw [Registry.get?_of_mem member, Option.some.injEq] at same
  subst same
  exact congrArg Prod.snd key

/-- No policy of a share is one another share depends on. -/
theorem not_policyOf (uuid : IsUuid share.id) (uuid' : IsUuid other.id)
    (apart : Text.take share.id 8 ≠ Text.take other.id 8) (level : Level) :
    ¬ PolicyOf other (wekafsPolicyName share.id level) := by
  rintro (⟨level', same⟩ | ⟨group, level', same⟩)
  · exact apart (take_eq_of_wekafsPolicyName uuid uuid' same)
  · exact wekafsPolicyName_ne_group uuid level group level' same

/-! ## Calls that keep away from policies -/

/-- A call that neither makes nor acts on a guarded policy, nor deletes the
filesystem. -/
def Spared (guarded : String → Prop) (fsUid : Uid) (u : World) (op : Op) (_ : World) : Prop :=
  Avoids guarded (fun _ => True) u op ∧
    ∀ session uid, op = .api session (.deleteFilesystem uid) → uid ≠ fsUid

/-- What spares the policies keeps them. -/
theorem kept_of_spared {op : Op} {answer : Except Error op.Res} (spared : Spared guarded fsUid w op t)
    (answered : service fault w op answer t) : PoliciesKept guarded fsUid w t :=
  fun session _ guards => spared.1.kept answered spared.2 guards session

/-- An operation that is not about policies spares those of a neighbour. -/
theorem PolicyFree.spared {op : Op} (free : PolicyFree op) : Spared guarded fsUid w op t := by
  refine ⟨free.noPolicy.avoids, ?_⟩
  rintro session uid rfl
  exact absurd rfl ((free session _ rfl).2 uid)

private theorem obeys_of_free {α : Type} {program : Driver α} (uses : program.Uses PolicyFree) :
    Obeys (service fault) (fun _ => True) (Spared guarded fsUid) program :=
  .of_uses uses fun _ _ _ _ free _ _ => ⟨free.spared, trivial⟩

/-- Requests about policies delete no filesystem. -/
theorem obeys_of_avoids {α : Type} {program : Driver α}
    (avoids : Obeys (service fault) (fun _ => True)
      (fun u op _ => Avoids guarded (fun _ => True) u op) program)
    (uses : program.Uses (PolicyOp session)) :
    Obeys (service fault) (fun _ => True) (Spared guarded fsUid) program := by
  intro s holds
  refine wp_mono (fun u op v kept => ⟨⟨kept.1.1, ?_⟩, trivial⟩) (fun _ _ ended => ended)
    ((avoids.of_used uses) s holds)
  rintro session' uid rfl
  obtain ⟨request, same, about⟩ := kept.1.2
  rw [← (Op.api.inj same).2] at about
  cases about

/-- The batch of an update acts on the share's own policies only. -/
theorem avoids_updateWekafsPolicies {mountPassword : String}
    (own : ∀ level, ¬ guarded (wekafsPolicyName share.id level)) (fsUid : Option Uid)
    (addRules deleteRules : List AccessRule) (fullSync : Bool) :
    Obeys (service fault) (fun _ => True) (fun u op _ => Avoids guarded (fun _ => True) u op)
      (updateWekafsPolicies session share fsUid mountPassword addRules deleteRules fullSync) := by
  have lift {α : Type} (value : Except Error α) : Obeys (service fault) (fun _ => True)
      (fun u op _ => Avoids guarded (fun _ => True) u op) (liftExcept value) := by
    cases value with
    | ok value => exact .pure value
    | error error => exact .throw error
  have add (states : RuleStates) (rule : AccessRule) : Obeys (service fault) (fun _ => True)
      (fun u op _ => Avoids guarded (fun _ => True) u op)
      (addWekafsRule session share fsUid mountPassword states rule) := by
    refine .ite (fun _ => .pure _) fun _ => .ite (fun _ => .pure _) fun _ => ?_
    refine .tryCatch (.bind (.bind (lift _) fun ip => ?_) fun _ => .pure _) fun _ => .pure _
    exact .bind (obeys_policySetIp (own _) _ _ _) fun _ => obeys_policySetIp (own _) _ _ _
  have remove (rule : AccessRule) : Obeys (service fault) (fun _ => True)
      (fun u op _ => Avoids guarded (fun _ => True) u op)
      (removeWekafsRule session share fsUid rule) := by
    refine .ite (fun _ => .pure _) fun _ => .ite (fun _ => .pure _) fun _ => ?_
    exact .bind (lift _) fun ip => .bind (obeys_policySetIp (own _) _ _ _) fun _ =>
      obeys_policySetIp (own _) _ _ _
  have level (expected : List (Level × String)) (level : Level) : Obeys (service fault)
      (fun _ => True) (fun u op _ => Avoids guarded (fun _ => True) u op)
      (pruneLevel session share fsUid expected level) := by
    have lists : (getSecurityPolicyByName session (wekafsPolicyName share.id level)).Uses NoPolicy :=
      .bind (uses_perform (noPolicy_api (fun _ _ _ created => by cases created) rfl)) fun _ => trivial
    refine .bind (.of_uses lists fun _ _ _ _ free _ _ => ⟨free.avoids, trivial⟩) fun found => ?_
    cases found with
    | none => exact .pure _
    | some policy =>
        exact .forM fun ip _ => .ite (fun _ => .pure _) fun _ =>
          .tryCatch (obeys_policySetIp (own _) _ _ _) fun _ => .pure _
  have prune : Obeys (service fault) (fun _ => True)
      (fun u op _ => Avoids guarded (fun _ => True) u op)
      (pruneWekafsRules session share fsUid addRules) :=
    .bind (lift _) fun expected => .bind (level _ _) fun _ => level _ _
  refine .bind (.foldlM (fun states rule _ => add states rule) _) fun states =>
    .bind (.forM fun rule _ => .tryCatch (remove rule) fun _ => .pure _) fun _ => ?_
  cases fullSync with
  | false => exact .pure _
  | true => exact .bind prune fun _ => .pure _

/-- An update acts on the share's own policies only. -/
theorem spared_updateAccess (protocol : share.shareProto = .wekafs)
    (own : ∀ level, ¬ guarded (wekafsPolicyName share.id level)) (update : AccessUpdate) :
    Obeys (service fault) (fun _ => True) (Spared guarded fsUid) (update.program cfg share) := by
  have setup {α : Type} {program : Driver α} (uses : program.Uses SetupOp) :
      Obeys (service fault) (fun _ => True) (Spared guarded fsUid) program :=
    obeys_of_free (uses.mono fun _ => SetupOp.policyFree)
  rw [update.program_wekafs protocol]
  refine .bind (setup (uses_setup_of_opens (uses_orgClient _))) fun session => ?_
  refine .bind (.ite (fun _ => obeys_of_free ?_) fun _ => .pure _) fun _ => ?_
  · refine .tryCatch (uses_perform ?_) fun _ => .ite (fun _ => trivial) fun _ => trivial
    intro session' request same
    rw [← (Op.api.inj same).2]
    exact ⟨rfl, fun uid none => by cases none⟩
  refine .bind (setup (uses_setup uses_sharePolicyGroup)) fun found => ?_
  cases found with
  | some group => exact .pure _
  | none =>
      refine .bind (.ite (fun _ => setup (uses_getFilesystemByName _ _)) fun _ => .pure _) fun fs => ?_
      exact obeys_of_avoids (avoids_updateWekafsPolicies own _ _ _ _) (uses_updateWekafsPolicies _ _ _)

/-- A share whose filesystem has another name is deleted without the filesystem. -/
theorem spared_deleteShare (own : ∀ level, ¬ guarded (wekafsPolicyName share.id level))
    (names : cfg.shareName share.id ≠ fsName) :
    Obeys (service fault) (StandsFor fsUid fsName) (Spared guarded fsUid)
      (deleteShare cfg share) := by
  have kept : ∀ s op answer t, StandsFor fsUid fsName s → service fault s op answer t →
      StandsFor fsUid fsName t := fun _ _ _ _ stands answered => stands.kept answered
  have setup {α : Type} {program : Driver α} (uses : program.Uses SetupOp) :
      Obeys (service fault) (fun _ => True) (Spared guarded fsUid) program :=
    obeys_of_free (uses.mono fun _ => SetupOp.policyFree)
  refine .bind ((setup (uses_setup_of_opens (uses_clientForShare share))).along kept) fun session => ?_
  -- The filesystem found has another name, so another uid.
  refine .bind_knowing (fun found _ => ∀ fs, found = some fs → fs.uid ≠ fsUid) ?_ fun found => ?_
  · intro s stands
    have lists : SetupOp (.api session .listFilesystems) := trivial
    refine wp_getFilesystemByName ⟨lists.policyFree.spared, stands⟩ ⟨stands, fun fs found same => ?_⟩
      fun _ _ => stands
    obtain ⟨member, key⟩ := Registry.find?_eq_some_iff.mp found
    subst same
    have named := stands.2 fs (Registry.get?_of_mem member)
    exact names ((congrArg Prod.snd key).symm.trans named)
  · refine .given fun known => ?_
    cases found with
    | none => exact .pure _
    | some fs =>
        have deletes : Obeys (service fault) (fun _ => True) (Spared guarded fsUid)
            (tryCatch (send session (.deleteFilesystem fs.uid)) fun error =>
              if isNotFound error then pure () else throw error : Driver Unit) := by
          refine .tryCatch (.of_uses (uses_perform rfl) ?_) fun _ =>
            .ite (fun _ => .pure _) fun _ => .throw _
          rintro u op answer v rfl - -
          refine ⟨⟨(noPolicy_api (fun _ _ _ created => by cases created) rfl).avoids, ?_⟩, trivial⟩
          intro session' uid same
          rw [← Request.deleteFilesystem.inj (Op.api.inj same).2]
          exact known fs rfl
        have unmounted : Obeys (service fault) (fun _ => True) (Spared guarded fsUid) (do
            if ← isMounted (cfg.mountPoint (cfg.shareName share.id)) then
              WekaMount.unmount
                { backends := some cfg.backends, fsName := cfg.shareName share.id
                  mountPoint := cfg.mountPoint (cfg.shareName share.id)
                  authTokenPath := none, numCores := 1, net := none } true
            tryCatch (send session (.deleteFilesystem fs.uid)) fun error =>
              if isNotFound error then pure () else throw error) := by
          refine .bind (setup (uses_setup (uses_isMounted _))) fun mounted => .ite (fun _ => ?_)
            fun _ => deletes
          exact .bind (setup (uses_setup (uses_unmount _ _))) fun _ => deletes
        refine Obeys.along (.ite (fun _ => ?_) fun _ => unmounted) kept
        exact .bind (.tryCatch (obeys_of_avoids (obeys_cleanupWekafsPolicies own _)
          (uses_cleanupWekafsPolicies _)) fun _ => .pure _) fun _ => unmounted

/-- One call that keeps apart from another share. -/
theorem spared_call (fault : Fault) (fsUid : Uid) (uuid : IsUuid share.id) (uuid' : IsUuid other.id)
    (protocol : share.shareProto = .wekafs) {call : AccessCall}
    (apart : call.Apart cfg share other) :
    Obeys (service fault) (StandsFor fsUid (cfg.shareName other.id))
      (Spared (PolicyOf other) fsUid) (call.program cfg share) := by
  have kept : ∀ s op answer t, StandsFor fsUid (cfg.shareName other.id) s →
      service fault s op answer t → StandsFor fsUid (cfg.shareName other.id) t :=
    fun _ _ _ _ stands answered => stands.kept answered
  cases call with
  | updateAccess update =>
      exact (spared_updateAccess protocol (not_policyOf uuid uuid' apart) update).along kept
  | deleteShare => exact spared_deleteShare (not_policyOf uuid uuid' apart.1) apart.2

private theorem policiesKept_of_reaches {call : AccessCall}
    (spared : Obeys (service fault) (StandsFor fsUid fsName) (Spared guarded fsUid)
      (call.program cfg share)) (stands : StandsFor fsUid fsName w)
    (reached : Reaches (service fault) (call.program cfg share) w t) :
    PoliciesKept guarded fsUid w t :=
  spared.related (PoliciesKept guarded fsUid) .refl (fun _ _ _ => .trans)
    (fun _ _ _ _ spared answered => kept_of_spared spared answered) stands reached

/-- Calls for a share that keep apart from another leave the policies of that one as they were. -/
theorem AccessReach.kept (uuid : IsUuid share.id) (uuid' : IsUuid other.id)
    (protocol : share.shareProto = .wekafs)
    (stands : StandsFor fsUid (cfg.shareName other.id) start)
    (reached : AccessReach cfg share other fault start w) :
    StandsFor fsUid (cfg.shareName other.id) w ∧ PoliciesKept (PolicyOf other) fsUid start w := by
  induction reached with
  | start => exact ⟨stands, .refl start⟩
  | call _ apart run ih =>
      have spared := spared_call fault fsUid uuid uuid' protocol apart
      exact ⟨spared.restored ih.1 run, ih.2.trans (policiesKept_of_reaches spared ih.1 run.reaches)⟩

/-- The calls for a share leave the policies another share depends on as they were. -/
theorem neighbour_policies_kept (uuid : IsUuid share.id) (uuid' : IsUuid other.id)
    (protocol : share.shareProto = .wekafs) {fs : Entry Filesystem}
    (held : start.cluster.filesystems.find?
      (projectSession cfg other.projectId, cfg.shareName other.id) = some fs)
    (reached : AccessReach cfg share other fault start w) {call : AccessCall}
    (apart : call.Apart cfg share other)
    (within : Reaches (service fault) (call.program cfg share) w t) :
    PoliciesKept (PolicyOf other) fs.uid start t := by
  obtain ⟨stands, kept⟩ := reached.kept uuid uuid' protocol (standsFor_of_find? held)
  have spared := spared_call fault fs.uid uuid uuid' protocol apart
  exact kept.trans (policiesKept_of_reaches spared stands within)

section Sample

/-- A share whose id starts like the sample share's. -/
def twinShare : Share := { sampleShare .wekafs with id := "5a7c1e90-1111-4000-8000-000000000001" }

/-- A share whose id starts otherwise. -/
def strangeShare : Share := { sampleShare .wekafs with id := "0b0b0b0b-1111-4000-8000-000000000001" }

/-- The id of the twin is a UUID. -/
theorem isUuid_twin : IsUuid twinShare.id := by
  refine ⟨⟨"5a7c1e90".toList, "1111".toList, "4000".toList, "8000".toList,
    "000000000001".toList, by decide, List.all_iff_forall_prop.mp (by decide)⟩, ?_⟩
  change "5a7c1e90-1111-4000-8000-000000000001".toList = _
  decide

private theorem isUuid_strange : IsUuid strangeShare.id := by
  refine ⟨⟨"0b0b0b0b".toList, "1111".toList, "4000".toList, "8000".toList,
    "000000000001".toList, by decide, List.all_iff_forall_prop.mp (by decide)⟩, ?_⟩
  change "0b0b0b0b-1111-4000-8000-000000000001".toList = _
  decide

/-- The sample rule is in force, and another share of the project exists. -/
def neighbourWorld (neighbour : Share) : World :=
  ((createShare sampleConfig neighbour).run respond
    ((addSample.program sampleConfig (sampleShare .wekafs)).run respond sampleWekafs).2).2

/-- Deleting a share whose id starts otherwise. -/
theorem neighbour_policies_kept_sample :
    PoliciesKept (PolicyOf (sampleShare .wekafs)) 0 (neighbourWorld strangeShare)
      ((deleteShare sampleConfig strangeShare).run respond (neighbourWorld strangeShare)).2 := by
  have run : Exec reliable (AccessCall.deleteShare.program sampleConfig strangeShare)
    (neighbourWorld strangeShare) _ _ := exec_run _ _
  have apart : AccessCall.deleteShare.Apart sampleConfig strangeShare (sampleShare .wekafs) :=
    ⟨by decide, by decide⟩
  obtain ⟨fs, held, uid⟩ : ∃ fs, (neighbourWorld strangeShare).cluster.filesystems.find?
      (projectSession sampleConfig (sampleShare .wekafs).projectId,
        sampleConfig.shareName (sampleShare .wekafs).id) = some fs ∧ fs.uid = 0 := ⟨_, rfl, rfl⟩
  have kept := neighbour_policies_kept isUuid_strange (isUuid_sample .wekafs) rfl held .start apart
    run.reaches
  rwa [uid] at kept

/-- Deleting a share whose id starts like another's deletes the other's policy. -/
theorem deleting_twin_unlocks :
    IsUuid twinShare.id ∧ IsUuid (sampleShare .wekafs).id ∧ twinShare.id ≠ (sampleShare .wekafs).id ∧
      twinShare.projectId = (sampleShare .wekafs).projectId ∧
      (∃ outcome t, Exec reliable (deleteShare sampleConfig twinShare) (neighbourWorld twinShare)
        outcome t ∧
        (t.cluster.filesystems.find? (projectSession sampleConfig (sampleShare .wekafs).projectId,
          sampleConfig.shareName (sampleShare .wekafs).id)).isSome = true ∧
        ¬ PoliciesKept (PolicyOf (sampleShare .wekafs)) 0 (neighbourWorld twinShare) t) := by
  refine ⟨isUuid_twin, isUuid_sample .wekafs, by decide, rfl, _, _, exec_run _ _, by decide,
    fun kept => ?_⟩
  have same := kept (projectSession sampleConfig (sampleShare .wekafs).projectId)
    (wekafsPolicyName (sampleShare .wekafs).id .rw) (Or.inl ⟨.rw, rfl⟩)
  revert same
  decide

end Sample

end WekaShareDriver
