import WekaShareDriver.Access.Nfs
import WekaShareDriver.Footprint
import WekaShareDriver.Foundation.Obeys

/-! # The requests of an NFS access update

An update of an NFS share's access sends only requests about client groups and
permissions, all on the administrator's session. It creates permissions on one
filesystem only, and deletes permissions of that filesystem only
(`WekaShareDriver.obeys_updateNfsAccess`).
-/

namespace WekaShareDriver

open Foundation Program

/-- The requests that read and change the exports of a filesystem, deleting no
permissions but the given ones. -/
def Request.aboutExports (fsName : String) (targets : Uid → Prop) : Request → Prop
  | .listClientGroups => True
  | .getClientGroup _ => True
  | .createClientGroup _ => True
  | .addClientGroupRule .. => True
  | .deleteClientGroupRule .. => True
  | .deleteClientGroup _ => True
  | .listNfsPermissions => True
  | .createNfsPermission _ filesystem _ _ _ => filesystem = fsName
  | .deleteNfsPermission uid => targets uid
  | _ => False

/-- A request about the exports of a filesystem on the administrator's session. -/
def ExportOp (fsName : String) (targets : Uid → Prop) (op : Op) : Prop :=
  ∃ request : Request, op = .api .admin request ∧ request.aboutExports fsName targets

variable {cfg : Config} {share : Share} {fsName : String} {targets targets' : Uid → Prop}
  {fault : Fault} {w t : World}

/-- A request about the exports is one. -/
theorem uses_exportRequest {request : Request} (about : request.aboutExports fsName targets) :
    (send .admin request).Uses (ExportOp fsName targets) :=
  uses_perform ⟨request, rfl, about⟩

/-- A request about some of the groups is about one of more. -/
theorem ExportOp.mono {op : Op} (export' : ExportOp fsName targets op)
    (wider : ∀ uid, targets uid → targets' uid) : ExportOp fsName targets' op := by
  obtain ⟨request, rfl, about⟩ := export'
  refine ⟨request, rfl, ?_⟩
  cases request with
  | deleteNfsPermission uid => exact wider uid about
  | _ => exact about

/-- A request about exports leaves the filesystems alone. -/
theorem ExportOp.filesystems {op : Op} {answer : Except Error op.Res}
    (export' : ExportOp fsName targets op) (answered : service fault w op answer t) :
    t.cluster.filesystems = w.cluster.filesystems := by
  obtain ⟨request, rfl, about⟩ := export'
  rcases answered with equal | ⟨_, _, _, rfl⟩
  · have final : t = (respond (.api .admin request) w).2 := (congrArg Prod.snd equal).symm
    subst final
    simp only [respond]
    cases request with
    | addClientGroupRule uid type value =>
        simp only [Cluster.answer]
        split
        · split <;> rfl
        · rfl
    | deleteClientGroup uid =>
        simp only [Cluster.answer]
        split
        · split <;> rfl
        · rfl
    | getClientGroup uid | deleteClientGroupRule uid ruleUid | deleteNfsPermission uid =>
        simp only [Cluster.answer]
        split <;> rfl
    | listClientGroups | listNfsPermissions | createClientGroup name
      | createNfsPermission group filesystem path type squash => rfl
    | _ => exact about.elim
  · rfl

/-! ## Client groups -/

private theorem uses_getClientGroupByName (name : String) :
    (getClientGroupByName name).Uses (ExportOp fsName targets) :=
  .bind (uses_exportRequest trivial) fun _ => trivial

/-- Deleting a client group makes requests about exports only. -/
theorem uses_deleteClientGroup (groupUid : Uid) :
    (deleteClientGroup groupUid).Uses (ExportOp fsName targets) := by
  refine .bind (.tryCatch (.bind (uses_exportRequest trivial) fun group => ?_) fun _ => trivial)
    fun _ => uses_exportRequest trivial
  exact .forM fun rule _ => .tryCatch (uses_exportRequest trivial) fun _ => trivial

private theorem uses_deleteClientGroupByName (name : String) :
    (deleteClientGroupByName name).Uses (ExportOp fsName targets) := by
  apply Uses.bind (uses_getClientGroupByName name)
  intro found
  cases found with
  | none => trivial
  | some group =>
      exact .tryCatch (uses_deleteClientGroup group.uid) fun _ =>
        .ite (fun _ => trivial) fun _ => trivial

private theorem uses_ensureClientGroup (cgName : String) :
    (ensureClientGroup cgName).Uses (ExportOp fsName targets) := by
  apply Uses.bind (uses_getClientGroupByName cgName)
  intro found
  cases found with
  | none => exact .bind (uses_exportRequest trivial) fun _ => trivial
  | some group => exact .bind (uses_exportRequest trivial) fun _ => trivial

private theorem uses_ensureGroupRule (groupUid : Uid) (wekaIp : String) (existing : List String) :
    (ensureGroupRule groupUid wekaIp existing).Uses (ExportOp fsName targets) := by
  refine .ite (fun missing => ?_) fun _ => trivial
  exact .tryCatch (.bind (uses_exportRequest trivial) fun _ => trivial) fun _ =>
    .ite (fun _ => trivial) fun _ => trivial

/-! ## Permissions -/

/-- The permission under a uid, if there is one, exports a filesystem. -/
def BelongsTo (fsName : String) (w : World) (uid : Uid) : Prop :=
  ∀ entry, w.cluster.permissions.get? uid = some entry → entry.val.filesystem = fsName

/-- The permission issued under a uid exported a filesystem. -/
def IssuedOn (fsName : String) (w : World) (uid : Uid) : Prop :=
  uid < w.cluster.permissions.next ∧ BelongsTo fsName w uid

/-- No operation gives an issued uid to another filesystem's permission. -/
theorem IssuedOn.follows {uid : Uid} (issued : IssuedOn fsName w uid)
    (follows : w.cluster.permissions.Follows t.cluster.permissions) : IssuedOn fsName t uid := by
  refine ⟨Nat.lt_of_lt_of_le issued.1 follows.next, fun entry found => ?_⟩
  obtain ⟨member, rfl⟩ := Registry.get?_eq_some_iff.mp found
  obtain ⟨origin, earlier, uid, key⟩ := follows.keys entry member issued.1
  have same := issued.2 origin (Registry.get?_eq_some_iff.mpr ⟨earlier, uid⟩)
  rw [← same]
  exact (congrArg Prod.fst key).symm

private theorem issuedOn_of_mem {entry : Entry NfsPermission}
    (member : entry ∈ w.cluster.permissions.rows) (exports : entry.val.filesystem = fsName) :
    IssuedOn fsName w entry.uid := by
  refine ⟨w.cluster.permissions.below entry member, fun found same => ?_⟩
  rw [Registry.get?_of_mem member, Option.some.injEq] at same
  subst same
  exact exports

/-- Permissions are created and deleted on one filesystem only. -/
def ExportsOnly (fsName : String) (u : World) (op : Op) (_ : World) : Prop :=
  ExportOp fsName (BelongsTo fsName u) op

section Updates

variable {safe : World → Prop}
  (kept : ∀ s op answer t, ExportOp fsName (fun _ => True) op → safe s →
    service fault s op answer t → safe t)
include kept

/-- What sends requests about permissions on a filesystem listed before. -/
theorem obeys_of_listed {α : Type} {program : Driver α} {listed : List (Entry NfsPermission)}
    (uses : program.Uses (ExportOp fsName fun uid =>
      ∃ perm ∈ listed, perm.val.filesystem = fsName ∧ perm.uid = uid)) :
    Obeys (service fault)
      (fun s => safe s ∧ ∀ perm ∈ listed, perm.val.filesystem = fsName →
        IssuedOn fsName s perm.uid)
      (ExportsOnly fsName) program := by
  apply Obeys.of_uses uses
  intro s op answer t use holds answered
  obtain ⟨safe', issued⟩ := holds
  refine ⟨use.mono fun uid target => ?_, kept s op answer t (use.mono fun _ _ => trivial) safe'
    answered, fun perm member exports => ?_⟩
  · obtain ⟨perm, member, exports, rfl⟩ := target
    exact (issued perm member exports).2
  · exact (issued perm member exports).follows
      (follows_of_answer (fun _ _ _ => answer_permissions) answered)

/-- The permissions are listed first, and what follows deletes listed ones of the
filesystem only. -/
theorem obeys_listNfsPermissions {α : Type} {rest : List (Entry NfsPermission) → Driver α}
    (uses : ∀ listed, (rest listed).Uses (ExportOp fsName fun uid =>
      ∃ perm ∈ listed, perm.val.filesystem = fsName ∧ perm.uid = uid)) :
    Obeys (service fault) safe (ExportsOnly fsName)
      (send .admin .listNfsPermissions >>= rest) := by
  apply Obeys.bind_knowing (fun listed s => ∀ perm ∈ listed, perm.val.filesystem = fsName →
    IssuedOn fsName s perm.uid)
  · intro s holds
    rw [wp_send]
    refine ⟨⟨⟨⟨_, rfl, trivial⟩, holds⟩, holds, ?_⟩, fun error _ => ⟨⟨⟨_, rfl, trivial⟩, holds⟩, holds⟩⟩
    intro perm member exports
    exact issuedOn_of_mem member exports
  · intro listed
    exact obeys_of_listed kept (uses listed)

private theorem obeys_of_uses {α : Type} {program : Driver α}
    (uses : program.Uses (ExportOp fsName fun _ => False)) :
    Obeys (service fault) safe (ExportsOnly fsName) program := by
  apply Obeys.of_uses uses
  intro s op answer t use holds answered
  exact ⟨use.mono fun _ none => none.elim,
    kept s op answer t (use.mono fun _ _ => trivial) holds answered⟩

private theorem obeys_ensureNfsPermission (cgName : String) (type : PermissionType) :
    Obeys (service fault) safe (ExportsOnly fsName) (ensureNfsPermission fsName cgName type) := by
  unfold ensureNfsPermission findNfsPermission
  rw [LawfulMonad.bind_assoc]
  apply obeys_listNfsPermissions kept
  intro listed
  rw [LawfulMonad.pure_bind]
  cases found : listed.find? fun perm => perm.val.filesystem = fsName && perm.val.group = cgName with
  | none => exact .bind (uses_exportRequest rfl) fun _ => trivial
  | some perm =>
      have selected := List.find?_some found
      simp only [Bool.and_eq_true, decide_eq_true_eq] at selected
      refine .ite (fun differs => ?_) fun _ => trivial
      refine .bind (uses_exportRequest ⟨perm, List.mem_of_find?_eq_some found, selected.1, rfl⟩) ?_
      exact fun _ => .bind (uses_exportRequest rfl) fun _ => trivial

private theorem obeys_addNfsRule (states : RuleStates) (rule : AccessRule) :
    Obeys (service fault) safe (ExportsOnly fsName) (addNfsRule share fsName states rule) := by
  apply Obeys.ite (fun _ => .pure _)
  intro isIp
  apply Obeys.ite (fun _ => .pure _)
  intro isIpv4
  apply Obeys.tryCatch _ fun _ => .pure _
  apply Obeys.bind _ fun _ => .pure _
  unfold applyNfsRule
  cases cidrToWekaIp rule.accessTo with
  | error error => exact .throw _
  | ok wekaIp =>
      apply Obeys.bind (obeys_of_uses kept (uses_ensureClientGroup _))
      intro ensured
      apply Obeys.bind (obeys_of_uses kept (uses_ensureGroupRule _ _ _))
      exact fun _ => obeys_ensureNfsPermission kept _ _

private theorem obeys_removeNfsRule (rule : AccessRule) :
    Obeys (service fault) safe (ExportsOnly fsName) (removeNfsRule cfg fsName rule) := by
  apply obeys_listNfsPermissions kept
  intro listed
  apply Uses.bind
  · apply Uses.foldlM
    intro names perm member
    refine .ite (fun matching => ?_) fun _ => trivial
    exact .bind (uses_exportRequest ⟨perm, member, matching.1, rfl⟩) fun _ => trivial
  · exact fun names => .forM fun name _ => uses_deleteClientGroupByName name

private theorem obeys_pruneNfsRules (rules : List AccessRule) :
    Obeys (service fault) safe (ExportsOnly fsName) (pruneNfsRules cfg share fsName rules) := by
  apply obeys_listNfsPermissions kept
  intro listed
  apply Uses.bind
  · apply Uses.foldlM
    intro names perm member
    refine .ite (fun stale => .tryCatch ?_ fun _ => trivial) fun _ => trivial
    exact .bind (uses_exportRequest ⟨perm, member, stale.1, rfl⟩) fun _ => trivial
  · exact fun names => .forM fun name _ =>
      .tryCatch (uses_deleteClientGroupByName name) fun _ => trivial

/-- Clearing the exports of a filesystem. -/
theorem obeys_removeAllNfsPermissions :
    Obeys (service fault) safe (ExportsOnly fsName) (removeAllNfsPermissions cfg fsName) := by
  apply obeys_listNfsPermissions kept
  intro listed
  apply Uses.bind
  · apply Uses.foldlM
    intro names perm member
    refine .ite (fun exports => .bind (.tryCatch ?_ fun _ => ?_) fun _ => trivial)
      fun _ => trivial
    · exact uses_exportRequest ⟨perm, member, exports, rfl⟩
    · exact .ite (fun _ => trivial) fun _ => trivial
  · exact fun names => .forM fun name _ => uses_deleteClientGroupByName name

end Updates

/-- An update of an NFS share's access changes the exports of the filesystem of
the share's name only. -/
theorem obeys_updateNfsAccess {safe : World → Prop}
    (kept : ∀ s op answer t, ExportOp (cfg.shareName share.id) (fun _ => True) op → safe s →
      service fault s op answer t → safe t)
    (addRules deleteRules : List AccessRule) (fullSync : Bool) :
    Obeys (service fault) safe (ExportsOnly (cfg.shareName share.id))
      (updateNfsAccess cfg share addRules deleteRules fullSync) := by
  apply Obeys.bind (.foldlM (fun states rule _ => obeys_addNfsRule kept states rule) _)
  intro states
  apply Obeys.bind (.forM fun rule _ => .tryCatch (obeys_removeNfsRule kept rule) fun _ => .pure _)
  intro _
  cases fullSync with
  | false => exact .pure _
  | true => exact .bind (obeys_pruneNfsRules kept addRules) fun _ => .pure _

end WekaShareDriver
