import WekaShareDriver.Access.NfsUses
import WekaShareDriver.SetupUses

/-! # The operations of a background copy

A copy mounts and copies on the host. Over NFS it also makes a temporary client
group with permissions, and over WekaFS it opens the project's session
(`WekaShareDriver.uses_runSnapshotCopy`).
-/

namespace WekaShareDriver

open Foundation Program

/-- An operation on mounts, directories or files, or a request about exports. -/
def DataCopyOp (op : Op) : Prop := MountOp op ∨ ∃ fsName, ExportOp fsName (fun _ => True) op

/-- An operation of the host, or a request about exports. -/
def NfsCopyOp (op : Op) : Prop := HostOp op ∨ ∃ fsName, ExportOp fsName (fun _ => True) op

/-- An operation that sets up, or a request about exports. -/
def CopyOp (op : Op) : Prop := SetupOp op ∨ ∃ fsName, ExportOp fsName (fun _ => True) op

/-- An operation of a copy through NFS is one of a copy. -/
theorem NfsCopyOp.copy {op : Op} (copy : NfsCopyOp op) : CopyOp op :=
  copy.imp_left HostOp.setup

variable {cfg : Config}

private theorem uses_copy_of_mounts {α : Type} {program : Driver α} (uses : program.Uses MountOp) :
    program.Uses DataCopyOp :=
  uses.mono fun _ => Or.inl

private theorem uses_copy_of_exports {α : Type} {program : Driver α} {fsName : String}
    (uses : program.Uses (ExportOp fsName fun _ => True)) : program.Uses DataCopyOp :=
  uses.mono fun _ exports => Or.inr ⟨fsName, exports⟩

private theorem uses_attempt {α : Type} {allowed : Op → Prop} {program : Driver α}
    (uses : program.Uses allowed) : (attempt program).Uses allowed := by
  have mapped : (Except.ok <$> program : Driver (Except Error α)).Uses allowed := by
    rw [← bind_pure_comp]
    exact uses.bind fun _ => trivial
  exact mapped.tryCatch fun _ => trivial

private theorem uses_reraise {allowed : Op → Prop} (failure : Option Error) :
    (reraise failure).Uses allowed := by
  cases failure <;> trivial

private theorem uses_removeTempDirs (paths : List String) : (removeTempDirs paths).Uses MountOp :=
  .forM fun _ _ => .tryCatch (uses_perform trivial) fun _ => trivial

private theorem uses_rsyncSnapshot (srcMnt accessPoint dstMnt : String) :
    (rsyncSnapshot srcMnt accessPoint dstMnt).Uses MountOp :=
  uses_perform trivial

/-- Recording how a copy stands is an operation of the host. -/
theorem uses_recordCopy (shareId : String) (status : ShareStatus) :
    (recordCopy shareId status).Uses HostOp :=
  .bind (uses_perform trivial) fun _ => uses_perform trivial

/-! ## Through WekaFS mounts -/

private theorem uses_withWekaMount {mnt : WekaMount} {body : Driver Unit}
    (uses : body.Uses MountOp) :
    (withWekaMount mnt body).Uses MountOp := by
  refine .bind (mounts_mount mnt) fun _ => .bind (uses_attempt uses) fun outcome =>
    .bind (.tryCatch (mounts_unmount mnt false) fun _ => trivial) fun _ => ?_
  cases outcome <;> trivial

variable (cfg) in
/-- Once the token file is written, a copy through WekaFS mounts only mounts. -/
theorem copySnapshotWekafs_shape (job : CopyJob) : ∃ rest : String → Driver Unit,
    copySnapshotWekafs cfg job = (orgTokenFile cfg job.share.projectId >>= rest) ∧
      ∀ authTokenPath, (rest authTokenPath).Uses MountOp := by
  refine ⟨_, rfl, fun authTokenPath => ?_⟩
  refine .bind (uses_perform trivial) fun srcMnt => .bind (uses_perform trivial) fun dstMnt =>
    .bind (uses_attempt ?_) fun outcome => .bind (uses_removeTempDirs _) fun _ => ?_
  · exact uses_withWekaMount (uses_withWekaMount (uses_rsyncSnapshot _ _ _))
  · cases outcome <;> trivial

private theorem uses_copySnapshotWekafs (job : CopyJob) :
    (copySnapshotWekafs cfg job).Uses SetupOp := by
  obtain ⟨rest, shape, uses⟩ := copySnapshotWekafs_shape cfg job
  rw [shape]
  exact .bind (uses_orgTokenFile _) fun authTokenPath =>
    (uses authTokenPath).mono fun _ mounts => mounts.host.setup

/-! ## Through temporary NFS mounts -/

private theorem uses_nfsMountWithRetry (mountExport mountPath : String) (retries : Nat) :
    (nfsMountWithRetry mountExport mountPath retries).Uses MountOp := by
  induction retries with
  | zero => exact uses_perform trivial
  | succ retries ih =>
      refine .tryCatch (uses_perform trivial) fun error => ?_
      cases error with
      | process => exact ih
      | _ => trivial

private theorem uses_runStages {allowed : Op → Prop} {stages : List (NfsCopy → Driver NfsCopy)}
    (each : ∀ stage ∈ stages, ∀ progress, (stage progress).Uses allowed) (progress : NfsCopy) :
    (runStages stages progress).Uses allowed := by
  induction stages generalizing progress with
  | nil => trivial
  | cons stage rest ih =>
      refine .bind (uses_attempt (each stage List.mem_cons_self progress)) fun outcome => ?_
      cases outcome with
      | ok progress' => exact ih (fun _ member => each _ (List.mem_cons_of_mem _ member)) progress'
      | error error => trivial

private theorem uses_copyRequest {request : Request} {fsName : String}
    (about : request.aboutExports fsName fun _ => True) : (send .admin request).Uses DataCopyOp :=
  uses_copy_of_exports (uses_exportRequest about)

private theorem uses_nfsCopyStages (nfsServer tmpCgName localIp srcMnt dstMnt : String)
    (job : CopyJob) :
    ∀ stage ∈ nfsCopyStages nfsServer tmpCgName localIp srcMnt dstMnt job, ∀ progress,
      (stage progress).Uses DataCopyOp := by
  have group : Request.aboutExports "" (fun _ => True) (.createClientGroup tmpCgName) := trivial
  have rule (uid : Uid) :
      Request.aboutExports "" (fun _ => True) (.addClientGroupRule uid .ip localIp) := trivial
  have permission (fsName : String) (type : PermissionType) : Request.aboutExports fsName
      (fun _ => True) (.createNfsPermission tmpCgName fsName "/" type false) := rfl
  intro stage member progress
  simp only [nfsCopyStages, List.mem_cons, List.not_mem_nil, or_false] at member
  rcases member with rfl | rfl | rfl | rfl | rfl | rfl | rfl
  · exact .bind (uses_copyRequest group) fun _ => trivial
  · exact .bind (uses_copyRequest (rule _)) fun _ => trivial
  · exact .bind (uses_copyRequest (permission _ _)) fun _ => trivial
  · exact .bind (uses_copyRequest (permission _ _)) fun _ => trivial
  · exact .bind (uses_copy_of_mounts (uses_nfsMountWithRetry _ _ _)) fun _ => trivial
  · exact .bind (uses_copy_of_mounts (uses_nfsMountWithRetry _ _ _)) fun _ => trivial
  · exact .bind (uses_copy_of_mounts (uses_rsyncSnapshot _ _ _)) fun _ => trivial

private theorem uses_umountIf (mounted : Bool) (mountPoint : String) :
    (umountIf mounted mountPoint).Uses MountOp :=
  .ite (fun _ => .tryCatch (uses_perform trivial) fun _ => trivial) fun _ => trivial

private theorem uses_removeTempGroup (tmpCgName : String) (progress : NfsCopy) :
    (removeTempGroup tmpCgName progress).Uses (ExportOp "" fun _ => True) := by
  refine .bind (.tryCatch (.bind (uses_exportRequest trivial) fun permissions => ?_)
    fun _ => trivial) fun _ => ?_
  · exact .forM fun perm _ => .ite
      (fun _ => .tryCatch (uses_exportRequest trivial) fun _ => trivial) fun _ => trivial
  · cases progress.cgUid with
    | none => trivial
    | some cgUid =>
        have group : (tryCatch (deleteClientGroup cgUid) fun _ => pure () : Driver Unit).Uses
            (ExportOp "" fun _ => True) :=
          .tryCatch (uses_deleteClientGroup cgUid) fun _ => trivial
        cases progress.ruleUid with
        | none => exact group
        | some ruleUid =>
            exact .bind (.tryCatch (uses_exportRequest trivial) fun _ => trivial) fun _ => group

/-- A copy through NFS asks for mounts, directories, files and exports only. -/
theorem copies_copySnapshotNfs (job : CopyJob) : (copySnapshotNfs cfg job).Uses DataCopyOp := by
  unfold copySnapshotNfs
  cases cfg.nfsServer.filter (· ≠ "") with
  | none => trivial
  | some nfsServer =>
      have host (call : HostCall) (mounts : MountOp (.host call)) : (onHost call).Uses DataCopyOp :=
        uses_copy_of_mounts (uses_perform mounts)
      refine .bind (host _ trivial) fun localIp => .bind (host _ trivial) fun srcMnt =>
        .bind (host _ trivial) fun dstMnt => .bind ?_ fun finished => ?_
      · exact uses_runStages (uses_nfsCopyStages _ _ _ _ _ _) _
      · refine .bind (uses_copy_of_mounts (uses_umountIf _ _)) fun _ =>
          .bind (uses_copy_of_mounts (uses_umountIf _ _)) fun _ =>
            .bind (uses_copy_of_mounts (uses_removeTempDirs _)) fun _ =>
              .bind (uses_copy_of_exports (uses_removeTempGroup _ _)) fun _ => uses_reraise _

/-- A copy through NFS asks for operations of the host and exports only. -/
theorem uses_copySnapshotNfs (job : CopyJob) : (copySnapshotNfs cfg job).Uses NfsCopyOp :=
  (copies_copySnapshotNfs job).mono fun _ copy => copy.imp_left MountOp.host

/-- A background copy sets up and makes exports, and nothing else. -/
theorem uses_runSnapshotCopy (job : CopyJob) : (runSnapshotCopy cfg job).Uses CopyOp := by
  have record (status : ShareStatus) : (recordCopy job.share.id status).Uses CopyOp :=
    (uses_recordCopy _ _).mono fun _ host => Or.inl host.setup
  refine .tryCatch (.ite (fun _ => ?_) fun _ => ?_) fun _ => record .error
  · exact .bind ((uses_copySnapshotNfs job).mono fun _ => NfsCopyOp.copy) fun _ => record .available
  · exact .bind ((uses_copySnapshotWekafs job).mono fun _ => Or.inl) fun _ => record .available

end WekaShareDriver
