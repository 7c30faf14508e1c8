import WekaShareDriver.TenantUses

/-! # Shares made and deleted, part by part

A share is made by opening its session, finding or creating its filesystem and
joining the policies of its group; a copy is opened the same way. A share is
deleted by closing the access to its filesystem, unmounting it and deleting it
(`WekaShareDriver.deleteShare_eq`). Each part uses few of the operations of the
whole.
-/

namespace WekaShareDriver

open Foundation Program

/-- Join the policies of a share's group, in its project's organization. -/
def joinGroup (cfg : Config) (share : Share) (fsUid : Uid) : Driver Unit :=
  if isIsolatedWekafs share then ensureGroupPolicies cfg share fsUid else pure ()

/-- Open a share made from a snapshot, on the session it is handled by. -/
def openCopy (cfg : Config) (share : Share) (snapshot : ShareSnapshot) (session : Session) :
    Driver (ShareStatus × List ExportLocation) := do
  match ← getSnapshotByName session (snapshotName snapshot.id) none with
  | none => throw (.shareSnapshotNotFound snapshot.id)
  | some snap =>
      let srcFs ← send session (.getFilesystem snap.val.filesystemUid)
      let newFsName := cfg.shareName share.id
      let fs ← createFilesystemIdempotent session newFsName cfg.filesystemGroup
        (gbToBytes share.size) (isIsolatedWekafs share)
      let locations := buildExportLocations cfg share newFsName (some fs.uid) share.shareProto
      onHost (.asyncCopyPut share.id ⟨.creatingFromSnapshot, some fs.uid, some newFsName⟩)
      onHost (.startCopy
        { share
          snapshotId := snapshot.id
          accessPoint :=
            if snap.val.accessPoint = "" then snapshotName snapshot.id else snap.val.accessPoint
          srcFsName := srcFs.val.name
          newFsName })
      return (.creatingFromSnapshot, locations)

/-- Remove the share's own policies, as far as that works. -/
def closeAccess (share : Share) (session : Session) (fsUid : Uid) : Driver Unit :=
  if isIsolatedWekafs share then
    tryCatch (cleanupWekafsPolicies session share fsUid) fun _ => pure ()
  else pure ()

/-- Undo the mount of a share's filesystem, if there is one. -/
def unmountShare (cfg : Config) (share : Share) : Driver Unit := do
  if ← isMounted (cfg.mountPoint (cfg.shareName share.id)) then
    WekaMount.unmount
      { backends := some cfg.backends, fsName := cfg.shareName share.id
        mountPoint := cfg.mountPoint (cfg.shareName share.id)
        authTokenPath := none, numCores := 1, net := none } true

/-- Delete a filesystem that may be gone by now. -/
def deleteFound (session : Session) (fsUid : Uid) : Driver Unit :=
  tryCatch (send session (.deleteFilesystem fsUid)) fun error =>
    if isNotFound error then pure () else throw error

variable {cfg : Config} {share : Share} {session : Session} {allowed : Op → Prop}

/-! ## The parts of an operation -/

/-- Creating a share in its parts. -/
theorem createShare_eq (served : ∀ name, share.shareProto ≠ .other name) :
    createShare cfg share = (do
      let session ← clientForShare cfg share
      let fs ← createFilesystemIdempotent session (cfg.shareName share.id) cfg.filesystemGroup
        (gbToBytes share.size) (isIsolatedWekafs share)
      joinGroup cfg share fs.uid
      return buildExportLocations cfg share (cfg.shareName share.id) (some fs.uid)
        share.shareProto) := by
  unfold createShare joinGroup
  cases protocol : share.shareProto with
  | other name => exact absurd protocol (served name)
  | wekafs =>
      have isolated : isIsolatedWekafs share = true := decide_eq_true protocol
      rw [isolated]
      rfl
  | nfs =>
      have isolated : isIsolatedWekafs share = false := by
        unfold isIsolatedWekafs
        rw [protocol]
        rfl
      rw [isolated]
      rfl

/-- Creating a share from a snapshot in its parts. -/
theorem createShareFromSnapshot_eq (snapshot : ShareSnapshot) :
    createShareFromSnapshot cfg share snapshot =
      if share.shareProto = .nfs ∧ (cfg.nfsServer.filter (· ≠ "")).isNone then
        throw (.shareBackend ("weka_nfs_server must be configured to create an NFS share from " ++
          "a snapshot"))
      else clientForShare cfg share >>= openCopy cfg share snapshot := rfl

/-- Deleting a share in its parts. -/
theorem deleteShare_eq (cfg : Config) (share : Share) :
    deleteShare cfg share = (do
      let session ← clientForShare cfg share
      match ← getFilesystemByName session (cfg.shareName share.id) with
      | none => return ()
      | some fs =>
          closeAccess share session fs.uid
          unmountShare cfg share
          deleteFound session fs.uid) := by
  unfold deleteShare closeAccess unmountShare deleteFound
  refine congrArg (_ >>= ·) (funext fun session => congrArg (_ >>= ·) (funext fun found => ?_))
  cases found with
  | none => rfl
  | some fs =>
      cases isIsolatedWekafs share with
      | true =>
          simp only [↓reduceIte, LawfulMonad.bind_assoc]
          refine congrArg (_ >>= ·) (funext fun _ => congrArg (_ >>= ·) (funext fun mounted => ?_))
          cases mounted <;> rfl
      | false =>
          simp only [Bool.false_eq_true, ↓reduceIte, LawfulMonad.bind_assoc, LawfulMonad.pure_bind]
          refine congrArg (_ >>= ·) (funext fun mounted => ?_)
          cases mounted <;> rfl

/-! ## What the parts use -/

/-- Finding or creating a filesystem lists filesystems and creates one. -/
theorem uses_findOrCreate {fsName groupName : String} {sizeBytes : Nat} {authRequired : Bool}
    (lists : allowed (.api session .listFilesystems))
    (creates : allowed (.api session
      (.createFilesystem fsName groupName sizeBytes authRequired))) :
    (createFilesystemIdempotent session fsName groupName sizeBytes authRequired).Uses allowed := by
  have find : (getFilesystemByName session fsName).Uses allowed :=
    .bind (uses_perform lists) fun _ => trivial
  refine .bind find fun found => ?_
  cases found with
  | some fs => trivial
  | none =>
      refine .tryCatch (uses_perform creates) fun error => ?_
      cases error with
      | api error =>
          refine .ite (fun _ => .bind find fun found => ?_) fun _ => trivial
          cases found <;> trivial
      | _ => trivial

/-- Joining the policies of a group opens a session, reads the share's type and sends
requests about policies. -/
theorem uses_joinGroup (fsUid : Uid) (setup : ∀ op, SetupOp op → allowed op)
    (policies : ∀ session op, PolicyOp session op → allowed op) :
    (joinGroup cfg share fsUid).Uses allowed := by
  refine .ite (fun _ => ?_) fun _ => trivial
  refine .bind ((uses_setup uses_sharePolicyGroup).mono setup) fun selected => ?_
  cases selected with
  | none => trivial
  | some group =>
      dsimp only
      cases (cfg.policyGroups.get? group).filter (· ≠ []) with
      | none => trivial
      | some levels =>
          have join (session : Session) (level : Level) (ips : List String) :
              (ensureGroupPolicy session fsUid group level ips).Uses allowed :=
            (uses_ensureGroupPolicy _ _ _ _).mono (policies session)
          exact .bind ((uses_setup_of_opens (uses_orgClient _)).mono setup) fun session =>
            .bind (join session .rw _) fun _ => join session .ro _

/-- A copy is opened from a snapshot and a filesystem that is found or created. -/
theorem uses_openCopy {snapshot : ShareSnapshot} (setup : ∀ op, SetupOp op → allowed op)
    (snapshots : allowed (.api session .listSnapshots))
    (reads : ∀ uid, allowed (.api session (.getFilesystem uid)))
    (creates : ∀ groupName sizeBytes authRequired, allowed (.api session
      (.createFilesystem (cfg.shareName share.id) groupName sizeBytes authRequired))) :
    (openCopy cfg share snapshot session).Uses allowed := by
  have host (call : HostCall) : (onHost call).Uses allowed := uses_perform (setup _ trivial)
  refine .bind (.bind (uses_perform snapshots) fun _ => trivial) fun found => ?_
  cases found with
  | none => trivial
  | some snap =>
      exact .bind (uses_perform (reads _)) fun srcFs =>
        .bind (uses_findOrCreate (setup _ trivial) (creates _ _ _)) fun fs =>
          .bind (host _) fun _ => .bind (host _) fun _ => trivial

/-- Closing the access makes requests about policies only. -/
theorem uses_closeAccess (fsUid : Uid) :
    (closeAccess share session fsUid).Uses (PolicyOp session) :=
  .ite (fun _ => .tryCatch (uses_cleanupWekafsPolicies fsUid) fun _ => trivial) fun _ => trivial

/-- Unmounting a share asks the host only. -/
theorem uses_unmountShare : (unmountShare cfg share).Uses HostOp :=
  .bind (uses_isMounted _) fun _ => .ite (fun _ => uses_unmount _ _) fun _ => trivial

/-- Deleting the filesystem found makes no other request. -/
theorem uses_deleteFound (fsUid : Uid) (deletes : allowed (.api session (.deleteFilesystem fsUid))) :
    (deleteFound session fsUid).Uses allowed :=
  .tryCatch (uses_perform deletes) fun _ => .ite (fun _ => trivial) fun _ => trivial

end WekaShareDriver
