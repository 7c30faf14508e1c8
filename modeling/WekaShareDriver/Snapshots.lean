import WekaShareDriver.Filesystems

/-! # Snapshots and shares made from them

A share made from a snapshot is reported before its data is there: the copy
runs in the background, between two temporary mounts, and records its end in a
table that Manila polls.
-/

namespace WekaShareDriver

open Foundation

/-- Create a snapshot of a share's underlying filesystem. -/
def createSnapshot (cfg : Config) (snapshot : ShareSnapshot) : Driver Unit := do
  let session ← clientForShare cfg snapshot.share
  let fsUid ← getFsUidForShare cfg session snapshot.share
  let _ ← send session (.createSnapshot fsUid (snapshotName snapshot.id) false)

/-- Delete a snapshot; nothing happens when it or its share is gone. -/
def deleteSnapshot (cfg : Config) (snapshot : ShareSnapshot) : Driver Unit := do
  let session ← clientForShare cfg snapshot.share
  let fsUid ← tryCatch (some <$> getFsUidForShare cfg session snapshot.share) fun
    | .shareNotFound _ => pure none
    | error => throw error
  match fsUid with
  | none => return ()
  | some fsUid =>
      match ← getSnapshotByName session (snapshotName snapshot.id) (some fsUid) with
      | none => return ()
      | some snap =>
          tryCatch (send session (.deleteSnapshot snap.uid)) fun error =>
            if isNotFound error then pure () else throw error

/-- Revert a share to a snapshot, in place. -/
def revertToSnapshot (cfg : Config) (snapshot : ShareSnapshot) : Driver Unit := do
  let session ← clientForShare cfg snapshot.share
  let fsUid ← getFsUidForShare cfg session snapshot.share
  match ← getSnapshotByName session (snapshotName snapshot.id) (some fsUid) with
  | none => throw (.shareSnapshotNotFound snapshot.id)
  | some snap => send session (.restoreSnapshot snap.uid fsUid)

/-- Create a share from a snapshot: the copy is left to a background worker. -/
def createShareFromSnapshot (cfg : Config) (share : Share) (snapshot : ShareSnapshot) :
    Driver (ShareStatus × List ExportLocation) := do
  if share.shareProto = .nfs ∧ (cfg.nfsServer.filter (· ≠ "")).isNone then
    throw (.shareBackend ("weka_nfs_server must be configured to create an NFS share from " ++
      "a snapshot"))
  let session ← clientForShare cfg share
  match ← getSnapshotByName session (snapshotName snapshot.id) none with
  | none => throw (.shareSnapshotNotFound snapshot.id)
  | some snap =>
      let srcFs ← send session (.getFilesystem snap.val.filesystemUid)
      let newFsName := cfg.shareName share.id
      let fs ← createFilesystemIdempotent session newFsName cfg.filesystemGroup
        (gbToBytes share.size) (isIsolatedWekafs share)
      let locations := buildExportLocations cfg share newFsName (some fs.uid) share.shareProto
      onHost (.asyncCopyPut share.id ⟨.creatingFromSnapshot, some fs.uid, some newFsName⟩)
      onHost (.startCopy
        { share
          snapshotId := snapshot.id
          accessPoint :=
            if snap.val.accessPoint = "" then snapshotName snapshot.id else snap.val.accessPoint
          srcFsName := srcFs.val.name
          newFsName })
      return (.creatingFromSnapshot, locations)

/-- The result of a program, raised errors included. -/
def attempt {α : Type} (program : Driver α) : Driver (Except Error α) :=
  tryCatch (Except.ok <$> program) fun error => pure (.error error)

/-- Raise an error kept aside. -/
def reraise : Option Error → Driver Unit
  | none => pure ()
  | some error => throw error

/-- Path of a directory with exactly one slash at its end. -/
def directoryPath (path : String) : String :=
  String.ofList ((path.toList.reverse.dropWhile (· = '/')).reverse) ++ "/"

/-- Copy a snapshot directory into a mount. -/
def rsyncSnapshot (srcMnt accessPoint dstMnt : String) : Driver Unit :=
  onHost (.rsync (directoryPath (pathJoin (pathJoin srcMnt ".snapshots") accessPoint))
    (directoryPath dstMnt))

/-- Remove temporary directories; failures are ignored. -/
def removeTempDirs (paths : List String) : Driver Unit :=
  paths.forM fun path => tryCatch (onHost (.rmdir path)) fun _ => pure ()

/-- Mount an NFS export, trying again while the permission propagates. -/
def nfsMountWithRetry (mountExport mountPath : String) : Nat → Driver Unit
  | 0 => onHost (.nfsMount mountExport mountPath)
  | retries + 1 =>
      tryCatch (onHost (.nfsMount mountExport mountPath)) fun
        | .process => nfsMountWithRetry mountExport mountPath retries
        | error => throw error

/-- What a copy through NFS has set up so far. -/
structure NfsCopy where
  cgUid : Option Uid
  ruleUid : Option Uid
  srcMounted : Bool
  dstMounted : Bool
  deriving DecidableEq, Repr

/-- Run the stages of a copy until one raises, keeping what was set up. -/
def runStages : List (NfsCopy → Driver NfsCopy) → NfsCopy → Driver (NfsCopy × Option Error)
  | [], progress => pure (progress, none)
  | stage :: rest, progress => do
      match ← attempt (stage progress) with
      | .ok progress => runStages rest progress
      | .error error => return (progress, some error)

/-- The stages of a copy through temporary NFS mounts. -/
def nfsCopyStages (nfsServer tmpCgName localIp srcMnt dstMnt : String) (job : CopyJob) :
    List (NfsCopy → Driver NfsCopy) :=
  [fun progress => do
      let cg ← send .admin (.createClientGroup tmpCgName)
      return { progress with cgUid := some cg.uid },
   fun progress => do
      let rule ← send .admin (.addClientGroupRule (progress.cgUid.getD 0) .ip localIp)
      return { progress with ruleUid := some rule.uid },
   fun progress => do
      let _ ← send .admin (.createNfsPermission tmpCgName job.srcFsName "/" .ro false)
      return progress,
   fun progress => do
      let _ ← send .admin (.createNfsPermission tmpCgName job.newFsName "/" .rw false)
      return progress,
   fun progress => do
      nfsMountWithRetry (nfsServer ++ ":/" ++ job.srcFsName) srcMnt 5
      return { progress with srcMounted := true },
   fun progress => do
      nfsMountWithRetry (nfsServer ++ ":/" ++ job.newFsName) dstMnt 5
      return { progress with dstMounted := true },
   fun progress => do
      rsyncSnapshot srcMnt job.accessPoint dstMnt
      return progress]

/-- Unmount what a copy mounted; failures are ignored. -/
def umountIf (mounted : Bool) (mountPoint : String) : Driver Unit :=
  if mounted then tryCatch (onHost (.umount mountPoint false)) fun _ => pure () else pure ()

/-- Remove what a copy through NFS set up on the cluster; failures are
ignored. -/
def removeTempGroup (tmpCgName : String) (progress : NfsCopy) : Driver Unit := do
  tryCatch
    (do
      let permissions ← send .admin .listNfsPermissions
      permissions.forM fun perm =>
        if perm.val.group = tmpCgName then
          tryCatch (send .admin (.deleteNfsPermission perm.uid)) fun _ => pure ()
        else pure ())
    fun _ => pure ()
  match progress.cgUid with
  | none => return ()
  | some cgUid =>
      match progress.ruleUid with
      | some ruleUid =>
          tryCatch (send .admin (.deleteClientGroupRule cgUid ruleUid)) fun _ => pure ()
      | none => pure ()
      tryCatch (deleteClientGroup cgUid) fun _ => pure ()

/-- Copy snapshot data through temporary NFS mounts. -/
def copySnapshotNfs (cfg : Config) (job : CopyJob) : Driver Unit := do
  match cfg.nfsServer.filter (· ≠ "") with
  | none =>
      throw (.manila "weka_nfs_server must be configured for create_share_from_snapshot")
  | some nfsServer =>
      let localIp ← onHost (.localIp nfsServer)
      let tmpCgName := "manila-snap-" ++ Text.take job.share.id 8
      let srcMnt ← onHost (.mkdtemp "manila_weka_snap_src_")
      let dstMnt ← onHost (.mkdtemp "manila_weka_snap_dst_")
      let (progress, failure) ← runStages (nfsCopyStages nfsServer tmpCgName localIp srcMnt dstMnt
        job) ⟨none, none, false, false⟩
      umountIf progress.dstMounted dstMnt
      umountIf progress.srcMounted srcMnt
      removeTempDirs [srcMnt, dstMnt]
      removeTempGroup tmpCgName progress
      reraise failure

/-- Run a program inside a WekaFS mount, unmounting at its end. -/
def withWekaMount (mnt : WekaMount) (body : Driver Unit) : Driver Unit := do
  mnt.mount
  let outcome ← attempt body
  tryCatch (mnt.unmount false) fun _ => pure ()
  match outcome with
  | .ok _ => return ()
  | .error error => throw error

/-- The mount of one end of a copy: the host is a joined client, so no backends
are named. -/
def copyMount (cfg : Config) (authTokenPath fsName mountPoint : String) : WekaMount where
  backends := none
  fsName := fsName
  mountPoint := mountPoint
  authTokenPath := some authTokenPath
  numCores := cfg.numCores
  net := cfg.netDevice

/-- Copy snapshot data through WekaFS mounts. -/
def copySnapshotWekafs (cfg : Config) (job : CopyJob) : Driver Unit := do
  let authTokenPath ← orgTokenFile cfg job.share.projectId
  let srcMnt ← onHost (.mkdtemp "manila_weka_snap_src_")
  let dstMnt ← onHost (.mkdtemp "manila_weka_snap_dst_")
  let outcome ← attempt
    (withWekaMount (copyMount cfg authTokenPath job.srcFsName srcMnt)
      (withWekaMount (copyMount cfg authTokenPath job.newFsName dstMnt)
        (rsyncSnapshot srcMnt job.accessPoint dstMnt)))
  removeTempDirs [srcMnt, dstMnt]
  match outcome with
  | .ok _ => return ()
  | .error error => throw error

/-- Record the end of a background copy. -/
def recordCopy (shareId : String) (status : ShareStatus) : Driver Unit := do
  let entry ← onHost (.asyncCopyGet shareId)
  onHost (.asyncCopyPut shareId
    (match entry with
      | some entry => { entry with status }
      | none => ⟨status, none, none⟩))

/-- Background worker: copy the data, then record the status. -/
def runSnapshotCopy (cfg : Config) (job : CopyJob) : Driver Unit :=
  tryCatch
    (do
      if job.share.shareProto = .nfs then copySnapshotNfs cfg job else copySnapshotWekafs cfg job
      recordCopy job.share.id .available)
    fun _ => recordCopy job.share.id .error

/-- Report a background copy's status; a share without an entry lost it in a
restart. -/
def getShareStatus (cfg : Config) (share : Share) :
    Driver (ShareStatus × Option (List ExportLocation)) := do
  match ← onHost (.asyncCopyGet share.id) with
  | none => return (.error, none)
  | some entry =>
      match entry.status with
      | .available =>
          return (.available, some (buildExportLocations cfg share
            (entry.fsName.getD (cfg.shareName share.id)) entry.fsUid share.shareProto))
      | .error => return (.error, none)
      | .creatingFromSnapshot => return (.creatingFromSnapshot, none)

end WekaShareDriver
