import WekaShareDriver.Access.Wekafs
import WekaShareDriver.Posix

/-! # Share operations

Creating, deleting, resizing, verifying and adopting shares. Every operation
finds the share's filesystem in one of three ways: by the name generated from
the share id, by the uid in the export metadata, or by the name in the export
path.
-/

namespace WekaShareDriver

open Foundation

/-- Weka backend address string. -/
def Config.backends (cfg : Config) : String := cfg.apiServer

/-- The share's export location list. -/
def buildExportLocations (cfg : Config) (share : Share) (fsName : String) (fsUid : Option Uid)
    (shareProto : ShareProto) : List ExportLocation :=
  let path :=
    if shareProto = .wekafs then cfg.backends ++ "/" ++ fsName
    else (cfg.nfsServer.filter (· ≠ "")).getD cfg.backends ++ ":/" ++ fsName
  let tenant := shareProto = .wekafs ∧ hasProject share.projectId
  [{ path
     isAdminOnly := false
     metadata :=
      { wekaFsUid := fsUid
        wekaFsName := some fsName
        wekaOrgName := if tenant then some (cfg.orgName share.projectId) else none
        wekaOrgUser := if tenant then some cfg.orgMountUser else none } }]

/-- The candidate name in an export path: the last component, after the server
of a path without one. -/
def exportPathName (path : String) : String :=
  let candidate := Text.afterLast path '/'
  if ':' ∈ candidate.toList then Text.lstrip (Text.afterFirst candidate ':') '/' else candidate

/-- The first filesystem found under the names in the export paths. -/
def findByExportPaths (session : Session) : List ExportLocation → Driver (Option Uid)
  | [] => pure none
  | loc :: rest =>
      if loc.path = "" ∨ exportPathName loc.path = "" then findByExportPaths session rest
      else do
        match ← getFilesystemByName session (exportPathName loc.path) with
        | some fs => return some fs.uid
        | none => findByExportPaths session rest

/-- Resolve a share's filesystem uid: the one cached in the export metadata,
then the generated name, then the export path's name for managed shares. -/
def getFsUidForShare (cfg : Config) (session : Session) (share : Share) : Driver Uid := do
  match share.exportLocations.findSome? fun loc => loc.metadata.wekaFsUid with
  | some uid => return uid
  | none =>
      match ← getFilesystemByName session (cfg.shareName share.id) with
      | some fs => return fs.uid
      | none =>
          match ← findByExportPaths session share.exportLocations with
          | some uid => return uid
          | none => throw (.shareNotFound share.id)

/-- Create a filesystem, or return the existing one. -/
def createFilesystemIdempotent (session : Session) (fsName groupName : String) (sizeBytes : Nat)
    (authRequired : Bool) : Driver (Entry Filesystem) := do
  match ← getFilesystemByName session fsName with
  | some existing => return existing
  | none =>
      tryCatch (send session (.createFilesystem fsName groupName sizeBytes authRequired)) fun
        | .api error => do
            if error.kind = .conflict then
              -- Created by another request in between.
              match ← getFilesystemByName session fsName with
              | some fs => return fs
              | none => throw (.api error)
            else
              throw (.api error)
        | .capacity reason =>
            throw (.shareBackend ("Insufficient capacity in Weka filesystem group '" ++ groupName ++
              "' to create filesystem '" ++ fsName ++ "' of " ++ Nat.repr sizeBytes ++ " bytes: " ++
              "Weka capacity error: " ++ reason))
        | error => throw error

/-- Create, once for each organization, the policy of a group at a level, and
attach it. -/
def ensureGroupPolicy (session : Session) (fsUid : Uid) (group : String) (level : Level)
    (ips : List String) : Driver Unit := do
  if ips ≠ [] then
    let policyUid ← do
      match ← getSecurityPolicyByName session (groupPolicyName group level) with
      | some policy => pure policy.uid
      | none =>
          let policy ← send session (.createSecurityPolicy (groupPolicyName group level) ips
            (level == .ro))
          pure policy.uid
    attachPolicy session fsUid policyUid

/-- Create and attach the policies of the group the share's type selects. A
group that is not configured attaches nothing. -/
def ensureGroupPolicies (cfg : Config) (share : Share) (fsUid : Uid) : Driver Unit := do
  match ← sharePolicyGroup share with
  | none => return ()
  | some group =>
      match (cfg.policyGroups.get? group).filter (· ≠ []) with
      | none => return ()
      | some levels =>
          let session ← orgClient cfg share.projectId
          ensureGroupPolicy session fsUid group .rw ((Dict.get? levels .rw).getD [])
          ensureGroupPolicy session fsUid group .ro ((Dict.get? levels .ro).getD [])

/-- Create a filesystem for a share and return its export locations. -/
def createShare (cfg : Config) (share : Share) : Driver (List ExportLocation) := do
  match share.shareProto with
  | .other name =>
      throw (.invalidShare ("Unsupported share protocol: " ++ name ++ ". Supported: WEKAFS, NFS"))
  | shareProto =>
      let fsName := cfg.shareName share.id
      let session ← clientForShare cfg share
      let fs ← createFilesystemIdempotent session fsName cfg.filesystemGroup (gbToBytes share.size)
        (isIsolatedWekafs share)
      if isIsolatedWekafs share then
        ensureGroupPolicies cfg share fs.uid
      return buildExportLocations cfg share fsName (some fs.uid) shareProto

/-- Detach and delete the share's own policies. -/
def cleanupWekafsPolicies (session : Session) (share : Share) (fsUid : Uid) : Driver Unit :=
  [Level.rw, Level.ro].forM fun level => do
    let found ← tryCatch (getSecurityPolicyByName session (wekafsPolicyName share.id level))
      fun _ => pure none
    match found with
    | none => return ()
    | some policy =>
        tryCatch (send session (.detachFsSecurityPolicy fsUid policy.uid)) fun _ => pure ()
        tryCatch (send session (.deleteSecurityPolicy policy.uid)) fun _ => pure ()

/-- Delete a share's filesystem; nothing happens when it is gone. -/
def deleteShare (cfg : Config) (share : Share) : Driver Unit := do
  let fsName := cfg.shareName share.id
  let session ← clientForShare cfg share
  match ← getFilesystemByName session fsName with
  | none => return ()
  | some fs =>
      if isIsolatedWekafs share then
        tryCatch (cleanupWekafsPolicies session share fs.uid) fun _ => pure ()
      -- A filesystem is not deleted under a mount that cannot be undone.
      if ← isMounted (cfg.mountPoint fsName) then
        WekaMount.unmount
          { backends := some cfg.backends, fsName, mountPoint := cfg.mountPoint fsName
            authTokenPath := none, numCores := 1, net := none } true
      tryCatch (send session (.deleteFilesystem fs.uid)) fun error =>
        if isNotFound error then pure () else throw error

/-- Extend share capacity. -/
def extendShare (cfg : Config) (share : Share) (newSize : Nat) : Driver Unit := do
  let session ← clientForShare cfg share
  let fsUid ← getFsUidForShare cfg session share
  send session (.updateFilesystem fsUid (gbToBytes newSize))

/-- Shrink unless in-use capacity exceeds the new size. -/
def shrinkShare (cfg : Config) (share : Share) (newSize : Nat) : Driver Unit := do
  let session ← clientForShare cfg share
  let fsUid ← getFsUidForShare cfg session share
  let fs ← send session (.getFilesystem fsUid)
  if gbToBytes newSize < fs.val.usedTotal then
    throw (.shareShrinkingPossibleDataLoss share.id)
  send session (.updateFilesystem fsUid (gbToBytes newSize))

/-- What a verified share is reported with. -/
inductive ShareUpdate where
  | exportLocations (locations : List ExportLocation)
  | error
  deriving DecidableEq, Repr

/-- Find the filesystem of a share to verify: a project's organization that is
gone is not provisioned again. -/
def findEnsuredFilesystem (cfg : Config) (listed : List (Entry Filesystem)) (share : Share) :
    Driver (Option (Entry Filesystem)) := do
  if isIsolatedWekafs share then
    match ← getOrganizationByName (cfg.orgName share.projectId) with
    | none => throw (.shareNotFound share.id)
    | some _ =>
        let session ← orgClient cfg share.projectId
        getFilesystemByName session (cfg.shareName share.id)
  else
    -- The last of several filesystems of one name wins in the dictionary.
    return listed.reverse.find? fun fs => fs.val.name = cfg.shareName share.id

/-- Verify one share is exported and return its export locations. -/
def ensureShare (cfg : Config) (listed : List (Entry Filesystem)) (share : Share) :
    Driver (List ExportLocation) := do
  let fsName := cfg.shareName share.id
  match ← findEnsuredFilesystem cfg listed share with
  | none => throw (.shareNotFound share.id)
  | some fs =>
      if share.shareProto = .wekafs then
        if !(← isMounted (cfg.mountPoint fsName)) then
          let authTokenPath ← orgTokenFile cfg share.projectId
          WekaMount.mount
            { backends := some cfg.backends, fsName, mountPoint := cfg.mountPoint fsName
              authTokenPath := some authTokenPath, numCores := cfg.numCores, net := cfg.netDevice }
      return buildExportLocations cfg share fsName (some fs.uid) share.shareProto

/-- Re-verify every share; one whose filesystem is gone is reported as an
error. -/
def ensureShares (cfg : Config) (shares : List Share) : Driver (Dict String ShareUpdate) := do
  let listed ← send .admin .listFilesystems
  shares.foldlM
    (fun updates share =>
      tryCatch
        (do
          let locations ← ensureShare cfg listed share
          return Dict.assign updates share.id (.exportLocations locations))
        fun
          | .shareNotFound _ => pure (Dict.assign updates share.id .error)
          | error => throw error)
    []

/-- A size in GiB, in hundredths, rounded to the even one when halfway. -/
def bytesToGbHundredths (sizeBytes : Nat) : Nat :=
  let quotient := sizeBytes * 100 / 1073741824
  let remainder := sizeBytes * 100 % 1073741824
  if remainder < 536870912 then quotient
  else if 536870912 < remainder then quotient + 1
  else quotient + quotient % 2

/-- What an adopted share is recorded with. -/
structure ManagedShare where
  size : Nat
  exportLocations : List ExportLocation
  deriving DecidableEq, Repr

/-- The filesystem name in the first export path given. -/
def managedFsName (share : Share) : Option String :=
  ((share.exportLocations.find? fun loc => loc.path ≠ "").map fun loc =>
    Text.afterLast loc.path '/').filter (· ≠ "")

/-- Adopt an existing filesystem as a share, clearing its NFS permissions. -/
def manageExisting (cfg : Config) (share : Share) : Driver ManagedShare := do
  if share.shareProto = .wekafs then
    throw (.manageInvalidShare ("Managing existing WEKAFS shares is not supported: " ++
      "per-tenant isolation requires the filesystem to be created by the driver inside the " ++
      "project's Weka organization. Create the share with Manila instead."))
  else
    match managedFsName share with
    | none =>
        throw (.manageInvalidShare ("Cannot determine filesystem name from share export " ++
          "location. Pass the filesystem name as the export path to manila manage."))
    | some fsName =>
        match ← getFilesystemByName .admin fsName with
        | none => throw (.manageInvalidShare ("Weka filesystem \"" ++ fsName ++ "\" not found"))
        | some fs =>
            tryCatch (removeAllNfsPermissions cfg fsName) fun _ => pure ()
            return { size := max 1 (bytesToGbHundredths fs.val.totalCapacity / 100)
                     exportLocations :=
                      buildExportLocations cfg share fsName (some fs.uid) share.shareProto }

end WekaShareDriver
