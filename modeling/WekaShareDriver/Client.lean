import WekaShareDriver.World

/-! # The API client's composite calls

Lookups by name list what the session sees and take the first record of that
name. Deleting a client group removes its rules first, because the cluster
rejects the delete of a group that still has one.
-/

namespace WekaShareDriver

open Foundation

/-- Find an organization by name. -/
def getOrganizationByName (name : String) : Driver (Option (Entry Organization)) := do
  let organizations ← send .admin .listOrganizations
  return organizations.find? fun org => org.val.name = name

/-- Find a filesystem by name. -/
def getFilesystemByName (session : Session) (name : String) :
    Driver (Option (Entry Filesystem)) := do
  let filesystems ← send session .listFilesystems
  return filesystems.find? fun fs => fs.val.name = name

/-- Find a snapshot by name, optionally among those of one filesystem. -/
def getSnapshotByName (session : Session) (name : String) (fsUid : Option Uid) :
    Driver (Option (Entry Snapshot)) := do
  let snapshots ← send session .listSnapshots
  let selected : List (Entry Snapshot) :=
    match fsUid with
    | some uid => snapshots.filter fun snap => snap.val.filesystemUid = uid
    | none => snapshots
  return selected.find? fun snap => snap.val.name = name

/-- Find a security policy by name. -/
def getSecurityPolicyByName (session : Session) (name : String) :
    Driver (Option (Entry SecurityPolicy)) := do
  let policies ← send session .listSecurityPolicies
  return policies.find? fun policy => policy.val.name = name

/-- Remove the rules of a client group; failures are ignored. -/
def deleteClientGroupRules (groupUid : Uid) : Driver Unit :=
  tryCatch
    (do
      let group ← send .admin (.getClientGroup groupUid)
      group.val.rules.forM fun rule =>
        tryCatch (send .admin (.deleteClientGroupRule groupUid rule.uid)) fun _ => pure ())
    fun _ => pure ()

/-- Delete a client group, removing its rules first. -/
def deleteClientGroup (groupUid : Uid) : Driver Unit := do
  deleteClientGroupRules groupUid
  send .admin (.deleteClientGroup groupUid)

end WekaShareDriver
