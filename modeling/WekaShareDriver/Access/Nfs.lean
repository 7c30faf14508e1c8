import WekaShareDriver.Client

/-! # NFS access rules

An NFS rule is three objects of the cluster: a client group named after the
share and the rule, the rule's network in that group, and an export permission
from the share's filesystem to the group. Each is created, found and removed by
its own requests.
-/

namespace WekaShareDriver

open Foundation

/-- The state of a rule as reported to Manila. -/
inductive AccessState where
  | active
  | error
  deriving DecidableEq, Repr

/-- What is reported about a rule: its state and the key it grants. -/
structure RuleState where
  state : AccessState
  accessKey : Option String
  deriving DecidableEq, Repr

/-- The reported states by access id. -/
abbrev RuleStates : Type := Dict String RuleState

/-- The permission type of an access level. -/
def nfsType : Level → PermissionType
  | .rw => .rw
  | .ro => .ro

/-- The NFS client group with a name. -/
def getClientGroupByName (name : String) : Driver (Option (Entry ClientGroup)) := do
  let groups ← send .admin .listClientGroups
  return groups.find? fun group => group.val.name = name

/-- The NFS permission for a filesystem and a group. -/
def findNfsPermission (fsName cgName : String) : Driver (Option (Entry NfsPermission)) := do
  let permissions ← send .admin .listNfsPermissions
  return permissions.find? fun perm => perm.val.filesystem = fsName && perm.val.group = cgName

/-- Delete the NFS client group with a name if it exists. -/
def deleteClientGroupByName (name : String) : Driver Unit := do
  match ← getClientGroupByName name with
  | none => return ()
  | some group =>
      tryCatch (deleteClientGroup group.uid) fun error =>
        if isNotFound error then pure () else throw error

/-- The addresses a client group matches. DNS rules never match an ip access
rule. -/
def ClientGroup.addresses (group : ClientGroup) : List String :=
  (group.rules.filter fun rule => rule.type = .ip && rule.rule != "").map
    fun rule => normWekaIp rule.rule

/-- Get or create the client group of a rule, with the addresses it matches. -/
def ensureClientGroup (cgName : String) : Driver (Entry ClientGroup × List String) := do
  match ← getClientGroupByName cgName with
  | none =>
      let group ← send .admin (.createClientGroup cgName)
      return (group, [])
  | some group =>
      let detail ← send .admin (.getClientGroup group.uid)
      return (group, detail.val.addresses)

/-- Add an address to a client group that does not match it yet. The address
may be stored in a form not recognised here, so that it exists is no failure. -/
def ensureGroupRule (groupUid : Uid) (wekaIp : String) (existing : List String) : Driver Unit := do
  if normWekaIp wekaIp ∉ existing then
    tryCatch
      (do
        let _ ← send .admin (.addClientGroupRule groupUid .ip wekaIp))
      fun error => if isAlreadyExistsError error then pure () else throw error

/-- Make the permission of a group on a filesystem have the given type. -/
def ensureNfsPermission (fsName cgName : String) (type : PermissionType) : Driver Unit := do
  match ← findNfsPermission fsName cgName with
  | none =>
      let _ ← send .admin (.createNfsPermission cgName fsName "/" type false)
  | some perm =>
      if perm.val.permissionType ≠ type then
        send .admin (.deleteNfsPermission perm.uid)
        let _ ← send .admin (.createNfsPermission cgName fsName "/" type false)

/-- Idempotently apply one NFS ip rule: group, rule, permission. -/
def applyNfsRule (share : Share) (fsName : String) (rule : AccessRule) : Driver Unit := do
  match cidrToWekaIp rule.accessTo with
  | .error _ =>
      throw (.invalidShareAccess ("Weka driver supports IPv4 access rules only; \"" ++
        rule.accessTo ++ "\" is not a valid IPv4 address or network."))
  | .ok wekaIp =>
      let (group, existing) ← ensureClientGroup (nfsCgName share.id rule.accessId)
      ensureGroupRule group.uid wekaIp existing
      ensureNfsPermission fsName (nfsCgName share.id rule.accessId) (nfsType rule.accessLevel)

/-- Delete the permissions of a filesystem whose group name contains a fragment,
collecting the names of their groups. -/
def removeMatchingPermission (fsName fragment : String) (names : List String)
    (perm : Entry NfsPermission) : Driver (List String) := do
  if perm.val.filesystem = fsName ∧ Text.contains perm.val.group fragment then
    send .admin (.deleteNfsPermission perm.uid)
    return if perm.val.group = "" then names else names.insert perm.val.group
  else
    return names

/-- Delete a rule's export permission and its client group: the group name
encodes the rule id. -/
def removeNfsRule (cfg : Config) (fsName : String) (rule : AccessRule) : Driver Unit := do
  let permissions ← send .admin .listNfsPermissions
  let names ← permissions.foldlM (removeMatchingPermission fsName (Text.take rule.accessId 8)) []
  (cfg.iterationOrder names).forM deleteClientGroupByName

/-- Delete a permission on a filesystem, collecting the name of its group. -/
def removePermission (fsName : String) (names : List String) (perm : Entry NfsPermission) :
    Driver (List String) := do
  if perm.val.filesystem = fsName then
    tryCatch (send .admin (.deleteNfsPermission perm.uid)) fun error =>
      if isNotFound error then pure () else throw error
    return if perm.val.group = "" then names else names.insert perm.val.group
  else
    return names

/-- Delete all export permissions and groups for a filesystem. -/
def removeAllNfsPermissions (cfg : Config) (fsName : String) : Driver Unit := do
  let permissions ← send .admin .listNfsPermissions
  let names ← permissions.foldlM (removePermission fsName) []
  (cfg.iterationOrder names).forM deleteClientGroupByName

/-- Delete a permission on a filesystem whose group carries the share's prefix
and is not expected, collecting the name of its group; failures are logged. -/
def prunePermission (fsName front : String) (expected : List String) (names : List String)
    (perm : Entry NfsPermission) : Driver (List String) := do
  if perm.val.filesystem = fsName ∧ Text.startsWith perm.val.group front ∧
      perm.val.group ∉ expected then
    tryCatch
      (do
        send .admin (.deleteNfsPermission perm.uid)
        return names.insert perm.val.group)
      fun _ => pure names
  else
    return names

/-- Full sync: drop permissions and groups no rule backs, driven off this
filesystem's own permissions. -/
def pruneNfsRules (cfg : Config) (share : Share) (fsName : String)
    (expectedRules : List AccessRule) : Driver Unit := do
  let expected := expectedRules.map fun rule => nfsCgName share.id rule.accessId
  let permissions ← send .admin .listNfsPermissions
  let stale ← permissions.foldlM (prunePermission fsName (nfsCgPrefix share.id) expected) []
  (cfg.iterationOrder stale).forM fun cgName =>
    tryCatch (deleteClientGroupByName cgName) fun _ => pure ()

/-- Apply one rule and record its state. Rules of another type are errors, IPv6
rules are ignored, and a failure is recorded without stopping the batch. -/
def addNfsRule (share : Share) (fsName : String) (states : RuleStates) (rule : AccessRule) :
    Driver RuleStates := do
  if rule.accessType ≠ .ip then
    return states.assign rule.accessId ⟨.error, none⟩
  else if isIpv6 rule.accessTo then
    return states
  else
    tryCatch
      (do
        applyNfsRule share fsName rule
        return states.assign rule.accessId ⟨.active, none⟩)
      fun _ => pure (states.assign rule.accessId ⟨.error, none⟩)

/-- Add and delete NFS permissions on the cluster. -/
def updateNfsAccess (cfg : Config) (share : Share) (addRules deleteRules : List AccessRule)
    (fullSync : Bool) : Driver RuleStates := do
  let fsName := cfg.shareName share.id
  let states ← addRules.foldlM (addNfsRule share fsName) []
  deleteRules.forM fun rule => tryCatch (removeNfsRule cfg fsName rule) fun _ => pure ()
  if fullSync then
    pruneNfsRules cfg share fsName addRules
  return states

end WekaShareDriver
