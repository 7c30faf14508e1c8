import WekaShareDriver.Access.Nfs
import WekaShareDriver.Session

/-! # WEKAFS access rules

Each ip rule of a WEKAFS share is an address in one of the share's two security
policies, one for each level. A policy is created and attached to the share's
filesystem with its first address and detached and deleted with its last.
-/

namespace WekaShareDriver

open Foundation

/-- The policy group named by the share's type. A type that cannot be read
names none. -/
def sharePolicyGroup (share : Share) : Driver (Option String) :=
  match share.shareTypeId.filter (· ≠ "") with
  | none => pure none
  | some typeId =>
      tryCatch
        (do
          let specs ← onHost (.shareTypeExtraSpecs typeId)
          return (Dict.get? specs policyGroupSpec).filter (· ≠ ""))
        fun _ => pure none

/-- Attach a policy to a filesystem; that it is attached already is no
failure. -/
def attachPolicy (session : Session) (fsUid policyUid : Uid) : Driver Unit :=
  tryCatch (send session (.attachFsSecurityPolicy fsUid policyUid)) fun error =>
    if isAlreadyExistsError error || isAlreadyAttachedError error then pure () else throw error

/-- The policy of a level with the address in it: created with it, or updated
unless the address is listed. -/
def ensurePolicyIp (session : Session) (share : Share) (level : Level) (wekaIp : String)
    (found : Option (Entry SecurityPolicy)) : Driver Uid := do
  match found with
  | none =>
      let policy ← send session (.createSecurityPolicy (wekafsPolicyName share.id level) [wekaIp]
        (level == .ro))
      return policy.uid
  | some policy =>
      if wekaIp ∉ policy.val.ips then
        tryCatch (send session (.updateSecurityPolicy policy.uid [wekaIp] [])) fun error =>
          if isAlreadyExistsError error then pure () else throw error
      return policy.uid

/-- Remove an address from a policy that lists it, returning what is left. -/
def dropPolicyIp (session : Session) (wekaIp : String) (policy : Entry SecurityPolicy) :
    Driver (List String) := do
  if wekaIp ∈ policy.val.ips then
    tryCatch (send session (.updateSecurityPolicy policy.uid [] [wekaIp])) fun error =>
      if isNotFound error then pure () else throw error
    return policy.val.ips.filter (· ≠ wekaIp)
  else
    return policy.val.ips

/-- Detach a policy, whatever the answer, and delete it; that it is gone is no
failure. -/
def retirePolicy (session : Session) (fsUid : Option Uid) (policyUid : Uid) : Driver Unit := do
  match fsUid with
  | some fsUid =>
      tryCatch (send session (.detachFsSecurityPolicy fsUid policyUid)) fun error =>
        if isApiError error then pure () else throw error
  | none => pure ()
  tryCatch (send session (.deleteSecurityPolicy policyUid)) fun error =>
    if isNotFound error then pure () else throw error

/-- Add or remove an address in a per-share level policy: the policy is created
and attached on first use, detached and deleted once its last address is
gone. -/
def policySetIp (session : Session) (share : Share) (fsUid : Option Uid) (level : Level)
    (wekaIp : String) (present : Bool) : Driver Unit := do
  let found ← getSecurityPolicyByName session (wekafsPolicyName share.id level)
  if present then
    let policyUid ← ensurePolicyIp session share level wekaIp found
    match fsUid with
    | some fsUid => attachPolicy session fsUid policyUid
    | none => return ()
  else
    match found with
    | none => return ()
    | some policy =>
        let current ← dropPolicyIp session wekaIp policy
        if current = [] then
          retirePolicy session fsUid policy.uid

/-- Raise the error of a pure computation. -/
def liftExcept {α : Type} : Except Error α → Driver α
  | .ok value => pure value
  | .error error => throw error

/-- Add an ip rule to its level's policy, clearing the other. -/
def applyWekafsRule (session : Session) (share : Share) (fsUid : Option Uid) (rule : AccessRule) :
    Driver Unit := do
  let wekaIp ← liftExcept (policyIp rule.accessTo)
  policySetIp session share fsUid rule.accessLevel wekaIp true
  policySetIp session share fsUid rule.accessLevel.other wekaIp false

/-- Remove an ip rule's address from both per-share policies. -/
def removeWekafsRule (session : Session) (share : Share) (fsUid : Option Uid) (rule : AccessRule) :
    Driver Unit := do
  if rule.accessType ≠ .ip then
    return ()
  else if isIpv6 rule.accessTo then
    return ()
  else
    let wekaIp ← liftExcept (policyIp rule.accessTo)
    policySetIp session share fsUid .rw wekaIp false
    policySetIp session share fsUid .ro wekaIp false

/-- An ip rule that is not ignored as IPv6. -/
def AccessRule.isIpv4 (rule : AccessRule) : Bool :=
  rule.accessType == .ip && !isIpv6 rule.accessTo

/-- The addresses the ip rules expect, each with its level. -/
def expectedIps (rules : List AccessRule) : Except Error (List (Level × String)) :=
  (rules.filter AccessRule.isIpv4).mapM fun rule =>
    (policyIp rule.accessTo).map fun ip => (rule.accessLevel, ip)

/-- Drop the addresses of one level's policy that no rule expects; failures are
logged. -/
def pruneLevel (session : Session) (share : Share) (fsUid : Option Uid)
    (expected : List (Level × String)) (level : Level) : Driver Unit := do
  match ← getSecurityPolicyByName session (wekafsPolicyName share.id level) with
  | none => return ()
  | some policy =>
      policy.val.ips.forM fun wekaIp =>
        if (level, wekaIp) ∈ expected then pure ()
        else tryCatch (policySetIp session share fsUid level wekaIp false) fun _ => pure ()

/-- Full sync: drop per-share policy addresses no ip rule backs. -/
def pruneWekafsRules (session : Session) (share : Share) (fsUid : Option Uid)
    (expectedRules : List AccessRule) : Driver Unit := do
  let expected ← liftExcept (expectedIps expectedRules)
  pruneLevel session share fsUid expected .rw
  pruneLevel session share fsUid expected .ro

/-- Apply one rule and record its state. Rules of another type grant the mount
credential without a policy, IPv6 rules are ignored, and a failure is recorded
without stopping the batch. -/
def addWekafsRule (session : Session) (share : Share) (fsUid : Option Uid) (mountPassword : String)
    (states : RuleStates) (rule : AccessRule) : Driver RuleStates := do
  if rule.accessType ≠ .ip then
    return states.assign rule.accessId ⟨.active, some mountPassword⟩
  else if isIpv6 rule.accessTo then
    return states
  else
    tryCatch
      (do
        applyWekafsRule session share fsUid rule
        return states.assign rule.accessId ⟨.active, some mountPassword⟩)
      fun _ => pure (states.assign rule.accessId ⟨.error, none⟩)

/-- Create the mount user shared by the project's shares; it usually exists
already. -/
def ensureMountUser (cfg : Config) (session : Session) (mountPassword : String) : Driver Unit :=
  tryCatch (send session (.createUser cfg.orgMountUser "Regular" mountPassword)) fun error =>
    if isAlreadyExistsError error then pure () else throw error

/-- The reconciliation of the per-share policies. -/
def updateWekafsPolicies (session : Session) (share : Share) (fsUid : Option Uid)
    (mountPassword : String) (addRules deleteRules : List AccessRule) (fullSync : Bool) :
    Driver RuleStates := do
  let states ← addRules.foldlM (addWekafsRule session share fsUid mountPassword) []
  deleteRules.forM fun rule =>
    tryCatch (removeWekafsRule session share fsUid rule) fun _ => pure ()
  if fullSync then
    pruneWekafsRules session share fsUid addRules
  return states

/-- The share's filesystem, where a policy can be attached to it or detached
from it: by an ip rule, or by a full sync. -/
def findPolicyFilesystem (cfg : Config) (session : Session) (share : Share)
    (addRules deleteRules : List AccessRule) (fullSync : Bool) :
    Driver (Option (Entry Filesystem)) :=
  let ipWork := (addRules ++ deleteRules).any fun rule => rule.accessType = .ip
  if ipWork || fullSync then getFilesystemByName session (cfg.shareName share.id) else pure none

/-- Apply WEKAFS rules as per-share security policies. A share whose type
selects a policy group is governed by the group's policies, and its rules are
accepted as they are. -/
def updateWekafsAccess (cfg : Config) (share : Share) (addRules deleteRules : List AccessRule)
    (fullSync : Bool) : Driver RuleStates := do
  let session ← orgClient cfg share.projectId
  let mountPassword := cfg.orgMountPassword share.projectId
  (if addRules ≠ [] then ensureMountUser cfg session mountPassword else pure ())
  match ← sharePolicyGroup share with
  | some _ =>
      return addRules.foldl
        (fun states rule => states.assign rule.accessId ⟨.active, some mountPassword⟩) []
  | none =>
      let fs ← findPolicyFilesystem cfg session share addRules deleteRules fullSync
      updateWekafsPolicies session share (fs.map Entry.uid) mountPassword addRules deleteRules
        fullSync

/-- Update access rules. A full sync, with nothing to add, delete or update,
applies every rule and prunes what no rule backs. -/
def updateAccess (cfg : Config) (share : Share)
    (accessRules addRules deleteRules updateRules : List AccessRule) : Driver RuleStates :=
  let fullSync := addRules.isEmpty && deleteRules.isEmpty && updateRules.isEmpty
  let applyRules := (if fullSync then accessRules else addRules) ++ updateRules
  if share.shareProto = .nfs then updateNfsAccess cfg share applyRules deleteRules fullSync
  else updateWekafsAccess cfg share applyRules deleteRules fullSync

end WekaShareDriver
