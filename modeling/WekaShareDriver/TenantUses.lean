import WekaShareDriver.Access.NfsUses
import WekaShareDriver.Access.WekafsUses
import WekaShareDriver.CopyUses

/-! # The requests of an operation on one session

Once the session of a share is open, its operations use the host and send requests
on that session only: about filesystems, snapshots, users and policies on any
session, about client groups and permissions on the administrator's. A filesystem
is created with authorization required exactly on a tenant's session
(`WekaShareDriver.TenantOp`).
-/

namespace WekaShareDriver

open Foundation Program

/-- The requests sent on the session of a share. -/
def Request.onSession (session : Session) : Request → Bool
  | .listOrganizations => false
  | .createOrganization .. => false
  | .createFilesystem _ _ _ authRequired => authRequired == (session != .admin)
  | .listClientGroups => session == .admin
  | .getClientGroup _ => session == .admin
  | .createClientGroup _ => session == .admin
  | .addClientGroupRule .. => session == .admin
  | .deleteClientGroupRule .. => session == .admin
  | .deleteClientGroup _ => session == .admin
  | .listNfsPermissions => session == .admin
  | .createNfsPermission .. => session == .admin
  | .deleteNfsPermission _ => session == .admin
  | _ => true

/-- An operation of the host, or a request on the session of a share. -/
def TenantOp (session : Session) (op : Op) : Prop :=
  HostOp op ∨ ∃ request, op = .api session request ∧ request.onSession session = true

variable {cfg : Config} {share : Share} {session : Session}

private theorem TenantOp.of_policy {op : Op} (policy : PolicyOp session op) :
    TenantOp session op := by
  obtain ⟨request, rfl, about⟩ := policy
  refine Or.inr ⟨request, rfl, ?_⟩
  cases request with
  | listSecurityPolicies | createSecurityPolicy name ips readOnly
    | updateSecurityPolicy uid addIps removeIps | deleteSecurityPolicy uid
    | attachFsSecurityPolicy fsUid policyUid | detachFsSecurityPolicy fsUid policyUid => rfl
  | _ => cases about

/-- A request about exports is one of the administrator's. -/
theorem TenantOp.of_exports {fsName : String} {targets : Uid → Prop} {op : Op}
    (exports : ExportOp fsName targets op) : TenantOp .admin op := by
  obtain ⟨request, rfl, about⟩ := exports
  refine Or.inr ⟨request, rfl, ?_⟩
  cases request with
  | listClientGroups | getClientGroup uid | createClientGroup name
    | addClientGroupRule uid type value | deleteClientGroupRule uid ruleUid | deleteClientGroup uid
    | listNfsPermissions | createNfsPermission group filesystem path type squash
    | deleteNfsPermission uid => rfl
  | _ => exact about.elim

/-- A program that asks the host only stays on the session. -/
theorem uses_tenant_of_host {α : Type} {program : Driver α} (uses : program.Uses HostOp) :
    program.Uses (TenantOp session) :=
  uses.mono fun _ => Or.inl

/-- A program that asks for policies on the session stays on it. -/
theorem uses_tenant_of_policy {α : Type} {program : Driver α}
    (uses : program.Uses (PolicyOp session)) : program.Uses (TenantOp session) :=
  uses.mono fun _ => TenantOp.of_policy

/-- A request of the session stays on it. -/
theorem uses_onSession {request : Request} (on : request.onSession session = true) :
    (send session request).Uses (TenantOp session) :=
  uses_perform (Or.inr ⟨request, rfl, on⟩)

/-- A call of the host stays on the session. -/
theorem uses_onHost {call : HostCall} (host : HostOp (.host call)) :
    (onHost call).Uses (TenantOp session) :=
  uses_perform (Or.inl host)

/-! ## Filesystems -/

private theorem lists_getFilesystemByName (name : String) :
    (getFilesystemByName session name).Uses (· = .api session .listFilesystems) :=
  .bind (uses_perform rfl) fun _ => trivial

/-- A share's filesystem is found by listing filesystems only. -/
theorem lists_getFsUidForShare :
    (getFsUidForShare cfg session share).Uses (· = .api session .listFilesystems) := by
  have located (locations : List ExportLocation) :
      (findByExportPaths session locations).Uses (· = .api session .listFilesystems) := by
    induction locations with
    | nil => trivial
    | cons loc rest ih =>
        refine .ite (fun _ => ih) fun _ => .bind (lists_getFilesystemByName _) fun found => ?_
        cases found with
        | some fs => trivial
        | none => exact ih
  unfold getFsUidForShare
  cases share.exportLocations.findSome? fun loc => loc.metadata.wekaFsUid with
  | some uid => trivial
  | none =>
      refine .bind (lists_getFilesystemByName _) fun found => ?_
      cases found with
      | some fs => trivial
      | none =>
          refine .bind (located _) fun located => ?_
          cases located <;> trivial

private theorem tenantOp_of_lists {op : Op} (lists : op = .api session .listFilesystems) :
    TenantOp session op :=
  Or.inr ⟨_, lists, rfl⟩

/-- Looking a filesystem up stays on the session. -/
theorem uses_tenant_getFilesystemByName (name : String) :
    (getFilesystemByName session name).Uses (TenantOp session) :=
  (lists_getFilesystemByName name).mono fun _ => tenantOp_of_lists

/-- Finding the filesystem of a share stays on the session. -/
theorem uses_getFsUidForShare : (getFsUidForShare cfg session share).Uses (TenantOp session) :=
  lists_getFsUidForShare.mono fun _ => tenantOp_of_lists

/-- Creating a filesystem stays on the session, if it is authorized exactly on a tenant's. -/
theorem uses_tenant_createFilesystemIdempotent {authRequired : Bool}
    (authorized : authRequired = (session != .admin)) (fsName groupName : String)
    (sizeBytes : Nat) :
    (createFilesystemIdempotent session fsName groupName sizeBytes authRequired).Uses
      (TenantOp session) := by
  have create : (send session (.createFilesystem fsName groupName sizeBytes authRequired)).Uses
      (TenantOp session) := by
    apply uses_onSession
    rw [authorized]
    exact beq_self_eq_true _
  refine .bind (uses_tenant_getFilesystemByName _) fun found => ?_
  cases found with
  | some fs => trivial
  | none =>
      refine .tryCatch create fun error => ?_
      cases error with
      | api error =>
          refine .ite (fun _ => .bind (uses_tenant_getFilesystemByName _) fun found => ?_)
            fun _ => trivial
          cases found <;> trivial
      | _ => trivial

/-- Deleting a filesystem stays on the session. -/
theorem uses_deleteFilesystem (fsUid : Uid) :
    (tryCatch (send session (.deleteFilesystem fsUid)) fun error =>
      if isNotFound error then pure () else throw error : Driver Unit).Uses (TenantOp session) :=
  .tryCatch (uses_onSession rfl) fun _ => .ite (fun _ => trivial) fun _ => trivial

/-! ## Snapshots -/

/-- Looking a snapshot up stays on the session. -/
theorem uses_getSnapshotByName (name : String) (fsUid : Option Uid) :
    (getSnapshotByName session name fsUid).Uses (TenantOp session) :=
  .bind (uses_onSession rfl) fun _ => by cases fsUid <;> trivial

/-! ## Policies and users -/

/-- Reading the group of a share type asks the host only. -/
theorem uses_sharePolicyGroup : (sharePolicyGroup share).Uses HostOp := by
  unfold sharePolicyGroup
  cases share.shareTypeId.filter (· ≠ "") with
  | none => trivial
  | some typeId =>
      exact .tryCatch (.bind (uses_perform trivial) fun _ => trivial) fun _ => trivial

/-- Joining a group's policy makes requests about policies only. -/
theorem uses_ensureGroupPolicy (fsUid : Uid) (group : String) (level : Level) (ips : List String) :
    (ensureGroupPolicy session fsUid group level ips).Uses (PolicyOp session) := by
  refine .ite (fun _ => .bind (uses_getSecurityPolicyByName _) fun found => ?_) fun _ => trivial
  cases found with
  | some policy => exact uses_attachPolicy _ _
  | none => exact .bind (uses_policyRequest rfl) fun _ => uses_attachPolicy _ _

/-- Removing the policies of a share makes requests about policies only. -/
theorem uses_cleanupWekafsPolicies (fsUid : Uid) :
    (cleanupWekafsPolicies session share fsUid).Uses (PolicyOp session) := by
  refine .forM fun level _ => .bind (.tryCatch (uses_getSecurityPolicyByName _) fun _ => trivial)
    fun found => ?_
  cases found with
  | none => trivial
  | some policy =>
      exact .bind (.tryCatch (uses_policyRequest rfl) fun _ => trivial) fun _ =>
        .tryCatch (uses_policyRequest rfl) fun _ => trivial

/-- Making the mount user stays on the session. -/
theorem uses_ensureMountUser (password : String) :
    (ensureMountUser cfg session password).Uses (TenantOp session) :=
  .tryCatch (uses_onSession rfl) fun _ => .ite (fun _ => trivial) fun _ => trivial

/-- Finding the filesystem for an update stays on the session. -/
theorem uses_findPolicyFilesystem (addRules deleteRules : List AccessRule) (fullSync : Bool) :
    (findPolicyFilesystem cfg session share addRules deleteRules fullSync).Uses
      (TenantOp session) :=
  .ite (fun _ => uses_tenant_getFilesystemByName _) fun _ => trivial

end WekaShareDriver
