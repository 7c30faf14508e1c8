import WekaShareDriver.Error
import WekaShareDriver.Foundation.Registry

/-! # The Weka cluster

The objects of the cluster the driver works with, and what each REST request
does to them. Names are unique where the cluster answers a second creation with
a conflict: organizations and client groups by name, users, filesystems and
security policies by name within the session's organization, snapshots by name
within a filesystem, NFS permissions by filesystem, group and path.

Filesystems, snapshots, users and security policies belong to the organization
of the session that created them and are invisible to every other session
(`WekaShareDriver.Cluster.answer`). Client groups and NFS permissions exist for
the administrator's session only.
-/

namespace WekaShareDriver

open Foundation

/-- A server-issued identifier. -/
abbrev Uid : Type := Nat

/-- The organization an API session is logged in to. -/
inductive Session where
  | admin
  | org (name : String)
  deriving DecidableEq, Repr

/-- An organization, with the administrator it was created with. -/
structure Organization where
  name : String
  username : String
  password : String
  deriving DecidableEq

structure User where
  org : Session
  username : String
  role : String
  password : String
  deriving DecidableEq

structure Filesystem where
  org : Session
  name : String
  groupName : String
  totalCapacity : Nat
  usedTotal : Nat
  authRequired : Bool
  deriving DecidableEq

structure Snapshot where
  org : Session
  name : String
  filesystemUid : Uid
  isWritable : Bool
  accessPoint : String
  deriving DecidableEq

/-- A security policy of an organization, with the filesystems it is attached
to. -/
structure SecurityPolicy where
  org : Session
  name : String
  ips : List String
  readOnly : Bool
  attached : List Uid
  deriving DecidableEq

inductive GroupRuleType where
  | ip
  | dns
  deriving DecidableEq, Repr

/-- One rule of an NFS client group, as the cluster reports it. -/
structure GroupRule where
  uid : Uid
  type : GroupRuleType
  rule : String
  deriving DecidableEq

structure ClientGroup where
  name : String
  rules : List GroupRule
  deriving DecidableEq

inductive PermissionType where
  | rw
  | ro
  deriving DecidableEq, Repr

/-- An NFS export of a filesystem, by name, to a client group, by name. -/
structure NfsPermission where
  filesystem : String
  group : String
  path : String
  permissionType : PermissionType
  rootSquashing : Bool
  deriving DecidableEq

instance : Keyed Organization String := ⟨Organization.name⟩
instance : Keyed User (Session × String) := ⟨fun user => (user.org, user.username)⟩
instance : Keyed Filesystem (Session × String) := ⟨fun fs => (fs.org, fs.name)⟩
instance : Keyed Snapshot (Uid × String) := ⟨fun snap => (snap.filesystemUid, snap.name)⟩
instance : Keyed SecurityPolicy (Session × String) := ⟨fun policy => (policy.org, policy.name)⟩
instance : Keyed ClientGroup String := ⟨ClientGroup.name⟩
instance : Keyed NfsPermission (String × String × String) :=
  ⟨fun permission => (permission.filesystem, permission.group, permission.path)⟩

/-- The state of the cluster. -/
structure Cluster where
  organizations : Registry Organization
  users : Registry User
  filesystems : Registry Filesystem
  snapshots : Registry Snapshot
  policies : Registry SecurityPolicy
  clientGroups : Registry ClientGroup
  permissions : Registry NfsPermission

/-- A cluster without any object. -/
def Cluster.empty : Cluster :=
  ⟨.empty, .empty, .empty, .empty, .empty, .empty, .empty⟩

/-- The requests of the REST client. -/
inductive Request where
  | listOrganizations
  | createOrganization (name username password : String)
  | createUser (username role password : String)
  | listFilesystems
  | getFilesystem (uid : Uid)
  | createFilesystem (name groupName : String) (totalCapacity : Nat) (authRequired : Bool)
  | updateFilesystem (uid : Uid) (totalCapacity : Nat)
  | deleteFilesystem (uid : Uid)
  | listSnapshots
  | createSnapshot (fsUid : Uid) (name : String) (isWritable : Bool)
  | deleteSnapshot (uid : Uid)
  | restoreSnapshot (uid fsUid : Uid)
  | listSecurityPolicies
  | createSecurityPolicy (name : String) (ips : List String) (readOnly : Bool)
  | updateSecurityPolicy (uid : Uid) (addIps removeIps : List String)
  | deleteSecurityPolicy (uid : Uid)
  | attachFsSecurityPolicy (fsUid policyUid : Uid)
  | detachFsSecurityPolicy (fsUid policyUid : Uid)
  | listClientGroups
  | getClientGroup (uid : Uid)
  | createClientGroup (name : String)
  | addClientGroupRule (uid : Uid) (type : GroupRuleType) (value : String)
  | deleteClientGroupRule (uid ruleUid : Uid)
  | deleteClientGroup (uid : Uid)
  | listNfsPermissions
  | createNfsPermission (group filesystem path : String) (permissionType : PermissionType)
      (squash : Bool)
  | deleteNfsPermission (uid : Uid)
  deriving DecidableEq

/-- What a request is answered with when it succeeds. -/
@[reducible] def Request.Reply : Request → Type
  | .listOrganizations => List (Entry Organization)
  | .createOrganization .. => Entry Organization
  | .listFilesystems => List (Entry Filesystem)
  | .getFilesystem _ => Entry Filesystem
  | .createFilesystem .. => Entry Filesystem
  | .listSnapshots => List (Entry Snapshot)
  | .createSnapshot .. => Entry Snapshot
  | .listSecurityPolicies => List (Entry SecurityPolicy)
  | .createSecurityPolicy .. => Entry SecurityPolicy
  | .listClientGroups => List (Entry ClientGroup)
  | .getClientGroup _ => Entry ClientGroup
  | .createClientGroup _ => Entry ClientGroup
  | .addClientGroupRule .. => GroupRule
  | .listNfsPermissions => List (Entry NfsPermission)
  | .createNfsPermission .. => Entry NfsPermission
  | _ => Unit

/-- The requests sent as a POST that creates something. -/
def Request.isCreate : Request → Bool
  | .createOrganization .. => true
  | .createUser .. => true
  | .createFilesystem .. => true
  | .createSnapshot .. => true
  | .createSecurityPolicy .. => true
  | .attachFsSecurityPolicy .. => true
  | .createClientGroup _ => true
  | .addClientGroupRule .. => true
  | .createNfsPermission .. => true
  | _ => false

/-- A group rule as the cluster stores it: a bare address with its full mask. -/
def storedRule (value : String) : String :=
  if '/' ∈ value.toList then value else value ++ "/255.255.255.255"

/-- Attach a policy to one more filesystem. -/
def SecurityPolicy.attach (policy : SecurityPolicy) (fsUid : Uid) : SecurityPolicy :=
  { policy with attached := policy.attached ++ [fsUid] }

/-- Detach a policy from a filesystem. -/
def SecurityPolicy.detach (policy : SecurityPolicy) (fsUid : Uid) : SecurityPolicy :=
  { policy with attached := policy.attached.filter (· != fsUid) }

/-- Add the addresses not yet listed, then remove the others. -/
def SecurityPolicy.update (policy : SecurityPolicy) (addIps removeIps : List String) :
    SecurityPolicy :=
  { policy with
    ips := (policy.ips ++ addIps.filter (· ∉ policy.ips)).filter (· ∉ removeIps) }

/-- Add a rule under a uid free in the group. -/
def ClientGroup.addRule (group : ClientGroup) (type : GroupRuleType) (value : String) :
    ClientGroup :=
  { group with rules := group.rules ++
      [⟨(group.rules.map GroupRule.uid).foldr (fun uid next => max (uid + 1) next) 0, type, value⟩] }

def ClientGroup.deleteRule (group : ClientGroup) (ruleUid : Uid) : ClientGroup :=
  { group with rules := group.rules.filter fun rule => rule.uid != ruleUid }

namespace Cluster

/-- The record of a registry under a uid, if it satisfies the session's claim to
it. -/
def owned {ρ κ : Type} [Keyed ρ κ] (registry : Registry ρ) (uid : Uid) (visible : ρ → Bool) :
    Option (Entry ρ) :=
  (registry.get? uid).filter fun entry => visible entry.val

/-- Create a record, unless its key is taken. -/
def create {ρ κ : Type} [Keyed ρ κ] [DecidableEq κ] (registry : Registry ρ) (val : ρ)
    (taken : WekaApiError) : Except WekaApiError (Entry ρ) × Registry ρ :=
  match registry.find? (Keyed.key val) with
  | some _ => (.error taken, registry)
  | none => (.ok ⟨registry.next, val⟩, registry.insert val)

/-- What a session's request is answered, and the cluster it leaves. -/
def answer (session : Session) :
    (request : Request) → Cluster → Except WekaApiError request.Reply × Cluster
  | .listOrganizations, cluster => (.ok cluster.organizations.rows, cluster)
  | .createOrganization name username password, cluster =>
      let (reply, organizations) := create cluster.organizations ⟨name, username, password⟩
        (.conflict "/organizations: already exists")
      (reply, { cluster with organizations })
  | .createUser username role password, cluster =>
      let (reply, users) := create cluster.users ⟨session, username, role, password⟩
        (.generic 400 "/users: username already in use")
      (reply.map fun _ => (), { cluster with users })
  | .listFilesystems, cluster =>
      (.ok (cluster.filesystems.rows.filter fun entry => entry.val.org = session), cluster)
  | .getFilesystem uid, cluster =>
      match owned cluster.filesystems uid fun fs => fs.org = session with
      | some entry => (.ok entry, cluster)
      | none => (.error (.notFound "/fileSystems"), cluster)
  | .createFilesystem name groupName totalCapacity authRequired, cluster =>
      let (reply, filesystems) := create cluster.filesystems
        ⟨session, name, groupName, totalCapacity, 0, authRequired⟩
        (.conflict "/fileSystems: already exists")
      (reply, { cluster with filesystems })
  | .updateFilesystem uid totalCapacity, cluster =>
      match owned cluster.filesystems uid fun fs => fs.org = session with
      | some entry => (.ok (), { cluster with
          filesystems := cluster.filesystems.modify entry.uid
            (fun fs => { fs with totalCapacity }) fun _ => rfl })
      | none => (.error (.notFound "/fileSystems"), cluster)
  | .deleteFilesystem uid, cluster =>
      match owned cluster.filesystems uid fun fs => fs.org = session with
      | some entry => (.ok (), { cluster with
          filesystems := cluster.filesystems.erase entry.uid
          snapshots := cluster.snapshots.filter fun snap => snap.val.filesystemUid != entry.uid
          policies := cluster.policies.modifyAll (fun policy => policy.detach entry.uid)
            fun _ => rfl })
      | none => (.error (.notFound "/fileSystems"), cluster)
  | .listSnapshots, cluster =>
      (.ok (cluster.snapshots.rows.filter fun entry => entry.val.org = session), cluster)
  | .createSnapshot fsUid name isWritable, cluster =>
      match owned cluster.filesystems fsUid fun fs => fs.org = session with
      | some entry =>
          let (reply, snapshots) := create cluster.snapshots
            ⟨session, name, entry.uid, isWritable, name⟩ (.conflict "/snapshots: already exists")
          (reply, { cluster with snapshots })
      | none => (.error (.notFound "/snapshots"), cluster)
  | .deleteSnapshot uid, cluster =>
      match owned cluster.snapshots uid fun snap => snap.org = session with
      | some entry => (.ok (), { cluster with snapshots := cluster.snapshots.erase entry.uid })
      | none => (.error (.notFound "/snapshots"), cluster)
  | .restoreSnapshot uid fsUid, cluster =>
      match owned cluster.snapshots uid fun snap => snap.org = session,
          owned cluster.filesystems fsUid fun fs => fs.org = session with
      | some _, some _ => (.ok (), cluster)
      | _, _ => (.error (.notFound "/snapshots"), cluster)
  | .listSecurityPolicies, cluster =>
      (.ok (cluster.policies.rows.filter fun entry => entry.val.org = session), cluster)
  | .createSecurityPolicy name ips readOnly, cluster =>
      let (reply, policies) := create cluster.policies ⟨session, name, ips, readOnly, []⟩
        (.conflict "/security/policies: already exists")
      (reply, { cluster with policies })
  | .updateSecurityPolicy uid addIps removeIps, cluster =>
      match owned cluster.policies uid fun policy => policy.org = session with
      | some entry => (.ok (), { cluster with
          policies := cluster.policies.modify entry.uid
            (fun policy => policy.update addIps removeIps) fun _ => rfl })
      | none => (.error (.notFound "/security/policies"), cluster)
  | .deleteSecurityPolicy uid, cluster =>
      match owned cluster.policies uid fun policy => policy.org = session with
      | some entry => (.ok (), { cluster with policies := cluster.policies.erase entry.uid })
      | none => (.error (.notFound "/security/policies"), cluster)
  | .attachFsSecurityPolicy fsUid policyUid, cluster =>
      match owned cluster.policies policyUid fun policy => policy.org = session with
      | some entry =>
          if fsUid ∈ entry.val.attached then
            (.error (.generic 500 "/fileSystems: security policy already present"), cluster)
          else (.ok (), { cluster with
            policies := cluster.policies.modify entry.uid (fun policy => policy.attach fsUid)
              fun _ => rfl })
      | none => (.error (.notFound "/fileSystems"), cluster)
  | .detachFsSecurityPolicy fsUid policyUid, cluster =>
      match owned cluster.policies policyUid fun policy => policy.org = session with
      | some entry => (.ok (), { cluster with
          policies := cluster.policies.modify entry.uid (fun policy => policy.detach fsUid)
            fun _ => rfl })
      | none => (.error (.notFound "/fileSystems"), cluster)
  | .listClientGroups, cluster => (.ok cluster.clientGroups.rows, cluster)
  | .getClientGroup uid, cluster =>
      match cluster.clientGroups.get? uid with
      | some entry => (.ok entry, cluster)
      | none => (.error (.notFound "/nfs/clientGroups"), cluster)
  | .createClientGroup name, cluster =>
      let (reply, clientGroups) := create cluster.clientGroups ⟨name, []⟩
        (.conflict "/nfs/clientGroups: already exists")
      (reply, { cluster with clientGroups })
  | .addClientGroupRule uid type value, cluster =>
      match cluster.clientGroups.get? uid with
      | some entry =>
          if ∃ rule ∈ entry.val.rules, rule.type = type ∧ rule.rule = storedRule value then
            (.error (.generic 400 "/nfs/clientGroups: rule already exists"), cluster)
          else
            (.ok ⟨(entry.val.rules.map GroupRule.uid).foldr (fun uid next => max (uid + 1) next) 0,
                type, storedRule value⟩,
              { cluster with
                clientGroups := cluster.clientGroups.modify entry.uid
                  (fun group => group.addRule type (storedRule value)) fun _ => rfl })
      | none => (.error (.notFound "/nfs/clientGroups"), cluster)
  | .deleteClientGroupRule uid ruleUid, cluster =>
      match cluster.clientGroups.get? uid with
      | some entry => (.ok (), { cluster with
          clientGroups := cluster.clientGroups.modify entry.uid
            (fun group => group.deleteRule ruleUid) fun _ => rfl })
      | none => (.error (.notFound "/nfs/clientGroups"), cluster)
  | .deleteClientGroup uid, cluster =>
      match cluster.clientGroups.get? uid with
      | some entry =>
          -- Weka rejects the delete while any rule remains.
          if entry.val.rules = [] then
            (.ok (), { cluster with clientGroups := cluster.clientGroups.erase entry.uid })
          else (.error (.generic 400 "/nfs/clientGroups: group has rules"), cluster)
      | none => (.error (.notFound "/nfs/clientGroups"), cluster)
  | .listNfsPermissions, cluster => (.ok cluster.permissions.rows, cluster)
  | .createNfsPermission group filesystem path permissionType squash, cluster =>
      let (reply, permissions) := create cluster.permissions
        ⟨filesystem, group, path, permissionType, squash⟩
        (.conflict "/nfs/permissions: already exists")
      (reply, { cluster with permissions })
  | .deleteNfsPermission uid, cluster =>
      match cluster.permissions.get? uid with
      | some entry => (.ok (), { cluster with permissions := cluster.permissions.erase entry.uid })
      | none => (.error (.notFound "/nfs/permissions"), cluster)

/-- Log a user in to an organization: only the administrator it was created
with gets a session. -/
def login (org username password : String) (cluster : Cluster) : Except WekaApiError Session :=
  match cluster.organizations.find? org with
  | some entry =>
      if entry.val.username = username ∧ entry.val.password = password then .ok (.org org)
      else .error (.auth "/login")
  | none => .error (.auth "/login")

end Cluster

end WekaShareDriver
