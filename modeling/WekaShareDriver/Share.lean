import WekaShareDriver.Cluster
import WekaShareDriver.Foundation.Dict
import WekaShareDriver.Foundation.Ipv4

/-! # Shares, access rules and the names derived from them

What Manila hands to the driver (shares, snapshots, access rules), the driver's
configuration, and every name and address form the driver computes from them.
Names on the cluster embed shortened ids: a filesystem name is cut to the
cluster's limit, and client groups and per-share policies carry the first eight
characters of the share id.
-/

namespace WekaShareDriver

open Foundation

/-- The protocol of a share, in upper case. -/
inductive ShareProto where
  | wekafs
  | nfs
  | other (name : String)
  deriving DecidableEq, Repr

/-- Manila's access levels. -/
inductive Level where
  | rw
  | ro
  deriving DecidableEq, Repr

namespace Level

/-- The suffix that names a level. -/
def text : Level → String
  | .rw => "rw"
  | .ro => "ro"

/-- The opposite level. -/
def other : Level → Level
  | .rw => .ro
  | .ro => .rw

@[simp] theorem other_other (level : Level) : level.other.other = level := by cases level <;> rfl

/-- The other level is another. -/
theorem other_ne (level : Level) : level.other ≠ level := by cases level <;> decide

/-- A level is this one or the other. -/
theorem eq_or_eq_other (level level' : Level) : level' = level ∨ level' = level.other := by
  cases level <;> cases level' <;> decide

end Level

/-- The kind of client an access rule names. -/
inductive AccessType where
  | ip
  | other (name : String)
  deriving DecidableEq, Repr

structure AccessRule where
  accessId : String
  accessType : AccessType
  accessTo : String
  accessLevel : Level
  deriving DecidableEq, Repr

structure ExportMetadata where
  wekaFsUid : Option Uid
  wekaFsName : Option String
  wekaOrgName : Option String
  wekaOrgUser : Option String
  deriving DecidableEq, Repr

structure ExportLocation where
  path : String
  isAdminOnly : Bool
  metadata : ExportMetadata
  deriving DecidableEq, Repr

structure Share where
  id : String
  size : Nat
  shareProto : ShareProto
  projectId : Option String
  shareTypeId : Option String
  exportLocations : List ExportLocation
  deriving DecidableEq, Repr

/-- A snapshot as Manila models it, with its share. -/
structure ShareSnapshot where
  id : String
  share : Share
  deriving DecidableEq, Repr

/-- The configured CIDRs of the named policy groups: group, then level. -/
abbrev PolicyGroups : Type := Dict String (Dict Level (List String))

/-- The configuration the driver has started with. Start-up refuses an empty
secret. -/
structure Config where
  shareNamePrefix : String
  filesystemGroup : String
  mountPointBase : String
  apiServer : String
  nfsServer : Option String
  numCores : Nat
  netDevice : Option String
  orgPrefix : String
  orgUser : String
  orgAdminSecret : String
  authTokenDir : String
  securityPolicyGroup : Option String
  /-- `hmac.new(secret, message, sha256).hexdigest()` -/
  hmacHexdigest : String → String → String
  /-- The order in which a set of names is iterated. -/
  iterationOrder : List String → List String
  secretSet : orgAdminSecret ≠ ""
  iterationPerm : ∀ names, (iterationOrder names).Perm names

/-! ## Names -/

/-- Filesystem name for a share id, cut to the cluster's 32 characters. -/
def Config.shareName (cfg : Config) (shareId : String) : String :=
  cfg.shareNamePrefix ++ Text.sliceTo (Text.remove shareId '-')
    (32 - (cfg.shareNamePrefix.toList.length : Int))

/-- Snapshot name for a snapshot id, cut to the cluster's 32 characters. -/
def snapshotName (snapshotId : String) : String :=
  "s_" ++ Text.take (Text.remove snapshotId '-') 30

/-- `os.path.join(base, name)`. -/
def pathJoin (base name : String) : String :=
  if name.toList.head? = some '/' ∨ base = "" then name
  else if base.toList.getLast? = some '/' then base ++ name
  else base ++ "/" ++ name

/-- The local mount point directory of a filesystem. -/
def Config.mountPoint (cfg : Config) (fsName : String) : String :=
  pathJoin cfg.mountPointBase fsName

/-- Organization name for a project: the prefix and the project id without
dashes. -/
def Config.orgName (cfg : Config) (projectId : Option String) : String :=
  cfg.orgPrefix ++ Text.remove (projectId.getD "") '-'

/-- A project password derived from the secret; the tag separates the
principals of one project. -/
def Config.derivePassword (cfg : Config) (projectId : Option String) (tag : String) : String :=
  "Wk" ++ Text.take (cfg.hmacHexdigest cfg.orgAdminSecret (projectId.getD "" ++ tag)) 20 ++ "1!"

/-- The password of a project's organization administrator. -/
def Config.orgPassword (cfg : Config) (projectId : Option String) : String :=
  cfg.derivePassword projectId ""

/-- The mount user's password handed to tenants. -/
def Config.orgMountPassword (cfg : Config) (projectId : Option String) : String :=
  cfg.derivePassword projectId ":mount"

/-- The user tenants mount with. -/
def Config.orgMountUser (cfg : Config) : String := cfg.orgUser ++ "-mnt"

/-- Per-share policy name for a level. -/
def wekafsPolicyName (shareId : String) (level : Level) : String :=
  "manila-" ++ Text.take shareId 8 ++ "-" ++ level.text

/-- Prefix of the client group names of a share. -/
def nfsCgPrefix (shareId : String) : String := "manila-" ++ Text.take shareId 8 ++ "-"

/-- Client group name of one rule of a share. -/
def nfsCgName (shareId accessId : String) : String :=
  nfsCgPrefix shareId ++ Text.take accessId 8

/-- Shared policy name of a group at a level. -/
def groupPolicyName (group : String) (level : Level) : String :=
  "manila-grp-" ++ group ++ "-" ++ level.text

/-! ## Addresses -/

/-- The network a rule's target denotes. -/
def network? (text : String) : Option Ipv4.Network := Ipv4.parseNetwork text.toList

/-- An IPv6 address or network. -/
def isIpv6 (accessTo : String) : Bool := Ipv4.isNetworkV6 accessTo.toList

/-- The address with dotted mask that client groups are given, or the
`ValueError` of an unreadable network. -/
def cidrToWekaIp (cidr : String) : Except Error String :=
  if '/' ∉ cidr.toList then .ok cidr
  else match network? cidr with
    | some net => .ok (String.ofList (Ipv4.addressText net.address ++
        '/' :: Ipv4.addressText (Ipv4.netmask net.prefixlen)))
    | none => .error (.value cidr)

/-- Reduce a rule to its network; Weka echoes back address and mask. -/
def normWekaIp (value : String) : String :=
  match network? value with
  | some net => String.ofList (Ipv4.networkText net)
  | none => value

/-- Normalize a target for a policy: prefix length, not mask. -/
def policyIp (accessTo : String) : Except Error String :=
  if '/' ∉ accessTo.toList then .ok accessTo
  else match network? accessTo with
    | some net => .ok (String.ofList (Ipv4.networkText net))
    | none => .error (.value accessTo)

/-! ## Policy groups -/

/-- The level an entry of the policy-group option names. -/
def parseLevel (text : String) : Option Level :=
  if Text.lower (Text.strip text) = "rw" then some .rw
  else if Text.lower (Text.strip text) = "ro" then some .ro
  else none

/-- Extend the CIDR list of a group's level. -/
def PolicyGroups.extend (groups : PolicyGroups) (group : String) (level : Level)
    (ips : List String) : PolicyGroups :=
  let levels := (groups.get? group).getD []
  groups.assign group (levels.assign level ((levels.get? level).getD [] ++ ips))

/-- One entry of the policy-group option; a malformed one is skipped. -/
def parsePolicyGroupEntry (groups : PolicyGroups) (entry : String) : PolicyGroups :=
  match Text.splitOn (Text.strip entry) ':' with
  | [group, level, cidrs] =>
      match parseLevel level with
      | some level =>
          if Text.strip group = "" then groups
          else groups.extend (Text.strip group) level
            (((Text.splitOn cidrs ',').map Text.strip).filter (· ≠ ""))
      | none => groups
  | _ => groups

/-- Parse the policy-group option. -/
def parsePolicyGroups (spec : Option String) : PolicyGroups :=
  match spec with
  | none => []
  | some spec => (Text.splitOn spec ';').foldl parsePolicyGroupEntry []

/-- The configured policy groups. -/
def Config.policyGroups (cfg : Config) : PolicyGroups := parsePolicyGroups cfg.securityPolicyGroup

/-- The share-type extra spec that selects a policy group. -/
def policyGroupSpec : String := "weka:security_policy_group"

/-! ## Capacity -/

/-- Convert a size in GiB to bytes. -/
def gbToBytes (sizeGb : Nat) : Nat := sizeGb * 1073741824

end WekaShareDriver
