import WekaShareDriver.Foundation.Obeys
import WekaShareDriver.Snapshots

/-! # Operations that only set up

Mounting, copying and verifying use operations of the host
(`WekaShareDriver.HostOp`); opening a project's session adds logins and requests
about organizations, and looking filesystems up their list
(`WekaShareDriver.SetupOp`). None of them changes what a share is made of.
-/

namespace WekaShareDriver

open Foundation Program

/-- An operation of the host, except to cache a session. -/
def HostOp : Op → Prop
  | .host (.orgClientPut ..) => False
  | .host _ => True
  | _ => False

/-- An operation of the host on mounts, directories or files. -/
def MountOp : Op → Prop
  | .host .readProcMounts => True
  | .host (.ensureMountPointDir _) => True
  | .host (.wekafsMount ..) => True
  | .host (.nfsMount ..) => True
  | .host (.umount ..) => True
  | .host (.rsync ..) => True
  | .host (.mkdtemp _) => True
  | .host (.rmdir _) => True
  | .host (.localIp _) => True
  | .host (.writeTokenFile ..) => True
  | _ => False

/-- An operation of the host, a login, or a request about organizations or the list
of filesystems. -/
def SetupOp : Op → Prop
  | .api _ .listOrganizations => True
  | .api _ (.createOrganization ..) => True
  | .api _ .listFilesystems => True
  | .api _ _ => False
  | .login .. => True
  | .host _ => True

/-- An operation that opens a session: a lookup or creation of an organization, a
login, or the cache of sessions. -/
def OpenOp : Op → Prop
  | .api .admin .listOrganizations => True
  | .api .admin (.createOrganization ..) => True
  | .api _ _ => False
  | .login .. => True
  | .host (.orgClientGet _) => True
  | .host (.orgClientPut ..) => True
  | .host _ => False

variable {cfg : Config} {fault : Fault} {w t : World}

/-- An operation that opens a session sets up. -/
theorem OpenOp.setup {op : Op} (opens : OpenOp op) : SetupOp op := by
  cases op with
  | api session request =>
      cases request with
      | listOrganizations | createOrganization name username password => trivial
      | _ => cases session <;> exact opens.elim
  | login org username password => trivial
  | host call => trivial

/-- An operation on mounts is one of the host. -/
theorem MountOp.host {op : Op} (mounts : MountOp op) : HostOp op := by
  cases op with
  | host call =>
      cases call with
      | orgClientPut projectId session => exact mounts.elim
      | _ => trivial
  | _ => exact mounts.elim

/-- An operation of the host sets up. -/
theorem HostOp.setup {op : Op} (host : HostOp op) : SetupOp op := by
  cases op with
  | host call => trivial
  | _ => exact host.elim

/-- An operation of the host leaves the cluster and the cached sessions alone. -/
theorem HostOp.kept {op : Op} {answer : Except Error op.Res} (host : HostOp op)
    (answered : service fault w op answer t) :
    t.cluster = w.cluster ∧ t.host.orgClients = w.host.orgClients := by
  rcases answered with equal | ⟨_, _, _, rfl⟩
  · have final : t = (respond op w).2 := (congrArg Prod.snd equal).symm
    subst final
    cases op with
    | host call =>
        refine ⟨rfl, ?_⟩
        cases call with
        | orgClientPut projectId session => exact host.elim
        | shareTypeExtraSpecs typeId | umount mountPoint force | rmdir path =>
            simp only [respond, Host.answer]
            split <;> rfl
        | _ => rfl
    | _ => exact host.elim
  · exact ⟨rfl, rfl⟩

/-- Setting up leaves the filesystems alone. -/
theorem SetupOp.filesystems {op : Op} {answer : Except Error op.Res} (setup : SetupOp op)
    (answered : service fault w op answer t) :
    t.cluster.filesystems = w.cluster.filesystems := by
  rcases answered with equal | ⟨_, _, _, rfl⟩
  · have final : t = (respond op w).2 := (congrArg Prod.snd equal).symm
    subst final
    cases op with
    | api session request =>
        cases request with
        | listOrganizations | createOrganization name username password | listFilesystems => rfl
        | _ => exact setup.elim
    | login org username password => rfl
    | host call => rfl
  · rfl

/-! ## The host -/

private theorem mounts_isMounted (mountPoint : String) : (isMounted mountPoint).Uses MountOp := by
  refine .tryCatch (.bind (uses_perform trivial) fun _ => trivial) fun error => ?_
  cases error <;> trivial

/-- Mounting asks for operations on mounts only. -/
theorem mounts_mount (mnt : WekaMount) : mnt.mount.Uses MountOp := by
  refine .bind (mounts_isMounted _) fun mounted => .ite (fun _ => trivial) fun _ => ?_
  refine .bind (.tryCatch (uses_perform trivial) fun error => ?_) fun _ =>
    .tryCatch (uses_perform trivial) fun error => ?_
  · cases error <;> trivial
  · cases error <;> trivial

/-- Unmounting asks for operations on mounts only. -/
theorem mounts_unmount (mnt : WekaMount) (force : Bool) : (mnt.unmount force).Uses MountOp := by
  refine .bind (mounts_isMounted _) fun mounted => .ite (fun _ => ?_) fun _ => trivial
  refine .tryCatch (uses_perform trivial) fun error => ?_
  cases error <;> trivial

/-- Looking for a mount point asks the host only. -/
theorem uses_isMounted (mountPoint : String) : (isMounted mountPoint).Uses HostOp :=
  (mounts_isMounted mountPoint).mono fun _ => MountOp.host

/-- Mounting asks the host only. -/
theorem uses_mount (mnt : WekaMount) : mnt.mount.Uses HostOp :=
  (mounts_mount mnt).mono fun _ => MountOp.host

/-- Unmounting asks the host only. -/
theorem uses_unmount (mnt : WekaMount) (force : Bool) : (mnt.unmount force).Uses HostOp :=
  (mounts_unmount mnt force).mono fun _ => MountOp.host

/-- A program that uses the host only sets up. -/
theorem uses_setup {α : Type} {program : Driver α} (uses : program.Uses HostOp) :
    program.Uses SetupOp :=
  uses.mono fun _ => HostOp.setup

/-! ## Sessions -/

/-- Looking a filesystem up only sets up. -/
theorem uses_getFilesystemByName (session : Session) (name : String) :
    (getFilesystemByName session name).Uses SetupOp :=
  .bind (uses_perform trivial) fun _ => trivial

private theorem uses_getOrganizationByName (name : String) :
    (getOrganizationByName name).Uses OpenOp :=
  .bind (uses_perform trivial) fun _ => trivial

private theorem uses_ensureOrg (projectId : Option String) :
    (ensureOrg cfg projectId).Uses OpenOp := by
  refine .bind (uses_getOrganizationByName _) fun found => ?_
  cases found with
  | some org => trivial
  | none =>
      refine .tryCatch (.bind (uses_perform trivial) fun _ => trivial) fun error => ?_
      cases error with
      | api error => exact .ite (fun _ => trivial) fun _ => trivial
      | _ => trivial

/-- A project's session is only opened. -/
theorem uses_orgClient (projectId : Option String) : (orgClient cfg projectId).Uses OpenOp := by
  refine .ite (fun _ => trivial) fun _ => .bind (uses_perform trivial) fun cached => ?_
  cases cached with
  | some session => trivial
  | none =>
      exact .bind (uses_ensureOrg projectId) fun _ => .bind (uses_perform trivial) fun _ =>
        .bind (uses_perform trivial) fun _ => trivial

/-- A share's session is only opened. -/
theorem uses_clientForShare (share : Share) : (clientForShare cfg share).Uses OpenOp :=
  .ite (fun _ => uses_orgClient _) fun _ => trivial

/-- A program that only opens a session only sets up. -/
theorem uses_setup_of_opens {α : Type} {program : Driver α} (uses : program.Uses OpenOp) :
    program.Uses SetupOp :=
  uses.mono fun _ => OpenOp.setup

/-- An operation that opens a session or writes a token file. -/
def TokenOp (op : Op) : Prop :=
  OpenOp op ∨ ∃ path session, op = .host (.writeTokenFile path session)

/-- A token file is written once the session is open. -/
theorem opens_orgTokenFile (projectId : Option String) :
    (orgTokenFile cfg projectId).Uses TokenOp := by
  refine .bind ((uses_orgClient projectId).mono fun _ => Or.inl) fun session =>
    .bind (.tryCatch (uses_perform (Or.inr ⟨_, _, rfl⟩)) fun error => ?_) fun _ => trivial
  cases error <;> trivial

/-- Writing a token file only sets up. -/
theorem uses_orgTokenFile (projectId : Option String) :
    (orgTokenFile cfg projectId).Uses SetupOp := by
  refine (opens_orgTokenFile projectId).mono fun op use => ?_
  rcases use with opens | ⟨path, session, rfl⟩
  · exact opens.setup
  · trivial

private theorem uses_ensureShare (listed : List (Entry Filesystem)) (share : Share) :
    (ensureShare cfg listed share).Uses SetupOp := by
  refine .bind (.ite (fun _ => ?_) fun _ => trivial) fun found => ?_
  · refine .bind (uses_setup_of_opens (uses_getOrganizationByName _)) fun org => ?_
    cases org with
    | none => trivial
    | some org => exact .bind (uses_setup_of_opens (uses_orgClient _)) fun _ =>
        uses_getFilesystemByName _ _
  · cases found with
    | none => trivial
    | some fs =>
        refine .ite (fun _ => .bind (uses_setup (uses_isMounted _)) fun mounted => ?_) fun _ => trivial
        refine .ite (fun _ => ?_) fun _ => trivial
        exact .bind (uses_orgTokenFile _) fun _ => .bind (uses_setup (uses_mount _)) fun _ => trivial

/-- Verifying shares acts on no filesystem. -/
theorem uses_ensureShares (shares : List Share) : (ensureShares cfg shares).Uses SetupOp := by
  refine .bind (uses_perform trivial) fun listed => .foldlM (fun updates share _ => ?_) _
  refine .tryCatch (.bind (uses_ensureShare listed share) fun _ => trivial) fun error => ?_
  cases error <;> trivial

end WekaShareDriver
