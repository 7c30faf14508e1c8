import WekaShareDriver.ShareCreation
import WekaShareDriver.Tenancy

/-! # Tenant isolation

Manila asks the driver for operations on shares of any projects, in any order, and
any call may fail (`WekaShareDriver.OperationsReach`). Two projects whose ids
differ only in dashes have one organization name. It is the organization of the
project that used it first: the other project's password is refused there, so
every operation on a WEKAFS share is served by an organization that was created
with its own project's credentials (`WekaShareDriver.tenants_isolated`).
-/

namespace WekaShareDriver

open Foundation Program

/-- What Manila asks of the driver. A copy is run by the worker that the creation
of a share from a snapshot starts. -/
inductive Operation where
  | createShare (share : Share)
  | createShareFromSnapshot (share : Share) (snapshot : ShareSnapshot)
  | extendShare (share : Share) (newSize : Nat)
  | shrinkShare (share : Share) (newSize : Nat)
  | createSnapshot (snapshot : ShareSnapshot)
  | deleteSnapshot (snapshot : ShareSnapshot)
  | revertToSnapshot (snapshot : ShareSnapshot)
  | updateAccess (share : Share) (update : AccessUpdate)
  | ensureShares (shares : List Share)
  | deleteShare (share : Share)
  | runSnapshotCopy (job : CopyJob)

namespace Operation

@[reducible] def Result : Operation → Type
  | .createShare _ => List ExportLocation
  | .createShareFromSnapshot .. => ShareStatus × List ExportLocation
  | .updateAccess .. => RuleStates
  | .ensureShares _ => Dict String ShareUpdate
  | _ => Unit

/-- What the driver does for an operation. -/
def program (cfg : Config) : (operation : Operation) → Driver operation.Result
  | .createShare share => WekaShareDriver.createShare cfg share
  | .createShareFromSnapshot share snapshot =>
      WekaShareDriver.createShareFromSnapshot cfg share snapshot
  | .extendShare share newSize => WekaShareDriver.extendShare cfg share newSize
  | .shrinkShare share newSize => WekaShareDriver.shrinkShare cfg share newSize
  | .createSnapshot snapshot => WekaShareDriver.createSnapshot cfg snapshot
  | .deleteSnapshot snapshot => WekaShareDriver.deleteSnapshot cfg snapshot
  | .revertToSnapshot snapshot => WekaShareDriver.revertToSnapshot cfg snapshot
  | .updateAccess share update => update.program cfg share
  | .ensureShares shares => WekaShareDriver.ensureShares cfg shares
  | .deleteShare share => WekaShareDriver.deleteShare cfg share
  | .runSnapshotCopy job => WekaShareDriver.runSnapshotCopy cfg job

/-- The shares an operation is about. -/
def shares : Operation → List Share
  | .createShare share => [share]
  | .createShareFromSnapshot share _ => [share]
  | .extendShare share _ => [share]
  | .shrinkShare share _ => [share]
  | .createSnapshot snapshot => [snapshot.share]
  | .deleteSnapshot snapshot => [snapshot.share]
  | .revertToSnapshot snapshot => [snapshot.share]
  | .updateAccess share _ => [share]
  | .ensureShares shares => shares
  | .deleteShare share => [share]
  | .runSnapshotCopy job => [job.share]

/-- The shares of an operation are WEKAFS and NFS shares of the given projects. -/
def ServedFor (projects : String → Prop) (operation : Operation) : Prop :=
  ∀ share ∈ operation.shares, (share.shareProto = .wekafs ∨ share.shareProto = .nfs) ∧
    (hasProject share.projectId = true → projects (share.projectId.getD ""))

end Operation

/-- The worlds between operations, each of which returned or raised. -/
inductive OperationsReach (cfg : Config) (fault : Fault) (allowed : Operation → Prop)
    (start : World) : World → Prop where
  | start : OperationsReach cfg fault allowed start start
  | operation {w t : World} {operation : Operation} {outcome : Except Error operation.Result}
      (reached : OperationsReach cfg fault allowed start w) (request : allowed operation)
      (run : Exec (service fault) (operation.program cfg) w outcome t) :
      OperationsReach cfg fault allowed start t

variable {cfg : Config} {projects : String → Prop} {share : Share} {fault : Fault}
  {start w t : World}

/-- What every completed operation keeps holds between any operations. -/
theorem OperationsReach.invariant {allowed : Operation → Prop} {safe : World → Prop}
    (reached : OperationsReach cfg fault allowed start w) (initial : safe start)
    (kept : ∀ operation w t outcome, allowed operation → safe w →
      Exec (service fault) (operation.program cfg) w outcome t → safe t) : safe w := by
  induction reached with
  | start => exact initial
  | operation _ request run ih => exact kept _ _ _ _ request ih run

/-- Where sessions are isolated, each project has none or its own. -/
theorem Isolated.ownSession (isolated : Isolated cfg projects w) (projectId : Option String) :
    OwnSession cfg projectId w :=
  fun session cached => (isolated _ session cached).2.1

/-! ## One operation -/

section Share

variable (known : hasProject share.projectId = true → projects (share.projectId.getD ""))

include known

private theorem obeys_openFilesystem (wekafs : share.shareProto = .wekafs) :
    Obeys (service fault) (Isolated cfg projects) (fun u op _ => TenantCall cfg share u op)
      (openFilesystem cfg share) :=
  obeys_orgClient_bind known wekafs (uses_tenant_createFilesystemIdempotent rfl _ _ _)

private theorem obeys_ensureGroupPolicies (wekafs : share.shareProto = .wekafs) (fsUid : Uid) :
    Obeys (service fault) (Isolated cfg projects) (fun u op _ => TenantCall cfg share u op)
      (ensureGroupPolicies cfg share fsUid) := by
  apply Obeys.bind (obeys_host uses_sharePolicyGroup)
  intro selected
  cases selected with
  | none => exact .pure _
  | some group =>
      dsimp only
      cases (cfg.policyGroups.get? group).filter (· ≠ []) with
      | none => exact .pure _
      | some levels =>
          apply obeys_orgClient_bind known wekafs
          exact .bind (uses_tenant_of_policy (uses_ensureGroupPolicy _ _ _ _)) fun _ =>
            uses_tenant_of_policy (uses_ensureGroupPolicy _ _ _ _)

/-- Creating a share makes calls for its project only. -/
theorem obeys_createShare
    (protocol : share.shareProto = .wekafs ∨ share.shareProto = .nfs) :
    Obeys (service fault) (Isolated cfg projects) (fun u op _ => TenantCall cfg share u op)
      (createShare cfg share) := by
  rcases protocol with wekafs | nfs
  · rw [createShare_wekafs wekafs]
    exact .bind (obeys_openFilesystem known wekafs) fun fs =>
      .bind (obeys_ensureGroupPolicies known wekafs fs.uid) fun _ => .pure _
  · have other : share.shareProto ≠ .wekafs := by
      rw [nfs]
      exact ShareProto.noConfusion
    have isolated : isIsolatedWekafs share = false := decide_eq_false other
    unfold createShare
    rw [nfs]
    dsimp only
    rw [isolated]
    apply obeys_client_bind known
    intro session served
    rw [isolated] at served
    refine .bind (uses_tenant_createFilesystemIdempotent served _ _ _) fun fs => ?_
    exact .ite (fun isolated' => absurd isolated' Bool.false_ne_true) fun _ => trivial

/-- Creating a share from a snapshot makes calls for its project only. -/
theorem obeys_createShareFromSnapshot (snapshot : ShareSnapshot) :
    Obeys (service fault) (Isolated cfg projects) (fun u op _ => TenantCall cfg share u op)
      (createShareFromSnapshot cfg share snapshot) := by
  unfold createShareFromSnapshot
  apply Obeys.ite
  · exact fun _ _ isolated => isolated
  · intro configured
    apply obeys_client_bind known
    intro session served
    apply Uses.bind (uses_getSnapshotByName _ _)
    intro found
    cases found with
    | none => trivial
    | some snap =>
        refine .bind (uses_onSession rfl) fun srcFs =>
          .bind (uses_tenant_createFilesystemIdempotent served _ _ _) fun fs => ?_
        exact .bind (uses_onHost trivial) fun _ => .bind (uses_onHost trivial) fun _ => trivial

/-- Deleting a share makes calls for its project only. -/
theorem obeys_tenant_deleteShare :
    Obeys (service fault) (Isolated cfg projects) (fun u op _ => TenantCall cfg share u op)
      (deleteShare cfg share) := by
  apply obeys_client_bind known
  intro session served
  apply Uses.bind (uses_tenant_getFilesystemByName _)
  intro found
  cases found with
  | none => trivial
  | some fs =>
      have mounted : (isMounted (cfg.mountPoint (cfg.shareName share.id))).Uses
          (TenantOp session) := uses_tenant_of_host (uses_isMounted _)
      have unmount (mnt : WekaMount) : (mnt.unmount true).Uses (TenantOp session) :=
        uses_tenant_of_host (uses_unmount mnt true)
      refine .ite (fun _ => .bind (.tryCatch (uses_tenant_of_policy
        (uses_cleanupWekafsPolicies fs.uid)) fun _ => trivial) fun _ => ?_) fun _ => ?_
      · exact .bind mounted fun _ => .ite (fun _ => .bind (unmount _) fun _ =>
          uses_deleteFilesystem fs.uid) fun _ => uses_deleteFilesystem fs.uid
      · exact .bind mounted fun _ => .ite (fun _ => .bind (unmount _) fun _ =>
          uses_deleteFilesystem fs.uid) fun _ => uses_deleteFilesystem fs.uid

private theorem obeys_extendShare (newSize : Nat) :
    Obeys (service fault) (Isolated cfg projects) (fun u op _ => TenantCall cfg share u op)
      (extendShare cfg share newSize) := by
  apply obeys_client_bind known
  exact fun session _ => .bind uses_getFsUidForShare fun _ => uses_onSession rfl

private theorem obeys_shrinkShare (newSize : Nat) :
    Obeys (service fault) (Isolated cfg projects) (fun u op _ => TenantCall cfg share u op)
      (shrinkShare cfg share newSize) := by
  apply obeys_client_bind known
  intro session served
  refine .bind uses_getFsUidForShare fun fsUid => .bind (uses_onSession rfl) fun fs => ?_
  exact .ite (fun _ => trivial) fun _ => uses_onSession rfl

private theorem obeys_updateAccess (protocol : share.shareProto = .wekafs ∨ share.shareProto = .nfs)
    (update : AccessUpdate) :
    Obeys (service fault) (Isolated cfg projects) (fun u op _ => TenantCall cfg share u op)
      (update.program cfg share) := by
  rcases protocol with wekafs | nfs
  · rw [update.program_wekafs wekafs]
    apply obeys_orgClient_bind known wekafs
    refine .bind (.ite (fun _ => uses_ensureMountUser _) fun _ => trivial) fun _ =>
      .bind (uses_tenant_of_host uses_sharePolicyGroup) fun selected => ?_
    cases selected with
    | some group => trivial
    | none =>
        exact .bind (uses_findPolicyFilesystem _ _ _) fun _ =>
          uses_tenant_of_policy (uses_updateWekafsPolicies _ _ _)
  · rw [update.program_nfs nfs]
    have other : share.shareProto ≠ .wekafs := by
      rw [nfs]
      exact ShareProto.noConfusion
    have exports : Obeys (service fault) (Isolated cfg projects)
        (ExportsOnly (cfg.shareName share.id))
        (updateNfsAccess cfg share update.applied update.deleteRules update.fullSync) := by
      apply obeys_updateNfsAccess
      intro s op answer t use isolated answered
      obtain ⟨request, rfl, _⟩ := use
      exact isolated.kept (fun _ _ => Op.noConfusion) answered
    intro s isolated
    refine wp_mono (fun u op v kept => ⟨?_, kept.2⟩) (fun _ _ ended => ended) (exports s isolated)
    rcases TenantOp.of_exports kept.1 with host | ⟨request, rfl, on⟩
    · obtain ⟨request, rfl, _⟩ := kept.1
      exact host.elim
    · exact .admin other on

/-- One share of a list is verified on the session it is served by. -/
theorem obeys_ensureShare (listed : List (Entry Filesystem)) :
    Obeys (service fault) (Isolated cfg projects) (fun u op _ => TenantCall cfg share u op)
      (ensureShare cfg listed share) := by
  have organizations : Obeys (service fault) (Isolated cfg projects)
      (fun u op _ => TenantCall cfg share u op) (send .admin .listOrganizations) := by
    have uses : (send .admin .listOrganizations).Uses fun op => op = .api .admin .listOrganizations :=
      uses_perform rfl
    apply Obeys.of_uses uses
    rintro s op answer t rfl isolated answered
    exact ⟨.listOrganizations, isolated.kept (fun _ _ => Op.noConfusion) answered⟩
  apply Obeys.bind
  · apply Obeys.ite
    · intro isolated
      apply Obeys.bind (.bind organizations fun _ => .pure _)
      intro found
      cases found with
      | none => exact .throw _
      | some org =>
          exact obeys_orgClient_bind known (of_decide_eq_true isolated)
            (uses_tenant_getFilesystemByName _)
    · exact fun _ => .pure _
  · intro found
    cases found with
    | none => exact .throw _
    | some fs =>
        apply Obeys.ite _ fun _ => .pure _
        intro wekafs
        apply Obeys.bind (obeys_host (uses_isMounted _))
        intro mounted
        apply Obeys.ite _ fun _ => .pure _
        intro _
        have token : Obeys (service fault) (Isolated cfg projects)
            (fun u op _ => TenantCall cfg share u op) (orgTokenFile cfg share.projectId) := by
          apply obeys_orgClient_bind known wekafs
          refine .bind (.tryCatch (uses_onHost trivial) fun error => ?_) fun _ => trivial
          cases error <;> trivial
        exact .bind token fun _ => .bind (obeys_host (uses_mount _)) fun _ => .pure _

end Share

section Snapshots

variable {snapshot : ShareSnapshot} (known : hasProject snapshot.share.projectId = true →
  projects (snapshot.share.projectId.getD ""))

include known

private theorem obeys_createSnapshot :
    Obeys (service fault) (Isolated cfg projects)
      (fun u op _ => TenantCall cfg snapshot.share u op) (createSnapshot cfg snapshot) := by
  apply obeys_client_bind known
  exact fun session _ => .bind uses_getFsUidForShare fun _ => .bind (uses_onSession rfl) fun _ => trivial

private theorem obeys_tenant_deleteSnapshot :
    Obeys (service fault) (Isolated cfg projects)
      (fun u op _ => TenantCall cfg snapshot.share u op) (deleteSnapshot cfg snapshot) := by
  apply obeys_client_bind known
  intro session served
  have located : (some <$> getFsUidForShare cfg session snapshot.share).Uses
      (TenantOp session) := by
    rw [← bind_pure_comp]
    exact .bind uses_getFsUidForShare fun _ => trivial
  refine .bind (.tryCatch located fun error => ?_) fun found => ?_
  · cases error <;> trivial
  · cases found with
    | none => trivial
    | some fsUid =>
        refine .bind (uses_getSnapshotByName _ _) fun found => ?_
        cases found with
        | none => trivial
        | some snap =>
            exact .tryCatch (uses_onSession rfl) fun _ => .ite (fun _ => trivial) fun _ => trivial

private theorem obeys_tenant_revertToSnapshot :
    Obeys (service fault) (Isolated cfg projects)
      (fun u op _ => TenantCall cfg snapshot.share u op) (revertToSnapshot cfg snapshot) := by
  apply obeys_client_bind known
  intro session served
  refine .bind uses_getFsUidForShare fun fsUid => .bind (uses_getSnapshotByName _ _) fun found => ?_
  cases found with
  | none => trivial
  | some snap => exact uses_onSession rfl

end Snapshots

/-- A background copy opens the session of its share's project only. -/
theorem obeys_runSnapshotCopy {job : CopyJob}
    (protocol : job.share.shareProto = .wekafs ∨ job.share.shareProto = .nfs)
    (known : hasProject job.share.projectId = true → projects (job.share.projectId.getD "")) :
    Obeys (service fault) (Isolated cfg projects) (fun u op _ => TenantCall cfg job.share u op)
      (runSnapshotCopy cfg job) := by
  have record (status : ShareStatus) : Obeys (service fault) (Isolated cfg projects)
      (fun u op _ => TenantCall cfg job.share u op) (recordCopy job.share.id status) :=
    obeys_host (uses_recordCopy _ _)
  refine .tryCatch (.ite (fun nfs => .bind ?_ fun _ => record .available) fun other =>
    .bind ?_ fun _ => record .available) fun _ => record .error
  · apply obeys_admin (by rw [nfs]; exact ShareProto.noConfusion)
    refine (uses_copySnapshotNfs job).mono fun op copy => ?_
    rcases copy with host | ⟨fsName, exports⟩
    · exact Or.inl host
    · exact TenantOp.of_exports exports
  · obtain ⟨rest, shape, uses⟩ := copySnapshotWekafs_shape cfg job
    rw [shape]
    unfold orgTokenFile
    rw [LawfulMonad.bind_assoc]
    apply obeys_orgClient_bind known (protocol.resolve_right other)
    refine .bind (.bind (.tryCatch (uses_onHost trivial) fun error => ?_) fun _ => trivial)
      fun path => uses_tenant_of_host ((uses path).mono fun _ => MountOp.host)
    cases error <;> trivial

/-! ## All operations -/

/-- The calls of an operation, each made for one of its shares. Only the list of
the administrator's filesystems that shares are verified against is for all. -/
def Operation.Calls (cfg : Config) (operation : Operation) (u : World) (op : Op) (_ : World) :
    Prop :=
  op = .api .admin .listFilesystems ∨ ∃ share ∈ operation.shares, TenantCall cfg share u op

/-- Every operation for the shares of projects makes the calls of its own and keeps sessions
isolated. -/
theorem obeys_operation {operation : Operation} (served : operation.ServedFor projects) :
    Obeys (service fault) (Isolated cfg projects) (operation.Calls cfg)
      (operation.program cfg) := by
  have about {α : Type} {program : Driver α} {share : Share} (member : share ∈ operation.shares)
      (obeys : Obeys (service fault) (Isolated cfg projects)
        (fun u op _ => TenantCall cfg share u op) program) :
      Obeys (service fault) (Isolated cfg projects) (operation.Calls cfg) program :=
    fun s isolated => wp_mono (fun _ _ _ kept => ⟨Or.inr ⟨share, member, kept.1⟩, kept.2⟩)
      (fun _ _ ended => ended) (obeys s isolated)
  cases operation with
  | createShare share =>
      obtain ⟨protocol, known⟩ := served share List.mem_cons_self
      exact about List.mem_cons_self (obeys_createShare known protocol)
  | createShareFromSnapshot share snapshot =>
      exact about List.mem_cons_self
        (obeys_createShareFromSnapshot (served share List.mem_cons_self).2 snapshot)
  | extendShare share newSize =>
      exact about List.mem_cons_self
        (obeys_extendShare (served share List.mem_cons_self).2 newSize)
  | shrinkShare share newSize =>
      exact about List.mem_cons_self
        (obeys_shrinkShare (served share List.mem_cons_self).2 newSize)
  | createSnapshot snapshot =>
      exact about List.mem_cons_self
        (obeys_createSnapshot (served snapshot.share List.mem_cons_self).2)
  | deleteSnapshot snapshot =>
      exact about List.mem_cons_self
        (obeys_tenant_deleteSnapshot (served snapshot.share List.mem_cons_self).2)
  | revertToSnapshot snapshot =>
      exact about List.mem_cons_self
        (obeys_tenant_revertToSnapshot (served snapshot.share List.mem_cons_self).2)
  | updateAccess share update =>
      obtain ⟨protocol, known⟩ := served share List.mem_cons_self
      exact about List.mem_cons_self (obeys_updateAccess known protocol update)
  | deleteShare share =>
      exact about List.mem_cons_self (obeys_tenant_deleteShare (served share List.mem_cons_self).2)
  | runSnapshotCopy job =>
      obtain ⟨protocol, known⟩ := served job.share List.mem_cons_self
      exact about List.mem_cons_self (obeys_runSnapshotCopy protocol known)
  | ensureShares shares =>
      have uses : (send .admin .listFilesystems).Uses fun op => op = .api .admin .listFilesystems :=
        uses_perform rfl
      apply Obeys.bind
      · apply Obeys.of_uses uses
        rintro s op answer t rfl isolated answered
        exact ⟨Or.inl rfl, isolated.kept (fun _ _ => Op.noConfusion) answered⟩
      · intro listed
        apply Obeys.foldlM
        intro updates share member
        apply Obeys.tryCatch
        · exact .bind (about member (obeys_ensureShare (served share member).2 listed))
            fun _ => .pure _
        · intro error
          cases error with
          | shareNotFound id => exact .pure _
          | _ => exact .throw _

/-! ## Isolation -/

/-- The requests that create, change or delete a filesystem, a snapshot, a user or a
security policy. -/
def Request.changesTenant : Request → Bool
  | .createUser .. => true
  | .createFilesystem .. => true
  | .updateFilesystem .. => true
  | .deleteFilesystem _ => true
  | .createSnapshot .. => true
  | .deleteSnapshot _ => true
  | .restoreSnapshot .. => true
  | .createSecurityPolicy .. => true
  | .updateSecurityPolicy .. => true
  | .deleteSecurityPolicy _ => true
  | .attachFsSecurityPolicy .. => true
  | .detachFsSecurityPolicy .. => true
  | _ => false

/-- The organization an operation reaches: by a request on its session, by a login
or by its creation. -/
def Op.organization : Op → Option String
  | .api (.org name) _ => some name
  | .api .admin (.createOrganization name _ _) => some name
  | .api .admin _ => none
  | .login name _ _ => some name
  | .host _ => none

/-- No two projects hold a session in one organization. -/
def SeparateSessions (w : World) : Prop :=
  ∀ p q session, w.host.orgClients.get? p = some session →
    w.host.orgClients.get? q = some session → p = q

/-- A request for a WEKAFS share is sent on the session of the organization that was
created with its own project's credentials and no other project's. -/
structure ServedByOwn (cfg : Config) (projects : String → Prop) (share : Share) (u : World)
    (session : Session) (request : Request) : Prop where
  project : hasProject share.projectId = true
  session : session = projectSession cfg share.projectId
  owned : Owned cfg share.projectId u
  exclusive : ∀ q, projects q → Owned cfg (some q) u →
    cfg.orgName (some q) = cfg.orgName share.projectId → some q = share.projectId
  authorized : ∀ name groupName totalCapacity authRequired,
    request = .createFilesystem name groupName totalCapacity authRequired → authRequired = true

section Isolation

variable (collisionFree : ∀ p q, projects p → projects q →
  cfg.orgPassword (some p) = cfg.orgPassword (some q) → p = q)

include collisionFree

/-- Where sessions are isolated, the cached ones belong to one project each. -/
theorem Isolated.separate (isolated : Isolated cfg projects w) : SeparateSessions w := by
  intro p q session cached cached'
  obtain ⟨known, own, owned⟩ := isolated p session cached
  obtain ⟨known', own', owned'⟩ := isolated q session cached'
  have same : cfg.orgName (some p) = cfg.orgName (some q) := Session.org.inj (own.symm.trans own')
  exact collisionFree p q known known' (owned.exclusive owned' same)

private theorem TenantCall.servedByOwn {u : World} {session : Session} {request : Request}
    (call : TenantCall cfg share u (.api session request))
    (known : hasProject share.projectId = true → projects (share.projectId.getD ""))
    (wekafs : share.shareProto = .wekafs) (changes : request.changesTenant = true) :
    ServedByOwn cfg projects share u session request := by
  cases call with
  | listOrganizations => cases changes
  | createOrganization => cases changes
  | admin other => exact absurd wekafs other
  | tenant _ project owned on =>
      refine ⟨project, rfl, owned, fun q known' owned' same => ?_, ?_⟩
      · cases own : share.projectId with
        | none =>
            rw [own] at project
            cases project
        | some p =>
            rw [own] at known project owned same
            rw [collisionFree q p known' (known project) (owned'.exclusive owned same)]
      · rintro name groupName totalCapacity authRequired rfl
        exact eq_of_beq on

/-- Tenants are isolated in every run: whatever fails, and in whatever order
projects are first used, no two of them ever hold a session in one organization;
what changes anything for a WEKAFS share is sent to its own project's organization,
with authorization required of every new filesystem; and no organization is reached
but for a WEKAFS share with a project. -/
theorem tenants_isolated (fresh : start.host.orgClients = [])
    (reached : OperationsReach cfg fault (Operation.ServedFor projects) start w) :
    SeparateSessions w ∧ ∀ operation : Operation, operation.ServedFor projects →
      ∀ u op v, Issues (service fault) (operation.program cfg) w u op v →
        SeparateSessions v ∧
          (∀ session request, op = .api session request → request.changesTenant = true →
            ∀ share ∈ operation.shares, share.shareProto = .wekafs →
              ServedByOwn cfg projects share u session request) ∧
          ∀ name, op.organization = some name → ∃ share ∈ operation.shares,
            share.shareProto = .wekafs ∧ hasProject share.projectId = true ∧
              name = cfg.orgName share.projectId := by
  have initial : Isolated cfg projects start := by
    intro p session cached
    rw [fresh] at cached
    cases cached
  have here : Isolated cfg projects w := by
    apply reached.invariant initial
    intro operation w t outcome served isolated run
    exact (obeys_operation served).restored isolated run
  refine ⟨here.separate collisionFree, fun operation served u op v issued => ?_⟩
  obtain ⟨calls, there⟩ := issued.meets (obeys_operation served w here)
  refine ⟨there.separate collisionFree, ?_, ?_⟩
  · rintro session request rfl changes share member wekafs
    have single : ∀ other ∈ operation.shares, other = share := by
      cases operation with
      | ensureShares shares =>
          have setup : SetupOp (.api session request) := issued.uses (uses_ensureShares shares)
          cases request with
          | listOrganizations | createOrganization name username password | listFilesystems =>
              cases changes
          | _ => exact setup.elim
      | _ =>
          rw [List.eq_of_mem_singleton member]
          exact fun other member' => List.eq_of_mem_singleton member'
    rcases calls with listing | ⟨other, member', call⟩
    · cases listing
      cases changes
    · rw [single other member'] at call
      exact call.servedByOwn collisionFree (served share member).2 wekafs changes
  · intro name reaches
    rcases calls with rfl | ⟨share, member, call⟩
    · cases reaches
    · refine ⟨share, member, ?_⟩
      cases call with
      | host | listOrganizations => cases reaches
      | createOrganization wekafs project | login wekafs project =>
          exact ⟨wekafs, project, (Option.some.inj reaches).symm⟩
      | tenant wekafs project => exact ⟨wekafs, project, (Option.some.inj reaches).symm⟩
      | @admin request other on =>
          cases request with
          | createOrganization => cases on
          | _ => cases reaches

end Isolation

/-- A WEKAFS share of a project. -/
def tenantShare (projectId : String) : Share := { sampleShare .wekafs with projectId }

/-- Two projects whose ids differ in a dash only. -/
def twoProjects (projectId : String) : Prop := projectId = "p1" ∨ projectId = "p-1"

/-- The first of the two has a share. -/
def firstTenant : World :=
  (((Operation.createShare (tenantShare "p1")).program sampleConfig).run respond
    ⟨Cluster.empty, Host.empty⟩).2

private theorem createShare_servedFor {projectId : String} (known : twoProjects projectId) :
    (Operation.createShare (tenantShare projectId)).ServedFor twoProjects := by
  intro share member
  rw [List.eq_of_mem_singleton member]
  exact ⟨Or.inl rfl, fun _ => known⟩

/-- The second project logs in to the organization of the first, and is refused. -/
theorem tenants_isolated_sample :
    SeparateSessions firstTenant ∧
      ∃ share ∈ (Operation.createShare (tenantShare "p-1")).shares,
        share.shareProto = .wekafs ∧ hasProject share.projectId = true ∧
          "manila-p1" = sampleConfig.orgName share.projectId := by
  have collisionFree : ∀ p q, twoProjects p → twoProjects q →
      sampleConfig.orgPassword (some p) = sampleConfig.orgPassword (some q) → p = q := by
    rintro p q (rfl | rfl) (rfl | rfl) same
    · rfl
    · exact absurd same (by decide)
    · exact absurd same (by decide)
    · rfl
  have reached : OperationsReach sampleConfig noFaults (Operation.ServedFor twoProjects)
      ⟨Cluster.empty, Host.empty⟩ firstTenant :=
    .operation .start (createShare_servedFor (Or.inl rfl)) (exec_run _ _)
  have issued : Issues (service noFaults)
      ((Operation.createShare (tenantShare "p-1")).program sampleConfig) firstTenant firstTenant
      (.login "manila-p1" "manila" (sampleConfig.orgPassword (some "p-1"))) firstTenant :=
    .later (Or.inl rfl) (.later (Or.inl rfl) (.here (Or.inl rfl)))
  have isolated := tenants_isolated collisionFree rfl reached
  exact ⟨isolated.1, (isolated.2 _ (createShare_servedFor (Or.inr rfl)) _ _ _ issued).2.2 _ rfl⟩

end WekaShareDriver
