import WekaShareDriver.Access.Runs
import WekaShareDriver.ShareCreation

/-! # Enforcing the policies of a group

The policies of a group are the only restriction on a share that is governed by
it. A share created by `createShare` is attached to them, exactly as configured,
as long as the read of its type's extra specs does not fail; one created from a
snapshot never is (`WekaShareDriver.enforces_iff`).
-/

namespace WekaShareDriver

open Foundation Program

/-- Every level of a group that has addresses is enforced on the filesystem of a
share: its policy lists exactly them and is attached. -/
def Enforces (cfg : Config) (share : Share) (group : String) (levels : Dict Level (List String))
    (t : World) : Prop :=
  ∀ level, levelIps levels level ≠ [] → ∃ fs policy,
    t.cluster.filesystems.find?
        (projectSession cfg share.projectId, cfg.shareName share.id) = some fs ∧
      t.cluster.policies.find? (groupKey (projectSession cfg share.projectId) group level) =
        some policy ∧
      policy.val.ips = levelIps levels level ∧ policy.val.readOnly = (level == .ro) ∧
      fs.uid ∈ policy.val.attached

/-- A WEKAFS share whose type selects a group configured with some address, in a
project that has no policy of the group yet. -/
structure GroupStart (cfg : Config) (share : Share) (group : String)
    (levels : Dict Level (List String)) (w : World) : Prop where
  protocol : share.shareProto = .wekafs
  selects : SelectsGroup share group w
  configured : cfg.policyGroups.get? group = some levels
  addressed : ∃ level, levelIps levels level ≠ []
  own : OwnSession cfg share.projectId w
  missing : ∀ level, w.cluster.policies.find?
    (groupKey (projectSession cfg share.projectId) group level) = none

/-- Wherever the creation of a share reads the type's extra specs, the read does not
fail. -/
def TypeReadable (cfg : Config) (fault : Fault) (share : Share) (w : World) : Prop :=
  ∀ u op v, Issues (service fault) (createShare cfg share) w u op v → ReadsType op →
    ∀ error, ¬ fault u op error

/-- A share created from a snapshot whose background copy completed. -/
def CopiedFromSnapshot (cfg : Config) (fault : Fault) (share : Share) (snapshot : ShareSnapshot)
    (w t : World) : Prop :=
  ∃ result u job, Exec (service fault) (createShareFromSnapshot cfg share snapshot) w (.ok result) u ∧
    job ∈ u.host.copyJobs ∧ Exec (service fault) (runSnapshotCopy cfg job) u (.ok ()) t ∧
    (t.host.asyncCopies.get? share.id).map CopyEntry.status = some .available

variable {cfg : Config} {share : Share} {fault : Fault} {group : String} {fsUid : Uid}
  {levels : Dict Level (List String)} {w t u : World} {fs : Entry Filesystem}

/-- Without a policy of the group nothing is enforced. -/
theorem GroupStart.not_enforces (start : GroupStart cfg share group levels w)
    (same : t.cluster.policies = w.cluster.policies) : ¬ Enforces cfg share group levels t := by
  intro enforces
  obtain ⟨level, some'⟩ := start.addressed
  obtain ⟨fs, policy, _, found, _⟩ := enforces level some'
  rw [same, start.missing level] at found
  cases found

/-! ## When the share's type can be read -/

/-- A filesystem that joined the policies of a new group has them enforced. -/
theorem GroupStart.enforces (start : GroupStart cfg share group levels w)
    (opened : Opened cfg share w u fs)
    (joined : GroupJoined (projectSession cfg share.projectId) fs.uid group levels u t) :
    Enforces cfg share group levels t := by
  intro level some'
  obtain ⟨policy, found, join⟩ := joined.joined level some'
  rw [opened.policies, start.missing level] at join
  refine ⟨fs, policy, ?_, found, join.ips, join.readOnly, join.attached⟩
  rw [joined.filesystems]
  exact opened.found

/-- Without failing reads of the type, a share that is created has the policies of
its group enforced. -/
theorem wp_createShare_enforces (honest : Honest fault)
    (readable : ∀ u op error, ReadsType op → ¬ fault u op error)
    (start : GroupStart cfg share group levels w) :
    (createShare cfg share).wp (service fault) (passing fun _ => True)
      (ending (fun _ t => Enforces cfg share group levels t) (fun _ _ => True)) w := by
  rw [createShare_wekafs start.protocol]
  refine wp_bind_of _ (wp_weaken (wp_openFilesystem start.own) (fun _ _ => trivial)
    (fun _ _ opened => opened) fun _ _ _ => trivial) fun fs u opened => ?_
  refine wp_bind_of _ (wp_weaken (wp_ensureGroupPolicies honest
    (start.selects.of_shareTypes opened.shareTypes) start.configured opened.own)
    (fun _ _ => trivial) (fun _ _ joined => joined) fun _ _ _ => trivial) fun _ t joined => ?_
  rcases joined with joined | ⟨⟨op, error, reads, raised⟩, _⟩
  · exact start.enforces opened joined
  · exact absurd raised (readable u op error reads)

/-! ## When it cannot -/

private theorem not_readsType_of_opens {op : Op} (opens : OpenOp op) : ¬ ReadsType op := by
  rintro ⟨typeId, rfl⟩
  exact opens

private theorem uses_openFilesystem : (openFilesystem cfg share).Uses fun op => ¬ ReadsType op := by
  have request (session : Session) (request : Request) : ¬ ReadsType (.api session request) := by
    rintro ⟨typeId, same⟩
    cases same
  have list (session : Session) (name : String) :
      (getFilesystemByName session name).Uses fun op => ¬ ReadsType op :=
    .bind (uses_perform (request _ _)) fun _ => trivial
  refine .bind ((uses_orgClient _).mono fun _ => not_readsType_of_opens) fun session =>
    .bind (list _ _) fun found => ?_
  cases found with
  | some fs => trivial
  | none =>
      refine .tryCatch (uses_perform (request _ _)) fun error => ?_
      cases error with
      | api error =>
          refine .ite (fun _ => .bind (list _ _) fun found => ?_) fun _ => trivial
          cases found <;> trivial
      | _ => trivial

variable (cfg fsUid) in
/-- Joining the policies of a group starts with the only read of the share's type;
when it fails nothing is joined. -/
theorem ensureGroupPolicies_reads (selects : SelectsGroup share group w) :
    ∃ typeId next, ensureGroupPolicies cfg share fsUid =
        .call (.host (.shareTypeExtraSpecs typeId)) next ∧
      (∀ error, next (.error error) = pure ()) ∧
      ∀ answer, (next answer).Uses fun op => ¬ ReadsType op := by
  obtain ⟨typeId, specs, typed, _, _⟩ := selects
  have request (session : Session) (request : Request) : ¬ ReadsType (.api session request) := by
    rintro ⟨typeId, same⟩
    cases same
  have attach (session : Session) (policyUid : Uid) :
      (attachPolicy session fsUid policyUid).Uses fun op => ¬ ReadsType op :=
    .tryCatch (uses_perform (request _ _)) fun _ => .ite (fun _ => trivial) fun _ => trivial
  have ensure (session : Session) (group : String) (level : Level) (ips : List String) :
      (ensureGroupPolicy session fsUid group level ips).Uses fun op => ¬ ReadsType op := by
    refine .ite (fun _ => .bind (.bind (uses_perform (request _ _)) fun _ => trivial)
      fun found => ?_) fun _ => trivial
    cases found with
    | some policy => exact attach _ _
    | none => exact .bind (uses_perform (request _ _)) fun _ => attach _ _
  unfold ensureGroupPolicies sharePolicyGroup
  rw [typed]
  refine ⟨typeId, _, rfl, fun error => rfl, fun answer => ?_⟩
  cases answer with
  | error error => trivial
  | ok specs =>
      dsimp only [Program.bind, Program.handle, pure]
      cases (Dict.get? specs policyGroupSpec).filter (· ≠ "") with
      | none => trivial
      | some group =>
          dsimp only
          cases (cfg.policyGroups.get? group).filter (· ≠ []) with
          | none => trivial
          | some levels =>
              exact .bind ((uses_orgClient _).mono fun _ => not_readsType_of_opens) fun session =>
                .bind (ensure _ _ _ _) fun _ => ensure _ _ _ _

/-- If every created share is enforced, no read of the type can fail: the share would
be returned without a policy. -/
theorem GroupStart.readable (start : GroupStart cfg share group levels w)
    (enforced : ∀ locations t, Exec (service fault) (createShare cfg share) w (.ok locations) t →
      Enforces cfg share group levels t) : TypeReadable cfg fault share w := by
  have ended : (createShare cfg share).wp (service fault) (passing fun _ => True)
      (ending (fun _ t => Enforces cfg share group levels t) (fun _ _ => True)) w := by
    refine wp_of_exec (fun outcome t run => ?_) fun _ _ _ _ => trivial
    cases outcome with
    | ok locations => exact enforced locations t run
    | error error => trivial
  have silent : Obeys (service fault) (fun _ => True) (fun _ op _ => ¬ ReadsType op)
      (openFilesystem cfg share) :=
    .of_uses uses_openFilesystem fun _ _ _ _ use _ _ => ⟨use, trivial⟩
  -- A failing read would end the call right there.
  have safe : (createShare cfg share).wp (service fault)
      (fun u op _ => ReadsType op → ∀ error, ¬ fault u op error) (fun _ _ => True) w := by
    rw [createShare_wekafs start.protocol, wp_bind] at ended ⊢
    refine wp_mono (fun u op v kept reads => absurd reads kept.2.1) (fun outcome u reached => ?_)
      (wp_and (wp_and ended (wp_openFilesystem start.own)) (silent w trivial))
    cases outcome with
    | error error => trivial
    | ok fs =>
        obtain ⟨⟨continues, opened⟩, _⟩ := reached
        obtain ⟨typeId, next, shape, skipped, quiet⟩ := ensureGroupPolicies_reads cfg
          fs.uid (start.selects.of_shareTypes opened.shareTypes)
        rw [onOk_ok, shape, wp_bind] at continues ⊢
        intro answer v answered
        refine ⟨fun _ error raised => ?_, ?_⟩
        · have failed := (continues (.error error) u (Or.inr ⟨error, raised, rfl, rfl⟩)).2
          rw [skipped] at failed
          exact start.not_enforces opened.policies failed
        · have rest : Obeys (service fault) (fun _ => True) (fun _ op _ => ¬ ReadsType op)
              (next answer) := .of_uses (quiet answer) fun _ _ _ _ use _ _ => ⟨use, trivial⟩
          refine wp_mono (fun _ _ _ kept reads => absurd reads kept.1) (fun outcome _ _ => ?_)
            (rest v trivial)
          cases outcome <;> trivial
  intro u op v issued reads
  exact issued.meets safe reads

/-! ## From a snapshot -/

/-- An operation that is not about policies and deletes no filesystem. -/
def PolicyFree (op : Op) : Prop :=
  ∀ session request, op = .api session request →
    request.aboutPolicies = false ∧ ∀ uid, request ≠ .deleteFilesystem uid

/-- Such an operation leaves the policies alone. -/
theorem PolicyFree.policies {op : Op} {answer : Except Error op.Res} (free : PolicyFree op)
    (answered : service fault w op answer t) : t.cluster.policies = w.cluster.policies := by
  rcases answered with equal | ⟨_, _, _, rfl⟩
  · have final : t = (respond op w).2 := (congrArg Prod.snd equal).symm
    subst final
    cases op with
    | api session request =>
        obtain ⟨about, other⟩ := free session request rfl
        cases request with
        | deleteFilesystem uid => exact absurd rfl (other uid)
        | listSecurityPolicies | createSecurityPolicy name ips readOnly
          | updateSecurityPolicy uid addIps removeIps | deleteSecurityPolicy uid
          | attachFsSecurityPolicy fsUid policyUid | detachFsSecurityPolicy fsUid policyUid =>
            cases about
        | _ =>
            simp only [respond, Cluster.answer]
            repeat' split
            all_goals rfl
    | login org username password => rfl
    | host call => rfl
  · rfl

/-- An operation that sets up is not about policies. -/
theorem SetupOp.policyFree {op : Op} (setup : SetupOp op) : PolicyFree op := by
  rintro session request rfl
  cases request with
  | listOrganizations | createOrganization name username password | listFilesystems =>
      exact ⟨rfl, fun _ same => by cases same⟩
  | _ => exact setup.elim

/-- An operation of a copy is not about policies. -/
theorem CopyOp.policyFree {op : Op} (copy : CopyOp op) : PolicyFree op := by
  rcases copy with setup | ⟨fsName, request, rfl, about⟩
  · exact setup.policyFree
  · rintro session request' same
    cases same
    cases request with
    | listClientGroups | getClientGroup uid | createClientGroup name
      | addClientGroupRule uid type value | deleteClientGroupRule uid ruleUid
      | deleteClientGroup uid | listNfsPermissions
      | createNfsPermission group filesystem path type squash | deleteNfsPermission uid =>
        exact ⟨rfl, fun _ same => by cases same⟩
    | _ => exact about.elim

private theorem uses_policyFree {request : Request} (session : Session)
    (about : request.aboutPolicies = false) (other : ∀ uid, request ≠ .deleteFilesystem uid) :
    (send session request).Uses PolicyFree := by
  apply uses_perform
  rintro session' request' same
  obtain ⟨-, same'⟩ := Op.api.inj same
  subst same'
  exact ⟨about, other⟩

/-- Creating a filesystem makes no request about policies. -/
theorem uses_createFilesystemIdempotent (session : Session) (fsName groupName : String)
    (sizeBytes : Nat) (authRequired : Bool) :
    (createFilesystemIdempotent session fsName groupName sizeBytes authRequired).Uses
      PolicyFree := by
  have list : (getFilesystemByName session fsName).Uses PolicyFree :=
    (uses_getFilesystemByName session fsName).mono fun _ => SetupOp.policyFree
  refine .bind list fun found => ?_
  cases found with
  | some fs => trivial
  | none =>
      refine .tryCatch (uses_policyFree _ rfl fun _ same => by cases same) fun error => ?_
      cases error with
      | api error =>
          refine .ite (fun _ => .bind list fun found => ?_) fun _ => trivial
          cases found <;> trivial
      | _ => trivial

/-- Creating a share from a snapshot sends no request about policies. -/
theorem uses_createShareFromSnapshot (snapshot : ShareSnapshot) :
    (createShareFromSnapshot cfg share snapshot).Uses PolicyFree := by
  have host (call : HostCall) : (onHost call).Uses PolicyFree :=
    uses_perform fun _ _ same => by cases same
  refine .ite (fun _ => .bind (uses_throw _) fun _ => ?_) fun _ => ?_
  all_goals
    refine .bind ((uses_clientForShare share).mono fun _ opens => opens.setup.policyFree)
      fun session => .bind (.bind (uses_policyFree _ rfl fun _ same => by cases same) fun _ => trivial)
        fun found => ?_
    cases found with
    | none => trivial
    | some snap =>
        exact .bind (uses_policyFree _ rfl fun _ same => by cases same) fun srcFs =>
          .bind (uses_createFilesystemIdempotent _ _ _ _ _) fun fs =>
            .bind (host _) fun _ => .bind (host _) fun _ => trivial

/-- A share created from a snapshot has no policy of its group. -/
theorem GroupStart.not_enforces_copied (start : GroupStart cfg share group levels w)
    {snapshot : ShareSnapshot} (copied : CopiedFromSnapshot cfg fault share snapshot w t) :
    ¬ Enforces cfg share group levels t := by
  obtain ⟨result, u, job, creates, _, copies, _⟩ := copied
  have kept : ∀ {α : Type} {program : Driver α} (s : World), program.Uses PolicyFree →
      Obeys (service fault) (fun t => t.cluster.policies = s.cluster.policies)
        (fun _ _ _ => True) program := fun s uses =>
    .of_uses uses fun _ _ _ _ free same answered => ⟨trivial, (free.policies answered).trans same⟩
  have created := (kept w (uses_createShareFromSnapshot snapshot)).restored rfl creates
  have finished := (kept u ((uses_runSnapshotCopy job).mono fun _ => CopyOp.policyFree)).restored
    rfl copies
  exact start.not_enforces (finished.trans created)

/-- The policies of a group are enforced on every share that is created if and only
if the read of the share's type never fails, and on no share created from a
snapshot. -/
theorem enforces_iff (honest : Honest fault) (start : GroupStart cfg share group levels w) :
    ((∀ locations t, Exec (service fault) (createShare cfg share) w (.ok locations) t →
        Enforces cfg share group levels t) ↔ TypeReadable cfg fault share w) ∧
      ∀ snapshot t, CopiedFromSnapshot cfg fault share snapshot w t →
        ¬ Enforces cfg share group levels t := by
  refine ⟨⟨start.readable, fun readable locations t run => ?_⟩, fun snapshot t copied =>
    start.not_enforces_copied copied⟩
  -- The run is one of a world whose reads of types never fail.
  have honest' : Honest fun u op error => fault u op error ∧ ¬ ReadsType op :=
    ⟨fun u session request error raised => honest.alreadyThere u session request error raised.1,
      fun u session request error raised => honest.gone u session request error raised.1⟩
  have run' : Exec (service fun u op error => fault u op error ∧ ¬ ReadsType op)
      (createShare cfg share) w (.ok locations) t := by
    apply run.restrict
    intro u op v issued answer x answered
    rcases answered with equal | ⟨error, raised, failed, same⟩
    · exact Or.inl equal
    · exact Or.inr ⟨error, ⟨raised, fun reads => readable u op v issued reads error raised⟩, failed,
        same⟩
  exact run'.post (wp_createShare_enforces honest' (fun _ _ _ reads raised => raised.2 reads) start)

section Sample

/-- A driver with one policy group. -/
def groupConfig : Config :=
  { sampleConfig with securityPolicyGroup := some "gold:rw:10.0.0.0/24" }

/-- The sample share with a type that selects the group. -/
def groupShare : Share := { sampleShare .wekafs with shareTypeId := some "t1" }

/-- A snapshot of another share of the project. -/
def groupSnapshot : ShareSnapshot := ⟨"9f000000-0000-4000-8000-000000000009", groupShare⟩

/-- The project's organization with a filesystem and its snapshot. -/
def groupWorld : World where
  cluster := { Cluster.empty with
    organizations := Registry.empty.insert (projectOrg groupConfig (some "p1"))
    filesystems := Registry.empty.insert
      ⟨projectSession groupConfig (some "p1"), "manila_source", "default", gbToBytes 1, 0, true⟩
    snapshots := Registry.empty.insert
      ⟨projectSession groupConfig (some "p1"), snapshotName groupSnapshot.id, 0, false, "s"⟩ }
  host := { Host.empty with shareTypes := [("t1", [(policyGroupSpec, "gold")])] }

/-- The sample share is to join its group. -/
theorem groupWorld_start : GroupStart groupConfig groupShare "gold" [(.rw, ["10.0.0.0/24"])]
    groupWorld where
  protocol := rfl
  selects := ⟨"t1", [(policyGroupSpec, "gold")], by decide, by decide, by decide⟩
  configured := by decide
  addressed := ⟨.rw, by decide⟩
  own := fun _ cached => by cases cached
  missing := fun level => by cases level <;> rfl

/-- The equivalence for that share. -/
theorem enforces_sample :
    ((∀ locations t, Exec reliable (createShare groupConfig groupShare) groupWorld
        (.ok locations) t → Enforces groupConfig groupShare "gold" [(.rw, ["10.0.0.0/24"])] t) ↔
        TypeReadable groupConfig noFaults groupShare groupWorld) ∧
      ∀ snapshot t, CopiedFromSnapshot groupConfig noFaults groupShare snapshot groupWorld t →
        ¬ Enforces groupConfig groupShare "gold" [(.rw, ["10.0.0.0/24"])] t :=
  enforces_iff honest_noFaults groupWorld_start

/-- The share made from the snapshot, with its copy started. -/
def copyStarted : World :=
  ((createShareFromSnapshot groupConfig groupShare groupSnapshot).run respond groupWorld).2

/-- The copy that was started. -/
def groupJob : CopyJob where
  share := groupShare
  snapshotId := groupSnapshot.id
  accessPoint := "s"
  srcFsName := "manila_source"
  newFsName := groupConfig.shareName groupShare.id

/-- The share made from the snapshot, with its copy completed. -/
def copyCompleted : World := ((runSnapshotCopy groupConfig groupJob).run respond copyStarted).2

/-- A share made from a snapshot completes without a policy. -/
theorem copied_share_is_unrestricted :
    GroupStart groupConfig groupShare "gold" [(.rw, ["10.0.0.0/24"])] groupWorld ∧
    CopiedFromSnapshot groupConfig noFaults groupShare groupSnapshot groupWorld copyCompleted ∧
    ¬ Enforces groupConfig groupShare "gold" [(.rw, ["10.0.0.0/24"])] copyCompleted := by
  have creates : Exec reliable (createShareFromSnapshot groupConfig groupShare groupSnapshot)
      groupWorld _ copyStarted := exec_run _ _
  have copies : Exec reliable (runSnapshotCopy groupConfig groupJob) copyStarted _ copyCompleted :=
    exec_run _ _
  refine ⟨groupWorld_start, ⟨_, copyStarted, groupJob, creates, by decide, copies, by decide⟩,
    fun enforces => ?_⟩
  obtain ⟨fs, policy, _, found, _⟩ := enforces .rw (by decide)
  have missing : copyCompleted.cluster.policies.find?
    (groupKey (projectSession groupConfig groupShare.projectId) "gold" .rw) = none := by decide
  rw [missing] at found
  cases found

end Sample

end WekaShareDriver
