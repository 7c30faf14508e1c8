import WekaShareDriver.ShareCalls
import WekaShareDriver.Tenancy
import WekaShareDriver.UndisturbedCreates

/-! # Repeating an operation that creates

Creating a share finds what an earlier creation of it left, and changes nothing more.
Creating a snapshot a second time is refused. Together with the responses that may be
lost to a single request, this says which creations may be repeated
(`WekaShareDriver.creates_repeatable_iff`).
-/

namespace WekaShareDriver

open Foundation Program

/-- Opening the session of a share finds it without changing anything. -/
def SessionKept (share : Share) (session : Session) (w : World) : Prop :=
  if isIsolatedWekafs share then
    hasProject share.projectId = true ∧
      w.host.orgClients.get? (share.projectId.getD "") = some session
  else session = .admin

/-- The policy of a group at a level with addresses is attached to a filesystem. -/
def LevelAttached (session : Session) (fsUid : Uid) (group : String) (level : Level)
    (ips : List String) (w : World) : Prop :=
  ips ≠ [] → ∃ entry, w.cluster.policies.find? (groupKey session group level) = some entry ∧
    fsUid ∈ entry.val.attached

/-- The group that a share's type selects; a type that is not known selects none. -/
def selectedGroup (share : Share) (w : World) : Option String :=
  (share.shareTypeId.filter (· ≠ "")).bind fun typeId =>
    (w.host.shareTypes.get? typeId).bind fun specs =>
      (Dict.get? specs policyGroupSpec).filter (· ≠ "")

/-- What the creation of a share leaves. -/
structure Created (cfg : Config) (share : Share) (session : Session) (fs : Entry Filesystem)
    (w : World) : Prop where
  kept : SessionKept share session w
  filesystem : w.cluster.filesystems.find? (session, cfg.shareName share.id) = some fs
  attached : isIsolatedWekafs share = true → ∀ group, selectedGroup share w = some group →
    ∀ levels, (cfg.policyGroups.get? group).filter (· ≠ []) = some levels → ∀ level,
      LevelAttached session fs.uid group level (levelIps levels level) w

variable {cfg : Config} {share : Share} {session : Session} {fs : Entry Filesystem} {w t : World}

/-! ## The parts -/

/-- The project's session, once opened, stays open. -/
theorem orgClient_kept (w : World) :
    (orgClient cfg share.projectId).wp reliable (passing fun _ => True)
      (ending
        (fun session t => hasProject share.projectId = true ∧
          t.host.orgClients.get? (share.projectId.getD "") = some session)
        (fun _ _ => True)) w := by
  by_cases project : hasProject share.projectId = true
  · unfold orgClient
    simp only [project, Bool.true_eq_false, ↓reduceIte]
    rw [wp_bind, onOk_ending, wp_onHost]
    refine ⟨⟨trivial, ?_⟩, fun _ impossible => impossible.elim⟩
    simp only [Host.answer, ending_ok]
    cases cached : w.host.orgClients.get? (share.projectId.getD "") with
    | some session => exact ⟨trivial, cached⟩
    | none =>
        refine wp_bind_of (fun _ _ => True) (wp_weaken wp_ensureOrg (fun _ _ => trivial)
          (fun _ _ _ => trivial) fun _ _ _ => trivial) fun _ t _ => ?_
        rw [wp_bind, onOk_ending, login, wp_perform_withFaults]
        refine ⟨⟨trivial, ?_⟩, fun _ impossible => impossible.elim⟩
        cases (respond (.login (cfg.orgName share.projectId) cfg.orgUser
          (cfg.orgPassword share.projectId)) t).1 with
        | error error => trivial
        | ok session =>
            rw [ending_ok, wp_bind, onOk_ending, wp_onHost]
            exact ⟨⟨trivial, trivial, Dict.get?_assign_self ..⟩, fun _ impossible => impossible.elim⟩
  · rw [orgClient_without_project project]
    trivial

/-- An open session is found again. -/
theorem orgClient_again (project : hasProject share.projectId = true)
    (cached : w.host.orgClients.get? (share.projectId.getD "") = some session) :
    (orgClient cfg share.projectId).wp reliable (passing fun _ => True)
      (ending (fun session' t => session' = session ∧ t = w) fun _ _ => False) w := by
  unfold orgClient
  simp only [project, Bool.true_eq_false, ↓reduceIte]
  rw [wp_bind, onOk_ending, wp_onHost]
  refine ⟨⟨trivial, ?_⟩, fun _ impossible => impossible.elim⟩
  simp only [Host.answer, ending_ok, cached]
  exact ⟨rfl, rfl⟩

private theorem sharePolicyGroup_reliable (w : World) :
    (sharePolicyGroup share).wp reliable (passing fun _ => True)
      (ending (fun group t => group = selectedGroup share w ∧ t = w) fun _ _ => False) w := by
  unfold sharePolicyGroup selectedGroup
  cases share.shareTypeId.filter (· ≠ "") with
  | none => exact ⟨rfl, rfl⟩
  | some typeId =>
      dsimp only
      rw [wp_tryCatch, onError_ending, wp_bind, onOk_ending, wp_onHost]
      refine ⟨⟨trivial, ?_⟩, fun _ impossible => impossible.elim⟩
      cases known : w.host.shareTypes.get? typeId with
      | none =>
          simp only [Host.answer, known, Option.bind_some, Option.bind_none]
          exact ⟨rfl, rfl⟩
      | some specs =>
          simp only [Host.answer, known, Option.bind_some]
          exact ⟨rfl, rfl⟩

/-- A policy that is attached is found and left alone. -/
theorem ensureGroupPolicy_again {fsUid : Uid} {group : String} {level : Level} {ips : List String}
    (attached : LevelAttached session fsUid group level ips w) :
    (ensureGroupPolicy session fsUid group level ips).wp reliable (passing fun _ => True)
      (ending (fun _ t => t = w) fun _ _ => False) w := by
  unfold ensureGroupPolicy
  rw [wp_ite]
  split
  · next some' =>
      obtain ⟨entry, found, there⟩ := attached some'
      rw [wp_bind, onOk_ending]
      refine wp_getSecurityPolicyByName trivial ?_ fun _ impossible => impossible.elim
      have found' : w.cluster.policies.find? (session, groupPolicyName group level) = some entry :=
        found
      rw [ending_ok, found']
      change (attachPolicy session fsUid entry.uid).wp _ _ _ w
      unfold attachPolicy
      rw [wp_tryCatch, onError_ending]
      refine wp_attachFsSecurityPolicy found (fun _ missing => absurd there missing) (fun _ => ?_)
        fun _ impossible => impossible.elim
      exact ⟨trivial, rfl⟩
  · rfl

/-- Once the policies of the levels are attached, making them changes nothing. -/
theorem ensureGroupPolicies_again {fsUid : Uid} (project : hasProject share.projectId = true)
    (cached : w.host.orgClients.get? (share.projectId.getD "") = some session)
    (attached : ∀ group, selectedGroup share w = some group →
      ∀ levels, (cfg.policyGroups.get? group).filter (· ≠ []) = some levels → ∀ level,
        LevelAttached session fsUid group level (levelIps levels level) w) :
    (ensureGroupPolicies cfg share fsUid).wp reliable (passing fun _ => True)
      (ending (fun _ t => t = w) fun _ _ => False) w := by
  refine wp_bind_of _ (sharePolicyGroup_reliable w) fun selected t read => ?_
  obtain ⟨rfl, rfl⟩ := read
  cases selected : selectedGroup share t with
  | none => rfl
  | some group =>
      dsimp only
      cases configured : (cfg.policyGroups.get? group).filter (· ≠ []) with
      | none => rfl
      | some levels =>
          have joined := attached group selected levels configured
          refine wp_bind_of _ (orgClient_again project cached) fun session' u opened => ?_
          obtain ⟨rfl, rfl⟩ := opened
          refine wp_bind_of _ (ensureGroupPolicy_again (joined .rw)) fun _ v same => ?_
          subst same
          exact ensureGroupPolicy_again (joined .ro)

/-- Making the policies of a group attaches those of its levels. -/
theorem ensureGroupPolicies_attached {fsUid : Uid} (project : hasProject share.projectId = true)
    (cached : w.host.orgClients.get? (share.projectId.getD "") = some session) :
    (ensureGroupPolicies cfg share fsUid).wp reliable (passing fun _ => True)
      (ending
        (fun _ t => t = { w with cluster := { w.cluster with policies := t.cluster.policies } } ∧
          ∀ group, selectedGroup share w = some group →
            ∀ levels, (cfg.policyGroups.get? group).filter (· ≠ []) = some levels → ∀ level,
              LevelAttached session fsUid group level (levelIps levels level) t)
        (fun _ _ => True)) w := by
  refine wp_bind_of _ (wp_weaken (sharePolicyGroup_reliable w) (fun _ _ => trivial)
    (fun _ _ done => done) fun _ _ _ => trivial) fun selected t read => ?_
  obtain ⟨rfl, rfl⟩ := read
  cases selected : selectedGroup share t with
  | none => exact ⟨rfl, fun group impossible => by cases impossible⟩
  | some group =>
      dsimp only
      cases configured : (cfg.policyGroups.get? group).filter (· ≠ []) with
      | none =>
          refine ⟨rfl, fun group' same levels configured' => ?_⟩
          cases same
          rw [configured] at configured'
          cases configured'
      | some levels =>
          refine wp_bind_of _ (wp_weaken (orgClient_again project cached) (fun _ _ => trivial)
            (fun _ _ done => done) fun _ _ _ => trivial) fun session' u opened => ?_
          obtain ⟨rfl, rfl⟩ := opened
          refine wp_bind_of _ (wp_weaken (wp_ensureGroupPolicy honest_noFaults) (fun _ _ => trivial)
            (fun _ _ done => done) fun _ _ _ => trivial) fun _ v first => ?_
          refine wp_weaken (wp_ensureGroupPolicy honest_noFaults) (fun _ _ => trivial)
            (fun _ x second => ?_) fun _ _ _ => trivial
          have apart : groupKey session' group .rw ≠ groupKey session' group .ro := fun same =>
            Level.noConfusion (groupKey_injective same)
          refine ⟨?_, ?_⟩
          · rw [second.world, first.world]
          · intro group' same levels' configured' level some'
            cases same
            rw [configured, Option.some.injEq] at configured'
            subst configured'
            cases level with
            | rw =>
                obtain ⟨entry, found, joined⟩ := first.joined some'
                exact ⟨entry, (second.others _ apart).trans found, joined.attached⟩
            | ro =>
                obtain ⟨entry, found, joined⟩ := second.joined some'
                exact ⟨entry, found, joined.attached⟩

/-- A filesystem that is there is found and left alone. -/
theorem createFilesystemIdempotent_again {fsName groupName : String} {sizeBytes : Nat}
    {authRequired : Bool} (found : w.cluster.filesystems.find? (session, fsName) = some fs) :
    (createFilesystemIdempotent session fsName groupName sizeBytes authRequired).wp reliable
      (passing fun _ => True) (ending (fun fs' t => fs' = fs ∧ t = w) fun _ _ => False) w := by
  unfold createFilesystemIdempotent
  rw [wp_bind, onOk_ending]
  refine wp_getFilesystemByName trivial ?_ fun _ impossible => impossible.elim
  rw [ending_ok, found]
  exact ⟨rfl, rfl⟩

/-! ## Shares -/

private theorem isIsolatedWekafs_eq (wekafs : share.shareProto = .wekafs) :
    isIsolatedWekafs share = true := by
  unfold isIsolatedWekafs
  rw [wekafs]
  rfl

private theorem isIsolatedWekafs_nfs (nfs : share.shareProto = .nfs) :
    isIsolatedWekafs share = false := by
  unfold isIsolatedWekafs
  rw [nfs]
  rfl

/-- What a share is created as can be found again. -/
theorem createShare_created (w : World) :
    (createShare cfg share).wp reliable (passing fun _ => True)
      (ending
        (fun locations t => ∃ session fs, Created cfg share session fs t ∧
          (share.shareProto = .wekafs ∨ share.shareProto = .nfs) ∧
          locations = buildExportLocations cfg share (cfg.shareName share.id) (some fs.uid)
            share.shareProto)
        (fun _ _ => True)) w := by
  cases protocol : share.shareProto with
  | other name =>
      unfold createShare
      rw [protocol]
      trivial
  | nfs =>
      unfold createShare
      rw [protocol, isIsolatedWekafs_nfs protocol]
      dsimp only
      rw [clientForShare_nfs protocol, LawfulMonad.pure_bind]
      refine wp_bind_of _ (wp_weaken wp_createFilesystemIdempotent (fun _ _ => trivial)
        (fun _ _ done => done) fun _ _ _ => trivial) fun fs t reached => ?_
      refine ⟨.admin, fs, ⟨?_, reached.2, ?_⟩, Or.inr rfl, rfl⟩
      · unfold SessionKept
        rw [isIsolatedWekafs_nfs protocol]
        rfl
      · intro isolated
        rw [isIsolatedWekafs_nfs protocol] at isolated
        cases isolated
  | wekafs =>
      rw [createShare_wekafs protocol]
      unfold openFilesystem
      rw [LawfulMonad.bind_assoc]
      refine wp_bind_of _ (orgClient_kept w) fun session t opened => ?_
      obtain ⟨project, cached⟩ := opened
      refine wp_bind_of _ (wp_weaken wp_createFilesystemIdempotent (fun _ _ => trivial)
        (fun _ _ done => done) fun _ _ _ => trivial) fun fs u reached => ?_
      obtain ⟨created, found⟩ := reached
      have host : u.host = t.host := by
        rcases created with rfl | ⟨_, rfl⟩
        · rfl
        · rfl
      rw [← host] at cached
      refine wp_bind_of _ (ensureGroupPolicies_attached project cached) fun _ v joined => ?_
      obtain ⟨world, attached⟩ := joined
      have host' : v.host = u.host := by rw [world]
      refine ⟨session, fs, ⟨?_, ?_, ?_⟩, Or.inl rfl, rfl⟩
      · unfold SessionKept
        rw [isIsolatedWekafs_eq protocol, host']
        exact ⟨project, cached⟩
      · rw [world]
        exact found
      · intro _ group selected
        unfold selectedGroup at selected
        rw [host'] at selected
        exact attached group selected

/-- Creating a share again finds all of it and changes nothing. -/
theorem createShare_again (created : Created cfg share session fs w)
    (protocol : share.shareProto = .wekafs ∨ share.shareProto = .nfs) :
    (createShare cfg share).wp reliable (passing fun _ => True)
      (ending
        (fun locations t => locations = buildExportLocations cfg share (cfg.shareName share.id)
          (some fs.uid) share.shareProto ∧ t = w)
        (fun _ _ => False)) w := by
  have kept := created.kept
  unfold SessionKept at kept
  rcases protocol with wekafs | nfs
  · rw [isIsolatedWekafs_eq wekafs] at kept
    obtain ⟨project, cached⟩ := kept
    rw [createShare_wekafs wekafs, wekafs]
    unfold openFilesystem
    rw [LawfulMonad.bind_assoc]
    refine wp_bind_of _ (orgClient_again project cached) fun session' t opened => ?_
    obtain ⟨rfl, rfl⟩ := opened
    refine wp_bind_of _ (createFilesystemIdempotent_again created.filesystem) fun fs' u found => ?_
    obtain ⟨rfl, rfl⟩ := found
    refine wp_bind_of _ (ensureGroupPolicies_again project cached
      (created.attached (isIsolatedWekafs_eq wekafs))) fun _ v same => ?_
    exact ⟨rfl, same⟩
  · rw [isIsolatedWekafs_nfs nfs] at kept
    obtain rfl : session = .admin := kept
    unfold createShare
    rw [nfs, isIsolatedWekafs_nfs nfs]
    dsimp only
    rw [clientForShare_nfs nfs, LawfulMonad.pure_bind]
    refine wp_bind_of _ (createFilesystemIdempotent_again created.filesystem) fun fs' u found => ?_
    obtain ⟨rfl, rfl⟩ := found
    exact ⟨rfl, rfl⟩

/-! ## Snapshots -/

/-- A program that only lists filesystems runs alike on the same filesystems. -/
theorem exec_lists {α : Type} {program : Driver α}
    (lists : program.Uses (· = .api session .listFilesystems)) {outcome : Except Error α} {u : World}
    (same : u.cluster.filesystems = w.cluster.filesystems)
    (run : Exec reliable program w outcome t) : t = w ∧ Exec reliable program u outcome u := by
  induction run with
  | ret value s => exact ⟨rfl, .ret _ _⟩
  | fail error s => exact ⟨rfl, .fail _ _⟩
  | @call op next s v x answer outcome answered _ ih =>
      obtain rfl := lists.1
      rcases answered with equal | ⟨_, impossible, _⟩
      · cases equal
        obtain ⟨rfl, later⟩ := ih (lists.2 _) same
        refine ⟨rfl, .call (Or.inl ?_) later⟩
        simp only [respond, Cluster.answer, same]
      · exact impossible.elim

/-- The name of a snapshot is taken in the filesystem its share is found by. -/
structure SnapshotTaken (cfg : Config) (snapshot : ShareSnapshot) (session : Session) (fsUid : Uid)
    (w : World) : Prop where
  kept : SessionKept snapshot.share session w
  located : Exec reliable (getFsUidForShare cfg session snapshot.share) w (.ok fsUid) w
  taken : (w.cluster.snapshots.find? (fsUid, snapshotName snapshot.id)).isSome

/-- Without faults, an opened session stays open. -/
theorem clientForShare_kept (w : World) :
    (clientForShare cfg share).wp reliable (passing fun _ => True)
      (ending (fun session t => SessionKept share session t) (fun _ _ => True)) w := by
  unfold clientForShare SessionKept
  cases isIsolatedWekafs share with
  | true => exact orgClient_kept w
  | false => rfl

private theorem clientForShare_again (kept : SessionKept share session w) :
    (clientForShare cfg share).wp reliable (passing fun _ => True)
      (ending (fun session' t => session' = session ∧ t = w) fun _ _ => False) w := by
  unfold SessionKept at kept
  unfold clientForShare
  cases isolated : isIsolatedWekafs share with
  | true =>
      rw [isolated] at kept
      exact orgClient_again kept.1 kept.2
  | false =>
      rw [isolated] at kept
      exact ⟨kept.symm, rfl⟩

/-- A created snapshot takes its name. -/
theorem createSnapshot_takes {snapshot : ShareSnapshot} (w : World) :
    (createSnapshot cfg snapshot).wp reliable (passing fun _ => True)
      (ending (fun _ t => ∃ session fsUid, SnapshotTaken cfg snapshot session fsUid t)
        fun _ _ => True) w := by
  refine wp_bind_of _ (clientForShare_kept w) fun session t kept => ?_
  refine wp_bind_of (fun fsUid u => u = t ∧
    Exec reliable (getFsUidForShare cfg session snapshot.share) t (.ok fsUid) t) ?_
    fun fsUid u located => ?_
  · refine wp_of_exec (fun outcome u run => ?_) fun _ _ _ _ => trivial
    cases outcome with
    | ok fsUid => exact exec_lists lists_getFsUidForShare rfl run
    | error error => trivial
  · obtain ⟨rfl, located⟩ := located
    rw [wp_bind, onOk_ending, wp_send]
    refine ⟨⟨trivial, ?_⟩, fun _ impossible => impossible.elim⟩
    simp only [Cluster.answer]
    split
    · next fs owned =>
        have uid : fs.uid = fsUid :=
          (Registry.get?_eq_some_iff.mp (Option.filter_eq_some_iff.mp owned).1).2
        subst uid
        unfold Cluster.create
        cases free : u.cluster.snapshots.find? (Keyed.key (⟨session, snapshotName snapshot.id,
            fs.uid, false, snapshotName snapshot.id⟩ : Snapshot)) with
        | some taken => trivial
        | none =>
            refine ⟨session, fs.uid, kept, (exec_lists lists_getFsUidForShare ?_ located).2, ?_⟩
            · rfl
            change ((u.cluster.snapshots.insert _).find? (Keyed.key (⟨session,
              snapshotName snapshot.id, fs.uid, false, snapshotName snapshot.id⟩ :
                Snapshot))).isSome
            rw [Registry.find?_insert _ _ free, Function.update_self]
            rfl
    · trivial

/-- A snapshot whose name is taken is refused. -/
theorem createSnapshot_again {snapshot : ShareSnapshot} {fsUid : Uid}
    (taken : SnapshotTaken cfg snapshot session fsUid w) :
    (createSnapshot cfg snapshot).wp reliable (passing fun _ => True)
      (ending (fun _ _ => False) fun _ _ => True) w := by
  refine wp_bind_of _ (wp_weaken (clientForShare_again taken.kept) (fun _ _ => trivial)
    (fun _ _ done => done) fun _ _ _ => trivial) fun session' t opened => ?_
  obtain ⟨rfl, rfl⟩ := opened
  refine wp_bind_of (fun fsUid' u => fsUid' = fsUid ∧ u = t) ?_ fun fsUid' u located => ?_
  · refine wp_of_exec (fun outcome u run => ?_) fun _ _ _ _ => trivial
    have only := exec_noFaults_iff.mp run
    rw [exec_noFaults_iff.mp taken.located] at only
    cases only
    exact ⟨rfl, rfl⟩
  · obtain ⟨rfl, rfl⟩ := located
    rw [wp_bind, onOk_ending, wp_send]
    refine ⟨⟨trivial, ?_⟩, fun _ impossible => impossible.elim⟩
    simp only [Cluster.answer]
    split
    · next fs owned =>
        have uid : fs.uid = fsUid' :=
          (Registry.get?_eq_some_iff.mp (Option.filter_eq_some_iff.mp owned).1).2
        subst uid
        obtain ⟨other, found⟩ := Option.isSome_iff_exists.mp taken.taken
        have found' : u.cluster.snapshots.find? (Keyed.key (⟨session', snapshotName snapshot.id,
          fs.uid, false, snapshotName snapshot.id⟩ : Snapshot)) = some other := found
        simp only [Cluster.create, found']
        trivial
    · trivial

/-! ## Repeating -/

/-- An operation may be repeated as follows. If it is undisturbed by lost responses
depends on the creates it does not recover from: it is if and only if no response to
one that the cluster executes can be lost. Creating a share again succeeds and changes
nothing; creating a snapshot again never succeeds. -/
theorem creates_repeatable_iff (cfg : Config) {maxRetries : Nat} (retried : 1 ≤ maxRetries)
    (losing : World → Op → Prop) :
    (∀ (call : CreateCall) (w : World),
      (∀ outcome t outcome' t', Exec (lossy maxRetries losing) (call.program cfg) w outcome t →
        Exec reliable (call.program cfg) w outcome' t' →
          outcome = outcome' ∧ t.cluster = t'.cluster) ↔
      ∀ u op v, Issues reliable (call.program cfg) w u op v → NotLost losing u op v) ∧
    (∀ (share : Share) (w t : World) (locations : List ExportLocation),
      Exec reliable (createShare cfg share) w (.ok locations) t → ∀ outcome u,
        Exec reliable (createShare cfg share) t outcome u →
          outcome = .ok locations ∧ u.cluster = t.cluster) ∧
    ∀ (snapshot : ShareSnapshot) (w t : World),
      Exec reliable (createSnapshot cfg snapshot) w (.ok ()) t → ∀ u,
        ¬ Exec reliable (createSnapshot cfg snapshot) t (.ok ()) u := by
  refine ⟨fun call w => ?_, ?_, ?_⟩
  · have agrees : (∀ outcome t outcome' t', Exec (lossy maxRetries losing) (call.program cfg) w
        outcome t → Exec reliable (call.program cfg) w outcome' t' →
          outcome = outcome' ∧ t.cluster = t'.cluster) ↔
        Agrees reliable (lossy maxRetries losing) Eq SameCluster (call.program cfg) w := by
      constructor
      · intro agrees outcome t outcome' t' astray straight
        obtain ⟨same, cluster⟩ := agrees _ _ _ _ astray straight
        exact ⟨same, cluster.symm⟩
      · intro agrees outcome t outcome' t' astray straight
        obtain ⟨same, cluster⟩ := agrees _ _ _ _ astray straight
        exact ⟨same, cluster.symm⟩
    rw [agrees, call_agrees_iff retried call w]
    constructor
    · exact fun careful u op v issued => issued.meets careful
    · exact wp_of_exec fun _ _ _ => trivial
  · intro share w t locations run outcome u again
    obtain ⟨session, fs, created, protocol, rfl⟩ := run.post (createShare_created w)
    have ended := again.post (createShare_again created protocol)
    cases outcome with
    | ok locations => exact ⟨congrArg _ ended.1, congrArg World.cluster ended.2⟩
    | error error => exact ended.elim
  · intro snapshot w t run u again
    obtain ⟨session, fsUid, taken⟩ := run.post (createSnapshot_takes w)
    exact again.post (createSnapshot_again taken)

/-- A cluster with the filesystem of the sample share as an NFS share. -/
def snapshotWorld : World where
  cluster := { Cluster.empty with
    filesystems := Registry.empty.insert
      ⟨.admin, sampleConfig.shareName (sampleShare .nfs).id, "default", gbToBytes 1, 0, false⟩ }
  host := Host.empty

/-- A snapshot of the sample share. -/
def sampleSnapshot : ShareSnapshot := ⟨"c3d4e5f6-0000-4000-8000-000000000004", sampleShare .nfs⟩

/-- The world once the sample share has its snapshot. -/
def snapshotTaken : World := ((createSnapshot sampleConfig sampleSnapshot).run respond snapshotWorld).2

private theorem snapshotTaken_run :
    Exec reliable (createSnapshot sampleConfig sampleSnapshot) snapshotWorld
    (.ok ()) snapshotTaken :=
  exec_noFaults_iff.mpr rfl

/-- The sample share's snapshot is not made twice. -/
theorem creates_repeatable_sample :
    ¬ ∃ u, Exec reliable (createSnapshot sampleConfig sampleSnapshot) snapshotTaken (.ok ()) u := by
  have retried : 1 ≤ 3 := by decide
  rintro ⟨u, run⟩
  exact (creates_repeatable_iff sampleConfig retried fun _ _ => True).2.2 sampleSnapshot snapshotWorld
    snapshotTaken snapshotTaken_run u run

/-- Creating a snapshot fails with a conflict when the response to its creation is
lost, although the cluster has made it. -/
theorem lost_response_fails_snapshot :
    Exec reliable (createSnapshot sampleConfig sampleSnapshot) snapshotWorld (.ok ()) snapshotTaken ∧
      Exec (lossy 3 fun _ _ => True) (createSnapshot sampleConfig sampleSnapshot) snapshotWorld
        (.error (.api (.conflict "/snapshots: already exists"))) snapshotTaken := by
  have retried : 1 ≤ 3 := by decide
  have executed : CreateExecuted (.api .admin (.createSnapshot 0
      (snapshotName sampleSnapshot.id) false)) snapshotWorld := ⟨_, _, rfl, rfl, _, rfl⟩
  refine ⟨snapshotTaken_run, .call ((lossy_iff retried).mpr (Or.inl rfl)) ?_⟩
  exact .call ((lossy_iff retried).mpr
    (Or.inr ⟨trivial, executed, rfl, "/snapshots: already exists", rfl⟩)) (.fail _ _)

end WekaShareDriver
