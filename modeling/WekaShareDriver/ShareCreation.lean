import WekaShareDriver.CopyUses
import WekaShareDriver.GroupPolicies

/-! # Creating a WEKAFS share

A WEKAFS share is created in two steps: its filesystem is found or made in its
project's organization (`WekaShareDriver.wp_openFilesystem`), and then joins the
policies of the group its type selects
(`WekaShareDriver.wp_ensureGroupPolicies`). The read of the type's extra specs is
the only call whose failure is taken for an answer: the share then joins none.
-/

namespace WekaShareDriver

open Foundation Program

/-- The cached session of a project is its own. -/
def OwnSession (cfg : Config) (projectId : Option String) (w : World) : Prop :=
  ∀ session, w.host.orgClients.get? (projectId.getD "") = some session →
    session = projectSession cfg projectId

/-- Find or make the filesystem of a share in its project's organization. -/
def openFilesystem (cfg : Config) (share : Share) : Driver (Entry Filesystem) := do
  let session ← orgClient cfg share.projectId
  createFilesystemIdempotent session (cfg.shareName share.id) cfg.filesystemGroup
    (gbToBytes share.size) true

/-- The world once the filesystem of a share is there. -/
structure Opened (cfg : Config) (share : Share) (w t : World) (fs : Entry Filesystem) : Prop where
  policies : t.cluster.policies = w.cluster.policies
  shareTypes : t.host.shareTypes = w.host.shareTypes
  own : OwnSession cfg share.projectId t
  found : t.cluster.filesystems.find?
    (projectSession cfg share.projectId, cfg.shareName share.id) = some fs
  filesystems : t.cluster.filesystems = w.cluster.filesystems ∨
    w.cluster.filesystems.find? (projectSession cfg share.projectId, cfg.shareName share.id) =
      none ∧ t.cluster.filesystems = w.cluster.filesystems.insert
        (newFilesystem (projectSession cfg share.projectId) (cfg.shareName share.id)
          cfg.filesystemGroup (gbToBytes share.size) true)

/-- The policies of a group after a filesystem joined them. -/
structure GroupJoined (session : Session) (fsUid : Uid) (group : String)
    (levels : Dict Level (List String)) (w t : World) : Prop where
  filesystems : t.cluster.filesystems = w.cluster.filesystems
  others : ∀ key, (∀ level, key ≠ groupKey session group level) →
    t.cluster.policies.find? key = w.cluster.policies.find? key
  joined : ∀ level, levelIps levels level ≠ [] → ∃ entry,
    t.cluster.policies.find? (groupKey session group level) = some entry ∧
      Joined fsUid level (levelIps levels level)
        (w.cluster.policies.find? (groupKey session group level)) entry
  skipped : ∀ level, levelIps levels level = [] →
    t.cluster.policies.find? (groupKey session group level) =
      w.cluster.policies.find? (groupKey session group level)

variable {cfg : Config} {share : Share} {fault : Fault} {group : String} {fsUid : Uid}
  {levels : Dict Level (List String)} {w t u : World} {fs : Entry Filesystem}

/-- The cached session is still the project's own once it was opened. -/
theorem OwnSession.prepared (own : OwnSession cfg share.projectId w)
    (prepared : Prepared cfg share.projectId w t) : OwnSession cfg share.projectId t := by
  intro session cached
  rcases prepared.orgClients with same | put
  · rw [same] at cached
    exact own session cached
  · rw [put, Dict.get?_assign_self, Option.some.injEq] at cached
    exact cached.symm

/-- A share selects its group whatever else changes than the share types. -/
theorem SelectsGroup.of_shareTypes (selects : SelectsGroup share group w)
    (same : t.host.shareTypes = w.host.shareTypes) : SelectsGroup share group t := by
  unfold SelectsGroup
  rw [same]
  exact selects

/-- The session of a project with its own session cached or none. -/
theorem wp_orgClient_own (own : OwnSession cfg share.projectId w) :
    (orgClient cfg share.projectId).wp (service fault)
      (passing (Prepared cfg share.projectId w))
      (ending
        (fun session t => Prepared cfg share.projectId w t ∧
          session = projectSession cfg share.projectId)
        (fun _ t => Prepared cfg share.projectId w t)) w := by
  by_cases project : hasProject share.projectId = true
  · refine wp_weaken (wp_orgClient project) (fun _ passed => passed) (fun session t opened => ?_)
      fun _ _ raised => raised.2
    obtain ⟨prepared, cached | new⟩ := opened
    · exact ⟨prepared, own session cached⟩
    · exact ⟨prepared, new⟩
  · rw [Bool.not_eq_true] at project
    unfold orgClient
    rw [if_pos project]
    exact .refl w

/-- A WEKAFS share is created by opening its filesystem and joining its group. -/
theorem createShare_wekafs (protocol : share.shareProto = .wekafs) :
    createShare cfg share = (openFilesystem cfg share >>= fun fs => do
      ensureGroupPolicies cfg share fs.uid
      return buildExportLocations cfg share (cfg.shareName share.id) (some fs.uid) .wekafs) := by
  have isolated : isIsolatedWekafs share = true := by
    unfold isIsolatedWekafs
    rw [protocol]
    rfl
  unfold createShare openFilesystem clientForShare
  rw [protocol, isolated, LawfulMonad.bind_assoc]
  rfl

/-- The filesystem is found or made, and nothing else of the share. -/
theorem wp_openFilesystem (own : OwnSession cfg share.projectId w) :
    (openFilesystem cfg share).wp (service fault)
      (passing fun t => t.cluster.policies = w.cluster.policies)
      (ending (fun fs t => Opened cfg share w t fs)
        (fun _ t => t.cluster.policies = w.cluster.policies)) w := by
  have policies : ∀ t, Prepared cfg share.projectId w t →
      t.cluster.policies = w.cluster.policies := by
    intro t prepared
    rw [prepared.cluster]
  refine wp_bind_of _ (wp_weaken (wp_orgClient_own own) (fun t passed => policies t passed)
    (fun _ _ done => done) fun _ t raised => policies t raised) fun session t opened => ?_
  obtain ⟨prepared, rfl⟩ := opened
  have filesystems : t.cluster.filesystems = w.cluster.filesystems := by rw [prepared.cluster]
  have kept : ∀ v, MaybeCreated (newFilesystem (projectSession cfg share.projectId)
      (cfg.shareName share.id) cfg.filesystemGroup (gbToBytes share.size) true) t v →
      v.cluster.policies = w.cluster.policies := by
    intro v created
    rcases created with rfl | ⟨_, rfl⟩
    · exact policies v prepared
    · exact policies t prepared
  refine wp_weaken wp_createFilesystemIdempotent kept (fun fs v reached => ?_)
    fun _ v raised => kept v (Or.inl raised.2)
  obtain ⟨created, found⟩ := reached
  refine ⟨kept v created, ?_, ?_, found, ?_⟩
  · rcases created with rfl | ⟨_, rfl⟩
    · rw [prepared.host]
    · change t.host.shareTypes = _
      rw [prepared.host]
  · have there : OwnSession cfg share.projectId t := own.prepared prepared
    rcases created with rfl | ⟨_, rfl⟩
    · exact there
    · exact there
  · rcases created with rfl | ⟨free, rfl⟩
    · exact Or.inl filesystems
    · rw [filesystems] at free
      exact Or.inr ⟨free, by rw [← filesystems]⟩

/-- A filesystem joins the policies of its group, unless the read of the share's
type fails. -/
theorem wp_ensureGroupPolicies (honest : Honest fault) (selects : SelectsGroup share group w)
    (configured : cfg.policyGroups.get? group = some levels) (own : OwnSession cfg share.projectId w) :
    (ensureGroupPolicies cfg share fsUid).wp (service fault)
      (passing fun t => ∀ key,
        (∀ level, key ≠ groupKey (projectSession cfg share.projectId) group level) →
          t.cluster.policies.find? key = w.cluster.policies.find? key)
      (ending
        (fun _ t => GroupJoined (projectSession cfg share.projectId) fsUid group levels w t ∨
          (∃ op error, ReadsType op ∧ fault w op error) ∧ t = w)
        (fun _ _ => True)) w := by
  unfold ensureGroupPolicies
  rw [wp_bind, onOk_ending]
  refine wp_sharePolicyGroup_selected selects (fun _ _ _ _ => rfl) ?_
    fun op error reads raised => Or.inr ⟨⟨op, error, reads, raised⟩, rfl⟩
  rw [ending_ok]
  dsimp only
  rw [configured]
  by_cases empty : levels = []
  · subst empty
    exact Or.inl ⟨rfl, fun _ _ => rfl, fun level some' => absurd rfl some', fun _ _ => rfl⟩
  · have kept : (some levels).filter (· ≠ []) = some levels := by
      rw [Option.filter_some, decide_eq_true empty]
      rfl
    rw [kept]
    dsimp only
    have prepares : ∀ v, Prepared cfg share.projectId w v →
        v.cluster.policies = w.cluster.policies := by
      intro v prepared
      rw [prepared.cluster]
    refine wp_bind_of _ (wp_weaken (wp_orgClient_own own)
      (fun v prepared key _ => by rw [prepares v prepared]) (fun _ _ done => done)
      fun _ _ _ => trivial) fun session v opened => ?_
    obtain ⟨prepared, rfl⟩ := opened
    have policies := prepares v prepared
    refine wp_bind_of _ (wp_weaken (wp_ensureGroupPolicy honest)
      (fun x frame key foreign => (frame.others key foreign).trans (by rw [policies]))
      (fun _ _ done => done) fun _ _ _ => trivial) fun _ x first => ?_
    refine wp_weaken (wp_ensureGroupPolicy honest)
      (fun y frame key foreign => (frame.others key foreign).trans
        ((first.others key (foreign .rw)).trans (by rw [policies])))
      (fun _ y second => Or.inl ?_) fun _ _ _ => trivial
    have apart : groupKey (projectSession cfg share.projectId) group .rw ≠
        groupKey (projectSession cfg share.projectId) group .ro := fun same =>
      Level.noConfusion (groupKey_injective same)
    refine ⟨?_, fun key foreign => ?_, fun level some' => ?_, fun level none' => ?_⟩
    · rw [second.world, first.world]
      change v.cluster.filesystems = _
      rw [prepared.cluster]
    · rw [second.others key (foreign .ro), first.others key (foreign .rw), policies]
    · cases level with
      | rw =>
          obtain ⟨entry, found, joined⟩ := first.joined some'
          rw [policies] at joined
          exact ⟨entry, (second.others _ apart).trans found, joined⟩
      | ro =>
          obtain ⟨entry, found, joined⟩ := second.joined some'
          rw [first.others _ apart.symm, policies] at joined
          exact ⟨entry, found, joined⟩
    · cases level with
      | rw => rw [second.others _ apart, first.skipped none', policies]
      | ro => rw [second.skipped none', first.others _ apart.symm, policies]

end WekaShareDriver
