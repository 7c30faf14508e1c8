import WekaShareDriver.Faults
import WekaShareDriver.TenantUses

/-! # What the cluster keeps for a share

A share is kept as a volume: the size of its filesystem, what of it is in use, and the names of the
snapshots taken of it (`WekaShareDriver.Volume`). Volumes are kept by session and name, as the
filesystems of the cluster are. Five requests change them, each the one of the filesystem it
names.
-/

namespace WekaShareDriver

open Foundation Program

/-- A filesystem as a share's owner sees it. -/
structure Volume where
  size : Nat
  used : Nat
  snapshots : String → Bool

namespace Volume

/-- A volume that was just made. -/
def bare (size : Nat) : Volume := ⟨size, 0, fun _ => false⟩

/-- A volume of another size. -/
def resized (volume : Volume) (size : Nat) : Volume := { volume with size }

/-- A volume with a snapshot of a name, or without. -/
def marked (volume : Volume) (name : String) (taken : Bool) : Volume :=
  { volume with snapshots := Function.update volume.snapshots name taken }

end Volume

/-- Volumes by session and name. -/
abbrev Volumes : Type := Session × String → Option Volume

namespace Cluster

/-- The volume of a filesystem. -/
def volumeOf (cluster : Cluster) (fs : Entry Filesystem) : Volume :=
  ⟨fs.val.totalCapacity, fs.val.usedTotal,
    fun name => (cluster.snapshots.find? (fs.uid, name)).isSome⟩

/-- The volumes of the cluster. -/
def volumes (cluster : Cluster) : Volumes := fun key =>
  (cluster.filesystems.find? key).map cluster.volumeOf

/-- Every snapshot is of a filesystem that was made, and of its owner while that is there. -/
structure Rooted (cluster : Cluster) : Prop where
  below : ∀ snap ∈ cluster.snapshots.rows, snap.val.filesystemUid < cluster.filesystems.next
  owner : ∀ snap ∈ cluster.snapshots.rows, ∀ fs ∈ cluster.filesystems.rows,
    fs.uid = snap.val.filesystemUid → snap.val.org = fs.val.org

/-- The empty cluster has no snapshot without its filesystem. -/
theorem rooted_empty : Rooted .empty := by
  constructor
  · intro snap member
    cases member
  · intro snap member
    cases member

variable {cluster : Cluster} {key : Session × String} {fs : Entry Filesystem}
  {snap : Entry Snapshot}

/-! ## Changing one volume -/

/-- A filesystem that is found is owned by the session it was looked up in. -/
theorem owned_filesystem (found : cluster.filesystems.find? key = some fs) :
    owned cluster.filesystems fs.uid (fun val => val.org = key.1) = some fs := by
  have org : fs.val.org = key.1 := congrArg Prod.fst (Registry.find?_eq_some_iff.mp found).2
  rw [owned, Registry.get?_of_find? found, Option.filter_some, org]
  simp

/-- Filesystems found under different keys have different uids. -/
theorem uid_ne_of_key {other : Session × String} {fs' : Entry Filesystem}
    (found : cluster.filesystems.find? key = some fs)
    (found' : cluster.filesystems.find? other = some fs') (apart : other ≠ key) :
    fs'.uid ≠ fs.uid := by
  obtain ⟨member, named⟩ := Registry.find?_eq_some_iff.mp found
  obtain ⟨member', named'⟩ := Registry.find?_eq_some_iff.mp found'
  intro same
  rw [cluster.filesystems.eq_of_uid member' member same] at named'
  exact apart (named'.symm.trans named)

/-- Snapshots that differ for one filesystem only leave the other volumes. -/
theorem volumes_of_snapshots {cluster' : Cluster} (volume : Volume)
    (found : cluster.filesystems.find? key = some fs)
    (filesystems : cluster'.filesystems = cluster.filesystems)
    (own : cluster'.volumeOf fs = volume)
    (others : ∀ uid name, uid ≠ fs.uid →
      cluster'.snapshots.find? (uid, name) = cluster.snapshots.find? (uid, name)) :
    cluster'.volumes = Function.update cluster.volumes key (some volume) := by
  funext other
  by_cases same : other = key
  · subst same
    rw [Function.update_self, volumes, filesystems, found, Option.map_some, own]
  · rw [Function.update_of_ne same, volumes, filesystems, volumes]
    cases found' : cluster.filesystems.find? other with
    | none => rfl
    | some fs' =>
        have apart := uid_ne_of_key found found' same
        refine congrArg some ?_
        simp only [volumeOf, others fs'.uid _ apart]

/-- A created filesystem is an empty volume. -/
theorem volumes_created (rooted : cluster.Rooted) {val : Filesystem}
    (free : cluster.filesystems.find? (Keyed.key val) = none) :
    { cluster with filesystems := cluster.filesystems.insert val }.volumes =
      Function.update cluster.volumes (Keyed.key val)
        (some ⟨val.totalCapacity, val.usedTotal, fun _ => false⟩) := by
  have none' (name : String) :
      cluster.snapshots.find? (cluster.filesystems.next, name) = none := by
    refine Registry.find?_eq_none_iff.mpr fun snap member same => ?_
    have below := rooted.below snap member
    rw [show snap.val.filesystemUid = cluster.filesystems.next from congrArg Prod.fst same] at below
    exact lt_irrefl _ below
  funext other
  rw [volumes, Registry.find?_insert _ _ free]
  by_cases same : other = Keyed.key val
  · subst same
    rw [Function.update_self, Function.update_self, Option.map_some]
    simp only [volumeOf, none', Option.isSome_none]
  · rw [Function.update_of_ne same, Function.update_of_ne same]
    rfl

/-- A resized filesystem is a volume of that size. -/
theorem volumes_resized (found : cluster.filesystems.find? key = some fs) (totalCapacity : Nat)
    (keeps : ∀ val : Filesystem, Keyed.key { val with totalCapacity } = Keyed.key val) :
    { cluster with
      filesystems := cluster.filesystems.modify fs.uid
        (fun val => { val with totalCapacity }) keeps }.volumes =
      Function.update cluster.volumes key (some ((cluster.volumeOf fs).resized totalCapacity)) := by
  funext other
  rw [volumes, Registry.find?_modify found _ keeps]
  by_cases same : other = key
  · subst same
    rw [Function.update_self, Function.update_self]
    rfl
  · rw [Function.update_of_ne same, Function.update_of_ne same]
    rfl

private theorem find?_filter_snapshots (keep : Entry Snapshot → Bool) (key : Uid × String) :
    (cluster.snapshots.filter keep).find? key = (cluster.snapshots.find? key).filter keep := by
  cases found : (cluster.snapshots.find? key).filter keep with
  | some snap =>
      obtain ⟨found, kept⟩ := Option.filter_eq_some_iff.mp found
      obtain ⟨member, named⟩ := Registry.find?_eq_some_iff.mp found
      exact Registry.find?_eq_some_iff.mpr ⟨Registry.mem_filter.mpr ⟨member, kept⟩, named⟩
  | none =>
      refine Registry.find?_eq_none_iff.mpr fun snap member named => ?_
      obtain ⟨member, kept⟩ := Registry.mem_filter.mp member
      have listed := Registry.find?_eq_some_iff.mpr ⟨member, named⟩
      rw [listed, Option.filter_some, if_pos kept] at found
      cases found

/-- Of a deleted filesystem no volume is left. -/
theorem volumes_deleted (found : cluster.filesystems.find? key = some fs)
    (policies : Registry SecurityPolicy) :
    { cluster with
      filesystems := cluster.filesystems.erase fs.uid
      snapshots := cluster.snapshots.filter fun snap => snap.val.filesystemUid != fs.uid
      policies }.volumes = Function.update cluster.volumes key none := by
  funext other
  rw [volumes, Registry.find?_erase found]
  by_cases same : other = key
  · subst same
    rw [Function.update_self, Function.update_self]
    rfl
  · rw [Function.update_of_ne same, Function.update_of_ne same, volumes]
    cases found' : cluster.filesystems.find? other with
    | none => rfl
    | some fs' =>
        have apart := uid_ne_of_key found found' same
        refine congrArg some ?_
        simp only [volumeOf, find?_filter_snapshots]
        congr 1
        funext name
        cases listed : cluster.snapshots.find? (fs'.uid, name) with
        | none => rfl
        | some snap =>
            have named : snap.val.filesystemUid = fs'.uid :=
              congrArg Prod.fst (Registry.find?_eq_some_iff.mp listed).2
            rw [Option.filter_some, if_pos]
            rw [named]
            exact bne_iff_ne.mpr apart

/-- A snapshot of a filesystem is one more name in its volume. -/
theorem volumes_snapshotted (found : cluster.filesystems.find? key = some fs) {val : Snapshot}
    (of : val.filesystemUid = fs.uid)
    (free : cluster.snapshots.find? (Keyed.key val) = none) :
    { cluster with snapshots := cluster.snapshots.insert val }.volumes =
      Function.update cluster.volumes key (some ((cluster.volumeOf fs).marked val.name true)) := by
  have own : Keyed.key val = (fs.uid, val.name) := congrArg (·, val.name) of
  have lookup := Registry.find?_insert _ _ free
  rw [own] at lookup
  refine volumes_of_snapshots _ found rfl ?_ fun uid name apart => ?_
  · simp only [volumeOf, Volume.marked, lookup]
    congr 1
    funext name
    by_cases same : name = val.name
    · subst same
      rw [Function.update_self, Function.update_self]
      rfl
    · rw [Function.update_of_ne same, Function.update_of_ne fun equal =>
        same (congrArg Prod.snd equal)]
  · change (cluster.snapshots.insert val).find? (uid, name) = _
    rw [lookup, Function.update_of_ne fun equal => apart (congrArg Prod.fst equal)]

/-- A deleted snapshot is one name less in its volume. -/
theorem volumes_unsnapshotted (found : cluster.filesystems.find? key = some fs) {name : String}
    (taken : cluster.snapshots.find? (fs.uid, name) = some snap) :
    { cluster with snapshots := cluster.snapshots.erase snap.uid }.volumes =
      Function.update cluster.volumes key (some ((cluster.volumeOf fs).marked name false)) := by
  have lookup := Registry.find?_erase taken
  refine volumes_of_snapshots _ found rfl ?_ fun uid name' apart => ?_
  · simp only [volumeOf, Volume.marked, lookup]
    congr 1
    funext name'
    by_cases same : name' = name
    · subst same
      rw [Function.update_self, Function.update_self]
      rfl
    · rw [Function.update_of_ne same, Function.update_of_ne fun equal =>
        same (congrArg Prod.snd equal)]
  · change (cluster.snapshots.erase snap.uid).find? (uid, name') = _
    rw [lookup, Function.update_of_ne fun equal => apart (congrArg Prod.fst equal)]

end Cluster

/-! ## Requests -/

/-- The requests that change what is kept for shares. -/
def Request.stores : Request → Bool
  | .createFilesystem .. => true
  | .updateFilesystem .. => true
  | .deleteFilesystem _ => true
  | .createSnapshot .. => true
  | .deleteSnapshot _ => true
  | _ => false

/-- The same filesystems and snapshots. -/
structure SameStorage (w t : World) : Prop where
  filesystems : t.cluster.filesystems = w.cluster.filesystems
  snapshots : t.cluster.snapshots = w.cluster.snapshots

/-- A world keeps what it keeps. -/
theorem SameStorage.refl (w : World) : SameStorage w w := ⟨rfl, rfl⟩

/-- What is kept twice is kept. -/
theorem SameStorage.trans {u v w : World} (first : SameStorage u v) (second : SameStorage v w) :
    SameStorage u w :=
  ⟨second.filesystems.trans first.filesystems, second.snapshots.trans first.snapshots⟩

variable {fault : Fault} {w t : World} {key : Session × String} {fs : Entry Filesystem}

/-- Where storage is the same, the volumes are. -/
theorem SameStorage.volumes (same : SameStorage w t) : t.cluster.volumes = w.cluster.volumes := by
  have of : t.cluster.volumeOf = w.cluster.volumeOf := by
    funext fs
    simp only [Cluster.volumeOf, same.snapshots]
  funext key
  simp only [Cluster.volumes, same.filesystems, of]

/-- Where storage is the same, snapshots still belong to their filesystems. -/
theorem SameStorage.rooted (same : SameStorage w t) (rooted : w.cluster.Rooted) :
    t.cluster.Rooted := by
  constructor
  · rw [same.filesystems, same.snapshots]
    exact rooted.below
  · rw [same.filesystems, same.snapshots]
    exact rooted.owner

/-- An operation that changes nothing that is kept for shares. -/
def Quiet (op : Op) : Prop :=
  ∀ session request, op = .api session request → request.stores = false

/-- A request that stores nothing changes nothing that is kept for shares. -/
theorem quiet_request {session : Session} {request : Request} (quiet : request.stores = false) :
    Quiet (.api session request) := by
  intro session' request' same
  cases same
  exact quiet

/-- An operation that sets up changes nothing that is kept for shares. -/
theorem SetupOp.quiet {op : Op} (setup : SetupOp op) : Quiet op := by
  rintro session request rfl
  cases request with
  | listOrganizations | createOrganization name username password | listFilesystems => rfl
  | _ => exact setup.elim

/-- A request about policies changes nothing that is kept for shares. -/
theorem PolicyOp.quiet {session : Session} {op : Op} (policy : PolicyOp session op) :
    Quiet op := by
  obtain ⟨request, rfl, about⟩ := policy
  refine quiet_request ?_
  cases request with
  | createFilesystem | updateFilesystem | deleteFilesystem | createSnapshot | deleteSnapshot =>
      cases about
  | _ => rfl

/-- A request about exports changes nothing that is kept for shares. -/
theorem ExportOp.quiet {fsName : String} {targets : Uid → Prop} {op : Op}
    (exports : ExportOp fsName targets op) : Quiet op := by
  obtain ⟨request, rfl, about⟩ := exports
  refine quiet_request ?_
  cases request with
  | createFilesystem | updateFilesystem | deleteFilesystem | createSnapshot | deleteSnapshot =>
      exact about.elim
  | _ => rfl

/-- Such an operation keeps the storage, whatever it answers. -/
theorem Quiet.kept {op : Op} {answer : Except Error op.Res} (quiet : Quiet op)
    (answered : service fault w op answer t) : SameStorage w t := by
  rcases answered_world answered with rfl | rfl
  · cases op with
    | api session request =>
        have plain := quiet session request rfl
        cases request with
        | createFilesystem | updateFilesystem | deleteFilesystem | createSnapshot
          | deleteSnapshot => cases plain
        | _ =>
            simp only [respond, Cluster.answer]
            repeat' split
            all_goals exact ⟨rfl, rfl⟩
    | login org username password => exact ⟨rfl, rfl⟩
    | host call => exact ⟨rfl, rfl⟩
  · exact .refl _

/-- What makes quiet operations only keeps what is kept for shares. -/
theorem obeys_quiet {α : Type} {program : Driver α} (start : World)
    (uses : program.Uses Quiet) :
    Obeys (service fault) (SameStorage start) (fun _ _ _ => True) program :=
  .of_uses uses fun _ _ _ _ quiet before answered => ⟨trivial, before.trans (quiet.kept answered)⟩

namespace Cluster

variable {cluster cluster' : Cluster}

/-- Snapshots stay rooted if uids are not used again and only filesystems that are there are
snapshotted. -/
theorem Rooted.of_origins (rooted : cluster.Rooted)
    (next : cluster.filesystems.next ≤ cluster'.filesystems.next)
    (made : ∀ fs ∈ cluster'.filesystems.rows, fs.uid < cluster.filesystems.next →
      ∃ earlier ∈ cluster.filesystems.rows, earlier.uid = fs.uid ∧ earlier.val.org = fs.val.org)
    (taken : ∀ snap ∈ cluster'.snapshots.rows, snap ∈ cluster.snapshots.rows ∨
      ∃ fs ∈ cluster.filesystems.rows,
        snap.val.filesystemUid = fs.uid ∧ snap.val.org = fs.val.org) : cluster'.Rooted := by
  constructor
  · intro snap member
    rcases taken snap member with earlier | ⟨fs, member', of, -⟩
    · exact lt_of_lt_of_le (rooted.below snap earlier) next
    · rw [of]
      exact lt_of_lt_of_le (cluster.filesystems.below fs member') next
  · intro snap member fs there of
    rcases taken snap member with earlier | ⟨source, member', of', org⟩
    · obtain ⟨before, there', uid, same⟩ := made fs there (of ▸ rooted.below snap earlier)
      rw [rooted.owner snap earlier before there' (uid.trans of), same]
    · have below := cluster.filesystems.below source member'
      obtain ⟨before, there', uid, same⟩ := made fs there (by rwa [of, of'])
      rw [org, ← same, cluster.filesystems.eq_of_uid there' member' (uid.trans (of.trans of'))]

/-- Snapshots stay rooted, whatever is requested. -/
theorem Rooted.answer (rooted : cluster.Rooted) (session : Session) (request : Request) :
    (cluster.answer session request).2.Rooted := by
  have here (fs : Entry Filesystem) (member : fs ∈ cluster.filesystems.rows)
      (_ : fs.uid < cluster.filesystems.next) : ∃ earlier ∈ cluster.filesystems.rows,
        earlier.uid = fs.uid ∧ earlier.val.org = fs.val.org := ⟨fs, member, rfl, rfl⟩
  cases request with
  | createFilesystem name groupName totalCapacity authRequired =>
      simp only [Cluster.answer, Cluster.create]
      split
      · exact rooted
      · next free =>
          refine rooted.of_origins ?_ ?_ fun snap => Or.inl
          · simp only [Registry.insert, free, ↓reduceDIte, Registry.issue]
            exact Nat.le_succ _
          · intro fs member below
            rcases (Registry.mem_insert free).mp member with earlier | rfl
            · exact here fs earlier below
            · exact absurd below (lt_irrefl _)
  | updateFilesystem uid totalCapacity =>
      simp only [Cluster.answer]
      split
      · refine rooted.of_origins le_rfl (fun fs member _ => ?_) fun snap => Or.inl
        obtain ⟨earlier, before, rfl⟩ := Registry.mem_modify.mp member
        refine ⟨earlier, before, ?_, ?_⟩
        · split <;> rfl
        · split <;> rfl
      · exact rooted
  | deleteFilesystem uid =>
      simp only [Cluster.answer]
      split
      · exact rooted.of_origins le_rfl
          (fun fs member => here fs (Registry.mem_erase.mp member).1)
          fun snap member => Or.inl (Registry.mem_filter.mp member).1
      · exact rooted
  | createSnapshot fsUid name isWritable =>
      simp only [Cluster.answer, Cluster.create]
      split
      · next fs found =>
          split
          · exact rooted
          · next free =>
              refine rooted.of_origins le_rfl here fun snap member => ?_
              rcases (Registry.mem_insert free).mp member with earlier | rfl
              · exact Or.inl earlier
              · obtain ⟨listed, mine⟩ := Option.filter_eq_some_iff.mp found
                exact Or.inr ⟨fs, (Registry.get?_eq_some_iff.mp listed).1, rfl,
                  (of_decide_eq_true mine).symm⟩
      · exact rooted
  | deleteSnapshot uid =>
      simp only [Cluster.answer]
      split
      · exact rooted.of_origins le_rfl here fun snap member =>
          Or.inl (Registry.mem_erase.mp member).1
      · exact rooted
  | _ =>
      simp only [Cluster.answer]
      repeat' split
      all_goals exact ⟨rooted.below, rooted.owner⟩

end Cluster

/-- Every call leaves snapshots with their filesystems. -/
theorem Cluster.Rooted.kept {op : Op} {answer : Except Error op.Res} (rooted : w.cluster.Rooted)
    (answered : service fault w op answer t) : t.cluster.Rooted := by
  rcases answered_world answered with rfl | rfl
  · cases op with
    | api session request => exact rooted.answer session request
    | login org username password => exact rooted
    | host call => exact rooted
  · exact rooted

/-- Snapshots are rooted at the end of every run. -/
theorem Cluster.Rooted.after {α : Type} {program : Driver α} {outcome : Except Error α}
    (rooted : w.cluster.Rooted) (run : Exec (service fault) program w outcome t) :
    t.cluster.Rooted := by
  induction run with
  | ret value s => exact rooted
  | fail error s => exact rooted
  | call answered _ ih => exact ih (rooted.kept answered)

end WekaShareDriver
