import Mathlib.Data.List.Find
import WekaShareDriver.ShareFilesystems
import WekaShareDriver.Volumes

/-! # The driver keeps volumes

What the operations of the driver do to the filesystems and snapshots of the cluster is what they
do to volumes (`WekaShareDriver.Operation.effect`), each at once: whatever calls of an operation
fail, and a call that fails changes nothing here, the volumes are left as they were or as the whole
operation leaves them, and as the latter if it returns (`WekaShareDriver.Operation.CarriedOut`). So
a run of operations is one of volumes (`WekaShareDriver.runs_keep_volumes`).
-/

namespace WekaShareDriver

open Foundation Program

namespace Operation

/-- Change the volume under a key, if there is one. -/
def onVolume (volumes : Volumes) (key : Session × String) (change' : Volume → Volume) : Volumes :=
  Function.update volumes key ((volumes key).map change')

/-- What an operation does to the volumes. -/
def effect (cfg : Config) : Operation → Volumes → Volumes
  | .createShare share, volumes => makeVolume share volumes
  | .createShareFromSnapshot share _, volumes => makeVolume share volumes
  | .extendShare share newSize, volumes =>
      onVolume volumes (shareKey cfg share) (·.resized (gbToBytes newSize))
  | .shrinkShare share newSize, volumes =>
      onVolume volumes (shareKey cfg share) (·.resized (gbToBytes newSize))
  | .createSnapshot snapshot, volumes =>
      onVolume volumes (shareKey cfg snapshot.share) (·.marked (snapshotName snapshot.id) true)
  | .deleteSnapshot snapshot, volumes =>
      onVolume volumes (shareKey cfg snapshot.share) (·.marked (snapshotName snapshot.id) false)
  | .deleteShare share, volumes => Function.update volumes (shareKey cfg share) none
  | .revertToSnapshot _, volumes => volumes
  | .updateAccess .., volumes => volumes
  | .ensureShares _, volumes => volumes
  | .runSnapshotCopy _, volumes => volumes
where
  /-- A volume that is there already is taken as it is. -/
  makeVolume (share : Share) (volumes : Volumes) : Volumes :=
    Function.update volumes (shareKey cfg share)
      (some ((volumes (shareKey cfg share)).getD (.bare (gbToBytes share.size))))

/-- What the volumes must be like for an operation to be carried out. -/
def Permits (cfg : Config) : Operation → Volumes → Prop
  | .extendShare share _, volumes => ∃ volume, volumes (shareKey cfg share) = some volume
  | .shrinkShare share newSize, volumes =>
      ∃ volume, volumes (shareKey cfg share) = some volume ∧ volume.used ≤ gbToBytes newSize
  | .createSnapshot snapshot, volumes =>
      ∃ volume, volumes (shareKey cfg snapshot.share) = some volume ∧
        volume.snapshots (snapshotName snapshot.id) = false
  | .revertToSnapshot snapshot, volumes =>
      ∃ volume, volumes (shareKey cfg snapshot.share) = some volume ∧
        volume.snapshots (snapshotName snapshot.id) = true
  | _, _ => True

/-- An operation that makes a volume. -/
def makes : Operation → Bool
  | .createShare _ => true
  | .createShareFromSnapshot .. => true
  | _ => false

/-- An operation was permitted and is carried out if it returned. If it raised, nothing was done;
only a share may have been made all the same. -/
def CarriedOut (cfg : Config) (operation : Operation) (w : World)
    (outcome : Except Error operation.Result) (t : World) : Prop :=
  ending
    (fun _ t => operation.Permits cfg w.cluster.volumes ∧
      t.cluster.volumes = operation.effect cfg w.cluster.volumes)
    (fun _ t => t.cluster.volumes = w.cluster.volumes ∨
      operation.makes = true ∧ t.cluster.volumes = operation.effect cfg w.cluster.volumes)
    outcome t

end Operation

/-- The export locations of a share lead to its filesystem, or there are none yet. -/
def Located (cfg : Config) (share : Share) (w : World) : Prop :=
  share.exportLocations = [] ∨ ∃ uid, givenUid share.exportLocations = some uid ∧
    filesystemAt (shareKey cfg share) w = some uid

/-- Errors of calls that are not the driver's own. -/
def FromOutside (fault : Fault) : Prop :=
  ∀ w op error, fault w op error → ∀ shareId, error ≠ .shareNotFound shareId

variable {cfg : Config} {share : Share} {fault : Fault} {w t u : World} {session : Session}

private theorem volumes_of_found {cluster : Cluster} {key : Session × String}
    {fs : Entry Filesystem}
    (found : cluster.filesystems.find? key = some fs) :
    cluster.volumes key = some (cluster.volumeOf fs) := by
  rw [Cluster.volumes, found, Option.map_some]

private theorem volumes_of_missing {cluster : Cluster} {key : Session × String}
    (missing : cluster.filesystems.find? key = none) : cluster.volumes key = none := by
  rw [Cluster.volumes, missing, Option.map_none]

private theorem onVolume_of_found {key : Session × String} {fs : Entry Filesystem}
    (found : w.cluster.filesystems.find? key = some fs) (change' : Volume → Volume) :
    Operation.onVolume w.cluster.volumes key change' =
      Function.update w.cluster.volumes key (some (change' (w.cluster.volumeOf fs))) := by
  rw [Operation.onVolume, volumes_of_found found, Option.map_some]

/-! ## Finding the filesystem of a share -/

private theorem Located.of_storage (located : Located cfg share w) (same : SameStorage w t) :
    Located cfg share t := by
  rcases located with bare | ⟨uid, given, there⟩
  · exact Or.inl bare
  · refine Or.inr ⟨uid, given, ?_⟩
    rw [filesystemAt, same.filesystems]
    exact there

/-- Looking a share's filesystem up finds the one under its key. -/
theorem wp_getFsUidForShare (outside : FromOutside fault) (located : Located cfg share w) :
    (getFsUidForShare cfg (shareSession cfg share) share).wp (service fault)
      (passing fun _ => True)
      (ending
        (fun uid t => t = w ∧
          ∃ fs, w.cluster.filesystems.find? (shareKey cfg share) = some fs ∧ fs.uid = uid)
        (fun error t => t = w ∧ ((∃ shareId, error = .shareNotFound shareId) →
          w.cluster.filesystems.find? (shareKey cfg share) = none))) w := by
  unfold getFsUidForShare
  rcases located with bare | ⟨uid, given, there⟩
  · rw [bare]
    dsimp only [List.findSome?_nil]
    rw [wp_bind, onOk_ending]
    refine wp_getFilesystemByName trivial ?_ fun error struck => ?_
    · rw [ending_ok]
      have key : (shareSession cfg share, cfg.shareName share.id) = shareKey cfg share := rfl
      rw [key]
      cases found : w.cluster.filesystems.find? (shareKey cfg share) with
      | some fs => exact ⟨rfl, fs, rfl, rfl⟩
      | none => exact ⟨rfl, fun _ => rfl⟩
    · refine ⟨rfl, ?_⟩
      rintro ⟨shareId, rfl⟩
      exact absurd rfl (outside _ _ _ struck shareId)
  · rw [givenUid] at given
    rw [given]
    exact ⟨rfl, Option.map_eq_some_iff.mp there⟩

/-- What is done after operations that change nothing that is kept. -/
theorem wp_quietly {α β : Type} {program : Driver β} {rest : β → Driver α}
    {done : α → World → Prop} {raised : Error → World → Prop} (quiet : program.Uses Quiet)
    (failed : ∀ error t, SameStorage w t → raised error t)
    (served : ∀ value t, SameStorage w t → (rest value).wp (service fault) (passing fun _ => True)
      (ending done raised) t) :
    (program >>= rest).wp (service fault) (passing fun _ => True) (ending done raised) w :=
  wp_bind_of _ (wp_weaken ((obeys_quiet w quiet).wp_restored (.refl w)) (fun _ => id)
    (fun _ _ => id) failed) served

/-- Opening the session of a share changes nothing that is kept. -/
theorem wp_onShare {α : Type} {rest : Session → Driver α} {done : α → World → Prop}
    {raised : Error → World → Prop} (own : OwnSession cfg share.projectId w)
    (failed : ∀ error t, SameStorage w t → raised error t)
    (served : ∀ t, SameStorage w t → (rest (shareSession cfg share)).wp (service fault)
      (passing fun _ => True) (ending done raised) t) :
    (clientForShare cfg share >>= rest).wp (service fault) (passing fun _ => True)
      (ending done raised) w := by
  have same {t : World} (prepared : Prepared cfg share.projectId w t) : SameStorage w t := by
    constructor
    · rw [prepared.cluster]
    · rw [prepared.cluster]
  refine wp_bind_of (fun session t => SameStorage w t ∧ session = shareSession cfg share)
    (wp_weaken (wp_clientForShare_prepared own) (fun _ _ => trivial)
      (fun _ _ opened => ⟨same opened.1, opened.2⟩) fun error t prepared =>
        failed error t (same prepared)) fun session t opened => ?_
  obtain ⟨kept, rfl⟩ := opened
  exact served t kept

/-- What is done with the filesystem of a share. -/
theorem wp_onFilesystem {α : Type} {rest : Session → Uid → Driver α} {done : α → World → Prop}
    {raised : Error → World → Prop} (outside : FromOutside fault)
    (own : OwnSession cfg share.projectId w) (located : Located cfg share w)
    (failed : ∀ error t, SameStorage w t → raised error t)
    (served : ∀ t fs, SameStorage w t →
      t.cluster.filesystems.find? (shareKey cfg share) = some fs →
      w.cluster.volumes (shareKey cfg share) = some (t.cluster.volumeOf fs) →
      (rest (shareSession cfg share) fs.uid).wp (service fault) (passing fun _ => True)
        (ending done raised) t) :
    (clientForShare cfg share >>= fun session => getFsUidForShare cfg session share >>=
      rest session).wp (service fault) (passing fun _ => True) (ending done raised) w := by
  refine wp_onShare own failed fun t same => ?_
  refine wp_bind_of _ (wp_weaken (wp_getFsUidForShare outside (located.of_storage same))
    (fun _ => id) (fun _ _ => id) fun error u ended => ?_) fun uid u found => ?_
  · rw [ended.1]
    exact failed error t same
  · obtain ⟨rfl, fs, found, rfl⟩ := found
    exact served u fs same found (same.volumes ▸ volumes_of_found found)

/-- The session of a share sees its filesystem. -/
theorem owned_share {fs : Entry Filesystem}
    (found : w.cluster.filesystems.find? (shareKey cfg share) = some fs) :
    Cluster.owned w.cluster.filesystems fs.uid (fun val => val.org = shareSession cfg share) =
      some fs :=
  Cluster.owned_filesystem found

/-- The filesystem of a share is resized. -/
theorem answer_updateFilesystem {fs : Entry Filesystem}
    (found : w.cluster.filesystems.find? (shareKey cfg share) = some fs) (newSize : Nat) :
    w.cluster.answer (shareSession cfg share) (.updateFilesystem fs.uid newSize) =
      (.ok (), { w.cluster with
        filesystems := w.cluster.filesystems.modify fs.uid
          (fun val => { val with totalCapacity := newSize }) fun _ => rfl }) := by
  simp only [Cluster.answer, owned_share found]

private theorem volumes_extended {fs : Entry Filesystem}
    (found : w.cluster.filesystems.find? (shareKey cfg share) = some fs) (newSize : Nat) :
    (send (shareSession cfg share) (.updateFilesystem fs.uid newSize)).wp (service fault)
      (passing fun _ => True)
      (ending (fun _ t => t.cluster.volumes =
          Operation.onVolume w.cluster.volumes (shareKey cfg share) (·.resized newSize))
        fun _ t => t = w) w := by
  rw [wp_send, answer_updateFilesystem found]
  refine ⟨⟨trivial, ?_⟩, fun _ _ => ⟨trivial, rfl⟩⟩
  change Cluster.volumes _ = _
  rw [Cluster.volumes_resized found, onVolume_of_found found]

private theorem carriedOut_extendShare (outside : FromOutside fault)
    (own : OwnSession cfg share.projectId w) (located : Located cfg share w) (newSize : Nat) :
    (extendShare cfg share newSize).wp (service fault) (passing fun _ => True)
      (Operation.CarriedOut cfg (.extendShare share newSize) w) w := by
  refine wp_onFilesystem outside own located (fun _ _ same => Or.inl same.volumes)
    fun t fs same found here => wp_weaken (volumes_extended found _) (fun _ => id)
      (fun _ u resized => ?_) fun _ u unchanged => ?_
  · rw [same.volumes] at resized
    exact ⟨⟨_, here⟩, resized⟩
  · rw [unchanged]
    exact Or.inl same.volumes

private theorem carriedOut_shrinkShare (outside : FromOutside fault)
    (own : OwnSession cfg share.projectId w) (located : Located cfg share w) (newSize : Nat) :
    (shrinkShare cfg share newSize).wp (service fault) (passing fun _ => True)
      (Operation.CarriedOut cfg (.shrinkShare share newSize) w) w := by
  refine wp_onFilesystem outside own located (fun _ _ same => Or.inl same.volumes)
    fun t fs same found here => ?_
  rw [wp_bind, onOk_ending, wp_send]
  refine ⟨⟨trivial, ?_⟩, fun error _ => ⟨trivial, Or.inl same.volumes⟩⟩
  simp only [Cluster.answer, owned_share found]
  rw [asRaised, ending_ok, wp_ite]
  split
  case isTrue shrunk => exact Or.inl same.volumes
  case isFalse fits =>
    refine wp_weaken (volumes_extended found _) (fun _ => id) (fun _ u resized => ?_)
      fun _ u unchanged => ?_
    · rw [same.volumes] at resized
      exact ⟨⟨_, here, not_lt.mp fits⟩, resized⟩
    · rw [unchanged]
      exact Or.inl same.volumes

/-! ## Snapshots -/

/-- A snapshot of a filesystem that is just taken. -/
def newSnapshot (session : Session) (fsUid : Uid) (name : String) : Snapshot :=
  ⟨session, name, fsUid, false, name⟩

/-- A snapshot is taken unless there is one of its name. -/
theorem answer_createSnapshot {fs : Entry Filesystem}
    (found : w.cluster.filesystems.find? (shareKey cfg share) = some fs) (name : String) :
    w.cluster.answer (shareSession cfg share) (.createSnapshot fs.uid name false) =
      if (w.cluster.snapshots.find? (fs.uid, name)).isSome then
        (.error (.conflict "/snapshots: already exists"), w.cluster)
      else (.ok ⟨w.cluster.snapshots.next, newSnapshot (shareSession cfg share) fs.uid name⟩,
        { w.cluster with
          snapshots := w.cluster.snapshots.insert
            (newSnapshot (shareSession cfg share) fs.uid name) }) := by
  have key : Keyed.key (newSnapshot (shareSession cfg share) fs.uid name) = (fs.uid, name) := rfl
  simp only [Cluster.answer, owned_share found]
  cases taken : w.cluster.snapshots.find? (fs.uid, name) with
  | none =>
      rw [← key] at taken
      simp only [newSnapshot] at taken
      simp only [Cluster.create, taken, Option.isSome_none, Bool.false_eq_true, ↓reduceIte]
      rfl
  | some snap =>
      rw [← key] at taken
      simp only [newSnapshot] at taken
      simp only [Cluster.create, taken, Option.isSome_some, ↓reduceIte]

private theorem carriedOut_createSnapshot {snapshot : ShareSnapshot} (outside : FromOutside fault)
    (own : OwnSession cfg snapshot.share.projectId w) (located : Located cfg snapshot.share w) :
    (createSnapshot cfg snapshot).wp (service fault) (passing fun _ => True)
      (Operation.CarriedOut cfg (.createSnapshot snapshot) w) w := by
  refine wp_onFilesystem outside own located (fun _ _ same => Or.inl same.volumes)
    fun t fs same found here => ?_
  rw [wp_bind, onOk_ending, wp_send, answer_createSnapshot found]
  refine ⟨⟨trivial, ?_⟩, fun error _ => ⟨trivial, Or.inl same.volumes⟩⟩
  cases taken : t.cluster.snapshots.find? (fs.uid, snapshotName snapshot.id) with
  | some snap => exact Or.inl same.volumes
  | none =>
      refine ⟨⟨_, here, congrArg Option.isSome taken⟩, ?_⟩
      rw [← same.volumes]
      change Cluster.volumes _ = Operation.onVolume _ _ _
      rw [onVolume_of_found found]
      exact Cluster.volumes_snapshotted found rfl taken

/-- Looking a snapshot of a filesystem up finds the one of its name. -/
theorem wp_getSnapshotByName {fs : Entry Filesystem} {name : String} (rooted : w.cluster.Rooted)
    (found : w.cluster.filesystems.find? (shareKey cfg share) = some fs) :
    (getSnapshotByName (shareSession cfg share) name (some fs.uid)).wp (service fault)
      (passing fun _ => True)
      (ending (fun snap t => t = w ∧ snap = w.cluster.snapshots.find? (fs.uid, name))
        fun _ t => t = w) w := by
  obtain ⟨member, named⟩ := Registry.find?_eq_some_iff.mp found
  have selects : ((w.cluster.snapshots.rows.filter fun entry =>
      entry.val.org = shareSession cfg share).filter fun snap =>
        snap.val.filesystemUid = fs.uid).find? (fun snap => snap.val.name = name) =
      w.cluster.snapshots.find? (fs.uid, name) := by
    rw [List.filter_filter, List.find?_filter]
    refine List.find?_congr fun snap listed => ?_
    have org : snap.val.filesystemUid = fs.uid → snap.val.org = shareSession cfg share :=
      fun of => (rooted.owner snap listed fs member of.symm).trans (congrArg Prod.fst named)
    have key : Keyed.key snap.val = (snap.val.filesystemUid, snap.val.name) := rfl
    rw [key, ← Bool.decide_and]
    refine decide_eq_decide.mpr ?_
    rw [decide_eq_true_eq, decide_eq_true_eq, Prod.mk.injEq]
    constructor
    · rintro ⟨⟨of, -⟩, same⟩
      exact ⟨of, same⟩
    · rintro ⟨of, same⟩
      exact ⟨⟨of, org of⟩, same⟩
  unfold getSnapshotByName
  rw [wp_bind, onOk_ending, wp_send]
  refine ⟨⟨trivial, ?_⟩, fun _ _ => ⟨trivial, rfl⟩⟩
  exact ⟨rfl, selects⟩

/-- A snapshot that is found is removed. -/
theorem answer_deleteSnapshot {fs : Entry Filesystem} {name : String} {snap : Entry Snapshot}
    (rooted : w.cluster.Rooted)
    (found : w.cluster.filesystems.find? (shareKey cfg share) = some fs)
    (taken : w.cluster.snapshots.find? (fs.uid, name) = some snap) :
    w.cluster.answer (shareSession cfg share) (.deleteSnapshot snap.uid) =
      (.ok (), { w.cluster with snapshots := w.cluster.snapshots.erase snap.uid }) := by
  obtain ⟨member, named⟩ := Registry.find?_eq_some_iff.mp found
  obtain ⟨listed, of⟩ := Registry.find?_eq_some_iff.mp taken
  have org : snap.val.org = shareSession cfg share :=
    (rooted.owner snap listed fs member (congrArg Prod.fst of).symm).trans
      (congrArg Prod.fst named)
  have owned : Cluster.owned w.cluster.snapshots snap.uid
      (fun snap => snap.org = shareSession cfg share) = some snap := by
    rw [Cluster.owned, Registry.get?_of_mem listed, Option.filter_some, org]
    simp
  simp only [Cluster.answer, owned]

/-- Marking what is not there changes nothing. -/
theorem onVolume_of_missing {volumes : Volumes} {key : Session × String}
    (missing : volumes key = none) (change' : Volume → Volume) :
    Operation.onVolume volumes key change' = volumes := by
  rw [Operation.onVolume, missing, Option.map_none, ← missing, Function.update_eq_self]

/-- A snapshot that is not there need not be removed. -/
theorem onVolume_unmarked {fs : Entry Filesystem} {name : String}
    (found : w.cluster.filesystems.find? (shareKey cfg share) = some fs)
    (free : w.cluster.snapshots.find? (fs.uid, name) = none) :
    Operation.onVolume w.cluster.volumes (shareKey cfg share) (·.marked name false) =
      w.cluster.volumes := by
  have absent : (w.cluster.volumeOf fs).snapshots name = false := congrArg Option.isSome free
  have same : (w.cluster.volumeOf fs).marked name false = w.cluster.volumeOf fs := by
    rw [Volume.marked, ← absent, Function.update_eq_self]
  rw [onVolume_of_found found, same, ← volumes_of_found found, Function.update_eq_self]

private theorem carriedOut_deleteSnapshot {snapshot : ShareSnapshot} (honest : Honest fault)
    (outside : FromOutside fault) (rooted : w.cluster.Rooted)
    (own : OwnSession cfg snapshot.share.projectId w) (located : Located cfg snapshot.share w) :
    (deleteSnapshot cfg snapshot).wp (service fault) (passing fun _ => True)
      (Operation.CarriedOut cfg (.deleteSnapshot snapshot) w) w := by
  refine wp_onShare own (fun _ _ same => Or.inl same.volumes) fun t same => ?_
  have rooted := same.rooted rooted
  refine wp_bind_of (fun found u => u = t ∧
    found = (t.cluster.filesystems.find? (shareKey cfg snapshot.share)).map Entry.uid) ?_ ?_
  · refine wp_tryCatch_of _ (wp_bind_of _ (wp_getFsUidForShare outside (located.of_storage same))
      fun uid u found => ?_) fun error u failed => ?_
    · obtain ⟨rfl, fs, found, rfl⟩ := found
      refine ⟨rfl, ?_⟩
      rw [found, Option.map_some]
    · obtain ⟨rfl, missing⟩ := failed
      cases error with
      | shareNotFound shareId =>
          refine ⟨rfl, ?_⟩
          rw [missing ⟨shareId, rfl⟩, Option.map_none]
      | _ => exact Or.inl same.volumes
  · rintro found u ⟨rfl, located⟩
    cases there : u.cluster.filesystems.find? (shareKey cfg snapshot.share) with
    | none =>
        rw [there] at located
        subst located
        have missing : w.cluster.volumes (shareKey cfg snapshot.share) = none :=
          same.volumes ▸ volumes_of_missing there
        exact ⟨trivial, same.volumes.trans (onVolume_of_missing missing _).symm⟩
    | some fs =>
        rw [there] at located
        subst located
        refine wp_bind_of _ (wp_weaken (wp_getSnapshotByName rooted there) (fun _ => id)
          (fun _ _ => id) fun _ v unchanged => by
            rw [unchanged]
            exact Or.inl same.volumes) fun snap v looked => ?_
        obtain ⟨rfl, rfl⟩ := looked
        cases taken : v.cluster.snapshots.find? (fs.uid, snapshotName snapshot.id) with
        | none =>
            refine ⟨trivial, same.volumes.trans ?_⟩
            rw [← same.volumes]
            exact (onVolume_unmarked there taken).symm
        | some snap =>
            dsimp only
            rw [wp_tryCatch, onError_ending, wp_send, answer_deleteSnapshot rooted there taken]
            refine ⟨⟨trivial, trivial, ?_⟩, fun error struck => ⟨trivial, ?_⟩⟩
            · rw [← same.volumes]
              change Cluster.volumes _ = Operation.onVolume _ _ _
              rw [onVolume_of_found there]
              exact Cluster.volumes_unsnapshotted there taken
            · rw [ending_error, wp_ite]
              split
              case isTrue gone =>
                have none' := honest.gone _ _ _ _ struck gone
                have listed := Registry.get?_of_find? taken
                change v.cluster.snapshots.get? snap.uid = none at none'
                rw [none'] at listed
                cases listed
              case isFalse => exact Or.inl same.volumes

private theorem carriedOut_revertToSnapshot {snapshot : ShareSnapshot} (outside : FromOutside fault)
    (rooted : w.cluster.Rooted) (own : OwnSession cfg snapshot.share.projectId w)
    (located : Located cfg snapshot.share w) :
    (revertToSnapshot cfg snapshot).wp (service fault) (passing fun _ => True)
      (Operation.CarriedOut cfg (.revertToSnapshot snapshot) w) w := by
  refine wp_onFilesystem outside own located (fun _ _ same => Or.inl same.volumes)
    fun t fs same found here => ?_
  refine wp_bind_of _ (wp_weaken (wp_getSnapshotByName (same.rooted rooted) found) (fun _ => id)
    (fun _ _ => id) fun _ v unchanged => by
      rw [unchanged]
      exact Or.inl same.volumes) fun snap v looked => ?_
  obtain ⟨rfl, rfl⟩ := looked
  cases taken : v.cluster.snapshots.find? (fs.uid, snapshotName snapshot.id) with
  | none => exact Or.inl same.volumes
  | some snap =>
      have quiet : (send (shareSession cfg snapshot.share)
          (.restoreSnapshot snap.uid fs.uid)).Uses Quiet := uses_perform (quiet_request rfl)
      refine wp_weaken ((obeys_quiet v quiet).wp_restored (.refl v)) (fun _ => id)
        (fun _ u kept => ?_) fun _ u kept => ?_
      · refine ⟨⟨_, here, congrArg Option.isSome taken⟩, kept.volumes.trans same.volumes⟩
      · exact Or.inl (kept.volumes.trans same.volumes)

/-! ## Making and deleting -/

/-- A filesystem that is found or created is the volume of the share. -/
theorem volumes_maybeCreated {fs : Entry Filesystem} {groupName : String} {authRequired : Bool}
    (rooted : w.cluster.Rooted)
    (made : MaybeCreated (newFilesystem (shareSession cfg share) (cfg.shareName share.id) groupName
      (gbToBytes share.size) authRequired) w t)
    (found : t.cluster.filesystems.find? (shareKey cfg share) = some fs) :
    t.cluster.volumes = Operation.effect.makeVolume cfg share w.cluster.volumes := by
  rcases made with rfl | ⟨free, rfl⟩
  · have here := volumes_of_found found
    rw [Operation.effect.makeVolume, here, Option.getD_some, ← here, Function.update_eq_self]
  · have missing : w.cluster.volumes (shareKey cfg share) = none := volumes_of_missing free
    rw [Operation.effect.makeVolume, missing]
    exact Cluster.volumes_created rooted free

/-- What is made is kept by what follows. -/
theorem wp_making {α : Type} {groupName : String} {authRequired : Bool}
    {rest : Entry Filesystem → Driver α} (rooted : w.cluster.Rooted)
    (quiet : ∀ fs, (rest fs).Uses Quiet) :
    (createFilesystemIdempotent (shareSession cfg share) (cfg.shareName share.id) groupName
      (gbToBytes share.size) authRequired >>= rest).wp (service fault) (passing fun _ => True)
      (ending
        (fun _ t => t.cluster.volumes = Operation.effect.makeVolume cfg share w.cluster.volumes)
        fun _ t => t.cluster.volumes = w.cluster.volumes ∨
          t.cluster.volumes = Operation.effect.makeVolume cfg share w.cluster.volumes) w := by
  refine wp_bind_of (fun _ t => t.cluster.volumes =
      Operation.effect.makeVolume cfg share w.cluster.volumes)
    (wp_weaken wp_createFilesystemIdempotent (fun _ _ => trivial)
      (fun _ _ created => volumes_maybeCreated rooted created.1 created.2) fun _ _ failed => ?_)
    fun fs t made => ?_
  · rw [failed.2]
    exact Or.inl rfl
  · exact wp_weaken ((obeys_quiet t (quiet fs)).wp_restored (.refl t)) (fun _ => id)
      (fun _ _ kept => kept.volumes.trans made) fun _ _ kept => Or.inr (kept.volumes.trans made)

private theorem carriedOut_createShare (rooted : w.cluster.Rooted)
    (own : OwnSession cfg share.projectId w) :
    (createShare cfg share).wp (service fault) (passing fun _ => True)
      (Operation.CarriedOut cfg (.createShare share) w) w := by
  by_cases served : ∀ name, share.shareProto ≠ .other name
  · rw [createShare_eq served]
    refine wp_onShare own (fun _ _ same => Or.inl same.volumes) fun t same => ?_
    have quiet (fs : Entry Filesystem) : (joinGroup cfg share fs.uid).Uses Quiet :=
      uses_joinGroup _ (fun _ => SetupOp.quiet) fun _ _ => PolicyOp.quiet
    refine wp_weaken (wp_making (same.rooted rooted) fun fs => .bind (quiet fs) fun _ => trivial)
      (fun _ => id) (fun _ u made => ?_) fun _ u kept => ?_
    · rw [same.volumes] at made
      exact ⟨trivial, made⟩
    · rw [same.volumes] at kept
      exact kept.imp_right fun made => ⟨rfl, made⟩
  · push Not at served
    obtain ⟨name, protocol⟩ := served
    unfold createShare
    rw [protocol]
    exact Or.inl rfl

private theorem carriedOut_createShareFromSnapshot (snapshot : ShareSnapshot)
    (rooted : w.cluster.Rooted)
    (own : OwnSession cfg share.projectId w) :
    (createShareFromSnapshot cfg share snapshot).wp (service fault) (passing fun _ => True)
      (Operation.CarriedOut cfg (.createShareFromSnapshot share snapshot) w) w := by
  rw [createShareFromSnapshot_eq, wp_ite]
  split
  · exact Or.inl rfl
  · refine wp_onShare own (fun _ _ same => Or.inl same.volumes) fun t same => ?_
    have asking {request : Request} (quiet : request.stores = false) :
        (send (shareSession cfg share) request).Uses Quiet := uses_perform (quiet_request quiet)
    have looking : (getSnapshotByName (shareSession cfg share) (snapshotName snapshot.id)
        none).Uses Quiet := .bind (asking rfl) fun _ => trivial
    unfold openCopy
    refine wp_quietly looking (fun _ _ kept => Or.inl (same.trans kept).volumes)
      fun found u kept => ?_
    have same := same.trans kept
    cases found with
    | none => exact Or.inl same.volumes
    | some snap =>
        refine wp_quietly (asking rfl) (fun _ _ kept => Or.inl (same.trans kept).volumes)
          fun srcFs v kept => ?_
        have same := same.trans kept
        have host (call : HostCall) : (onHost call).Uses Quiet :=
          uses_perform (SetupOp.quiet trivial)
        refine wp_weaken (wp_making (same.rooted rooted) fun fs => .bind (host _) fun _ =>
          .bind (host _) fun _ => trivial) (fun _ => id) (fun _ x made => ?_) fun _ x kept => ?_
        · rw [same.volumes] at made
          exact ⟨trivial, made⟩
        · rw [same.volumes] at kept
          exact kept.imp_right fun made => ⟨rfl, made⟩

private theorem carriedOut_deleteShare (honest : Honest fault)
    (own : OwnSession cfg share.projectId w) :
    (deleteShare cfg share).wp (service fault) (passing fun _ => True)
      (Operation.CarriedOut cfg (.deleteShare share) w) w := by
  rw [deleteShare_eq]
  refine wp_onShare own (fun _ _ same => Or.inl same.volumes) fun t same => ?_
  rw [wp_bind, onOk_ending]
  refine wp_getFilesystemByName trivial ?_ fun _ _ => Or.inl same.volumes
  rw [ending_ok]
  have key : (shareSession cfg share, cfg.shareName share.id) = shareKey cfg share := rfl
  rw [key]
  cases found : t.cluster.filesystems.find? (shareKey cfg share) with
  | none =>
      refine ⟨trivial, same.volumes.trans ?_⟩
      have missing : w.cluster.volumes (shareKey cfg share) = none :=
        same.volumes ▸ volumes_of_missing found
      change _ = Function.update w.cluster.volumes (shareKey cfg share) none
      rw [← missing, Function.update_eq_self]
  | some fs =>
      have closing : (closeAccess share (shareSession cfg share) fs.uid).Uses Quiet :=
        (uses_closeAccess fs.uid).mono fun _ => PolicyOp.quiet
      refine wp_quietly closing (fun _ _ kept => Or.inl (same.trans kept).volumes)
        fun _ u kept' => ?_
      have unmounting : (unmountShare cfg share).Uses Quiet :=
        uses_unmountShare.mono fun _ host => host.setup.quiet
      refine wp_quietly unmounting (fun _ _ kept => Or.inl (same.trans (kept'.trans kept)).volumes)
        fun _ v kept => ?_
      have kept := kept'.trans kept
      have there : v.cluster.filesystems.find? (shareKey cfg share) = some fs := by
        rw [kept.filesystems, found]
      have volumes := (same.trans kept).volumes
      unfold deleteFound
      rw [wp_tryCatch, onError_ending, wp_send]
      refine ⟨⟨trivial, ?_⟩, fun error struck => ⟨trivial, ?_⟩⟩
      · simp only [Cluster.answer, owned_share there]
        rw [asRaised, ending_ok]
        refine ⟨trivial, ?_⟩
        rw [← volumes]
        exact Cluster.volumes_deleted there _
      · rw [ending_error, wp_ite]
        split
        case isTrue gone =>
          have none' := honest.gone _ _ _ _ struck gone
          have listed := Registry.get?_of_find? there
          change v.cluster.filesystems.get? fs.uid = none at none'
          rw [none'] at listed
          cases listed
        case isFalse => exact Or.inl volumes

/-! ## Operations that change no volume -/

/-- An operation of a copy changes nothing that is kept for shares. -/
theorem CopyOp.quiet {op : Op} (copy : CopyOp op) : Quiet op := by
  rcases copy with setup | ⟨fsName, exports⟩
  · exact setup.quiet
  · exact exports.quiet

private theorem uses_quiet_updateWekafsAccess (addRules deleteRules : List AccessRule)
    (fullSync : Bool) :
    (updateWekafsAccess cfg share addRules deleteRules fullSync).Uses Quiet := by
  have opening : (orgClient cfg share.projectId).Uses Quiet :=
    (uses_setup_of_opens (uses_orgClient _)).mono fun _ => SetupOp.quiet
  refine .bind opening fun session => ?_
  have adding (password : String) : (ensureMountUser cfg session password).Uses Quiet :=
    .tryCatch (uses_perform (quiet_request rfl)) fun _ => .ite (fun _ => trivial) fun _ => trivial
  have finding : (findPolicyFilesystem cfg session share addRules deleteRules fullSync).Uses
      Quiet :=
    .ite (fun _ => .bind (uses_perform (quiet_request rfl)) fun _ => trivial) fun _ => trivial
  refine .bind (.ite (fun _ => adding _) fun _ => trivial) fun _ =>
    .bind ((uses_setup uses_sharePolicyGroup).mono fun _ => SetupOp.quiet) fun selected => ?_
  cases selected with
  | some group => trivial
  | none =>
      exact .bind finding fun _ =>
        (uses_updateWekafsPolicies _ _ _).mono fun _ => PolicyOp.quiet

private theorem obeys_quiet_updateAccess (update : AccessUpdate) :
    Obeys (service fault) (SameStorage w) (fun _ _ _ => True) (update.program cfg share) := by
  by_cases nfs : share.shareProto = .nfs
  · rw [update.program_nfs nfs]
    have exports : Obeys (service fault) (SameStorage w) (ExportsOnly (cfg.shareName share.id))
        (updateNfsAccess cfg share update.applied update.deleteRules update.fullSync) :=
      obeys_updateNfsAccess (fun _ _ _ _ exports same answered =>
        same.trans (exports.quiet.kept answered)) _ _ _
    exact fun s same => wp_mono (fun _ _ _ kept => ⟨trivial, kept.2⟩) (fun _ _ ended => ended)
      (exports s same)
  · have wekafs : update.program cfg share =
        updateWekafsAccess cfg share update.applied update.deleteRules update.fullSync := by
      unfold AccessUpdate.program updateAccess
      rw [if_neg nfs]
      rfl
    rw [wekafs]
    exact obeys_quiet w (uses_quiet_updateWekafsAccess _ _ _)

/-- An operation that changes no volume, and need not, is carried out. -/
theorem carriedOut_quiet {operation : Operation} (permits : operation.Permits cfg w.cluster.volumes)
    (still : operation.effect cfg w.cluster.volumes = w.cluster.volumes)
    (obeys : Obeys (service fault) (SameStorage w) (fun _ _ _ => True) (operation.program cfg)) :
    (operation.program cfg).wp (service fault) (passing fun _ => True)
      (operation.CarriedOut cfg w) w :=
  wp_weaken (obeys.wp_restored (.refl w)) (fun _ => id)
    (fun _ _ same => ⟨permits, same.volumes.trans still.symm⟩) fun _ _ same => Or.inl same.volumes

/-! ## One operation -/

/-- Every operation is carried out at once or not at all. -/
theorem carriedOut_operation {operation : Operation} (honest : Honest fault)
    (outside : FromOutside fault) (rooted : w.cluster.Rooted)
    (own : ∀ projectId, OwnSession cfg projectId w)
    (located : ∀ share ∈ operation.shares, Located cfg share w) :
    (operation.program cfg).wp (service fault) (passing fun _ => True)
      (operation.CarriedOut cfg w) w := by
  have here (share : Share) (member : operation.shares = [share]) : Located cfg share w :=
    located share (member ▸ List.mem_cons_self)
  cases operation with
  | createShare share => exact carriedOut_createShare rooted (own _)
  | createShareFromSnapshot share snapshot =>
      exact carriedOut_createShareFromSnapshot snapshot rooted (own _)
  | extendShare share newSize => exact carriedOut_extendShare outside (own _) (here _ rfl) newSize
  | shrinkShare share newSize => exact carriedOut_shrinkShare outside (own _) (here _ rfl) newSize
  | createSnapshot snapshot => exact carriedOut_createSnapshot outside (own _) (here _ rfl)
  | deleteSnapshot snapshot =>
      exact carriedOut_deleteSnapshot honest outside rooted (own _) (here _ rfl)
  | revertToSnapshot snapshot =>
      exact carriedOut_revertToSnapshot outside rooted (own _) (here _ rfl)
  | deleteShare share => exact carriedOut_deleteShare honest (own _)
  | updateAccess share update =>
      exact carriedOut_quiet trivial rfl (obeys_quiet_updateAccess update)
  | ensureShares shares =>
      exact carriedOut_quiet trivial rfl
        (obeys_quiet w ((uses_ensureShares shares).mono fun _ => SetupOp.quiet))
  | runSnapshotCopy job =>
      exact carriedOut_quiet trivial rfl
        (obeys_quiet w ((uses_runSnapshotCopy job).mono fun _ => CopyOp.quiet))

/-! ## Runs -/

/-- An operation that deletes no filesystem. -/
def DeletesNone (op : Op) : Prop :=
  ∀ session uid, op ≠ .api session (.deleteFilesystem uid)

private theorem Quiet.deletesNone {op : Op} (quiet : Quiet op) : DeletesNone op := by
  intro session uid same
  exact Bool.noConfusion (quiet session (.deleteFilesystem uid) same)

/-- Only making and deleting shares changes where filesystems are. -/
theorem filesystemAt_operation {operation : Operation} {outcome : Except Error operation.Result}
    (plain : operation.makesOrDeletes = false)
    (run : Exec (service fault) (operation.program cfg) w outcome t) {key : Session × String}
    {uid : Uid} (there : filesystemAt key w = some uid) : filesystemAt key t = some uid := by
  have kept (uses : (operation.program cfg).Uses DeletesNone) : filesystemAt key t = some uid :=
    (obeys_filesystemAt (uses.mono fun _ none' session => none' session uid)).restored there run
  have of_quiet {α : Type} {program : Driver α} (uses : program.Uses Quiet) :
      program.Uses DeletesNone := uses.mono fun _ => Quiet.deletesNone
  have opening (share : Share) : (clientForShare cfg share).Uses DeletesNone :=
    of_quiet ((uses_setup_of_opens (uses_clientForShare share)).mono fun _ => SetupOp.quiet)
  have asking {session : Session} {request : Request}
      (spares : ∀ uid, request ≠ .deleteFilesystem uid) :
      (send session request).Uses DeletesNone := by
    refine uses_perform fun session' uid same => ?_
    cases same
    exact spares uid rfl
  have finding (session : Session) (share : Share) :
      (getFsUidForShare cfg session share).Uses DeletesNone := by
    refine lists_getFsUidForShare.mono fun op lists session' uid deletes => ?_
    rw [lists] at deletes
    cases deletes
  have looking (session : Session) (name : String) (fsUid : Uid) :
      (getSnapshotByName session name (some fsUid)).Uses DeletesNone :=
    .bind (asking fun _ => Request.noConfusion) fun _ => trivial
  cases operation with
  | createShare | createShareFromSnapshot | deleteShare => cases plain
  | extendShare share newSize =>
      exact kept (.bind (opening share) fun _ => .bind (finding _ share) fun _ =>
        asking fun _ => Request.noConfusion)
  | shrinkShare share newSize =>
      exact kept (.bind (opening share) fun _ => .bind (finding _ share) fun _ =>
        .bind (asking fun _ => Request.noConfusion) fun _ => .ite (fun _ => trivial) fun _ =>
          asking fun _ => Request.noConfusion)
  | createSnapshot snapshot =>
      exact kept (.bind (opening _) fun _ => .bind (finding _ _) fun _ =>
        .bind (asking fun _ => Request.noConfusion) fun _ => trivial)
  | deleteSnapshot snapshot =>
      refine kept (.bind (opening _) fun _ =>
        .bind (.tryCatch (.bind (finding _ _) fun _ => trivial) fun error => ?_) fun found => ?_)
      · cases error <;> trivial
      · cases found with
        | none => trivial
        | some fsUid =>
            refine .bind (looking _ _ _) fun snap => ?_
            cases snap with
            | none => trivial
            | some snap =>
                exact .tryCatch (asking fun _ => Request.noConfusion) fun _ =>
                  .ite (fun _ => trivial) fun _ => trivial
  | revertToSnapshot snapshot =>
      refine kept (.bind (opening _) fun _ => .bind (finding _ _) fun _ =>
        .bind (looking _ _ _) fun snap => ?_)
      cases snap with
      | none => trivial
      | some snap => exact asking fun _ => Request.noConfusion
  | updateAccess share update =>
      have same := (obeys_quiet_updateAccess update).restored (.refl w) run
      rw [filesystemAt, same.filesystems]
      exact there
  | ensureShares shares =>
      exact kept (of_quiet ((uses_ensureShares shares).mono fun _ => SetupOp.quiet))
  | runSnapshotCopy job =>
      exact kept (of_quiet ((uses_runSnapshotCopy job).mono fun _ => CopyOp.quiet))

/-- The operations for shares that are known, each without export locations or with those of the
filesystem it was given; shares are made and deleted apart from the others. -/
structure Operation.Asked (cfg : Config) (shares : Share → Prop) (given : String → Option Uid)
    (operation : Operation) : Prop where
  served : operation.ServedFor fun _ => True
  known : ∀ share ∈ operation.shares, shares share
  located : ∀ share ∈ operation.shares, share.exportLocations = [] ∨
    ∃ uid, given share.id = some uid ∧ givenUid share.exportLocations = some uid
  apart : operation.makesOrDeletes = true →
    ∀ share ∈ operation.shares, Apart cfg shares given share

/-- What volumes become by the operations for known shares. -/
inductive VolumesReach (cfg : Config) (shares : Share → Prop) (start : Volumes) :
    Volumes → Prop where
  | start : VolumesReach cfg shares start start
  | operation {volumes : Volumes} {operation : Operation}
      (reached : VolumesReach cfg shares start volumes)
      (known : ∀ share ∈ operation.shares, shares share)
      (permits : operation.Permits cfg volumes) :
      VolumesReach cfg shares start (operation.effect cfg volumes)

/-- What is carried out is a step of volumes, or none. -/
theorem VolumesReach.carriedOut {shares : Share → Prop} {volumes : Volumes} {operation : Operation}
    {outcome : Except Error operation.Result}
    (reached : VolumesReach cfg shares volumes w.cluster.volumes)
    (known : ∀ share ∈ operation.shares, shares share)
    (done : operation.CarriedOut cfg w outcome t) :
    VolumesReach cfg shares volumes t.cluster.volumes := by
  cases outcome with
  | ok value =>
      rw [done.2]
      exact reached.operation known done.1
  | error error =>
      rcases done with same | ⟨makes, made⟩
      · rw [same]
        exact reached
      · rw [made]
        refine reached.operation known ?_
        cases operation with
        | createShare | createShareFromSnapshot => trivial
        | _ => cases makes

section Runs

variable {shares : Share → Prop} {given : String → Option Uid} {start : World}
  (short : cfg.shareNamePrefix.toList.length ≤ 32)
  (identified : ∀ share other, shares share → shares other → share.id = other.id →
    shareSession cfg share = shareSession cfg other)

include short identified in
/-- An operation that is asked for keeps what is allotted. -/
theorem Allotted.asked (allotted : Allotted cfg shares w given) {operation : Operation}
    {outcome : Except Error operation.Result} (asked : operation.Asked cfg shares given)
    (run : Exec (service fault) (operation.program cfg) w outcome t) :
    Allotted cfg shares t (operation.gives given outcome) := by
  cases makes : operation.makesOrDeletes with
  | true => exact allotted.step short identified ⟨⟨makes, asked.known⟩, asked.apart makes⟩ run
  | false =>
      have same : operation.gives given outcome = given := by
        cases operation with
        | createShare | createShareFromSnapshot | deleteShare => cases makes
        | _ => rfl
      rw [same]
      exact allotted.kept ((obeys_operation asked.served).restored allotted.isolated run)
        fun key uid there => filesystemAt_operation makes run there

/-- Shares that are asked for lead to their filesystems. -/
theorem Allotted.located (allotted : Allotted cfg shares w given) {operation : Operation}
    (asked : operation.Asked cfg shares given) (share : Share)
    (member : share ∈ operation.shares) : Located cfg share w := by
  rcases asked.located share member with bare | ⟨uid, held, named⟩
  · exact Or.inl bare
  · exact Or.inr ⟨uid, named, allotted.present share (asked.known share member) uid held⟩

include short identified in
/-- A run of operations is one of volumes, in which every share that is alive has its volume; and
wherever it has come, what is asked for next is carried out at once or not at all. The prefix of
share names leaves the ids whole, the id of a share settles its session, and shares are asked for
without export locations or with those of the filesystem they were given. -/
theorem runs_keep_volumes (honest : Honest fault) (outside : FromOutside fault)
    (fresh : start.host.orgClients = []) (rooted : start.cluster.Rooted)
    (reached : SharesReach cfg fault (Operation.Asked cfg shares) start w given) :
    VolumesReach cfg shares start.cluster.volumes w.cluster.volumes ∧
      (∀ share, shares share → given share.id ≠ none →
        ∃ volume, w.cluster.volumes (shareKey cfg share) = some volume) ∧
      ∀ (operation : Operation) outcome t, operation.Asked cfg shares given →
        Exec (service fault) (operation.program cfg) w outcome t →
          operation.CarriedOut cfg w outcome t := by
  have carried {w t : World} {given : String → Option Uid} {operation : Operation}
      {outcome : Except Error operation.Result} (allotted : Allotted cfg shares w given)
      (rooted : w.cluster.Rooted) (asked : operation.Asked cfg shares given)
      (run : Exec (service fault) (operation.program cfg) w outcome t) :
      operation.CarriedOut cfg w outcome t :=
    run.post (carriedOut_operation honest outside rooted allotted.isolated.ownSession
      (allotted.located asked))
  have kept : Allotted cfg shares w given ∧ w.cluster.Rooted ∧
      VolumesReach cfg shares start.cluster.volumes w.cluster.volumes := by
    induction reached with
    | start =>
        refine ⟨⟨fun p session cached => ?_, fun share member uid held => ?_,
          fun share other _ _ _ _ alive => absurd rfl alive⟩, rooted, .start⟩
        · rw [fresh] at cached
          cases cached
        · cases held
    | operation _ asked run ih =>
        obtain ⟨allotted, rooted, volumes⟩ := ih
        exact ⟨allotted.asked short identified asked run, rooted.after run,
          volumes.carriedOut asked.known (carried allotted rooted asked run)⟩
  obtain ⟨allotted, rooted, volumes⟩ := kept
  refine ⟨volumes, fun share member alive => ?_, fun operation outcome t asked run =>
    carried allotted rooted asked run⟩
  obtain ⟨uid, held⟩ := Option.ne_none_iff_exists'.mp alive
  obtain ⟨fs, found, -⟩ := Option.map_eq_some_iff.mp (allotted.present share member uid held)
  exact ⟨_, volumes_of_found found⟩

end Runs

section Sample

/-- The world with the sample share, made in an empty one. -/
def volumeCreated : World :=
  (((Operation.createShare (sampleShare .nfs)).program sampleConfig).run respond
    ⟨Cluster.empty, Host.empty⟩).2

/-- The share is made, and then extended. -/
theorem runs_keep_volumes_sample :
    VolumesReach sampleConfig (· = sampleShare .nfs) Cluster.empty.volumes
        volumeCreated.cluster.volumes ∧
      (∃ volume, volumeCreated.cluster.volumes (shareKey sampleConfig (sampleShare .nfs)) =
        some volume) ∧
      (Operation.extendShare (sampleShare .nfs) 2).CarriedOut sampleConfig volumeCreated
        (.ok ()) (((Operation.extendShare (sampleShare .nfs) 2).program sampleConfig).run respond
          volumeCreated).2 := by
  have identified (share other : Share) (same : share = sampleShare .nfs)
      (same' : other = sampleShare .nfs) (_ : share.id = other.id) :
      shareSession sampleConfig share = shareSession sampleConfig other := by
    rw [same, same']
  have asked {given : String → Option Uid} {operation : Operation}
      (about : operation.shares = [sampleShare .nfs]) :
      operation.Asked sampleConfig (· = sampleShare .nfs) given := by
    have only {share : Share} (member : share ∈ operation.shares) : share = sampleShare .nfs := by
      rw [about] at member
      exact List.eq_of_mem_singleton member
    refine ⟨fun share member => ?_, fun share => only, fun share member => ?_,
      fun _ share member other same different => ?_⟩
    · rw [only member]
      exact ⟨Or.inr rfl, fun _ => trivial⟩
    · rw [only member]
      exact Or.inl rfl
    · exact absurd (congrArg Share.id (same.trans (only member).symm)) different
  have making : Exec (service noFaults) ((Operation.createShare (sampleShare .nfs)).program
      sampleConfig) ⟨Cluster.empty, Host.empty⟩ _ volumeCreated := exec_run _ _
  obtain ⟨volumes, alive, carried⟩ := runs_keep_volumes (by decide) identified honest_noFaults
    (fun _ _ _ impossible => impossible.elim) rfl Cluster.rooted_empty
    (.operation .start (asked rfl) making)
  exact ⟨volumes, alive _ rfl (Option.some_ne_none _),
    carried (.extendShare (sampleShare .nfs) 2) _ _ (asked rfl) (exec_run _ _)⟩

end Sample

end WekaShareDriver
