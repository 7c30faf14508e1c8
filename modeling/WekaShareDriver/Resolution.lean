import WekaShareDriver.SetupUses
import WekaShareDriver.ShareCalls

/-! # Every call of a share acts on its filesystem

Some calls resolve the filesystem of a share by the uid in its export metadata,
others by the name generated from the share id. Both lead to the filesystem the
share was made with as long as that has the generated name
(`WekaShareDriver.one_filesystem_iff`): always for a share that was created, but for
an adopted one only if its filesystem happens to be called so.
-/

namespace WekaShareDriver

open Foundation Program

/-- The snapshot under a uid, if there is one, is of a filesystem. -/
def TakenOf (fsUid : Uid) (w : World) (uid : Uid) : Prop :=
  ∀ entry, w.cluster.snapshots.get? uid = some entry → entry.val.filesystemUid = fsUid

/-- What a request acts on is the given filesystem: its uid, its name in new
permissions, and what is under the uids of snapshots and permissions. -/
def Request.ActsOn (fs : Entry Filesystem) (w : World) : Request → Prop
  | .createFilesystem .. => False
  | .getFilesystem uid => uid = fs.uid
  | .updateFilesystem uid _ => uid = fs.uid
  | .deleteFilesystem uid => uid = fs.uid
  | .createSnapshot fsUid _ _ => fsUid = fs.uid
  | .deleteSnapshot uid => TakenOf fs.uid w uid
  | .restoreSnapshot uid fsUid => fsUid = fs.uid ∧ TakenOf fs.uid w uid
  | .attachFsSecurityPolicy fsUid _ => fsUid = fs.uid
  | .detachFsSecurityPolicy fsUid _ => fsUid = fs.uid
  | .createNfsPermission _ filesystem _ _ _ => filesystem = fs.val.name
  | .deleteNfsPermission uid => BelongsTo fs.val.name w uid
  | _ => True

/-- Every request acts on the given filesystem. -/
def KeepsTo (fs : Entry Filesystem) (w : World) (op : Op) (_ : World) : Prop :=
  ∀ session request, op = .api session request → request.ActsOn fs w

/-- The filesystem of a uid is the one of its key, as long as it exists. -/
def Sole (fs : Entry Filesystem) (w : World) : Prop :=
  ∀ entry ∈ w.cluster.filesystems.rows,
    entry.uid = fs.uid ↔ Keyed.key entry.val = Keyed.key fs.val

/-- A call for a share acts on its filesystem: every request does, a check reports
the filesystem while it exists, and a delete that returns has deleted it. -/
structure ActsOn (cfg : Config) (fault : Fault) (share : Share) (fs : Entry Filesystem)
    (call : ShareCall) (w : World) : Prop where
  requests : ∀ u op v, Issues (service fault) (call.program cfg share) w u op v →
    KeepsTo fs u op v
  reported : ∀ shares, call = .ensureShares shares → ∀ updates t,
    Exec (service fault) (ensureShares cfg shares) w (.ok updates) t →
      t.cluster.filesystems.get? fs.uid ≠ none →
        Dict.get? updates share.id = some (.exportLocations share.exportLocations)
  deleted : call = .deleteShare → ∀ t, Exec (service fault) (deleteShare cfg share) w (.ok ()) t →
    t.cluster.filesystems.get? fs.uid = none

variable {cfg : Config} {share : Share} {fault : Fault} {fs : Entry Filesystem} {w t : World}

/-! ## The filesystem of a share -/

/-- The filesystem behind a share is alone under its uid and under its key. -/
theorem Backed.sole (backed : Backed cfg share fs w) : Sole fs w := by
  intro entry member
  constructor
  · intro same
    rw [w.cluster.filesystems.eq_of_uid member backed.present same]
  · intro same
    rw [w.cluster.filesystems.eq_of_key member backed.present same]

/-- As long as no filesystem is created, a filesystem stays the one of its key. -/
theorem Sole.follows (sole : Sole fs w)
    (follows : w.cluster.filesystems.Follows t.cluster.filesystems)
    (next : t.cluster.filesystems.next = w.cluster.filesystems.next) : Sole fs t := by
  intro entry member
  obtain ⟨origin, earlier, uid, key⟩ := follows.origin next member
  rw [← uid, ← key]
  exact sole origin earlier

/-- The filesystem found under the key is the one of the uid. -/
theorem Sole.uid_of_found (sole : Sole fs w) {found : Entry Filesystem}
    (lookup : w.cluster.filesystems.find? (Keyed.key fs.val) = some found) :
    found.uid = fs.uid := by
  obtain ⟨member, key⟩ := Registry.find?_eq_some_iff.mp lookup
  exact (sole found member).mpr key

/-- Without a filesystem under the key there is none under the uid. -/
theorem Sole.get?_of_missing (sole : Sole fs w)
    (missing : w.cluster.filesystems.find? (Keyed.key fs.val) = none) :
    w.cluster.filesystems.get? fs.uid = none := by
  cases found : w.cluster.filesystems.get? fs.uid with
  | none => rfl
  | some entry =>
      obtain ⟨member, uid⟩ := Registry.get?_eq_some_iff.mp found
      exact absurd ((sole entry member).mp uid) (Registry.find?_eq_none_iff.mp missing entry member)

/-- An operation that creates no filesystem leaves a filesystem the one of its
key. -/
theorem Sole.kept (sole : Sole fs w) {op : Op} {answer : Except Error op.Res}
    (other : ∀ session request, op = .api session request → request.createsFilesystem = false)
    (answered : service fault w op answer t) : Sole fs t := by
  apply sole.follows (follows_of_answer (fun _ _ _ => answer_filesystems) answered)
  rcases answered with equal | ⟨_, _, _, rfl⟩
  · have final : t = (respond op w).2 := (congrArg Prod.snd equal).symm
    subst final
    cases op with
    | api session request => exact answer_filesystems_next (other session request rfl)
    | login org username password => rfl
    | host call => rfl
  · rfl

/-- Acting on the filesystem creates none. -/
theorem KeepsTo.creates_nothing {u v : World} {op : Op} (keeps : KeepsTo fs u op v)
    (session : Session) (request : Request) (here : op = .api session request) :
    request.createsFilesystem = false := by
  have acts := keeps session request here
  cases request with
  | createFilesystem name groupName totalCapacity authRequired => exact acts.elim
  | _ => rfl

/-- A program whose operations all act on the filesystem. -/
theorem obeys_keepsTo {α : Type} {program : Driver α}
    (uses : program.Uses fun op => ∀ u v, KeepsTo fs u op v) :
    Obeys (service fault) (Sole fs) (KeepsTo fs) program :=
  .of_uses uses fun s _ _ t use sole answered =>
    ⟨use s t, sole.kept (use s t).creates_nothing answered⟩

/-- An operation that sets up acts on no filesystem. -/
theorem SetupOp.keepsTo {op : Op} (setup : SetupOp op) (u v : World) : KeepsTo fs u op v := by
  intro session request here
  subst here
  cases request with
  | listOrganizations | createOrganization name username password | listFilesystems => trivial
  | _ => exact setup.elim

/-! ## The requests of every call -/

private theorem uses_actsOn {request : Request} (session : Session)
    (acts : ∀ u, request.ActsOn fs u) :
    (send session request).Uses fun op => ∀ u v, KeepsTo fs u op v := by
  apply uses_perform
  intro u v session' request' same
  obtain ⟨-, same'⟩ := Op.api.inj same
  subst same'
  exact acts u

private theorem getSnapshotByName_taken {session : Session} {name : String} {snap : Entry Snapshot}
    (found : (((w.cluster.snapshots.rows.filter fun entry => entry.val.org = session).filter
      fun snap => snap.val.filesystemUid = fs.uid).find? fun snap => snap.val.name = name) =
        some snap) : TakenOf fs.uid w snap.uid := by
  have selected := List.mem_filter.mp (List.mem_of_find?_eq_some found)
  have member := (List.mem_filter.mp selected.1).1
  intro entry there
  rw [Registry.get?_of_mem member, Option.some.injEq] at there
  subst there
  exact of_decide_eq_true selected.2

/-- A snapshot is found among those of the filesystem, then something is done with
it. -/
theorem obeys_getSnapshotByName {α : Type} {session : Session} {name : String}
    {rest : Option (Entry Snapshot) → Driver α}
    (missing : Obeys (service fault) (Sole fs) (KeepsTo fs) (rest none))
    (found : ∀ snap s, Sole fs s → TakenOf fs.uid s snap.uid →
      (rest (some snap)).wp (service fault) (fun u op v => KeepsTo fs u op v ∧ Sole fs v)
        (ending (fun _ => Sole fs) fun _ => Sole fs) s) :
    Obeys (service fault) (Sole fs) (KeepsTo fs)
      (getSnapshotByName session name (some fs.uid) >>= rest) := by
  intro s sole
  have listing : KeepsTo fs s (.api session .listSnapshots) s := by
    intro session' request same
    cases same
    trivial
  unfold getSnapshotByName
  rw [LawfulMonad.bind_assoc, wp_bind, onOk_ending, wp_send]
  refine ⟨⟨⟨listing, sole⟩, ?_⟩, fun error _ => ⟨⟨listing, sole⟩, sole⟩⟩
  change (rest _).wp _ _ _ s
  cases lookup : (((s.cluster.snapshots.rows.filter fun entry => entry.val.org = session).filter
      fun snap => snap.val.filesystemUid = fs.uid).find? fun snap => snap.val.name = name) with
  | none => exact missing s sole
  | some snap => exact found snap s sole (getSnapshotByName_taken lookup)

/-- A single request that acts on the filesystem in the state it is sent in. -/
theorem wp_send_keepsTo {session : Session} {request : Request} (sole : Sole fs w)
    (acts : request.ActsOn fs w) :
    (send session request).wp (service fault) (fun u op v => KeepsTo fs u op v ∧ Sole fs v)
      (ending (fun _ => Sole fs) fun _ => Sole fs) w := by
  have keeps : ∀ v, KeepsTo fs w (.api session request) v := by
    intro v session' request' same
    obtain ⟨-, same'⟩ := Op.api.inj same
    subst same'
    exact acts
  apply (wp_perform _ _ _).mpr
  intro answer t answered
  have kept : Sole fs t := sole.kept (keeps t).creates_nothing answered
  refine ⟨⟨keeps t, kept⟩, ?_⟩
  cases answer with
  | ok reply => exact kept
  | error error => exact kept

section Named

variable (protocol : share.shareProto = .nfs) (backed : ∃ u, Backed cfg share fs u)
include protocol backed

private theorem obeys_deleteSnapshot (snapshotId : String) :
    Obeys (service fault) (Sole fs) (KeepsTo fs)
      (deleteSnapshot cfg ⟨snapshotId, share⟩) := by
  obtain ⟨u, backed⟩ := backed
  unfold deleteSnapshot
  rw [clientForShare_nfs protocol, LawfulMonad.pure_bind, getFsUidForShare_of_backed _ backed]
  change Obeys _ _ _ (getSnapshotByName .admin (snapshotName snapshotId) (some fs.uid) >>= _)
  refine obeys_getSnapshotByName (.pure _) fun snap s sole taken => ?_
  have acts : Request.ActsOn fs s (.deleteSnapshot snap.uid) := taken
  apply wp_tryCatch_of _ (wp_send_keepsTo sole acts)
  intro error t sole'
  rw [wp_ite]
  split
  · exact sole'
  · exact sole'

private theorem obeys_revertToSnapshot (snapshotId : String) :
    Obeys (service fault) (Sole fs) (KeepsTo fs)
      (revertToSnapshot cfg ⟨snapshotId, share⟩) := by
  obtain ⟨u, backed⟩ := backed
  unfold revertToSnapshot
  rw [clientForShare_nfs protocol, LawfulMonad.pure_bind, getFsUidForShare_of_backed _ backed,
    LawfulMonad.pure_bind]
  exact obeys_getSnapshotByName (.throw _) fun snap s sole taken =>
    wp_send_keepsTo sole ⟨rfl, taken⟩

private theorem uses_resize (newSize : Nat) :
    (extendShare cfg share newSize).Uses (fun op => ∀ u v, KeepsTo fs u op v) ∧
      (shrinkShare cfg share newSize).Uses (fun op => ∀ u v, KeepsTo fs u op v) := by
  obtain ⟨u, backed⟩ := backed
  unfold extendShare shrinkShare
  rw [clientForShare_nfs protocol, LawfulMonad.pure_bind, LawfulMonad.pure_bind,
    getFsUidForShare_of_backed _ backed, LawfulMonad.pure_bind, LawfulMonad.pure_bind]
  have update : ∀ u, Request.ActsOn fs u (.updateFilesystem fs.uid (gbToBytes newSize)) :=
    fun _ => rfl
  refine ⟨uses_actsOn _ update, .bind (uses_actsOn _ fun _ => rfl) fun fs' => ?_⟩
  exact .ite (fun _ => .bind (uses_throw _) fun _ => uses_actsOn _ update)
    fun _ => uses_actsOn _ update

private theorem uses_createSnapshot (snapshotId : String) :
    (createSnapshot cfg ⟨snapshotId, share⟩).Uses (fun op => ∀ u v, KeepsTo fs u op v) := by
  obtain ⟨u, backed⟩ := backed
  unfold createSnapshot
  rw [clientForShare_nfs protocol, LawfulMonad.pure_bind, getFsUidForShare_of_backed _ backed,
    LawfulMonad.pure_bind]
  exact .bind (uses_actsOn _ fun _ => rfl) fun _ => trivial

omit backed in
/-- Deleting finds the filesystem under the generated name. -/
theorem obeys_deleteShare (named : Keyed.key fs.val = (.admin, cfg.shareName share.id)) :
    Obeys (service fault) (Sole fs) (KeepsTo fs) (deleteShare cfg share) := by
  unfold deleteShare
  rw [clientForShare_nfs protocol]
  change Obeys _ _ _ (getFilesystemByName .admin (cfg.shareName share.id) >>= _)
  intro s sole
  have setup : SetupOp (.api .admin .listFilesystems) := trivial
  apply wp_bind_of fun found t => Sole fs t ∧ ∀ fs', found = some fs' → fs'.uid = fs.uid
  · refine wp_getFilesystemByName ⟨setup.keepsTo s s, sole⟩ ⟨sole, fun fs' found => ?_⟩ fun _ _ => sole
    rw [← named] at found
    exact sole.uid_of_found found
  · intro found t reached
    obtain ⟨sole', uid⟩ := reached
    cases found with
    | none => exact sole'
    | some fs' =>
        dsimp only
        rw [uid fs' rfl]
        have isolated : isIsolatedWekafs share = false := by
          unfold isIsolatedWekafs
          rw [protocol]
          rfl
        rw [isolated]
        refine obeys_keepsTo ?_ t sole'
        have delete : (tryCatch (send .admin (.deleteFilesystem fs.uid)) fun error =>
            if isNotFound error then pure () else throw error : Driver Unit).Uses
              (fun op => ∀ u v, KeepsTo fs u op v) :=
          .tryCatch (uses_actsOn _ fun _ => rfl) fun _ => .ite (fun _ => trivial) fun _ => trivial
        refine .bind ((uses_isMounted _).mono fun _ host => host.setup.keepsTo) fun mounted =>
          .ite (fun _ => .bind ?_ fun _ => delete) fun _ => delete
        exact (uses_unmount _ _).mono fun _ host => host.setup.keepsTo

/-- Every request of every call acts on the filesystem, when it has the generated
name. -/
theorem obeys_call (named : fs.val.name = cfg.shareName share.id) (call : ShareCall) :
    Obeys (service fault) (Sole fs) (KeepsTo fs) (call.program cfg share) := by
  cases call with
  | extendShare newSize => exact obeys_keepsTo (uses_resize protocol backed newSize).1
  | shrinkShare newSize => exact obeys_keepsTo (uses_resize protocol backed newSize).2
  | createSnapshot snapshotId => exact obeys_keepsTo (uses_createSnapshot protocol backed snapshotId)
  | deleteSnapshot snapshotId => exact obeys_deleteSnapshot protocol backed snapshotId
  | revertToSnapshot snapshotId => exact obeys_revertToSnapshot protocol backed snapshotId
  | updateAccess update =>
      have exports : Obeys (service fault) (Sole fs) (ExportsOnly (cfg.shareName share.id))
          (update.program cfg share) := by
        rw [update.program_nfs protocol]
        apply obeys_updateNfsAccess
        intro s op answer t use sole answered
        obtain ⟨request, rfl, about⟩ := use
        refine sole.kept (fun session request' same => ?_) answered
        cases same
        cases request with
        | createFilesystem name groupName totalCapacity authRequired => exact about.elim
        | _ => rfl
      intro s sole
      refine wp_mono (fun u op v kept => ⟨?_, kept.2⟩) (fun _ _ ended => ended) (exports s sole)
      obtain ⟨request, rfl, about⟩ := kept.1
      intro session request' same
      cases same
      rw [← named] at about
      cases request with
      | createNfsPermission group filesystem path type squash => exact about
      | deleteNfsPermission uid => exact about
      | listClientGroups | getClientGroup uid | createClientGroup name
        | addClientGroupRule uid type value | deleteClientGroupRule uid ruleUid
        | deleteClientGroup uid | listNfsPermissions => trivial
      | _ => exact about.elim
  | ensureShares shares =>
      exact obeys_keepsTo ((uses_ensureShares shares).mono fun _ => SetupOp.keepsTo)
  | deleteShare =>
      obtain ⟨u, backed⟩ := backed
      exact obeys_deleteShare protocol (Prod.ext backed.org named)

end Named

/-! ## Deleting and verifying -/

/-- Deleting the filesystem under its uid leaves none there, unless it fails. -/
theorem wp_deleteFilesystem_gone (honest : Honest fault) (sole : Sole fs w)
    (org : fs.val.org = .admin) :
    (tryCatch (send .admin (.deleteFilesystem fs.uid)) fun error =>
        if isNotFound error then pure () else throw error : Driver Unit).wp (service fault)
      (passing fun _ => True)
      (ending (fun _ t => t.cluster.filesystems.get? fs.uid = none) fun _ _ => True) w := by
  rw [wp_tryCatch, onError_ending, wp_send]
  refine ⟨⟨trivial, ?_⟩, fun error raised => ⟨trivial, ?_⟩⟩
  · cases found : w.cluster.filesystems.get? fs.uid with
    | none =>
        simp only [Cluster.answer, Cluster.owned, found, Option.filter_none, asRaised,
          ending_error]
        exact found
    | some entry =>
        obtain ⟨member, uid⟩ := Registry.get?_eq_some_iff.mp found
        have visible : entry.val.org = .admin :=
          (congrArg Prod.fst ((sole entry member).mp uid)).trans org
        simp only [Cluster.answer, Cluster.owned, found, Option.filter_some, visible, decide_true,
          ↓reduceIte, asRaised, ending_ok]
        rw [← uid]
        exact Registry.get?_erase w.cluster.filesystems entry.uid
  · rw [ending_error, wp_ite]
    split
    · next notFound => exact honest.gone w .admin (.deleteFilesystem fs.uid) error raised notFound
    · trivial

/-- A delete of a share that returns has deleted its filesystem. -/
theorem wp_deleteShare (honest : Honest fault) (protocol : share.shareProto = .nfs)
    (sole : Sole fs w) (named : Keyed.key fs.val = (.admin, cfg.shareName share.id)) :
    (deleteShare cfg share).wp (service fault) (passing fun _ => True)
      (ending (fun _ t => t.cluster.filesystems.get? fs.uid = none) fun _ _ => True) w := by
  unfold deleteShare
  rw [clientForShare_nfs protocol]
  change (getFilesystemByName .admin (cfg.shareName share.id) >>= _).wp _ _ _ w
  rw [wp_bind, onOk_ending]
  refine wp_getFilesystemByName trivial ?_ fun _ _ => trivial
  rw [ending_ok, ← named]
  cases found : w.cluster.filesystems.find? (Keyed.key fs.val) with
  | none => exact sole.get?_of_missing found
  | some fs' =>
      have isolated : isIsolatedWekafs share = false := by
        unfold isIsolatedWekafs
        rw [protocol]
        rfl
      have org : fs.val.org = .admin := congrArg Prod.fst named
      dsimp only
      rw [isolated, sole.uid_of_found found]
      refine wp_bind_of _ (wp_weaken ((obeys_keepsTo ((uses_isMounted _).mono
        fun _ host => host.setup.keepsTo)).wp_restored sole) (fun _ kept => kept) (fun _ _ kept => kept)
        fun _ _ _ => trivial) fun mounted t sole' => ?_
      rw [wp_ite]
      split
      · refine wp_bind_of _ (wp_weaken ((obeys_keepsTo ((uses_unmount _ _).mono
          fun _ host => host.setup.keepsTo)).wp_restored sole') (fun _ kept => kept) (fun _ _ kept => kept)
          fun _ _ _ => trivial) fun _ u sole'' => ?_
        exact wp_deleteFilesystem_gone honest sole'' org
      · exact wp_deleteFilesystem_gone honest sole' org

/-- The list of the administrator's filesystems has at most one of a name. -/
theorem find?_listed (cluster : Cluster) (name : String) :
    (cluster.filesystems.rows.filter fun entry => entry.val.org = .admin).reverse.find?
      (fun fs => fs.val.name = name) = cluster.filesystems.find? (.admin, name) := by
  have selects : (fun entry : Entry Filesystem => decide (entry.val.name = name) &&
      decide (entry.val.org = .admin)) =
        fun entry => decide (Keyed.key entry.val = (Session.admin, name)) := by
    funext entry
    rw [Bool.and_comm, ← Bool.decide_and]
    exact decide_eq_decide.mpr (Prod.mk.injEq ..).symm.to_iff
  rw [← List.head?_filter, List.filter_reverse, List.filter_filter, selects,
    Registry.filter_key]
  cases cluster.filesystems.find? (.admin, name) <;> rfl

section Verifying

variable (protocol : share.shareProto = .nfs)
include protocol

/-- What verifying an NFS share finds, from the list alone. -/
theorem ensureShare_nfs (cluster : Cluster) :
    ensureShare cfg (cluster.filesystems.rows.filter fun entry => entry.val.org = .admin) share =
      match cluster.filesystems.find? (.admin, cfg.shareName share.id) with
      | none => throw (.shareNotFound share.id)
      | some fs => pure (buildExportLocations cfg share (cfg.shareName share.id) (some fs.uid)
          share.shareProto) := by
  have isolated : isIsolatedWekafs share = false := by
    unfold isIsolatedWekafs
    rw [protocol]
    rfl
  have nfs : ¬ share.shareProto = .wekafs := by
    rw [protocol]
    exact ShareProto.noConfusion
  unfold ensureShare findEnsuredFilesystem
  rw [isolated]
  simp only [Bool.false_eq_true, ↓reduceIte, LawfulMonad.pure_bind, find?_listed]
  cases cluster.filesystems.find? (.admin, cfg.shareName share.id) with
  | none => rfl
  | some fs => simp only [nfs, ↓reduceIte]

/-- Verifying one share of several, when its filesystem is listed. -/
theorem wp_verify {updates : Dict String ShareUpdate} {other : Share} {visited : List Share}
    {found : Entry Filesystem} {cluster : Cluster} (distinct : other.id = share.id → other = share)
    (lookup : cluster.filesystems.find? (.admin, cfg.shareName share.id) = some found)
    (locations : share.exportLocations =
      buildExportLocations cfg share (cfg.shareName share.id) (some found.uid) share.shareProto)
    (earlier : share ∈ visited →
      Dict.get? updates share.id = some (.exportLocations share.exportLocations)) :
    (tryCatch
        (do
          let locations ← ensureShare cfg
            (cluster.filesystems.rows.filter fun entry => entry.val.org = .admin) other
          return Dict.assign updates other.id (.exportLocations locations))
        fun
          | .shareNotFound _ => pure (Dict.assign updates other.id .error)
          | error => throw error : Driver (Dict String ShareUpdate)).wp (service fault)
      (passing fun _ => True)
      (ending
        (fun updates' _ => share ∈ visited ++ [other] →
          Dict.get? updates' share.id = some (.exportLocations share.exportLocations))
        (fun _ _ => True)) w := by
  by_cases same : other = share
  · subst same
    rw [ensureShare_nfs protocol, lookup, wp_tryCatch]
    intro _
    rw [← locations]
    exact Dict.get?_assign_self _ _ _
  · have apart : ∀ update, share ∈ visited ++ [other] →
        Dict.get? (Dict.assign updates other.id update) share.id =
          some (.exportLocations share.exportLocations) := by
      intro update member
      rcases List.mem_append.mp member with visited | last
      · rw [Dict.get?_assign_of_ne _ _ fun equal => same (distinct equal.symm)]
        exact earlier visited
      · exact absurd (List.mem_singleton.mp last).symm same
    apply wp_tryCatch_of (fun _ _ => True)
    · exact wp_bind_of _ (wp_true _ _) fun locations _ _ => apart _
    · intro error t _
      cases error with
      | shareNotFound shareId => exact apart _
      | _ => trivial

/-- Verifying several shares reports a share whose filesystem exists with its
locations. -/
theorem wp_ensureShares {shares : List Share} {u : World} (backed : Backed cfg share fs u)
    (named : fs.val.name = cfg.shareName share.id) (sole : Sole fs w)
    (carries : ShareCall.Carries share (.ensureShares shares)) :
    (ensureShares cfg shares).wp (service fault) (passing fun _ => True)
      (ending
        (fun updates t => t.cluster.filesystems.get? fs.uid ≠ none →
          Dict.get? updates share.id = some (.exportLocations share.exportLocations))
        (fun _ _ => True)) w := by
  have key : Keyed.key fs.val = (Session.admin, cfg.shareName share.id) :=
    Prod.ext backed.org named
  cases lookup : w.cluster.filesystems.find? (Keyed.key fs.val) with
  | none =>
      have same : Obeys (service fault)
          (fun s => s.cluster.filesystems = w.cluster.filesystems) (fun _ _ _ => True)
          (ensureShares cfg shares) :=
        .of_uses (uses_ensureShares shares) fun _ _ _ _ setup equal answered =>
          ⟨trivial, (setup.filesystems answered).trans equal⟩
      refine wp_weaken (same.wp_restored rfl) (fun _ kept => kept) (fun _ t equal present => ?_)
        fun _ _ _ => trivial
      rw [equal] at present
      exact absurd (sole.get?_of_missing lookup) present
  | some found =>
      have locations : share.exportLocations = buildExportLocations cfg share
          (cfg.shareName share.id) (some found.uid) share.shareProto := by
        rw [sole.uid_of_found lookup, ← named]
        exact backed.locations
      rw [key] at lookup
      unfold ensureShares
      rw [wp_bind, onOk_ending, wp_send]
      refine ⟨⟨trivial, ?_⟩, fun _ _ => ⟨trivial, trivial⟩⟩
      change wp _ _ (List.foldlM _ [] shares) _ w
      apply wp_foldlM (fun visited updates _ => share ∈ visited →
        Dict.get? updates share.id = some (.exportLocations share.exportLocations))
      · intro visited other rest updates s split earlier
        have member : other ∈ shares := by
          rw [split]
          exact List.mem_append_right _ List.mem_cons_self
        rw [onOk_ending]
        exact wp_verify protocol (carries.2 other member) lookup locations earlier
      · exact fun updates s holds _ => holds carries.1
      · exact fun none => absurd none List.not_mem_nil

end Verifying

/-! ## All calls -/

/-- Between the calls of a share no other filesystem takes the place of its own. -/
theorem CallsReach.sole {start : World} (reached : CallsReach cfg share fault start w)
    (protocol : share.shareProto = .nfs) (backed : Backed cfg share fs start)
    (named : fs.val.name = cfg.shareName share.id) : Sole fs w := by
  induction reached with
  | start => exact backed.sole
  | call _ _ run ih => exact (obeys_call protocol ⟨start, backed⟩ named _).restored ih run

/-- Whenever a call is made, it acts on the filesystem of the generated name. -/
theorem actsOn_of_named (honest : Honest fault) (protocol : share.shareProto = .nfs)
    {u : World} (backed : Backed cfg share fs u) (named : fs.val.name = cfg.shareName share.id)
    (sole : Sole fs w) {call : ShareCall} (carries : call.Carries share) :
    ActsOn cfg fault share fs call w := by
  refine ⟨fun _ _ _ issued => (obeys_call protocol ⟨u, backed⟩ named call).meets sole issued, ?_,
    ?_⟩
  · rintro shares rfl updates t run present
    exact run.post (wp_ensureShares protocol backed named sole carries) present
  · rintro rfl t run
    exact run.post (wp_deleteShare honest protocol sole (Prod.ext backed.org named))

/-- A check of a share alone, when nothing fails. -/
theorem wp_ensureShares_single (protocol : share.shareProto = .nfs) :
    (ensureShares cfg [share]).wp reliable (passing fun _ => True)
      (ending
        (fun updates t => t = w ∧ Dict.get? updates share.id =
          some (match w.cluster.filesystems.find? (.admin, cfg.shareName share.id) with
            | none => .error
            | some fs => .exportLocations (buildExportLocations cfg share (cfg.shareName share.id)
                (some fs.uid) share.shareProto)))
        (fun _ _ => False)) w := by
  unfold ensureShares
  rw [wp_bind, onOk_ending, wp_send]
  refine ⟨⟨trivial, ?_⟩, fun _ impossible => impossible.elim⟩
  change wp _ _ (List.foldlM _ [] [share]) _ w
  rw [List.foldlM_cons, wp_bind, onOk_ending, wp_tryCatch, onError_ending]
  change wp _ _ (ensureShare cfg (w.cluster.filesystems.rows.filter
    fun entry => entry.val.org = .admin) share >>= _) _ w
  rw [ensureShare_nfs protocol]
  cases w.cluster.filesystems.find? (.admin, cfg.shareName share.id) with
  | none => exact ⟨rfl, Dict.get?_assign_self _ _ _⟩
  | some fs => exact ⟨rfl, Dict.get?_assign_self _ _ _⟩

/-- A check that reports the filesystem finds it under the generated name. -/
theorem named_of_actsOn (protocol : share.shareProto = .nfs) (backed : Backed cfg share fs w)
    (acts : ActsOn cfg fault share fs (.ensureShares [share]) w) :
    fs.val.name = cfg.shareName share.id := by
  have run : Exec (service fault) (ensureShares cfg [share]) w
    ((ensureShares cfg [share]).run respond w).1 _ := exec_run _ _
  have single : (ensureShares cfg [share]).wp reliable _ _ w := wp_ensureShares_single protocol
  have ended := post_run single
  have present : w.cluster.filesystems.get? fs.uid ≠ none := by
    rw [Registry.get?_of_mem backed.present]
    exact Option.some_ne_none fs
  cases outcome : ((ensureShares cfg [share]).run respond w).1 with
  | error error =>
      rw [outcome] at ended
      exact ended.elim
  | ok updates =>
      rw [outcome] at ended run
      obtain ⟨same, answered⟩ := ended
      rw [same] at run
      have reported := acts.reported [share] rfl updates w run present
      rw [answered, Option.some.injEq] at reported
      cases found : w.cluster.filesystems.find? (.admin, cfg.shareName share.id) with
      | none =>
          rw [found] at reported
          cases reported
      | some other =>
          rw [found, backed.locations] at reported
          have names := congrArg (fun locations => locations.head?.bind fun loc =>
            loc.metadata.wekaFsName) (ShareUpdate.exportLocations.inj reported)
          exact (Option.some.inj names).symm

/-- Every call of an NFS share that was made acts on the share's filesystem if and
only if that has the name generated from the share id. -/
theorem one_filesystem_iff {start : World} (honest : Honest fault)
    (protocol : share.shareProto = .nfs) (made : Made cfg fault share start) :
    ∃ fs, Backed cfg share fs start ∧
      ((∀ w, CallsReach cfg share fault start w → ∀ call : ShareCall, call.Carries share →
        ActsOn cfg fault share fs call w) ↔ fs.val.name = cfg.shareName share.id) := by
  obtain ⟨fs, backed⟩ := made.backed protocol
  refine ⟨fs, backed, fun acts => ?_, fun named w reached call carries => ?_⟩
  · exact named_of_actsOn protocol backed (acts start .start _
      ⟨List.mem_singleton_self _, fun other member _ => List.mem_singleton.mp member⟩)
  · exact actsOn_of_named honest protocol backed named (reached.sole protocol backed named) carries

section Sample

/-- A filesystem of the administrator's. -/
def sampleFilesystem : Filesystem := ⟨.admin, "data", "default", gbToBytes 1, 0, false⟩

/-- A cluster with that filesystem. -/
def unmanaged : World where
  cluster := { Cluster.empty with filesystems := Registry.empty.insert sampleFilesystem }
  host := Host.empty

/-- The sample share to adopt it under, given by its export path. -/
def adoptedGiven : List ExportLocation :=
  [⟨"10.0.0.1:/data", false, ⟨none, none, none, none⟩⟩]

/-- The sample share that adopted the filesystem. -/
def adoptedShare : Share :=
  { sampleShare .nfs with
    exportLocations := buildExportLocations sampleConfig (sampleShare .nfs) "data" (some 0) .nfs }

private theorem adoptedShare_made : Made sampleConfig noFaults adoptedShare unmanaged := by
  have run : Exec reliable (manageExisting sampleConfig
      { adoptedShare with exportLocations := adoptedGiven }) unmanaged _ _ := exec_run _ _
  have outcome : (manageExisting sampleConfig { adoptedShare with exportLocations := adoptedGiven
      }).run respond unmanaged = (.ok ⟨1, adoptedShare.exportLocations⟩, unmanaged) := by
    rfl
  rw [outcome] at run
  exact .managed adoptedGiven 1 run

/-- The equivalence for that share. -/
theorem one_filesystem_sample :
    ∃ fs, Backed sampleConfig adoptedShare fs unmanaged ∧
      ((∀ w, CallsReach sampleConfig adoptedShare noFaults unmanaged w → ∀ call : ShareCall,
        call.Carries adoptedShare → ActsOn sampleConfig noFaults adoptedShare fs call w) ↔
          fs.val.name = sampleConfig.shareName adoptedShare.id) :=
  one_filesystem_iff honest_noFaults rfl adoptedShare_made

/-- Deleting the adopted share returns and leaves its filesystem. -/
theorem deleting_adopted_share_keeps_filesystem :
    Made sampleConfig noFaults adoptedShare unmanaged ∧
    Backed sampleConfig adoptedShare ⟨0, sampleFilesystem⟩ unmanaged ∧
    Exec reliable (deleteShare sampleConfig adoptedShare) unmanaged (.ok ()) unmanaged ∧
    unmanaged.cluster.filesystems.get? 0 = some ⟨0, sampleFilesystem⟩ ∧
    ¬ ActsOn sampleConfig noFaults adoptedShare ⟨0, sampleFilesystem⟩ .deleteShare unmanaged := by
  have run : Exec reliable (deleteShare sampleConfig adoptedShare) unmanaged (.ok ()) unmanaged :=
    exec_noFaults_iff.mpr rfl
  have present : unmanaged.cluster.filesystems.get? 0 = some ⟨0, sampleFilesystem⟩ := by decide
  refine ⟨adoptedShare_made, ⟨by decide, rfl, rfl⟩, run, present, fun acts => ?_⟩
  have gone := acts.deleted rfl unmanaged run
  rw [present] at gone
  cases gone

end Sample

end WekaShareDriver
