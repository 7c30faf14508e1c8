import WekaShareDriver.Neighbours
import WekaShareDriver.Operations
import WekaShareDriver.ShareParts

/-! # One filesystem for each share

A share's filesystem is found, created and deleted by its generated name, on the
session the share is handled by. Two shares have one filesystem where their names
agree, and the name is cut to the cluster's limit: the longer the prefix, the fewer
digits of the share's id are left in it
(`WekaShareDriver.Apart`).
-/

namespace WekaShareDriver

open Foundation Program

/-- The session a share is handled by. -/
def shareSession (cfg : Config) (share : Share) : Session :=
  if isIsolatedWekafs share then projectSession cfg share.projectId else .admin

/-- Where a share's filesystem is found. -/
def shareKey (cfg : Config) (share : Share) : Session × String :=
  (shareSession cfg share, cfg.shareName share.id)

/-- The digits of a share's id that its name has room for. -/
def nameDigits (cfg : Config) (share : Share) : List Char :=
  (Text.remove share.id '-').toList.take (32 - cfg.shareNamePrefix.toList.length)

/-- The uid of the filesystem of a session's name. -/
def filesystemAt (key : Session × String) (w : World) : Option Uid :=
  (w.cluster.filesystems.find? key).map Entry.uid

/-- The filesystem in a share's export locations. -/
def givenUid (locations : List ExportLocation) : Option Uid :=
  locations.findSome? fun loc => loc.metadata.wekaFsUid

/-- The filesystems of the shares that are alive, by share id, after an operation. -/
def Operation.gives (given : String → Option Uid) :
    (operation : Operation) → Except Error operation.Result → String → Option Uid
  | .createShare share, .ok locations => Function.update given share.id (givenUid locations)
  | .createShareFromSnapshot share _, .ok reported =>
      Function.update given share.id (givenUid reported.2)
  | .deleteShare share, .ok _ => Function.update given share.id none
  | _, _ => given

/-- An operation that makes or deletes a share. -/
def Operation.makesOrDeletes : Operation → Bool
  | .createShare _ => true
  | .createShareFromSnapshot .. => true
  | .deleteShare _ => true
  | _ => false

/-- The operations that make and delete shares of a set. -/
def Operation.Handles (shares : Share → Prop) (_ : String → Option Uid) (operation : Operation) :
    Prop :=
  operation.makesOrDeletes = true ∧ ∀ share ∈ operation.shares, shares share

/-- No other share that is alive on its session has the same digits in its name. -/
def Apart (cfg : Config) (shares : Share → Prop) (given : String → Option Uid) (share : Share) :
    Prop :=
  ∀ other, shares other → other.id ≠ share.id → given other.id ≠ none →
    shareSession cfg other = shareSession cfg share → nameDigits cfg other ≠ nameDigits cfg share

/-- The operations for shares apart from the others. -/
def Operation.HandlesApart (cfg : Config) (shares : Share → Prop) (given : String → Option Uid)
    (operation : Operation) : Prop :=
  operation.Handles shares given ∧ ∀ share ∈ operation.shares, Apart cfg shares given share

/-- The worlds between operations, each of which returned or raised, with the
filesystems of the shares that are alive. -/
inductive SharesReach (cfg : Config) (fault : Fault)
    (allowed : (String → Option Uid) → Operation → Prop) (start : World) :
    World → (String → Option Uid) → Prop where
  | start : SharesReach cfg fault allowed start start fun _ => none
  | operation {w t : World} {given : String → Option Uid} {operation : Operation}
      {outcome : Except Error operation.Result}
      (reached : SharesReach cfg fault allowed start w given) (request : allowed given operation)
      (run : Exec (service fault) (operation.program cfg) w outcome t) :
      SharesReach cfg fault allowed start t (operation.gives given outcome)

/-- Each share has its own filesystem: no two on one session were given the same, the
names sent fit the cluster, and while a share is deleted those of the others stay. -/
structure OwnFilesystems (cfg : Config) (fault : Fault) (shares : Share → Prop)
    (allowed : (String → Option Uid) → Operation → Prop) (w : World)
    (given : String → Option Uid) : Prop where
  names : ∀ operation, allowed given operation → ∀ u v session name groupName size authRequired,
    Issues (service fault) (operation.program cfg) w u
      (.api session (.createFilesystem name groupName size authRequired)) v →
      name.toList.length ≤ 32
  distinct : ∀ share other, shares share → shares other → share.id ≠ other.id →
    shareSession cfg share = shareSession cfg other → ∀ uid, given share.id = some uid →
      given other.id ≠ some uid
  spared : ∀ share other t, shares other → share.id ≠ other.id →
    allowed given (.deleteShare share) → Reaches (service fault) (deleteShare cfg share) w t →
      ∀ uid, given other.id = some uid → filesystemAt (shareKey cfg other) t = some uid

variable {cfg : Config} {share other : Share} {shares : Share → Prop} {fault : Fault}
  {key key' : Session × String} {uid : Uid} {given : String → Option Uid}
  {start w t : World}

/-! ## Names -/

private theorem shareName_toList (short : cfg.shareNamePrefix.toList.length ≤ 32) (share : Share) :
    (cfg.shareName share.id).toList = cfg.shareNamePrefix.toList ++ nameDigits cfg share := by
  have room : (0 : Int) ≤ 32 - (cfg.shareNamePrefix.toList.length : Int) := by omega
  have count : (32 - (cfg.shareNamePrefix.toList.length : Int)).toNat =
      32 - cfg.shareNamePrefix.toList.length := by omega
  unfold Config.shareName Text.sliceTo nameDigits
  rw [if_pos room, count, String.toList_append, Text.toList_take]

/-- A name fits the cluster if its prefix does. -/
theorem length_shareName (short : cfg.shareNamePrefix.toList.length ≤ 32) (share : Share) :
    (cfg.shareName share.id).toList.length ≤ 32 := by
  rw [shareName_toList short, List.length_append, nameDigits, List.length_take]
  omega

/-- Shares with different digits left have different names. -/
theorem nameDigits_eq_of_shareName (short : cfg.shareNamePrefix.toList.length ≤ 32)
    (same : cfg.shareName other.id = cfg.shareName share.id) :
    nameDigits cfg other = nameDigits cfg share := by
  have equal := congrArg String.toList same
  rwa [shareName_toList short, shareName_toList short, List.append_cancel_left_eq] at equal

/-! ## Filesystems and their names -/

/-- What is found under a key is the uid of a filesystem with it. -/
theorem filesystemAt_eq_some : filesystemAt key w = some uid ↔
    ∃ fs ∈ w.cluster.filesystems.rows, Keyed.key fs.val = key ∧ fs.uid = uid := by
  simp only [filesystemAt, Option.map_eq_some_iff, Registry.find?_eq_some_iff, and_assoc]

/-- A uid is found under one name only. -/
theorem filesystemAt_injective (left : filesystemAt key w = some uid)
    (right : filesystemAt key' w = some uid) : key = key' := by
  obtain ⟨fs, member, rfl, rfl⟩ := filesystemAt_eq_some.mp left
  obtain ⟨fs', member', rfl, same⟩ := filesystemAt_eq_some.mp right
  rw [w.cluster.filesystems.eq_of_uid member' member same]

/-- Only its own deletion takes a filesystem from its name. -/
theorem filesystemAt_kept {op : Op} {answer : Except Error op.Res}
    (there : filesystemAt key w = some uid)
    (spares : ∀ session, op ≠ .api session (.deleteFilesystem uid))
    (answered : service fault w op answer t) : filesystemAt key t = some uid := by
  rcases answered_world answered with rfl | rfl
  · cases op with
    | api session request =>
        obtain ⟨fs, member, rfl, rfl⟩ := filesystemAt_eq_some.mp there
        cases request with
        | createFilesystem name groupName size authRequired =>
            simp only [respond, Cluster.answer, Cluster.create]
            split
            · exact there
            · next free =>
                exact filesystemAt_eq_some.mpr
                  ⟨fs, (Registry.mem_insert free).mpr (Or.inl member), rfl, rfl⟩
        | updateFilesystem uid size =>
            simp only [respond, Cluster.answer]
            split
            · refine filesystemAt_eq_some.mpr
                ⟨_, Registry.mem_modify.mpr ⟨fs, member, rfl⟩, ?_, ?_⟩
              · split <;> rfl
              · split <;> rfl
            · exact there
        | deleteFilesystem uid =>
            simp only [respond, Cluster.answer]
            split
            · next entry found =>
                have apart : fs.uid ≠ entry.uid := by
                  intro same
                  obtain ⟨visible, -⟩ := Option.filter_eq_some_iff.mp found
                  exact spares session (by rw [same, (Registry.get?_eq_some_iff.mp visible).2])
                exact filesystemAt_eq_some.mpr
                  ⟨fs, Registry.mem_erase.mpr ⟨member, apart⟩, rfl, rfl⟩
            · exact there
        | _ =>
            simp only [respond, Cluster.answer]
            repeat' split
            all_goals exact there
    | login org username password => exact there
    | host call => exact there
  · exact there

/-! ## Calls that make a share -/

/-- A call that creates no filesystem of another name. -/
def CreatesNamed (name : String) (op : Op) : Prop :=
  ∀ session name' groupName size authRequired,
    op = .api session (.createFilesystem name' groupName size authRequired) → name' = name

/-- A call that deletes no filesystem and creates none of another name. -/
structure MakesOnly (name : String) (op : Op) : Prop where
  keeps : ∀ session uid, op ≠ .api session (.deleteFilesystem uid)
  named : CreatesNamed name op

/-- An operation that sets up makes no filesystem. -/
theorem SetupOp.makesOnly {name : String} {op : Op} (setup : SetupOp op) : MakesOnly name op := by
  constructor
  · rintro session uid rfl
    exact setup.elim
  · rintro session name' groupName size authRequired rfl
    exact setup.elim

/-- A request about policies makes no filesystem. -/
theorem PolicyOp.makesOnly {name : String} {session : Session} {op : Op}
    (policy : PolicyOp session op) : MakesOnly name op := by
  obtain ⟨request, rfl, about⟩ := policy
  constructor
  · rintro session' uid same
    rw [(Op.api.inj same).2] at about
    cases about
  · rintro session' name' groupName size authRequired same
    rw [(Op.api.inj same).2] at about
    cases about

private theorem makesOnly_request {session : Session} {name : String} {request : Request}
    (keeps : ∀ uid, request ≠ .deleteFilesystem uid)
    (creates : ∀ name' groupName size authRequired,
      request ≠ .createFilesystem name' groupName size authRequired) :
    MakesOnly name (.api session request) :=
  ⟨fun _ uid same => keeps uid (Op.api.inj same).2,
    fun _ name' groupName size authRequired same =>
      absurd (Op.api.inj same).2 (creates name' groupName size authRequired)⟩

private theorem makesOnly_createFilesystem {session : Session} {name groupName : String}
    {size : Nat}
    {authRequired : Bool} :
    MakesOnly name (.api session (.createFilesystem name groupName size authRequired)) := by
  refine ⟨fun _ _ => by simp, fun _ _ _ _ _ same => ?_⟩
  cases same
  rfl

private theorem uses_makesOnly_createShare :
    (createShare cfg share).Uses (MakesOnly (cfg.shareName share.id)) := by
  by_cases served : ∀ name, share.shareProto ≠ .other name
  · rw [createShare_eq served]
    refine .bind ((uses_clientForShare share).mono fun _ opens => opens.setup.makesOnly)
      fun session => ?_
    exact .bind (uses_findOrCreate (SetupOp.makesOnly trivial) makesOnly_createFilesystem) fun fs =>
      .bind (uses_joinGroup _ (fun _ => SetupOp.makesOnly) fun _ _ => PolicyOp.makesOnly)
        fun _ => trivial
  · push Not at served
    obtain ⟨name, protocol⟩ := served
    unfold createShare
    rw [protocol]
    trivial

private theorem uses_makesOnly_createShareFromSnapshot (snapshot : ShareSnapshot) :
    (createShareFromSnapshot cfg share snapshot).Uses (MakesOnly (cfg.shareName share.id)) := by
  rw [createShareFromSnapshot_eq]
  refine .ite (fun _ => trivial) fun _ =>
    .bind ((uses_clientForShare share).mono fun _ opens => opens.setup.makesOnly) fun session => ?_
  exact uses_openCopy (fun _ => SetupOp.makesOnly) (makesOnly_request (by simp) (by simp))
    (fun _ => makesOnly_request (by simp) (by simp)) fun _ _ _ => makesOnly_createFilesystem

/-- What makes a share keeps every filesystem under its name. -/
theorem obeys_filesystemAt {α : Type} {program : Driver α}
    (uses : program.Uses fun op => ∀ session, op ≠ .api session (.deleteFilesystem uid)) :
    Obeys (service fault) (fun w => filesystemAt key w = some uid) (fun _ _ _ => True) program :=
  .of_uses uses fun _ _ _ _ spares there answered =>
    ⟨trivial, filesystemAt_kept there spares answered⟩

/-- The session a share is handled by is opened. -/
theorem wp_clientForShare_prepared (own : OwnSession cfg share.projectId w) :
    (clientForShare cfg share).wp (service fault)
      (passing (Prepared cfg share.projectId w))
      (ending
        (fun session t => Prepared cfg share.projectId w t ∧ session = shareSession cfg share)
        (fun _ t => Prepared cfg share.projectId w t)) w := by
  unfold clientForShare shareSession
  cases isIsolatedWekafs share with
  | true => exact wp_orgClient_own own
  | false => exact ⟨.refl w, rfl⟩

private theorem wp_clientForShare (own : OwnSession cfg share.projectId w) :
    (clientForShare cfg share).wp (service fault)
      (passing fun t => t.cluster.filesystems = w.cluster.filesystems)
      (ending
        (fun session t => t.cluster.filesystems = w.cluster.filesystems ∧
          session = shareSession cfg share)
        (fun _ t => t.cluster.filesystems = w.cluster.filesystems)) w := by
  have same {t : World} (prepared : Prepared cfg share.projectId w t) :
      t.cluster.filesystems = w.cluster.filesystems := by
    rw [prepared.cluster]
  exact wp_weaken (wp_clientForShare_prepared own) (fun _ prepared => same prepared)
    (fun _ _ opened => ⟨same opened.1, opened.2⟩) fun _ _ prepared => same prepared

/-- A filesystem that is found or created is the one given to the share. -/
theorem wp_given {α : Type} {rest : Entry Filesystem → Driver α} (locate : α → Option Uid)
    (uses : ∀ fs, (rest fs).Uses (MakesOnly (cfg.shareName share.id)))
    (returns : ∀ fs, (rest fs).Returns fun value => locate value = some fs.uid)
    (groupName : String) (size : Nat) (authRequired : Bool) :
    (createFilesystemIdempotent (shareSession cfg share) (cfg.shareName share.id) groupName size
      authRequired >>= rest).wp (service fault) (passing fun _ => True)
      (ending (fun value t => ∀ uid, locate value = some uid →
          filesystemAt (shareKey cfg share) t = some uid)
        (fun _ _ => True)) w := by
  apply wp_bind_of _ (wp_weaken wp_createFilesystemIdempotent (fun _ _ => trivial)
    (fun _ _ reached => reached.2) fun _ _ _ => trivial)
  intro fs t found
  have there : filesystemAt (shareKey cfg share) t = some fs.uid :=
    congrArg (Option.map Entry.uid) found
  have keeps : Obeys (service fault) (fun u => filesystemAt (shareKey cfg share) u = some fs.uid)
      (fun _ _ _ => True) (rest fs) :=
    obeys_filesystemAt ((uses fs).mono fun _ makes session => makes.keeps session _)
  refine wp_weaken ((returns fs).wp (keeps.wp_restored there)) (fun _ _ => trivial)
    (fun value u reached uid same => ?_) fun _ _ _ => trivial
  rw [reached.2] at same
  rw [← same]
  exact reached.1

private theorem wp_createShare_given (own : OwnSession cfg share.projectId w) :
    (createShare cfg share).wp (service fault) (passing fun _ => True)
      (ending (fun locations t => ∀ uid, givenUid locations = some uid →
          filesystemAt (shareKey cfg share) t = some uid)
        (fun _ _ => True)) w := by
  by_cases served : ∀ name, share.shareProto ≠ .other name
  · rw [createShare_eq served]
    refine wp_bind_of _ (wp_weaken (wp_clientForShare own) (fun _ _ => trivial)
      (fun _ _ opened => opened.2) fun _ _ _ => trivial) fun session t same => ?_
    subst same
    refine wp_given givenUid (fun fs => ?_) (fun fs => ?_) _ _ _
    · exact .bind (uses_joinGroup _ (fun _ => SetupOp.makesOnly) fun _ _ => PolicyOp.makesOnly)
        fun _ => trivial
    · exact .after fun _ => rfl
  · push Not at served
    obtain ⟨name, protocol⟩ := served
    unfold createShare
    rw [protocol]
    trivial

private theorem wp_createShareFromSnapshot_given (own : OwnSession cfg share.projectId w)
    (snapshot : ShareSnapshot) :
    (createShareFromSnapshot cfg share snapshot).wp (service fault) (passing fun _ => True)
      (ending (fun reported t => ∀ uid, givenUid reported.2 = some uid →
          filesystemAt (shareKey cfg share) t = some uid)
        (fun _ _ => True)) w := by
  rw [createShareFromSnapshot_eq, wp_ite]
  split
  · trivial
  · refine wp_bind_of _ (wp_weaken (wp_clientForShare own) (fun _ _ => trivial)
      (fun _ _ opened => opened.2) fun _ _ _ => trivial) fun session t same => ?_
    subst same
    unfold openCopy
    refine wp_bind_of (fun _ _ => True) (wp_true _ _) fun found u _ => ?_
    cases found with
    | none => trivial
    | some snap =>
        refine wp_bind_of (fun _ _ => True) (wp_true _ _) fun srcFs v _ => ?_
        have host (call : HostCall) :
            (onHost call).Uses (MakesOnly (cfg.shareName share.id)) :=
          uses_perform (SetupOp.makesOnly trivial)
        refine wp_given (fun reported : ShareStatus × List ExportLocation => givenUid reported.2)
          (fun fs => ?_) (fun fs => ?_) _ _ _
        · exact .bind (host _) fun _ => .bind (host _) fun _ => trivial
        · exact .after fun _ => .after fun _ => rfl

/-! ## Calls that delete a share -/

private theorem uses_createsNamed_deleteShare :
    (deleteShare cfg share).Uses (CreatesNamed (cfg.shareName share.id)) := by
  rw [deleteShare_eq]
  refine .bind ((uses_clientForShare share).mono fun _ opens => opens.setup.makesOnly.named)
    fun session => .bind ((uses_getFilesystemByName _ _).mono fun _ setup =>
      setup.makesOnly.named) fun found => ?_
  cases found with
  | none => trivial
  | some fs =>
      exact .bind ((uses_closeAccess _).mono fun _ policy => policy.makesOnly.named) fun _ =>
        .bind (uses_unmountShare.mono fun _ host => host.setup.makesOnly.named) fun _ =>
          uses_deleteFound _ fun _ _ _ _ _ same => by cases same

/-- The deletion of a filesystem keeps the others, and all where it fails. -/
theorem wp_deleteFound {session : Session} {fsUid : Uid} (there : filesystemAt key w = some uid) :
    (deleteFound session fsUid).wp (service fault)
      (passing fun v => fsUid ≠ uid → filesystemAt key v = some uid)
      (ending (fun _ t => fsUid ≠ uid → filesystemAt key t = some uid)
        (fun _ t => filesystemAt key t = some uid)) w := by
  unfold deleteFound
  rw [wp_tryCatch, onError_ending, wp_send]
  have handled (error : Error) : ending (fun _ t => fsUid ≠ uid → filesystemAt key t = some uid)
      (fun error t => ((if isNotFound error then pure () else throw error : Driver Unit)).wp
        (service fault) (passing fun v => fsUid ≠ uid → filesystemAt key v = some uid)
        (ending (fun _ t => fsUid ≠ uid → filesystemAt key t = some uid)
          (fun _ t => filesystemAt key t = some uid)) t) (.error error : Except Error Unit) w := by
    rw [ending_error, wp_ite]
    split
    · exact fun _ => there
    · exact there
  have spared (apart : fsUid ≠ uid) : filesystemAt key
      { w with cluster := (w.cluster.answer session (.deleteFilesystem fsUid)).2 } = some uid := by
    have answered : service fault w (.api session (.deleteFilesystem fsUid)) _
      { w with cluster := (w.cluster.answer session (.deleteFilesystem fsUid)).2 } := Or.inl rfl
    exact filesystemAt_kept there (fun session' same =>
      apart (Request.deleteFilesystem.inj (Op.api.inj same).2)) answered
  refine ⟨⟨spared, ?_⟩, fun error _ => ⟨fun _ => there, handled error⟩⟩
  cases owned : Cluster.owned w.cluster.filesystems fsUid fun fs => fs.org = session with
  | none =>
      simp only [Cluster.answer, owned]
      exact handled _
  | some entry =>
      simp only [Cluster.answer, owned] at spared ⊢
      exact spared

/-- The delete of a share keeps the filesystems under other names, and all where it
fails. -/
theorem wp_deleteShare_spares (share : Share) (fault : Fault)
    (own : OwnSession cfg share.projectId w)
    (there : filesystemAt key w = some uid) :
    (deleteShare cfg share).wp (service fault)
      (passing fun v => key ≠ shareKey cfg share → filesystemAt key v = some uid)
      (ending (fun _ t => key ≠ shareKey cfg share → filesystemAt key t = some uid)
        (fun _ t => filesystemAt key t = some uid)) w := by
  have keeps {α : Type} {program : Driver α} {s : World}
      (uses : program.Uses (MakesOnly (cfg.shareName share.id)))
      (here : filesystemAt key s = some uid) : program.wp (service fault)
        (passing fun v => key ≠ shareKey cfg share → filesystemAt key v = some uid)
        (ending (fun _ t => filesystemAt key t = some uid)
          (fun _ t => filesystemAt key t = some uid)) s := by
    have obeys : Obeys (service fault) (fun u => filesystemAt key u = some uid) (fun _ _ _ => True)
        program := obeys_filesystemAt (uses.mono fun _ makes session => makes.keeps session _)
    exact wp_mono (fun _ _ _ kept _ => kept.2) (fun _ _ ended => ended) (obeys s here)
  have same {u v : World} (equal : v.cluster.filesystems = u.cluster.filesystems)
      (here : filesystemAt key u = some uid) : filesystemAt key v = some uid := by
    unfold filesystemAt
    rw [equal]
    exact here
  rw [deleteShare_eq]
  refine wp_bind_of (fun session t => filesystemAt key t = some uid ∧
    session = shareSession cfg share) (wp_weaken (wp_clientForShare own)
      (fun _ equal _ => same equal there) (fun _ _ opened => ⟨same opened.1 there, opened.2⟩)
      fun _ _ equal => same equal there) fun session t opened => ?_
  obtain ⟨here, rfl⟩ := opened
  rw [wp_bind, onOk_ending]
  refine wp_getFilesystemByName (fun _ => here) ?_ fun _ _ => here
  rw [ending_ok]
  cases found : t.cluster.filesystems.find? (shareSession cfg share, cfg.shareName share.id) with
  | none => exact fun _ => here
  | some fs =>
      refine wp_bind_of _ (keeps ((uses_closeAccess _).mono fun _ => PolicyOp.makesOnly) here)
        fun _ u there' => ?_
      refine wp_bind_of _ (keeps (uses_unmountShare.mono fun _ host => host.setup.makesOnly) there')
        fun _ v there'' => ?_
      have own' : filesystemAt (shareKey cfg share) t = some fs.uid :=
        congrArg (Option.map Entry.uid) found
      have apart (other : key ≠ shareKey cfg share) : fs.uid ≠ uid := fun equal =>
        other (filesystemAt_injective here (by rw [← equal]; exact own'))
      exact wp_weaken (wp_deleteFound there'') (fun _ kept other => kept (apart other))
        (fun _ _ kept other => kept (apart other)) fun _ _ kept => kept

/-! ## Runs -/

/-- Making and deleting shares keeps every session a project's own. -/
theorem obeys_isolated {operation : Operation} (makes : operation.makesOrDeletes = true) :
    Obeys (service fault) (Isolated cfg fun _ => True) (fun _ _ _ => True)
      (operation.program cfg) := by
  have keeps {α : Type} {guarantee : World → Op → World → Prop} {program : Driver α}
      (obeys : Obeys (service fault) (Isolated cfg fun _ => True) guarantee program) :
      Obeys (service fault) (Isolated cfg fun _ => True) (fun _ _ _ => True) program :=
    fun s isolated => wp_mono (fun _ _ _ kept => ⟨trivial, kept.2⟩) (fun _ _ ended => ended)
      (obeys s isolated)
  cases operation with
  | createShare share =>
      by_cases served : ∀ name, share.shareProto ≠ .other name
      · refine keeps (obeys_createShare (fun _ => trivial) ?_)
        cases protocol : share.shareProto with
        | wekafs => exact Or.inl rfl
        | nfs => exact Or.inr rfl
        | other name => exact absurd protocol (served name)
      · push Not at served
        obtain ⟨name, protocol⟩ := served
        change Obeys _ _ _ (createShare cfg share)
        unfold createShare
        rw [protocol]
        exact .throw _
  | createShareFromSnapshot share snapshot =>
      exact keeps (obeys_createShareFromSnapshot (fun _ => trivial) snapshot)
  | deleteShare share => exact keeps (obeys_tenant_deleteShare fun _ => trivial)
  | _ => cases makes

/-- What holds between the operations of a run. -/
structure Allotted (cfg : Config) (shares : Share → Prop) (w : World)
    (given : String → Option Uid) : Prop where
  isolated : Isolated cfg (fun _ => True) w
  present : ∀ share, shares share → ∀ uid, given share.id = some uid →
    filesystemAt (shareKey cfg share) w = some uid
  apart : ∀ share other, shares share → shares other → share.id ≠ other.id →
    shareSession cfg share = shareSession cfg other → given share.id ≠ none →
      given other.id ≠ none → nameDigits cfg share ≠ nameDigits cfg other

section Runs

variable (short : cfg.shareNamePrefix.toList.length ≤ 32)
  (identified : ∀ share other, shares share → shares other → share.id = other.id →
    shareSession cfg share = shareSession cfg other)

include short in
/-- A share that is apart from the others has another name on its session. -/
theorem Apart.shareKey_ne (apart : Apart cfg shares given share) (member : shares other)
    (different : other.id ≠ share.id) (alive : given other.id ≠ none) :
    shareKey cfg other ≠ shareKey cfg share := by
  intro same
  obtain ⟨sessions, names⟩ := Prod.mk.inj same
  exact apart other member different alive sessions (nameDigits_eq_of_shareName short names)

/-- Filesystems that stay under their names stay allotted. -/
theorem Allotted.kept (allotted : Allotted cfg shares w given)
    (isolated : Isolated cfg (fun _ => True) t)
    (kept : ∀ key uid, filesystemAt key w = some uid → filesystemAt key t = some uid) :
    Allotted cfg shares t given :=
  ⟨isolated, fun share member uid held => kept _ _ (allotted.present share member uid held),
    allotted.apart⟩

include identified in
/-- A share that is apart from the others is given its filesystem. -/
theorem Allotted.made (allotted : Allotted cfg shares w given) (member : shares share)
    (apart : Apart cfg shares given share) {made : Option Uid}
    (there : ∀ uid, made = some uid → filesystemAt (shareKey cfg share) w = some uid) :
    Allotted cfg shares w (Function.update given share.id made) := by
  have digits {other : Share} (same : other.id = share.id) :
      nameDigits cfg other = nameDigits cfg share := by
    unfold nameDigits
    rw [same]
  refine ⟨allotted.isolated, fun other member' uid held => ?_,
    fun one other member' member'' different sessions alive alive' => ?_⟩
  · by_cases same : other.id = share.id
    · rw [same, Function.update_self] at held
      have key : shareKey cfg other = shareKey cfg share := by
        unfold shareKey
        rw [identified other share member' member same, same]
      rw [key]
      exact there uid held
    · rw [Function.update_of_ne same] at held
      exact allotted.present other member' uid held
  · by_cases same : one.id = share.id
    · have different' : other.id ≠ share.id := fun equal => different (same.trans equal.symm)
      rw [Function.update_of_ne different'] at alive'
      rw [digits same]
      exact (apart other member'' different' alive' (sessions.symm.trans
        (identified one share member' member same))).symm
    · rw [Function.update_of_ne same] at alive
      by_cases same' : other.id = share.id
      · rw [digits same']
        exact apart one member' same alive (sessions.trans
          (identified other share member'' member same'))
      · rw [Function.update_of_ne same'] at alive'
        exact allotted.apart one other member' member'' different sessions alive alive'

include short in
/-- A share that is apart from the others leaves them theirs. -/
theorem Allotted.deleted (allotted : Allotted cfg shares w given)
    (isolated : Isolated cfg (fun _ => True) t) (apart : Apart cfg shares given share)
    (kept : ∀ key uid, filesystemAt key w = some uid → key ≠ shareKey cfg share →
      filesystemAt key t = some uid) :
    Allotted cfg shares t (Function.update given share.id none) := by
  have alive {other : Share} (alive' : Function.update given share.id none other.id ≠ none) :
      other.id ≠ share.id ∧ given other.id ≠ none := by
    by_cases same : other.id = share.id
    · rw [same, Function.update_self] at alive'
      exact absurd rfl alive'
    · rw [Function.update_of_ne same] at alive'
      exact ⟨same, alive'⟩
  refine ⟨isolated, fun other member uid held => ?_,
    fun one other member member' different sessions alive' alive'' =>
      allotted.apart one other member member' different sessions (alive alive').2 (alive alive'').2⟩
  obtain ⟨different, held'⟩ := alive (by rw [held]; exact Option.some_ne_none uid)
  rw [Function.update_of_ne different] at held
  exact kept _ _ (allotted.present other member uid held)
    (apart.shareKey_ne short member different held')

include short identified

/-- An operation for a share that is apart from the others keeps what is allotted. -/
theorem Allotted.step (allotted : Allotted cfg shares w given) {operation : Operation}
    {outcome : Except Error operation.Result}
    (handles : operation.HandlesApart cfg shares given)
    (run : Exec (service fault) (operation.program cfg) w outcome t) :
    Allotted cfg shares t (operation.gives given outcome) := by
  obtain ⟨⟨makes, members⟩, aparts⟩ := handles
  have isolated := (obeys_isolated makes).restored allotted.isolated run
  cases operation with
  | createShare share =>
      have kept : Allotted cfg shares t given := allotted.kept isolated fun key uid there =>
        (obeys_filesystemAt (uses_makesOnly_createShare.mono fun _ makes' session =>
          makes'.keeps session _)).restored there run
      cases outcome with
      | error error => exact kept
      | ok locations =>
          exact kept.made identified (members share List.mem_cons_self)
            (aparts share List.mem_cons_self)
            (run.post (wp_createShare_given (allotted.isolated.ownSession _)))
  | createShareFromSnapshot share snapshot =>
      have kept : Allotted cfg shares t given := allotted.kept isolated fun key uid there =>
        (obeys_filesystemAt ((uses_makesOnly_createShareFromSnapshot snapshot).mono
          fun _ makes' session => makes'.keeps session _)).restored there run
      cases outcome with
      | error error => exact kept
      | ok reported =>
          exact kept.made identified (members share List.mem_cons_self)
            (aparts share List.mem_cons_self)
            (run.post (wp_createShareFromSnapshot_given (allotted.isolated.ownSession _) snapshot))
  | deleteShare share =>
      have ended {key : Session × String} {uid : Uid} (there : filesystemAt key w = some uid) :=
        run.post (wp_deleteShare_spares share fault (allotted.isolated.ownSession _) there)
      cases outcome with
      | error error => exact allotted.kept isolated fun key uid there => ended there
      | ok value =>
          exact allotted.deleted short isolated (aparts share List.mem_cons_self)
            fun key uid there => ended there
  | _ => cases makes

/-- In every run of operations for shares that are apart from the others, each share
has its own filesystem. -/
theorem own_filesystems (fresh : start.host.orgClients = [])
    (reached : SharesReach cfg fault (Operation.HandlesApart cfg shares) start w given) :
    OwnFilesystems cfg fault shares (Operation.HandlesApart cfg shares) w given := by
  have allotted : Allotted cfg shares w given := by
    induction reached with
    | start =>
        refine ⟨fun p session cached => ?_, fun share member uid held => ?_,
          fun share other _ _ _ _ alive => absurd rfl alive⟩
        · rw [fresh] at cached
          cases cached
        · cases held
    | operation _ request run ih => exact ih.step short identified request run
  refine ⟨fun operation handles u v session name groupName size authRequired issued => ?_,
    fun share other member member' different sessions uid held held' => ?_,
    fun share other t member' different handles within uid held => ?_⟩
  · have named : ∃ share : Share, name = cfg.shareName share.id := by
      obtain ⟨⟨makes, -⟩, -⟩ := handles
      cases operation with
      | createShare share =>
          exact ⟨share, (issued.uses uses_makesOnly_createShare).named _ _ _ _ _ rfl⟩
      | createShareFromSnapshot share snapshot =>
          exact ⟨share, (issued.uses (uses_makesOnly_createShareFromSnapshot snapshot)).named
            _ _ _ _ _ rfl⟩
      | deleteShare share =>
          exact ⟨share, issued.uses uses_createsNamed_deleteShare _ _ _ _ _ rfl⟩
      | _ => cases makes
    obtain ⟨share, rfl⟩ := named
    exact length_shareName short share
  · have alive : given share.id ≠ none := by
      rw [held]
      exact Option.some_ne_none uid
    have alive' : given other.id ≠ none := by
      rw [held']
      exact Option.some_ne_none uid
    have same := filesystemAt_injective (allotted.present share member uid held)
      (allotted.present other member' uid held')
    exact allotted.apart share other member member' different sessions alive alive'
      (nameDigits_eq_of_shareName short (Prod.mk.inj same).2)
  · have alive : given other.id ≠ none := by
      rw [held]
      exact Option.some_ne_none uid
    have there := allotted.present other member' uid held
    have apart := (handles.2 share List.mem_cons_self).shareKey_ne short member' different.symm alive
    have spares := wp_deleteShare_spares share fault (allotted.isolated.ownSession _) there
    rcases within with rfl | ⟨u, op, issued⟩
    · exact there
    · exact issued.meets spares apart

end Runs

section Sample

/-- A driver whose prefix leaves room for eight digits of an id. -/
def longPrefix : Config := { sampleConfig with shareNamePrefix := "manila_production_east1_" }

/-- The sample share and another one. -/
def TwoShares (second : Share) (share : Share) : Prop :=
  share = sampleShare .wekafs ∨ share = second

/-- The world with the first share. -/
def firstCreated : World :=
  (((Operation.createShare (sampleShare .wekafs)).program longPrefix).run respond
    ⟨Cluster.empty, Host.empty⟩).2

/-- What the first share was given. -/
def firstGiven : String → Option Uid :=
  (Operation.createShare (sampleShare .wekafs)).gives (fun _ => none)
    (((Operation.createShare (sampleShare .wekafs)).program longPrefix).run respond
      ⟨Cluster.empty, Host.empty⟩).1

/-- The world with both shares. -/
def bothCreated (second : Share) : World :=
  (((Operation.createShare second).program longPrefix).run respond firstCreated).2

/-- What both shares were given. -/
def bothGiven (second : Share) : String → Option Uid :=
  (Operation.createShare second).gives firstGiven
    (((Operation.createShare second).program longPrefix).run respond firstCreated).1

/-- Shares of different ids are told apart by their ids. -/
theorem identified_twoShares {second : Share} (different : (sampleShare .wekafs).id ≠ second.id) :
    ∀ one other, TwoShares second one → TwoShares second other → one.id = other.id →
      shareSession longPrefix one = shareSession longPrefix other := by
  rintro one other (rfl | rfl) (rfl | rfl) same
  · rfl
  · exact absurd same different
  · exact absurd same.symm different
  · rfl

/-- Shares whose ids start differently have filesystems of their own. -/
theorem own_filesystems_sample :
    OwnFilesystems longPrefix noFaults (TwoShares strangeShare)
      (Operation.HandlesApart longPrefix (TwoShares strangeShare)) (bothCreated strangeShare)
      (bothGiven strangeShare) := by
  have handles {share : Share} (member : TwoShares strangeShare share) :
      ∀ share' ∈ (Operation.createShare share).shares, TwoShares strangeShare share' := by
    intro share' listed
    rwa [List.eq_of_mem_singleton listed]
  refine own_filesystems (by decide) (identified_twoShares (by decide)) rfl
    (.operation (.operation .start ⟨⟨rfl, handles (Or.inl rfl)⟩, ?_⟩ (exec_run _ _))
      ⟨⟨rfl, handles (Or.inr rfl)⟩, ?_⟩ (exec_run _ _))
  · exact fun share _ other _ _ alive => absurd rfl alive
  · intro share listed
    rw [List.eq_of_mem_singleton listed]
    rintro other (rfl | rfl) different alive sessions
    · decide
    · exact absurd rfl different

/-- Shares whose ids start alike are given one filesystem. -/
theorem long_prefix_merges_shares :
    IsUuid (sampleShare .wekafs).id ∧ IsUuid twinShare.id ∧
      (sampleShare .wekafs).id ≠ twinShare.id ∧
      SharesReach longPrefix noFaults (Operation.Handles (TwoShares twinShare))
        ⟨Cluster.empty, Host.empty⟩ (bothCreated twinShare) (bothGiven twinShare) ∧
      ¬ OwnFilesystems longPrefix noFaults (TwoShares twinShare)
        (Operation.Handles (TwoShares twinShare)) (bothCreated twinShare) (bothGiven twinShare) := by
  have handles {share : Share} (member : TwoShares twinShare share) :
      ∀ share' ∈ (Operation.createShare share).shares, TwoShares twinShare share' := by
    intro share' listed
    rwa [List.eq_of_mem_singleton listed]
  refine ⟨isUuid_sample .wekafs, isUuid_twin, by decide,
    .operation (.operation .start ⟨rfl, handles (Or.inl rfl)⟩ (exec_run _ _))
      ⟨rfl, handles (Or.inr rfl)⟩ (exec_run _ _), fun own => ?_⟩
  have first : bothGiven twinShare (sampleShare .wekafs).id = some 0 := by decide +kernel
  have second : bothGiven twinShare twinShare.id = some 0 := by decide +kernel
  exact own.distinct _ _ (Or.inl rfl) (Or.inr rfl) (by decide) rfl 0 first second

end Sample

end WekaShareDriver
