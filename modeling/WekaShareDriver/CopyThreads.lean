import Mathlib.Logic.Function.Basic
import Mathlib.Logic.Relation
import WekaShareDriver.CopyUses
import WekaShareDriver.ShareFilesystems

/-! # Background copies as threads

A process of the driver runs calls that create shares from snapshots, the workers they start,
and polls, all at once. Every operation of a call or a worker is a step; between two of them any
other thread may go on, and the rest of the world may change
(`WekaShareDriver.Process.Step`). Only the table of copies is the process's own, and a worker
records its end there under a lock, in one step.

The table holds one entry for each share id. As long as a copy is announced only once the earlier
copies of its share id have ended, the entry is the latest copy's and tells how it stands
(`WekaShareDriver.Process.Sound`, `WekaShareDriver.Process.Sound.step`).
-/

namespace WekaShareDriver

open Foundation Program

/-! ## The table of copies -/

/-- An operation on the table of copies. -/
def TableOp : Op → Prop
  | .host (.asyncCopyGet _) => True
  | .host (.asyncCopyPut ..) => True
  | _ => False

instance : DecidablePred TableOp := fun op => by
  unfold TableOp
  split <;> infer_instance

/-- The world where any operation may fail, except on the table, which is in memory. -/
abbrev processService (fault : Fault) : Service Op Op.Res Error World :=
  service fun w op error => fault w op error ∧ ¬ TableOp op

/-- Copy a snapshot's data. -/
def copySnapshot (cfg : Config) (job : CopyJob) : Driver Unit :=
  if job.share.shareProto = .nfs then copySnapshotNfs cfg job else copySnapshotWekafs cfg job

/-- What a create call does once it has the filesystem: announce the copy, start it, return. -/
def announceCopy (cfg : Config) (share : Share) (fsUid : Uid) (job : CopyJob) :
    Driver (ShareStatus × List ExportLocation) := do
  onHost (.asyncCopyPut share.id ⟨.creatingFromSnapshot, some fsUid, some (cfg.shareName share.id)⟩)
  onHost (.startCopy job)
  return (.creatingFromSnapshot, buildExportLocations cfg share (cfg.shareName share.id)
    (some fsUid) share.shareProto)

/-- A create call that has not announced its copy: it leaves the table alone until it does. -/
def Announces (cfg : Config) (share : Share) : Driver (ShareStatus × List ExportLocation) → Prop
  | .ret _ => True
  | .fail _ => True
  | .call op next =>
      (¬ TableOp op ∧ ∀ answer, Announces cfg share (next answer)) ∨
        ∃ fsUid job, job.share = share ∧ Program.call op next = announceCopy cfg share fsUid job

variable {cfg : Config} {fault : Fault} {share : Share} {w t : World}

private theorem OpenOp.not_tableOp {op : Op} (opens : OpenOp op) : ¬ TableOp op := by
  unfold TableOp
  split
  · exact fun _ => opens.elim
  · exact fun _ => opens.elim
  · exact id

private theorem MountOp.not_tableOp {op : Op} (mounts : MountOp op) : ¬ TableOp op := by
  unfold TableOp
  split
  · exact fun _ => mounts.elim
  · exact fun _ => mounts.elim
  · exact id

/-- Only an operation on the table changes it. -/
theorem asyncCopies_of_not_tableOp {op : Op} {answer : Except Error op.Res}
    (quiet : ¬ TableOp op) (answered : processService fault w op answer t) :
    t.host.asyncCopies = w.host.asyncCopies := by
  rcases answered_world answered with rfl | rfl
  · cases op with
    | host call =>
        cases call with
        | asyncCopyGet shareId => rfl
        | asyncCopyPut shareId entry => exact absurd trivial quiet
        | shareTypeExtraSpecs typeId | umount mountPoint force | rmdir path =>
            simp only [respond, Host.answer]
            split <;> rfl
        | _ => rfl
    | _ => rfl
  · rfl

private theorem not_tableOp_startCopy (job : CopyJob) :
    ¬ TableOp (.host (.startCopy job)) := not_false

/-- An operation on the table is always answered. -/
theorem answered_of_tableOp {op : Op} {answer : Except Error op.Res} (table : TableOp op)
    (answered : processService fault w op answer t) : respond op w = (answer, t) := by
  rcases answered with answered | ⟨_, ⟨_, quiet⟩, _⟩
  · exact answered
  · exact absurd table quiet

/-! ## What the threads run -/

/-- A create call may do more before it announces its copy, if it leaves the table alone. -/
theorem Announces.of_bind {α : Type} {program : Driver α}
    {rest : α → Driver (ShareStatus × List ExportLocation)}
    (quiet : program.Uses fun op => ¬ TableOp op) (announces : ∀ value, Announces cfg share (rest value)) :
    Announces cfg share (program >>= rest) := by
  change Announces cfg share (program.bind rest)
  induction program with
  | ret value => exact announces value
  | fail error => trivial
  | call op next ih => exact Or.inl ⟨quiet.1, fun answer => ih answer (quiet.2 answer)⟩

/-- A create call leaves the table alone until it announces its copy. -/
theorem announces_createShareFromSnapshot (snapshot : ShareSnapshot) :
    Announces cfg share (createShareFromSnapshot cfg share snapshot) := by
  rw [createShareFromSnapshot_eq]
  split
  · trivial
  · refine .of_bind ((uses_clientForShare share).mono fun _ => OpenOp.not_tableOp) fun session => ?_
    have snapshots : (getSnapshotByName session (snapshotName snapshot.id) none).Uses
        fun op => ¬ TableOp op := .bind (uses_perform not_false) fun _ => trivial
    refine .of_bind snapshots fun found => ?_
    cases found with
    | none => trivial
    | some snap =>
        have found : (createFilesystemIdempotent session (cfg.shareName share.id)
            cfg.filesystemGroup (gbToBytes share.size) (isIsolatedWekafs share)).Uses
            fun op => ¬ TableOp op := uses_findOrCreate not_false not_false
        exact .of_bind (uses_perform not_false) fun srcFs =>
          .of_bind found fun fs => Or.inr ⟨fs.uid, _, rfl, rfl⟩

/-- Copying the data leaves the table alone. -/
theorem quiet_copySnapshot (job : CopyJob) :
    (copySnapshot cfg job).Uses fun op => ¬ TableOp op := by
  refine .ite (fun _ => ?_) fun _ => ?_
  · refine (copies_copySnapshotNfs job).mono fun op copy => ?_
    rcases copy with mounts | ⟨fsName, request, rfl, _⟩
    · exact mounts.not_tableOp
    · exact not_false
  · obtain ⟨rest, shape, uses⟩ := copySnapshotWekafs_shape cfg job
    rw [shape]
    refine .bind ((opens_orgTokenFile _).mono fun op use => ?_) fun path =>
      (uses path).mono fun _ => MountOp.not_tableOp
    rcases use with opens | ⟨path, session, rfl⟩
    · exact opens.not_tableOp
    · exact not_false

/-! ## The threads of a process -/

/-- How a copy stands, from its announcement on. -/
inductive CopyState where
  | running
  | succeeded
  | failed
  /-- Announced, but its worker could not be started. -/
  | unstarted
  deriving DecidableEq, Repr

namespace CopyState

/-- The status a copy is reported with. -/
def status : CopyState → ShareStatus
  | .running => .creatingFromSnapshot
  | .succeeded => .available
  | .failed => .error
  | .unstarted => .creatingFromSnapshot

/-- How a copy stands once its data has been copied, or not. -/
def ofCopied : Except Error Unit → CopyState
  | .ok _ => .succeeded
  | .error _ => .failed

end CopyState

/-- A copy announced in this process: the thread it is made by, and what its creation found. -/
structure Copy where
  thread : Nat
  share : Share
  fsUid : Uid
  fsName : String
  state : CopyState
  deriving DecidableEq

/-- What the table holds for a copy. -/
def Copy.entry (copy : Copy) : CopyEntry := ⟨copy.state.status, some copy.fsUid, some copy.fsName⟩

/-- A thread, with what it has still to run. -/
inductive Thread where
  | creating (share : Share) (rest : Driver (ShareStatus × List ExportLocation))
  | starting (share : Share) (rest : Driver (ShareStatus × List ExportLocation))
  | copying (job : CopyJob) (rest : Driver Unit)
  | ended

/-- A process of the driver in its world, with the copies announced so far, the latest first. -/
structure Process where
  world : World
  threads : Nat → Option Thread
  copies : List Copy

/-- What can happen, as far as the reports of copies are concerned. -/
inductive Event where
  | move
  | announce (share : Share)
  | poll (share : Share) (answer : ShareStatus × Option (List ExportLocation))

/-- Note how a thread's copy stands. -/
def markCopy (thread : Nat) (state : CopyState) (copies : List Copy) : List Copy :=
  copies.map fun copy => if copy.thread = thread then { copy with state } else copy

namespace Process

/-- A thread has got further. -/
def goOn (p : Process) (i : Nat) (thread : Thread) (w : World) : Process :=
  { p with world := w, threads := Function.update p.threads i (some thread) }

/-- A thread has announced its copy. -/
def announced (p : Process) (i : Nat) (share : Share) (fsUid : Uid) (fsName : String)
    (rest : Driver (ShareStatus × List ExportLocation)) (w : World) : Process :=
  { p.goOn i (.starting share rest) w with
    copies := ⟨i, share, fsUid, fsName, .running⟩ :: p.copies }

/-- A thread is done with its copy. -/
def finished (p : Process) (i : Nat) (state : CopyState) (w : World) : Process :=
  { p.goOn i .ended w with copies := markCopy i state p.copies }

/-- One step of a process: of one of its threads, of the rest of the world, or a poll. -/
inductive Step (cfg : Config) (fault : Fault) : Process → Event → Process → Prop where
  | elsewhere {p : Process} {w : World} :
      w.host.asyncCopies = p.world.host.asyncCopies →
        Step cfg fault p .move { p with world := w }
  | request {p : Process} {i : Nat} (share : Share) (snapshot : ShareSnapshot) :
      p.threads i = none →
        Step cfg fault p .move
          (p.goOn i (.creating share (createShareFromSnapshot cfg share snapshot)) p.world)
  | create {p : Process} {i : Nat} {share : Share} {op : Op}
      {next : Except Error op.Res → Driver (ShareStatus × List ExportLocation)}
      {answer : Except Error op.Res} {w : World} :
      p.threads i = some (.creating share (.call op next)) → ¬ TableOp op →
        processService fault p.world op answer w →
          Step cfg fault p .move (p.goOn i (.creating share (next answer)) w)
  | announce {p : Process} {i : Nat} {share : Share} {shareId fsName : String} {fsUid : Uid}
      {next : Except Error Unit → Driver (ShareStatus × List ExportLocation)}
      {answer : Except Error Unit} {w : World} :
      p.threads i = some (.creating share (.call (.host (.asyncCopyPut shareId
        ⟨.creatingFromSnapshot, some fsUid, some fsName⟩)) next)) →
        processService fault p.world (.host (.asyncCopyPut shareId
          ⟨.creatingFromSnapshot, some fsUid, some fsName⟩)) answer w →
          Step cfg fault p (.announce share) (p.announced i share fsUid fsName (next answer) w)
  | start {p : Process} {i : Nat} {share : Share} {job : CopyJob}
      {next : Except Error Unit → Driver (ShareStatus × List ExportLocation)} {w : World} :
      p.threads i = some (.starting share (.call (.host (.startCopy job)) next)) →
        processService fault p.world (.host (.startCopy job)) (.ok ()) w →
          Step cfg fault p .move (p.goOn i (.copying job (copySnapshot cfg job)) w)
  | unstarted {p : Process} {i : Nat} {share : Share} {job : CopyJob}
      {next : Except Error Unit → Driver (ShareStatus × List ExportLocation)} {error : Error}
      {w : World} :
      p.threads i = some (.starting share (.call (.host (.startCopy job)) next)) →
        processService fault p.world (.host (.startCopy job)) (.error error) w →
          Step cfg fault p .move (p.finished i .unstarted w)
  | copy {p : Process} {i : Nat} {job : CopyJob} {op : Op}
      {next : Except Error op.Res → Driver Unit} {answer : Except Error op.Res} {w : World} :
      p.threads i = some (.copying job (.call op next)) →
        processService fault p.world op answer w →
          Step cfg fault p .move (p.goOn i (.copying job (next answer)) w)
  | finish {p : Process} {i : Nat} {job : CopyJob} {copied : Except Error Unit} {w : World} :
      p.threads i = some (.copying job (MonadExcept.ofExcept copied)) →
        Exec (processService fault)
          (recordCopy job.share.id (CopyState.ofCopied copied).status) p.world (.ok ()) w →
          Step cfg fault p .move (p.finished i (.ofCopied copied) w)
  | poll {p : Process} {share : Share} {answer : ShareStatus × Option (List ExportLocation)}
      {w : World} :
      Exec (processService fault) (getShareStatus cfg share) p.world (.ok answer) w →
        Step cfg fault p (.poll share answer) { p with world := w }

end Process

private theorem exec_onTable (call : HostCall) {answer : Except Error call.Reply}
    (table : TableOp (.host call)) (run : Exec (processService fault) (onHost call) w answer t) :
    respond (.host call) w = (answer, t) :=
  answered_of_tableOp table run.of_perform

/-- Recording the end of a copy changes the status in its share's entry. -/
theorem exec_recordCopy {shareId : String} {status : ShareStatus} {outcome : Except Error Unit}
    (run : Exec (processService fault) (recordCopy shareId status) w outcome t) :
    outcome = .ok () ∧ t.host.asyncCopies = w.host.asyncCopies.assign shareId
      { (w.host.asyncCopies.get? shareId).getD ⟨status, none, none⟩ with status } := by
  rcases run.of_bind with ⟨entry, u, reads, writes⟩ | ⟨error, rfl, reads⟩
  · have read := exec_onTable (.asyncCopyGet shareId) trivial reads
    have written := exec_onTable (.asyncCopyPut shareId _) trivial writes
    simp only [respond, Host.answer, Prod.mk.injEq, Except.ok.injEq] at read written
    obtain ⟨rfl, rfl⟩ := read
    obtain ⟨rfl, rfl⟩ := written
    cases held : w.host.asyncCopies.get? shareId <;> exact ⟨rfl, rfl⟩
  · cases congrArg Prod.fst (exec_onTable (.asyncCopyGet shareId) trivial reads)

/-- The answer to a poll, by the entry of the share. -/
def statusAnswer (cfg : Config) (share : Share) :
    Option CopyEntry → ShareStatus × Option (List ExportLocation)
  | none => (.error, none)
  | some entry =>
      match entry.status with
      | .available => (.available, some (buildExportLocations cfg share
          (entry.fsName.getD (cfg.shareName share.id)) entry.fsUid share.shareProto))
      | .error => (.error, none)
      | .creatingFromSnapshot => (.creatingFromSnapshot, none)

/-- A poll reads the entry of the share and changes nothing. -/
theorem exec_getShareStatus {outcome : Except Error (ShareStatus × Option (List ExportLocation))}
    (run : Exec (processService fault) (getShareStatus cfg share) w outcome t) :
    outcome = .ok (statusAnswer cfg share (w.host.asyncCopies.get? share.id)) ∧ t = w := by
  rcases run.of_bind with ⟨entry, u, reads, answers⟩ | ⟨error, rfl, reads⟩
  · have read := exec_onTable (.asyncCopyGet share.id) trivial reads
    simp only [respond, Host.answer, Prod.mk.injEq, Except.ok.injEq] at read
    obtain ⟨rfl, rfl⟩ := read
    cases held : w.host.asyncCopies.get? share.id with
    | none =>
        rw [held] at answers
        cases answers
        exact ⟨rfl, rfl⟩
    | some entry =>
        obtain ⟨status, fsUid, fsName⟩ := entry
        rw [held] at answers
        cases status <;> cases answers <;> exact ⟨rfl, rfl⟩
  · cases congrArg Prod.fst (exec_onTable (.asyncCopyGet share.id) trivial reads)

/-! ## The invariant -/

/-- The copies announced for a share id, the latest first. -/
def copiesOf (shareId : String) (copies : List Copy) : List Copy :=
  copies.filter fun copy => copy.share.id = shareId

/-- An entry of the table tells how the latest of its copies stands; the earlier ones have
ended. -/
def Told : List Copy → Option CopyEntry → Prop
  | [], held => held = none
  | copy :: older, held => held = some copy.entry ∧ ∀ other ∈ older, other.state ≠ .running

/-- What a thread has still to run fits the copy it is about. -/
def Held (cfg : Config) (copies : List Copy) (i : Nat) : Option Thread → Prop
  | none => i ∉ copies.map Copy.thread
  | some (.creating share rest) => i ∉ copies.map Copy.thread ∧ Announces cfg share rest
  | some (.starting share rest) =>
      ∃ copy ∈ copies, copy.thread = i ∧ copy.state = .running ∧ copy.share = share ∧
        ∃ job, job.share = share ∧ rest = (do
          onHost (.startCopy job)
          return (.creatingFromSnapshot, buildExportLocations cfg share copy.fsName
            (some copy.fsUid) share.shareProto))
  | some (.copying job rest) =>
      (∃ copy ∈ copies, copy.thread = i ∧ copy.state = .running ∧ copy.share = job.share) ∧
        rest.Uses fun op => ¬ TableOp op
  | some .ended => True

private theorem copiesOf_cons (shareId : String) (copy : Copy) (copies : List Copy) :
    copiesOf shareId (copy :: copies) =
      if copy.share.id = shareId then copy :: copiesOf shareId copies
      else copiesOf shareId copies := by
  simp only [copiesOf, List.filter_cons, decide_eq_true_eq]

private theorem copiesOf_markCopy (shareId : String) (i : Nat) (state : CopyState)
    (copies : List Copy) :
    copiesOf shareId (markCopy i state copies) = markCopy i state (copiesOf shareId copies) := by
  unfold copiesOf markCopy
  rw [List.filter_map]
  congr 1
  refine List.filter_congr fun copy _ => ?_
  simp only [Function.comp_apply]
  split <;> rfl

private theorem threads_markCopy (i : Nat) (state : CopyState) (copies : List Copy) :
    (markCopy i state copies).map Copy.thread = copies.map Copy.thread := by
  unfold markCopy
  rw [List.map_map]
  refine List.map_congr_left fun copy _ => ?_
  simp only [Function.comp_apply]
  split <;> rfl

private theorem markCopy_of_not_mem {i : Nat} {state : CopyState} {copies : List Copy}
    (other : i ∉ copies.map Copy.thread) : markCopy i state copies = copies := by
  refine (List.map_congr_left fun copy member => ?_).trans (List.map_id _)
  exact if_neg fun same => other (List.mem_map.mpr ⟨copy, member, same⟩)

private theorem mem_markCopy_of_ne {i : Nat} {state : CopyState} {copies : List Copy} {copy : Copy}
    (member : copy ∈ copies) (other : copy.thread ≠ i) : copy ∈ markCopy i state copies :=
  List.mem_map.mpr ⟨copy, member, if_neg other⟩

/-- The copies of one thread are one copy. -/
theorem eq_of_thread_eq {copies : List Copy} (distinct : (copies.map Copy.thread).Nodup)
    {copy other : Copy} (member : copy ∈ copies) (among : other ∈ copies)
    (same : copy.thread = other.thread) : copy = other :=
  List.inj_on_of_nodup_map distinct member among same

/-- Noting the end of a running copy keeps the table in step, if its entry is changed alike. -/
theorem told_markCopy {copies : List Copy} {copy : Copy} {state : CopyState}
    {held held' : Dict String CopyEntry} (distinct : (copies.map Copy.thread).Nodup)
    (told : ∀ shareId, Told (copiesOf shareId copies) (held.get? shareId))
    (member : copy ∈ copies) (running : copy.state = .running)
    (changed : held.get? copy.share.id = some copy.entry →
      held'.get? copy.share.id = some { copy with state }.entry)
    (others : ∀ shareId, shareId ≠ copy.share.id → held'.get? shareId = held.get? shareId)
    (shareId : String) :
    Told (copiesOf shareId (markCopy copy.thread state copies)) (held'.get? shareId) := by
  rw [copiesOf_markCopy]
  by_cases same : shareId = copy.share.id
  · subst same
    have among : copy ∈ copiesOf copy.share.id copies :=
      List.mem_filter.mpr ⟨member, decide_eq_true rfl⟩
    have apart : ((copiesOf copy.share.id copies).map Copy.thread).Nodup :=
      distinct.sublist (List.filter_sublist.map _)
    have current := told copy.share.id
    cases found : copiesOf copy.share.id copies with
    | nil => rw [found] at among; cases among
    | cons latest older =>
        rw [found] at among current apart
        obtain ⟨entry, ended⟩ := current
        rcases List.mem_cons.mp among with rfl | old
        · have untouched : markCopy copy.thread state older = older :=
            markCopy_of_not_mem (List.nodup_cons.mp apart).1
          have marked : markCopy copy.thread state (copy :: older) =
              { copy with state } :: markCopy copy.thread state older := by
            simp [markCopy]
          rw [marked, untouched]
          exact ⟨changed entry, ended⟩
        · exact absurd running (ended copy old)
  · have untouched : markCopy copy.thread state (copiesOf shareId copies) =
        copiesOf shareId copies := by
      refine markCopy_of_not_mem fun listed => ?_
      obtain ⟨other, kept, thread⟩ := List.mem_map.mp listed
      obtain ⟨among, named⟩ := List.mem_filter.mp kept
      have equal := eq_of_thread_eq distinct among member thread
      exact same (by rw [← of_decide_eq_true named, equal])
    rw [untouched, others shareId same]
    exact told shareId

namespace Process

/-- The table tells how the latest copies stand, and every thread fits its copy. -/
structure Sound (cfg : Config) (p : Process) : Prop where
  told : ∀ shareId, Told (copiesOf shareId p.copies) (p.world.host.asyncCopies.get? shareId)
  distinct : (p.copies.map Copy.thread).Nodup
  held : ∀ i, Held cfg p.copies i (p.threads i)

/-- A process in which no copy has been asked for yet. -/
structure Fresh (p : Process) : Prop where
  table : p.world.host.asyncCopies = []
  threads : ∀ i, p.threads i = none
  copies : p.copies = []

/-- A process in which nothing was copied is sound. -/
theorem Fresh.sound {p : Process} (fresh : p.Fresh) : p.Sound cfg where
  told shareId := by
    rw [fresh.copies, fresh.table]
    rfl
  distinct := by
    rw [fresh.copies]
    exact .nil
  held i := by
    rw [fresh.threads, fresh.copies]
    exact List.not_mem_nil

/-- A thread that goes on without touching the table or its copy. -/
theorem Sound.goOn {p : Process} {i : Nat} {thread : Thread} {w : World} (sound : p.Sound cfg)
    (table : w.host.asyncCopies = p.world.host.asyncCopies)
    (held : Held cfg p.copies i (some thread)) : (p.goOn i thread w).Sound cfg where
  told shareId := by
    change Told _ (w.host.asyncCopies.get? shareId)
    rw [table]
    exact sound.told shareId
  distinct := sound.distinct
  held j := by
    change Held cfg p.copies j (Function.update p.threads i (some thread) j)
    by_cases same : j = i
    · subst same
      rw [Function.update_self]
      exact held
    · rw [Function.update_of_ne same]
      exact sound.held j

/-- A thread that announces a copy after the earlier copies of its share id have ended. -/
theorem Sound.announced {p : Process} {i : Nat} {fsUid : Uid} {rest : Driver (ShareStatus × _)}
    {job : CopyJob} {w : World} (sound : p.Sound cfg) (fresh : i ∉ p.copies.map Copy.thread)
    (ended : ∀ copy ∈ p.copies, copy.share.id = share.id → copy.state ≠ .running)
    (table : w.host.asyncCopies = p.world.host.asyncCopies.assign share.id
      ⟨.creatingFromSnapshot, some fsUid, some (cfg.shareName share.id)⟩)
    (about : job.share = share)
    (next : rest = (do
      onHost (.startCopy job)
      return (.creatingFromSnapshot, buildExportLocations cfg share (cfg.shareName share.id)
        (some fsUid) share.shareProto))) :
    (p.announced i share fsUid (cfg.shareName share.id) rest w).Sound cfg where
  told shareId := by
    change Told (copiesOf shareId (⟨i, share, fsUid, cfg.shareName share.id, .running⟩ :: p.copies))
      (w.host.asyncCopies.get? shareId)
    rw [table, Dict.get?_assign]
    by_cases same : shareId = share.id
    · subst same
      rw [if_pos rfl, copiesOf_cons, if_pos rfl]
      refine ⟨rfl, fun other kept => ?_⟩
      obtain ⟨member, named⟩ := List.mem_filter.mp kept
      exact ended other member (of_decide_eq_true named)
    · rw [if_neg same, copiesOf_cons, if_neg (Ne.symm same)]
      exact sound.told shareId
  distinct := List.nodup_cons.mpr ⟨fresh, sound.distinct⟩
  held j := by
    change Held cfg (_ :: p.copies) j (Function.update p.threads i (some (.starting share rest)) j)
    by_cases same : j = i
    · subst same
      rw [Function.update_self]
      exact ⟨_, List.mem_cons_self, rfl, rfl, rfl, job, about, next⟩
    · rw [Function.update_of_ne same]
      have unlisted (other : j ∉ p.copies.map Copy.thread) :
          j ∉ List.map Copy.thread (⟨i, share, fsUid, cfg.shareName share.id, .running⟩ :: p.copies) :=
        fun listed => (List.mem_cons.mp listed).elim same other
      have current := sound.held j
      cases thread : p.threads j with
      | none =>
          rw [thread] at current
          exact unlisted current
      | some thread' =>
          rw [thread] at current
          cases thread' with
          | creating share rest => exact ⟨unlisted current.1, current.2⟩
          | starting share rest =>
              obtain ⟨copy, member, facts⟩ := current
              exact ⟨copy, List.mem_cons_of_mem _ member, facts⟩
          | copying job rest =>
              obtain ⟨⟨copy, member, facts⟩, quiet⟩ := current
              exact ⟨⟨copy, List.mem_cons_of_mem _ member, facts⟩, quiet⟩
          | ended => trivial

/-- A thread that is done with its running copy. -/
theorem Sound.finished {p : Process} {copy : Copy} {state : CopyState} {w : World}
    (sound : p.Sound cfg) (member : copy ∈ p.copies) (running : copy.state = .running)
    (changed : p.world.host.asyncCopies.get? copy.share.id = some copy.entry →
      w.host.asyncCopies.get? copy.share.id = some { copy with state }.entry)
    (others : ∀ shareId, shareId ≠ copy.share.id →
      w.host.asyncCopies.get? shareId = p.world.host.asyncCopies.get? shareId) :
    (p.finished copy.thread state w).Sound cfg where
  told := told_markCopy sound.distinct sound.told member running changed others
  distinct := by
    change ((markCopy copy.thread state p.copies).map Copy.thread).Nodup
    rw [threads_markCopy]
    exact sound.distinct
  held j := by
    change Held cfg (markCopy copy.thread state p.copies) j
      (Function.update p.threads copy.thread (some .ended) j)
    by_cases same : j = copy.thread
    · rw [same, Function.update_self]
      trivial
    · rw [Function.update_of_ne same]
      have current := sound.held j
      cases thread : p.threads j with
      | none =>
          rw [thread] at current
          exact fun listed => current (by rwa [threads_markCopy] at listed)
      | some thread' =>
          rw [thread] at current
          cases thread' with
          | creating share rest =>
              exact ⟨fun listed => current.1 (by rwa [threads_markCopy] at listed), current.2⟩
          | starting share rest =>
              obtain ⟨other, among, rfl, facts⟩ := current
              exact ⟨other, mem_markCopy_of_ne among same, rfl, facts⟩
          | copying job rest =>
              obtain ⟨⟨other, among, rfl, facts⟩, quiet⟩ := current
              exact ⟨⟨other, mem_markCopy_of_ne among same, rfl, facts⟩, quiet⟩
          | ended => trivial

end Process

/-- Nothing contends for an entry of the table: a copy is announced only when no earlier copy of
its share id is running, and a share is polled only where its id and its filesystem stand for
the same copies. -/
def Event.Uncontended (cfg : Config) (p : Process) : Event → Prop
  | .move => True
  | .announce share => ∀ copy ∈ p.copies, copy.share.id = share.id → copy.state ≠ .running
  | .poll share _ =>
      ∀ copy ∈ p.copies, copy.share.id = share.id ↔ shareKey cfg copy.share = shareKey cfg share

instance (p : Process) (event : Event) : Decidable (event.Uncontended cfg p) := by
  cases event <;> unfold Event.Uncontended <;> infer_instance

namespace Process

/-- Every step keeps the table in step with the copies. -/
theorem Sound.step {p q : Process} {event : Event} (sound : p.Sound cfg)
    (uncontended : event.Uncontended cfg p) (step : Step cfg fault p event q) : q.Sound cfg := by
  cases step with
  | elsewhere table =>
      refine ⟨fun shareId => ?_, sound.distinct, sound.held⟩
      rw [table]
      exact sound.told shareId
  | @request i share snapshot unused =>
      have unlisted := sound.held i
      rw [unused] at unlisted
      exact sound.goOn rfl ⟨unlisted, announces_createShareFromSnapshot snapshot⟩
  | @create i share op next answer w here quiet answered =>
      have current := sound.held i
      rw [here] at current
      obtain ⟨unlisted, announces⟩ := current
      refine sound.goOn (asyncCopies_of_not_tableOp quiet answered) ⟨unlisted, ?_⟩
      rcases announces with ⟨_, later⟩ | ⟨fsUid, job, _, same⟩
      · exact later answer
      · cases same
        exact absurd trivial quiet
  | @announce i share shareId fsName fsUid next answer w here answered =>
      have current := sound.held i
      rw [here] at current
      obtain ⟨unlisted, ⟨quiet, _⟩ | ⟨fsUid, job, about, same⟩⟩ := current
      · exact absurd trivial quiet
      · cases same
        have writes : TableOp (.host (.asyncCopyPut share.id
          ⟨.creatingFromSnapshot, some fsUid, some (cfg.shareName share.id)⟩)) := trivial
        have written := answered_of_tableOp writes answered
        simp only [respond, Host.answer, Prod.mk.injEq] at written
        obtain ⟨rfl, rfl⟩ := written
        exact sound.announced unlisted uncontended rfl about rfl
  | @start i share job next w here answered =>
      have current := sound.held i
      rw [here] at current
      obtain ⟨copy, member, thread, running, rfl, job', about, same⟩ := current
      cases same
      exact sound.goOn (asyncCopies_of_not_tableOp (not_tableOp_startCopy job) answered)
        ⟨⟨copy, member, thread, running, about.symm⟩, quiet_copySnapshot job⟩
  | @unstarted i share job next error w here answered =>
      have current := sound.held i
      rw [here] at current
      obtain ⟨copy, member, rfl, running, _⟩ := current
      have table := asyncCopies_of_not_tableOp (not_tableOp_startCopy job) answered
      refine sound.finished member running (fun entry => ?_) fun shareId _ => by rw [table]
      rw [table, entry, Copy.entry, running]
      rfl
  | @copy i job op next answer w here answered =>
      have current := sound.held i
      rw [here] at current
      obtain ⟨about, quiet⟩ := current
      exact sound.goOn (asyncCopies_of_not_tableOp quiet.1 answered) ⟨about, quiet.2 answer⟩
  | @finish i job copied w here records =>
      have current := sound.held i
      rw [here] at current
      obtain ⟨⟨copy, member, rfl, running, about⟩, _⟩ := current
      have written := (exec_recordCopy records).2
      rw [← about] at written
      refine sound.finished member running (fun entry => ?_) fun shareId other => ?_
      · rw [written, Dict.get?_assign_self, entry]
        rfl
      · rw [written, Dict.get?_assign_of_ne _ _ other]
  | poll answers =>
      have kept := (exec_getShareStatus answers).2
      exact kept ▸ sound

end Process

end WekaShareDriver
