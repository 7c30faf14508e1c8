import WekaShareDriver.LiveMounts
import WekaShareDriver.Foundation.Locks
import WekaShareDriver.Foundation.Translate

/-! # Mounts under locks

Threads of one process mount and unmount at the same mount points. Each mount point has a lock,
made on first use under the lock of the table of locks (`WekaShareDriver.findMountLock`), and a
mount looks at the kernel's table and mounts under it (`WekaShareDriver.MountJob.program`). The
table of locks only grows, so whoever asks for a mount point's lock gets the same one; what a
thread saw at a mount point under its lock is still so when it mounts there.

Hence no interleaving stacks two WekaFS mounts on a mount point that the kernel lists as it is
written (`WekaShareDriver.mounts_never_stacked`). The driver does not see what is mounted at any
other, and would mount there again.
-/

namespace WekaShareDriver

open Foundation Program

/-- The lock of the table of locks, and the locks it has for mount points. -/
inductive MountLock where
  | table
  | point (id : Nat)
  deriving DecidableEq

/-- What a thread does under locks: it looks a mount point up in the table of locks, adds a lock
for it, or asks something of the world. -/
inductive MountCall where
  | lockOf (mountPoint : String)
  | newLock (mountPoint : String)
  | world (op : Op)

@[reducible] def MountCall.Res : MountCall → Type
  | .lockOf _ => Option Nat
  | .newLock _ => Unit
  | .world op => op.Res

/-- The table of locks of the process, the locks made so far, and the world. -/
structure MountState where
  locks : Dict String Nat
  nextLock : Nat
  world : World

/-- What an operation does, where the kernel resolves paths. -/
inductive MountAnswers (resolve : String → String) (fails : Op → Error → Prop) :
    Service MountCall MountCall.Res Error MountState where
  | lockOf {s : MountState} {mountPoint : String} :
      MountAnswers resolve fails s (.lockOf mountPoint) (.ok (s.locks.get? mountPoint)) s
  | newLock {s : MountState} {mountPoint : String} :
      MountAnswers resolve fails s (.newLock mountPoint) (.ok ())
        { s with locks := s.locks.assign mountPoint s.nextLock, nextLock := s.nextLock + 1 }
  | world {s : MountState} {op : Op} {answer : Except Error op.Res} {t : World} :
      kernelService resolve fails s.world op answer t →
      MountAnswers resolve fails s (.world op) answer { s with world := t }

abbrev MountProgram (α : Type) : Type := Program MountCall MountCall.Res Error α

/-- A program of a thread that takes locks. -/
abbrev MountThread (α : Type) : Type :=
  Program (LockOp MountLock MountCall) (LockOp.Res MountCall.Res) Error α

/-- A driver program as part of a thread. -/
def inWorld {α : Type} (program : Driver α) : MountProgram α :=
  program.translate fun op => perform (MountCall.world op)

/-- Look up a mount point's lock, which is made on first use. -/
def findMountLock (mountPoint : String) : MountProgram Nat := do
  if (← perform (MountCall.lockOf mountPoint)).isNone then
    perform (MountCall.newLock mountPoint)
  match ← perform (MountCall.lockOf mountPoint) with
  | some id => return id
  | none => throw (.value mountPoint)

/-- The lock of a mount point. -/
def getMountLock (mountPoint : String) : MountThread Nat :=
  withLock .table ((findMountLock mountPoint).lockless MountLock)

/-- What a thread of the driver does: make a mount object and mount or unmount by it, or
anything else but mount by itself. -/
inductive MountJob where
  | mount (mnt : WekaMount)
  | unmount (mnt : WekaMount) (force : Bool)
  | other (op : Op)

@[reducible] def MountJob.Res : MountJob → Type
  | .other op => op.Res
  | _ => Unit

/-- Carry a job out: mounts and unmounts run under the mount point's lock. -/
def MountJob.program : (job : MountJob) → MountThread job.Res
  | .mount mnt => do
      let id ← getMountLock mnt.mountPoint
      withLock (.point id) ((inWorld mnt.mount).lockless MountLock)
  | .unmount mnt force => do
      let id ← getMountLock mnt.mountPoint
      withLock (.point id) ((inWorld (mnt.unmount force)).lockless MountLock)
  | .other op => (perform (MountCall.world op)).lockless MountLock

/-- The commands that put a WekaFS mount into the kernel's table. -/
def MountsWekafs : Op → Prop
  | .host (.wekafsMount ..) => True
  | _ => False

/-- A job with a plain mount point and source; nothing else mounts. -/
def MountJob.Plain (resolve : String → String) : MountJob → Prop
  | .mount mnt => PlainPath resolve mnt.mountPoint ∧ PlainPath id mnt.source
  | .unmount _ _ => True
  | .other op => ¬ MountsWekafs op

/-! ## What is mounted at a mount point -/

/-- The WekaFS mounts at a mount point. -/
def mountsAt (mountPoint : String) (w : World) : List Mount :=
  w.host.mounts.filter fun mount => mount.mountPoint = mountPoint ∧ mount.fstype = "wekafs"

/-- A device that the kernel lists as one word. -/
def Worded (device : String) : Prop :=
  mountField device ≠ "" ∧ ∀ char ∈ (mountField device).toList, Text.isSpace char = false

private theorem worded_of_plain {device : String} (plain : PlainPath id device) :
    Worded device := by
  rw [Worded, mountField_of_plain plain.spaceless]
  exact ⟨plain.nonempty, fun char member => (plain.spaceless char member).1⟩

/-- At no plain mount point are two WekaFS mounts stacked. -/
def Unstacked (resolve : String → String) (w : World) : Prop :=
  ∀ mountPoint, PlainPath resolve mountPoint →
    (mountsAt mountPoint w).length ≤ 1 ∧ ∀ mount ∈ mountsAt mountPoint w, Worded mount.device

section Mounts

variable {resolve : String → String} {fails : Op → Error → Prop} {w t : World} {mountPoint : String}

private theorem Unstacked.of_sublist (unstacked : Unstacked resolve w)
    (fewer : ∀ mountPoint, (mountsAt mountPoint t).Sublist (mountsAt mountPoint w)) :
    Unstacked resolve t := by
  intro mountPoint plain
  obtain ⟨one, worded⟩ := unstacked mountPoint plain
  exact ⟨(fewer mountPoint).length_le.trans one,
    fun mount member => worded mount ((fewer mountPoint).subset member)⟩

/-- A table that shows no mount at a plain mount point has none. -/
theorem mountsAt_of_shows (unstacked : Unstacked resolve w) (plain : PlainPath resolve mountPoint)
    (shows : showsMount mountPoint (w.host.mounts.map Mount.line) = false) :
    mountsAt mountPoint w = [] := by
  refine List.eq_nil_iff_forall_not_mem.mpr fun mount member => ?_
  obtain ⟨listed, same⟩ := List.mem_filter.mp member
  obtain ⟨rfl, fstype⟩ := of_decide_eq_true same
  obtain ⟨named, word⟩ := (unstacked mount.mountPoint plain).2 mount member
  rw [showsMount_of_mem listed fstype named word plain.nonempty plain.spaceless] at shows
  cases shows

private theorem sublist_takeTop (path : String) (mounts : List Mount) :
    (takeTop path mounts).Sublist mounts := by
  have fewer : (takeTop path mounts).Sublist mounts.reverse.reverse :=
    List.eraseP_sublist.reverse
  rwa [List.reverse_reverse] at fewer

/-- A step mounts a WekaFS filesystem where it was asked to, or adds no WekaFS mount anywhere. -/
theorem mountsAt_of_answered {op : Op} {answer : Except Error op.Res}
    (answered : kernelService resolve fails w op answer t) :
    (∃ source point options, op = .host (.wekafsMount source point options) ∧
      t.host.mounts = w.host.mounts ++ [⟨source, resolve point, "wekafs"⟩]) ∨
      ∀ mountPoint, (mountsAt mountPoint t).Sublist (mountsAt mountPoint w) := by
  rcases answered with answered | ⟨_, _, _, rfl⟩
  · have unchanged (mounts : t.host.mounts = w.host.mounts) (mountPoint : String) :
        (mountsAt mountPoint t).Sublist (mountsAt mountPoint w) := by
      rw [mountsAt, mounts]
      exact .refl _
    cases op with
    | api session request | login org username password =>
        cases answered
        exact Or.inr (unchanged rfl)
    | host call =>
        cases call with
        | wekafsMount source point options =>
            cases answered
            exact Or.inl ⟨source, point, options, rfl, rfl⟩
        | nfsMount mountExport point =>
            cases answered
            right
            intro mountPoint
            simp [mountsAt, Host.answer]
        | umount point force =>
            right
            intro mountPoint
            simp only [respondAt] at answered
            split at answered
            · cases answered
              exact (sublist_takeTop _ _).filter _
            · cases answered
              exact .refl _
        | shareTypeExtraSpecs typeId | rmdir path =>
            simp only [respondAt, respond, Host.answer] at answered
            split at answered
            · cases answered
              exact Or.inr (unchanged rfl)
            · cases answered
              exact Or.inr (unchanged rfl)
        | _ =>
            cases answered
            exact Or.inr (unchanged rfl)
  · exact Or.inr fun _ => .refl _

end Mounts

/-! ## What the locks guard -/

/-- Mount points keep their locks. -/
def LocksKept (s t : MountState) : Prop :=
  ∀ mountPoint id, s.locks.get? mountPoint = some id → t.locks.get? mountPoint = some id

/-- No WekaFS mount is added at the mount points of a lock. -/
def NoneAdded (id : Nat) (s t : MountState) : Prop :=
  LocksKept s t ∧ ∀ mountPoint, s.locks.get? mountPoint = some id →
    (mountsAt mountPoint t.world).Sublist (mountsAt mountPoint s.world)

/-- The table's lock guards the table of locks, and a mount point's lock what is mounted there. -/
def mountDiscipline (resolve : String → String) : Discipline MountLock MountState where
  same
    | .table, s, t => t.locks = s.locks
    | .point id, s, t => NoneAdded id s t
  invariant _ _ := True
  evolves :=
    { may := fun s t => LocksKept s t ∧ (Unstacked resolve s.world → Unstacked resolve t.world)
      refl := fun _ => ⟨fun _ _ => id, id⟩
      trans := fun _ _ _ first second =>
        ⟨fun point id found => second.1 point id (first.1 point id found), second.2 ∘ first.2⟩ }
  same_refl lock _ := by
    cases lock with
    | table => rfl
    | point id => exact ⟨fun _ _ found => found, fun _ _ => .refl _⟩
  same_trans lock _ _ _ first second := by
    cases lock with
    | table => exact second.trans first
    | point id =>
        exact ⟨fun point id found => second.1 point id (first.1 point id found),
          fun point found => (second.2 point (first.1 point id found)).trans (first.2 point found)⟩
  kept _ _ _ _ _ := trivial

section Locked

variable {resolve : String → String} {fails : Op → Error → Prop} {s : MountState}
  {mountPoint : String}

/-- Under the table's lock a mount point's lock is found or made, once. -/
theorem amid_findMountLock (unstacked : Unstacked resolve s.world) :
    (findMountLock mountPoint).amid (MountAnswers resolve fails)
      ((mountDiscipline resolve).inside (· = .table)) ((mountDiscipline resolve).touches (· = .table))
      (ending (fun id t => True ∧ t.locks.get? mountPoint = some id ∧ Unstacked resolve t.world)
        fun _ t => True ∧ Unstacked resolve t.world) s := by
  have looks {post : Except Error (Option Nat) → MountState → Prop} {t : MountState}
      (then' : ∀ u, u.locks = t.locks → (Unstacked resolve t.world → Unstacked resolve u.world) →
        post (.ok (t.locks.get? mountPoint)) u) :
      (perform (MountCall.lockOf mountPoint) : MountProgram (Option Nat)).amid
        (MountAnswers resolve fails) ((mountDiscipline resolve).inside (· = .table))
        ((mountDiscipline resolve).touches (· = .table)) post t := by
    rw [amid_perform]
    intro u answer v moved answered
    have same : u.locks = t.locks := moved.1 .table rfl
    cases answered
    refine ⟨Discipline.touches_refl _ _ _ _, ?_⟩
    rw [same]
    exact then' u same moved.2.2
  have returns {rest : Option Nat → MountProgram Nat} {t : MountState} {id : Nat}
      (known : rest (some id) = pure id) (found : t.locks.get? mountPoint = some id)
      (unstacked : Unstacked resolve t.world) :
      (perform (MountCall.lockOf mountPoint) >>= rest).amid (MountAnswers resolve fails)
        ((mountDiscipline resolve).inside (· = .table))
        ((mountDiscipline resolve).touches (· = .table))
        (ending (fun id t => True ∧ t.locks.get? mountPoint = some id ∧ Unstacked resolve t.world)
          fun _ t => True ∧ Unstacked resolve t.world) t := by
    rw [amid_bind]
    refine looks fun u locked kept => ?_
    rw [found, onOk_ok, known]
    refine ⟨trivial, ?_, kept unstacked⟩
    rw [locked, found]
  rw [findMountLock, amid_bind]
  refine looks fun t locked kept => ?_
  rw [onOk_ok]
  cases found : s.locks.get? mountPoint with
  | some id => exact returns rfl (by rw [locked, found]) (kept unstacked)
  | none =>
      rw [Option.isNone_none, if_pos rfl, amid_bind, amid_perform]
      intro u answer v moved answered
      have absent : u.locks.get? mountPoint = none := by
        rw [moved.1 .table rfl, locked, found]
      have kept' := moved.2.2 (kept unstacked)
      cases answered
      -- the lock made is the mount point's first
      have grows : LocksKept u
          { u with locks := u.locks.assign mountPoint u.nextLock, nextLock := u.nextLock + 1 } := by
        intro other id held
        have different : other ≠ mountPoint := by
          rintro rfl
          rw [absent] at held
          cases held
        exact (Dict.get?_assign_of_ne _ _ different).trans held
      refine ⟨⟨fun lock other => ?_, grows, id⟩, returns rfl (Dict.get?_assign_self _ _ _) kept'⟩
      cases lock with
      | table => exact absurd rfl other
      | point id => exact ⟨grows, fun _ _ => .refl _⟩

/-- What a thread knows of a mount point whose lock it has. -/
structure KnownPoint (resolve : String → String) (mountPoint : String) (id : Nat) (s : MountState) :
    Prop where
  lock : s.locks.get? mountPoint = some id
  unstacked : Unstacked resolve s.world

/-- While a thread holds a mount point's lock, the others only unmount there. -/
theorem KnownPoint.moved {id : Nat} {t : MountState} (known : KnownPoint resolve mountPoint id s)
    (moved : ((mountDiscipline resolve).inside (· = .point id)).may s t) :
    KnownPoint resolve mountPoint id t ∧
      (mountsAt mountPoint t.world).Sublist (mountsAt mountPoint s.world) :=
  ⟨⟨moved.2.1 _ _ known.lock, moved.2.2 known.unstacked⟩,
    (moved.1 (.point id) rfl).2 _ known.lock⟩

/-- Whatever does not mount adds no mount. -/
theorem fewer_of_not_mounts {op : Op} {answer : Except Error op.Res} {w t : World}
    (other : ¬ MountsWekafs op) (answered : kernelService resolve fails w op answer t)
    (mountPoint : String) : (mountsAt mountPoint t).Sublist (mountsAt mountPoint w) := by
  rcases mountsAt_of_answered answered with ⟨source, point, options, rfl, _⟩ | fewer
  · exact absurd trivial other
  · exact fewer mountPoint

/-- Whatever does not mount touches nothing that a lock guards. -/
theorem touches_of_not_mounts (held : MountLock → Prop) (called : MountCall) {op : Op}
    {answer : Except Error op.Res} {w : World} (other : ¬ MountsWekafs op)
    (answered : kernelService resolve fails s.world op answer w) :
    (mountDiscipline resolve).touches held s called { s with world := w } := by
  have fewer := fewer_of_not_mounts other answered
  refine ⟨fun lock _ => ?_, fun _ _ => id, fun unstacked => unstacked.of_sublist fewer⟩
  cases lock with
  | table => rfl
  | point lock => exact ⟨fun _ _ => id, fun _ _ => fewer _⟩

section Point

variable {lock : Nat} {held : MountLock → Prop}

/-- An operation that does not mount, made under a mount point's lock. -/
theorem amid_other {op : Op} (other : ¬ MountsWekafs op) {known : MountState → Prop}
    {post : Except Error op.Res → MountState → Prop} (holds : known s)
    (lasting : ∀ s t, known s → ((mountDiscipline resolve).inside held).may s t → known t)
    (then' : ∀ t answer w, known t → kernelService resolve fails t.world op answer w →
      post answer { t with world := w }) :
    (perform (MountCall.world op) : MountProgram op.Res).amid (MountAnswers resolve fails)
      ((mountDiscipline resolve).inside held) ((mountDiscipline resolve).touches held) post s := by
  rw [amid_perform]
  intro t answer u moved answered
  cases answered with
  | world happened =>
      exact ⟨touches_of_not_mounts _ _ other happened,
        then' t answer _ (lasting s t holds moved) happened⟩

/-- Under its lock, a plain mount point that does not look mounted has no WekaFS mount. -/
theorem amid_isMounted (readable : ¬ fails (.host .readProcMounts) .os)
    (plain : PlainPath resolve mountPoint) (known : KnownPoint resolve mountPoint lock s) :
    (inWorld (isMounted mountPoint)).amid (MountAnswers resolve fails)
      ((mountDiscipline resolve).inside (· = .point lock))
      ((mountDiscipline resolve).touches (· = .point lock))
      (ending (fun shown t => KnownPoint resolve mountPoint lock t ∧
          (shown = false → mountsAt mountPoint t.world = []))
        fun _ t => Unstacked resolve t.world) s := by
  have reads : ¬ MountsWekafs (.host .readProcMounts) := not_false
  rw [isMounted_eq, inWorld, translate_tryCatch]
  refine amid_tryCatch_of (fun error t => error ≠ .os ∧ Unstacked resolve t.world) ?_
    fun error t caught => ?_
  · rw [translate_bind, onHost, translate_perform, amid_bind, onOk_ending]
    refine amid_other reads known (fun _ _ known moved => (known.moved moved).1)
      fun t answer w known answered => ?_
    rcases answered with answered | ⟨error, failed, rfl, rfl⟩
    · cases answered
      exact ⟨known, fun hidden => mountsAt_of_shows known.unstacked plain hidden⟩
    · refine ⟨?_, known.unstacked⟩
      rintro rfl
      exact readable failed
  · cases error with
    | os => exact absurd rfl caught.1
    | _ => exact caught.2

private theorem mountsAt_mounted {w t : World} {source : String}
    (plain : PlainPath resolve mountPoint)
    (mounted : t.host.mounts = w.host.mounts ++ [⟨source, resolve mountPoint, "wekafs"⟩])
    (other : String) : mountsAt other t =
      mountsAt other w ++ if mountPoint = other then [⟨source, mountPoint, "wekafs"⟩] else [] := by
  rw [mountsAt, mounted, plain.canonical, List.filter_append]
  congr 1
  by_cases same : mountPoint = other <;> simp [same]

/-- A mount made where nothing is mounted is the only one there. -/
theorem unstacked_of_mounts {w t : World} {source : String} (plain : PlainPath resolve mountPoint)
    (word : PlainPath id source) (unstacked : Unstacked resolve w)
    (bare : mountsAt mountPoint w = [])
    (mounted : t.host.mounts = w.host.mounts ++ [⟨source, resolve mountPoint, "wekafs"⟩]) :
    Unstacked resolve t ∧ ∀ other, other ≠ mountPoint → mountsAt other t = mountsAt other w := by
  refine ⟨fun other canonical => ?_, fun other different => ?_⟩
  · rw [mountsAt_mounted plain mounted other]
    by_cases same : mountPoint = other
    · subst same
      rw [bare, if_pos rfl, List.nil_append]
      refine ⟨Nat.le_refl 1, fun mount member => ?_⟩
      rw [List.mem_singleton.mp member]
      exact worded_of_plain word
    · rw [if_neg same, List.append_nil]
      exact unstacked other canonical
  · rw [mountsAt_mounted plain mounted other, if_neg different.symm, List.append_nil]

/-- A mount under its lock. -/
theorem amid_mount {mnt : WekaMount} (readable : ¬ fails (.host .readProcMounts) .os)
    (plain : PlainPath resolve mnt.mountPoint) (word : PlainPath id mnt.source)
    (known : KnownPoint resolve mnt.mountPoint lock s) :
    (inWorld mnt.mount).amid (MountAnswers resolve fails)
      ((mountDiscipline resolve).inside (· = .point lock))
      ((mountDiscipline resolve).touches (· = .point lock))
      (ending (fun _ t => Unstacked resolve t.world) fun _ t => Unstacked resolve t.world) s := by
  have bare_lasts : ∀ s t, KnownPoint resolve mnt.mountPoint lock s ∧
      mountsAt mnt.mountPoint s.world = [] →
      ((mountDiscipline resolve).inside (· = .point lock)).may s t →
      KnownPoint resolve mnt.mountPoint lock t ∧ mountsAt mnt.mountPoint t.world = [] := by
    rintro s t ⟨known, bare⟩ moved
    obtain ⟨known', fewer⟩ := known.moved moved
    rw [bare] at fewer
    exact ⟨known', List.sublist_nil.mp fewer⟩
  have ensures : ¬ MountsWekafs (.host (.ensureMountPointDir mnt.mountPoint)) := not_false
  rw [WekaMount.mount, inWorld, translate_bind]
  refine amid_bind_of _ (amid_isMounted readable plain known) fun shown t looked => ?_
  cases shown with
  | true => exact looked.1.unstacked
  | false =>
      simp only [Bool.false_eq_true, ↓reduceIte]
      rw [translate_bind, translate_tryCatch, onHost, translate_perform, translate_tryCatch, onHost,
        translate_perform]
      refine amid_bind_of (fun _ t => KnownPoint resolve mnt.mountPoint lock t ∧
        mountsAt mnt.mountPoint t.world = []) ?_ fun _ u bare => ?_
      · refine amid_tryCatch_of (fun _ t => Unstacked resolve t.world) ?_ fun error u kept => ?_
        · refine amid_other ensures ⟨looked.1, looked.2 rfl⟩ bare_lasts
            fun u answer w bare answered => ?_
          rcases answered with answered | ⟨error, _, rfl, rfl⟩
          · cases answered
            exact bare
          · exact bare.1.unstacked
        · cases error <;> exact kept
      · refine amid_tryCatch_of (fun _ t => Unstacked resolve t.world) ?_ fun error u kept => ?_
        · rw [amid_perform]
          intro v answer x moved answered
          obtain ⟨known', bare'⟩ := bare_lasts _ _ bare moved
          cases answered with
          | world happened =>
              rcases happened with happened | ⟨error, _, rfl, rfl⟩
              · have mounted := congrArg (fun reply => reply.2.host.mounts) happened
                obtain ⟨unstacked, others⟩ :=
                  unstacked_of_mounts plain word known'.unstacked bare' mounted.symm
                cases happened
                refine ⟨⟨fun other different => ?_, fun _ _ found => found, fun _ => unstacked⟩,
                  unstacked⟩
                cases other with
                | table => rfl
                | point other =>
                    refine ⟨fun _ _ found => found, fun point found => ?_⟩
                    have apart : point ≠ mnt.mountPoint := by
                      rintro rfl
                      rw [known'.lock] at found
                      exact different (congrArg MountLock.point (Option.some.inj found).symm)
                    rw [others point apart]
              · exact ⟨Discipline.touches_refl _ _ _ _, known'.unstacked⟩
        · cases error <;> exact kept

/-- What does not mount stacks nothing, whatever locks its thread has. -/
theorem amid_not_mounting {α : Type} {program : Driver α}
    (uses : program.Uses fun op => ¬ MountsWekafs op) (unstacked : Unstacked resolve s.world) :
    (inWorld program).amid (MountAnswers resolve fails) ((mountDiscipline resolve).inside held)
      ((mountDiscipline resolve).touches held) (fun _ t => Unstacked resolve t.world) s := by
  refine amid_translate uses (fun op other s unstacked => ?_) unstacked
  exact amid_other other unstacked (fun _ _ unstacked moved => moved.2.2 unstacked)
    fun t answer w unstacked answered => unstacked.of_sublist (fewer_of_not_mounts other answered)

private theorem unmount_not_mounting (mnt : WekaMount) (force : Bool) :
    (mnt.unmount force).Uses fun op => ¬ MountsWekafs op := by
  refine .bind (.tryCatch (.bind (uses_perform not_false) fun _ => trivial) fun error => ?_)
    fun shown => .ite (fun _ => .tryCatch (uses_perform not_false) fun error => ?_) fun _ => trivial
  · cases error <;> trivial
  · cases error <;> trivial

end Point

end Locked

/-! ## Threads -/

section Threads

variable {resolve : String → String} {fails : Op → Error → Prop} {ι : Type}

/-- A job leaves its thread without locks and no mounts stacked. -/
theorem amid_job (readable : ¬ fails (.host .readProcMounts) .os) {thread : ι} {job : MountJob}
    (plain : job.Plain resolve) {s : Locked MountLock ι MountState}
    (idle : (mountDiscipline resolve).Idle thread (fun t => Unstacked resolve t.world) s) :
    job.program.amid (LockAnswers (MountAnswers resolve fails) thread)
      ((mountDiscipline resolve).rely thread) ((mountDiscipline resolve).respecting thread)
      (fun _ => (mountDiscipline resolve).Idle thread fun t => Unstacked resolve t.world) s := by
  have lasting : ∀ u v : MountState, Unstacked resolve u.world →
      (mountDiscipline resolve).evolves.may u v → Unstacked resolve v.world :=
    fun u v unstacked moved => moved.2 unstacked
  have under {mountPoint : String} {program : MountProgram Unit}
      (stands : ∀ lock u, KnownPoint resolve mountPoint lock u →
        program.amid (MountAnswers resolve fails)
          ((mountDiscipline resolve).inside (· = .point lock))
          ((mountDiscipline resolve).touches (· = .point lock))
          (ending (fun _ t => Unstacked resolve t.world) fun _ t => Unstacked resolve t.world) u) :
      (getMountLock mountPoint >>= fun id => withLock (.point id) (program.lockless MountLock)).amid
        (LockAnswers (MountAnswers resolve fails) thread)
        ((mountDiscipline resolve).rely thread) ((mountDiscipline resolve).respecting thread)
        (ending (fun _ => (mountDiscipline resolve).Idle thread fun t => Unstacked resolve t.world)
          fun _ => (mountDiscipline resolve).Idle thread fun t => Unstacked resolve t.world) s := by
    refine amid_bind_of _ (amid_withLock lasting
      (fun id u v known moved => ⟨moved.1 _ _ known.1, moved.2 known.2⟩) (fun _ => lasting)
      (fun u unstacked _ => amid_findMountLock unstacked) idle) fun id t found => ?_
    refine amid_withLock (fun u v known moved => ⟨moved.1 _ _ known.1, moved.2 known.2⟩)
      (fun _ => lasting) (fun _ => lasting) (fun u known _ => ?_) found
    exact amid_weaken (stands id u ⟨known.1, known.2⟩) (fun _ _ unstacked => ⟨trivial, unstacked⟩)
      fun _ _ unstacked => ⟨trivial, unstacked⟩
  cases job with
  | mount mnt =>
      refine amid_consequence (under fun lock u known => amid_mount readable plain.1 plain.2 known)
        fun outcome t ended => ?_
      cases outcome <;> exact ended
  | unmount mnt force =>
      refine amid_consequence (under fun lock u known => amid_consequence
        (amid_not_mounting (unmount_not_mounting mnt force) known.unstacked) fun outcome t ended => ?_)
        fun outcome t ended => ?_
      · cases outcome <;> exact ended
      · cases outcome <;> exact ended
  | other op =>
      have stands : (perform (MountCall.world op) : MountProgram op.Res).amid
          (MountAnswers resolve fails) ((mountDiscipline resolve).inside fun _ => False)
          ((mountDiscipline resolve).touches fun _ => False)
          (fun _ u => Unstacked resolve u.world) s.shared :=
        amid_other plain idle.known (fun _ _ unstacked moved => moved.2.2 unstacked)
          fun t answer w unstacked answered =>
            unstacked.of_sublist (fewer_of_not_mounts plain answered)
      exact amid_free stands idle

/-- The threads of the driver, each with its own jobs to do. -/
def mountThreads (jobs : ι → Program MountJob MountJob.Res Error Unit) (start : MountState) :
    Pool (LockOp MountLock MountCall) (LockOp.Res MountCall.Res) Error
      (Locked MountLock ι MountState) (fun _ : ι => Unit) :=
  ⟨fun i => (jobs i).translate MountJob.program, .unowned start⟩

variable [DecidableEq ι] {jobs : ι → Program MountJob MountJob.Res Error Unit} {start : MountState}
  {pool : Pool (LockOp MountLock MountCall) (LockOp.Res MountCall.Res) Error
    (Locked MountLock ι MountState) (fun _ : ι => Unit)}

private theorem unstacked_of_interleaves (readable : ¬ fails (.host .readProcMounts) .os)
    (plain : ∀ i, (jobs i).Uses (MountJob.Plain resolve))
    (unstacked : Unstacked resolve start.world)
    (reached : Interleaves (LockAnswers (MountAnswers resolve fails)) (mountThreads jobs start)
      pool) :
    Unstacked resolve pool.state.shared.world := by
  have lasting : ∀ u v : MountState, Unstacked resolve u.world →
      (mountDiscipline resolve).evolves.may u v → Unstacked resolve v.world :=
    fun u v unstacked moved => moved.2 unstacked
  have holds (i : ι) : ((mountThreads jobs start).threads i).amid
      (LockAnswers (MountAnswers resolve fails) i) ((mountDiscipline resolve).rely i)
      ((mountDiscipline resolve).respecting i)
      (fun _ => (mountDiscipline resolve).Idle i fun t => Unstacked resolve t.world)
      (mountThreads jobs start).state := by
    exact amid_translate (plain i) (fun job plain s idle => amid_job readable plain idle)
      (Discipline.idle_unowned (fun _ => trivial) unstacked)
  exact Discipline.safe_of_interleaves reached holds (fun _ _ => lasting) unstacked lasting

/-- Threads that mount WekaFS only by jobs with plain mount points and sources never stack two such
mounts on a plain mount point, and mount there only while nothing is mounted, whatever fails but
reading the kernel's table, if none are stacked at first. -/
theorem mounts_never_stacked (readable : ¬ fails (.host .readProcMounts) .os)
    (plain : ∀ i, (jobs i).Uses (MountJob.Plain resolve))
    (unstacked : Unstacked resolve start.world)
    (reached : Interleaves (LockAnswers (MountAnswers resolve fails)) (mountThreads jobs start)
      pool) {mountPoint : String} (canonical : PlainPath resolve mountPoint) :
    (mountsAt mountPoint pool.state.shared.world).length ≤ 1 ∧
      ∀ i source options next, pool.threads i =
          .call (.call (.world (.host (.wekafsMount source mountPoint options)))) next →
        mountsAt mountPoint pool.state.shared.world = [] := by
  refine ⟨(unstacked_of_interleaves readable plain unstacked reached mountPoint canonical).1,
    fun i source options next ready => ?_⟩
  -- the mount that would come next leaves the table unstacked
  have mounted := unstacked_of_interleaves readable plain unstacked
    (reached.step ready (.call (.world (.inl rfl)))) mountPoint canonical
  have one := mounted.1
  have added : _ = pool.state.shared.world.host.mounts ++ [⟨source, resolve mountPoint, "wekafs"⟩] :=
    rfl
  rw [mountsAt_mounted canonical added mountPoint, if_pos rfl, List.length_append] at one
  exact List.length_eq_zero_iff.mp (Nat.le_zero.mp (Nat.le_of_succ_le_succ one))

end Threads

section Sample

/-- The same filesystem for every thread, at the same mount point. -/
def sampleMount : WekaMount := ⟨none, "data", "/mnt/weka/data", none, 1, none⟩

/-- A host with nothing mounted and no locks made. -/
def bareMounts : MountState := ⟨[], 0, ⟨Cluster.empty, Host.empty⟩⟩

/-- A thread that mounts, and one that mounts and unmounts. -/
def sampleJobs (unmounts : Bool) : Program MountJob MountJob.Res Error Unit := do
  perform (MountJob.mount sampleMount)
  if unmounts then
    perform (MountJob.unmount sampleMount true)

private theorem plain_sample :
    PlainPath id sampleMount.mountPoint ∧ PlainPath id sampleMount.source := by
  refine ⟨⟨rfl, by decide, ?_⟩, ⟨rfl, by decide, ?_⟩⟩
  · exact List.all_iff_forall_prop.mp (by decide)
  · exact List.all_iff_forall_prop.mp (by decide)

private theorem sampleJobs_plain (unmounts : Bool) : (sampleJobs unmounts).Uses
    (MountJob.Plain id) :=
  .bind (uses_perform plain_sample) fun _ => .ite (fun _ => uses_perform trivial) fun _ => trivial

/-- While one thread has mounted, the other waits for the mount point's lock and then finds it
mounted. -/
theorem mounts_never_stacked_sample :
    ∃ pool, Interleaves (LockAnswers (MountAnswers id fun _ _ => False))
        (mountThreads sampleJobs bareMounts) pool ∧
      mountsAt "/mnt/weka/data" pool.state.shared.world =
        [⟨"data", "/mnt/weka/data", "wekafs"⟩] ∧
      (mountsAt "/mnt/weka/data" pool.state.shared.world).length ≤ 1 := by
  have unstacked : Unstacked id bareMounts.world :=
    fun _ _ => ⟨Nat.zero_le 1, fun _ member => absurd member List.not_mem_nil⟩
  have run : Interleaves (LockAnswers (MountAnswers id fun _ _ => False))
    (mountThreads sampleJobs bareMounts) _ := .start
  have run := run.step (i := true) rfl (.acquire rfl)
  have run := run.step (i := true) rfl (.call .lockOf)
  have run := run.step (i := true) rfl (.call .newLock)
  have run := run.step (i := true) rfl (.call .lockOf)
  have run := run.step (i := true) rfl .release
  have run := run.step (i := false) rfl (.acquire rfl)
  have run := run.step (i := false) rfl (.call .lockOf)
  have run := run.step (i := false) rfl (.call .lockOf)
  have run := run.step (i := true) rfl (.acquire rfl)
  have run := run.step (i := false) rfl .release
  have run := run.step (i := true) rfl (.call (.world (.inl rfl)))
  have run := run.step (i := true) rfl (.call (.world (.inl rfl)))
  have run := run.step (i := true) rfl (.call (.world (.inl rfl)))
  exact ⟨_, run, by decide,
    (mounts_never_stacked not_false sampleJobs_plain unstacked run plain_sample.1).1⟩

end Sample

end WekaShareDriver
