import WekaShareDriver.Foundation.Interference

/-! # Locks

A thread acquires a lock when no thread owns it and runs a section of its program under it
(`Foundation.Program.withLock`), releasing it however the section ends. Each lock guards a
resource: a part of the state that only the lock's owner changes and that satisfies an invariant
whenever the lock is free (`Foundation.Discipline`). A section may then be reasoned about as if
nobody else touched its resource (`Foundation.Program.amid_withLock`), and threads made of such
sections restore every invariant in any interleaving (`Foundation.Discipline.free_of_interleaves`).
-/

namespace Foundation

/-- An operation of a thread among locks. -/
inductive LockOp (Lock Op : Type) : Type where
  | acquire (lock : Lock)
  | release (lock : Lock)
  | call (op : Op)

@[reducible] def LockOp.Res {Lock Op : Type} (Res : Op → Type) : LockOp Lock Op → Type
  | .call op => Res op
  | _ => Unit

/-- A state with the owners of the locks. -/
structure Locked (Lock ι σ : Type) where
  owner : Lock → Option ι
  shared : σ

/-- A state in which every lock is free. -/
def Locked.unowned {Lock ι σ : Type} (shared : σ) : Locked Lock ι σ := ⟨fun _ => none, shared⟩

variable {Lock ι Op : Type} {Res : Op → Type} {ε α σ : Type}

section Answers

variable [DecidableEq Lock]

/-- The state where a lock has another owner, or none. -/
def Locked.give (s : Locked Lock ι σ) (lock : Lock) (owner : Option ι) : Locked Lock ι σ :=
  ⟨Function.update s.owner lock owner, s.shared⟩

@[simp] theorem Locked.give_shared (s : Locked Lock ι σ) (lock : Lock) (owner : Option ι) :
    (s.give lock owner).shared = s.shared := rfl

@[simp] theorem Locked.give_self (s : Locked Lock ι σ) (lock : Lock) (owner : Option ι) :
    (s.give lock owner).owner lock = owner := Function.update_self ..

/-- Giving a lock away leaves the owners of the others. -/
theorem Locked.give_of_ne (s : Locked Lock ι σ) {lock other : Lock} (different : other ≠ lock)
    (owner : Option ι) : (s.give lock owner).owner other = s.owner other :=
  Function.update_of_ne different ..

/-- What a thread's operation does. A lock that is taken is not answered for: its thread waits. -/
inductive LockAnswers (service : Service Op Res ε σ) (thread : ι) :
    Service (LockOp Lock Op) (LockOp.Res Res) ε (Locked Lock ι σ) where
  | acquire {s : Locked Lock ι σ} {lock : Lock} : s.owner lock = none →
      LockAnswers service thread s (.acquire lock) (.ok ()) (s.give lock (some thread))
  | release {s : Locked Lock ι σ} {lock : Lock} :
      LockAnswers service thread s (.release lock) (.ok ()) (s.give lock none)
  | call {s : Locked Lock ι σ} {op : Op} {answer : Except ε (Res op)} {t : σ} :
      service s.shared op answer t →
      LockAnswers service thread s (.call op) answer ⟨s.owner, t⟩

end Answers

namespace Program

/-- A program that takes no lock, among threads that do. -/
def lockless (Lock : Type) : Program Op Res ε α → Program (LockOp Lock Op) (LockOp.Res Res) ε α
  | .ret value => .ret value
  | .fail error => .fail error
  | .call op next => .call (.call op) fun answer => (next answer).lockless Lock

/-- Take a lock. -/
def acquire (lock : Lock) : Program (LockOp Lock Op) (LockOp.Res Res) ε Unit :=
  perform (LockOp.acquire lock)

/-- Give a lock back. -/
def release (lock : Lock) : Program (LockOp Lock Op) (LockOp.Res Res) ε Unit :=
  perform (LockOp.release lock)

/-- Run a section under a lock, which is released however the section ends. -/
def withLock (lock : Lock) (body : Program (LockOp Lock Op) (LockOp.Res Res) ε α) :
    Program (LockOp Lock Op) (LockOp.Res Res) ε α := do
  acquire lock
  let value ← tryCatch body fun error => do
    release lock
    throw error
  release lock
  return value

/-- The program without its locks. -/
def unlocked : Program (LockOp Lock Op) (LockOp.Res Res) ε α → Program Op Res ε α
  | .ret value => .ret value
  | .fail error => .fail error
  | .call (.acquire _) next => (next (.ok ())).unlocked
  | .call (.release _) next => (next (.ok ())).unlocked
  | .call (.call op) next => .call op fun answer => (next answer).unlocked

section Unlocked

variable {β : Type}

@[simp] theorem unlocked_pure (value : α) :
    (pure value : Program (LockOp Lock Op) (LockOp.Res Res) ε α).unlocked = pure value := rfl

@[simp] theorem unlocked_throw (error : ε) :
    (throw error : Program (LockOp Lock Op) (LockOp.Res Res) ε α).unlocked = throw error := rfl

@[simp] theorem unlocked_bind (program : Program (LockOp Lock Op) (LockOp.Res Res) ε α)
    (rest : α → Program (LockOp Lock Op) (LockOp.Res Res) ε β) :
    (program >>= rest).unlocked = program.unlocked >>= fun value => (rest value).unlocked := by
  change (program.bind rest).unlocked = program.unlocked.bind _
  induction program with
  | ret value => rfl
  | fail error => rfl
  | call op next ih =>
      cases op with
      | acquire lock => exact ih (.ok ())
      | release lock => exact ih (.ok ())
      | call op => exact congrArg (Program.call op) (funext ih)

@[simp] theorem unlocked_tryCatch (program : Program (LockOp Lock Op) (LockOp.Res Res) ε α)
    (handler : ε → Program (LockOp Lock Op) (LockOp.Res Res) ε α) :
    (tryCatch program handler).unlocked =
      tryCatch program.unlocked fun error => (handler error).unlocked := by
  change (program.handle handler).unlocked = program.unlocked.handle _
  induction program with
  | ret value => rfl
  | fail error => rfl
  | call op next ih =>
      cases op with
      | acquire lock => exact ih (.ok ())
      | release lock => exact ih (.ok ())
      | call op => exact congrArg (Program.call op) (funext ih)

@[simp] theorem unlocked_lockless (program : Program Op Res ε α) :
    (program.lockless Lock).unlocked = program := by
  induction program with
  | ret value => rfl
  | fail error => rfl
  | call op next ih => exact congrArg (Program.call op) (funext ih)

/-- Locks change nothing for a program that runs alone. -/
@[simp] theorem unlocked_withLock (lock : Lock)
    (body : Program (LockOp Lock Op) (LockOp.Res Res) ε α) :
    (withLock lock body).unlocked = body.unlocked := by
  have ends (program : Program Op Res ε α) :
      ((tryCatch program fun error => throw error) >>= fun value => pure value) = program := by
    change (program.handle fun error => .fail error).bind .ret = program
    induction program with
    | ret value => rfl
    | fail error => rfl
    | call op next ih => exact congrArg (Program.call op) (funext ih)
  change unlocked ((tryCatch body fun error => release lock >>= fun _ => throw error) >>=
    fun value => release lock >>= fun _ => pure value) = _
  refine (unlocked_bind _ _).trans ?_
  rw [unlocked_tryCatch]
  exact ends _

end Unlocked

end Program

/-! ## What locks guard -/

/-- What each lock guards: when its resource is as it was, what holds of it while the lock is
free, and what any thread may do at any time. -/
structure Discipline (Lock σ : Type) where
  same : Lock → σ → σ → Prop
  invariant : Lock → σ → Prop
  evolves : Rely σ
  same_refl : ∀ lock s, same lock s s
  same_trans : ∀ lock s t u, same lock s t → same lock t u → same lock s u
  kept : ∀ lock s t, invariant lock s → same lock s t → invariant lock t

namespace Discipline

variable (discipline : Discipline Lock σ)

/-- Every free lock's resource satisfies its invariant. -/
def Free (s : Locked Lock ι σ) : Prop :=
  ∀ lock, s.owner lock = none → discipline.invariant lock s.shared

/-- What the others do between two operations of a thread: they leave its locks and their
resources alone. -/
structure Moves (thread : ι) (s t : Locked Lock ι σ) : Prop where
  held : ∀ lock, s.owner lock = some thread ↔ t.owner lock = some thread
  same : ∀ lock, s.owner lock = some thread → discipline.same lock s.shared t.shared
  free : discipline.Free s → discipline.Free t
  evolves : discipline.evolves.may s.shared t.shared

def rely (thread : ι) : Rely (Locked Lock ι σ) where
  may := discipline.Moves thread
  refl _ := ⟨fun _ => Iff.rfl, fun lock _ => discipline.same_refl lock _, id,
    discipline.evolves.refl _⟩
  trans _ _ _ first second :=
    { held := fun lock => (first.held lock).trans (second.held lock)
      same := fun lock own => discipline.same_trans lock _ _ _ (first.same lock own)
        (second.same lock ((first.held lock).mp own))
      free := fun holds => second.free (first.free holds)
      evolves := discipline.evolves.trans _ _ _ first.evolves second.evolves }

/-- What an operation of a thread does to the others: nothing to their locks, and nothing to the
resource of a lock the thread does not own. -/
structure Respects (thread : ι) (s t : Locked Lock ι σ) : Prop where
  others : ∀ lock other, other ≠ thread → (s.owner lock = some other ↔ t.owner lock = some other)
  same : ∀ lock, s.owner lock ≠ some thread → discipline.same lock s.shared t.shared
  free : discipline.Free s → discipline.Free t
  evolves : discipline.evolves.may s.shared t.shared

variable {discipline} in
/-- What one thread does under the discipline is what the others may expect of it. -/
theorem Respects.moves {thread other : ι} {s t : Locked Lock ι σ} (different : other ≠ thread)
    (respects : discipline.Respects thread s t) : discipline.Moves other s t where
  held lock := respects.others lock other different
  same lock own := respects.same lock fun mine => different (Option.some.inj (own.symm.trans mine))
  free := respects.free
  evolves := respects.evolves

/-- A thread owns certain locks and no others, and knows something of the state. -/
structure Holding (thread : ι) (held : Lock → Prop) (known : σ → Prop) (s : Locked Lock ι σ) :
    Prop where
  owns : ∀ lock, s.owner lock = some thread ↔ held lock
  free : discipline.Free s
  known : known s.shared

/-- A thread owns no lock. -/
abbrev Idle (thread : ι) (known : σ → Prop) (s : Locked Lock ι σ) : Prop :=
  discipline.Holding thread (fun _ => False) known s

/-- What the others do to the state while a thread owns certain locks. -/
def inside (held : Lock → Prop) : Rely σ where
  may s t := (∀ lock, held lock → discipline.same lock s t) ∧ discipline.evolves.may s t
  refl s := ⟨fun lock _ => discipline.same_refl lock s, discipline.evolves.refl s⟩
  trans s t u first second :=
    ⟨fun lock own => discipline.same_trans lock s t u (first.1 lock own) (second.1 lock own),
      discipline.evolves.trans s t u first.2 second.2⟩

/-- An operation changes the resources of certain locks only. -/
def touches (held : Lock → Prop) (s : σ) (_ : Op) (t : σ) : Prop :=
  (∀ lock, ¬ held lock → discipline.same lock s t) ∧ discipline.evolves.may s t

/-- A call that leaves the state touches nothing. -/
theorem touches_refl (held : Lock → Prop) (s : σ) (op : Op) : discipline.touches held s op s :=
  ⟨fun lock _ => discipline.same_refl lock s, discipline.evolves.refl s⟩

/-- The guarantee of a thread. -/
def respecting (thread : ι) (s : Locked Lock ι σ) (_ : LockOp Lock Op) (t : Locked Lock ι σ) : Prop :=
  discipline.Respects thread s t

variable {discipline} {thread : ι} {held : Lock → Prop} {known : σ → Prop} {s t : Locked Lock ι σ}

/-- What a thread knows while it holds locks outlasts the moves of the others. -/
theorem Holding.moved (holding : discipline.Holding thread held known s)
    (lasting : ∀ u v, known u → (discipline.inside held).may u v → known v)
    (moved : discipline.Moves thread s t) : discipline.Holding thread held known t where
  owns lock := (moved.held lock).symm.trans (holding.owns lock)
  free := moved.free holding.free
  known := lasting _ _ holding.known
    ⟨fun lock own => moved.same lock ((holding.owns lock).mpr own), moved.evolves⟩

/-- The others move the shared state only as the held locks allow. -/
theorem Holding.inside (holding : discipline.Holding thread held known s)
    (moved : discipline.Moves thread s t) :
    (discipline.inside held).may s.shared t.shared :=
  ⟨fun lock own => moved.same lock ((holding.owns lock).mpr own), moved.evolves⟩

/-- An operation on resources of the thread's own locks respects the others. -/
theorem Holding.respects {op : Op} {after : σ} (holding : discipline.Holding thread held known s)
    (touched : discipline.touches held s.shared op after) :
    discipline.Respects thread s ⟨s.owner, after⟩ where
  others lock other _ := Iff.rfl
  same lock other := touched.1 lock fun own => other ((holding.owns lock).mpr own)
  free holds lock unowned := discipline.kept lock _ _ (holds lock unowned)
    (touched.1 lock fun own => by
      have mine := (holding.owns lock).mpr own
      change s.owner lock = none at unowned
      rw [unowned] at mine
      cases mine)
  evolves := touched.2

/-- Before any thread has run. -/
theorem idle_unowned {shared : σ} (invariants : ∀ lock, discipline.invariant lock shared)
    (holds : known shared) : discipline.Idle thread known (.unowned shared) :=
  ⟨fun _ => ⟨fun clash => (Option.some_ne_none thread clash.symm).elim, False.elim⟩,
    fun lock _ => invariants lock, holds⟩

variable [DecidableEq Lock] {lock : Lock}

/-- Taking a free lock: its invariant holds. -/
theorem Holding.acquired (idle : discipline.Idle thread known s) (unowned : s.owner lock = none) :
    discipline.Respects thread s (s.give lock (some thread)) ∧
      discipline.Holding thread (· = lock) (fun u => known u ∧ discipline.invariant lock u)
        (s.give lock (some thread)) := by
  have free : discipline.Free (s.give lock (some thread)) := by
    intro other unowned'
    by_cases same : other = lock
    · subst same
      rw [Locked.give_self] at unowned'
      cases unowned'
    · rw [s.give_of_ne same] at unowned'
      exact idle.free other unowned'
  refine ⟨⟨fun other owner different => ?_, fun other _ => discipline.same_refl other _,
    fun _ => free, discipline.evolves.refl _⟩, ⟨fun other => ?_, free, idle.known,
    idle.free lock unowned⟩⟩
  · by_cases same : other = lock
    · subst same
      rw [unowned, Locked.give_self]
      exact ⟨fun clash => (Option.some_ne_none owner clash.symm).elim,
        fun mine => absurd (Option.some.inj mine).symm different⟩
    · rw [s.give_of_ne same]
  · by_cases same : other = lock
    · subst same
      rw [Locked.give_self]
      exact ⟨fun _ => rfl, fun _ => rfl⟩
    · rw [s.give_of_ne same]
      exact ⟨fun mine => ((idle.owns other).mp mine).elim, fun clash => absurd clash same⟩

/-- Giving a lock back, with its invariant restored. -/
theorem Holding.released
    (holding : discipline.Holding thread (· = lock)
      (fun u => discipline.invariant lock u ∧ known u) s) :
    discipline.Respects thread s (s.give lock none) ∧
      discipline.Idle thread known (s.give lock none) := by
  have free : discipline.Free (s.give lock none) := by
    intro other unowned
    by_cases same : other = lock
    · subst same
      exact holding.known.1
    · rw [s.give_of_ne same] at unowned
      exact holding.free other unowned
  refine ⟨⟨fun other owner different => ?_, fun other _ => discipline.same_refl other _,
    fun _ => free, discipline.evolves.refl _⟩, ⟨fun other => ?_, free, holding.known.2⟩⟩
  · by_cases same : other = lock
    · subst same
      rw [(holding.owns other).mpr rfl, Locked.give_self]
      exact ⟨fun mine => absurd (Option.some.inj mine).symm different,
        fun clash => (Option.some_ne_none owner clash.symm).elim⟩
    · rw [s.give_of_ne same]
  · by_cases same : other = lock
    · subst same
      rw [Locked.give_self]
      exact ⟨fun clash => (Option.some_ne_none thread clash.symm).elim, False.elim⟩
    · rw [s.give_of_ne same]
      exact ⟨fun mine => absurd ((holding.owns other).mp mine) same, False.elim⟩

end Discipline

namespace Program

open Discipline

variable [DecidableEq Lock] {discipline : Discipline Lock σ} {service : Service Op Res ε σ}
  {thread : ι} {held : Lock → Prop} {known : σ → Prop}

/-- A program without locks, run by a thread that owns some. -/
theorem amid_lockless {program : Program Op Res ε α} {post : Except ε α → σ → Prop}
    {s : Locked Lock ι σ} (holding : discipline.Holding thread held (fun _ => True) s)
    (stands : program.amid service (discipline.inside held) (discipline.touches held) post
      s.shared) :
    (program.lockless Lock).amid (LockAnswers service thread) (discipline.rely thread)
      (discipline.respecting thread)
      (fun outcome => discipline.Holding thread held (post outcome)) s := by
  induction program generalizing s with
  | ret value => exact ⟨holding.owns, holding.free, stands⟩
  | fail error => exact ⟨holding.owns, holding.free, stands⟩
  | call op next ih =>
      intro t answer u moved answered
      have there := holding.moved (fun _ _ _ _ => trivial) moved
      cases answered with
      | call happened =>
          obtain ⟨touched, rest⟩ := stands t.shared answer _ (holding.inside moved) happened
          have respected := there.respects touched
          exact ⟨respected, ih answer ⟨there.owns, respected.free there.free, trivial⟩ rest⟩

/-- A section under a lock is run as if nobody else touched the lock's resource. It finds the
invariant and restores it. -/
theorem amid_withLock {lock : Lock} {program : Program Op Res ε α} {done : α → σ → Prop}
    {raised : ε → σ → Prop} {s : Locked Lock ι σ}
    (lasting : ∀ u v, known u → discipline.evolves.may u v → known v)
    (done_lasting : ∀ value u v, done value u → discipline.evolves.may u v → done value v)
    (raised_lasting : ∀ error u v, raised error u → discipline.evolves.may u v → raised error v)
    (stands : ∀ u, known u → discipline.invariant lock u →
      program.amid service (discipline.inside (· = lock)) (discipline.touches (· = lock))
        (ending (fun value v => discipline.invariant lock v ∧ done value v)
          fun error v => discipline.invariant lock v ∧ raised error v) u)
    (idle : discipline.Idle thread known s) :
    (withLock lock (program.lockless Lock)).amid (LockAnswers service thread)
      (discipline.rely thread) (discipline.respecting thread)
      (ending (fun value => discipline.Idle thread (done value))
        fun error => discipline.Idle thread (raised error)) s := by
  have frees {after : σ → Prop} (lasts : ∀ u v, after u → discipline.evolves.may u v → after v)
      {u : Locked Lock ι σ}
      (holding : discipline.Holding thread (· = lock)
        (fun v => discipline.invariant lock v ∧ after v) u) :
      (release lock : Program (LockOp Lock Op) (LockOp.Res Res) ε Unit).amid
        (LockAnswers service thread) (discipline.rely thread) (discipline.respecting thread)
        (ending (fun _ => discipline.Idle thread after) fun _ _ => False) u := by
    rw [release, amid_perform]
    intro v answer x moved answered
    have there := holding.moved (fun _ _ known moved =>
      ⟨discipline.kept lock _ _ known.1 (moved.1 lock rfl), lasts _ _ known.2 moved.2⟩) moved
    cases answered
    exact there.released
  have takes : (acquire lock : Program (LockOp Lock Op) (LockOp.Res Res) ε Unit).amid
      (LockAnswers service thread) (discipline.rely thread) (discipline.respecting thread)
      (ending (fun _ => discipline.Holding thread (· = lock)
        fun v => known v ∧ discipline.invariant lock v) fun _ _ => False) s := by
    rw [acquire, amid_perform]
    intro t answer u moved answered
    have there := idle.moved (fun _ _ known moved => lasting _ _ known moved.2) moved
    cases answered with
    | acquire unowned => exact there.acquired unowned
  have gives {γ : Type} {after : σ → Prop} {ended : Program (LockOp Lock Op) (LockOp.Res Res) ε γ}
      {result : Except ε γ → Locked Lock ι σ → Prop}
      (lasts : ∀ u v, after u → discipline.evolves.may u v → after v) {u : Locked Lock ι σ}
      (holding : discipline.Holding thread (· = lock)
        (fun v => discipline.invariant lock v ∧ after v) u)
      (ends : ∀ v, discipline.Idle thread after v →
        ended.amid (LockAnswers service thread) (discipline.rely thread)
          (discipline.respecting thread) result v) :
      (release lock >>= fun _ => ended).amid (LockAnswers service thread) (discipline.rely thread)
        (discipline.respecting thread) result u := by
    rw [amid_bind]
    refine amid_consequence (frees lasts holding) fun outcome v free => ?_
    cases outcome with
    | ok value => exact ends v free
    | error error => exact free.elim
  refine amid_bind_of _ (amid_weaken takes (fun _ _ held => held) fun _ _ => False.elim)
    fun _ t holding => ?_
  have runs := amid_lockless ⟨holding.owns, holding.free, trivial⟩
    (stands t.shared holding.known.1 holding.known.2)
  refine amid_bind_of (fun value => discipline.Holding thread (· = lock)
    fun v => discipline.invariant lock v ∧ done value v) ?_ fun value u held =>
      gives (done_lasting value) held fun _ idle => idle
  refine amid_tryCatch_of (fun error => discipline.Holding thread (· = lock)
    fun v => discipline.invariant lock v ∧ raised error v) ?_ fun error u held =>
      gives (raised_lasting error) held fun _ idle => idle
  refine amid_consequence runs fun outcome u ended => ?_
  cases outcome with
  | ok value => exact ended
  | error error => exact ended

/-- Operations on no lock's resource need no lock. -/
theorem amid_free {program : Program Op Res ε α} {post : Except ε α → σ → Prop} {s : Locked Lock ι σ}
    (stands : program.amid service (discipline.inside fun _ => False)
      (discipline.touches fun _ => False) post s.shared)
    (idle : discipline.Idle thread known s) :
    (program.lockless Lock).amid (LockAnswers service thread) (discipline.rely thread)
      (discipline.respecting thread) (fun outcome => discipline.Idle thread (post outcome)) s :=
  amid_lockless ⟨idle.owns, idle.free, trivial⟩ stands

end Program

/-! ## Threads among locks -/

namespace Discipline

open Program

variable [DecidableEq Lock] [DecidableEq ι] {results : ι → Type} {discipline : Discipline Lock σ}
  {service : Service Op Res ε σ}
  {start pool : Pool (LockOp Lock Op) (LockOp.Res Res) ε (Locked Lock ι σ) results}
  {post : (i : ι) → Except ε (results i) → σ → Prop}

/-- Threads that keep to the discipline fare as they would alone, in any interleaving. -/
theorem amid_of_interleaves (reached : Interleaves (LockAnswers service) start pool)
    (holds : ∀ i, (start.threads i).amid (LockAnswers service i) (discipline.rely i)
      (discipline.respecting i) (fun outcome => discipline.Idle i (post i outcome)) start.state)
    (lasting : ∀ i outcome u v, post i outcome u → discipline.evolves.may u v → post i outcome v)
    (i : ι) :
    (pool.threads i).amid (LockAnswers service i) (discipline.rely i) (discipline.respecting i)
      (fun outcome => discipline.Idle i (post i outcome)) pool.state :=
  reached.amid holds
    (fun i outcome _ _ ended moved => ended.moved
      (fun _ _ known moved => lasting i outcome _ _ known moved.2) moved)
    (fun _ _ different _ _ _ _ _ kept => kept.moves different) i

/-- In any interleaving of threads that keep to the discipline, every free lock's resource
satisfies its invariant. -/
theorem free_of_interleaves (reached : Interleaves (LockAnswers service) start pool)
    (holds : ∀ i, (start.threads i).amid (LockAnswers service i) (discipline.rely i)
      (discipline.respecting i) (fun outcome => discipline.Idle i (post i outcome)) start.state)
    (lasting : ∀ i outcome u v, post i outcome u → discipline.evolves.may u v → post i outcome v)
    (initial : discipline.Free start.state) : discipline.Free pool.state :=
  reached.invariant holds
    (fun i outcome _ _ ended moved => ended.moved
      (fun _ _ known moved => lasting i outcome _ _ known moved.2) moved)
    (fun _ _ different _ _ _ _ _ kept => kept.moves different) initial
    fun _ _ _ _ free kept => kept.free free

/-- What the discipline lets no thread break holds in every state reached. -/
theorem safe_of_interleaves (reached : Interleaves (LockAnswers service) start pool)
    (holds : ∀ i, (start.threads i).amid (LockAnswers service i) (discipline.rely i)
      (discipline.respecting i) (fun outcome => discipline.Idle i (post i outcome)) start.state)
    (lasting : ∀ i outcome u v, post i outcome u → discipline.evolves.may u v → post i outcome v)
    {safe : σ → Prop} (initial : safe start.state.shared)
    (kept : ∀ u v, safe u → discipline.evolves.may u v → safe v) : safe pool.state.shared :=
  reached.invariant holds
    (fun i outcome _ _ ended moved => ended.moved
      (fun _ _ known moved => lasting i outcome _ _ known moved.2) moved)
    (fun _ _ different _ _ _ _ _ kept => kept.moves different) initial
    fun _ _ _ _ safe respects => kept _ _ safe respects.evolves

end Discipline

end Foundation
