import Mathlib.Logic.Function.Basic
import WekaShareDriver.Foundation.Program

/-! # Programs run side by side

Threads that run programs against one service take turns: each call of a thread is a step, and
between two calls of one thread any others may be made (`Foundation.Interleaves`). A thread is
reasoned about alone, amid whatever the others may do to the state between its calls
(`Foundation.Rely`, `Foundation.Program.amid`); in return every call of it meets a guarantee. If
what each thread guarantees is what the others rely on, then each of them fares as it would alone
(`Foundation.Interleaves.amid`).

A service that is recorded lists the calls of all threads (`Foundation.recording`), for facts about
the calls a thread has made.
-/

namespace Foundation

variable {Op : Type} {Res : Op → Type} {ε α β σ : Type}

/-- What others may do to the state between two calls: nothing, or several things in turn. -/
structure Rely (σ : Type) where
  may : σ → σ → Prop
  refl : ∀ s, may s s
  trans : ∀ s t u, may s t → may t u → may s u

namespace Program

/-- With others at work between the calls, every call of every run meets the guarantee, and every
completed run the postcondition. -/
def amid (service : Service Op Res ε σ) (rely : Rely σ) (guarantee : σ → Op → σ → Prop) :
    Program Op Res ε α → (Except ε α → σ → Prop) → σ → Prop
  | .ret value, post, s => post (.ok value) s
  | .fail error, post, s => post (.error error) s
  | .call op next, post, s => ∀ t answer u, rely.may s t → service t op answer u →
      guarantee t op u ∧ (next answer).amid service rely guarantee post u

section Rules

variable {service : Service Op Res ε σ} {rely : Rely σ} {guarantee guarantee' : σ → Op → σ → Prop}

@[simp] theorem amid_pure (value : α) (post : Except ε α → σ → Prop) (s : σ) :
    (pure value : Program Op Res ε α).amid service rely guarantee post s = post (.ok value) s := rfl

@[simp] theorem amid_throw (error : ε) (post : Except ε α → σ → Prop) (s : σ) :
    (throw error : Program Op Res ε α).amid service rely guarantee post s =
      post (.error error) s := rfl

@[simp] theorem amid_bind (program : Program Op Res ε α) (rest : α → Program Op Res ε β)
    (post : Except ε β → σ → Prop) (s : σ) :
    (program >>= rest).amid service rely guarantee post s =
      program.amid service rely guarantee
        (onOk (fun value => (rest value).amid service rely guarantee post) post) s := by
  change (program.bind rest).amid service rely guarantee post s = _
  induction program generalizing s with
  | ret value => rfl
  | fail error => rfl
  | call op next ih =>
      simp only [Program.bind, amid]
      exact propext (forall_congr' fun t => forall_congr' fun answer => forall_congr' fun u =>
        imp_congr_right fun _ => imp_congr_right fun _ => and_congr_right fun _ => by rw [ih])

@[simp] theorem amid_tryCatch (program : Program Op Res ε α) (handler : ε → Program Op Res ε α)
    (post : Except ε α → σ → Prop) (s : σ) :
    (tryCatch program handler).amid service rely guarantee post s =
      program.amid service rely guarantee
        (onError (fun error => (handler error).amid service rely guarantee post) post) s := by
  change (program.handle handler).amid service rely guarantee post s = _
  induction program generalizing s with
  | ret value => rfl
  | fail error => rfl
  | call op next ih =>
      simp only [Program.handle, amid]
      exact propext (forall_congr' fun t => forall_congr' fun answer => forall_congr' fun u =>
        imp_congr_right fun _ => imp_congr_right fun _ => and_congr_right fun _ => by rw [ih])

@[simp] theorem amid_ite (condition : Prop) [Decidable condition]
    (first second : Program Op Res ε α) (post : Except ε α → σ → Prop) (s : σ) :
    (if condition then first else second).amid service rely guarantee post s =
      if condition then first.amid service rely guarantee post s
      else second.amid service rely guarantee post s := by
  split <;> rfl

/-- One call amid others: whatever state they leave, it meets the guarantee and its answer the
postcondition. -/
theorem amid_perform (op : Op) (post : Except ε (Res op) → σ → Prop) (s : σ) :
    (perform op : Program Op Res ε (Res op)).amid service rely guarantee post s ↔
      ∀ t answer u, rely.may s t → service t op answer u → guarantee t op u ∧ post answer u := by
  refine forall_congr' fun t => forall_congr' fun answer => forall_congr' fun u =>
    imp_congr_right fun _ => imp_congr_right fun _ => and_congr_right fun _ => ?_
  cases answer <;> rfl

/-- A weaker guarantee and a weaker postcondition hold as well. -/
theorem amid_mono {program : Program Op Res ε α} {post post' : Except ε α → σ → Prop} {s : σ}
    (guarantees : ∀ u op v, guarantee u op v → guarantee' u op v)
    (posts : ∀ outcome t, post outcome t → post' outcome t)
    (holds : program.amid service rely guarantee post s) :
    program.amid service rely guarantee' post' s := by
  induction program generalizing s with
  | ret value => exact posts _ _ holds
  | fail error => exact posts _ _ holds
  | call op next ih =>
      intro t answer u moved answered
      obtain ⟨kept, rest⟩ := holds t answer u moved answered
      exact ⟨guarantees _ _ _ kept, ih answer rest⟩

/-- Replace the postcondition only. -/
theorem amid_consequence {program : Program Op Res ε α} {post post' : Except ε α → σ → Prop} {s : σ}
    (holds : program.amid service rely guarantee post s)
    (posts : ∀ outcome t, post outcome t → post' outcome t) :
    program.amid service rely guarantee post' s :=
  amid_mono (fun _ _ _ kept => kept) posts holds

/-- Weaken both endings. -/
theorem amid_weaken {program : Program Op Res ε α} {done done' : α → σ → Prop}
    {raised raised' : ε → σ → Prop} {s : σ}
    (holds : program.amid service rely guarantee (ending done raised) s)
    (dones : ∀ value t, done value t → done' value t)
    (raises : ∀ error t, raised error t → raised' error t) :
    program.amid service rely guarantee (ending done' raised') s := by
  refine amid_consequence holds fun outcome t ended => ?_
  cases outcome with
  | ok value => exact dones value t ended
  | error error => exact raises error t ended

/-- Sequencing through an intermediate assertion. -/
theorem amid_bind_of {program : Program Op Res ε α} {rest : α → Program Op Res ε β}
    {done : β → σ → Prop} {raised : ε → σ → Prop} {s : σ} (middle : α → σ → Prop)
    (first : program.amid service rely guarantee (ending middle raised) s)
    (second : ∀ value t, middle value t →
      (rest value).amid service rely guarantee (ending done raised) t) :
    (program >>= rest).amid service rely guarantee (ending done raised) s := by
  rw [amid_bind, onOk_ending]
  refine amid_consequence first fun outcome t ended => ?_
  cases outcome with
  | ok value => exact second value t ended
  | error error => exact ended

/-- Handling an error through an assertion about it. -/
theorem amid_tryCatch_of {program : Program Op Res ε α} {handler : ε → Program Op Res ε α}
    {done : α → σ → Prop} {raised : ε → σ → Prop} {s : σ} (caught : ε → σ → Prop)
    (first : program.amid service rely guarantee (ending done caught) s)
    (second : ∀ error t, caught error t →
      (handler error).amid service rely guarantee (ending done raised) t) :
    (tryCatch program handler).amid service rely guarantee (ending done raised) s := by
  rw [amid_tryCatch, onError_ending]
  refine amid_consequence first fun outcome t ended => ?_
  cases outcome with
  | ok value => exact ended
  | error error => exact second error t ended

/-- Sequencing what keeps an assertion however it ends. -/
theorem amid_bind_always {program : Program Op Res ε α} {rest : α → Program Op Res ε β}
    {known : σ → Prop} {s : σ}
    (first : program.amid service rely guarantee (fun _ => known) s)
    (second : ∀ value t, known t → (rest value).amid service rely guarantee (fun _ => known) t) :
    (program >>= rest).amid service rely guarantee (fun _ => known) s := by
  rw [amid_bind]
  refine amid_consequence first fun outcome t ended => ?_
  cases outcome with
  | ok value => exact second value t ended
  | error error => exact ended

/-- Handling the errors of what keeps an assertion however it ends. -/
theorem amid_tryCatch_always {program : Program Op Res ε α} {handler : ε → Program Op Res ε α}
    {known : σ → Prop} {s : σ}
    (first : program.amid service rely guarantee (fun _ => known) s)
    (second : ∀ error t, known t → (handler error).amid service rely guarantee (fun _ => known) t) :
    (tryCatch program handler).amid service rely guarantee (fun _ => known) s := by
  rw [amid_tryCatch]
  refine amid_consequence first fun outcome t ended => ?_
  cases outcome with
  | ok value => exact ended
  | error error => exact second error t ended

/-- What holds of a state holds after the others have been at work, if the postcondition lasts. -/
theorem amid_of_may {program : Program Op Res ε α} {post : Except ε α → σ → Prop} {s t : σ}
    (lasting : ∀ outcome u v, post outcome u → rely.may u v → post outcome v)
    (moved : rely.may s t) (holds : program.amid service rely guarantee post s) :
    program.amid service rely guarantee post t := by
  cases program with
  | ret value => exact lasting _ _ _ holds moved
  | fail error => exact lasting _ _ _ holds moved
  | call op next =>
      intro u answer v later answered
      exact holds u answer v (rely.trans _ _ _ moved later) answered

/-- A program that only uses certain operations, each of which meets the guarantee and keeps an
invariant that lasts. -/
theorem amid_of_uses {program : Program Op Res ε α} {allowed : Op → Prop} {invariant : σ → Prop}
    (uses : program.Uses allowed) (lasting : ∀ s t, invariant s → rely.may s t → invariant t)
    (meets : ∀ s op answer t, allowed op → invariant s → service s op answer t →
      guarantee s op t ∧ invariant t) {s : σ} (holds : invariant s) :
    program.amid service rely guarantee (ending (fun _ => invariant) fun _ => invariant) s := by
  induction program generalizing s with
  | ret value => exact holds
  | fail error => exact holds
  | call op next ih =>
      intro t answer u moved answered
      have kept := meets t op answer u uses.1 (lasting s t holds moved) answered
      exact ⟨kept.1, ih answer (uses.2 answer) kept.2⟩

end Rules

end Program

/-! ## Threads -/

section Threads

open Program

variable {ι : Type} {results : ι → Type}

/-- What is left of each thread's program, and the state they share. -/
structure Pool (Op : Type) (Res : Op → Type) (ε σ : Type) (results : ι → Type) where
  threads : (i : ι) → Program Op Res ε (results i)
  state : σ

variable [DecidableEq ι]

/-- The pool after a step of one thread. -/
def Pool.advance (pool : Pool Op Res ε σ results) (i : ι) (rest : Program Op Res ε (results i))
    (state : σ) : Pool Op Res ε σ results :=
  ⟨Function.update pool.threads i rest, state⟩

/-- The pools reached when the threads take turns in any order. A thread may stop for good at any
point. -/
inductive Interleaves (service : ι → Service Op Res ε σ) (start : Pool Op Res ε σ results) :
    Pool Op Res ε σ results → Prop where
  | start : Interleaves service start start
  | step {pool : Pool Op Res ε σ results} {i : ι} {op : Op}
      {next : Except ε (Res op) → Program Op Res ε (results i)} {answer : Except ε (Res op)} {t : σ} :
      Interleaves service start pool → pool.threads i = .call op next →
      service i pool.state op answer t → Interleaves service start (pool.advance i (next answer) t)

namespace Interleaves

variable {service : ι → Service Op Res ε σ} {start pool : Pool Op Res ε σ results}
  {rely : ι → Rely σ} {guarantee : ι → σ → Op → σ → Prop}
  {post : (i : ι) → Except ε (results i) → σ → Prop}

/-- What is reached from a pool reached. -/
theorem trans {later : Pool Op Res ε σ results} (reached : Interleaves service start pool)
    (further : Interleaves service pool later) : Interleaves service start later := by
  induction further with
  | start => exact reached
  | step _ ready answered ih => exact ih.step ready answered

/-- If what each thread guarantees is what the others rely on, each fares as it would alone. -/
theorem amid (reached : Interleaves service start pool)
    (holds : ∀ i, (start.threads i).amid (service i) (rely i) (guarantee i) (post i) start.state)
    (lasting : ∀ i outcome s t, post i outcome s → (rely i).may s t → post i outcome t)
    (compatible : ∀ i j, j ≠ i → ∀ s op answer t, service i s op answer t → guarantee i s op t →
      (rely j).may s t) (i : ι) :
    (pool.threads i).amid (service i) (rely i) (guarantee i) (post i) pool.state := by
  induction reached generalizing i with
  | start => exact holds i
  | @step pool k op next answer t _ ready answered ih =>
      have turn := ih k
      rw [ready] at turn
      obtain ⟨kept, rest⟩ := turn pool.state answer t ((rely k).refl _) answered
      by_cases same : i = k
      · subst same
        change (Function.update pool.threads i (next answer) i).amid _ _ _ _ t
        rw [Function.update_self]
        exact rest
      · change (Function.update pool.threads k (next answer) i).amid _ _ _ _ t
        rw [Function.update_of_ne same]
        exact amid_of_may (lasting i) (compatible k i same _ _ _ _ answered kept) (ih i)

omit [DecidableEq ι] in
/-- Every step that a thread is about to take meets its guarantee. -/
theorem guaranteed {i : ι} {op : Op} {next : Except ε (Res op) → Program Op Res ε (results i)}
    {answer : Except ε (Res op)} {t : σ}
    (stands : (pool.threads i).amid (service i) (rely i) (guarantee i) (post i) pool.state)
    (ready : pool.threads i = .call op next) (answered : service i pool.state op answer t) :
    guarantee i pool.state op t := by
  rw [ready] at stands
  exact (stands pool.state answer t ((rely i).refl _) answered).1

/-- What every guaranteed step keeps holds of every state reached. -/
theorem invariant (reached : Interleaves service start pool)
    (holds : ∀ i, (start.threads i).amid (service i) (rely i) (guarantee i) (post i) start.state)
    (lasting : ∀ i outcome s t, post i outcome s → (rely i).may s t → post i outcome t)
    (compatible : ∀ i j, j ≠ i → ∀ s op answer t, service i s op answer t → guarantee i s op t →
      (rely j).may s t) {safe : σ → Prop} (initial : safe start.state)
    (kept : ∀ i s op t, safe s → guarantee i s op t → safe t) : safe pool.state := by
  induction reached with
  | start => exact initial
  | step before ready answered ih =>
      exact kept _ _ _ _ ih
        (guaranteed (before.amid holds lasting compatible _) ready answered)

end Interleaves

/-! ### Recording -/

/-- A call that was made: by which thread, in what state, and the error it raised, if any. -/
structure MadeCall (ι Op ε σ : Type) where
  thread : ι
  op : Op
  before : σ
  raised : Option ε

/-- A state with the calls that led to it, the latest last. -/
structure Recorded (ι Op ε σ : Type) where
  state : σ
  calls : List (MadeCall ι Op ε σ)

/-- The error of an answer, if it is one. -/
def errorOf : Except ε α → Option ε
  | .ok _ => none
  | .error error => some error

/-- What a service does for a thread, with the call on record. -/
def recording (service : Service Op Res ε σ) (i : ι) : Service Op Res ε (Recorded ι Op ε σ) :=
  fun s op answer t => service s.state op answer t.state ∧
    t.calls = s.calls ++ [⟨i, op, s.state, errorOf answer⟩]

/-- The latest call of a thread. -/
def LatestCall (call : MadeCall ι Op ε σ) (calls : List (MadeCall ι Op ε σ)) : Prop :=
  ∃ before after, calls = before ++ call :: after ∧ ∀ later ∈ after, later.thread ≠ call.thread

omit [DecidableEq ι] in
/-- A call that was just made is the latest of its thread. -/
theorem latestCall_append (call : MadeCall ι Op ε σ) (calls : List (MadeCall ι Op ε σ)) :
    LatestCall call (calls ++ [call]) :=
  ⟨calls, [], rfl, fun _ impossible => absurd impossible List.not_mem_nil⟩

omit [DecidableEq ι] in
/-- The latest call of a thread stays so while others make calls. -/
theorem LatestCall.append {call : MadeCall ι Op ε σ} {calls added : List (MadeCall ι Op ε σ)}
    (latest : LatestCall call calls) (others : ∀ later ∈ added, later.thread ≠ call.thread) :
    LatestCall call (calls ++ added) := by
  obtain ⟨before, after, rfl, mine⟩ := latest
  refine ⟨before, after ++ added, by simp, fun later member => ?_⟩
  rcases List.mem_append.mp member with earlier | member
  · exact mine later earlier
  · exact others later member

/-- A step that is put on record. -/
theorem Interleaves.record {service : Service Op Res ε σ}
    {start pool : Pool Op Res ε (Recorded ι Op ε σ) results} {i : ι} {op : Op}
    {next : Except ε (Res op) → Program Op Res ε (results i)} {answer : Except ε (Res op)} {t : σ}
    (reached : Interleaves (recording service) start pool) (ready : pool.threads i = .call op next)
    (answered : service pool.state.state op answer t) :
    Interleaves (recording service) start (pool.advance i (next answer)
      ⟨t, pool.state.calls ++ [⟨i, op, pool.state.state, errorOf answer⟩]⟩) :=
  reached.step ready ⟨answered, rfl⟩

end Threads

end Foundation
