import Mathlib.Data.List.Basic

/-! # Programs that call a fallible service

A program is a finite tree of calls to a service. Every call is answered by a
result or by an error, and the rest of the program is chosen by that answer, so
sequencing, raising and handling errors are all operations on trees
(`Foundation.Program`). What a call may do to the state of the world is given
separately, as a relation (`Foundation.Service`): a program has all the runs its
service allows (`Foundation.Program.Exec`), and every call of every run is
recorded together with the states around it (`Foundation.Program.Issues`), so
that a property of the calls, or of the states between them, can be stated.

Both are reasoned about through one predicate transformer
(`Foundation.Program.wp`): a guarantee that every call has to meet and a
postcondition of the completed runs.
-/

namespace Foundation

/-- A program calling operations `Op`, answered by `Res`, failing with `ε` and
returning `α`. -/
inductive Program (Op : Type) (Res : Op → Type) (ε α : Type) : Type where
  | ret (value : α)
  | fail (error : ε)
  | call (op : Op) (next : Except ε (Res op) → Program Op Res ε α)

/-- How a service answers one call: the answers it allows in a state, each with
the state it leaves. -/
abbrev Service (Op : Type) (Res : Op → Type) (ε σ : Type) : Type :=
  σ → (op : Op) → Except ε (Res op) → σ → Prop

namespace Program

variable {Op : Type} {Res : Op → Type} {ε α β γ σ : Type}

/-- Run the first program, then the second on its result; an error ends both. -/
def bind : Program Op Res ε α → (α → Program Op Res ε β) → Program Op Res ε β
  | .ret value, rest => rest value
  | .fail error, _ => .fail error
  | .call op next, rest => .call op fun answer => (next answer).bind rest

/-- Run a program and continue with the handler when it raises. -/
def handle : Program Op Res ε α → (ε → Program Op Res ε α) → Program Op Res ε α
  | .ret value, _ => .ret value
  | .fail error, handler => handler error
  | .call op next, handler => .call op fun answer => (next answer).handle handler

instance : Monad (Program Op Res ε) where
  pure := .ret
  bind := bind

instance : MonadExceptOf ε (Program Op Res ε) where
  throw := .fail
  tryCatch := handle

/-- Returning the value of a program adds nothing to it. -/
theorem bind_ret (program : Program Op Res ε α) : program.bind .ret = program := by
  induction program with
  | ret value => rfl
  | fail error => rfl
  | call op next ih => exact congrArg (Program.call op) (funext ih)

/-- Programs one after the other may be grouped either way. -/
theorem bind_assoc (program : Program Op Res ε α) (first : α → Program Op Res ε β)
    (second : β → Program Op Res ε γ) :
    (program.bind first).bind second = program.bind fun value => (first value).bind second := by
  induction program with
  | ret value => rfl
  | fail error => rfl
  | call op next ih => exact congrArg (Program.call op) (funext ih)

instance : LawfulMonad (Program Op Res ε) :=
  LawfulMonad.mk' _ (fun program => bind_ret program) (fun _ _ => rfl)
    (fun program first second => bind_assoc program first second)

/-- Handling an error before a result is changed, or after. -/
theorem map_tryCatch (change : α → β) (program : Program Op Res ε α)
    (handler : ε → Program Op Res ε α) :
    change <$> tryCatch program handler =
      tryCatch (change <$> program) fun error => change <$> handler error := by
  simp only [map_eq_pure_bind]
  change (program.handle handler).bind _ = (program.bind _).handle fun error => (handler error).bind _
  induction program with
  | ret value => rfl
  | fail error => rfl
  | call op next ih => exact congrArg (Program.call op) (funext ih)

/-- The program that makes one call and returns or raises its answer. -/
def perform (op : Op) : Program Op Res ε (Res op) :=
  .call op fun
    | .ok result => .ret result
    | .error error => .fail error

/-! ## Runs -/

/-- A completed run: from the first state, with the outcome and the last state. -/
inductive Exec (service : Service Op Res ε σ) :
    Program Op Res ε α → σ → Except ε α → σ → Prop where
  | ret (value : α) (s : σ) : Exec service (.ret value) s (.ok value) s
  | fail (error : ε) (s : σ) : Exec service (.fail error) s (.error error) s
  | call {op : Op} {next : Except ε (Res op) → Program Op Res ε α} {s t u : σ}
      {answer : Except ε (Res op)} {outcome : Except ε α} :
      service s op answer t → Exec service (next answer) t outcome u →
        Exec service (.call op next) s outcome u

/-- A call made on some run, with the states just before and just after it. The
run need not complete: this covers every prefix of the calls. -/
inductive Issues (service : Service Op Res ε σ) :
    Program Op Res ε α → σ → σ → Op → σ → Prop where
  | here {op : Op} {next : Except ε (Res op) → Program Op Res ε α} {s t : σ}
      {answer : Except ε (Res op)} :
      service s op answer t → Issues service (.call op next) s s op t
  | later {op issued : Op} {next : Except ε (Res op) → Program Op Res ε α} {s t u v : σ}
      {answer : Except ε (Res op)} :
      service s op answer t → Issues service (next answer) t u issued v →
        Issues service (.call op next) s u issued v

/-- A state in which the program may be interrupted: the first one, or one left
by a call. -/
def Reaches (service : Service Op Res ε σ) (program : Program Op Res ε α) (s t : σ) : Prop :=
  t = s ∨ ∃ u op, Issues service program s u op t

/-! ## Guarantees and postconditions -/

/-- Every call of every run meets the guarantee, and every completed run the
postcondition. -/
def wp (service : Service Op Res ε σ) (guarantee : σ → Op → σ → Prop) :
    Program Op Res ε α → (Except ε α → σ → Prop) → σ → Prop
  | .ret value, post, s => post (.ok value) s
  | .fail error, post, s => post (.error error) s
  | .call op next, post, s => ∀ answer t, service s op answer t →
      guarantee s op t ∧ (next answer).wp service guarantee post t

/-- The postcondition of the first program of a sequence: an error skips the
second. -/
def onOk (continue' : α → σ → Prop) (post : Except ε β → σ → Prop) : Except ε α → σ → Prop
  | .ok value, s => continue' value s
  | .error error, s => post (.error error) s

/-- The postcondition of a guarded program: an error continues in the handler. -/
def onError (handler : ε → σ → Prop) (post : Except ε α → σ → Prop) : Except ε α → σ → Prop
  | .ok value, s => post (.ok value) s
  | .error error, s => handler error s

@[simp] theorem onOk_ok (continue' : α → σ → Prop) (post : Except ε β → σ → Prop) (value : α)
    (s : σ) : onOk continue' post (.ok value) s = continue' value s := rfl

@[simp] theorem onOk_error (continue' : α → σ → Prop) (post : Except ε β → σ → Prop) (error : ε)
    (s : σ) : onOk continue' post (.error error) s = post (.error error) s := rfl

@[simp] theorem onError_ok (handler : ε → σ → Prop) (post : Except ε α → σ → Prop) (value : α)
    (s : σ) : onError handler post (.ok value) s = post (.ok value) s := rfl

@[simp] theorem onError_error (handler : ε → σ → Prop) (post : Except ε α → σ → Prop) (error : ε)
    (s : σ) : onError handler post (.error error) s = handler error s := rfl

/-- A postcondition by its two endings. -/
def ending (done : α → σ → Prop) (raised : ε → σ → Prop) : Except ε α → σ → Prop
  | .ok value, s => done value s
  | .error error, s => raised error s

/-- The guarantee that every call leaves a state satisfying an assertion. -/
def passing (passed : σ → Prop) : σ → Op → σ → Prop := fun _ _ t => passed t

@[simp] theorem ending_ok (done : α → σ → Prop) (raised : ε → σ → Prop) (value : α) (s : σ) :
    ending done raised (.ok value) s = done value s := rfl

@[simp] theorem ending_error (done : α → σ → Prop) (raised : ε → σ → Prop) (error : ε) (s : σ) :
    ending done raised (.error error) s = raised error s := rfl

@[simp] theorem onOk_ending (continue' : α → σ → Prop) (done : β → σ → Prop)
    (raised : ε → σ → Prop) : onOk continue' (ending done raised) = ending continue' raised := by
  funext outcome s
  cases outcome <;> rfl

@[simp] theorem onError_ending (handler : ε → σ → Prop) (done : α → σ → Prop)
    (raised : ε → σ → Prop) : onError handler (ending done raised) = ending done handler := by
  funext outcome s
  cases outcome <;> rfl

section Rules

variable {service : Service Op Res ε σ} {guarantee guarantee' : σ → Op → σ → Prop}

@[simp] theorem wp_pure (value : α) (post : Except ε α → σ → Prop) (s : σ) :
    (pure value : Program Op Res ε α).wp service guarantee post s = post (.ok value) s := rfl

@[simp] theorem wp_throw (error : ε) (post : Except ε α → σ → Prop) (s : σ) :
    (throw error : Program Op Res ε α).wp service guarantee post s = post (.error error) s := rfl

@[simp] theorem wp_bind (program : Program Op Res ε α) (rest : α → Program Op Res ε β)
    (post : Except ε β → σ → Prop) (s : σ) :
    (program >>= rest).wp service guarantee post s =
      program.wp service guarantee
        (onOk (fun value => (rest value).wp service guarantee post) post) s := by
  change (program.bind rest).wp service guarantee post s = _
  induction program generalizing s with
  | ret value => rfl
  | fail error => rfl
  | call op next ih =>
      simp only [Program.bind, wp]
      exact propext (forall_congr' fun answer => forall_congr' fun t => imp_congr_right fun _ =>
        and_congr_right fun _ => by rw [ih])

@[simp] theorem wp_tryCatch (program : Program Op Res ε α) (handler : ε → Program Op Res ε α)
    (post : Except ε α → σ → Prop) (s : σ) :
    (tryCatch program handler).wp service guarantee post s =
      program.wp service guarantee
        (onError (fun error => (handler error).wp service guarantee post) post) s := by
  change (program.handle handler).wp service guarantee post s = _
  induction program generalizing s with
  | ret value => rfl
  | fail error => rfl
  | call op next ih =>
      simp only [Program.handle, wp]
      exact propext (forall_congr' fun answer => forall_congr' fun t => imp_congr_right fun _ =>
        and_congr_right fun _ => by rw [ih])

@[simp] theorem wp_ite (condition : Prop) [Decidable condition] (first second : Program Op Res ε α)
    (post : Except ε α → σ → Prop) (s : σ) :
    (if condition then first else second).wp service guarantee post s =
      if condition then first.wp service guarantee post s
      else second.wp service guarantee post s := by
  split <;> rfl

/-- One call: it meets the guarantee, and every answer to it the postcondition. -/
theorem wp_perform (op : Op) (post : Except ε (Res op) → σ → Prop) (s : σ) :
    (perform op : Program Op Res ε (Res op)).wp service guarantee post s ↔
      ∀ answer t, service s op answer t → guarantee s op t ∧ post answer t := by
  refine forall_congr' fun answer => forall_congr' fun t => imp_congr_right fun _ =>
    and_congr_right fun _ => ?_
  cases answer <;> rfl

/-- A weaker guarantee and a weaker postcondition hold as well. -/
theorem wp_mono {program : Program Op Res ε α} {post post' : Except ε α → σ → Prop} {s : σ}
    (guarantees : ∀ u op v, guarantee u op v → guarantee' u op v)
    (posts : ∀ outcome t, post outcome t → post' outcome t)
    (holds : program.wp service guarantee post s) : program.wp service guarantee' post' s := by
  induction program generalizing s with
  | ret value => exact posts _ _ holds
  | fail error => exact posts _ _ holds
  | call op next ih =>
      intro answer t answered
      obtain ⟨kept, rest⟩ := holds answer t answered
      exact ⟨guarantees _ _ _ kept, ih answer rest⟩

/-- Replace the postcondition only. -/
theorem wp_consequence {program : Program Op Res ε α} {post post' : Except ε α → σ → Prop} {s : σ}
    (holds : program.wp service guarantee post s)
    (posts : ∀ outcome t, post outcome t → post' outcome t) :
    program.wp service guarantee post' s :=
  wp_mono (fun _ _ _ kept => kept) posts holds

/-- Weaken the states passed and both endings. -/
theorem wp_weaken {program : Program Op Res ε α} {passed passed' : σ → Prop}
    {done done' : α → σ → Prop} {raised raised' : ε → σ → Prop} {s : σ}
    (holds : program.wp service (passing passed) (ending done raised) s)
    (passes : ∀ t, passed t → passed' t) (dones : ∀ value t, done value t → done' value t)
    (raises : ∀ error t, raised error t → raised' error t) :
    program.wp service (passing passed') (ending done' raised') s := by
  refine wp_mono (fun _ _ v kept => passes v kept) (fun outcome t ended => ?_) holds
  cases outcome with
  | ok value => exact dones value t ended
  | error error => exact raises error t ended

/-- Sequencing through an intermediate assertion. -/
theorem wp_bind_of {program : Program Op Res ε α} {rest : α → Program Op Res ε β}
    {done : β → σ → Prop} {raised : ε → σ → Prop} {s : σ} (middle : α → σ → Prop)
    (first : program.wp service guarantee (ending middle raised) s)
    (second : ∀ value t, middle value t →
      (rest value).wp service guarantee (ending done raised) t) :
    (program >>= rest).wp service guarantee (ending done raised) s := by
  rw [wp_bind, onOk_ending]
  refine wp_consequence first fun outcome t ended => ?_
  cases outcome with
  | ok value => exact second value t ended
  | error error => exact ended

/-- Handling an error through an assertion about it. -/
theorem wp_tryCatch_of {program : Program Op Res ε α} {handler : ε → Program Op Res ε α}
    {done : α → σ → Prop} {raised : ε → σ → Prop} {s : σ} (caught : ε → σ → Prop)
    (first : program.wp service guarantee (ending done caught) s)
    (second : ∀ error t, caught error t →
      (handler error).wp service guarantee (ending done raised) t) :
    (tryCatch program handler).wp service guarantee (ending done raised) s := by
  rw [wp_tryCatch, onError_ending]
  refine wp_consequence first fun outcome t ended => ?_
  cases outcome with
  | ok value => exact ended
  | error error => exact second error t ended

/-- A loop that carries a value: the invariant speaks of the elements already
visited. -/
theorem wp_foldlM {step : β → α → Program Op Res ε β} {post : Except ε β → σ → Prop}
    (invariant : List α → β → σ → Prop) (elements : List α)
    (preserved : ∀ visited element rest value s, elements = visited ++ element :: rest →
      invariant visited value s →
        (step value element).wp service guarantee
          (onOk (fun value' => invariant (visited ++ [element]) value') post) s)
    (finished : ∀ value s, invariant elements value s → post (.ok value) s)
    {value : β} {s : σ} (initial : invariant [] value s) :
    (elements.foldlM step value).wp service guarantee post s := by
  suffices general : ∀ rest visited value s, elements = visited ++ rest →
      invariant visited value s → (rest.foldlM step value).wp service guarantee post s from
    general elements [] value s rfl initial
  intro rest
  induction rest with
  | nil =>
      intro visited value s split holds
      rw [List.append_nil] at split
      subst split
      exact finished value s holds
  | cons element rest ih =>
      intro visited value s split holds
      rw [List.foldlM_cons, wp_bind]
      refine wp_consequence (preserved visited element rest value s split holds) ?_
      rintro (error | value') t outcome
      · exact outcome
      · exact ih (visited ++ [element]) value' t (by simp [split]) outcome

/-- A loop without a carried value. -/
theorem wp_forM {step : α → Program Op Res ε PUnit} {post : Except ε PUnit → σ → Prop}
    (invariant : List α → σ → Prop) (elements : List α)
    (preserved : ∀ visited element rest s, elements = visited ++ element :: rest →
      invariant visited s →
        (step element).wp service guarantee
          (onOk (fun _ => invariant (visited ++ [element])) post) s)
    (finished : ∀ s, invariant elements s → post (.ok ⟨⟩) s)
    {s : σ} (initial : invariant [] s) :
    (elements.forM step).wp service guarantee post s := by
  suffices general : ∀ rest visited s, elements = visited ++ rest →
      invariant visited s → (rest.forM step).wp service guarantee post s from
    general elements [] s rfl initial
  intro rest
  induction rest with
  | nil =>
      intro visited s split holds
      rw [List.append_nil] at split
      subst split
      exact finished s holds
  | cons element rest ih =>
      intro visited s split holds
      change (step element >>= fun _ => rest.forM step).wp service guarantee post s
      rw [wp_bind]
      refine wp_consequence (preserved visited element rest s split holds) ?_
      rintro (error | _) t outcome
      · exact outcome
      · exact ih (visited ++ [element]) t (by simp [split]) outcome

/-- Two postconditions with their guarantees hold together. -/
theorem wp_and {program : Program Op Res ε α} {post post' : Except ε α → σ → Prop} {s : σ}
    (first : program.wp service guarantee post s)
    (second : program.wp service guarantee' post' s) :
    program.wp service (fun u op v => guarantee u op v ∧ guarantee' u op v)
      (fun outcome t => post outcome t ∧ post' outcome t) s := by
  induction program generalizing s with
  | ret value => exact ⟨first, second⟩
  | fail error => exact ⟨first, second⟩
  | call op next ih =>
      intro answer t answered
      obtain ⟨kept, rest⟩ := first answer t answered
      obtain ⟨kept', rest'⟩ := second answer t answered
      exact ⟨⟨kept, kept'⟩, ih answer rest rest'⟩

/-- Every completed run meets the postcondition. -/
theorem Exec.post {program : Program Op Res ε α} {s t : σ} {outcome : Except ε α}
    (run : Exec service program s outcome t) {post : Except ε α → σ → Prop}
    (holds : program.wp service guarantee post s) : post outcome t := by
  induction run with
  | ret value s => exact holds
  | fail error s => exact holds
  | call answered _ ih => exact ih (holds _ _ answered).2

/-- Every call of every run meets the guarantee. -/
theorem Issues.meets {program : Program Op Res ε α} {s u v : σ} {op : Op}
    (issued : Issues service program s u op v) {post : Except ε α → σ → Prop}
    (holds : program.wp service guarantee post s) : guarantee u op v := by
  induction issued with
  | here answered => exact (holds _ _ answered).1
  | later answered _ ih => exact ih (holds _ _ answered).2

/-- A property of the first state that every call restores holds wherever the
program is interrupted. -/
theorem Reaches.of_wp {program : Program Op Res ε α} {s t : σ}
    (reached : Reaches service program s t) {safe : σ → Prop} {post : Except ε α → σ → Prop}
    (initial : safe s) (holds : program.wp service (fun _ _ v => safe v) post s) : safe t := by
  rcases reached with rfl | ⟨u, op, issued⟩
  · exact initial
  · exact issued.meets holds

/-- What relates the states around every call relates the first state to every one
passed. -/
theorem wp_related {program : Program Op Res ε α} {post : Except ε α → σ → Prop} {s start : σ}
    {related : σ → σ → Prop} (holds : program.wp service guarantee post s)
    (trans : ∀ u v x, related u v → related v x → related u x)
    (step : ∀ u op answer v, guarantee u op v → service u op answer v → related u v)
    (here : related start s) :
    program.wp service (fun _ _ v => related start v) (fun _ t => related start t) s := by
  induction program generalizing s with
  | ret value => exact here
  | fail error => exact here
  | call op next ih =>
      intro answer t answered
      obtain ⟨kept, rest⟩ := holds answer t answered
      have there := trans _ _ _ here (step s op answer t kept answered)
      exact ⟨there, ih answer rest there⟩

/-- The last state of a run is one the program passes. -/
theorem Exec.reaches {program : Program Op Res ε α} {s t : σ} {outcome : Except ε α}
    (run : Exec service program s outcome t) : Reaches service program s t := by
  induction run with
  | ret value s => exact Or.inl rfl
  | fail error s => exact Or.inl rfl
  | call answered _ ih =>
      rcases ih with rfl | ⟨u, op, issued⟩
      · exact Or.inr ⟨_, _, .here answered⟩
      · exact Or.inr ⟨u, op, .later answered issued⟩

/-- A property of all completed runs and all calls is a weakest precondition. -/
theorem wp_of_exec {program : Program Op Res ε α} {s : σ} {post : Except ε α → σ → Prop}
    (completes : ∀ outcome t, Exec service program s outcome t → post outcome t)
    (calls : ∀ u op v, Issues service program s u op v → guarantee u op v) :
    program.wp service guarantee post s := by
  induction program generalizing s with
  | ret value => exact completes _ _ (.ret value s)
  | fail error => exact completes _ _ (.fail error s)
  | call op next ih =>
      intro answer t answered
      exact ⟨calls _ _ _ (.here answered),
        ih answer (fun outcome u run => completes outcome u (.call answered run))
          (fun u op v issued => calls u op v (.later answered issued))⟩

/-- Sequencing two runs. -/
theorem Exec.bind {program : Program Op Res ε α} {rest : α → Program Op Res ε β} {s t u : σ}
    {value : α} {outcome : Except ε β} (first : Exec service program s (.ok value) t)
    (second : Exec service (rest value) t outcome u) :
    Exec service (program >>= rest) s outcome u := by
  change Exec service (program.bind rest) s outcome u
  generalize result : (Except.ok value : Except ε α) = reached at first
  induction first with
  | ret value' s => cases result; exact second
  | fail error s => cases result
  | call answered _ ih => exact .call answered (ih second result)

/-- An error of the first program is the error of the sequence. -/
theorem Exec.bind_error {program : Program Op Res ε α} {rest : α → Program Op Res ε β} {s t : σ}
    {error : ε} (first : Exec service program s (.error error) t) :
    Exec service (program >>= rest) s (.error error) t := by
  change Exec service (program.bind rest) s (.error error) t
  generalize result : (Except.error error : Except ε α) = reached at first
  induction first with
  | ret value' s => cases result
  | fail error' s => cases result; exact .fail _ _
  | call answered _ ih => exact .call answered (ih result)

/-- A guarded program that returns is left alone by its handler. -/
theorem Exec.tryCatch_ok {program : Program Op Res ε α} {handler : ε → Program Op Res ε α} {s t : σ}
    {value : α} (first : Exec service program s (.ok value) t) :
    Exec service (tryCatch program handler) s (.ok value) t := by
  change Exec service (program.handle handler) s (.ok value) t
  generalize result : (Except.ok value : Except ε α) = reached at first
  induction first with
  | ret value' s => cases result; exact .ret _ _
  | fail error s => cases result
  | call answered _ ih => exact .call answered (ih result)

/-- A guarded program that raises continues in its handler. -/
theorem Exec.tryCatch_error {program : Program Op Res ε α} {handler : ε → Program Op Res ε α}
    {s t u : σ} {error : ε} {outcome : Except ε α}
    (first : Exec service program s (.error error) t)
    (second : Exec service (handler error) t outcome u) :
    Exec service (tryCatch program handler) s outcome u := by
  change Exec service (program.handle handler) s outcome u
  generalize result : (Except.error error : Except ε α) = reached at first
  induction first with
  | ret value' s => cases result
  | fail error' s => cases result; exact second
  | call answered _ ih => exact .call answered (ih second result)

/-- A call ends with what the service answers. -/
theorem Exec.perform {op : Op} {s t : σ} {answer : Except ε (Res op)}
    (answered : service s op answer t) : Exec service (perform op) s answer t := by
  refine .call answered ?_
  cases answer with
  | ok result => exact .ret _ _
  | error error => exact .fail _ _

/-- A run of a sequence is one of each part, or ends with the first. -/
theorem Exec.of_bind {program : Program Op Res ε α} {rest : α → Program Op Res ε β} {s u : σ}
    {outcome : Except ε β} (run : Exec service (program >>= rest) s outcome u) :
    (∃ value t, Exec service program s (.ok value) t ∧ Exec service (rest value) t outcome u) ∨
      ∃ error, outcome = .error error ∧ Exec service program s (.error error) u := by
  change Exec service (program.bind rest) s outcome u at run
  induction program generalizing s with
  | ret value => exact Or.inl ⟨value, s, .ret _ _, run⟩
  | fail error =>
      cases run
      exact Or.inr ⟨error, rfl, .fail _ _⟩
  | call op next ih =>
      cases run with
      | call answered later =>
          rcases ih _ later with ⟨value, t, first, second⟩ | ⟨error, same, first⟩
          · exact Or.inl ⟨value, t, .call answered first, second⟩
          · exact Or.inr ⟨error, same, .call answered first⟩

/-- A run of a guarded program returns, or continues in the handler. -/
theorem Exec.of_tryCatch {program : Program Op Res ε α} {handler : ε → Program Op Res ε α}
    {s u : σ} {outcome : Except ε α} (run : Exec service (tryCatch program handler) s outcome u) :
    (∃ value, outcome = .ok value ∧ Exec service program s (.ok value) u) ∨
      ∃ error t, Exec service program s (.error error) t ∧
        Exec service (handler error) t outcome u := by
  change Exec service (program.handle handler) s outcome u at run
  induction program generalizing s with
  | ret value =>
      cases run
      exact Or.inl ⟨value, rfl, .ret _ _⟩
  | fail error => exact Or.inr ⟨error, s, .fail _ _, run⟩
  | call op next ih =>
      cases run with
      | call answered later =>
          rcases ih _ later with ⟨value, same, first⟩ | ⟨error, t, first, second⟩
          · exact Or.inl ⟨value, same, .call answered first⟩
          · exact Or.inr ⟨error, t, .call answered first, second⟩

/-- The run of one call is its answer. -/
theorem Exec.of_perform {op : Op} {s t : σ} {answer : Except ε (Res op)}
    (run : Exec service (Program.perform op) s answer t) : service s op answer t := by
  cases run with
  | @call _ _ _ _ _ given _ answered later =>
      cases given with
      | ok result => cases later; exact answered
      | error error => cases later; exact answered

/-- Where every call is answered every program has a run. -/
theorem exec_exists (answers : ∀ s op, ∃ answer t, service s op answer t)
    (program : Program Op Res ε α) (s : σ) : ∃ outcome t, Exec service program s outcome t := by
  induction program generalizing s with
  | ret value => exact ⟨_, _, .ret value s⟩
  | fail error => exact ⟨_, _, .fail error s⟩
  | call op next ih =>
      obtain ⟨answer, t, answered⟩ := answers s op
      obtain ⟨outcome, u, run⟩ := ih answer t
      exact ⟨outcome, u, .call answered run⟩

/-- A call of the first program is one of the sequence. -/
theorem Issues.bind_left {program : Program Op Res ε α} {s u v : σ} {op : Op}
    (issued : Issues service program s u op v) (rest : α → Program Op Res ε β) :
    Issues service (program >>= rest) s u op v := by
  change Issues service (program.bind rest) s u op v
  induction issued with
  | here answered => exact .here answered
  | later answered _ ih => exact .later answered ih

/-- Once the first program has returned, a call of the rest is one of the sequence. -/
theorem Issues.bind_right {program : Program Op Res ε α} {rest : α → Program Op Res ε β}
    {s t u v : σ} {value : α} {op : Op} (first : Exec service program s (.ok value) t)
    (issued : Issues service (rest value) t u op v) :
    Issues service (program >>= rest) s u op v := by
  change Issues service (program.bind rest) s u op v
  generalize result : (Except.ok value : Except ε α) = reached at first
  induction first with
  | ret value' s => cases result; exact issued
  | fail error s => cases result
  | call answered _ ih => exact .later answered (ih issued result)

/-- A call of a guarded program is still made. -/
theorem Issues.tryCatch_left {program : Program Op Res ε α} {s u v : σ} {op : Op}
    (issued : Issues service program s u op v) (handler : ε → Program Op Res ε α) :
    Issues service (tryCatch program handler) s u op v := by
  change Issues service (program.handle handler) s u op v
  induction issued with
  | here answered => exact .here answered
  | later answered _ ih => exact .later answered ih

/-- A call of a sequence is one of its first program, or one of the rest. -/
theorem Issues.of_bind {program : Program Op Res ε α} {rest : α → Program Op Res ε β} {s u v : σ}
    {op : Op} (issued : Issues service (program >>= rest) s u op v) :
    Issues service program s u op v ∨
      ∃ value t, Exec service program s (.ok value) t ∧ Issues service (rest value) t u op v := by
  change Issues service (program.bind rest) s u op v at issued
  induction program generalizing s with
  | ret value => exact Or.inr ⟨value, s, .ret _ _, issued⟩
  | fail error => cases issued
  | call first next ih =>
      cases issued with
      | here answered => exact Or.inl (.here answered)
      | later answered more =>
          rcases ih _ more with inside | ⟨value, t, run, after⟩
          · exact Or.inl (.later answered inside)
          · exact Or.inr ⟨value, t, .call answered run, after⟩

/-- A service that allows more has every run of one that allows less. -/
theorem Exec.mono {service' : Service Op Res ε σ} {program : Program Op Res ε α} {s t : σ}
    {outcome : Except ε α} (wider : ∀ s op answer t, service s op answer t → service' s op answer t)
    (run : Exec service program s outcome t) : Exec service' program s outcome t := by
  induction run with
  | ret value s => exact .ret _ _
  | fail error s => exact .fail _ _
  | call answered _ ih => exact .call (wider _ _ _ _ answered) ih

/-- A run is a run of any service that answers the calls made on it alike. -/
theorem Exec.restrict {service' : Service Op Res ε σ} {program : Program Op Res ε α} {s t : σ}
    {outcome : Except ε α} (run : Exec service program s outcome t)
    (alike : ∀ u op v, Issues service program s u op v → ∀ answer x, service u op answer x →
      service' u op answer x) : Exec service' program s outcome t := by
  induction run with
  | ret value s => exact .ret _ _
  | fail error s => exact .fail _ _
  | call answered _ ih =>
      exact .call (alike _ _ _ (.here answered) _ _ answered)
        (ih fun u op v issued => alike u op v (.later answered issued))

end Rules

/-! ## Operations a program uses -/

/-- Every call of the program, whatever the answers before it, is of an allowed
operation. -/
def Uses (allowed : Op → Prop) : Program Op Res ε α → Prop
  | .ret _ => True
  | .fail _ => True
  | .call op next => allowed op ∧ ∀ answer, (next answer).Uses allowed

section Uses

variable {allowed allowed' : Op → Prop} {service : Service Op Res ε σ}

@[simp] theorem uses_pure (value : α) : (pure value : Program Op Res ε α).Uses allowed := trivial

@[simp] theorem uses_throw (error : ε) : (throw error : Program Op Res ε α).Uses allowed :=
  trivial

/-- A call uses itself. -/
theorem uses_perform {op : Op} (use : allowed op) :
    (perform op : Program Op Res ε (Res op)).Uses allowed := by
  refine ⟨use, fun answer => ?_⟩
  cases answer <;> trivial

/-- Programs that use only what is allowed do so one after the other. -/
theorem Uses.bind {program : Program Op Res ε α} {rest : α → Program Op Res ε β}
    (first : program.Uses allowed) (second : ∀ value, (rest value).Uses allowed) :
    (program >>= rest).Uses allowed := by
  change (program.bind rest).Uses allowed
  induction program with
  | ret value => exact second value
  | fail error => trivial
  | call op next ih => exact ⟨first.1, fun answer => ih answer (first.2 answer)⟩

/-- A program and its handler that use only what is allowed do so together. -/
theorem Uses.tryCatch {program : Program Op Res ε α} {handler : ε → Program Op Res ε α}
    (first : program.Uses allowed) (second : ∀ error, (handler error).Uses allowed) :
    (tryCatch program handler).Uses allowed := by
  change (program.handle handler).Uses allowed
  induction program with
  | ret value => trivial
  | fail error => exact second error
  | call op next ih => exact ⟨first.1, fun answer => ih answer (first.2 answer)⟩

/-- Both branches use only what is allowed where they are taken. -/
theorem Uses.ite {condition : Prop} [Decidable condition] {first second : Program Op Res ε α}
    (left : condition → first.Uses allowed) (right : ¬ condition → second.Uses allowed) :
    (if condition then first else second).Uses allowed := by
  split
  · next holds => exact left holds
  · next fails => exact right fails

/-- A loop uses only what is allowed if each of its steps does, whatever value it has come to. -/
theorem Uses.foldlM {step : β → α → Program Op Res ε β} {elements : List α}
    (each : ∀ value, ∀ element ∈ elements, (step value element).Uses allowed) (value : β) :
    (elements.foldlM step value).Uses allowed := by
  induction elements generalizing value with
  | nil => trivial
  | cons element rest ih =>
      rw [List.foldlM_cons]
      exact .bind (each value element List.mem_cons_self) fun value' =>
        ih (fun value element member => each value element (List.mem_cons_of_mem _ member)) value'

/-- A loop uses only what is allowed if each of its steps does. -/
theorem Uses.forM {step : α → Program Op Res ε PUnit} {elements : List α}
    (each : ∀ element ∈ elements, (step element).Uses allowed) :
    (elements.forM step).Uses allowed := by
  induction elements with
  | nil => trivial
  | cons element rest ih =>
      exact .bind (each element List.mem_cons_self) fun _ =>
        ih fun element member => each element (List.mem_cons_of_mem _ member)

/-- A program that uses only what is allowed does so if more is allowed. -/
theorem Uses.mono {program : Program Op Res ε α} (uses : program.Uses allowed)
    (wider : ∀ op, allowed op → allowed' op) : program.Uses allowed' := by
  induction program with
  | ret value => trivial
  | fail error => trivial
  | call op next ih => exact ⟨wider op uses.1, fun answer => ih answer (uses.2 answer)⟩

/-- Every program uses only some operations. -/
theorem uses_anything (program : Program Op Res ε α) : program.Uses fun _ => True := by
  induction program with
  | ret value => trivial
  | fail error => trivial
  | call op next ih => exact ⟨trivial, ih⟩

/-- Every call of every run is of an allowed operation. -/
theorem Issues.uses {program : Program Op Res ε α} {s u v : σ} {op : Op}
    (issued : Issues service program s u op v) (uses : program.Uses allowed) : allowed op := by
  induction issued with
  | here _ => exact uses.1
  | later _ _ ih => exact ih (uses.2 _)

/-- A service that answers the operations used only as another does gives the same guarantees. -/
theorem Uses.wp_of {service' : Service Op Res ε σ} {guarantee : σ → Op → σ → Prop}
    {program : Program Op Res ε α} {post : Except ε α → σ → Prop} {s : σ}
    (uses : program.Uses allowed)
    (only : ∀ s op answer t, allowed op → service' s op answer t → service s op answer t)
    (holds : program.wp service guarantee post s) : program.wp service' guarantee post s := by
  induction program generalizing s with
  | ret value => exact holds
  | fail error => exact holds
  | call op next ih =>
      intro answer t answered
      obtain ⟨kept, rest⟩ := holds answer t (only s op answer t uses.1 answered)
      exact ⟨kept, ih answer (uses.2 answer) rest⟩

/-- What every allowed operation keeps holds at every call and at the end. -/
theorem Uses.wp {program : Program Op Res ε α} {safe : σ → Prop} {s : σ}
    (uses : program.Uses allowed)
    (kept : ∀ s op answer t, allowed op → safe s → service s op answer t → safe t)
    (here : safe s) :
    program.wp service (passing safe) (ending (fun _ => safe) fun _ => safe) s := by
  induction program generalizing s with
  | ret value => exact here
  | fail error => exact here
  | call op next ih =>
      intro answer t answered
      have there := kept s op answer t uses.1 here answered
      exact ⟨there, ih answer (uses.2 answer) there⟩

end Uses

/-! ## Implementations and faults -/

/-- Calls answered by a function, except that a call may also raise any error its
fault relation allows, leaving the state alone. -/
def withFaults (implementation : (op : Op) → σ → Except ε (Res op) × σ)
    (fault : σ → Op → ε → Prop) : Service Op Res ε σ := fun s op answer t =>
  implementation op s = (answer, t) ∨ ∃ error, fault s op error ∧ answer = .error error ∧ t = s

/-- No call fails beyond what the implementation itself answers. -/
def noFaults : σ → Op → ε → Prop := fun _ _ _ => False

section Faults

variable {implementation : (op : Op) → σ → Except ε (Res op) × σ} {fault : σ → Op → ε → Prop}
  {guarantee : σ → Op → σ → Prop}

/-- One call that may fail: what its implementation answers and every possible fault meet the
postcondition. -/
theorem wp_perform_withFaults (op : Op) (post : Except ε (Res op) → σ → Prop) (s : σ) :
    (perform op : Program Op Res ε (Res op)).wp (withFaults implementation fault) guarantee post s ↔
      (guarantee s op (implementation op s).2 ∧
        post (implementation op s).1 (implementation op s).2) ∧
      ∀ error, fault s op error → guarantee s op s ∧ post (.error error) s := by
  rw [wp_perform]
  constructor
  · intro holds
    exact ⟨holds _ _ (Or.inl rfl), fun error failed =>
      holds _ _ (Or.inr ⟨error, failed, rfl, rfl⟩)⟩
  · rintro ⟨answered, failing⟩ answer t (equal | ⟨error, failed, rfl, rfl⟩)
    · rw [equal] at answered
      exact answered
    · exact failing error failed

/-- The run in which no call fails. -/
def run (implementation : (op : Op) → σ → Except ε (Res op) × σ) :
    Program Op Res ε α → σ → Except ε α × σ
  | .ret value, s => (.ok value, s)
  | .fail error, s => (.error error, s)
  | .call op next, s =>
      (next (implementation op s).1).run implementation (implementation op s).2

/-- The faultless run is a run, whatever faults are possible. -/
theorem exec_run (program : Program Op Res ε α) (s : σ) :
    Exec (withFaults implementation fault) program s (program.run implementation s).1
      (program.run implementation s).2 := by
  induction program generalizing s with
  | ret value => exact .ret _ _
  | fail error => exact .fail _ _
  | call op next ih => exact .call (Or.inl rfl) (ih _ _)

/-- Without faults a program has exactly one run. -/
theorem exec_noFaults_iff {program : Program Op Res ε α} {s t : σ} {outcome : Except ε α} :
    Exec (withFaults implementation noFaults) program s outcome t ↔
      program.run implementation s = (outcome, t) := by
  constructor
  · intro execution
    induction execution with
    | ret value s => rfl
    | fail error s => rfl
    | call answered _ ih =>
        rcases answered with equal | ⟨_, impossible, _⟩
        · rw [run, equal]
          exact ih
        · exact impossible.elim
  · intro equal
    have execution : Exec (withFaults implementation noFaults) program s
        (program.run implementation s).1 (program.run implementation s).2 := exec_run program s
    rwa [equal] at execution

/-- The run in which the calls fail as scripted, where the fault relation lets
them; calls beyond the script are answered. -/
def runScript (implementation : (op : Op) → σ → Except ε (Res op) × σ) (fault : σ → Op → ε → Prop)
    [∀ s op error, Decidable (fault s op error)] :
    Program Op Res ε α → List (Option ε) → σ → Except ε α × σ
  | .ret value, _, s => (.ok value, s)
  | .fail error, _, s => (.error error, s)
  | .call op next, script, s =>
      match script with
      | some error :: rest =>
          if fault s op error then (next (.error error)).runScript implementation fault rest s
          else (next (implementation op s).1).runScript implementation fault rest
            (implementation op s).2
      | none :: rest =>
          (next (implementation op s).1).runScript implementation fault rest (implementation op s).2
      | [] =>
          (next (implementation op s).1).runScript implementation fault [] (implementation op s).2

/-- Every scripted run is a run. -/
theorem exec_runScript [∀ s op error, Decidable (fault s op error)]
    (program : Program Op Res ε α) (script : List (Option ε)) (s : σ) :
    Exec (withFaults implementation fault) program s
      (program.runScript implementation fault script s).1
      (program.runScript implementation fault script s).2 := by
  induction program generalizing script s with
  | ret value => exact .ret _ _
  | fail error => exact .fail _ _
  | call op next ih =>
      rcases script with _ | ⟨_ | error, rest⟩
      · exact .call (Or.inl rfl) (ih _ _ _)
      · exact .call (Or.inl rfl) (ih _ _ _)
      · by_cases failed : fault s op error
        · simp only [runScript, failed, ↓reduceIte]
          exact .call (Or.inr ⟨error, failed, rfl, rfl⟩) (ih _ _ _)
        · simp only [runScript, failed, ↓reduceIte]
          exact .call (Or.inl rfl) (ih _ _ _)

/-- A postcondition of every run is reached by the faultless one. -/
theorem post_run {program : Program Op Res ε α} {s : σ} {post : Except ε α → σ → Prop}
    (holds : program.wp (withFaults implementation fault) guarantee post s) :
    post (program.run implementation s).1 (program.run implementation s).2 :=
  (exec_run program s).post holds

end Faults

end Program

end Foundation
