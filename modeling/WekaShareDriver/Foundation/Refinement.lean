import WekaShareDriver.Foundation.Interference

/-! # Programs that stand for others

A thread that reaches its aim in many small steps stands for one that takes few: the other program,
its shadow, is run along with it, some calls of it at each step, such that the states of the two
stay related and both end alike (`Foundation.Program.follows`). Threads that each stand for another
amid interference do so together: every interleaving of the small steps is matched by one of the
large (`Foundation.Interleaves.refines`).
-/

namespace Foundation

variable {Op Op' : Type} {Res : Op → Type} {Res' : Op' → Type} {ε α β γ σ σ' : Type}
  {related : σ → σ' → Prop}

/-- Some calls of a program, answered by a service. -/
inductive Advances (service : Service Op Res ε σ) :
    Program Op Res ε α → σ → Program Op Res ε α → σ → Prop where
  | refl (program : Program Op Res ε α) (s : σ) : Advances service program s program s
  | call {op : Op} {next : Except ε (Res op) → Program Op Res ε α} {rest : Program Op Res ε α}
      {s t u : σ} {answer : Except ε (Res op)} : service s op answer t →
      Advances service (next answer) t rest u → Advances service (.call op next) s rest u

/-- Two services whose states are related, what others may do to the first one's state, and what is
owed to them. -/
structure Refinement (Op : Type) (Res : Op → Type) (Op' : Type) (Res' : Op' → Type) (ε : Type)
    (related : σ → σ' → Prop) where
  service : Service Op Res ε σ
  service' : Service Op' Res' ε σ'
  rely : Rely σ
  guarantee : σ → Op → σ → Prop

/-- A step is matched by some calls of a shadow. -/
def Refinement.Step (refinement : Refinement Op Res Op' Res' ε related) (t u : σ)
    (shadow rest : Program Op' Res' ε γ) : Prop :=
  ∀ t', related t t' →
    ∃ u', related u u' ∧ Advances refinement.service' shadow t' rest u'

/-- A step that the shadow does nothing for. -/
theorem Refinement.Step.refl {refinement : Refinement Op Res Op' Res' ε related} {t u : σ}
    {shadow : Program Op' Res' ε γ}
    (unseen : ∀ t', related t t' → related u t') :
    refinement.Step t u shadow shadow :=
  fun t' related => ⟨t', unseen t' related, .refl shadow t'⟩

/-- A step that the shadow makes one call for. -/
theorem Refinement.Step.call {refinement : Refinement Op Res Op' Res' ε related} {t u : σ}
    {op : Op'} {next : Except ε (Res' op) → Program Op' Res' ε γ} {answer : Except ε (Res' op)}
    (done : ∀ t', related t t' →
      ∃ u', related u u' ∧ refinement.service' t' op answer u') :
    refinement.Step t u (.call op next) (next answer) := by
  intro t' related
  obtain ⟨u', related', answered⟩ := done t' related
  exact ⟨u', related', .call answered (.refl _ _)⟩

namespace Program

/-- Amid others, every call meets the guarantee and is matched by the shadow; the postcondition is
about what is left of the shadow and the state. -/
def follows (refinement : Refinement Op Res Op' Res' ε related) : Program Op Res ε α →
    (Except ε α → Program Op' Res' ε γ × σ → Prop) → Program Op' Res' ε γ × σ → Prop
  | .ret value, post, s => post (.ok value) s
  | .fail error, post, s => post (.error error) s
  | .call op next, post, s => ∀ t answer u, refinement.rely.may s.2 t →
      refinement.service t op answer u → refinement.guarantee t op u ∧
        ∃ rest, refinement.Step t u s.1 rest ∧ (next answer).follows refinement post (rest, u)

section Rules

variable {refinement : Refinement Op Res Op' Res' ε related}

@[simp] theorem follows_pure (value : α) (post : Except ε α → Program Op' Res' ε γ × σ → Prop)
    (s : Program Op' Res' ε γ × σ) :
    (pure value : Program Op Res ε α).follows refinement post s = post (.ok value) s := rfl

@[simp] theorem follows_throw (error : ε) (post : Except ε α → Program Op' Res' ε γ × σ → Prop)
    (s : Program Op' Res' ε γ × σ) :
    (throw error : Program Op Res ε α).follows refinement post s = post (.error error) s := rfl

/-- Programs one after the other follow the abstract program one after the other. -/
theorem follows_bind (program : Program Op Res ε α) (rest : α → Program Op Res ε β)
    (post : Except ε β → Program Op' Res' ε γ × σ → Prop) (s : Program Op' Res' ε γ × σ) :
    (program >>= rest).follows refinement post s =
      program.follows refinement
        (onOk (fun value => (rest value).follows refinement post) post) s := by
  change (program.bind rest).follows refinement post s = _
  induction program generalizing s with
  | ret value => rfl
  | fail error => rfl
  | call op next ih =>
      simp only [Program.bind, follows]
      exact propext (forall_congr' fun t => forall_congr' fun answer => forall_congr' fun u =>
        imp_congr_right fun _ => imp_congr_right fun _ => and_congr_right fun _ =>
          exists_congr fun shadow => and_congr_right fun _ => by rw [ih])

/-- A handler goes on to follow the abstract program where its program raised. -/
theorem follows_tryCatch (program : Program Op Res ε α) (handler : ε → Program Op Res ε α)
    (post : Except ε α → Program Op' Res' ε γ × σ → Prop) (s : Program Op' Res' ε γ × σ) :
    (tryCatch program handler).follows refinement post s =
      program.follows refinement
        (onError (fun error => (handler error).follows refinement post) post) s := by
  change (program.handle handler).follows refinement post s = _
  induction program generalizing s with
  | ret value => rfl
  | fail error => rfl
  | call op next ih =>
      simp only [Program.handle, follows]
      exact propext (forall_congr' fun t => forall_congr' fun answer => forall_congr' fun u =>
        imp_congr_right fun _ => imp_congr_right fun _ => and_congr_right fun _ =>
          exists_congr fun shadow => and_congr_right fun _ => by rw [ih])

/-- One call amid others: it meets the guarantee and is a step of the abstract program. -/
theorem follows_perform (op : Op) (post : Except ε (Res op) → Program Op' Res' ε γ × σ → Prop)
    (s : Program Op' Res' ε γ × σ) :
    (perform op : Program Op Res ε (Res op)).follows refinement post s ↔
      ∀ t answer u, refinement.rely.may s.2 t → refinement.service t op answer u →
        refinement.guarantee t op u ∧
          ∃ rest, refinement.Step t u s.1 rest ∧ post answer (rest, u) := by
  refine forall_congr' fun t => forall_congr' fun answer => forall_congr' fun u =>
    imp_congr_right fun _ => imp_congr_right fun _ => and_congr_right fun _ =>
      exists_congr fun rest => and_congr_right fun _ => ?_
  cases answer <;> rfl

/-- A program that follows the abstract one does so with a weaker postcondition. -/
theorem follows_consequence {program : Program Op Res ε α}
    {post post' : Except ε α → Program Op' Res' ε γ × σ → Prop} {s : Program Op' Res' ε γ × σ}
    (holds : program.follows refinement post s)
    (posts : ∀ outcome t, post outcome t → post' outcome t) :
    program.follows refinement post' s := by
  induction program generalizing s with
  | ret value => exact posts _ _ holds
  | fail error => exact posts _ _ holds
  | call op next ih =>
      intro t answer u moved answered
      obtain ⟨kept, rest, step, later⟩ := holds t answer u moved answered
      exact ⟨kept, rest, step, ih answer later⟩

/-- Sequencing through an intermediate assertion. -/
theorem follows_bind_of {program : Program Op Res ε α} {rest : α → Program Op Res ε β}
    {done : β → Program Op' Res' ε γ × σ → Prop} {raised : ε → Program Op' Res' ε γ × σ → Prop}
    {s : Program Op' Res' ε γ × σ} (middle : α → Program Op' Res' ε γ × σ → Prop)
    (first : program.follows refinement (ending middle raised) s)
    (second : ∀ value t, middle value t →
      (rest value).follows refinement (ending done raised) t) :
    (program >>= rest).follows refinement (ending done raised) s := by
  rw [follows_bind, onOk_ending]
  refine follows_consequence first fun outcome t ended => ?_
  cases outcome with
  | ok value => exact second value t ended
  | error error => exact ended

/-- Handling an error through an assertion about it. -/
theorem follows_tryCatch_of {program : Program Op Res ε α} {handler : ε → Program Op Res ε α}
    {done : α → Program Op' Res' ε γ × σ → Prop} {raised : ε → Program Op' Res' ε γ × σ → Prop}
    {s : Program Op' Res' ε γ × σ} (caught : ε → Program Op' Res' ε γ × σ → Prop)
    (first : program.follows refinement (ending done caught) s)
    (second : ∀ error t, caught error t →
      (handler error).follows refinement (ending done raised) t) :
    (tryCatch program handler).follows refinement (ending done raised) s := by
  rw [follows_tryCatch, onError_ending]
  refine follows_consequence first fun outcome t ended => ?_
  cases outcome with
  | ok value => exact ended
  | error error => exact second error t ended

/-- What a program follows it follows after the others have been at work, if the postcondition
lasts. -/
theorem follows_of_may {program : Program Op Res ε α}
    {post : Except ε α → Program Op' Res' ε γ × σ → Prop} {shadow : Program Op' Res' ε γ} {s t : σ}
    (lasting : ∀ outcome shadow u v, post outcome (shadow, u) → refinement.rely.may u v →
      post outcome (shadow, v))
    (moved : refinement.rely.may s t) (holds : program.follows refinement post (shadow, s)) :
    program.follows refinement post (shadow, t) := by
  cases program with
  | ret value => exact lasting _ _ _ _ holds moved
  | fail error => exact lasting _ _ _ _ holds moved
  | call op next =>
      intro u answer v later answered
      exact holds u answer v (refinement.rely.trans _ _ _ moved later) answered

/-- A program that a shadow follows keeps its guarantee. -/
theorem amid_of_follows {program : Program Op Res ε α}
    {post : Except ε α → Program Op' Res' ε γ × σ → Prop} {shadow : Program Op' Res' ε γ} {s : σ}
    (holds : program.follows refinement post (shadow, s)) :
    program.amid refinement.service refinement.rely refinement.guarantee
      (fun outcome t => ∃ rest, post outcome (rest, t)) s := by
  induction program generalizing shadow s with
  | ret value => exact ⟨shadow, holds⟩
  | fail error => exact ⟨shadow, holds⟩
  | call op next ih =>
      intro t answer u moved answered
      obtain ⟨kept, rest, -, later⟩ := holds t answer u moved answered
      exact ⟨kept, ih answer later⟩

end Rules

end Program

/-! ## Threads -/

namespace Interleaves

open Program

variable {ι : Type} [DecidableEq ι] {results : ι → Type}

/-- One thread makes some calls in a row. -/
theorem advances {service : ι → Service Op Res ε σ} {start pool : Pool Op Res ε σ results}
    (reached : Interleaves service start pool) {i : ι} {rest : Program Op Res ε (results i)} {t : σ}
    (advanced : Advances (service i) (pool.threads i) pool.state rest t) :
    Interleaves service start (pool.advance i rest t) := by
  generalize held : pool.threads i = program at advanced
  generalize here : pool.state = s at advanced
  induction advanced generalizing pool with
  | refl program s =>
      subst held here
      have same : pool.advance i (pool.threads i) pool.state = pool := by
        rw [Pool.advance, Function.update_eq_self]
      rwa [same]
  | @call op next rest s t u answer answered _ ih =>
      subst here
      have stepped := ih (reached.step held answered) (Function.update_self ..) rfl
      rwa [Pool.advance, Pool.advance, Function.update_idem] at stepped

/-- If what each thread guarantees is what the others rely on, every interleaving of the threads is
matched by one of their shadows. -/
theorem refines {refinement : ι → Refinement Op Res Op' Res' ε related} {results' : ι → Type}
    {start pool : Pool Op Res ε σ results}
    {start' : Pool Op' Res' ε σ' results'}
    {post : (i : ι) → Except ε (results i) → Program Op' Res' ε (results' i) × σ → Prop}
    (reached : Interleaves (fun i => (refinement i).service) start pool)
    (initial : related start.state start'.state)
    (holds : ∀ i, (start.threads i).follows (refinement i) (post i)
      (start'.threads i, start.state))
    (lasting : ∀ i outcome shadow s t, post i outcome (shadow, s) →
      (refinement i).rely.may s t → post i outcome (shadow, t))
    (compatible : ∀ i j, j ≠ i → ∀ s op answer t, (refinement i).service s op answer t →
      (refinement i).guarantee s op t → (refinement j).rely.may s t) :
    ∃ pool', Interleaves (fun i => (refinement i).service') start' pool' ∧
      related pool.state pool'.state ∧
      ∀ i, (pool.threads i).follows (refinement i) (post i) (pool'.threads i, pool.state) := by
  induction reached with
  | start => exact ⟨start', .start, initial, holds⟩
  | @step pool k op next answer t _ ready answered ih =>
      obtain ⟨pool', reached', same, follow⟩ := ih
      have turn := follow k
      rw [ready] at turn
      obtain ⟨kept, rest, step, later⟩ :=
        turn pool.state answer t ((refinement k).rely.refl _) answered
      obtain ⟨t', same', advanced⟩ := step pool'.state same
      refine ⟨pool'.advance k rest t', reached'.advances advanced, same', fun i => ?_⟩
      by_cases equal : i = k
      · subst equal
        change (Function.update pool.threads i (next answer) i).follows _ _
          (Function.update pool'.threads i rest i, t)
        rw [Function.update_self, Function.update_self]
        exact later
      · change (Function.update pool.threads k (next answer) i).follows _ _
          (Function.update pool'.threads k rest i, t)
        rw [Function.update_of_ne equal, Function.update_of_ne equal]
        exact follows_of_may (lasting i) (compatible k i equal _ _ _ _ answered kept) (follow i)

end Interleaves

end Foundation
