import WekaShareDriver.Foundation.Program

/-! # Programs a disturbance does not lead astray

A service may be disturbed: it then allows more answers than it should. A program
tracks the undisturbed service if, as long as its undisturbed run meets a guarantee,
it has no other run (`Foundation.Program.Tracks`). Conversely a program whose
disturbed runs all end like the undisturbed one (`Foundation.Program.Agrees`) may be
followed call by call, up to the first whose disturbance it does not recover from.
-/

namespace Foundation.Program

variable {Op : Type} {Res : Op → Type} {ε α β σ : Type}

/-- Where the undisturbed runs meet a guarantee, there are no other runs. -/
def Tracks (calm disturbed : Service Op Res ε σ) (guarantee : σ → Op → σ → Prop)
    (program : Program Op Res ε α) : Prop :=
  ∀ s, program.wp calm guarantee (fun _ _ => True) s →
    ∀ outcome t, Exec disturbed program s outcome t → Exec calm program s outcome t

/-- From a state, every disturbed run ends like every undisturbed one. -/
def Agrees (calm disturbed : Service Op Res ε σ) (same : Except ε α → Except ε α → Prop)
    (alike : σ → σ → Prop) (program : Program Op Res ε α) (s : σ) : Prop :=
  ∀ outcome t outcome' t', Exec disturbed program s outcome t →
    Exec calm program s outcome' t' → same outcome outcome' ∧ alike t t'

variable {calm disturbed : Service Op Res ε σ} {guarantee : σ → Op → σ → Prop}

namespace Tracks

/-- Returning keeps to the calm run. -/
theorem pure (value : α) :
    Tracks calm disturbed guarantee (Pure.pure value : Program Op Res ε α) := by
  intro s _ outcome t run
  cases run
  exact .ret _ _

/-- Raising keeps to the calm run. -/
theorem throw (error : ε) :
    Tracks calm disturbed guarantee (MonadExcept.throw error : Program Op Res ε α) := by
  intro s _ outcome t run
  cases run
  exact .fail _ _

/-- A program whose calls are answered alike under the guarantee. -/
theorem of_uses {program : Program Op Res ε α} {allowed : Op → Prop}
    (uses : program.Uses allowed)
    (alike : ∀ s op answer t, allowed op → disturbed s op answer t →
      (∀ answer' v, calm s op answer' v → guarantee s op v) → calm s op answer t) :
    Tracks calm disturbed guarantee program := by
  intro s holds outcome t run
  induction run with
  | ret value s => exact .ret _ _
  | fail error s => exact .fail _ _
  | @call op next s u v answer outcome answered _ ih =>
      have undisturbed := alike s op answer u uses.1 answered fun answer' v given =>
        (holds answer' v given).1
      exact .call undisturbed (ih (uses.2 answer) (holds answer u undisturbed).2)

/-- Programs that keep to it do so one after the other. -/
theorem bind {program : Program Op Res ε α} {rest : α → Program Op Res ε β}
    (first : Tracks calm disturbed guarantee program)
    (second : ∀ value, Tracks calm disturbed guarantee (rest value)) :
    Tracks calm disturbed guarantee (program >>= rest) := by
  intro s holds outcome u run
  rw [wp_bind] at holds
  have here := first s (wp_consequence holds fun _ _ _ => trivial)
  rcases run.of_bind with ⟨value, t, run', rest'⟩ | ⟨error, rfl, run'⟩
  · have followed := here _ _ run'
    exact followed.bind (second value t (followed.post holds) _ _ rest')
  · exact (here _ _ run').bind_error

/-- A program and its handlers that keep to it do so together. -/
theorem tryCatch {program : Program Op Res ε α} {handler : ε → Program Op Res ε α}
    (first : Tracks calm disturbed guarantee program)
    (second : ∀ error, Tracks calm disturbed guarantee (handler error)) :
    Tracks calm disturbed guarantee (tryCatch program handler) := by
  intro s holds outcome u run
  rw [wp_tryCatch] at holds
  have here := first s (wp_consequence holds fun _ _ _ => trivial)
  rcases run.of_tryCatch with ⟨value, rfl, run'⟩ | ⟨error, t, run', rest'⟩
  · exact (here _ _ run').tryCatch_ok
  · have followed := here _ _ run'
    exact followed.tryCatch_error (second error t (followed.post holds) _ _ rest')

/-- Both branches keep to it where they are taken. -/
theorem ite {condition : Prop} [Decidable condition] {first second : Program Op Res ε α}
    (left : condition → Tracks calm disturbed guarantee first)
    (right : ¬ condition → Tracks calm disturbed guarantee second) :
    Tracks calm disturbed guarantee (if condition then first else second) := by
  split
  · next holds => exact left holds
  · next fails => exact right fails

end Tracks

namespace Agrees

variable {same : Except ε β → Except ε β → Prop} {alike : σ → σ → Prop} {s t : σ}

/-- What ends alike as a whole ends alike from where its first part returned. -/
theorem rest {program : Program Op Res ε α} {rest : α → Program Op Res ε β} {value : α}
    (wider : ∀ s op answer t, calm s op answer t → disturbed s op answer t)
    (agrees : Agrees calm disturbed same alike (program >>= rest) s)
    (run : Exec calm program s (.ok value) t) :
    Agrees calm disturbed same alike (rest value) t :=
  fun _ _ _ _ astray straight =>
    agrees _ _ _ _ ((run.mono wider).bind astray) (run.bind straight)

end Agrees

/-- The calls of a sequence whose first part needs no guarantee. -/
theorem wp_of_rest {program : Program Op Res ε α} {rest : α → Program Op Res ε β} {s : σ}
    (free : program.Uses fun op => ∀ u v, guarantee u op v)
    (later : ∀ value t, Exec calm program s (.ok value) t →
      (rest value).wp calm guarantee (fun _ _ => True) t) :
    (program >>= rest).wp calm guarantee (fun _ _ => True) s := by
  rw [wp_bind]
  apply wp_of_exec
  · intro outcome t run
    cases outcome with
    | ok value => exact later value t run
    | error error => trivial
  · exact fun u _ v issued => issued.uses free u v

/-- A program of calls that need no guarantee. -/
theorem wp_of_free {program : Program Op Res ε α} {s : σ}
    (free : program.Uses fun op => ∀ u v, guarantee u op v) :
    program.wp calm guarantee (fun _ _ => True) s :=
  wp_of_exec (fun _ _ _ => trivial) fun u _ v issued => issued.uses free u v

end Foundation.Program
