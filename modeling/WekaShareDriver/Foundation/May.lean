import WekaShareDriver.Foundation.Program

/-! # Endings a program may reach

The counterpart of weakest preconditions: `Foundation.Program.May` says that
some run of a program returns as described. Such runs are put together from
those of the parts, and the part of a run in which nothing fails is given by a
weakest precondition of the faultless service
(`Foundation.Program.May.of_wp`).
-/

namespace Foundation.Program

variable {Op : Type} {Res : Op → Type} {ε α β σ : Type} {service : Service Op Res ε σ}

/-- Some run returns with a value and a state as described. -/
def May (service : Service Op Res ε σ) (program : Program Op Res ε α) (done : α → σ → Prop)
    (s : σ) : Prop :=
  ∃ value t, Exec service program s (.ok value) t ∧ done value t

namespace May

variable {program : Program Op Res ε α} {done done' : α → σ → Prop} {s t : σ}

/-- A program that returns at once may return its value. -/
theorem pure {value : α} (holds : done value s) :
    May service (Pure.pure value : Program Op Res ε α) done s :=
  ⟨value, s, .ret value s, holds⟩

/-- What may happen may happen with a weaker outcome. -/
theorem mono (may : May service program done s) (weaker : ∀ value t, done value t → done' value t) :
    May service program done' s := by
  obtain ⟨value, t, run, holds⟩ := may
  exact ⟨value, t, run, weaker value t holds⟩

/-- A program and what follows it may happen one after the other. -/
theorem bind {rest : α → Program Op Res ε β} {middle : α → σ → Prop} {done : β → σ → Prop}
    (first : May service program middle s)
    (second : ∀ value t, middle value t → May service (rest value) done t) :
    May service (program >>= rest) done s := by
  obtain ⟨value, t, run, holds⟩ := first
  obtain ⟨value', u, run', holds'⟩ := second value t holds
  exact ⟨value', u, run.bind run', holds'⟩

/-- A program that may return may do so under a handler. -/
theorem tryCatch_ok {handler : ε → Program Op Res ε α} (may : May service program done s) :
    May service (tryCatch program handler) done s := by
  obtain ⟨value, t, run, holds⟩ := may
  exact ⟨value, t, run.tryCatch_ok, holds⟩

/-- Where a program raises, what its handler may do may happen. -/
theorem tryCatch_error {handler : ε → Program Op Res ε α} {error : ε}
    (raises : Exec service program s (.error error) t) (handled : May service (handler error) done t) :
    May service (tryCatch program handler) done s := by
  obtain ⟨value, u, run, holds⟩ := handled
  exact ⟨value, u, raises.tryCatch_error run, holds⟩

/-- An ending that may be reached meets what all endings do. -/
theorem post {guarantee : σ → Op → σ → Prop} {post : Except ε α → σ → Prop}
    (may : May service program done s) (holds : program.wp service guarantee post s) :
    ∃ value t, done value t ∧ post (.ok value) t := by
  obtain ⟨value, t, run, reached⟩ := may
  exact ⟨value, t, reached, run.post holds⟩

/-- A loop may keep what each of its rounds may keep. -/
theorem foldlM {step : β → α → Program Op Res ε β} (invariant : List α → β → σ → Prop)
    (elements : List α)
    (round : ∀ visited element rest value s, elements = visited ++ element :: rest →
      invariant visited value s →
        May service (step value element) (invariant (visited ++ [element])) s)
    {value : β} (initial : invariant [] value s) :
    May service (elements.foldlM step value) (invariant elements) s := by
  suffices general : ∀ rest visited value s, elements = visited ++ rest →
      invariant visited value s →
        May service (rest.foldlM step value) (invariant elements) s from
    general elements [] value s rfl initial
  intro rest
  induction rest with
  | nil =>
      intro visited value s split holds
      rw [List.append_nil] at split
      subst split
      exact .pure holds
  | cons element rest ih =>
      intro visited value s split holds
      rw [List.foldlM_cons]
      refine (round visited element rest value s split holds).bind fun value' t holds' => ?_
      exact ih (visited ++ [element]) value' t (by simp [split]) holds'

/-- Where nothing fails, a program may end as it always does. -/
theorem of_wp {implementation : (op : Op) → σ → Except ε (Res op) × σ} {fault : σ → Op → ε → Prop}
    (holds : program.wp (withFaults implementation noFaults) (passing fun _ => True)
      (ending done fun _ _ => False) s) :
    May (withFaults implementation fault) program done s := by
  have ended := post_run holds
  have run : Exec (withFaults implementation fault) program s (program.run implementation s).1
      (program.run implementation s).2 := exec_run program s
  cases outcome : (program.run implementation s).1 with
  | ok value =>
      rw [outcome] at ended run
      exact ⟨value, _, run, ended⟩
  | error error =>
      rw [outcome] at ended
      exact ended.elim

end May

end Foundation.Program
