import WekaShareDriver.Foundation.Program

/-! # Runs of two implementations

The run of a sequence is put together from the runs of its parts, by the outcome
of the first. Where two implementations of the operations differ only in answers
a program recovers from, the program has the same run with both
(`Foundation.Program.RunsAlike`): it does not show which of the two it was run
with.
-/

namespace Foundation.Program

variable {Op : Type} {Res : Op → Type} {ε α β σ : Type}

section Sequencing

variable {implementation : (op : Op) → σ → Except ε (Res op) × σ} {program : Program Op Res ε α}
  {s t : σ}

@[simp] theorem run_pure (value : α) (s : σ) :
    (pure value : Program Op Res ε α).run implementation s = (.ok value, s) := rfl

@[simp] theorem run_throw (error : ε) (s : σ) :
    (throw error : Program Op Res ε α).run implementation s = (.error error, s) := rfl

@[simp] theorem run_perform (op : Op) (s : σ) :
    (perform op : Program Op Res ε (Res op)).run implementation s = implementation op s := by
  rcases answered : implementation op s with ⟨answer, t⟩
  simp only [perform, run, answered]
  cases answer <;> rfl

/-- The run of two programs one after the other. -/
theorem run_bind (program : Program Op Res ε α) (rest : α → Program Op Res ε β) (s : σ) :
    (program >>= rest).run implementation s =
      match program.run implementation s with
      | (.ok value, t) => (rest value).run implementation t
      | (.error error, t) => (.error error, t) := by
  change (program.bind rest).run implementation s = _
  induction program generalizing s with
  | ret value => rfl
  | fail error => rfl
  | call op next ih =>
      simp only [bind, run]
      exact ih _ _

/-- The run of a program with a handler. -/
theorem run_tryCatch (program : Program Op Res ε α) (handler : ε → Program Op Res ε α) (s : σ) :
    (tryCatch program handler).run implementation s =
      match program.run implementation s with
      | (.ok value, t) => (.ok value, t)
      | (.error error, t) => (handler error).run implementation t := by
  change (program.handle handler).run implementation s = _
  induction program generalizing s with
  | ret value => rfl
  | fail error => rfl
  | call op next ih =>
      simp only [handle, run]
      exact ih _ _

/-- A program that returned is followed by the rest. -/
theorem run_bind_ok {value : α} (returned : program.run implementation s = (.ok value, t))
    (rest : α → Program Op Res ε β) :
    (program >>= rest).run implementation s = (rest value).run implementation t := by
  rw [run_bind, returned]

/-- A program that raised is followed by nothing. -/
theorem run_bind_error {error : ε} (raised : program.run implementation s = (.error error, t))
    (rest : α → Program Op Res ε β) :
    (program >>= rest).run implementation s = (.error error, t) := by
  rw [run_bind, raised]

/-- A program that returned needs no handler. -/
theorem run_tryCatch_ok {value : α} (returned : program.run implementation s = (.ok value, t))
    (handler : ε → Program Op Res ε α) :
    (tryCatch program handler).run implementation s = (.ok value, t) := by
  rw [run_tryCatch, returned]

/-- A program that raised is followed by its handler. -/
theorem run_tryCatch_error {error : ε} (raised : program.run implementation s = (.error error, t))
    (handler : ε → Program Op Res ε α) :
    (tryCatch program handler).run implementation s = (handler error).run implementation t := by
  rw [run_tryCatch, raised]

/-- A loop whose rounds return follows the states of a function of the elements
visited. -/
theorem run_forM (implementation : (op : Op) → σ → Except ε (Res op) × σ)
    (step : α → Program Op Res ε PUnit) (after : List α → σ) (elements : List α)
    (round : ∀ visited element rest, elements = visited ++ element :: rest →
      (step element).run implementation (after visited) = (.ok ⟨⟩, after (visited ++ [element]))) :
    (elements.forM step).run implementation (after []) = (.ok ⟨⟩, after elements) := by
  suffices general : ∀ rest visited, elements = visited ++ rest →
      (rest.forM step).run implementation (after visited) = (.ok ⟨⟩, after elements) from
    general elements [] rfl
  intro rest
  induction rest with
  | nil =>
      intro visited split
      rw [List.append_nil] at split
      rw [split]
      rfl
  | cons element rest ih =>
      intro visited split
      change (step element >>= fun _ => rest.forM step).run implementation (after visited) = _
      rw [run_bind_ok (round visited element rest split)]
      exact ih (visited ++ [element]) (by simp [split])

/-- A loop with a carried value, likewise. -/
theorem run_foldlM (implementation : (op : Op) → σ → Except ε (Res op) × σ)
    (step : β → α → Program Op Res ε β) (carried : List α → β) (after : List α → σ)
    (elements : List α)
    (round : ∀ visited element rest, elements = visited ++ element :: rest →
      (step (carried visited) element).run implementation (after visited) =
        (.ok (carried (visited ++ [element])), after (visited ++ [element]))) :
    (elements.foldlM step (carried [])).run implementation (after []) =
      (.ok (carried elements), after elements) := by
  suffices general : ∀ rest visited, elements = visited ++ rest →
      (rest.foldlM step (carried visited)).run implementation (after visited) =
        (.ok (carried elements), after elements) from
    general elements [] rfl
  intro rest
  induction rest with
  | nil =>
      intro visited split
      rw [List.append_nil] at split
      rw [split]
      rfl
  | cons element rest ih =>
      intro visited split
      rw [List.foldlM_cons, run_bind_ok (round visited element rest split)]
      exact ih (visited ++ [element]) (by simp [split])

end Sequencing

/-- Both implementations give the program the same run from every state. -/
def RunsAlike (first second : (op : Op) → σ → Except ε (Res op) × σ) (program : Program Op Res ε α) :
    Prop :=
  ∀ s, program.run first s = program.run second s

namespace RunsAlike

variable {first second : (op : Op) → σ → Except ε (Res op) × σ} {program : Program Op Res ε α}

/-- Returning runs alike everywhere. -/
theorem pure (value : α) : RunsAlike first second (Pure.pure value : Program Op Res ε α) :=
  fun _ => rfl

/-- Raising runs alike everywhere. -/
theorem throw (error : ε) : RunsAlike first second (MonadExcept.throw error : Program Op Res ε α) :=
  fun _ => rfl

/-- A call that both answer alike runs alike. -/
theorem perform {op : Op} (same : ∀ s, first op s = second op s) :
    RunsAlike first second (Program.perform op : Program Op Res ε (Res op)) := by
  intro s
  rw [run_perform, run_perform, same]

/-- Programs that run alike do so one after the other. -/
theorem bind {rest : α → Program Op Res ε β} (alike : RunsAlike first second program)
    (rests : ∀ value, RunsAlike first second (rest value)) :
    RunsAlike first second (program >>= rest) := by
  intro s
  rw [run_bind, run_bind, alike]
  rcases program.run second s with ⟨error | value, t⟩
  · rfl
  · exact rests value t

/-- A program that runs alike does so with its value mapped. -/
theorem map (function : α → β) (alike : RunsAlike first second program) :
    RunsAlike first second (function <$> program) := by
  rw [map_eq_pure_bind]
  exact alike.bind fun _ => pure _

/-- A program and its handlers that run alike do so together. -/
theorem tryCatch {handler : ε → Program Op Res ε α} (alike : RunsAlike first second program)
    (handlers : ∀ error, RunsAlike first second (handler error)) :
    RunsAlike first second (tryCatch program handler) := by
  intro s
  rw [run_tryCatch, run_tryCatch, alike]
  rcases program.run second s with ⟨error | value, t⟩
  · exact handlers error t
  · rfl

/-- A choice runs alike if both branches do where they are taken. -/
theorem ite {condition : Prop} [Decidable condition] {left right : Program Op Res ε α}
    (lefts : condition → RunsAlike first second left)
    (rights : ¬ condition → RunsAlike first second right) :
    RunsAlike first second (if condition then left else right) := by
  split
  · next holds => exact lefts holds
  · next fails => exact rights fails

/-- A loop runs alike if each of its steps does. -/
theorem forM {step : α → Program Op Res ε PUnit} {elements : List α}
    (each : ∀ element ∈ elements, RunsAlike first second (step element)) :
    RunsAlike first second (elements.forM step) := by
  induction elements with
  | nil => exact pure _
  | cons element rest ih =>
      exact bind (each element List.mem_cons_self) fun _ =>
        ih fun element member => each element (List.mem_cons_of_mem _ member)

/-- A loop runs alike if each of its steps does, whatever value it has come to. -/
theorem foldlM {step : β → α → Program Op Res ε β} {elements : List α}
    (each : ∀ value, ∀ element ∈ elements, RunsAlike first second (step value element)) (value : β) :
    RunsAlike first second (elements.foldlM step value) := by
  induction elements generalizing value with
  | nil => exact pure value
  | cons element rest ih =>
      rw [List.foldlM_cons]
      exact bind (each value element List.mem_cons_self) fun value' =>
        ih (fun value element member => each value element (List.mem_cons_of_mem _ member)) value'

/-- A program of operations both implement alike. -/
theorem of_uses {allowed : Op → Prop} (uses : program.Uses allowed)
    (same : ∀ op, allowed op → ∀ s, first op s = second op s) :
    RunsAlike first second program := by
  intro s
  induction program generalizing s with
  | ret value => rfl
  | fail error => rfl
  | call op next ih =>
      simp only [run, same op uses.1 s]
      exact ih _ (uses.2 _) _

end RunsAlike

end Foundation.Program
