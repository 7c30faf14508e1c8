import WekaShareDriver.Foundation.Program

/-! # Where a program may be interrupted

A state a part of a program may be interrupted in is one the whole may be
interrupted in, once the parts before it have returned
(`Foundation.Program.Reaches.after`). Loops of steps that never raise
(`Foundation.Program.NeverRaises`) get to each of their steps
(`Foundation.Program.reaches_foldlM`, `Foundation.Program.reaches_forM`).
-/

namespace Foundation.Program

variable {Op : Type} {Res : Op → Type} {ε α β σ : Type} {service : Service Op Res ε σ}

/-- The faultless run is a run, whatever faults are possible. -/
theorem Exec.of_run {implementation : (op : Op) → σ → Except ε (Res op) × σ}
    {fault : σ → Op → ε → Prop} {program : Program Op Res ε α} {s t : σ} {outcome : Except ε α}
    (run : program.run implementation s = (outcome, t)) :
    Exec (withFaults implementation fault) program s outcome t := by
  have execution : Exec (withFaults implementation fault) program s
      (program.run implementation s).1 (program.run implementation s).2 := exec_run program s
  rwa [run] at execution

namespace Reaches

variable {program : Program Op Res ε α} {s t u : σ}

/-- A program reaches the state it starts in. -/
theorem start (program : Program Op Res ε α) (s : σ) : Reaches service program s s := Or.inl rfl

/-- What is reached after a call is reached. -/
theorem call {op : Op} {next : Except ε (Res op) → Program Op Res ε α} {answer : Except ε (Res op)}
    (answered : service s op answer t) (reached : Reaches service (next answer) t u) :
    Reaches service (.call op next) s u := by
  rcases reached with rfl | ⟨v, issued, there⟩
  · exact Or.inr ⟨s, op, .here answered⟩
  · exact Or.inr ⟨v, issued, .later answered there⟩

/-- A state passed by the first part of a sequence. -/
theorem bind (rest : α → Program Op Res ε β) (reached : Reaches service program s t) :
    Reaches service (program >>= rest) s t := by
  rcases reached with rfl | ⟨u, op, issued⟩
  · exact .start _ _
  · change Reaches service (program.bind rest) s t
    induction issued with
    | here answered => exact Or.inr ⟨_, _, .here answered⟩
    | later answered _ ih => exact .call answered ih

/-- A state passed by the rest of a sequence whose first part returned. -/
theorem after {rest : α → Program Op Res ε β} {value : α}
    (first : Exec service program s (.ok value) t) (reached : Reaches service (rest value) t u) :
    Reaches service (program >>= rest) s u := by
  change Reaches service (program.bind rest) s u
  generalize result : (Except.ok value : Except ε α) = outcome at first
  induction first with
  | ret value' s => cases result; exact reached
  | fail error s => cases result
  | call answered _ ih => exact .call answered (ih reached result)

/-- A state passed by a guarded program. -/
theorem tryCatch (handler : ε → Program Op Res ε α) (reached : Reaches service program s t) :
    Reaches service (tryCatch program handler) s t := by
  rcases reached with rfl | ⟨u, op, issued⟩
  · exact .start _ _
  · change Reaches service (program.handle handler) s t
    induction issued with
    | here answered => exact Or.inr ⟨_, _, .here answered⟩
    | later answered _ ih => exact .call answered ih

end Reaches

/-! ## Programs that do not raise -/

/-- Whatever the answers, the program returns. -/
def NeverRaises : Program Op Res ε α → Prop
  | .ret _ => True
  | .fail _ => False
  | .call _ next => ∀ answer, (next answer).NeverRaises

namespace NeverRaises

variable {program : Program Op Res ε α}

/-- Returning does not raise. -/
theorem pure (value : α) : (Pure.pure value : Program Op Res ε α).NeverRaises := trivial

/-- Programs that do not raise do not do so one after the other. -/
theorem bind {rest : α → Program Op Res ε β} (first : program.NeverRaises)
    (second : ∀ value, (rest value).NeverRaises) : (program >>= rest).NeverRaises := by
  change (program.bind rest).NeverRaises
  induction program with
  | ret value => exact second value
  | fail error => exact first.elim
  | call op next ih => exact fun answer => ih answer (first answer)

/-- Whatever a guarded program does, its handler does not raise. -/
theorem tryCatch {handler : ε → Program Op Res ε α} (handles : ∀ error, (handler error).NeverRaises) :
    (tryCatch program handler).NeverRaises := by
  change (program.handle handler).NeverRaises
  induction program with
  | ret value => trivial
  | fail error => exact handles error
  | call op next ih => exact ih

/-- A choice does not raise if neither branch does where it is taken. -/
theorem ite {condition : Prop} [Decidable condition] {first second : Program Op Res ε α}
    (left : condition → first.NeverRaises) (right : ¬ condition → second.NeverRaises) :
    (if condition then first else second).NeverRaises := by
  split
  · next holds => exact left holds
  · next fails => exact right fails

/-- A loop does not raise if no step does, whatever value it has come to. -/
theorem foldlM {step : β → α → Program Op Res ε β} {elements : List α}
    (each : ∀ value, ∀ element ∈ elements, (step value element).NeverRaises) (value : β) :
    (elements.foldlM step value).NeverRaises := by
  induction elements generalizing value with
  | nil => trivial
  | cons element rest ih =>
      rw [List.foldlM_cons]
      exact bind (each value element List.mem_cons_self) fun value' =>
        ih (fun value element member => each value element (List.mem_cons_of_mem _ member)) value'

/-- A loop does not raise if no step does. -/
theorem forM {step : α → Program Op Res ε PUnit} {elements : List α}
    (each : ∀ element ∈ elements, (step element).NeverRaises) : (elements.forM step).NeverRaises := by
  induction elements with
  | nil => trivial
  | cons element rest ih =>
      exact bind (each element List.mem_cons_self) fun _ =>
        ih fun element member => each element (List.mem_cons_of_mem _ member)

/-- A run of a program that does not raise ends with a value. -/
theorem returns (never : program.NeverRaises) {s t : σ} {outcome : Except ε α}
    (run : Exec service program s outcome t) : ∃ value, outcome = .ok value := by
  induction run with
  | ret value s => exact ⟨value, rfl⟩
  | fail error s => exact never.elim
  | call _ _ ih => exact ih (never _)

/-- Such a program has a run that returns. -/
theorem exists_run (never : program.NeverRaises)
    (implementation : (op : Op) → σ → Except ε (Res op) × σ) (fault : σ → Op → ε → Prop) (s : σ) :
    ∃ value t, Exec (withFaults implementation fault) program s (.ok value) t := by
  have run : Exec (withFaults implementation fault) program s _ _ := exec_run program s
  obtain ⟨value, same⟩ := never.returns run
  rw [same] at run
  exact ⟨value, _, run⟩

end NeverRaises

section Loops

variable {s t u : σ}

/-- A loop reaches what the next step reaches from where the steps before it have ended. -/
theorem reaches_foldlM {step : β → α → Program Op Res ε β} {visited rest : List α} {element : α}
    {value value' : β} (before : Exec service (visited.foldlM step value) s (.ok value') t)
    (reached : Reaches service (step value' element) t u) :
    Reaches service ((visited ++ element :: rest).foldlM step value) s u := by
  rw [List.foldlM_append]
  refine .after before ?_
  rw [List.foldlM_cons]
  exact reached.bind _

/-- A loop reaches what the next step reaches from where the steps before it have ended. -/
theorem reaches_forM {step : α → Program Op Res ε PUnit} {visited rest : List α} {element : α}
    (before : Exec service (visited.forM step) s (.ok ⟨⟩) t)
    (reached : Reaches service (step element) t u) :
    Reaches service ((visited ++ element :: rest).forM step) s u := by
  induction visited generalizing s with
  | nil =>
      cases before
      exact reached.bind _
  | cons first visited ih =>
      rcases Exec.of_bind before with ⟨value, v, run, later⟩ | ⟨error, impossible, -⟩
      · exact .after run (ih later)
      · cases impossible

end Loops

end Foundation.Program
