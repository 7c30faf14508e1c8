import WekaShareDriver.Foundation.Program

/-! # Programs that keep to a guarantee

A program obeys a guarantee when, started in any state with an invariant,
it makes every call under the guarantee and restores the invariant with each
(`Foundation.Program.Obeys`). Such programs compose without a postcondition; a
program that only uses certain operations is one
(`Foundation.Program.Obeys.of_uses`), and what one part has learned can be used
by the next as long as it lasts (`Foundation.Program.Obeys.bind_knowing`).
-/

namespace Foundation.Program

variable {Op : Type} {Res : Op → Type} {ε α β σ : Type}

/-- Started with the invariant, every call is made under the guarantee and leaves
the invariant. -/
def Obeys (service : Service Op Res ε σ) (invariant : σ → Prop) (guarantee : σ → Op → σ → Prop)
    (program : Program Op Res ε α) : Prop :=
  ∀ s, invariant s → program.wp service (fun u op v => guarantee u op v ∧ invariant v)
    (ending (fun _ => invariant) fun _ => invariant) s

namespace Obeys

variable {service : Service Op Res ε σ} {invariant : σ → Prop} {guarantee : σ → Op → σ → Prop}
  {program : Program Op Res ε α}

/-- Returning obeys any discipline. -/
theorem pure (value : α) :
    Obeys service invariant guarantee (Pure.pure value : Program Op Res ε α) :=
  fun _ holds => holds

/-- Raising obeys any discipline. -/
theorem throw (error : ε) :
    Obeys service invariant guarantee (MonadExcept.throw error : Program Op Res ε α) :=
  fun _ holds => holds

/-- A program of allowed operations, each of which meets the guarantee and keeps
the invariant. -/
theorem of_uses {allowed : Op → Prop} (uses : program.Uses allowed)
    (meets : ∀ s op answer t, allowed op → invariant s → service s op answer t →
      guarantee s op t ∧ invariant t) : Obeys service invariant guarantee program := by
  intro s holds
  induction program generalizing s with
  | ret value => exact holds
  | fail error => exact holds
  | call op next ih =>
      intro answer t answered
      have kept := meets s op answer t uses.1 holds answered
      exact ⟨kept, ih answer (uses.2 answer) t kept.2⟩

/-- Sequencing, where the rest may rely on what the first part found. -/
theorem bind_knowing {rest : α → Program Op Res ε β} (known : α → σ → Prop)
    (first : ∀ s, invariant s →
      program.wp service (fun u op v => guarantee u op v ∧ invariant v)
        (ending (fun value t => invariant t ∧ known value t) fun _ => invariant) s)
    (second : ∀ value, Obeys service (fun t => invariant t ∧ known value t) guarantee
      (rest value)) : Obeys service invariant guarantee (program >>= rest) := by
  intro s holds
  apply wp_bind_of _ (first s holds)
  intro value t reached
  apply wp_mono _ _ (second value t reached)
  · intro u op v kept
    exact ⟨kept.1, kept.2.1⟩
  · intro outcome u ended
    cases outcome with
    | ok value => exact ended.1
    | error error => exact ended.1

/-- Programs that obey it do so one after the other. -/
theorem bind {rest : α → Program Op Res ε β} (first : Obeys service invariant guarantee program)
    (second : ∀ value, Obeys service invariant guarantee (rest value)) :
    Obeys service invariant guarantee (program >>= rest) := by
  intro s holds
  apply wp_bind_of _ (first s holds)
  intro value t reached
  exact second value t reached

/-- A program and its handler that obey it do so together. -/
theorem tryCatch {handler : ε → Program Op Res ε α}
    (first : Obeys service invariant guarantee program)
    (second : ∀ error, Obeys service invariant guarantee (handler error)) :
    Obeys service invariant guarantee (tryCatch program handler) := by
  intro s holds
  apply wp_tryCatch_of _ (first s holds)
  intro error t reached
  exact second error t reached

/-- Both branches obey it where they are taken. -/
theorem ite {condition : Prop} [Decidable condition] {first second : Program Op Res ε α}
    (left : condition → Obeys service invariant guarantee first)
    (right : ¬ condition → Obeys service invariant guarantee second) :
    Obeys service invariant guarantee (if condition then first else second) := by
  split
  · next holds => exact left holds
  · next fails => exact right fails

/-- A loop obeys it if each of its steps does, whatever value it has come to. -/
theorem foldlM {step : β → α → Program Op Res ε β} {elements : List α}
    (each : ∀ value, ∀ element ∈ elements, Obeys service invariant guarantee (step value element))
    (value : β) : Obeys service invariant guarantee (elements.foldlM step value) := by
  induction elements generalizing value with
  | nil => exact pure value
  | cons element rest ih =>
      rw [List.foldlM_cons]
      exact bind (each value element List.mem_cons_self) fun value' =>
        ih (fun value element member => each value element (List.mem_cons_of_mem _ member)) value'

/-- A loop obeys it if each of its steps does. -/
theorem forM {step : α → Program Op Res ε PUnit} {elements : List α}
    (each : ∀ element ∈ elements, Obeys service invariant guarantee (step element)) :
    Obeys service invariant guarantee (elements.forM step) := by
  induction elements with
  | nil => exact pure _
  | cons element rest ih =>
      exact bind (each element List.mem_cons_self) fun _ =>
        ih fun element member => each element (List.mem_cons_of_mem _ member)

/-- Every call of every run meets the guarantee. -/
theorem meets (keeps : Obeys service invariant guarantee program) {s u v : σ} {op : Op}
    (holds : invariant s) (issued : Issues service program s u op v) : guarantee u op v :=
  (issued.meets (keeps s holds)).1

/-- The invariant holds where a run ends. -/
theorem restored (keeps : Obeys service invariant guarantee program) {s t : σ}
    {outcome : Except ε α} (holds : invariant s) (run : Exec service program s outcome t) :
    invariant t := by
  have ended := run.post (keeps s holds)
  cases outcome with
  | ok value => exact ended
  | error error => exact ended

/-- The invariant at the end, as a weakest precondition. -/
theorem wp_restored (keeps : Obeys service invariant guarantee program) {s : σ}
    (holds : invariant s) :
    program.wp service (passing fun _ => True) (ending (fun _ => invariant) fun _ => invariant) s :=
  wp_mono (fun _ _ _ _ => trivial) (fun _ _ ended => ended) (keeps s holds)

/-- The guarantee alone, from a state with the invariant. -/
theorem wp_guarantee (keeps : Obeys service invariant guarantee program) {s : σ}
    (holds : invariant s) :
    program.wp service (fun u op v => guarantee u op v ∧ True)
      (ending (fun _ _ => True) fun _ _ => True) s := by
  refine wp_mono (fun _ _ _ kept => ⟨kept.1, trivial⟩) (fun outcome _ _ => ?_) (keeps s holds)
  cases outcome <;> trivial

/-- A fact that does not depend on the state may be used beforehand. -/
theorem given {fact : Prop} (keeps : fact → Obeys service invariant guarantee program) :
    Obeys service (fun s => invariant s ∧ fact) guarantee program := by
  intro s ⟨holds, known⟩
  refine wp_mono (fun u op v kept => ⟨kept.1, kept.2, known⟩) (fun outcome t ended => ?_)
    (keeps known s holds)
  cases outcome with
  | ok value => exact ⟨ended, known⟩
  | error error => exact ⟨ended, known⟩

/-- A program that uses certain operations only uses them under the guarantee. -/
theorem of_used {allowed : Op → Prop} (keeps : Obeys service invariant guarantee program)
    (uses : program.Uses allowed) :
    Obeys service invariant (fun u op v => guarantee u op v ∧ allowed op) program := by
  have used : Obeys service (fun _ => True) (fun _ op _ => allowed op) program :=
    .of_uses uses fun _ _ _ _ allows _ _ => ⟨allows, trivial⟩
  intro s holds
  refine wp_mono (fun u op v both => ⟨⟨both.1.1, both.2.1⟩, both.1.2⟩) (fun outcome t both => both.1)
    (wp_and (keeps s holds) (used s trivial))

/-- An invariant that every operation keeps may be assumed besides. -/
theorem along {invariant' : σ → Prop} (keeps : Obeys service (fun _ => True) guarantee program)
    (kept : ∀ s op answer t, invariant' s → service s op answer t → invariant' t) :
    Obeys service invariant' guarantee program := by
  have stays : Obeys service invariant' (fun _ _ _ => True) program :=
    .of_uses (uses_anything program) fun s op answer t _ here answered =>
      ⟨trivial, kept s op answer t here answered⟩
  intro s holds
  refine wp_mono (fun u op v both => ⟨both.1.1, both.2.2⟩) (fun outcome t both => ?_)
    (wp_and (keeps s trivial) (stays s holds))
  cases outcome with
  | ok value => exact both.2
  | error error => exact both.2

/-- Wherever a program is interrupted, the invariant holds. -/
theorem reached (keeps : Obeys service invariant guarantee program) {s t : σ} (holds : invariant s)
    (reaches : Reaches service program s t) : invariant t :=
  reaches.of_wp holds (wp_mono (fun _ _ _ kept => kept.2) (fun _ _ ended => ended) (keeps s holds))

/-- A preorder that every guaranteed call follows holds wherever a program is
interrupted. -/
theorem related (relation : σ → σ → Prop) (keeps : Obeys service invariant guarantee program)
    (refl : ∀ s, relation s s) (trans : ∀ u v x, relation u v → relation v x → relation u x)
    (step : ∀ u op answer v, guarantee u op v → service u op answer v → relation u v) {s t : σ}
    (holds : invariant s) (reaches : Reaches service program s t) : relation s t :=
  reaches.of_wp (refl s) (wp_related (keeps s holds) trans
    (fun u op answer v kept answered => step u op answer v kept.1 answered) (refl s))

end Obeys

/-! ## Values a program returns -/

/-- Whatever the answers, a value the program returns is as described. -/
def Returns (described : α → Prop) : Program Op Res ε α → Prop
  | .ret value => described value
  | .fail _ => True
  | .call _ next => ∀ answer, (next answer).Returns described

namespace Returns

variable {described : α → Prop} {program : Program Op Res ε α}

/-- Nothing is said about the answer to a call. -/
theorem perform (op : Op) : (perform op : Program Op Res ε (Res op)).Returns fun _ => True := by
  intro answer
  cases answer <;> trivial

/-- Values that are described are described less closely. -/
theorem mono {described' : α → Prop} (returns : program.Returns described)
    (wider : ∀ value, described value → described' value) : program.Returns described' := by
  induction program with
  | ret value => exact wider value returns
  | fail error => trivial
  | call op next ih => exact fun answer => ih answer (returns answer)

/-- What follows a program returns described values if it does so for the described values of the
program. -/
theorem bind {described : β → Prop} {known : α → Prop} {rest : α → Program Op Res ε β}
    (first : program.Returns known) (second : ∀ value, known value →
      (rest value).Returns described) : (program >>= rest).Returns described := by
  change (program.bind rest).Returns described
  induction program with
  | ret value => exact second value first
  | fail error => trivial
  | call op next ih => exact fun answer => ih answer (first answer)

/-- Whatever a program returns is some value. -/
theorem anything (program : Program Op Res ε α) : program.Returns fun _ => True := by
  induction program with
  | ret value => trivial
  | fail error => trivial
  | call op next ih => exact ih

/-- Sequencing, where only the last part matters. -/
theorem after {described : β → Prop} {rest : α → Program Op Res ε β}
    (second : ∀ value, (rest value).Returns described) : (program >>= rest).Returns described :=
  (anything program).bind fun value _ => second value

/-- A program and its handler return described values together. -/
theorem tryCatch {handler : ε → Program Op Res ε α} (first : program.Returns described)
    (second : ∀ error, (handler error).Returns described) :
    (tryCatch program handler).Returns described := by
  change (program.handle handler).Returns described
  induction program with
  | ret value => exact first
  | fail error => exact second error
  | call op next ih => exact fun answer => ih answer (first answer)

/-- Both branches return described values where they are taken. -/
theorem ite {condition : Prop} [Decidable condition] {first second : Program Op Res ε α}
    (left : condition → first.Returns described) (right : ¬ condition → second.Returns described) :
    (if condition then first else second).Returns described := by
  split
  · next holds => exact left holds
  · next fails => exact right fails

/-- A loop returns a described value if each step keeps values described. -/
theorem foldlM {described : β → Prop} {step : β → α → Program Op Res ε β} {elements : List α}
    (each : ∀ value, described value → ∀ element ∈ elements,
      (step value element).Returns described) {value : β} (here : described value) :
    (elements.foldlM step value).Returns described := by
  induction elements generalizing value with
  | nil => exact here
  | cons element rest ih =>
      rw [List.foldlM_cons]
      exact bind (each value here element List.mem_cons_self) fun value' there =>
        ih (fun value held element member =>
          each value held element (List.mem_cons_of_mem _ member)) there

end Returns

/-- A run ends with a value as described. -/
theorem Returns.wp {service : Service Op Res ε σ} {guarantee : σ → Op → σ → Prop}
    {program : Program Op Res ε α} {described : α → Prop} {done : α → σ → Prop}
    {raised : ε → σ → Prop} {s : σ} (returns : program.Returns described)
    (holds : program.wp service guarantee (ending done raised) s) :
    program.wp service guarantee (ending (fun value t => done value t ∧ described value) raised)
      s := by
  induction program generalizing s with
  | ret value => exact ⟨holds, returns⟩
  | fail error => exact holds
  | call op next ih =>
      intro answer t answered
      obtain ⟨kept, rest⟩ := holds answer t answered
      exact ⟨kept, ih answer (returns answer) rest⟩

/-- Sequencing, where the rest may rely on the value returned. -/
theorem Obeys.bind_returning {service : Service Op Res ε σ} {invariant : σ → Prop}
    {guarantee : σ → Op → σ → Prop} {program : Program Op Res ε α} {rest : α → Program Op Res ε β}
    {described : α → Prop} (first : Obeys service invariant guarantee program)
    (returns : program.Returns described)
    (second : ∀ value, described value → Obeys service invariant guarantee (rest value)) :
    Obeys service invariant guarantee (program >>= rest) := by
  intro s holds
  apply wp_bind_of _ (returns.wp (first s holds))
  intro value t reached
  exact second value reached.2 t reached.1

/-- Nothing is claimed of a program. -/
theorem wp_true {service : Service Op Res ε σ} (program : Program Op Res ε α) (s : σ) :
    program.wp service (passing fun _ => True) (ending (fun _ _ => True) fun _ _ => True) s :=
  wp_of_exec (fun outcome _ _ => by cases outcome <;> trivial) fun _ _ _ _ => trivial

end Foundation.Program
