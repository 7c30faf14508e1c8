import WekaShareDriver.Foundation.Interference

/-! # Operations that are programs

An operation of one service may be carried out by a program of another one; a program of the first
is then a program of the second (`Foundation.Program.translate`), with its sequencing and its
handling of errors.
-/

namespace Foundation.Program

variable {Op Op' : Type} {Res : Op → Type} {Res' : Op' → Type} {ε α β σ : Type}

/-- Run a program to its end and continue with what it returned or raised. -/
def settle : Program Op Res ε β → (Except ε β → Program Op Res ε α) → Program Op Res ε α
  | .ret value, rest => rest (.ok value)
  | .fail error, rest => rest (.error error)
  | .call op next, rest => .call op fun answer => (next answer).settle rest

/-- The program in which each operation is carried out by a program. -/
def translate (into : (op : Op) → Program Op' Res' ε (Res op)) :
    Program Op Res ε α → Program Op' Res' ε α
  | .ret value => .ret value
  | .fail error => .fail error
  | .call op next => (into op).settle fun answer => (next answer).translate into

/-- What follows a settled program follows each of its ends. -/
theorem settle_bind (program : Program Op Res ε β) (rest : Except ε β → Program Op Res ε α)
    {γ : Type} (last : α → Program Op Res ε γ) :
    (program.settle rest).bind last = program.settle fun outcome => (rest outcome).bind last := by
  induction program with
  | ret value => rfl
  | fail error => rfl
  | call op next ih => exact congrArg (Program.call op) (funext ih)

/-- What handles a settled program handles each of its ends. -/
theorem settle_handle (program : Program Op Res ε β) (rest : Except ε β → Program Op Res ε α)
    (handler : ε → Program Op Res ε α) :
    (program.settle rest).handle handler =
      program.settle fun outcome => (rest outcome).handle handler := by
  induction program with
  | ret value => rfl
  | fail error => rfl
  | call op next ih => exact congrArg (Program.call op) (funext ih)

section Translate

variable (into : (op : Op) → Program Op' Res' ε (Res op))

@[simp] theorem translate_pure (value : α) :
    (pure value : Program Op Res ε α).translate into = pure value := rfl

@[simp] theorem translate_throw (error : ε) :
    (throw error : Program Op Res ε α).translate into = throw error := rfl

@[simp] theorem translate_bind (program : Program Op Res ε α) (rest : α → Program Op Res ε β) :
    (program >>= rest).translate into =
      program.translate into >>= fun value => (rest value).translate into := by
  change (program.bind rest).translate into = (program.translate into).bind _
  induction program with
  | ret value => rfl
  | fail error => rfl
  | call op next ih =>
      rw [translate, settle_bind]
      exact congrArg (settle (into op)) (funext ih)

@[simp] theorem translate_tryCatch (program : Program Op Res ε α)
    (handler : ε → Program Op Res ε α) :
    (tryCatch program handler).translate into =
      tryCatch (program.translate into) fun error => (handler error).translate into := by
  change (program.handle handler).translate into = (program.translate into).handle _
  induction program with
  | ret value => rfl
  | fail error => rfl
  | call op next ih =>
      rw [translate, settle_handle]
      exact congrArg (settle (into op)) (funext ih)

@[simp] theorem translate_ite (condition : Prop) [Decidable condition]
    (first second : Program Op Res ε α) :
    (if condition then first else second).translate into =
      if condition then first.translate into else second.translate into := by
  split <;> rfl

/-- Going on from each outcome with that outcome is the program itself. -/
theorem settle_perform (program : Program Op' Res' ε α) :
    program.settle (fun outcome => match outcome with
      | .ok value => .ret value
      | .error error => .fail error) = program := by
  induction program with
  | ret value => rfl
  | fail error => rfl
  | call op next ih => exact congrArg (Program.call op) (funext ih)

@[simp] theorem translate_perform (op : Op) :
    (perform op : Program Op Res ε (Res op)).translate into = into op := by
  refine Eq.trans ?_ (settle_perform (into op))
  refine congrArg (settle (into op)) (funext fun answer => ?_)
  cases answer <;> rfl

end Translate

section Amid

variable {service : Service Op Res ε σ} {rely : Rely σ} {guarantee : σ → Op → σ → Prop}

/-- A settled program amid others: from each outcome its rest is met amid them. -/
theorem amid_settle (program : Program Op Res ε β) (rest : Except ε β → Program Op Res ε α)
    (post : Except ε α → σ → Prop) (s : σ) :
    (program.settle rest).amid service rely guarantee post s =
      program.amid service rely guarantee
        (fun outcome => (rest outcome).amid service rely guarantee post) s := by
  induction program generalizing s with
  | ret value => rfl
  | fail error => rfl
  | call op next ih =>
      simp only [settle, amid]
      exact propext (forall_congr' fun t => forall_congr' fun answer => forall_congr' fun u =>
        imp_congr_right fun _ => imp_congr_right fun _ => and_congr_right fun _ => by rw [ih])

/-- If the programs that carry out the operations keep an assertion, so does every program of
them. -/
theorem amid_translate {into : (op : Op') → Program Op Res ε (Res' op)} {allowed : Op' → Prop}
    {program : Program Op' Res' ε α} {invariant : σ → Prop} (uses : program.Uses allowed)
    (keeps : ∀ op, allowed op → ∀ s, invariant s →
      (into op).amid service rely guarantee (fun _ => invariant) s) {s : σ} (holds : invariant s) :
    (program.translate into).amid service rely guarantee (fun _ => invariant) s := by
  induction program generalizing s with
  | ret value => exact holds
  | fail error => exact holds
  | call op next ih =>
      rw [translate, amid_settle]
      exact amid_consequence (keeps op uses.1 s holds) fun answer t kept => ih answer (uses.2 answer) kept

end Amid

end Foundation.Program
