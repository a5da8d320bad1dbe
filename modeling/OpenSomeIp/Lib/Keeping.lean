import OpenSomeIp.Lib.Loop
import OpenSomeIp.Lib.Sequence

set_option autoImplicit false

/-! What a method leaves true of its object, whether it returns or raises. -/

namespace Method

variable {ε σ τ α β : Type}

def Keeps (holds : σ → Prop) (body : Method ε σ α) : Prop := ∀ s, holds s → holds (body s).2

variable {holds : σ → Prop}

theorem Keeps.pure (value : α) : Keeps holds (pure value : Method ε σ α) := by
  intro s before
  exact before

theorem Keeps.raise (reason : ε) : Keeps holds (raise reason : Method ε σ α) := by
  intro s before
  exact before

theorem Keeps.lift (result : Except ε α) : Keeps holds (lift result : Method ε σ α) := by
  intro s before
  exact before

theorem Keeps.bind {first : Method ε σ α} {next : α → Method ε σ β} (head : Keeps holds first)
    (tail : ∀ value, Keeps holds (next value)) : Keeps holds (first >>= next) := by
  intro s before
  exact bind_keeps head tail before

/-- What the first statement brings about and what follows keeps is there in the end. -/
theorem Keeps.after {first : Method ε σ α} {next : α → Method ε σ β}
    (tail : ∀ value, Keeps holds (next value)) {s : σ} (reached : holds (first s).2) :
    holds ((first >>= next) s).2 := by
  rw [bind_apply]
  split
  · rename_i value t ran
    rw [ran] at reached
    exact tail value t reached
  · rename_i reason t ran
    rw [ran] at reached
    exact reached

theorem Keeps.whileLoop {cond : β → Bool} {body : β → Method ε σ β}
    (turn : ∀ b, Keeps holds (body b)) (fuel : Nat) (b : β) :
    Keeps holds (whileLoop cond body fuel b) := by
  induction fuel generalizing b with
  | zero => exact Keeps.pure none
  | succ fuel ih =>
      rw [Method.whileLoop]
      split
      · exact (turn b).bind ih
      · exact Keeps.pure (some b)

theorem Keeps.tryExcept {body : Method ε σ α} {handler : ε → Method ε σ α}
    (tries : Keeps holds body) (handles : ∀ reason, Keeps holds (handler reason)) :
    Keeps holds (tryExcept body handler) := by
  intro s before
  have after := tries s before
  cases ran : body s with
  | mk result t =>
      rw [ran] at after
      cases result with
      | ok value =>
          rw [tryExcept_of_ok ran]
          exact after
      | error reason =>
          rw [tryExcept_of_error ran]
          exact handles reason t after

theorem Keeps.zoom {inner : τ → Prop} {part : σ → τ} {put : τ → σ → σ} {body : Method ε τ α}
    (within : Keeps inner body) (into : ∀ s, holds s → inner (part s))
    (back : ∀ s t, holds s → inner t → holds (put t s)) : Keeps holds (zoom part put body) := by
  intro s before
  exact back s _ before (within _ (into s before))

/-- A method of an object that goes about with another one. -/
def beside (body : Method ε σ α) : Method ε (σ × τ) α :=
  zoom Prod.fst (fun s pair => (s, pair.2)) body

theorem beside_keeps (body : Method ε σ α) (other : τ) :
    Keeps (fun pair : σ × τ => pair.2 = other) (beside body) := by
  intro pair same
  exact same

/-- A method whose returns are entered in a log. -/
def noting (entry : τ) (body : Method ε σ α) : Method ε (σ × List τ) α := do
  let value ← beside body
  modify fun pair => (pair.1, pair.2 ++ [entry])
  pure value

theorem noting_of_ok {entry : τ} {body : Method ε σ α} {value : α} {pair : σ × List τ}
    (returned : (body pair.1).1 = .ok value) :
    noting entry body pair = (.ok value, ((body pair.1).2, pair.2 ++ [entry])) := by
  simp only [noting, beside, bind_apply, zoom_apply, returned, modify_apply, pure_apply]

theorem noting_of_error {entry : τ} {body : Method ε σ α} {reason : ε} {pair : σ × List τ}
    (raised : (body pair.1).1 = .error reason) :
    noting entry body pair = (.error reason, ((body pair.1).2, pair.2)) := by
  simp only [noting, beside, bind_apply, zoom_apply, raised]

/-- A method whose calls are entered in a log, also those that raise. -/
def logging (entry : τ) (body : Method ε σ α) : Method ε (σ × List τ) α :=
  fun pair => ((body pair.1).1, ((body pair.1).2, pair.2 ++ [entry]))

@[simp] theorem logging_apply (entry : τ) (body : Method ε σ α) (pair : σ × List τ) :
    logging entry body pair = ((body pair.1).1, ((body pair.1).2, pair.2 ++ [entry])) := rfl

/-- What is in the log stays in front. -/
theorem logging_keeps (front : List τ) (entry : τ) (body : Method ε σ α) :
    Keeps (fun pair : σ × List τ => front <+: pair.2) (logging entry body) := by
  intro pair before
  exact before.trans (List.prefix_append pair.2 [entry])

end Method
