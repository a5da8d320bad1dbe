import OpenSomeIp.Lib.Loop

set_option autoImplicit false

/-! Which exceptions a method may raise. -/

namespace Method

variable {ε σ α β : Type}

def RaisesOnly (allowed : ε → Prop) (body : Method ε σ α) : Prop :=
  ∀ s reason, (body s).1 = .error reason → allowed reason

variable {allowed : ε → Prop}

theorem RaisesOnly.pure (value : α) : RaisesOnly allowed (pure value : Method ε σ α) := by
  intro s reason raised
  cases raised

theorem RaisesOnly.raise {reason : ε} (fine : allowed reason) :
    RaisesOnly allowed (raise reason : Method ε σ α) := by
  intro s other raised
  obtain rfl : reason = other := Except.error.inj raised
  exact fine

theorem RaisesOnly.bind {first : Method ε σ α} {next : α → Method ε σ β}
    (head : RaisesOnly allowed first) (tail : ∀ value, RaisesOnly allowed (next value)) :
    RaisesOnly allowed (first >>= next) := by
  intro s reason raised
  cases ran : first s with
  | mk result t =>
      cases result with
      | ok value =>
          rw [bind_of_ok ran] at raised
          exact tail value t reason raised
      | error other =>
          rw [bind_of_error ran] at raised
          apply head s reason
          rw [ran]
          exact congrArg Except.error (Except.error.inj raised)

theorem RaisesOnly.whileLoop {cond : β → Bool} {body : β → Method ε σ β}
    (turn : ∀ b, RaisesOnly allowed (body b)) (fuel : Nat) (b : β) :
    RaisesOnly allowed (whileLoop cond body fuel b) := by
  induction fuel generalizing b with
  | zero => exact RaisesOnly.pure none
  | succ fuel ih =>
      rw [Method.whileLoop]
      split
      · exact (turn b).bind ih
      · exact RaisesOnly.pure (some b)

/-- What a handler lets through or raises itself. -/
theorem RaisesOnly.tryExcept {body : Method ε σ α} {handler : ε → Method ε σ α}
    (handles : ∀ reason, RaisesOnly allowed (handler reason)) :
    RaisesOnly allowed (tryExcept body handler) := by
  intro s reason raised
  cases ran : body s with
  | mk result t =>
      cases result with
      | ok value =>
          rw [tryExcept_of_ok ran] at raised
          cases raised
      | error other =>
          rw [tryExcept_of_error ran] at raised
          exact handles other t reason raised

end Method
