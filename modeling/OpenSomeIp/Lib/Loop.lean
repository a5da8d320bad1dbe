import OpenSomeIp.Lib.Method

set_option autoImplicit false

namespace Method

variable {ε σ β : Type}

/-- The statement `while cond: body`, for at most `fuel` turns; `none` says that the loop
has not come to its end in them. -/
def whileLoop (cond : β → Bool) (body : β → Method ε σ β) : Nat → β → Method ε σ (Option β)
  | 0, _ => pure none
  | fuel + 1, b =>
      if cond b then do
        let next ← body b
        whileLoop cond body fuel next
      else pure (some b)

variable {cond : β → Bool} {body : β → Method ε σ β}

theorem whileLoop_of_false {b : β} (stop : cond b = false) (fuel : Nat) (s : σ) :
    whileLoop cond body (fuel + 1) b s = (.ok (some b), s) := by
  rw [whileLoop, stop]
  rfl

theorem whileLoop_of_ok {b next : β} {s t : σ} (more : cond b = true)
    (turn : body b s = (.ok next, t)) (fuel : Nat) :
    whileLoop cond body (fuel + 1) b s = whileLoop cond body fuel next t := by
  rw [whileLoop, more, if_pos rfl, bind_of_ok turn]

theorem whileLoop_of_error {b : β} {reason : ε} {s t : σ} (more : cond b = true)
    (turn : body b s = (.error reason, t)) (fuel : Nat) :
    whileLoop cond body (fuel + 1) b s = (.error reason, t) := by
  rw [whileLoop, more, if_pos rfl, bind_of_error turn]

/-- A loop that came to its end, or raised, does so with more turns to spare. -/
theorem whileLoop_add (more fuel : Nat) {b : β} {s t : σ} {result : Except ε (Option β)}
    (ran : whileLoop cond body fuel b s = (result, t)) (ended : result ≠ .ok none) :
    whileLoop cond body (fuel + more) b s = (result, t) := by
  induction fuel generalizing b s with
  | zero =>
      cases ran
      exact absurd rfl ended
  | succ fuel ih =>
      rw [Nat.succ_add]
      cases going : cond b with
      | false =>
          rw [whileLoop_of_false going] at ran
          rw [whileLoop_of_false going, ran]
      | true =>
          cases turn : body b s with
          | mk outcome middle =>
              cases outcome with
              | ok next =>
                  rw [whileLoop_of_ok going turn] at ran
                  rw [whileLoop_of_ok going turn]
                  exact ih ran
              | error reason =>
                  rw [whileLoop_of_error going turn] at ran
                  rw [whileLoop_of_error going turn, ran]

end Method
