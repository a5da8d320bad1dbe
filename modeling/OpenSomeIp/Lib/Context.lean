import OpenSomeIp.Lib.Method

set_option autoImplicit false

/-! The `with` statement on an object whose `__exit__` suppresses no exception. -/

namespace Method

variable {ε σ α : Type}

/-- The statement `try: body / finally: final`; what `final` raises replaces how `body` ended. -/
def tryFinally (body : Method ε σ α) (final : Method ε σ Unit) : Method ε σ α :=
  fun s =>
    match final (body s).2 with
    | (.ok (), t) => ((body s).1, t)
    | (.error reason, t) => (.error reason, t)

/-- The statement `with enter: body`, of an object that `exit` is the end of. -/
def within (enter exit : Method ε σ Unit) (body : Method ε σ α) : Method ε σ α := do
  enter
  tryFinally body exit

variable {enter exit final : Method ε σ Unit} {body : Method ε σ α} {s t : σ}

theorem tryFinally_of_ok (returned : final (body s).2 = (.ok (), t)) :
    tryFinally body final s = ((body s).1, t) := by
  simp only [tryFinally, returned]

theorem tryFinally_of_error {reason : ε} (raised : final (body s).2 = (.error reason, t)) :
    tryFinally body final s = (.error reason, t) := by
  simp only [tryFinally, raised]

/-- The body is not run when `enter` raises, and neither is `exit`. -/
theorem within_of_error {reason : ε} (raised : enter s = (.error reason, t)) :
    within enter exit body s = (.error reason, t) :=
  bind_of_error raised _

theorem within_of_ok (entered : enter s = (.ok (), t)) :
    within enter exit body s = tryFinally body exit t :=
  bind_of_ok entered _

end Method
