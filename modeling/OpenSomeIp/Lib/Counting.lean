import OpenSomeIp.Lib.Method

set_option autoImplicit false

/-! Calls of one part of a method, counted as they are made. -/

namespace Method

variable {ε σ α β : Type}

/-- The call and one more on the counter, also where the call raises. -/
def counted (body : Method ε σ α) : Method ε (σ × Nat) α :=
  fun s => ((body s.1).1, ((body s.1).2, s.2 + 1))

def uncounted (body : Method ε σ α) : Method ε (σ × Nat) α :=
  zoom Prod.fst (fun t s => (t, s.2)) body

@[simp] theorem counted_apply (body : Method ε σ α) (s : σ × Nat) :
    counted body s = ((body s.1).1, ((body s.1).2, s.2 + 1)) := rfl

@[simp] theorem uncounted_apply (body : Method ε σ α) (s : σ × Nat) :
    uncounted body s = ((body s.1).1, ((body s.1).2, s.2)) := rfl

/-- Without its counter, a counting method does what the plain one does. -/
def Erases (counting : Method ε (σ × Nat) α) (plain : Method ε σ α) : Prop :=
  ∀ s count, ∃ more, counting (s, count) = ((plain s).1, ((plain s).2, more))

theorem counted_erases (body : Method ε σ α) : Erases (counted body) body :=
  fun _ count => ⟨count + 1, rfl⟩

theorem uncounted_erases (body : Method ε σ α) : Erases (uncounted body) body :=
  fun _ count => ⟨count, rfl⟩

theorem pure_erases (value : α) :
    Erases (pure value : Method ε (σ × Nat) α) (pure value : Method ε σ α) :=
  fun _ count => ⟨count, rfl⟩

theorem Erases.bind {first : Method ε (σ × Nat) α} {plain : Method ε σ α}
    {next : α → Method ε (σ × Nat) β} {rest : α → Method ε σ β} (head : Erases first plain)
    (tail : ∀ value, Erases (next value) (rest value)) :
    Erases (first >>= next) (plain >>= rest) := by
  intro s count
  obtain ⟨middle, ran⟩ := head s count
  rw [bind_apply, bind_apply, ran]
  cases plain s with
  | mk result t =>
      cases result with
      | ok value => exact tail value t middle
      | error reason => exact ⟨middle, rfl⟩

theorem Erases.times {body : Method ε (σ × Nat) α} {plain : Method ε σ α}
    (each : Erases body plain) (count : Nat) : Erases (times count body) (times count plain) := by
  induction count with
  | zero => exact pure_erases []
  | succ count ih =>
      exact each.bind fun first => ih.bind fun rest => pure_erases (first :: rest)

end Method
