import OpenSomeIp.Lib.Method

set_option autoImplicit false

/-! Two implementations of one interface over different states: from related states they return
the same value or both raise, and leave related states. -/

variable {ε σ τ α β : Type} {related : σ → τ → Prop}

/-- The errors of the two may differ. -/
def Tandem (related : σ → τ → Prop) (first : Method ε σ α) (second : Method ε τ α) : Prop :=
  ∀ s t, related s t →
    (first s).1.toOption = (second t).1.toOption ∧ related (first s).2 (second t).2

theorem Tandem.pure (value : α) :
    Tandem related (Pure.pure value : Method ε σ α) (Pure.pure value) :=
  fun _ _ same => ⟨rfl, same⟩

theorem Tandem.lift (result : Except ε α) :
    Tandem related (Method.lift result : Method ε σ α) (Method.lift result) :=
  fun _ _ same => ⟨rfl, same⟩

theorem Tandem.bind {first : Method ε σ α} {second : Method ε τ α} {next : α → Method ε σ β}
    {follow : α → Method ε τ β} (head : Tandem related first second)
    (tail : ∀ value, Tandem related (next value) (follow value)) :
    Tandem related (first >>= next) (second >>= follow) := by
  intro s t same
  obtain ⟨result, after⟩ := head s t same
  rw [Method.bind_apply, Method.bind_apply]
  cases ranFirst : first s with
  | mk outcome u =>
      cases ranSecond : second t with
      | mk other v =>
          rw [ranFirst, ranSecond] at result after
          cases outcome with
          | ok value =>
              cases other with
              | ok _ =>
                  obtain rfl := Option.some.inj result
                  exact tail value u v after
              | error reason => cases result
          | error reason =>
              cases other with
              | ok value => cases result
              | error _ => exact ⟨rfl, after⟩

theorem Tandem.each {γ : Type} {body : γ → Method ε σ α} {other : γ → Method ε τ α} {xs : List γ}
    (bodies : ∀ x ∈ xs, Tandem related (body x) (other x)) :
    Tandem related (Method.each body xs) (Method.each other xs) := by
  induction xs with
  | nil => exact Tandem.pure []
  | cons x xs ih =>
      obtain ⟨head, tail⟩ := List.forall_mem_cons.mp bodies
      exact head.bind fun first => (ih tail).bind fun rest => Tandem.pure (first :: rest)
