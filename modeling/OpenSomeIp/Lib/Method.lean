set_option autoImplicit false

/-- The body of a method: it reads and writes the attributes `σ` of an object
and returns or raises. What it wrote before raising stays written. -/
def Method (ε σ α : Type) : Type := σ → Except ε α × σ

namespace Method

variable {ε σ τ α β : Type}

protected def pure (value : α) : Method ε σ α := fun s => (.ok value, s)

protected def bind (first : Method ε σ α) (next : α → Method ε σ β) : Method ε σ β :=
  fun s =>
    match first s with
    | (.ok value, t) => next value t
    | (.error reason, t) => (.error reason, t)

instance : Monad (Method ε σ) where
  pure := Method.pure
  bind := Method.bind

/-- The statement `raise reason`. -/
def raise (reason : ε) : Method ε σ α := fun s => (.error reason, s)

/-- The current attributes. -/
def get : Method ε σ σ := fun s => (.ok s, s)

def modify (update : σ → σ) : Method ε σ Unit := fun s => (.ok (), update s)

/-- A computation that touches no attribute. -/
def lift (result : Except ε α) : Method ε σ α := fun s => (result, s)

/-- The statement `try: body / except reason: handler reason`; the handler starts from what
the body left behind. -/
def tryExcept (body : Method ε σ α) (handler : ε → Method ε σ α) : Method ε σ α :=
  fun s =>
    match body s with
    | (.ok value, t) => (.ok value, t)
    | (.error reason, t) => handler reason t

/-- A method of an attribute that is itself an object. -/
def zoom (part : σ → τ) (put : τ → σ → σ) (body : Method ε τ α) : Method ε σ α :=
  fun s => ((body (part s)).1, put (body (part s)).2 s)

/-- The list `[body() for _ in range(count)]`. -/
def times : Nat → Method ε σ α → Method ε σ (List α)
  | 0, _ => pure []
  | count + 1, body => do
      let first ← body
      let rest ← times count body
      pure (first :: rest)

/-- The list `[body(x) for x in xs]`. -/
def each (body : α → Method ε σ β) : List α → Method ε σ (List β)
  | [] => pure []
  | x :: xs => do
      let first ← body x
      let rest ← each body xs
      pure (first :: rest)

@[simp] theorem pure_apply (value : α) (s : σ) :
    (pure value : Method ε σ α) s = (.ok value, s) := rfl

@[simp] theorem raise_apply (reason : ε) (s : σ) :
    (raise reason : Method ε σ α) s = (.error reason, s) := rfl

@[simp] theorem get_apply (s : σ) : (get : Method ε σ σ) s = (.ok s, s) := rfl

@[simp] theorem modify_apply (update : σ → σ) (s : σ) :
    (modify update : Method ε σ Unit) s = (.ok (), update s) := rfl

@[simp] theorem lift_apply (result : Except ε α) (s : σ) :
    (lift result : Method ε σ α) s = (result, s) := rfl

@[simp] theorem zoom_apply (part : σ → τ) (put : τ → σ → σ) (body : Method ε τ α) (s : σ) :
    zoom part put body s = ((body (part s)).1, put (body (part s)).2 s) := rfl

/-- What the method establishes when it returns holds of the part it is called on. -/
theorem zoom_establishes {part : σ → τ} {put : τ → σ → σ} {body : Method ε τ α} {value : α}
    {holds : τ → Prop} (establishes : ∀ t u, body t = (.ok value, u) → holds u)
    (back : ∀ t s, part (put t s) = t) {s s' : σ}
    (returned : zoom part put body s = (.ok value, s')) : holds (part s') := by
  obtain ⟨result, rfl⟩ := Prod.mk.inj returned
  rw [back]
  exact establishes _ _ (Prod.ext result rfl)

theorem bind_apply (first : Method ε σ α) (next : α → Method ε σ β) (s : σ) :
    (first >>= next) s =
      match first s with
      | (.ok value, t) => next value t
      | (.error reason, t) => (.error reason, t) := rfl

/-- What follows a call that returned runs on the attributes the call left. -/
theorem bind_of_ok {first : Method ε σ α} {value : α} {s t : σ}
    (returned : first s = (.ok value, t)) (next : α → Method ε σ β) :
    (first >>= next) s = next value t := by
  rw [bind_apply, returned]

/-- Nothing follows a call that raised. -/
theorem bind_of_error {first : Method ε σ α} {reason : ε} {s t : σ}
    (raised : first s = (.error reason, t)) (next : α → Method ε σ β) :
    (first >>= next) s = (.error reason, t) := by
  rw [bind_apply, raised]

theorem bind_eq_ok {first : Method ε σ α} {next : α → Method ε σ β} {value : β} {s u : σ}
    (returned : (first >>= next) s = (.ok value, u)) :
    ∃ middle t, first s = (.ok middle, t) ∧ next middle t = (.ok value, u) := by
  rw [bind_apply] at returned
  split at returned
  · rename_i middle t same
    exact ⟨middle, t, same, returned⟩
  · cases returned

/-- Another value to return is no other state. -/
theorem bind_pure_state (first : Method ε σ α) (value : β) (s : σ) :
    ((first >>= fun _ => pure value) s).2 = (first s).2 := by
  rw [bind_apply]
  split
  · rename_i middle t ran
    rw [ran, pure_apply]
  · rename_i reason t ran
    rw [ran]

theorem bind_assoc {γ : Type} (first : Method ε σ α) (next : α → Method ε σ β)
    (last : β → Method ε σ γ) :
    (first >>= next) >>= last = first >>= fun value => next value >>= last := by
  funext s
  rw [bind_apply, bind_apply, bind_apply]
  cases first s with
  | mk result t =>
      cases result with
      | ok value => rfl
      | error reason => rfl

theorem tryExcept_of_ok {body : Method ε σ α} {value : α} {s t : σ}
    (returned : body s = (.ok value, t)) (handler : ε → Method ε σ α) :
    tryExcept body handler s = (.ok value, t) := by
  simp only [tryExcept, returned]

theorem tryExcept_of_error {body : Method ε σ α} {reason : ε} {s t : σ}
    (raised : body s = (.error reason, t)) (handler : ε → Method ε σ α) :
    tryExcept body handler s = handler reason t := by
  simp only [tryExcept, raised]

theorem each_cons_of_ok {body : α → Method ε σ β} {x : α} {xs : List α} {first : β}
    {rest : List β} {s t u : σ} (head : body x s = (.ok first, t))
    (tail : each body xs t = (.ok rest, u)) :
    each body (x :: xs) s = (.ok (first :: rest), u) := by
  rw [each, bind_of_ok head, bind_of_ok tail, pure_apply]

/-- After the first call returned, the rest decides. -/
theorem each_cons_of_first {body : α → Method ε σ β} {x : α} {first : β} {s t : σ}
    (head : body x s = (.ok first, t)) (xs : List α) :
    each body (x :: xs) s = ((each body xs t).1.map (first :: ·), (each body xs t).2) := by
  rw [each, bind_of_ok head, bind_apply]
  split
  · rename_i rest u same
    rw [same]
    rfl
  · rename_i reason u same
    rw [same]
    rfl

theorem each_cons_of_error {body : α → Method ε σ β} {x : α} {reason : ε} {s t : σ}
    (head : body x s = (.error reason, t)) (xs : List α) :
    each body (x :: xs) s = (.error reason, t) := by
  rw [each, bind_of_error head]

theorem each_cons_eq_ok {body : α → Method ε σ β} {x : α} {xs : List α} {results : List β}
    {s u : σ} (returned : each body (x :: xs) s = (.ok results, u)) :
    ∃ first t rest, body x s = (.ok first, t) ∧ each body xs t = (.ok rest, u) ∧
      results = first :: rest := by
  obtain ⟨first, t, head, returned⟩ := bind_eq_ok returned
  obtain ⟨rest, v, tail, returned⟩ := bind_eq_ok returned
  rw [pure_apply] at returned
  cases returned
  exact ⟨first, t, rest, head, tail, rfl⟩

theorem length_times {count : Nat} {body : Method ε σ α} {results : List α} {s u : σ}
    (returned : times count body s = (.ok results, u)) : results.length = count := by
  induction count generalizing s results u with
  | zero =>
      cases returned
      rfl
  | succ count ih =>
      obtain ⟨first, t, -, returned⟩ := bind_eq_ok returned
      obtain ⟨rest, v, tail, returned⟩ := bind_eq_ok returned
      rw [pure_apply] at returned
      cases returned
      rw [List.length_cons, ih tail]

end Method
