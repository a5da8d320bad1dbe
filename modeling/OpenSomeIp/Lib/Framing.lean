import OpenSomeIp.Lib.Method

set_option autoImplicit false

/-! Writers that append to an output and readers that walk over an input.

`place front back` is the reader's object with the cursor between `front` and
`back`; `emitted front` is the writer's object after it has put out `front`. -/

namespace Framing

variable {ε σ α β γ δ : Type}

/-- The reader returns `value` and leaves the cursor just behind `bytes`,
whatever stands before and after them. -/
def Consumes (place : List β → List β → σ) (reader : Method ε σ α) (bytes : List β)
    (value : α) : Prop :=
  ∀ front back, reader (place front (bytes ++ back)) = (.ok value, place (front ++ bytes) back)

/-- The writer returns and has put out `bytes`, whatever stood before them. -/
def Emits (emitted : List β → σ) (writer : Method ε σ α) (bytes : List β) : Prop :=
  ∀ front, ∃ value, writer (emitted front) = (.ok value, emitted (front ++ bytes))

section Readers

variable {place : List β → List β → σ}

theorem Consumes.pure (value : α) :
    Consumes place (Pure.pure value : Method ε σ α) [] value := by
  intro front back
  rw [Method.pure_apply, List.nil_append, List.append_nil]

theorem Consumes.lift {result : Except ε α} {value : α} (success : result = .ok value) :
    Consumes place (Method.lift result) [] value := by
  intro front back
  rw [Method.lift_apply, success, List.nil_append, List.append_nil]

theorem Consumes.bind {first : Method ε σ α} {next : α → Method ε σ δ}
    {head tail : List β} {a : α} {d : δ} (consumesHead : Consumes place first head a)
    (consumesTail : Consumes place (next a) tail d) :
    Consumes place (first >>= next) (head ++ tail) d := by
  intro front back
  have start := consumesHead front (tail ++ back)
  rw [List.append_assoc, Method.bind_of_ok start, consumesTail, List.append_assoc]

/-- A reader that ends in a step over no input consumes what its first part does. -/
theorem Consumes.bind_nil {first : Method ε σ α} {next : α → Method ε σ δ}
    {bytes : List β} {a : α} {d : δ} (consumes : Consumes place first bytes a)
    (last : Consumes place (next a) [] d) : Consumes place (first >>= next) bytes d := by
  simpa only [List.append_nil] using consumes.bind last

theorem Consumes.times {reader : Method ε σ β} (bytes : List β)
    (consumes : ∀ b ∈ bytes, Consumes place reader [b] b) :
    Consumes place (Method.times bytes.length reader) bytes bytes := by
  induction bytes with
  | nil => exact Consumes.pure []
  | cons b bytes ih =>
      have rest := ih (fun c member => consumes c (List.mem_cons_of_mem b member))
      exact (consumes b List.mem_cons_self).bind (rest.bind_nil (Consumes.pure (b :: bytes)))

/-- A reader called as often as there are values consumes their frames, one after the other. -/
theorem Consumes.repeated {reader : Method ε σ δ} {frame : δ → List β} (values : List δ)
    (consumes : ∀ v ∈ values, Consumes place reader (frame v) v) :
    Consumes place (Method.times values.length reader) (values.flatMap frame) values := by
  induction values with
  | nil => exact Consumes.pure []
  | cons v values ih =>
      have rest := ih (fun w member => consumes w (List.mem_cons_of_mem v member))
      exact (consumes v List.mem_cons_self).bind (rest.bind_nil (Consumes.pure (v :: values)))

/-- Readers in a row consume a concatenation, element by element. -/
theorem Consumes.each {reader : γ → Method ε σ δ} {frame : δ → List β} {kind : δ → γ}
    (values : List δ) (consumes : ∀ v ∈ values, Consumes place (reader (kind v)) (frame v) v) :
    Consumes place (Method.each reader (values.map kind)) (values.flatMap frame) values := by
  induction values with
  | nil => exact Consumes.pure []
  | cons v values ih =>
      have rest := ih (fun w member => consumes w (List.mem_cons_of_mem v member))
      exact (consumes v List.mem_cons_self).bind (rest.bind_nil (Consumes.pure (v :: values)))

end Readers

section Writers

variable {emitted : List β → σ}

theorem Emits.pure (value : α) : Emits emitted (Pure.pure value : Method ε σ α) [] := by
  intro front
  exact ⟨value, by rw [Method.pure_apply, List.append_nil]⟩

theorem Emits.lift {result : Except ε α} {next : α → Method ε σ γ} {value : α}
    {bytes : List β} (success : result = .ok value) (emits : Emits emitted (next value) bytes) :
    Emits emitted (Method.lift result >>= next) bytes := by
  intro front
  have passed : (Method.lift result : Method ε σ α) (emitted front) =
      (.ok value, emitted front) := by
    rw [Method.lift_apply, success]
  rw [Method.bind_of_ok passed]
  exact emits front

theorem Emits.bind {first : Method ε σ α} {next : α → Method ε σ γ} {head tail : List β}
    (emitsHead : Emits emitted first head) (emitsTail : ∀ a, Emits emitted (next a) tail) :
    Emits emitted (first >>= next) (head ++ tail) := by
  intro front
  obtain ⟨a, start⟩ := emitsHead front
  obtain ⟨c, stop⟩ := emitsTail a (front ++ head)
  exact ⟨c, by rw [Method.bind_of_ok start, stop, List.append_assoc]⟩

theorem Emits.each {writer : δ → Method ε σ γ} {frame : δ → List β} (values : List δ)
    (emits : ∀ v ∈ values, Emits emitted (writer v) (frame v)) :
    Emits emitted (Method.each writer values) (values.flatMap frame) := by
  induction values with
  | nil => exact Emits.pure []
  | cons v values ih =>
      have rest := ih (fun w member => emits w (List.mem_cons_of_mem v member))
      intro front
      obtain ⟨first, start⟩ := emits v List.mem_cons_self front
      obtain ⟨others, stop⟩ := rest (front ++ frame v)
      refine ⟨first :: others, ?_⟩
      rw [List.flatMap_cons, ← List.append_assoc]
      exact Method.each_cons_of_ok start stop

end Writers

/-! ### Calls whose exceptions are caught -/

/-- The calls of a list one after the other, every exception caught: those that returned, and
the object they leave. -/
def attempts (body : γ → Method ε σ α) : List γ → σ → List γ × σ
  | [], s => ([], s)
  | x :: xs, s =>
      match body x s with
      | (.ok _, t) => (x :: (attempts body xs t).1, (attempts body xs t).2)
      | (.error _, t) => attempts body xs t

theorem attempts_cons_of_ok {body : γ → Method ε σ α} {x : γ} {value : α} {s t : σ}
    (returned : body x s = (.ok value, t)) (xs : List γ) :
    attempts body (x :: xs) s = (x :: (attempts body xs t).1, (attempts body xs t).2) := by
  rw [attempts, returned]

theorem attempts_cons_of_error {body : γ → Method ε σ α} {x : γ} {reason : ε} {s t : σ}
    (raised : body x s = (.error reason, t)) (xs : List γ) :
    attempts body (x :: xs) s = attempts body xs t := by
  rw [attempts, raised]

section Attempts

variable {τ κ : Type} {emitted : List β → σ} {place : List β → List β → τ}

/-- Behind `front` the writer raises and puts out nothing, or it puts out bytes from which the
reader returns `value`. -/
def Conveys (emitted : List β → σ) (place : List β → List β → τ) (writer : Method ε σ α)
    (reader : Method ε τ δ) (value : δ) (front : List β) : Prop :=
  (∃ reason, writer (emitted front) = (.error reason, emitted front)) ∨
    ∃ result bytes, writer (emitted front) = (.ok result, emitted (front ++ bytes)) ∧
      Consumes place reader bytes value

/-- From what such writers have put out the readers return what was accepted, in its order. -/
theorem attempts_conveys {writer : γ → Method ε σ α} {reader : κ → Method ε τ δ}
    {value : γ → δ} {kind : δ → κ} (calls : List γ)
    (conveys : ∀ call ∈ calls, ∀ front,
      Conveys emitted place (writer call) (reader (kind (value call))) (value call) front)
    (front : List β) :
    ∃ bytes, (attempts writer calls (emitted front)).2 = emitted (front ++ bytes) ∧
      Consumes place
        (Method.each reader (((attempts writer calls (emitted front)).1.map value).map kind))
        bytes ((attempts writer calls (emitted front)).1.map value) := by
  induction calls generalizing front with
  | nil => exact ⟨[], by rw [List.append_nil]; rfl, Consumes.pure []⟩
  | cons call calls ih =>
      have others := ih (fun other member => conveys other (List.mem_cons_of_mem call member))
      rcases conveys call List.mem_cons_self front with
        ⟨reason, raised⟩ | ⟨result, bytes, returned, consumes⟩
      · rw [attempts_cons_of_error raised]
        exact others front
      · obtain ⟨rest, put, reads⟩ := others (front ++ bytes)
        rw [attempts_cons_of_ok returned]
        refine ⟨bytes ++ rest, ?_, ?_⟩
        · rw [put, List.append_assoc]
        · exact consumes.bind (reads.bind_nil (Consumes.pure _))

end Attempts

end Framing
