import OpenSomeIp.Lib.Method

set_option autoImplicit false

/-! Statements executed one after another, up to the first that raises. -/

namespace Method

variable {ε σ : Type}

def inOrder : List (Method ε σ Unit) → Method ε σ Unit
  | [] => pure ()
  | body :: rest => do
      body
      inOrder rest

theorem inOrder_cons_of_ok {body : Method ε σ Unit} {s t : σ} (returned : body s = (.ok (), t))
    (rest : List (Method ε σ Unit)) : inOrder (body :: rest) s = inOrder rest t := by
  rw [inOrder, bind_of_ok returned]

theorem inOrder_cons_of_error {body : Method ε σ Unit} {reason : ε} {s t : σ}
    (raised : body s = (.error reason, t)) (rest : List (Method ε σ Unit)) :
    inOrder (body :: rest) s = (.error reason, t) := by
  rw [inOrder, bind_of_error raised]

/-- What a statement keeps and what follows it keeps, the two keep. -/
theorem bind_keeps {α β : Type} {holds : σ → Prop} {first : Method ε σ α} {next : α → Method ε σ β}
    (head : ∀ s, holds s → holds (first s).2) (tail : ∀ value s, holds s → holds (next value s).2)
    {s : σ} (before : holds s) : holds ((first >>= next) s).2 := by
  have after := head s before
  rw [bind_apply]
  split
  · rename_i value t ran
    rw [ran] at after
    exact tail value t after
  · rename_i reason t ran
    rw [ran] at after
    exact after

/-- What every statement keeps, the whole sequence keeps, wherever it breaks off. -/
theorem inOrder_keeps {holds : σ → Prop} {bodies : List (Method ε σ Unit)}
    (keeps : ∀ body ∈ bodies, ∀ s, holds s → holds (body s).2) {s : σ} (before : holds s) :
    holds (inOrder bodies s).2 := by
  induction bodies generalizing s with
  | nil => exact before
  | cons body rest ih =>
      have after := keeps body List.mem_cons_self s before
      cases ran : body s with
      | mk result t =>
          rw [ran] at after
          cases result with
          | ok value =>
              rw [inOrder_cons_of_ok ran]
              exact ih (fun other member => keeps other (List.mem_cons_of_mem _ member)) after
          | error reason =>
              rw [inOrder_cons_of_error ran]
              exact after

/-- A statement that always returns still does where its object is an attribute. -/
theorem zoom_returns {τ : Type} {body : Method ε τ Unit}
    (returns : ∀ t, ∃ u, body t = (.ok (), u)) (part : σ → τ) (put : τ → σ → σ) (s : σ) :
    ∃ t, zoom part put body s = (.ok (), t) := by
  obtain ⟨u, returned⟩ := returns (part s)
  rw [zoom_apply, returned]
  exact ⟨put u s, rfl⟩

/-- Statements that return make a sequence that returns. -/
theorem inOrder_returns {bodies : List (Method ε σ Unit)}
    (returns : ∀ body ∈ bodies, ∀ s, ∃ t, body s = (.ok (), t)) (s : σ) :
    ∃ t, inOrder bodies s = (.ok (), t) := by
  induction bodies generalizing s with
  | nil => exact ⟨s, rfl⟩
  | cons body rest ih =>
      obtain ⟨t, returned⟩ := returns body List.mem_cons_self s
      rw [inOrder_cons_of_ok returned]
      exact ih (fun other member => returns other (List.mem_cons_of_mem _ member)) t

/-- Each statement establishes a condition of its own that the others keep: when the sequence
returns, all of them hold. -/
theorem inOrder_establishes {steps : List (Method ε σ Unit × (σ → Prop))}
    (establishes : ∀ step ∈ steps, ∀ s t, step.1 s = (.ok (), t) → step.2 t)
    (keeps : ∀ step ∈ steps, ∀ other ∈ steps, ∀ s, other.2 s → other.2 (step.1 s).2) {s t : σ}
    (returned : inOrder (steps.map (·.1)) s = (.ok (), t)) : ∀ step ∈ steps, step.2 t := by
  induction steps generalizing s with
  | nil =>
      intro step member
      cases member
  | cons first rest ih =>
      cases ran : first.1 s with
      | mk result u =>
          cases result with
          | error reason =>
              rw [List.map_cons, inOrder_cons_of_error ran] at returned
              cases returned
          | ok value =>
              rw [List.map_cons, inOrder_cons_of_ok ran] at returned
              have own : first.2 t := by
                have kept : ∀ body ∈ rest.map (·.1), ∀ s, first.2 s → first.2 (body s).2 := by
                  intro body member
                  obtain ⟨step, inside, rfl⟩ := List.mem_map.mp member
                  exact keeps step (List.mem_cons_of_mem _ inside) first List.mem_cons_self
                have after := inOrder_keeps kept (establishes first List.mem_cons_self s u ran)
                rw [returned] at after
                exact after
              have others : ∀ step ∈ rest, step.2 t := by
                apply ih _ _ returned
                · intro step member
                  exact establishes step (List.mem_cons_of_mem _ member)
                · intro step member other inside
                  exact keeps step (List.mem_cons_of_mem _ member) other
                    (List.mem_cons_of_mem _ inside)
              intro step member
              rcases List.mem_cons.mp member with rfl | inside
              · exact own
              · exact others step inside

end Method
