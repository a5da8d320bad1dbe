set_option autoImplicit false

/-! Logs of events in which each event is justified by the events before it. -/

namespace History

variable {ε : Type}

/-- Each event of the log fits the log up to it. -/
def Fits (fits : List ε → ε → Prop) (log : List ε) : Prop :=
  ∀ front e back, log = front ++ e :: back → fits front e

variable {fits : List ε → ε → Prop}

theorem fits_nil : Fits fits [] := by
  intro front e back split
  cases front <;> cases split

theorem fits_snoc {log : List ε} {e : ε} (kept : Fits fits log) (last : fits log e) :
    Fits fits (log ++ [e]) := by
  intro front other back split
  rcases List.append_eq_append_iff.mp split with ⟨rest, same, tail⟩ | ⟨rest, same, tail⟩
  · cases rest with
    | nil =>
        rw [List.append_nil] at same
        obtain ⟨rfl, _⟩ := List.cons.inj tail
        rw [same]
        exact last
    | cons x rest =>
        obtain ⟨_, absurd_tail⟩ := List.cons.inj tail
        cases rest <;> cases absurd_tail
  · cases rest with
    | nil =>
        obtain ⟨rfl, _⟩ := List.cons.inj tail
        rw [List.append_nil] at same
        rw [← same]
        exact last
    | cons x rest =>
        obtain ⟨rfl, _⟩ := List.cons.inj tail
        exact kept front other rest same

theorem fits_prefix {front log : List ε} (kept : Fits fits log) (inside : front <+: log) :
    Fits fits front := by
  rcases inside with ⟨rest, rfl⟩
  intro before e after split
  apply kept before e (after ++ rest)
  rw [split, List.append_assoc, List.cons_append]

/-- An event of the log has a place in it. -/
theorem fits_of_mem {log : List ε} {e : ε} (kept : Fits fits log) (member : e ∈ log) :
    ∃ front, front <+: log ∧ fits front e := by
  rcases List.append_of_mem member with ⟨front, back, split⟩
  exact ⟨front, ⟨e :: back, split.symm⟩, kept front e back split⟩

end History
