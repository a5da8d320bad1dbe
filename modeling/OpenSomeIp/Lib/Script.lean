import Mathlib.Data.List.Basic

set_option autoImplicit false

/-! Calls whose outcomes are settled beforehand, by the number of the call. -/

namespace Script

variable {ε α β : Type} (outcomes : Nat → Option ε)

/-- What is accepted of a list that is handed over one by one, from a call on, up to the
first that is refused. -/
def taken : Nat → List α → List α
  | _, [] => []
  | call, x :: xs =>
      match outcomes call with
      | none => x :: taken (call + 1) xs
      | some _ => []

/-- The reason of that refusal. -/
def refusal : Nat → List α → Option ε
  | _, [] => none
  | call, _ :: xs =>
      match outcomes call with
      | none => refusal (call + 1) xs
      | some reason => some reason

/-- The number of the call behind the last one made. -/
def next : Nat → List α → Nat
  | call, [] => call
  | call, _ :: xs =>
      match outcomes call with
      | none => next (call + 1) xs
      | some _ => call + 1

variable {outcomes}

theorem taken_map (f : α → β) (call : Nat) (xs : List α) :
    taken outcomes call (xs.map f) = (taken outcomes call xs).map f := by
  induction xs generalizing call with
  | nil => rfl
  | cons x xs ih =>
      rw [List.map_cons, taken, taken]
      cases outcomes call with
      | none => simp only [ih, List.map_cons]
      | some reason => rfl

theorem refusal_map (f : α → β) (call : Nat) (xs : List α) :
    refusal outcomes call (xs.map f) = refusal outcomes call xs := by
  induction xs generalizing call with
  | nil => rfl
  | cons x xs ih =>
      rw [List.map_cons, refusal, refusal]
      cases outcomes call with
      | none => simp only [ih]
      | some reason => rfl

theorem next_map (f : α → β) (call : Nat) (xs : List α) :
    next outcomes call (xs.map f) = next outcomes call xs := by
  induction xs generalizing call with
  | nil => rfl
  | cons x xs ih =>
      rw [List.map_cons, next, next]
      cases outcomes call with
      | none => simp only [ih]
      | some reason => rfl

/-- A refusal is the outcome of the call behind the accepted ones. -/
theorem refusal_eq_some {call : Nat} {xs : List α} {reason : ε}
    (refused : refusal outcomes call xs = some reason) :
    ∃ count, count < xs.length ∧ (∀ i, i < count → outcomes (call + i) = none) ∧
      outcomes (call + count) = some reason ∧ taken outcomes call xs = xs.take count ∧
      next outcomes call xs = call + count + 1 := by
  induction xs generalizing call with
  | nil => cases refused
  | cons x xs ih =>
      rw [refusal] at refused
      cases accepted : outcomes call with
      | none =>
          simp only [accepted] at refused
          obtain ⟨count, bound, before, outcome, front, after⟩ := ih refused
          refine ⟨count + 1, Nat.succ_lt_succ bound, ?_, ?_, ?_, ?_⟩
          · intro i smaller
            cases i with
            | zero => exact accepted
            | succ i =>
                rw [Nat.add_succ, ← Nat.succ_add]
                exact before i (by omega)
          · rw [Nat.add_succ, ← Nat.succ_add]
            exact outcome
          · simp only [taken, accepted, front, List.take_succ_cons]
          · simp only [next, accepted, after]
            omega
      | some other =>
          simp only [accepted, Option.some.injEq] at refused
          subst refused
          refine ⟨0, Nat.succ_pos _, ?_, accepted, ?_, ?_⟩
          · intro i smaller
            omega
          · simp only [taken, accepted, List.take_zero]
          · simp only [next, accepted, Nat.add_zero]

/-- Conversely, the first call with such an outcome refuses. -/
theorem refusal_of_first {call count : Nat} {xs : List α} {reason : ε} (bound : count < xs.length)
    (before : ∀ i, i < count → outcomes (call + i) = none)
    (outcome : outcomes (call + count) = some reason) :
    refusal outcomes call xs = some reason ∧ taken outcomes call xs = xs.take count ∧
      next outcomes call xs = call + count + 1 := by
  induction xs generalizing call count with
  | nil => simp only [List.length_nil, Nat.not_lt_zero] at bound
  | cons x xs ih =>
      cases count with
      | zero =>
          rw [Nat.add_zero] at outcome
          simp only [refusal, taken, next, outcome, List.take_zero, Nat.add_zero, and_self]
      | succ count =>
          have accepted : outcomes call = none := before 0 (Nat.succ_pos count)
          have later : outcomes (call + 1 + count) = some reason := by
            rw [Nat.succ_add]
            exact outcome
          have earlier : ∀ i, i < count → outcomes (call + 1 + i) = none := by
            intro i smaller
            rw [Nat.succ_add]
            exact before (i + 1) (by omega)
          obtain ⟨refused, front, after⟩ := ih (Nat.lt_of_succ_lt_succ bound) earlier later
          simp only [refusal, taken, next, accepted, refused, front, after, List.take_succ_cons,
            true_and]
          omega

/-- Where every call is accepted, all is. -/
theorem taken_of_accepted {call : Nat} {xs : List α}
    (accepted : ∀ i, i < xs.length → outcomes (call + i) = none) :
    refusal outcomes call xs = none ∧ taken outcomes call xs = xs := by
  induction xs generalizing call with
  | nil => exact ⟨rfl, rfl⟩
  | cons x xs ih =>
      have first : outcomes call = none := accepted 0 (Nat.succ_pos xs.length)
      have later : ∀ i, i < xs.length → outcomes (call + 1 + i) = none := by
        intro i smaller
        rw [Nat.succ_add]
        exact accepted (i + 1) (Nat.succ_lt_succ smaller)
      obtain ⟨silent, rest⟩ := ih later
      simp only [refusal, taken, first, silent, rest, and_self]

theorem taken_sublist (call : Nat) (xs : List α) : (taken outcomes call xs).Sublist xs := by
  induction xs generalizing call with
  | nil => exact List.Sublist.slnil
  | cons x xs ih =>
      rw [taken]
      cases outcomes call with
      | none => exact (ih _).cons_cons x
      | some reason => exact List.nil_sublist _

theorem taken_cons_of_none {call : Nat} {x : α} (accepted : outcomes call = none) (xs : List α) :
    taken outcomes call (x :: xs) = x :: taken outcomes (call + 1) xs := by
  simp only [taken, accepted]

theorem taken_of_some {call : Nat} {reason : ε} (refused : outcomes call = some reason)
    (xs : List α) : taken outcomes call xs = [] := by
  cases xs with
  | nil => rfl
  | cons x xs => simp only [taken, refused]

end Script
