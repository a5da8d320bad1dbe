import Mathlib.Data.List.Perm.Basic

set_option autoImplicit false

/-! Entries of several writers in one list, and what each of them wrote. -/

namespace Lanes

variable {κ β : Type} [DecidableEq κ]

/-- The entries of one writer, in their order. -/
def lane (k : κ) (xs : List (κ × β)) : List β := (xs.filter fun x => x.1 = k).map Prod.snd

@[simp] theorem lane_nil (k : κ) : lane k ([] : List (κ × β)) = [] := rfl

@[simp] theorem lane_append (k : κ) (xs ys : List (κ × β)) :
    lane k (xs ++ ys) = lane k xs ++ lane k ys := by
  simp [lane]

@[simp] theorem lane_own (k : κ) (b : β) : lane k [(k, b)] = [b] := by
  simp [lane]

theorem lane_other {k l : κ} (ne : l ≠ k) (b : β) : lane k [(l, b)] = [] := by
  simp [lane, ne]

theorem pair_lane (k : κ) (xs : List (κ × β)) :
    (lane k xs).map (Prod.mk k) = xs.filter fun x => x.1 = k := by
  induction xs with
  | nil => rfl
  | cons x xs ih =>
      by_cases same : x.1 = k
      · subst same
        simp only [lane, List.filter_cons, decide_true, ↓reduceIte, List.map_cons] at ih ⊢
        rw [ih]
      · simp only [lane, List.filter_cons, same, decide_false, Bool.false_eq_true,
          ↓reduceIte] at ih ⊢
        exact ih

/-- Lists that agree writer by writer hold the same entries. -/
theorem perm_of_lanes {xs ys : List (κ × β)} (same : ∀ k, lane k xs = lane k ys) :
    xs.Perm ys := by
  classical
  rw [List.perm_iff_count]
  intro x
  have filtered : (xs.filter fun y => y.1 = x.1).count x =
      (ys.filter fun y => y.1 = x.1).count x := by
    rw [← pair_lane, ← pair_lane, same]
  rwa [List.count_filter (by simp), List.count_filter (by simp)] at filtered

end Lanes
