import Mathlib.Algebra.Order.Floor.Div
import Mathlib.Data.List.Basic

set_option autoImplicit false

namespace Chunks

variable {β : Type}

/-- A list cut into pieces of `size` elements, the last one as long as what remains. -/
def chunks (size : Nat) (xs : List β) : List (List β) :=
  if xs = [] ∨ size = 0 then [] else xs.take size :: chunks size (xs.drop size)
termination_by xs.length
decreasing_by
  rename_i more
  have nonempty : 0 < xs.length := List.length_pos_of_ne_nil fun empty => more (.inl empty)
  rw [List.length_drop]
  omega

variable {size : Nat}

@[simp] theorem chunks_nil : chunks size ([] : List β) = [] := by
  rw [chunks, if_pos (.inl rfl)]

theorem chunks_of_ne_nil (positive : 0 < size) {xs : List β} (nonempty : xs ≠ []) :
    chunks size xs = xs.take size :: chunks size (xs.drop size) := by
  rw [chunks, if_neg]
  intro stop
  rcases stop with empty | zero
  · exact nonempty empty
  · omega

theorem chunks_of_length_le (positive : 0 < size) {xs : List β} (nonempty : xs ≠ [])
    (bounded : xs.length ≤ size) : chunks size xs = [xs] := by
  rw [chunks_of_ne_nil positive nonempty, List.take_of_length_le bounded,
    List.drop_of_length_le bounded, chunks_nil]

/-- A list that is too long for one piece is cut into at least two, the first one full. -/
theorem chunks_of_lt (positive : 0 < size) {xs : List β} (long : size < xs.length) :
    chunks size xs =
      xs.take size :: (xs.drop size).take size :: chunks size ((xs.drop size).drop size) := by
  have nonempty : xs ≠ [] := List.ne_nil_of_length_pos (by omega)
  have rest : xs.drop size ≠ [] := by
    apply List.ne_nil_of_length_pos
    rw [List.length_drop]
    omega
  rw [chunks_of_ne_nil positive nonempty, chunks_of_ne_nil positive rest]

/-- Nothing is lost by cutting. -/
theorem flatten_chunks (positive : 0 < size) (xs : List β) : (chunks size xs).flatten = xs := by
  induction measured : xs.length using Nat.strongRecOn generalizing xs with
  | ind length ih =>
      by_cases nonempty : xs = []
      · rw [nonempty, chunks_nil, List.flatten_nil]
      · have some_left : 0 < xs.length := List.length_pos_of_ne_nil nonempty
        have shorter : (xs.drop size).length < length := by
          rw [List.length_drop]
          omega
        rw [chunks_of_ne_nil positive nonempty, List.flatten_cons,
          ih (xs.drop size).length shorter (xs.drop size) rfl, List.take_append_drop]

theorem ceilDiv_of_lt (positive : 0 < size) {n : Nat} (more : 0 < n) :
    n ⌈/⌉ size = (n - size) ⌈/⌉ size + 1 := by
  rw [Nat.ceilDiv_eq_add_pred_div, Nat.ceilDiv_eq_add_pred_div]
  by_cases whole : size ≤ n
  · have front : n + size - 1 = n - size + size - 1 + size := by omega
    rw [front, Nat.add_div_right _ positive]
  · have left : n - size + size - 1 = size - 1 := by omega
    have reached : n + size - 1 = n - 1 + size := by omega
    rw [left, reached, Nat.add_div_right _ positive, Nat.div_eq_of_lt (by omega),
      Nat.div_eq_of_lt (by omega)]

/-- How many pieces there are. -/
theorem length_chunks (positive : 0 < size) (xs : List β) :
    (chunks size xs).length = xs.length ⌈/⌉ size := by
  induction measured : xs.length using Nat.strongRecOn generalizing xs with
  | ind length ih =>
      by_cases nonempty : xs = []
      · rw [← measured, nonempty, chunks_nil, List.length_nil, List.length_nil, zero_ceilDiv]
      · have some_left : 0 < xs.length := List.length_pos_of_ne_nil nonempty
        have rest : (xs.drop size).length = length - size := by rw [List.length_drop, measured]
        rw [chunks_of_ne_nil positive nonempty, List.length_cons,
          ih (length - size) (by omega) (xs.drop size) rest,
          ceilDiv_of_lt positive (by omega : 0 < length)]

/-- Where they lie. -/
theorem getElem?_chunks (positive : 0 < size) {xs chunk : List β} {k : Nat}
    (there : (chunks size xs)[k]? = some chunk) :
    size * k < xs.length ∧ chunk = (xs.drop (size * k)).take size := by
  induction k generalizing xs with
  | zero =>
      by_cases nonempty : xs = []
      · rw [nonempty, chunks_nil] at there
        cases there
      · rw [chunks_of_ne_nil positive nonempty, List.getElem?_cons_zero, Option.some.injEq] at there
        rw [Nat.mul_zero, List.drop_zero]
        exact ⟨List.length_pos_of_ne_nil nonempty, there.symm⟩
  | succ k ih =>
      by_cases nonempty : xs = []
      · rw [nonempty, chunks_nil] at there
        cases there
      · rw [chunks_of_ne_nil positive nonempty, List.getElem?_cons_succ] at there
        obtain ⟨inside, same⟩ := ih there
        have place : size * (k + 1) = size + size * k := by rw [Nat.mul_succ, Nat.add_comm]
        rw [List.length_drop] at inside
        rw [place]
        refine ⟨by omega, ?_⟩
        rw [same, List.drop_drop]

theorem length_le_of_mem (positive : 0 < size) {xs chunk : List β}
    (member : chunk ∈ chunks size xs) : chunk.length ≤ size := by
  induction measured : xs.length using Nat.strongRecOn generalizing xs with
  | ind length ih =>
      by_cases nonempty : xs = []
      · rw [nonempty, chunks_nil] at member
        exact absurd member List.not_mem_nil
      · have some_left : 0 < xs.length := List.length_pos_of_ne_nil nonempty
        have shorter : (xs.drop size).length < length := by
          rw [List.length_drop]
          omega
        rw [chunks_of_ne_nil positive nonempty] at member
        rcases List.mem_cons.mp member with rfl | later
        · rw [List.length_take]
          omega
        · exact ih (xs.drop size).length shorter later rfl

end Chunks
