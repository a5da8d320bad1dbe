import Mathlib.Data.List.Basic

set_option autoImplicit false

/-! Slices of a list, by their places in it. -/

structure Slice where
  start : Nat
  length : Nat
  deriving DecidableEq, Repr

namespace Slice

variable {β : Type}

def Contains (slice : Slice) (place : Nat) : Prop :=
  slice.start ≤ place ∧ place < slice.start + slice.length

/-- No place lies in both. -/
def Apart (a b : Slice) : Prop := ∀ place, ¬ (a.Contains place ∧ b.Contains place)

def cut (xs : List β) (slice : Slice) : List β := (xs.drop slice.start).take slice.length

/-- The places of pieces that follow one another from a place on. -/
def tile : Nat → List (List β) → List Slice
  | _, [] => []
  | start, piece :: pieces => ⟨start, piece.length⟩ :: tile (start + piece.length) pieces

theorem tile_length (start : Nat) (pieces : List (List β)) :
    (tile start pieces).length = pieces.length := by
  induction pieces generalizing start with
  | nil => rfl
  | cons piece pieces ih => rw [tile, List.length_cons, List.length_cons, ih]

theorem tile_start_le {start : Nat} {pieces : List (List β)} {slice : Slice}
    (member : slice ∈ tile start pieces) : start ≤ slice.start := by
  induction pieces generalizing start with
  | nil => cases member
  | cons piece pieces ih =>
      rcases List.mem_cons.mp member with rfl | later
      · exact Nat.le_refl start
      · have after := ih later
        omega

/-- Pieces that follow one another do not overlap. -/
theorem tile_pairwise (start : Nat) (pieces : List (List β)) :
    (tile start pieces).Pairwise Apart := by
  induction pieces generalizing start with
  | nil => exact List.Pairwise.nil
  | cons piece pieces ih =>
      apply List.Pairwise.cons _ (ih _)
      intro slice later place
      have after := tile_start_le later
      simp only [Contains]
      omega

/-- The pieces are what is cut out at their places. -/
theorem map_cut_tile {xs : List β} {start : Nat} {pieces : List (List β)}
    (slices : pieces.flatten <+: xs.drop start) : (tile start pieces).map (cut xs) = pieces := by
  induction pieces generalizing start with
  | nil => rfl
  | cons piece pieces ih =>
      obtain ⟨rest, whole⟩ := slices
      rw [List.flatten_cons, List.append_assoc] at whole
      have head : cut xs ⟨start, piece.length⟩ = piece := by
        rw [cut, ← whole, List.take_left]
      have tail : pieces.flatten <+: xs.drop (start + piece.length) := by
        rw [← List.drop_drop, ← whole, List.drop_left]
        exact List.prefix_append _ _
      rw [tile, List.map_cons, head, ih tail]

/-- If one of the first pieces is not empty, one of them contains the place where they start. -/
theorem exists_contains_start {start count : Nat} {pieces : List (List β)}
    (nonempty : ∃ piece ∈ pieces.take count, piece ≠ []) :
    ∃ slice ∈ (tile start pieces).take count, slice.Contains start := by
  induction pieces generalizing start count with
  | nil =>
      obtain ⟨piece, member, -⟩ := nonempty
      rw [List.take_nil] at member
      cases member
  | cons piece pieces ih =>
      cases count with
      | zero =>
          obtain ⟨piece, member, -⟩ := nonempty
          cases member
      | succ count =>
          rw [tile, List.take_succ_cons]
          by_cases empty : piece = []
          · obtain ⟨other, member, filled⟩ := nonempty
            rw [List.take_succ_cons] at member
            have later : other ∈ pieces.take count := by
              rcases List.mem_cons.mp member with rfl | later
              · exact absurd empty filled
              · exact later
            have found : ∃ slice ∈ (tile start pieces).take count, slice.Contains start :=
              ih ⟨other, later, filled⟩
            obtain ⟨slice, inside, contains⟩ := found
            refine ⟨slice, ?_, contains⟩
            rw [empty, List.length_nil, Nat.add_zero]
            exact List.mem_cons_of_mem _ inside
          · refine ⟨⟨start, piece.length⟩, List.mem_cons_self, ?_⟩
            have filled := List.length_pos_of_ne_nil empty
            simp only [Contains]
            omega

/-- Empty pieces contain no place. -/
theorem not_contains_of_empty {start count : Nat} {pieces : List (List β)}
    (empty : ∀ piece ∈ pieces.take count, piece = []) :
    ∀ slice ∈ (tile start pieces).take count, ∀ place, ¬ slice.Contains place := by
  induction pieces generalizing start count with
  | nil =>
      intro slice member
      rw [tile, List.take_nil] at member
      cases member
  | cons piece pieces ih =>
      cases count with
      | zero =>
          intro slice member
          cases member
      | succ count =>
          rw [List.take_succ_cons] at empty
          intro slice member place
          rw [tile, List.take_succ_cons] at member
          rcases List.mem_cons.mp member with rfl | later
          · have none_left := empty piece List.mem_cons_self
            simp only [Contains, none_left, List.length_nil]
            omega
          · exact ih (fun other inside => empty other (List.mem_cons_of_mem _ inside)) slice later
              place

end Slice
