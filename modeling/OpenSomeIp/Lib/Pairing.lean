import Mathlib.Data.List.Perm.Basic
import Mathlib.Data.List.Perm.Subperm

set_option autoImplicit false

/-! Lists related element by element, when one of them is cut off or loses elements or their order. -/

namespace Pairing

open List

variable {α β : Type} {R : α → β → Prop}

theorem exists_of_sublist {xs : List α} {ys zs : List β} (paired : Forall₂ R xs ys)
    (within : zs.Sublist ys) : ∃ ws, ws.Sublist xs ∧ Forall₂ R ws zs := by
  induction within generalizing xs with
  | slnil => exact ⟨[], List.nil_sublist xs, .nil⟩
  | cons y _ ih =>
      obtain ⟨x, rest, _, others, rfl⟩ := forall₂_cons_right_iff.mp paired
      obtain ⟨ws, inside, related⟩ := ih others
      exact ⟨ws, inside.cons x, related⟩
  | cons_cons y _ ih =>
      obtain ⟨x, rest, first, others, rfl⟩ := forall₂_cons_right_iff.mp paired
      obtain ⟨ws, inside, related⟩ := ih others
      exact ⟨x :: ws, inside.cons_cons x, .cons first related⟩

theorem exists_of_getElem? {xs : List α} {ys : List β} (paired : Forall₂ R xs ys) {k : Nat} {y : β}
    (there : ys[k]? = some y) : ∃ x, xs[k]? = some x ∧ R x y := by
  induction paired generalizing k with
  | nil => cases there
  | cons first _ ih =>
      cases k with
      | zero =>
          obtain rfl := Option.some.inj there
          exact ⟨_, rfl, first⟩
      | succ k => exact ih there

theorem exists_of_prefix {xs : List α} {ys zs : List β} (paired : Forall₂ R xs ys)
    (front : zs <+: ys) : ∃ ws, ws <+: xs ∧ Forall₂ R ws zs := by
  induction paired generalizing zs with
  | nil =>
      obtain rfl := List.prefix_nil.mp front
      exact ⟨[], List.nil_prefix, .nil⟩
  | cons first _ ih =>
      cases zs with
      | nil => exact ⟨[], List.nil_prefix, .nil⟩
      | cons z zs =>
          obtain ⟨rfl, within⟩ := List.cons_prefix_cons.mp front
          obtain ⟨ws, inside, related⟩ := ih within
          exact ⟨_ :: ws, List.cons_prefix_cons.mpr ⟨rfl, inside⟩, .cons first related⟩

theorem exists_of_subperm {xs : List α} {ys zs : List β} (paired : Forall₂ R xs ys)
    (within : zs.Subperm ys) : ∃ ws, ws.Subperm xs ∧ Forall₂ R ws zs := by
  obtain ⟨shuffled, permuted, inside⟩ := within
  obtain ⟨front, sublist, related⟩ := exists_of_sublist paired inside
  have turned : Forall₂ (flip R) shuffled front := related.flip
  obtain ⟨ws, others, same⟩ := perm_comp_forall₂ permuted.symm turned
  exact ⟨ws, ⟨front, same.symm, sublist⟩, others.flip⟩

end Pairing
