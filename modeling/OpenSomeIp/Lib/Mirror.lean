import Mathlib.Data.Set.Insert
import Mathlib.Order.BooleanAlgebra.Set
import Mathlib.Logic.Function.Basic

set_option autoImplicit false

/-! A set of values beside a table that holds one entry under each key, where a value has a key
and an entry. -/

namespace Mirror

variable {α κ β : Type}

/-- The values of the set are those whose entry the table holds. -/
def Mirrors (field : α → κ × β) (values : Set α) (table : κ → Option β) : Prop :=
  ∀ x, x ∈ values ↔ table (field x).1 = some (field x).2

/-- No other value of the set has that key. -/
def Alone (field : α → κ × β) (values : Set α) (x : α) : Prop :=
  ∀ y ∈ values, (field y).1 = (field x).1 → y = x

variable {field : α → κ × β} {values : Set α} {table : κ → Option β} {x : α}

theorem mirrors_clear : Mirrors field ∅ fun _ => none := by
  intro y
  exact iff_of_false (Set.notMem_empty y) fun entry => nomatch entry

theorem mirrors_empty (mirrors : Mirrors field values table) :
    Mirrors field ∅ table ↔ values = ∅ := by
  constructor
  · intro empty
    apply Set.eq_empty_of_forall_notMem
    intro y member
    exact Set.notMem_empty y ((empty y).mpr ((mirrors y).mp member))
  · intro empty
    rw [empty] at mirrors
    exact mirrors

theorem mirrors_insert (mirrors : Mirrors field values table) :
    Mirrors field (insert x values) table ↔ x ∈ values := by
  constructor
  · intro grown
    exact (mirrors x).mpr ((grown x).mp (Set.mem_insert x values))
  · intro member
    rw [Set.insert_eq_of_mem member]
    exact mirrors

theorem mirrors_erase (mirrors : Mirrors field values table) :
    Mirrors field (values \ {x}) table ↔ x ∉ values := by
  constructor
  · intro shrunk member
    exact ((shrunk x).mpr ((mirrors x).mp member)).2 rfl
  · intro absent
    rw [Set.sdiff_singleton_eq_self absent]
    exact mirrors

variable [DecidableEq κ]

/-- Both take in a value: the table replaces the entry under its key. -/
theorem mirrors_put (injective : Function.Injective field) (mirrors : Mirrors field values table) :
    Mirrors field (insert x values)
        (Function.update table (field x).1 (some (field x).2)) ↔ Alone field values x := by
  constructor
  · intro put y member same
    have entry := (put y).mp (Set.mem_insert_of_mem x member)
    rw [same, Function.update_self] at entry
    exact injective (Prod.ext same (Option.some.inj entry).symm)
  · intro alone y
    rw [Set.mem_insert_iff]
    by_cases same : (field y).1 = (field x).1
    · rw [same, Function.update_self]
      constructor
      · intro member
        have equal : y = x := member.elim id fun old => alone y old same
        rw [equal]
      · intro entry
        exact .inl (injective (Prod.ext same (Option.some.inj entry).symm))
    · have other : y ≠ x := by
        intro equal
        exact same (by rw [equal])
      rw [Function.update_of_ne same, ← mirrors y]
      simp only [other, false_or]

/-- Both drop a value: the table, whatever entry is under its key. -/
theorem mirrors_drop (mirrors : Mirrors field values table) :
    Mirrors field (values \ {x}) (Function.update table (field x).1 none) ↔
      Alone field values x := by
  constructor
  · intro dropped y member same
    by_contra other
    have entry := (dropped y).mp ⟨member, other⟩
    rw [same, Function.update_self] at entry
    cases entry
  · intro alone y
    by_cases same : (field y).1 = (field x).1
    · rw [same, Function.update_self]
      apply iff_of_false
      · rintro ⟨member, other⟩
        exact other (alone y member same)
      · intro entry
        cases entry
    · have other : y ∉ ({x} : Set α) := by
        intro equal
        exact same (by rw [Set.mem_singleton_iff.mp equal])
      rw [Function.update_of_ne same, ← mirrors y]
      simp only [Set.mem_sdiff, other, not_false_eq_true, and_true]

end Mirror
