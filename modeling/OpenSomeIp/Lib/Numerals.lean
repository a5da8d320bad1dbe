import Mathlib.Data.List.Basic

set_option autoImplicit false

/-! Numbers in positional notation, and texts that are put together from fields that end in a
separator. -/

namespace Numerals

/-- The digit that a character is, up to the base sixteen. -/
def digitOf (c : Char) : Nat := (List.range 16).findIdx fun digit => digit.digitChar == c

theorem digitOf_digitChar {digit : Nat} (small : digit < 16) : digitOf digit.digitChar = digit := by
  have all : ∀ d ∈ List.range 16, digitOf d.digitChar = d := by decide
  exact all digit (List.mem_range.mpr small)

def step (base value : Nat) (c : Char) : Nat := value * base + digitOf c

/-- The number that the digits say. -/
def value (base : Nat) (digits : List Char) : Nat := digits.foldl (step base) 0

variable {base : Nat}

theorem value_snoc (front : List Char) (c : Char) :
    value base (front ++ [c]) = value base front * base + digitOf c := by
  rw [value, List.foldl_append]
  rfl

theorem value_toDigits (positional : 1 < base) (small : base ≤ 16) (n : Nat) :
    value base (Nat.toDigits base n) = n := by
  induction n using Nat.strongRecOn with
  | ind n ih =>
      by_cases one : n < base
      · rw [Nat.toDigits_of_lt_base one, value, List.foldl_cons, List.foldl_nil, step,
          digitOf_digitChar (Nat.lt_of_lt_of_le one small), Nat.zero_mul, Nat.zero_add]
      · have more : base ≤ n := Nat.le_of_not_lt one
        have last : n % base < 16 :=
          Nat.lt_of_lt_of_le (Nat.mod_lt n (Nat.lt_trans Nat.zero_lt_one positional)) small
        have less : n / base < n :=
          Nat.div_lt_self (Nat.lt_of_lt_of_le (Nat.lt_trans Nat.zero_lt_one positional) more)
            positional
        rw [Nat.toDigits_of_base_le positional more, value_snoc, ih _ less, digitOf_digitChar last]
        exact Nat.div_add_mod' n base

/-- Zeros in front say nothing. -/
theorem value_padded (count : Nat) (digits : List Char) :
    value base (List.replicate count '0' ++ digits) = value base digits := by
  induction count with
  | zero => rfl
  | succ count ih =>
      have zero : step base 0 '0' = 0 := by
        rw [step, Nat.zero_mul, Nat.zero_add]
        rfl
      rw [List.replicate_succ, List.cons_append, value, List.foldl_cons, zero]
      exact ih

theorem toDigits_padded_injective (positional : 1 < base) (small : base ≤ 16) {m n k l : Nat}
    (same : List.replicate k '0' ++ Nat.toDigits base m =
      List.replicate l '0' ++ Nat.toDigits base n) : m = n := by
  have values := congrArg (value base) same
  rw [value_padded, value_padded, value_toDigits positional small,
    value_toDigits positional small] at values
  exact values

theorem digit_of_mem {n : Nat} {c : Char} (positional : 1 < base) (member : c ∈ Nat.toDigits base n) :
    ∃ digit, digit < base ∧ c = digit.digitChar := by
  induction n using Nat.strongRecOn with
  | ind n ih =>
      by_cases one : n < base
      · rw [Nat.toDigits_of_lt_base one] at member
        exact ⟨n, one, List.mem_singleton.mp member⟩
      · have more : base ≤ n := Nat.le_of_not_lt one
        have positive : 0 < base := Nat.lt_trans Nat.zero_lt_one positional
        rw [Nat.toDigits_of_base_le positional more, List.mem_append, List.mem_singleton] at member
        rcases member with front | last
        · exact ih _ (Nat.div_lt_self (Nat.lt_of_lt_of_le positive more) positional) front
        · exact ⟨n % base, Nat.mod_lt n positive, last⟩

/-- A field that does not hold the separator ends at its first, whatever follows. -/
theorem field_injective {α : Type} {separator : α} {front front' back back' : List α}
    (clean : separator ∉ front) (clean' : separator ∉ front')
    (same : front ++ separator :: back = front' ++ separator :: back') :
    front = front' ∧ back = back' := by
  induction front generalizing front' with
  | nil =>
      cases front' with
      | nil => exact ⟨rfl, (List.cons.inj same).2⟩
      | cons x rest =>
          obtain ⟨rfl, _⟩ := List.cons.inj same
          exact absurd List.mem_cons_self clean'
  | cons x front ih =>
      cases front' with
      | nil =>
          obtain ⟨rfl, _⟩ := List.cons.inj same
          exact absurd List.mem_cons_self clean
      | cons y front' =>
          obtain ⟨rfl, rest⟩ := List.cons.inj same
          obtain ⟨rfl, tail⟩ := ih (fun member => clean (List.mem_cons_of_mem _ member))
            (fun member => clean' (List.mem_cons_of_mem _ member)) rest
          exact ⟨rfl, tail⟩

end Numerals
