import Mathlib

set_option autoImplicit false

/-! Polynomials over the field of two elements, as the numbers whose bits are their
coefficients, and the division that a shift register carries out on them. -/

namespace BinaryPolynomial

open Polynomial

/-- The coefficient that a bit stands for. -/
def coefficient (bit : Bool) : ZMod 2 := if bit then 1 else 0

theorem coefficient_xor (a b : Bool) :
    coefficient (a ^^ b) = coefficient a + coefficient b := by
  cases a <;> cases b <;> decide

/-- The polynomial whose coefficients are the bits of a number. -/
noncomputable def ofNat (n : Nat) : (ZMod 2)[X] :=
  ∑ i ∈ Finset.range n, C (coefficient (n.testBit i)) * X ^ i

/-- The polynomial of a bit string, most significant bit first. -/
noncomputable def ofBits (bits : List Bool) : (ZMod 2)[X] :=
  bits.foldl (fun p bit => p * X + C (coefficient bit)) 0

/-- The number of `width` bits whose bits are the coefficients of a polynomial. -/
noncomputable def toNat (width : Nat) (p : (ZMod 2)[X]) : Nat :=
  Nat.ofBits fun i : Fin width => decide (p.coeff i = 1)

/-- The low `width` bits of a number, most significant bit first. -/
def bitsOf : Nat → Nat → List Bool
  | 0, _ => []
  | width + 1, n => n.testBit width :: bitsOf width n

theorem ofNat_coeff (n i : Nat) : (ofNat n).coeff i = coefficient (n.testBit i) := by
  simp only [ofNat, finsetSum_coeff, coeff_C_mul_X_pow]
  by_cases inside : i < n
  · rw [Finset.sum_eq_single i]
    · rw [if_pos rfl]
    · intro j _ other
      rw [if_neg other.symm]
    · intro outside
      exact absurd (Finset.mem_range.mpr inside) outside
  · have high : n.testBit i = false :=
      Nat.testBit_lt_two_pow (Nat.lt_of_le_of_lt (by omega) Nat.lt_two_pow_self)
    rw [high]
    apply Finset.sum_eq_zero
    intro j member
    have below := Finset.mem_range.mp member
    rw [if_neg (by omega)]

theorem ofNat_xor (a b : Nat) : ofNat (a ^^^ b) = ofNat a + ofNat b := by
  ext i
  rw [coeff_add, ofNat_coeff, ofNat_coeff, ofNat_coeff, Nat.testBit_xor]
  exact coefficient_xor _ _

theorem ofNat_shiftLeft (n k : Nat) : ofNat (n <<< k) = ofNat n * X ^ k := by
  ext i
  rw [coeff_mul_X_pow', ofNat_coeff, Nat.testBit_shiftLeft]
  by_cases reached : k ≤ i
  · simp only [reached, ↓reduceIte, decide_true, Bool.true_and, ofNat_coeff]
  · simp only [reached, ↓reduceIte, decide_false, Bool.false_and, coefficient,
      Bool.false_eq_true]

theorem ofNat_two_pow (k : Nat) : ofNat (2 ^ k) = X ^ k := by
  ext i
  rw [ofNat_coeff, coeff_X_pow, Nat.testBit_two_pow]
  by_cases same : i = k
  · simp [same, coefficient]
  · simp [same, Ne.symm same, coefficient]

theorem ofNat_degree_lt {n width : Nat} (bounded : n < 2 ^ width) :
    (ofNat n).degree < width := by
  rw [degree_lt_iff_coeff_zero]
  intro i high
  have beyond : n < 2 ^ i := Nat.lt_of_lt_of_le bounded (Nat.pow_le_pow_right (by decide) high)
  rw [ofNat_coeff, Nat.testBit_lt_two_pow beyond]
  rfl

/-- A number of `width` bits is read back from its polynomial. -/
theorem toNat_ofNat {n width : Nat} (bounded : n < 2 ^ width) : toNat width (ofNat n) = n := by
  have bits : (fun i : Fin width => decide ((ofNat n).coeff i = 1)) =
      fun i : Fin width => n.testBit i := by
    funext i
    rw [ofNat_coeff]
    cases n.testBit i <;> decide
  rw [toNat, bits, Nat.ofBits_testBit, Nat.mod_eq_of_lt bounded]

theorem toNat_lt (width : Nat) (p : (ZMod 2)[X]) : toNat width p < 2 ^ width :=
  Nat.ofBits_lt_two_pow _

@[simp] theorem ofBits_nil : ofBits [] = 0 := rfl

theorem ofBits_snoc (bits : List Bool) (bit : Bool) :
    ofBits (bits ++ [bit]) = ofBits bits * X + C (coefficient bit) := by
  simp only [ofBits, List.foldl_append, List.foldl_cons, List.foldl_nil]

theorem ofBits_foldl (bits : List Bool) (p : (ZMod 2)[X]) :
    bits.foldl (fun p bit => p * X + C (coefficient bit)) p =
      p * X ^ bits.length + ofBits bits := by
  induction bits using List.reverseRecOn with
  | nil => simp
  | append_singleton bits bit ih =>
      rw [List.foldl_append, ih, ofBits_snoc, List.length_append, List.length_singleton, pow_succ]
      simp only [List.foldl_cons, List.foldl_nil]
      ring

/-- Appending bits shifts those in front of them. -/
theorem ofBits_append (front back : List Bool) :
    ofBits (front ++ back) = ofBits front * X ^ back.length + ofBits back := by
  rw [ofBits, List.foldl_append]
  exact ofBits_foldl back (ofBits front)

@[simp] theorem bitsOf_length (width n : Nat) : (bitsOf width n).length = width := by
  induction width with
  | zero => rfl
  | succ width ih => rw [bitsOf, List.length_cons, ih]

theorem ofBits_bitsOf_coeff (width n i : Nat) :
    (ofBits (bitsOf width n)).coeff i = coefficient (decide (i < width) && n.testBit i) := by
  induction width with
  | zero => simp [bitsOf, coefficient]
  | succ width ih =>
      have cons : bitsOf (width + 1) n = [n.testBit width] ++ bitsOf width n := rfl
      have single : ofBits [n.testBit width] = C (coefficient (n.testBit width)) := by
        rw [ofBits, List.foldl_cons, List.foldl_nil, zero_mul, zero_add]
      rw [cons, ofBits_append, single, bitsOf_length, coeff_add, coeff_C_mul_X_pow, ih]
      by_cases top : i = width
      · simp [top, coefficient]
      · have same : (i < width + 1) ↔ (i < width) := by omega
        simp only [top, ↓reduceIte, zero_add, same]

/-- The bits of a number spell its polynomial. -/
theorem ofBits_bitsOf {width n : Nat} (bounded : n < 2 ^ width) :
    ofBits (bitsOf width n) = ofNat n := by
  ext i
  rw [ofBits_bitsOf_coeff, ofNat_coeff]
  by_cases inside : i < width
  · rw [decide_eq_true inside, Bool.true_and]
  · have beyond : n < 2 ^ i :=
      Nat.lt_of_lt_of_le bounded (Nat.pow_le_pow_right (by decide) (by omega))
    rw [Nat.testBit_lt_two_pow beyond, Bool.and_false]

/-! ### The shift register -/

/-- The divisor of a register of `width` bits: the leading term and the low terms. -/
noncomputable def generator (width low : Nat) : (ZMod 2)[X] := X ^ width + ofNat low

/-- One turn of the register: it moves up by one bit, and the divisor is taken off where a
leading term falls out. -/
def shift (width low register : Nat) : Nat :=
  (if register.testBit (width - 1) then (register <<< 1) ^^^ low else register <<< 1) % 2 ^ width

/-- A chunk of `size` bits enters at the top of the register. -/
def feed (width low size register chunk : Nat) : Nat :=
  (shift width low)^[size] (register ^^^ (chunk <<< (width - size)))

theorem shift_lt (width low register : Nat) : shift width low register < 2 ^ width :=
  Nat.mod_lt _ (Nat.two_pow_pos width)

theorem iterate_shift_lt {width low register : Nat} (bounded : register < 2 ^ width)
    (count : Nat) : (shift width low)^[count] register < 2 ^ width := by
  cases count with
  | zero => exact bounded
  | succ count =>
      rw [Function.iterate_succ_apply']
      exact shift_lt _ _ _

section Divisor

variable {width low : Nat}

theorem generator_monic (bounded : low < 2 ^ width) : (generator width low).Monic :=
  monic_X_pow_add (ofNat_degree_lt bounded)

theorem generator_degree (bounded : low < 2 ^ width) : (generator width low).degree = width := by
  have dominated : (ofNat low).degree < (X ^ width : (ZMod 2)[X]).degree := by
    rw [degree_X_pow]
    exact ofNat_degree_lt bounded
  rw [generator, degree_add_eq_left_of_degree_lt dominated, degree_X_pow]

/-- What falls out at the top is a multiple of the divisor. -/
theorem ofNat_shift (positive : 0 < width) (bounded : low < 2 ^ width) {register : Nat}
    (fits : register < 2 ^ width) :
    ofNat (shift width low register) =
      ofNat register * X + if register.testBit (width - 1) then generator width low else 0 := by
  have double : 2 ^ width = 2 * 2 ^ (width - 1) := by
    rw [← Nat.pow_succ', Nat.succ_eq_add_one, Nat.sub_add_cancel positive]
  by_cases top : register.testBit (width - 1) = true
  · have cleared : ((register <<< 1) ^^^ low) % 2 ^ width =
        (register <<< 1) ^^^ low ^^^ 2 ^ width := by
      apply Nat.eq_of_testBit_eq
      intro i
      rw [Nat.testBit_mod_two_pow, Nat.testBit_xor, Nat.testBit_xor, Nat.testBit_xor,
        Nat.testBit_shiftLeft, Nat.testBit_two_pow]
      by_cases inside : i < width
      · simp [inside, Nat.ne_of_gt inside]
      · have lowClear : low.testBit i = false :=
          Nat.testBit_lt_two_pow
            (Nat.lt_of_lt_of_le bounded (Nat.pow_le_pow_right (by decide) (by omega)))
        by_cases leading : i = width
        · have reached : 1 ≤ width := positive
          simp [leading, leading ▸ lowClear, top, reached]
        · have clear : register.testBit (i - 1) = false :=
            Nat.testBit_lt_two_pow
              (Nat.lt_of_lt_of_le fits (Nat.pow_le_pow_right (by decide) (by omega)))
          simp [inside, lowClear, clear, Ne.symm leading]
    rw [shift, if_pos top, if_pos top, cleared, ofNat_xor, ofNat_xor, ofNat_shiftLeft,
      ofNat_two_pow, pow_one, generator]
    ring
  · have halved : register < 2 ^ (width - 1) := by
      by_cases below : register < 2 ^ (width - 1)
      · exact below
      · have set : register.testBit (width - 1) = true := by
          apply Nat.testBit_of_two_pow_le_and_two_pow_add_one_gt
          · omega
          · rw [Nat.sub_add_cancel positive]
            exact fits
        exact absurd set top
    have small : register <<< 1 < 2 ^ width := by
      rw [Nat.shiftLeft_eq]
      omega
    rw [shift, if_neg top, if_neg top, Nat.mod_eq_of_lt small, ofNat_shiftLeft, pow_one, add_zero]

theorem mk_mul_add {divisor a b : (ZMod 2)[X]}
    (same : AdjoinRoot.mk divisor a = AdjoinRoot.mk divisor b) (c d : (ZMod 2)[X]) :
    AdjoinRoot.mk divisor (a * c + d) = AdjoinRoot.mk divisor (b * c + d) := by
  rw [map_add, map_add, map_mul, map_mul, same]

/-- A turn multiplies the register by `X`, as a residue of the divisor. -/
theorem mk_shift (positive : 0 < width) (bounded : low < 2 ^ width) {register : Nat}
    (fits : register < 2 ^ width) :
    AdjoinRoot.mk (generator width low) (ofNat (shift width low register)) =
      AdjoinRoot.mk (generator width low) (ofNat register * X) := by
  rw [ofNat_shift positive bounded fits, map_add]
  split
  · rw [AdjoinRoot.mk_self, add_zero]
  · rw [map_zero, add_zero]

theorem mk_iterate_shift (positive : 0 < width) (bounded : low < 2 ^ width) {register : Nat}
    (fits : register < 2 ^ width) (count : Nat) :
    AdjoinRoot.mk (generator width low) (ofNat ((shift width low)^[count] register)) =
      AdjoinRoot.mk (generator width low) (ofNat register * X ^ count) := by
  induction count with
  | zero => rw [Function.iterate_zero_apply, pow_zero, mul_one]
  | succ count ih =>
      rw [Function.iterate_succ_apply',
        mk_shift positive bounded (iterate_shift_lt fits count), map_mul, ih, ← map_mul, pow_succ,
        mul_assoc]

section Feeding

variable {size : Nat}

theorem mixed_lt (within : size ≤ width) {register chunk : Nat} (fits : register < 2 ^ width)
    (small : chunk < 2 ^ size) : register ^^^ (chunk <<< (width - size)) < 2 ^ width := by
  apply Nat.xor_lt_two_pow fits
  rw [Nat.shiftLeft_eq]
  calc chunk * 2 ^ (width - size) < 2 ^ size * 2 ^ (width - size) :=
        Nat.mul_lt_mul_of_pos_right small (Nat.two_pow_pos _)
    _ = 2 ^ width := by rw [← Nat.pow_add, Nat.add_sub_cancel' within]

theorem feed_lt (within : size ≤ width) {register chunk : Nat} (fits : register < 2 ^ width)
    (small : chunk < 2 ^ size) : feed width low size register chunk < 2 ^ width :=
  iterate_shift_lt (mixed_lt within fits small) size

/-- A chunk enters behind what was fed before it. -/
theorem mk_feed (positive : 0 < width) (bounded : low < 2 ^ width) (within : size ≤ width)
    {register chunk : Nat} (fits : register < 2 ^ width) (small : chunk < 2 ^ size) :
    AdjoinRoot.mk (generator width low) (ofNat (feed width low size register chunk)) =
      AdjoinRoot.mk (generator width low) (ofNat register * X ^ size + ofNat chunk * X ^ width) := by
  have lifted : (X : (ZMod 2)[X]) ^ (width - size) * X ^ size = X ^ width := by
    rw [← pow_add, Nat.sub_add_cancel within]
  rw [feed, mk_iterate_shift positive bounded (mixed_lt within fits small), ofNat_xor,
    ofNat_shiftLeft, add_mul, mul_assoc, lifted]

/-- The invariant of the loop over the chunks: the register is congruent to the message so far,
shifted by the width, plus the initial value, shifted by the message. -/
theorem mk_foldl_feed (positive : 0 < width) (bounded : low < 2 ^ width) (within : size ≤ width)
    {register : Nat} (fits : register < 2 ^ width) (chunks : List Nat)
    (small : ∀ chunk ∈ chunks, chunk < 2 ^ size) :
    chunks.foldl (feed width low size) register < 2 ^ width ∧
      AdjoinRoot.mk (generator width low) (ofNat (chunks.foldl (feed width low size) register)) =
        AdjoinRoot.mk (generator width low)
          (ofBits (chunks.flatMap (bitsOf size)) * X ^ width +
            ofNat register * X ^ (size * chunks.length)) := by
  induction chunks using List.reverseRecOn with
  | nil =>
      refine ⟨fits, ?_⟩
      simp only [List.foldl_nil, List.flatMap_nil, ofBits_nil, zero_mul, zero_add,
        List.length_nil, Nat.mul_zero, pow_zero, mul_one]
  | append_singleton chunks chunk ih =>
      obtain ⟨reached, invariant⟩ := ih fun c member => small c (List.mem_append_left _ member)
      have last : chunk < 2 ^ size := small chunk (by simp)
      rw [List.foldl_append, List.foldl_cons, List.foldl_nil]
      refine ⟨feed_lt within reached last, ?_⟩
      have appended : ofBits ((chunks ++ [chunk]).flatMap (bitsOf size)) =
          ofBits (chunks.flatMap (bitsOf size)) * X ^ size + ofNat chunk := by
        rw [List.flatMap_append, List.flatMap_singleton, ofBits_append, bitsOf_length,
          ofBits_bitsOf last]
      have longer : (X : (ZMod 2)[X]) ^ (size * (chunks ++ [chunk]).length) =
          X ^ (size * chunks.length) * X ^ size := by
        rw [List.length_append, List.length_singleton, Nat.mul_succ, pow_add]
      have behind : ofBits ((chunks ++ [chunk]).flatMap (bitsOf size)) * X ^ width +
          ofNat register * X ^ (size * (chunks ++ [chunk]).length) =
            (ofBits (chunks.flatMap (bitsOf size)) * X ^ width +
              ofNat register * X ^ (size * chunks.length)) * X ^ size +
                ofNat chunk * X ^ width := by
        rw [appended, longer]
        ring
      rw [behind, mk_feed positive bounded within reached last]
      exact mk_mul_add invariant (X ^ size) (ofNat chunk * X ^ width)

/-- What the register holds after the last chunk is the remainder of the division. -/
theorem foldl_feed_eq_remainder (positive : 0 < width) (bounded : low < 2 ^ width)
    (within : size ≤ width) {register : Nat} (fits : register < 2 ^ width) (chunks : List Nat)
    (small : ∀ chunk ∈ chunks, chunk < 2 ^ size) :
    chunks.foldl (feed width low size) register =
      toNat width ((ofBits (chunks.flatMap (bitsOf size)) * X ^ width +
        ofNat register * X ^ (size * chunks.length)) %ₘ generator width low) := by
  obtain ⟨reached, invariant⟩ := mk_foldl_feed positive bounded within fits chunks small
  have monic := generator_monic bounded
  have degree : (ofNat (chunks.foldl (feed width low size) register)).degree <
      (generator width low).degree := by
    rw [generator_degree bounded]
    exact ofNat_degree_lt reached
  have remainder : (ofNat (chunks.foldl (feed width low size) register)) %ₘ generator width low =
      (ofBits (chunks.flatMap (bitsOf size)) * X ^ width +
        ofNat register * X ^ (size * chunks.length)) %ₘ generator width low :=
    modByMonic_eq_of_dvd_sub monic (AdjoinRoot.mk_eq_mk.mp invariant)
  rw [← remainder, (modByMonic_eq_self_iff monic).mpr degree, toNat_ofNat reached]

end Feeding

end Divisor

end BinaryPolynomial
