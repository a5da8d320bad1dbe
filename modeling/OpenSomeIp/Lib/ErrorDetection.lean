import OpenSomeIp.Lib.BinaryPolynomial

set_option autoImplicit false

/-! Which differences between two messages a remainder tells. -/

namespace ErrorDetection

/-- Two lists that agree outside one run of at most `size` elements. -/
def DifferWithin {α : Type} (size : Nat) (xs ys : List α) : Prop :=
  ∃ front mid other back, xs = front ++ mid ++ back ∧ ys = front ++ other ++ back ∧
    mid.length = other.length ∧ mid.length ≤ size

/-- The number of places in which two bit strings differ. -/
def distance (xs ys : List Bool) : Nat := (xs.zip ys).countP fun pair => pair.1 != pair.2

/-- A run of elements is a run of the pieces they are spelt with. -/
theorem DifferWithin.flatMap {α β : Type} {size width : Nat} {spell : α → List β}
    (spelt : ∀ x, (spell x).length = width) {xs ys : List α} (differ : DifferWithin size xs ys) :
    DifferWithin (width * size) (xs.flatMap spell) (ys.flatMap spell) := by
  have length : ∀ zs : List α, (zs.flatMap spell).length = width * zs.length := by
    intro zs
    induction zs with
    | nil => rfl
    | cons z zs ih =>
        rw [List.flatMap_cons, List.length_append, spelt, ih, List.length_cons]
        ring
  obtain ⟨front, mid, other, back, rfl, rfl, same, within⟩ := differ
  refine ⟨front.flatMap spell, mid.flatMap spell, other.flatMap spell, back.flatMap spell,
    ?_, ?_, ?_, ?_⟩
  · rw [List.flatMap_append, List.flatMap_append]
  · rw [List.flatMap_append, List.flatMap_append]
  · rw [length, length, same]
  · rw [length]
    exact Nat.mul_le_mul_left width within

theorem DifferWithin.refl {α : Type} {size : Nat} (xs : List α) : DifferWithin size xs xs :=
  ⟨xs, [], [], [], by simp, by simp, rfl, Nat.zero_le size⟩

theorem DifferWithin.length_eq {α : Type} {size : Nat} {xs ys : List α}
    (differ : DifferWithin size xs ys) : xs.length = ys.length := by
  obtain ⟨front, mid, other, back, rfl, rfl, same, within⟩ := differ
  simp only [List.length_append, same]

theorem DifferWithin.drop {α : Type} {size : Nat} {xs ys : List α}
    (differ : DifferWithin size xs ys) (count : Nat) :
    DifferWithin size (xs.drop count) (ys.drop count) := by
  obtain ⟨front, mid, other, back, rfl, rfl, same, within⟩ := differ
  refine ⟨front.drop count, mid.drop (count - front.length), other.drop (count - front.length),
    back.drop (count - (front ++ mid).length), ?_, ?_, ?_, ?_⟩
  · rw [List.drop_append, List.drop_append]
  · rw [List.drop_append, List.drop_append, List.length_append, List.length_append, same]
  · rw [List.length_drop, List.length_drop, same]
  · rw [List.length_drop]
    omega

/-- A run does not reach across a gap of its own size. -/
theorem DifferWithin.take_or_drop {α : Type} {size first last : Nat} {xs ys : List α}
    (differ : DifferWithin size xs ys) (gap : first + size ≤ last + 1) :
    xs.take first = ys.take first ∨ xs.drop last = ys.drop last := by
  obtain ⟨front, mid, other, back, rfl, rfl, same, within⟩ := differ
  by_cases early : first ≤ front.length
  · left
    rw [List.append_assoc, List.append_assoc, List.take_append_of_le_length early,
      List.take_append_of_le_length early]
  · right
    have past (piece : List α) (whole : mid.length = piece.length) :
        (front ++ piece ++ back).drop last =
          back.drop (last - (front.length + mid.length)) := by
      rw [List.drop_append, List.drop_eq_nil_of_le, List.length_append, ← whole, List.nil_append]
      rw [List.length_append]
      omega
    rw [past mid rfl, past other same]

/-- Lists that are spelt alike, in pieces of one length, are the same. -/
theorem flatMap_inj {α β : Type} {width : Nat} {spell : α → List β}
    (spelt : ∀ x, (spell x).length = width) (injective : Function.Injective spell)
    {xs ys : List α} (size : xs.length = ys.length)
    (same : xs.flatMap spell = ys.flatMap spell) : xs = ys := by
  induction xs generalizing ys with
  | nil => exact (List.length_eq_zero_iff.mp size.symm).symm
  | cons x xs ih =>
      cases ys with
      | nil => cases size
      | cons y ys =>
          rw [List.flatMap_cons, List.flatMap_cons] at same
          have sizes : (spell x).length = (spell y).length := by rw [spelt, spelt]
          obtain ⟨head, tail⟩ := List.append_inj same sizes
          have rest : xs = ys := ih (Nat.succ.inj size) tail
          rw [injective head, rest]

end ErrorDetection

namespace BinaryPolynomial

open ErrorDetection Polynomial

theorem ofBits_cons (bit : Bool) (bits : List Bool) :
    ofBits (bit :: bits) = C (coefficient bit) * X ^ bits.length + ofBits bits := by
  have split : bit :: bits = [bit] ++ bits := rfl
  rw [split, ofBits_append, ofBits, List.foldl_cons, List.foldl_nil, zero_mul, zero_add]

theorem ofBits_degree_lt (bits : List Bool) : (ofBits bits).degree < bits.length := by
  induction bits with
  | nil =>
      rw [ofBits_nil, degree_zero]
      exact WithBot.bot_lt_coe _
  | cons bit bits ih =>
      have longer : ((bits.length : Nat) : WithBot Nat) < ((bit :: bits).length : Nat) := by
        rw [List.length_cons]
        exact WithBot.coe_lt_coe.mpr (Nat.lt_succ_self _)
      rw [ofBits_cons]
      apply lt_of_le_of_lt (degree_add_le _ _)
      apply max_lt
      · exact lt_of_le_of_lt (degree_C_mul_X_pow_le _ _) longer
      · exact lt_trans ih longer

theorem coefficient_inj {a b : Bool} : coefficient a = coefficient b ↔ a = b := by
  cases a <;> cases b <;> decide

/-- Bit strings of one length are told apart by their polynomials. -/
theorem ofBits_inj {xs ys : List Bool} (size : xs.length = ys.length)
    (same : ofBits xs = ofBits ys) : xs = ys := by
  induction xs generalizing ys with
  | nil => exact (List.length_eq_zero_iff.mp size.symm).symm
  | cons x xs ih =>
      cases ys with
      | nil => cases size
      | cons y ys =>
          have sizes : xs.length = ys.length := Nat.succ.inj size
          have leading : ∀ (bit : Bool) (bits : List Bool),
              (ofBits (bit :: bits)).coeff bits.length = coefficient bit := by
            intro bit bits
            rw [ofBits_cons, coeff_add, coeff_C_mul_X_pow, if_pos rfl,
              coeff_eq_zero_of_degree_lt (ofBits_degree_lt bits), add_zero]
          have head : x = y := by
            rw [← coefficient_inj, ← leading x xs, same, sizes, leading]
          rw [ofBits_cons, ofBits_cons, head, sizes, add_right_inj] at same
          rw [head, ih sizes same]

/-- The value at one counts the bits, modulo two. -/
theorem eval_one_sub (xs ys : List Bool) (size : xs.length = ys.length) :
    (ofBits xs - ofBits ys).eval 1 = (distance xs ys : ZMod 2) := by
  induction xs generalizing ys with
  | nil =>
      obtain rfl := List.length_eq_zero_iff.mp size.symm
      simp [distance]
  | cons x xs ih =>
      cases ys with
      | nil => cases size
      | cons y ys =>
          have rest := ih ys (Nat.succ.inj size)
          have bit : coefficient x - coefficient y = if x != y then 1 else 0 := by
            cases x <;> cases y <;> decide
          have counted : distance (x :: xs) (y :: ys) =
              distance xs ys + if x != y then 1 else 0 := by
            rw [distance, List.zip_cons_cons, List.countP_cons]
            rfl
          rw [counted, Nat.cast_add, ← rest]
          simp only [ofBits_cons, eval_sub, eval_add, eval_mul, eval_C, eval_pow, eval_X, one_pow,
            mul_one, Nat.cast_ite, Nat.cast_one, Nat.cast_zero, ← bit]
          ring

/-- A divisor with the root one divides the difference of two messages only if they differ in an
even number of places. -/
theorem even_distance_of_dvd {divisor : (ZMod 2)[X]} (root : divisor.eval 1 = 0)
    {xs ys : List Bool} (size : xs.length = ys.length) (dvd : divisor ∣ ofBits xs - ofBits ys) :
    Even (distance xs ys) := by
  have vanishes : (ofBits xs - ofBits ys).eval 1 = 0 := by
    obtain ⟨quotient, same⟩ := dvd
    rw [same, eval_mul, root, zero_mul]
  rw [eval_one_sub xs ys size, ZMod.natCast_eq_zero_iff] at vanishes
  exact even_iff_two_dvd.mpr vanishes

section Divisor

variable {width low : Nat}

/-- A divisor with a constant term has no factor in common with the powers of `X`. -/
theorem generator_coprime (positive : 0 < width) (constant : low.testBit 0 = true) (count : Nat) :
    IsCoprime (generator width low) (X ^ count) := by
  have unit : (generator width low).coeff 0 = 1 := by
    have above : ¬ 0 = width := by omega
    rw [generator, coeff_add, coeff_X_pow, if_neg above, ofNat_coeff, constant, zero_add]
    rfl
  apply IsCoprime.pow_right
  apply IsCoprime.symm
  apply (irreducible_X.coprime_iff_not_dvd).mpr
  rw [X_dvd_iff, unit]
  exact one_ne_zero

/-- Messages that leave the same register differ by a multiple of the divisor. -/
theorem dvd_of_same_register (positive : 0 < width) (bounded : low < 2 ^ width)
    (constant : low.testBit 0 = true) {size : Nat} (within : size ≤ width) {register : Nat}
    (fits : register < 2 ^ width) {chunks others : List Nat}
    (small : ∀ chunk ∈ chunks, chunk < 2 ^ size) (tiny : ∀ chunk ∈ others, chunk < 2 ^ size)
    (count : chunks.length = others.length)
    (same : chunks.foldl (feed width low size) register =
      others.foldl (feed width low size) register) :
    generator width low ∣
      ofBits (chunks.flatMap (bitsOf size)) - ofBits (others.flatMap (bitsOf size)) := by
  have one := (mk_foldl_feed positive bounded within fits chunks small).2
  have two := (mk_foldl_feed positive bounded within fits others tiny).2
  rw [same, two, count] at one
  have dvd := AdjoinRoot.mk_eq_mk.mp one.symm
  rw [add_sub_add_right_eq_sub, ← sub_mul] at dvd
  exact (generator_coprime positive constant width).dvd_of_dvd_mul_right dvd

/-- A divisor with a constant term divides no difference that lies within one run of bits as
long as the register. -/
theorem eq_of_dvd (positive : 0 < width) (bounded : low < 2 ^ width)
    (constant : low.testBit 0 = true) {xs ys : List Bool} (differ : DifferWithin width xs ys)
    (dvd : generator width low ∣ ofBits xs - ofBits ys) : xs = ys := by
  obtain ⟨front, mid, other, back, rfl, rfl, size, within⟩ := differ
  have shifted : ofBits (front ++ mid ++ back) - ofBits (front ++ other ++ back) =
      (ofBits mid - ofBits other) * X ^ back.length := by
    rw [ofBits_append, ofBits_append, ofBits_append, ofBits_append, size]
    ring
  rw [shifted] at dvd
  have burst := (generator_coprime positive constant back.length).dvd_of_dvd_mul_right dvd
  have short : (ofBits mid - ofBits other).degree < (generator width low).degree := by
    have fits : ((mid.length : Nat) : WithBot Nat) ≤ (width : Nat) :=
      WithBot.coe_le_coe.mpr within
    rw [generator_degree bounded]
    apply lt_of_lt_of_le _ fits
    apply lt_of_le_of_lt (degree_sub_le _ _)
    apply max_lt (ofBits_degree_lt mid)
    rw [size]
    exact ofBits_degree_lt other
  have vanishes : ofBits mid - ofBits other = 0 := eq_zero_of_dvd_of_degree_lt burst short
  rw [ofBits_inj size (sub_eq_zero.mp vanishes)]

end Divisor

end BinaryPolynomial
