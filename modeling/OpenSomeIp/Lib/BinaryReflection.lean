import OpenSomeIp.Lib.BinaryPolynomial

set_option autoImplicit false

/-! The shift register that holds its bits in the opposite order and moves down. -/

namespace BinaryPolynomial

open Polynomial

/-- The low `width` bits of a number in the opposite order. -/
def reflect (width n : Nat) : Nat := (BitVec.ofNat width n).reverse.toNat

theorem reflect_lt (width n : Nat) : reflect width n < 2 ^ width := BitVec.isLt _

theorem testBit_reflect (width n i : Nat) :
    (reflect width n).testBit i = (decide (i < width) && n.testBit (width - 1 - i)) := by
  rw [reflect, BitVec.testBit_toNat, BitVec.getLsbD_reverse, BitVec.getMsbD_eq_getLsbD,
    BitVec.getLsbD_ofNat]
  by_cases inside : i < width
  · have within : width - 1 - i < width := by omega
    simp only [inside, within, decide_true, Bool.true_and]
  · simp only [inside, decide_false, Bool.false_and]

theorem reflect_reflect {width n : Nat} (bounded : n < 2 ^ width) :
    reflect width (reflect width n) = n := by
  rw [reflect, reflect, BitVec.ofNat_toNat, BitVec.setWidth_eq, BitVec.reverse_reverse_eq,
    BitVec.toNat_ofNat, Nat.mod_eq_of_lt bounded]

theorem reflect_xor (width a b : Nat) :
    reflect width (a ^^^ b) = reflect width a ^^^ reflect width b := by
  apply Nat.eq_of_testBit_eq
  intro i
  rw [Nat.testBit_xor, testBit_reflect, testBit_reflect, testBit_reflect, Nat.testBit_xor]
  cases decide (i < width) <;> simp

/-- A narrow number reflected in a wide register lands at its top. -/
theorem reflect_of_narrow {width size n : Nat} (within : size ≤ width) (small : n < 2 ^ size) :
    reflect width n = reflect size n <<< (width - size) := by
  apply Nat.eq_of_testBit_eq
  intro i
  rw [Nat.testBit_shiftLeft, testBit_reflect, testBit_reflect]
  by_cases high : width - size ≤ i
  · have place : size - 1 - (i - (width - size)) = width - 1 - i := by omega
    have inside : i - (width - size) < size ↔ i < width := by omega
    simp only [high, place, inside, decide_true, Bool.true_and]
  · have beyond : n < 2 ^ (width - 1 - i) :=
      Nat.lt_of_lt_of_le small (Nat.pow_le_pow_right (by decide) (by omega))
    simp only [high, Nat.testBit_lt_two_pow beyond, Bool.and_false, decide_false, Bool.false_and]

/-- Reflected, the bits of a number are spelt backwards. -/
theorem bitsOf_reflect (width n : Nat) : bitsOf width (reflect width n) = (bitsOf width n).reverse := by
  have read : ∀ (count m : Nat), bitsOf count m = (List.range count).reverse.map m.testBit := by
    intro count m
    induction count with
    | zero => rfl
    | succ count ih =>
        rw [bitsOf, ih, List.range_succ, List.reverse_append, List.map_append]
        rfl
  rw [read, read]
  apply List.ext_getElem
  · simp
  · intro i left right
    simp only [List.length_map, List.length_reverse, List.length_range] at left
    have inside : width - 1 - i < width := by omega
    have place : width - 1 - (width - 1 - i) = i := by omega
    simp [testBit_reflect, inside, place]

/-- One turn of the reflected register. -/
def shiftDown (low register : Nat) : Nat :=
  if register.testBit 0 then (register >>> 1) ^^^ low else register >>> 1

/-- A chunk of `size` bits enters at its bottom. -/
def feedDown (low size register chunk : Nat) : Nat := (shiftDown low)^[size] (register ^^^ chunk)

section Divisor

variable {width low : Nat}

theorem shiftDown_lt (bounded : low < 2 ^ width) {register : Nat} (fits : register < 2 ^ width) :
    shiftDown low register < 2 ^ width := by
  have halved : register >>> 1 < 2 ^ width := by
    rw [Nat.shiftRight_eq_div_pow]
    omega
  unfold shiftDown
  split
  · exact Nat.xor_lt_two_pow halved bounded
  · exact halved

/-- A turn down is a turn up of the bits in the opposite order. -/
theorem reflect_shiftDown {register : Nat} (fits : register < 2 ^ width) :
    reflect width (shiftDown (reflect width low) register) =
      shift width low (reflect width register) := by
  apply Nat.eq_of_testBit_eq
  intro i
  rw [shift, Nat.testBit_mod_two_pow, testBit_reflect]
  by_cases inside : i < width
  · have top : (reflect width register).testBit (width - 1) = register.testBit 0 := by
      have highest : width - 1 < width := by omega
      simp [testBit_reflect, highest]
    have below : (width - 1 - i) < width := by omega
    have back : width - 1 - (width - 1 - i) = i := by omega
    have moved : (register >>> 1).testBit (width - 1 - i) =
        (reflect width register <<< 1).testBit i := by
      rw [Nat.testBit_shiftRight, Nat.testBit_shiftLeft, testBit_reflect]
      by_cases bottom : 1 ≤ i
      · have before : i - 1 < width := by omega
        have place : 1 + (width - 1 - i) = width - 1 - (i - 1) := by omega
        simp only [bottom, before, place, decide_true, Bool.true_and]
      · have outside : register < 2 ^ (1 + (width - 1 - i)) := by
          have full : 1 + (width - 1 - i) = width := by omega
          rw [full]
          exact fits
        simp only [bottom, Nat.testBit_lt_two_pow outside, decide_false, Bool.false_and]
    rw [top, shiftDown]
    cases register.testBit 0 with
    | false => simp [inside, moved]
    | true => simp [inside, moved, testBit_reflect, below, back]
  · simp only [inside, decide_false, Bool.false_and]

theorem iterate_shiftDown {register : Nat} (fits : register < 2 ^ width) (count : Nat) :
    (shiftDown (reflect width low))^[count] register < 2 ^ width ∧
      reflect width ((shiftDown (reflect width low))^[count] register) =
        (shift width low)^[count] (reflect width register) := by
  induction count with
  | zero => exact ⟨fits, rfl⟩
  | succ count ih =>
      obtain ⟨reached, turned⟩ := ih
      rw [Function.iterate_succ_apply', Function.iterate_succ_apply', reflect_shiftDown reached,
        turned]
      exact ⟨shiftDown_lt (reflect_lt width low) reached, rfl⟩

section Feeding

variable {size : Nat}

theorem feedDown_reflects (within : size ≤ width) {register chunk : Nat}
    (fits : register < 2 ^ width) (small : chunk < 2 ^ size) :
    feedDown (reflect width low) size register chunk < 2 ^ width ∧
      reflect width (feedDown (reflect width low) size register chunk) =
        feed width low size (reflect width register) (reflect size chunk) := by
  have mixed : register ^^^ chunk < 2 ^ width := by
    apply Nat.xor_lt_two_pow fits
    exact Nat.lt_of_lt_of_le small (Nat.pow_le_pow_right (by decide) within)
  obtain ⟨reached, turned⟩ := iterate_shiftDown mixed size
  refine ⟨reached, ?_⟩
  rw [feedDown, turned, reflect_xor, reflect_of_narrow within small, feed]

/-- The invariant of the loop over the chunks: the register is the mirror image of the one that
moves up and is fed the chunks in mirror image. -/
theorem foldl_feedDown (within : size ≤ width) {register : Nat} (fits : register < 2 ^ width)
    (chunks : List Nat) (small : ∀ chunk ∈ chunks, chunk < 2 ^ size) :
    chunks.foldl (feedDown (reflect width low) size) register < 2 ^ width ∧
      reflect width (chunks.foldl (feedDown (reflect width low) size) register) =
        (chunks.map (reflect size)).foldl (feed width low size) (reflect width register) := by
  induction chunks generalizing register with
  | nil => exact ⟨fits, rfl⟩
  | cons chunk chunks ih =>
      have first : chunk < 2 ^ size := small chunk List.mem_cons_self
      obtain ⟨reached, mirrored⟩ :
          feedDown (reflect width low) size register chunk < 2 ^ width ∧
            reflect width (feedDown (reflect width low) size register chunk) =
              feed width low size (reflect width register) (reflect size chunk) :=
        feedDown_reflects within fits first
      have later := ih reached fun c member => small c (List.mem_cons_of_mem chunk member)
      rw [mirrored] at later
      exact later

/-- What the reflected register holds after the last chunk is the reflected remainder of the
message whose chunks are spelt backwards. -/
theorem foldl_feedDown_eq_remainder (positive : 0 < width) (bounded : low < 2 ^ width)
    (within : size ≤ width) {register : Nat} (fits : register < 2 ^ width) (chunks : List Nat)
    (small : ∀ chunk ∈ chunks, chunk < 2 ^ size) :
    chunks.foldl (feedDown (reflect width low) size) register =
      reflect width (toNat width
        ((ofBits (chunks.flatMap fun chunk => (bitsOf size chunk).reverse) * X ^ width +
          ofNat (reflect width register) * X ^ (size * chunks.length)) %ₘ
            generator width low)) := by
  obtain ⟨reached, mirrored⟩ :
      chunks.foldl (feedDown (reflect width low) size) register < 2 ^ width ∧
        reflect width (chunks.foldl (feedDown (reflect width low) size) register) =
          (chunks.map (reflect size)).foldl (feed width low size) (reflect width register) :=
    foldl_feedDown within fits chunks small
  have narrow : ∀ chunk ∈ chunks.map (reflect size), chunk < 2 ^ size := by
    intro chunk member
    obtain ⟨image, _, rfl⟩ := List.mem_map.mp member
    exact reflect_lt size image
  have spelt : (chunks.map (reflect size)).flatMap (bitsOf size) =
      chunks.flatMap fun chunk => (bitsOf size chunk).reverse := by
    rw [List.flatMap_map]
    congr 1
    funext chunk
    exact bitsOf_reflect size chunk
  have divided := foldl_feed_eq_remainder positive bounded within (reflect_lt width register)
    (chunks.map (reflect size)) narrow
  rw [spelt, List.length_map] at divided
  rw [← divided, ← mirrored, reflect_reflect reached]

end Feeding

end Divisor

end BinaryPolynomial
