import Mathlib

set_option autoImplicit false

namespace BigEndian

/-- The `width` low-order bytes of a number, most significant byte first. -/
def encode : Nat → Nat → List UInt8
  | 0, _ => []
  | width + 1, n => encode width (n / 256) ++ [UInt8.ofNat n]

/-- The number a byte string spells, most significant byte first. -/
def decode (bytes : List UInt8) : Nat := bytes.foldl (fun n byte => 256 * n + byte.toNat) 0

@[simp] theorem encode_length (width n : Nat) : (encode width n).length = width := by
  induction width generalizing n with
  | zero => rfl
  | succ width ih => simp only [encode, List.length_append, List.length_singleton, ih]

@[simp] theorem decode_nil : decode [] = 0 := rfl

theorem decode_snoc (front : List UInt8) (byte : UInt8) :
    decode (front ++ [byte]) = 256 * decode front + byte.toNat := by
  simp only [decode, List.foldl_append, List.foldl_cons, List.foldl_nil]

/-- Decoding recovers the number modulo the width. -/
theorem decode_encode (width n : Nat) : decode (encode width n) = n % 256 ^ width := by
  induction width generalizing n with
  | zero => simp [encode, Nat.mod_one]
  | succ width ih =>
      have low : (UInt8.ofNat n).toNat = n % 256 := UInt8.toNat_ofNat'
      rw [encode, decode_snoc, ih, low, Nat.pow_succ, Nat.mul_comm (256 ^ width),
        Nat.mod_mul]
      omega

theorem decode_encode_of_lt {width n : Nat} (fits : n < 256 ^ width) :
    decode (encode width n) = n := by
  rw [decode_encode, Nat.mod_eq_of_lt fits]

theorem decode_lt (bytes : List UInt8) : decode bytes < 256 ^ bytes.length := by
  induction bytes using List.reverseRecOn with
  | nil => exact Nat.one_pos
  | append_singleton front byte ih =>
      have low := byte.toNat_lt
      rw [decode_snoc, List.length_append, List.length_singleton, Nat.pow_succ]
      omega

/-- Encoding gives back the bytes a number was decoded from. -/
theorem encode_decode (bytes : List UInt8) : encode bytes.length (decode bytes) = bytes := by
  induction bytes using List.reverseRecOn with
  | nil => rfl
  | append_singleton front byte ih =>
      have low := byte.toNat_lt
      have quotient : (256 * decode front + byte.toNat) / 256 = decode front := by omega
      have digit : UInt8.ofNat (256 * decode front + byte.toNat) = byte := by
        apply UInt8.toNat_inj.mp
        rw [UInt8.toNat_ofNat']
        omega
      rw [decode_snoc, List.length_append, List.length_singleton, encode, quotient, ih, digit]

/-- The half range of a two's-complement integer of `width` bytes. -/
def half (width : Nat) : Nat := 256 ^ width / 2

theorem half_double {width : Nat} (positive : 0 < width) : 2 * half width = 256 ^ width := by
  obtain ⟨rest, rfl⟩ := Nat.exists_eq_succ_of_ne_zero (Nat.ne_of_gt positive)
  rw [half, Nat.succ_eq_add_one, Nat.pow_succ]
  omega

/-- Two's complement of `width` bytes. -/
def encodeSigned (width : Nat) (v : Int) : List UInt8 :=
  encode width (v % (256 ^ width : Nat)).toNat

def decodeSigned (bytes : List UInt8) : Int :=
  if decode bytes < half bytes.length then (decode bytes : Int)
  else (decode bytes : Int) - (256 ^ bytes.length : Nat)

@[simp] theorem encodeSigned_length (width : Nat) (v : Int) :
    (encodeSigned width v).length = width := encode_length _ _

theorem decodeSigned_encodeSigned {width : Nat} (positive : 0 < width) {v : Int}
    (lower : -(half width : Int) ≤ v) (upper : v < half width) :
    decodeSigned (encodeSigned width v) = v := by
  have double := half_double positive
  have modulus : 0 < 256 ^ width := Nat.pow_pos (by decide)
  have value : decode (encodeSigned width v) = (v % (256 ^ width : Nat)).toNat := by
    apply decode_encode_of_lt
    have below := Int.emod_lt_of_pos v (show (0 : Int) < (256 ^ width : Nat) by omega)
    omega
  rw [decodeSigned, encodeSigned_length, value]
  generalize 256 ^ width = m at *
  by_cases negative : v < 0
  · have wrapped : v % (m : Int) = v + m := by
      rw [← Int.add_emod_right, Int.emod_eq_of_lt (by omega) (by omega)]
    rw [wrapped]
    split <;> omega
  · have same : v % (m : Int) = v := Int.emod_eq_of_lt (by omega) (by omega)
    rw [same]
    split <;> omega

/-- The signed number of a byte string lies in the range of its width. -/
theorem decodeSigned_bounds {bytes : List UInt8} (positive : 0 < bytes.length) :
    -(half bytes.length : Int) ≤ decodeSigned bytes ∧ decodeSigned bytes < half bytes.length := by
  have double := half_double positive
  have bound := decode_lt bytes
  rw [decodeSigned]
  generalize 256 ^ bytes.length = m at *
  split
  · omega
  · omega

theorem encodeSigned_decodeSigned (bytes : List UInt8) :
    encodeSigned bytes.length (decodeSigned bytes) = bytes := by
  have bound := decode_lt bytes
  have residue : (decodeSigned bytes % (256 ^ bytes.length : Nat)).toNat = decode bytes := by
    rw [decodeSigned]
    generalize 256 ^ bytes.length = m at *
    split
    · rw [Int.emod_eq_of_lt (by omega) (by omega), Int.toNat_natCast]
    · rw [Int.sub_emod_right, Int.emod_eq_of_lt (by omega) (by omega), Int.toNat_natCast]
  rw [encodeSigned, residue, encode_decode]

end BigEndian
