import OpenSomeIp.Lib.BinaryReflection
import OpenSomeIp.SimpleE2eProfile

set_option autoImplicit false

namespace OpenSomeIp

open Polynomial

-- The check value of the catalogue entry, over the digits 1 to 9.
example : crc16 [0x31, 0x32, 0x33, 0x34, 0x35, 0x36, 0x37, 0x38, 0x39] = 0x906E := by
  decide +kernel

/-- The generator polynomial of ITU-T X.25. -/
noncomputable def x25 : (ZMod 2)[X] := X ^ 16 + X ^ 12 + X ^ 5 + 1

/-- The bits of a message, those of each byte least significant first. -/
def reversedBits (data : Bytes) : List Bool :=
  data.flatMap fun byte => (BinaryPolynomial.bitsOf 8 byte.toNat).reverse

theorem x25_eq_generator : x25 = BinaryPolynomial.generator 16 0x1021 := by
  have low : (0x1021 : Nat) = 2 ^ 12 ^^^ 2 ^ 5 ^^^ 2 ^ 0 := by decide
  rw [BinaryPolynomial.generator, low, BinaryPolynomial.ofNat_xor, BinaryPolynomial.ofNat_xor,
    BinaryPolynomial.ofNat_two_pow, BinaryPolynomial.ofNat_two_pow,
    BinaryPolynomial.ofNat_two_pow, pow_zero, x25]
  ring

/-- The constant of the loop is the low part of the generator in mirror image. -/
theorem reflect_0x1021 : BinaryPolynomial.reflect 16 0x1021 = 0x8408 := by decide

theorem reflect_0xFFFF : BinaryPolynomial.reflect 16 0xFFFF = 0xFFFF := by decide

theorem crc16Bit_eq_shiftDown (crc : Nat) : crc16Bit crc = BinaryPolynomial.shiftDown 0x8408 crc := by
  have bottom : (crc &&& 1 != 0) = crc.testBit 0 := by
    rw [Nat.and_one_is_mod, Nat.testBit_zero]
    by_cases odd : crc % 2 = 1
    · simp [odd]
    · simp [Nat.mod_two_not_eq_one.mp odd]
  rw [crc16Bit, BinaryPolynomial.shiftDown, bottom]

theorem crc16Byte_eq_feedDown (crc : Nat) (byte : UInt8) :
    crc16Byte crc byte = BinaryPolynomial.feedDown 0x8408 8 crc byte.toNat := by
  have turn : crc16Bit = BinaryPolynomial.shiftDown 0x8408 := funext crc16Bit_eq_shiftDown
  rw [crc16Byte, List.foldl_const, List.length_range, turn, BinaryPolynomial.feedDown]

theorem foldl_crc16Byte (data : Bytes) (crc : Nat) :
    data.foldl crc16Byte crc =
      (data.map UInt8.toNat).foldl
        (BinaryPolynomial.feedDown (BinaryPolynomial.reflect 16 0x1021) 8) crc := by
  rw [List.foldl_map, reflect_0x1021]
  congr 1
  funext crc byte
  exact crc16Byte_eq_feedDown crc byte

theorem toNat_small (data : Bytes) : ∀ chunk ∈ data.map UInt8.toNat, chunk < 2 ^ 8 := by
  intro chunk member
  obtain ⟨byte, _, rfl⟩ := List.mem_map.mp member
  exact byte.toNat_lt

/-- The loop that shifts right computes the remainder of the message polynomial, with the initial
value in front of it, in mirror image, and inverts it. -/
theorem crc16_eq_remainder (data : Bytes) :
    crc16 data =
        BinaryPolynomial.reflect 16 (BinaryPolynomial.toNat 16
          ((BinaryPolynomial.ofBits (reversedBits data) * X ^ 16 +
            BinaryPolynomial.ofNat 0xFFFF * X ^ (8 * data.length)) %ₘ x25)) ^^^ 0xFFFF ∧
      0 ≤ crc16 data ∧ crc16 data ≤ 65535 := by
  have divided := BinaryPolynomial.foldl_feedDown_eq_remainder (by decide : 0 < 16)
    (by decide : 0x1021 < 2 ^ 16) (by decide : 8 ≤ 16) (by decide : 0xFFFF < 2 ^ 16)
    (data.map UInt8.toNat) (toNat_small data)
  have bits : ((data.map UInt8.toNat).flatMap fun chunk =>
      (BinaryPolynomial.bitsOf 8 chunk).reverse) = reversedBits data := by
    rw [reversedBits, List.flatMap_map]
  have register : data.foldl crc16Byte 0xFFFF =
      BinaryPolynomial.reflect 16 (BinaryPolynomial.toNat 16
        ((BinaryPolynomial.ofBits (reversedBits data) * X ^ 16 +
          BinaryPolynomial.ofNat 0xFFFF * X ^ (8 * data.length)) %ₘ x25)) := by
    rw [foldl_crc16Byte, divided, bits, List.length_map, x25_eq_generator, reflect_0xFFFF]
  refine ⟨?_, Nat.zero_le _, Nat.le_of_lt_succ (crc16_lt data)⟩
  rw [crc16, register]

end OpenSomeIp
