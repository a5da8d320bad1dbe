import OpenSomeIp.Lib.BinaryPolynomial
import OpenSomeIp.Types

set_option autoImplicit false

namespace OpenSomeIp

open Polynomial

/-- One turn of the inner loop of the pure-Python `crc8`. -/
def crc8Bit (crc : Nat) : Nat :=
  (if crc &&& 0x80 != 0 then (crc <<< 1) ^^^ 0x1D else crc <<< 1) &&& 0xFF

def crc8Byte (crc : Nat) (byte : UInt8) : Nat :=
  (List.range 8).foldl (fun crc _ => crc8Bit crc) (crc ^^^ byte.toNat)

/-- The pure-Python `crc8`. -/
def crc8 (data : Bytes) : Nat := data.foldl crc8Byte 0xFF ^^^ 0xFF

-- The check value of the catalogue entry, over the digits 1 to 9.
example : crc8 [0x31, 0x32, 0x33, 0x34, 0x35, 0x36, 0x37, 0x38, 0x39] = 0x4B := by decide +kernel

/-- The generator polynomial of SAE J1850. -/
noncomputable def saeJ1850 : (ZMod 2)[X] := X ^ 8 + X ^ 4 + X ^ 3 + X ^ 2 + 1

/-- The bits of a message, those of each byte most significant first. -/
def messageBits (data : Bytes) : List Bool :=
  data.flatMap fun byte => BinaryPolynomial.bitsOf 8 byte.toNat

theorem saeJ1850_eq_generator : saeJ1850 = BinaryPolynomial.generator 8 0x1D := by
  have low : (0x1D : Nat) = 2 ^ 4 ^^^ 2 ^ 3 ^^^ 2 ^ 2 ^^^ 2 ^ 0 := by decide
  rw [BinaryPolynomial.generator, low, BinaryPolynomial.ofNat_xor, BinaryPolynomial.ofNat_xor,
    BinaryPolynomial.ofNat_xor, BinaryPolynomial.ofNat_two_pow, BinaryPolynomial.ofNat_two_pow,
    BinaryPolynomial.ofNat_two_pow, BinaryPolynomial.ofNat_two_pow, pow_zero, saeJ1850]
  ring

theorem crc8Bit_eq_shift (crc : Nat) : crc8Bit crc = BinaryPolynomial.shift 8 0x1D crc := by
  have mask : (0xFF : Nat) = 2 ^ 8 - 1 := by decide
  have top : (crc &&& 0x80 != 0) = crc.testBit 7 := by
    have bit : (0x80 : Nat) = 2 ^ 7 := by decide
    rw [bit, Nat.and_two_pow]
    cases crc.testBit 7 <;> decide
  rw [crc8Bit, BinaryPolynomial.shift, mask, Nat.and_two_pow_sub_one_eq_mod, top]

/-- A byte enters the register in one piece. -/
theorem crc8Byte_eq_feed (crc : Nat) (byte : UInt8) :
    crc8Byte crc byte = BinaryPolynomial.feed 8 0x1D 8 crc byte.toNat := by
  have turn : crc8Bit = BinaryPolynomial.shift 8 0x1D := funext crc8Bit_eq_shift
  rw [crc8Byte, List.foldl_const, List.length_range, turn, BinaryPolynomial.feed, Nat.sub_self,
    Nat.shiftLeft_zero]

theorem foldl_crc8Byte (data : Bytes) (crc : Nat) :
    data.foldl crc8Byte crc =
      (data.map UInt8.toNat).foldl (BinaryPolynomial.feed 8 0x1D 8) crc := by
  rw [List.foldl_map]
  congr 1
  funext crc byte
  exact crc8Byte_eq_feed crc byte

/-- The loop computes the remainder of the message polynomial, with the initial value in front of
it, and inverts it. -/
theorem crc8_eq_remainder (data : Bytes) :
    crc8 data =
        BinaryPolynomial.toNat 8
          ((BinaryPolynomial.ofBits (messageBits data) * X ^ 8 +
            BinaryPolynomial.ofNat 0xFF * X ^ (8 * data.length)) %ₘ saeJ1850) ^^^ 0xFF ∧
      0 ≤ crc8 data ∧ crc8 data ≤ 255 := by
  have small : ∀ chunk ∈ data.map UInt8.toNat, chunk < 2 ^ 8 := by
    intro chunk member
    obtain ⟨byte, _, rfl⟩ := List.mem_map.mp member
    exact byte.toNat_lt
  have divided := BinaryPolynomial.foldl_feed_eq_remainder (by decide : 0 < 8)
    (by decide : 0x1D < 2 ^ 8) (Nat.le_refl 8) (by decide : 0xFF < 2 ^ 8)
    (data.map UInt8.toNat) small
  have bits : (data.map UInt8.toNat).flatMap (BinaryPolynomial.bitsOf 8) = messageBits data := by
    rw [messageBits, List.flatMap_map]
  have register : data.foldl crc8Byte 0xFF =
      BinaryPolynomial.toNat 8 ((BinaryPolynomial.ofBits (messageBits data) * X ^ 8 +
        BinaryPolynomial.ofNat 0xFF * X ^ (8 * data.length)) %ₘ saeJ1850) := by
    rw [foldl_crc8Byte, divided, bits, List.length_map, saeJ1850_eq_generator]
  rw [crc8, register]
  refine ⟨rfl, Nat.zero_le _, Nat.le_of_lt_succ ?_⟩
  exact Nat.xor_lt_two_pow (BinaryPolynomial.toNat_lt 8 _) (by decide)

end OpenSomeIp
