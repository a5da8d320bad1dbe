import OpenSomeIp.Crc16
import OpenSomeIp.Crc8
import OpenSomeIp.Lib.ErrorDetection

set_option autoImplicit false

namespace OpenSomeIp

open ErrorDetection Polynomial

theorem bitsOf_toNat_injective :
    Function.Injective fun byte : UInt8 => BinaryPolynomial.bitsOf 8 byte.toNat := by
  intro a b same
  have polynomials := congrArg BinaryPolynomial.ofBits same
  rw [BinaryPolynomial.ofBits_bitsOf a.toNat_lt, BinaryPolynomial.ofBits_bitsOf b.toNat_lt]
    at polynomials
  have numbers := congrArg (BinaryPolynomial.toNat 8) polynomials
  rw [BinaryPolynomial.toNat_ofNat a.toNat_lt, BinaryPolynomial.toNat_ofNat b.toNat_lt] at numbers
  exact UInt8.toNat_inj.mp numbers

theorem messageBits_inj {data other : Bytes} (size : data.length = other.length)
    (same : messageBits data = messageBits other) : data = other :=
  flatMap_inj (fun _ => BinaryPolynomial.bitsOf_length 8 _) bitsOf_toNat_injective size same

theorem reversed_bitsOf_length (byte : UInt8) :
    (BinaryPolynomial.bitsOf 8 byte.toNat).reverse.length = 8 := by
  rw [List.length_reverse, BinaryPolynomial.bitsOf_length]

theorem reversedBits_inj {data other : Bytes} (size : data.length = other.length)
    (same : reversedBits data = reversedBits other) : data = other := by
  apply flatMap_inj reversed_bitsOf_length _ size same
  intro a b spelt
  exact bitsOf_toNat_injective (List.reverse_inj.mp spelt)

theorem reversedBits_length (data : Bytes) : (reversedBits data).length = 8 * data.length := by
  induction data with
  | nil => rfl
  | cons byte data ih =>
      rw [reversedBits, List.flatMap_cons, List.length_append, reversed_bitsOf_length,
        ← reversedBits, ih, List.length_cons]
      omega

/-- Messages with one `crc8` differ by a multiple of its generator. -/
theorem saeJ1850_dvd_of_crc8_eq {data other : Bytes} (size : data.length = other.length)
    (same : crc8 data = crc8 other) :
    BinaryPolynomial.generator 8 0x1D ∣
      BinaryPolynomial.ofBits (messageBits data) - BinaryPolynomial.ofBits (messageBits other) := by
  have registers := Nat.xor_left_injective same
  rw [foldl_crc8Byte, foldl_crc8Byte] at registers
  have divides := BinaryPolynomial.dvd_of_same_register (by decide : 0 < 8)
    (by decide : 0x1D < 2 ^ 8) (by decide : (0x1D : Nat).testBit 0 = true) (Nat.le_refl 8)
    (by decide : 0xFF < 2 ^ 8) (toNat_small data) (toNat_small other)
    (by rw [List.length_map, List.length_map, size]) registers
  rw [List.flatMap_map, List.flatMap_map] at divides
  exact divides

/-- Messages with one `crc16` differ by a multiple of its generator. -/
theorem x25_dvd_of_crc16_eq {data other : Bytes} (size : data.length = other.length)
    (same : crc16 data = crc16 other) :
    BinaryPolynomial.generator 16 0x1021 ∣
      BinaryPolynomial.ofBits (reversedBits data) -
        BinaryPolynomial.ofBits (reversedBits other) := by
  have registers := Nat.xor_left_injective same
  rw [foldl_crc16Byte, foldl_crc16Byte] at registers
  have mirrored := congrArg (BinaryPolynomial.reflect 16) registers
  have spelt : ∀ bytes : Bytes, ((bytes.map UInt8.toNat).map (BinaryPolynomial.reflect 8)).flatMap
      (BinaryPolynomial.bitsOf 8) = reversedBits bytes := by
    intro bytes
    rw [List.flatMap_map, List.flatMap_map, reversedBits]
    congr 1
    funext byte
    exact BinaryPolynomial.bitsOf_reflect 8 byte.toNat
  have small : ∀ bytes : Bytes, ∀ chunk ∈ (bytes.map UInt8.toNat).map (BinaryPolynomial.reflect 8),
      chunk < 2 ^ 8 := by
    intro bytes chunk member
    obtain ⟨image, _, rfl⟩ := List.mem_map.mp member
    exact BinaryPolynomial.reflect_lt 8 image
  rw [(BinaryPolynomial.foldl_feedDown (by decide : 8 ≤ 16) (by decide : 0xFFFF < 2 ^ 16) _
      (toNat_small data)).2,
    (BinaryPolynomial.foldl_feedDown (by decide : 8 ≤ 16) (by decide : 0xFFFF < 2 ^ 16) _
      (toNat_small other)).2] at mirrored
  have divides := BinaryPolynomial.dvd_of_same_register (by decide : 0 < 16)
    (by decide : 0x1021 < 2 ^ 16) (by decide : (0x1021 : Nat).testBit 0 = true)
    (by decide : 8 ≤ 16) (BinaryPolynomial.reflect_lt 16 0xFFFF) (small data) (small other)
    (by simp only [List.length_map, size]) mirrored
  rw [spelt, spelt] at divides
  exact divides

/-- The terms of the generator of X.25 are even in number. -/
theorem x25_eval_one : x25.eval 1 = 0 := by
  simp only [x25, eval_add, eval_pow, eval_X, eval_one, one_pow]
  decide

theorem crc16_detects_burst {data other : Bytes} (size : data.length = other.length)
    (different : data ≠ other)
    (burst : DifferWithin 16 (reversedBits data) (reversedBits other)) :
    crc16 data ≠ crc16 other := by
  intro same
  apply different
  apply reversedBits_inj size
  exact BinaryPolynomial.eq_of_dvd (by decide) (by decide) (by decide) burst
    (x25_dvd_of_crc16_eq size same)

/-- The fallback checksums tell any two messages of one length apart that differ within a run of
bits as long as the register; the wider one also tells every odd number of bit errors. -/
theorem crcs_detect_errors (data other : Bytes) (size : data.length = other.length)
    (different : data ≠ other) :
    (DifferWithin 8 (messageBits data) (messageBits other) → crc8 data ≠ crc8 other) ∧
      (DifferWithin 16 (reversedBits data) (reversedBits other) → crc16 data ≠ crc16 other) ∧
      (DifferWithin 2 data other → crc16 data ≠ crc16 other) ∧
      (Odd (distance (reversedBits data) (reversedBits other)) → crc16 data ≠ crc16 other) := by
  refine ⟨?_, crc16_detects_burst size different, ?_, ?_⟩
  · intro burst same
    apply different
    apply messageBits_inj size
    exact BinaryPolynomial.eq_of_dvd (by decide) (by decide) (by decide) burst
      (saeJ1850_dvd_of_crc8_eq size same)
  · intro adjacent
    apply crc16_detects_burst size different
    exact adjacent.flatMap reversed_bitsOf_length
  · intro odd same
    apply Nat.not_even_iff_odd.mpr odd
    apply BinaryPolynomial.even_distance_of_dvd _ _ (x25_dvd_of_crc16_eq size same)
    · rw [← x25_eq_generator]
      exact x25_eval_one
    · rw [reversedBits_length, reversedBits_length, size]

/-- Two bits lost across the border of two bytes. -/
theorem crcs_detect_errors_straddling :
    crc8 [0x12, 0x81, 0x80] ≠ crc8 [0x12, 0x80, 0x00] ∧
      crc16 [0x12, 0x81, 0x80] ≠ crc16 [0x12, 0x80, 0x00] := by
  have detected := crcs_detect_errors [0x12, 0x81, 0x80] [0x12, 0x80, 0x00] rfl (by decide)
  refine ⟨detected.1 ?_, detected.2.2.1 ?_⟩
  · exact ⟨messageBits [0x12] ++ [true, false, false, false, false, false, false], [true, true],
      [false, false], [false, false, false, false, false, false, false], by decide, by decide,
      rfl, by decide⟩
  · exact ⟨[0x12], [0x81, 0x80], [0x80, 0x00], [], rfl, rfl, rfl, by decide⟩

end OpenSomeIp
