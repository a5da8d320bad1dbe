import OpenSomeIp.E2e
import OpenSomeIp.Serialization

set_option autoImplicit false

namespace OpenSomeIp

/-- One turn of the inner loop of the pure-Python `crc16`. -/
def crc16Bit (crc : Nat) : Nat :=
  if crc &&& 1 != 0 then (crc >>> 1) ^^^ 0x8408 else crc >>> 1

def crc16Byte (crc : Nat) (byte : UInt8) : Nat :=
  (List.range 8).foldl (fun crc _ => crc16Bit crc) (crc ^^^ byte.toNat)

/-- The pure-Python `crc16`. -/
def crc16 (data : Bytes) : Nat := data.foldl crc16Byte 0xFFFF ^^^ 0xFFFF

theorem crc16Bit_lt {crc : Nat} (bounded : crc < 2 ^ 16) : crc16Bit crc < 2 ^ 16 := by
  have halved : crc >>> 1 < 2 ^ 16 := by
    rw [Nat.shiftRight_eq_div_pow]
    omega
  unfold crc16Bit
  split
  · exact Nat.xor_lt_two_pow halved (by decide)
  · exact halved

theorem crc16Byte_lt {crc : Nat} (bounded : crc < 2 ^ 16) (byte : UInt8) :
    crc16Byte crc byte < 2 ^ 16 := by
  have mixed : crc ^^^ byte.toNat < 2 ^ 16 :=
    Nat.xor_lt_two_pow bounded (by have := byte.toNat_lt; omega)
  unfold crc16Byte
  generalize crc ^^^ byte.toNat = start at mixed
  induction List.range 8 generalizing start with
  | nil => exact mixed
  | cons _ turns ih => exact ih _ (crc16Bit_lt mixed)

theorem crc16_lt (data : Bytes) : crc16 data < 2 ^ 16 := by
  have loop : ∀ start < 2 ^ 16, data.foldl crc16Byte start < 2 ^ 16 := by
    induction data with
    | nil => exact fun start bounded => bounded
    | cons byte data ih => exact fun start bounded => ih _ (crc16Byte_lt bounded byte)
  exact Nat.xor_lt_two_pow (loop _ (by decide)) (by decide)

namespace SimpleE2EProfile

def B : IntFormat := ⟨1, false⟩

/-- Prepends `struct.pack("!HBB", crc, counter & 0xFF, 0x00)`. -/
def protect (data : Bytes) (counter : Nat) : Except Exn Bytes := do
  let crc ← IntFormat.H.pack (crc16 data)
  let stamp ← B.pack (counter &&& 0xFF : Nat)
  let reserved ← B.pack 0
  pure (crc ++ stamp ++ reserved ++ data)

def check (data : Bytes) (counter : Nat) : Except Exn E2ECheckStatus := do
  if data.length < 4 then
    pure .error
  else
    let storedCrc ← IntFormat.H.unpack (data.take 2)
    let storedCounter ← B.unpack ((data.drop 2).take 1)
    let _ ← B.unpack ((data.drop 3).take 1)
    let payload := data.drop 4
    if (crc16 payload : Int) ≠ storedCrc then pure .error
    else if storedCounter ≠ (counter &&& 0xFF : Nat) then pure .wrongSequence
    else pure .ok

end SimpleE2EProfile

/-- The profile of the repository's E2E example. -/
def simpleE2EProfile : E2EProfile where
  protect := SimpleE2EProfile.protect
  check := SimpleE2EProfile.check

theorem simpleE2EProfile_lawful : simpleE2EProfile.Lawful := by
  intro data counter
  have crcFits : IntFormat.H.Holds (crc16 data) := by
    have bound := crc16_lt data
    simp only [IntFormat.Holds, IntFormat.H, Bool.false_eq_true, ↓reduceIte]
    omega
  have counterFits : SimpleE2EProfile.B.Holds (counter &&& 0xFF : Nat) := by
    have bound : counter &&& 0xFF ≤ 0xFF := Nat.and_le_right
    simp only [IntFormat.Holds, SimpleE2EProfile.B, Bool.false_eq_true, ↓reduceIte]
    omega
  obtain ⟨crc, packedCrc⟩ := IntFormat.pack_of_holds crcFits
  obtain ⟨stamp, packedStamp⟩ := IntFormat.pack_of_holds counterFits
  obtain ⟨reserved, packedReserved⟩ :=
    IntFormat.pack_of_holds (show SimpleE2EProfile.B.Holds 0 by decide)
  have crcSize : crc.length = 2 := IntFormat.pack_length packedCrc
  have stampSize : stamp.length = 1 := IntFormat.pack_length packedStamp
  have reservedSize : reserved.length = 1 := IntFormat.pack_length packedReserved
  refine ⟨crc ++ stamp ++ reserved ++ data, ?_, ?_⟩
  · simp only [simpleE2EProfile, SimpleE2EProfile.protect, packedCrc, packedStamp, packedReserved]
    rfl
  · have long : ¬ (crc ++ stamp ++ reserved ++ data).length < 4 := by
      simp only [List.length_append]
      omega
    have crcPart : (crc ++ stamp ++ reserved ++ data).take 2 = crc := by
      simp [List.append_assoc, ← crcSize]
    have stampPart : ((crc ++ stamp ++ reserved ++ data).drop 2).take 1 = stamp := by
      simp [List.append_assoc, ← crcSize, ← stampSize]
    have reservedPart : ((crc ++ stamp ++ reserved ++ data).drop 3).take 1 = reserved := by
      have three : 3 = (crc ++ stamp).length := by simp [crcSize, stampSize]
      rw [three, List.append_assoc (crc ++ stamp), List.drop_left]
      simp [← reservedSize]
    have dataPart : (crc ++ stamp ++ reserved ++ data).drop 4 = data := by
      have four : 4 = (crc ++ stamp ++ reserved).length := by
        simp [crcSize, stampSize, reservedSize]
      rw [four, List.drop_left]
    simp only [simpleE2EProfile, SimpleE2EProfile.check, long, ↓reduceIte, crcPart, stampPart,
      reservedPart, dataPart, IntFormat.unpack_pack (by decide : 0 < IntFormat.H.width) packedCrc,
      IntFormat.unpack_pack (by decide : 0 < SimpleE2EProfile.B.width) packedStamp,
      IntFormat.unpack_pack (by decide : 0 < SimpleE2EProfile.B.width) packedReserved,
      bind, Except.bind, ne_eq, not_true_eq_false]
    rfl

end OpenSomeIp
