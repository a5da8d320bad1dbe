import OpenSomeIp.Serialization

set_option autoImplicit false

namespace OpenSomeIp

/-- The character of a code point that is no surrogate. -/
def toChar (point : Fin 0x110000) : Option Char :=
  if valid : point.val.isValidChar then some (Char.ofNatAux point.val valid) else none

theorem char_lt (c : Char) : c.toNat < 0x110000 := by
  have valid := c.valid
  simp only [UInt32.isValidChar, Nat.isValidChar] at valid
  simp only [Char.toNat]
  omega

def fromChar (c : Char) : Fin 0x110000 := ⟨c.toNat, char_lt c⟩

theorem toChar_fromChar (c : Char) : toChar (fromChar c) = some c := by
  have valid : (fromChar c).val.isValidChar := c.valid
  rw [toChar, dif_pos valid]
  apply congrArg some
  apply Char.ext
  rfl

theorem mapM_toChar_fromChar (chars : List Char) :
    (chars.map fromChar).mapM toChar = some chars := by
  induction chars with
  | nil => rfl
  | cons c chars ih =>
      rw [List.map_cons, List.mapM_cons, toChar_fromChar, ih]
      rfl

/-- The codec `"utf-8"` with the error handler `"strict"`: surrogates have no encoding, and
only shortest forms of scalar values are decoded. -/
def Codec.utf8 : Codec where
  encode text :=
    match text.mapM toChar with
    | some chars => .ok (String.ofList chars).toUTF8.data.toList
    | none => .error (.unicodeError "surrogates not allowed")
  decode bytes :=
    match String.fromUTF8? ⟨bytes.toArray⟩ with
    | some text => .ok (text.toList.map fromChar)
    | none => .error (.unicodeError "invalid utf-8")

example : Codec.utf8.decode [0xC3, 0xA9] = .ok [0xE9] := by decide +kernel

-- An overlong form of NUL.
example : Codec.utf8.decode [0xC0, 0x80] = .error (.unicodeError "invalid utf-8") := by
  decide +kernel

/-- Encoding gives back whatever bytes were decoded. -/
def Codec.Strict (encoding : Codec) : Prop :=
  ∀ bytes text, encoding.decode bytes = .ok text → encoding.encode text = .ok bytes

theorem fromUTF8?_toUTF8 {bytes : ByteArray} {text : String}
    (parsed : String.fromUTF8? bytes = some text) : text.toUTF8 = bytes := by
  rw [String.fromUTF8?] at parsed
  split at parsed
  · obtain rfl := Option.some.inj parsed
    rfl
  · cases parsed

theorem Codec.utf8_strict : Codec.utf8.Strict := by
  intro bytes text decoded
  simp only [Codec.utf8] at decoded ⊢
  cases parsed : String.fromUTF8? ⟨bytes.toArray⟩ with
  | none =>
      rw [parsed] at decoded
      cases decoded
  | some string =>
      rw [parsed] at decoded
      obtain rfl := Except.ok.inj decoded
      rw [mapM_toChar_fromChar]
      simp only [String.ofList_toList, fromUTF8?_toUTF8 parsed]

theorem fromChar_toChar {point : Fin 0x110000} {c : Char} (same : toChar point = some c) :
    fromChar c = point := by
  by_cases valid : point.val.isValidChar
  · rw [toChar, dif_pos valid] at same
    rw [← Option.some.inj same]
    rfl
  · rw [toChar, dif_neg valid] at same
    cases same

theorem map_fromChar_of_mapM {text : PyStr} {chars : List Char}
    (scalars : text.mapM toChar = some chars) : chars.map fromChar = text := by
  induction text generalizing chars with
  | nil =>
      obtain rfl := Option.some.inj scalars
      rfl
  | cons point text ih =>
      rw [List.mapM_cons] at scalars
      obtain ⟨c, first, scalars⟩ := Option.bind_eq_some_iff.mp scalars
      obtain ⟨rest, others, scalars⟩ := Option.bind_eq_some_iff.mp scalars
      obtain rfl := Option.some.inj scalars
      rw [List.map_cons, fromChar_toChar first, ih others]

theorem fromUTF8?_of_toUTF8 (text : String) : String.fromUTF8? text.toUTF8 = some text := by
  have valid : text.toUTF8.IsValidUTF8 := text.isValidUTF8
  rw [String.fromUTF8?, dif_pos valid]
  rfl

theorem Codec.utf8_decode_encode (text : PyStr) (raw : Bytes)
    (encoded : Codec.utf8.encode text = .ok raw) : Codec.utf8.decode raw = .ok text := by
  simp only [Codec.utf8] at encoded ⊢
  cases scalars : text.mapM toChar with
  | none =>
      rw [scalars] at encoded
      cases encoded
  | some chars =>
      rw [scalars] at encoded
      obtain rfl := Except.ok.inj encoded
      have parsed := fromUTF8?_of_toUTF8 (String.ofList chars)
      simp only [Array.toArray_toList]
      rw [parsed]
      simp only [String.toList_ofList, map_fromChar_of_mapM scalars]

/-- What has an encoding is text of characters. -/
theorem Codec.utf8_encodes_iff (text : PyStr) :
    (∃ raw, Codec.utf8.encode text = .ok raw) ↔ ∃ chars : List Char, chars.map fromChar = text := by
  constructor
  · rintro ⟨raw, encoded⟩
    simp only [Codec.utf8] at encoded
    cases scalars : text.mapM toChar with
    | none =>
        rw [scalars] at encoded
        cases encoded
    | some chars => exact ⟨chars, map_fromChar_of_mapM scalars⟩
  · rintro ⟨chars, rfl⟩
    simp only [Codec.utf8, mapM_toChar_fromChar]
    exact ⟨_, rfl⟩

/-- A codec that decodes whatever it has encoded; it may reject texts. -/
structure LosslessCodec extends Codec where
  decode_encode : ∀ text raw, encode text = .ok raw → decode raw = .ok text

def LosslessCodec.utf8 : LosslessCodec := ⟨Codec.utf8, Codec.utf8_decode_encode⟩

end OpenSomeIp
