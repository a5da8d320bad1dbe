import OpenSomeIp.Lib.Method
import OpenSomeIp.Lib.BigEndian
import OpenSomeIp.Types

set_option autoImplicit false

namespace OpenSomeIp

/-- The slice `xs[i:j]` for any two integers: negative bounds count from the end, and both
are clamped to the sequence. -/
def pySlice {α : Type} (xs : List α) (i j : Int) : List α :=
  let bound (k : Int) : Nat :=
    if k < 0 then (k + xs.length).toNat else min k.toNat xs.length
  (xs.take (bound j)).drop (bound i)

theorem pySlice_natCast {α : Type} (xs : List α) (start stop : Nat) :
    pySlice xs start stop = (xs.take stop).drop start := by
  have startNonneg : ¬ (start : Int) < 0 := by omega
  have stopNonneg : ¬ (stop : Int) < 0 := by omega
  have upper : xs.take (min stop xs.length) = xs.take stop := by
    by_cases inside : stop ≤ xs.length
    · rw [Nat.min_eq_left inside]
    · rw [Nat.min_eq_right (by omega), List.take_of_length_le (Nat.le_refl _),
        List.take_of_length_le (by omega)]
  simp only [pySlice, startNonneg, stopNonneg, ↓reduceIte, Int.toNat_natCast, upper]
  by_cases inside : start ≤ xs.length
  · rw [Nat.min_eq_left inside]
  · rw [Nat.min_eq_right (by omega), List.drop_of_length_le, List.drop_of_length_le] <;>
      simp only [List.length_take] <;> omega

/-- One integer format of `struct`, in network byte order. -/
structure IntFormat where
  width : Nat
  signed : Bool
  deriving DecidableEq, Repr

namespace IntFormat

-- The format characters the source uses, under their own names.
def H : IntFormat := ⟨2, false⟩
def I : IntFormat := ⟨4, false⟩
def Q : IntFormat := ⟨8, false⟩
def b : IntFormat := ⟨1, true⟩
def h : IntFormat := ⟨2, true⟩
def i : IntFormat := ⟨4, true⟩
def q : IntFormat := ⟨8, true⟩

/-- The integers a format has room for. -/
def Holds (f : IntFormat) (v : Int) : Prop :=
  if f.signed then -(BigEndian.half f.width : Int) ≤ v ∧ v < BigEndian.half f.width
  else 0 ≤ v ∧ v < (256 ^ f.width : Nat)

instance (f : IntFormat) (v : Int) : Decidable (f.Holds v) := by
  unfold Holds
  exact inferInstance

/-- As `struct.pack`: out of range is a `struct.error`. -/
def pack (f : IntFormat) (v : Int) : Except Exn Bytes :=
  if f.Holds v then
    .ok (if f.signed then BigEndian.encodeSigned f.width v else BigEndian.encode f.width v.toNat)
  else .error (.structError "argument out of range")

/-- As `struct.unpack(..)[0]`: a buffer of another size is a `struct.error`. -/
def unpack (f : IntFormat) (bytes : Bytes) : Except Exn Int :=
  if bytes.length = f.width then
    .ok (if f.signed then BigEndian.decodeSigned bytes else BigEndian.decode bytes)
  else .error (.structError ("unpack requires a buffer of " ++ toString f.width ++ " bytes"))

theorem pack_length {f : IntFormat} {v : Int} {bytes : Bytes} (packed : f.pack v = .ok bytes) :
    bytes.length = f.width := by
  unfold pack at packed
  split at packed
  · cases packed
    split
    · exact BigEndian.encodeSigned_length _ _
    · exact BigEndian.encode_length _ _
  · cases packed

theorem pack_of_holds {f : IntFormat} {v : Int} (fits : f.Holds v) :
    ∃ bytes, f.pack v = .ok bytes := by
  simp only [pack, fits, ↓reduceIte, Except.ok.injEq, exists_eq']

/-- Unpacking recovers every integer that packing accepted. -/
theorem unpack_pack {f : IntFormat} (positive : 0 < f.width) {v : Int} {bytes : Bytes}
    (packed : f.pack v = .ok bytes) : f.unpack bytes = .ok v := by
  have size := pack_length packed
  unfold pack at packed
  split at packed
  · rename_i fits
    cases packed
    simp only [unpack, size, ↓reduceIte, Except.ok.injEq]
    unfold Holds at fits
    cases sign : f.signed
    · simp only [sign, Bool.false_eq_true, ↓reduceIte] at fits ⊢
      rw [BigEndian.decode_encode_of_lt (by omega)]
      omega
    · simp only [sign, ↓reduceIte] at fits ⊢
      exact BigEndian.decodeSigned_encodeSigned positive fits.1 fits.2
  · cases packed

theorem unpack_of_length {f : IntFormat} {bytes : Bytes} (size : bytes.length = f.width) :
    f.unpack bytes =
      .ok (if f.signed then BigEndian.decodeSigned bytes else BigEndian.decode bytes) := by
  rw [unpack, if_pos size]

/-- Packing gives back the bytes of every integer that was unpacked. -/
theorem pack_unpack {f : IntFormat} (positive : 0 < f.width) {v : Int} {bytes : Bytes}
    (unpacked : f.unpack bytes = .ok v) : f.Holds v ∧ f.pack v = .ok bytes := by
  by_cases size : bytes.length = f.width
  · rw [unpack_of_length size] at unpacked
    obtain rfl := Except.ok.inj unpacked
    have bound := BigEndian.decode_lt bytes
    cases sign : f.signed with
    | false =>
        have fits : f.Holds (BigEndian.decode bytes : Int) := by
          simp only [Holds, sign, Bool.false_eq_true, ↓reduceIte]
          rw [← size]
          omega
        refine ⟨fits, ?_⟩
        simp only [pack, sign, Bool.false_eq_true, ↓reduceIte, fits, Int.toNat_natCast]
        rw [← size, BigEndian.encode_decode]
    | true =>
        have fits : f.Holds (BigEndian.decodeSigned bytes) := by
          simp only [Holds, sign, ↓reduceIte]
          rw [← size]
          exact BigEndian.decodeSigned_bounds (by omega)
        refine ⟨fits, ?_⟩
        simp only [pack, sign, ↓reduceIte, fits]
        rw [← size, BigEndian.encodeSigned_decodeSigned]
  · rw [unpack, if_neg size] at unpacked
    cases unpacked

end IntFormat

/-- A text encoding as `str.encode` and `bytes.decode` know it. -/
structure Codec where
  encode : PyStr → Except Exn Bytes
  decode : Bytes → Except Exn PyStr

/-- The codec `"latin-1"`: one byte for each of the first 256 code points. -/
def Codec.latin1 : Codec where
  encode text :=
    if text.all fun point => point.val < 256 then
      .ok (text.map fun point => UInt8.ofNat point.val)
    else .error (.unicodeError "ordinal not in range(256)")
  decode bytes := .ok (bytes.map fun byte => Fin.ofNat 0x110000 byte.toNat)

/-- The pure-Python serializer: its buffer. -/
structure Serializer where
  buf : Bytes := []
  deriving DecidableEq, Repr

namespace Serializer

abbrev Write := Method Exn Serializer Unit

/-- Appends: `self._buf.extend(data)`. -/
def extend (data : Bytes) : Write := Method.modify fun s => { s with buf := s.buf ++ data }

def writeBool (value : Bool) : Write := extend [if value then 1 else 0]

/-- The source masks here: `self._buf.append(value & 0xFF)`. -/
def writeUint8 (value : Int) : Write := extend [UInt8.ofNat (value % 256).toNat]

/-- Packs, then appends: `self._buf.extend(struct.pack(f, value))`. -/
def extendPacked (f : IntFormat) (value : Int) : Write := do
  let packed ← Method.lift (f.pack value)
  extend packed

def writeUint16 (value : Int) : Write := extendPacked .H value
def writeUint32 (value : Int) : Write := extendPacked .I value
def writeUint64 (value : Int) : Write := extendPacked .Q value
def writeInt8 (value : Int) : Write := extendPacked .b value
def writeInt16 (value : Int) : Write := extendPacked .h value
def writeInt32 (value : Int) : Write := extendPacked .i value
def writeInt64 (value : Int) : Write := extendPacked .q value

def writeBytesRaw (value : Bytes) : Write := extend value

def writeBytes (value : Bytes) : Write := do
  writeUint32 value.length
  writeBytesRaw value

def writeString (value : PyStr) (encoding : Codec) : Write := do
  let text ← Method.lift (encoding.encode value)
  let encoded := text ++ [0]
  writeUint32 encoded.length
  writeBytesRaw encoded

def toBytes (s : Serializer) : Bytes := s.buf

end Serializer

/-- The pure-Python deserializer. The cursor is a Python int: a negative raw read
moves it back. -/
structure Deserializer where
  data : Bytes
  pos : Int := 0
  deriving DecidableEq, Repr

namespace Deserializer

abbrev Read (α : Type) := Method Exn Deserializer α

def remaining (d : Deserializer) : Int := d.data.length - d.pos

def position (d : Deserializer) : Int := d.pos

/-- The source's `_read(n)`. -/
def read (n : Int) : Read Bytes := do
  let d ← Method.get
  if d.pos + n > d.data.length then
    Method.raise (.valueError ("Attempt to read " ++ toString n ++ " bytes at position " ++
      toString d.pos ++ ", but only " ++ toString d.remaining ++ " bytes remain"))
  else do
    let result := pySlice d.data d.pos (d.pos + n)
    Method.modify fun d => { d with pos := d.pos + n }
    pure result

/-- The element `result[0]`. -/
def first (result : Bytes) : Except Exn UInt8 :=
  match result with
  | [] => .error .indexError
  | byte :: _ => .ok byte

def readBool : Read Bool := do
  let result ← read 1
  let byte ← Method.lift (first result)
  pure (byte != 0)

/-- The int `self._read(1)[0]`, kept as the byte it is. -/
def readUint8 : Read UInt8 := do
  let result ← read 1
  Method.lift (first result)

/-- Reads, then unpacks: `struct.unpack(f, self._read(width))[0]`. -/
def readPacked (f : IntFormat) : Read Int := do
  let result ← read f.width
  Method.lift (f.unpack result)

def readUint16 : Read Int := readPacked .H
def readUint32 : Read Int := readPacked .I
def readUint64 : Read Int := readPacked .Q
def readInt8 : Read Int := readPacked .b
def readInt16 : Read Int := readPacked .h
def readInt32 : Read Int := readPacked .i
def readInt64 : Read Int := readPacked .q

def readBytes : Read Bytes := do
  let length ← readUint32
  Method.times length.toNat readUint8

def readBytesRaw (n : Int) : Read Bytes := read n

/-- The bytes `raw[:-1]` where a last byte is there and is NUL. -/
def stripNul (raw : Bytes) : Bytes :=
  if raw.getLast? = some 0 then raw.dropLast else raw

def readString (encoding : Codec) : Read PyStr := do
  let length ← readUint32
  let raw ← Method.times length.toNat readUint8
  Method.lift (encoding.decode (stripNul raw))

end Deserializer

end OpenSomeIp
