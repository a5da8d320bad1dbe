import OpenSomeIp.Lib.Framing
import OpenSomeIp.Serialization

set_option autoImplicit false

namespace OpenSomeIp

open Framing

/-- The integer writers and readers. -/
inductive IntKind where
  | uint8
  | uint16
  | uint32
  | uint64
  | int8
  | int16
  | int32
  | int64
  deriving DecidableEq, Repr

/-- A value with the writer that puts it out. Every string brings its codec. -/
inductive Value where
  | bool (value : Bool)
  | int (kind : IntKind) (value : Int)
  | bytes (value : Bytes)
  | raw (value : Bytes)
  | string (encoding : Codec) (value : PyStr)

/-- A reader with its arguments. -/
inductive Kind where
  | bool
  | int (kind : IntKind)
  | bytes
  | raw (n : Int)
  | string (encoding : Codec)

def IntKind.write : IntKind → Int → Serializer.Write
  | .uint8 => Serializer.writeUint8
  | .uint16 => Serializer.writeUint16
  | .uint32 => Serializer.writeUint32
  | .uint64 => Serializer.writeUint64
  | .int8 => Serializer.writeInt8
  | .int16 => Serializer.writeInt16
  | .int32 => Serializer.writeInt32
  | .int64 => Serializer.writeInt64

def IntKind.read : IntKind → Deserializer.Read Int
  | .uint8 => do
      let byte ← Deserializer.readUint8
      pure byte.toNat
  | .uint16 => Deserializer.readUint16
  | .uint32 => Deserializer.readUint32
  | .uint64 => Deserializer.readUint64
  | .int8 => Deserializer.readInt8
  | .int16 => Deserializer.readInt16
  | .int32 => Deserializer.readInt32
  | .int64 => Deserializer.readInt64

/-- The `struct` format that covers the same integers. -/
def IntKind.format : IntKind → IntFormat
  | .uint8 => ⟨1, false⟩
  | .uint16 => .H
  | .uint32 => .I
  | .uint64 => .Q
  | .int8 => .b
  | .int16 => .h
  | .int32 => .i
  | .int64 => .q

def Value.write : Value → Serializer.Write
  | .bool value => Serializer.writeBool value
  | .int kind value => kind.write value
  | .bytes value => Serializer.writeBytes value
  | .raw value => Serializer.writeBytesRaw value
  | .string encoding value => Serializer.writeString value encoding

def Kind.read : Kind → Deserializer.Read Value
  | .bool => do
      let value ← Deserializer.readBool
      pure (.bool value)
  | .int kind => do
      let value ← kind.read
      pure (.int kind value)
  | .bytes => do
      let value ← Deserializer.readBytes
      pure (.bytes value)
  | .raw n => do
      let value ← Deserializer.readBytesRaw n
      pure (.raw value)
  | .string encoding => do
      let value ← Deserializer.readString encoding
      pure (.string encoding value)

/-- The reader that matches the writer; a raw run is read with its own length. -/
def Value.kind : Value → Kind
  | .bool _ => .bool
  | .int kind _ => .int kind
  | .bytes _ => .bytes
  | .raw value => .raw value.length
  | .string encoding _ => .string encoding

/-- What the writers promise to take: integers in range, blobs and encoded
strings whose length fits the 32-bit prefix, text that the codec gives back. -/
def Value.Writable : Value → Prop
  | .bool _ => True
  | .int kind value => kind.format.Holds value
  | .bytes value => value.length < 2 ^ 32
  | .raw _ => True
  | .string encoding value =>
      ∃ text, encoding.encode value = .ok text ∧ encoding.decode text = .ok value ∧
        text.length < 2 ^ 32 - 1

def packed (f : IntFormat) (value : Int) : Bytes := (f.pack value).toOption.getD []

/-- The documented wire format of one value. -/
def Value.frame : Value → Bytes
  | .bool value => [if value then 1 else 0]
  | .int kind value => packed kind.format value
  | .bytes value => packed .I value.length ++ value
  | .raw value => value
  | .string encoding value =>
      let text := (encoding.encode value).toOption.getD []
      packed .I (text.length + 1) ++ (text ++ [0])

theorem pack_eq_packed {f : IntFormat} {value : Int} (fits : f.Holds value) :
    f.pack value = .ok (packed f value) := by
  obtain ⟨bytes, success⟩ := IntFormat.pack_of_holds fits
  rw [packed, success]
  rfl

theorem prefix_holds {n : Nat} (bounded : n < 2 ^ 32) : IntFormat.I.Holds n := by
  simp only [IntFormat.Holds, IntFormat.I, Bool.false_eq_true, ↓reduceIte]
  omega

/-- A serializer that has put out `front`. -/
def Serializer.emitted (front : Bytes) : Serializer := { buf := front }

/-- A deserializer of `front ++ back` whose cursor stands between the two. -/
def Deserializer.place (front back : Bytes) : Deserializer :=
  { data := front ++ back, pos := front.length }

theorem Deserializer.place_remaining (front back : Bytes) :
    (place front back).remaining = back.length := by
  simp only [remaining, place, List.length_append]
  omega

/-! ### Writers -/

theorem extend_emits (data : Bytes) : Emits Serializer.emitted (Serializer.extend data) data :=
  fun _ => ⟨(), rfl⟩

theorem extendPacked_emits {f : IntFormat} {value : Int} (fits : f.Holds value) :
    Emits Serializer.emitted (Serializer.extendPacked f value) (packed f value) :=
  Emits.lift (pack_eq_packed fits) (extend_emits _)

/-- Masking changes nothing in the range of an unsigned byte. -/
theorem writeUint8_emits {value : Int} (fits : IntKind.uint8.format.Holds value) :
    Emits Serializer.emitted (Serializer.writeUint8 value) (packed IntKind.uint8.format value) := by
  have bytes : packed IntKind.uint8.format value = [UInt8.ofNat (value % 256).toNat] := by
    have success := pack_eq_packed fits
    simp only [IntFormat.pack, fits, ↓reduceIte] at success
    simp only [IntFormat.Holds, IntKind.format, Bool.false_eq_true, ↓reduceIte] at fits
    have small : value % 256 = value := Int.emod_eq_of_lt fits.1 (by omega)
    rw [small, ← Except.ok.inj success]
    rfl
  rw [bytes]
  exact extend_emits _

theorem IntKind.write_emits (kind : IntKind) {value : Int} (fits : kind.format.Holds value) :
    Emits Serializer.emitted (kind.write value) (packed kind.format value) := by
  cases kind with
  | uint8 => exact writeUint8_emits fits
  | _ => exact extendPacked_emits fits

theorem Value.write_emits (v : Value) (writable : v.Writable) :
    Emits Serializer.emitted v.write v.frame := by
  cases v with
  | bool value => exact extend_emits _
  | int kind value => exact kind.write_emits writable
  | bytes value => exact (extendPacked_emits (prefix_holds writable)).bind fun _ => extend_emits _
  | raw value => exact extend_emits _
  | string encoding value =>
      obtain ⟨text, encodes, _, bounded⟩ := writable
      have size : ((text ++ [0] : Bytes).length : Int) = text.length + 1 := by
        simp only [List.length_append, List.length_singleton, Int.natCast_add, Int.cast_ofNat_Int]
      have fits : IntFormat.I.Holds ((text ++ [0] : Bytes).length : Int) :=
        prefix_holds (by simp only [List.length_append, List.length_singleton]; omega)
      refine Emits.lift encodes ?_
      simp only [frame, encodes, Except.toOption, Option.getD_some, ← size]
      exact (extendPacked_emits fits).bind fun _ => extend_emits _

/-! ### Readers -/

theorem read_consumes (bytes : Bytes) :
    Consumes Deserializer.place (Deserializer.read bytes.length) bytes bytes := by
  intro front back
  have inside : ¬ ((Deserializer.place front (bytes ++ back)).pos + bytes.length >
      (Deserializer.place front (bytes ++ back)).data.length) := by
    simp only [Deserializer.place, List.length_append]
    omega
  have slice : pySlice (front ++ (bytes ++ back)) (front.length : Int)
      ((front.length : Int) + bytes.length) = bytes := by
    rw [← Int.natCast_add, pySlice_natCast, List.take_length_add_append, List.drop_left,
      List.take_left]
  simp only [Deserializer.read, Method.bind_apply, Method.get_apply, inside, ↓reduceIte,
    Method.modify_apply, Method.pure_apply]
  simp only [Deserializer.place, slice, List.append_assoc, List.length_append, Int.natCast_add]

theorem readUint8_consumes (byte : UInt8) :
    Consumes Deserializer.place Deserializer.readUint8 [byte] byte :=
  (read_consumes [byte]).bind_nil (Consumes.lift rfl)

theorem readBool_consumes (value : Bool) :
    Consumes Deserializer.place Deserializer.readBool [if value then 1 else 0] value := by
  refine (read_consumes [_]).bind_nil ((Consumes.lift rfl).bind_nil ?_)
  cases value <;> exact Consumes.pure _

theorem readPacked_consumes {f : IntFormat} (positive : 0 < f.width) {value : Int}
    (fits : f.Holds value) :
    Consumes Deserializer.place (Deserializer.readPacked f) (packed f value) value := by
  have success := pack_eq_packed fits
  have walked := read_consumes (packed f value)
  rw [IntFormat.pack_length success] at walked
  exact walked.bind_nil (Consumes.lift (IntFormat.unpack_pack positive success))

theorem IntKind.read_consumes (kind : IntKind) {value : Int} (fits : kind.format.Holds value) :
    Consumes Deserializer.place kind.read (packed kind.format value) value := by
  cases kind with
  | uint8 =>
      have bytes : packed IntKind.uint8.format value = [UInt8.ofNat value.toNat] := by
        have success := pack_eq_packed fits
        simp only [IntFormat.pack, fits, ↓reduceIte] at success
        rw [← Except.ok.inj success]
        rfl
      simp only [IntFormat.Holds, IntKind.format, Bool.false_eq_true, ↓reduceIte] at fits
      rw [bytes]
      refine (readUint8_consumes _).bind_nil ?_
      have same : ((UInt8.ofNat value.toNat).toNat : Int) = value := by
        rw [UInt8.toNat_ofNat']
        omega
      rw [same]
      exact Consumes.pure _
  | _ => exact readPacked_consumes (by decide) fits

/-- The element loop of `read_bytes` and `read_string`. -/
theorem content_consumes (bytes : Bytes) :
    Consumes Deserializer.place (Method.times (bytes.length : Int).toNat Deserializer.readUint8)
      bytes bytes :=
  Consumes.times bytes fun byte _ => readUint8_consumes byte

theorem prefixed_consumes {α : Type} {bytes : Bytes} (bounded : bytes.length < 2 ^ 32)
    {content : Int → Deserializer.Read α} {value : α}
    (last : Consumes Deserializer.place (content bytes.length) bytes value) :
    Consumes Deserializer.place (Deserializer.readUint32 >>= content)
      (packed .I bytes.length ++ bytes) value :=
  (readPacked_consumes (by decide) (prefix_holds bounded)).bind last

@[simp] theorem stripNul_snoc (text : Bytes) : Deserializer.stripNul (text ++ [0]) = text := by
  simp only [Deserializer.stripNul, List.getLast?_append, List.getLast?_singleton, Option.some_or,
    ↓reduceIte, List.dropLast_concat]

/-- Every reader consumes exactly the frame of the value it returns. -/
theorem Value.read_consumes (v : Value) (writable : v.Writable) :
    Consumes Deserializer.place v.kind.read v.frame v := by
  cases v with
  | bool value => exact (readBool_consumes value).bind_nil (Consumes.pure _)
  | int kind value => exact (kind.read_consumes writable).bind_nil (Consumes.pure _)
  | bytes value =>
      have blob : Consumes Deserializer.place Deserializer.readBytes _ value :=
        prefixed_consumes writable (content_consumes value)
      exact blob.bind_nil (Consumes.pure _)
  | raw value => exact (OpenSomeIp.read_consumes value).bind_nil (Consumes.pure _)
  | string encoding value =>
      obtain ⟨text, encodes, decodes, bounded⟩ := writable
      have size : ((text ++ [0] : Bytes).length : Int) = text.length + 1 := by
        simp only [List.length_append, List.length_singleton, Int.natCast_add, Int.cast_ofNat_Int]
      have stripped : Consumes Deserializer.place
          (Method.lift (encoding.decode (Deserializer.stripNul (text ++ [0])))) [] value := by
        rw [stripNul_snoc]
        exact Consumes.lift decodes
      have content : Consumes Deserializer.place (Deserializer.readString encoding) _ value :=
        prefixed_consumes (by simp only [List.length_append, List.length_singleton]; omega)
          ((content_consumes (text ++ [0])).bind_nil stripped)
      simp only [frame, encodes, Except.toOption, Option.getD_some, ← size]
      exact content.bind_nil (Consumes.pure _)

def writeAll (values : List Value) : Method Exn Serializer (List Unit) :=
  Method.each Value.write values

def readAll (kinds : List Kind) : Deserializer.Read (List Value) :=
  Method.each Kind.read kinds

/-- Writing any list of writable values succeeds, and wherever the output ends up
in a buffer, the matching reads return the list and stop where the output stops. -/
theorem write_read_roundtrip (values : List Value) (writable : ∀ v ∈ values, v.Writable)
    (front back : Bytes) :
    ∃ written s, writeAll values {} = (.ok written, s) ∧
      ∃ d, readAll (values.map Value.kind)
          { data := front ++ s.toBytes ++ back, pos := front.length } = (.ok values, d) ∧
        d.data = front ++ s.toBytes ++ back ∧
        d.position = (front ++ s.toBytes).length ∧
        d.remaining = back.length := by
  have emits : Emits Serializer.emitted (writeAll values) (values.flatMap Value.frame) :=
    Emits.each values fun v member => v.write_emits (writable v member)
  have consumes : Consumes Deserializer.place (readAll (values.map Value.kind))
      (values.flatMap Value.frame) values :=
    Consumes.each values fun v member => v.read_consumes (writable v member)
  obtain ⟨written, wrote⟩ := emits []
  refine ⟨written, _, wrote, _, ?_, ?_, ?_, Deserializer.place_remaining
    (front ++ values.flatMap Value.frame) back⟩
  · simpa only [Deserializer.place, Serializer.toBytes, Serializer.emitted, List.nil_append,
      List.append_assoc] using consumes front back
  · rfl
  · rfl

/-- One value of every kind; the string ends in a NUL of its own. -/
def mixedValues : List Value :=
  [.bool true, .int .uint8 255, .int .int16 (-2), .int .uint64 (2 ^ 64 - 1), .bytes [1, 2],
    .raw [3], .string .latin1 [97, 0]]

theorem mixedValues_writable : ∀ v ∈ mixedValues, v.Writable := by
  intro v member
  simp only [mixedValues, List.mem_cons, List.not_mem_nil, or_false] at member
  rcases member with rfl | rfl | rfl | rfl | rfl | rfl | rfl
  · trivial
  · exact (by decide : IntKind.uint8.format.Holds 255)
  · exact (by decide : IntKind.int16.format.Holds (-2))
  · exact (by decide : IntKind.uint64.format.Holds (2 ^ 64 - 1))
  · exact (by decide : 2 < 2 ^ 32)
  · trivial
  · exact ⟨[97, 0], rfl, rfl, by decide⟩

theorem write_read_roundtrip_mixed :
    ∃ written s, writeAll mixedValues {} = (.ok written, s) ∧
      ∃ d, readAll (mixedValues.map Value.kind)
          { data := [9] ++ s.toBytes ++ [7, 7], pos := ([9] : Bytes).length } =
            (.ok mixedValues, d) ∧
        d.data = [9] ++ s.toBytes ++ [7, 7] ∧
        d.position = ([9] ++ s.toBytes).length ∧
        d.remaining = ([7, 7] : Bytes).length :=
  write_read_roundtrip mixedValues mixedValues_writable [9] [7, 7]

end OpenSomeIp
