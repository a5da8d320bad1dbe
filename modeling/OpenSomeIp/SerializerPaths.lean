import OpenSomeIp.DeserializerPaths
import OpenSomeIp.Lib.Tandem
import OpenSomeIp.Writers

set_option autoImplicit false

namespace OpenSomeIp

/-- The native serializer, its integer methods by the width and sign they write. -/
structure NativeSerializer (ω : Type) where
  serializeBool : Bool → Method Exn ω Unit
  serializeInt : IntKind → Int → Method Exn ω Unit
  reset : ω → ω
  getBuffer : ω → Bytes
  getSize : ω → Nat

namespace NativeSerializer

variable {ω : Type} (cpp : NativeSerializer ω)

/-! ### The `Serializer` with the extension -/

/-- Unlike the pure-Python one, it writes byte by byte. -/
def writeBytesRaw (value : Bytes) : Method Exn ω Unit := do
  let _ ← Method.each (fun byte => cpp.serializeInt .uint8 (byte.toNat : Int)) value
  pure ()

def writeBytes (value : Bytes) : Method Exn ω Unit := do
  cpp.serializeInt .uint32 value.length
  cpp.writeBytesRaw value

def writeString (value : PyStr) (encoding : Codec) : Method Exn ω Unit := do
  let text ← Method.lift (encoding.encode value)
  let encoded := text ++ [0]
  cpp.serializeInt .uint32 encoded.length
  cpp.writeBytesRaw encoded

def write : Value → Method Exn ω Unit
  | .bool value => cpp.serializeBool value
  | .int kind value => cpp.serializeInt kind value
  | .bytes value => cpp.writeBytes value
  | .raw value => cpp.writeBytesRaw value
  | .string encoding value => cpp.writeString value encoding

/-- What the native primitives are documented to do: each appends its width in network byte order,
or, given an int that does not fit its argument type, throws and appends nothing. -/
structure Lawful : Prop where
  size_eq : ∀ s, cpp.getSize s = (cpp.getBuffer s).length
  reset_empties : ∀ s, cpp.getBuffer (cpp.reset s) = []
  bool_appends : ∀ value s, ∃ t, cpp.serializeBool value s = (.ok (), t) ∧
    cpp.getBuffer t = cpp.getBuffer s ++ [if value then 1 else 0]
  int_of_pack : ∀ kind value s bytes, kind.format.pack value = .ok bytes →
    ∃ t, cpp.serializeInt kind value s = (.ok (), t) ∧ cpp.getBuffer t = cpp.getBuffer s ++ bytes
  int_of_beyond : ∀ kind value s, ¬ kind.format.Holds value →
    ∃ exc t, cpp.serializeInt kind value s = (.error exc, t) ∧ cpp.getBuffer t = cpp.getBuffer s

end NativeSerializer

theorem returned_of_toOption {α : Type} {result : Except Exn α} {value : α}
    (returned : result.toOption = some value) : result = .ok value := by
  cases result with
  | ok other => exact congrArg Except.ok (Option.some.inj returned)
  | error reason => cases returned

/-- The pure-Python `reset`. -/
def Serializer.reset (s : Serializer) : Serializer := { s with buf := [] }

/-- The pure-Python `__len__`. -/
def Serializer.len (s : Serializer) : Nat := s.buf.length

/-! ### Sequences of calls -/

inductive SerializerCall where
  | write (value : Value)
  | reset

/-- An unsigned byte that does not fit. -/
def SerializerCall.Masked (call : SerializerCall) : Prop :=
  ∃ value, call = .write (.int .uint8 value) ∧ ¬ IntKind.uint8.format.Holds value

/-- What a caller sees of one call: whether it returned, and `to_bytes()` and `len()` after it. -/
structure WriteObservation where
  returned : Bool
  toBytes : Bytes
  len : Nat
  deriving DecidableEq, Repr

/-- The observations of a sequence of calls in which every exception is caught. -/
def observeWrites {σ : Type} (write : Value → Method Exn σ Unit) (reset : σ → σ)
    (toBytes : σ → Bytes) (len : σ → Nat) : List SerializerCall → σ → List WriteObservation
  | [], _ => []
  | .write value :: calls, s =>
      ⟨(write value s).1.toOption.isSome, toBytes (write value s).2, len (write value s).2⟩ ::
        observeWrites write reset toBytes len calls (write value s).2
  | .reset :: calls, s =>
      ⟨true, toBytes (reset s), len (reset s)⟩ ::
        observeWrites write reset toBytes len calls (reset s)

namespace NativeSerializer

variable {ω : Type} {cpp : NativeSerializer ω}

/-- The two serializers hold the same bytes. -/
def Holds (cpp : NativeSerializer ω) (s : ω) (p : Serializer) : Prop := cpp.getBuffer s = p.buf

/-! ### One call on both paths -/

theorem bool_tandem (lawful : cpp.Lawful) (value : Bool) :
    Tandem cpp.Holds (cpp.serializeBool value) (Serializer.writeBool value) := by
  intro s p same
  obtain ⟨t, returned, appended⟩ := lawful.bool_appends value s
  rw [returned]
  exact ⟨rfl, by rw [Holds, appended, same]; rfl⟩

/-- An int that fits is appended by both. -/
theorem int_tandem_of_holds (lawful : cpp.Lawful) (kind : IntKind) {value : Int}
    (fits : kind.format.Holds value) :
    Tandem cpp.Holds (cpp.serializeInt kind value) (kind.write value) := by
  intro s p same
  obtain ⟨t, returned, appended⟩ := lawful.int_of_pack kind value s _ (pack_eq_packed fits)
  obtain ⟨result, wrote⟩ := kind.write_emits fits p.buf
  have python : kind.write value p = (.ok result, Serializer.emitted (p.buf ++ packed kind.format value)) :=
    wrote
  rw [returned, python]
  exact ⟨rfl, by rw [Holds, appended, same]; rfl⟩

/-- The others raise on both paths, unless `& 0xFF` makes them fit. -/
theorem int_tandem (lawful : cpp.Lawful) {kind : IntKind} {value : Int}
    (fits : kind = .uint8 → kind.format.Holds value) :
    Tandem cpp.Holds (cpp.serializeInt kind value) (kind.write value) := by
  by_cases holds : kind.format.Holds value
  · exact int_tandem_of_holds lawful kind holds
  · intro s p same
    have packs : kind ≠ .uint8 := fun byte => holds (fits byte)
    obtain ⟨exc, t, raised, kept⟩ := lawful.int_of_beyond kind value s holds
    obtain ⟨other, refused⟩ := Serializer.extendPacked_of_not_holds holds p
    rw [raised, IntKind.write_of_ne_uint8 packs, refused]
    exact ⟨rfl, kept.trans same⟩

/-- The bytes one by one are the bytes at once. -/
theorem writeBytesRaw_tandem (lawful : cpp.Lawful) (value : Bytes) :
    Tandem cpp.Holds (cpp.writeBytesRaw value) (Serializer.writeBytesRaw value) := by
  intro s p same
  have elements (s : ω) : ∃ units t,
      Method.each (fun byte => cpp.serializeInt .uint8 (byte.toNat : Int)) value s = (.ok units, t) ∧
        cpp.getBuffer t = cpp.getBuffer s ++ value := by
    induction value generalizing s with
    | nil => exact ⟨[], s, rfl, (List.append_nil _).symm⟩
    | cons byte value ih =>
        have small := byte.toNat_lt
        have packs : IntKind.uint8.format.pack (byte.toNat : Int) = .ok [byte] := by
          have fits : IntKind.uint8.format.Holds (byte.toNat : Int) := by
            simp only [IntFormat.Holds, IntKind.format, Bool.false_eq_true, ↓reduceIte]
            omega
          simp only [IntFormat.pack, fits, ↓reduceIte]
          simp [IntKind.format, BigEndian.encode]
        obtain ⟨t, first, appended⟩ := lawful.int_of_pack .uint8 _ s _ packs
        obtain ⟨units, u, rest, more⟩ := ih t
        refine ⟨() :: units, u, Method.each_cons_of_ok first rest, ?_⟩
        rw [more, appended, List.append_assoc, List.singleton_append]
  obtain ⟨units, t, ran, appended⟩ := elements s
  have returned : cpp.writeBytesRaw value s = (.ok (), t) := by
    rw [writeBytesRaw, Method.bind_of_ok ran, Method.pure_apply]
  rw [returned]
  exact ⟨rfl, by rw [Holds, appended, same]; rfl⟩

theorem prefixed_tandem (lawful : cpp.Lawful) (length : Nat) (value : Bytes) :
    Tandem cpp.Holds (cpp.serializeInt .uint32 length >>= fun _ => cpp.writeBytesRaw value)
      (Serializer.writeUint32 length >>= fun _ => Serializer.writeBytesRaw value) := by
  have apart : IntKind.uint32 ≠ .uint8 := by decide
  have head : Tandem cpp.Holds (cpp.serializeInt .uint32 length) (IntKind.uint32.write length) :=
    int_tandem lawful fun byte => absurd byte apart
  exact Tandem.bind head fun _ => writeBytesRaw_tandem lawful value

theorem write_tandem (lawful : cpp.Lawful) {value : Value}
    (fits : ¬ (SerializerCall.write value).Masked) :
    Tandem cpp.Holds (cpp.write value) value.write := by
  cases value with
  | bool value => exact bool_tandem lawful value
  | int kind value =>
      apply int_tandem lawful
      rintro rfl
      by_contra beyond
      exact fits ⟨value, rfl, beyond⟩
  | bytes value => exact prefixed_tandem lawful value.length value
  | raw value => exact writeBytesRaw_tandem lawful value
  | string encoding value =>
      exact (Tandem.lift (encoding.encode value)).bind fun text =>
        prefixed_tandem lawful (text ++ [0]).length (text ++ [0])

/-- The native call raises where the fallback masks. -/
theorem write_apart (lawful : cpp.Lawful) {value : Int}
    (beyond : ¬ IntKind.uint8.format.Holds value) (s : ω) (p : Serializer) :
    (cpp.write (.int .uint8 value) s).1.toOption.isSome ≠
      ((Value.int .uint8 value).write p).1.toOption.isSome := by
  obtain ⟨exc, t, raised, _⟩ := lawful.int_of_beyond .uint8 value s beyond
  have native : cpp.write (.int .uint8 value) s = (.error exc, t) := raised
  rw [native]
  exact Bool.false_ne_true

/-! ### Sequences -/

theorem observe_eq_iff (lawful : cpp.Lawful) {s : ω} {p : Serializer} (same : cpp.Holds s p)
    (calls : List SerializerCall) :
    observeWrites cpp.write cpp.reset cpp.getBuffer cpp.getSize calls s =
        observeWrites Value.write Serializer.reset Serializer.toBytes Serializer.len calls p ↔
      ∀ call ∈ calls, ¬ call.Masked := by
  induction calls generalizing s p with
  | nil => exact iff_of_true rfl nofun
  | cons call calls ih =>
      rw [List.forall_mem_cons]
      cases call with
      | write value =>
          by_cases masked : (SerializerCall.write value).Masked
          · apply iff_of_false
            · intro alike
              obtain ⟨byte, written, beyond⟩ := masked
              obtain rfl := SerializerCall.write.inj written
              have first := (List.cons.inj alike).1
              exact write_apart lawful beyond s p (congrArg WriteObservation.returned first)
            · intro all
              exact all.1 masked
          · obtain ⟨result, after⟩ := write_tandem lawful masked s p same
            have size : cpp.getSize (cpp.write value s).2 = (value.write p).2.len := by
              rw [lawful.size_eq, after]
              rfl
            have bytes : cpp.getBuffer (cpp.write value s).2 = (value.write p).2.toBytes := after
            simp only [observeWrites, result, bytes, size, List.cons.injEq, true_and, masked,
              not_false_eq_true]
            exact ih after
      | reset =>
          have fits : ¬ SerializerCall.reset.Masked := by
            rintro ⟨value, written, _⟩
            cases written
          have after : cpp.Holds (cpp.reset s) p.reset := lawful.reset_empties s
          have size : cpp.getSize (cpp.reset s) = p.reset.len := by
            rw [lawful.size_eq, after]
            rfl
          have bytes : cpp.getBuffer (cpp.reset s) = p.reset.toBytes := after
          simp only [observeWrites, bytes, size, List.cons.injEq, true_and, fits,
            not_false_eq_true]
          exact ih after

/-- A serializer with the extension and one without it are told apart by no sequence of writes and
resets, each exception caught, exactly when no call writes an unsigned byte that does not fit: the
native call raises there, the fallback keeps the low eight bits. -/
theorem writers_agree_iff (lawful : cpp.Lawful) {s : ω} (fresh : cpp.getBuffer s = [])
    (calls : List SerializerCall) :
    observeWrites cpp.write cpp.reset cpp.getBuffer cpp.getSize calls s =
        observeWrites Value.write Serializer.reset Serializer.toBytes Serializer.len calls {} ↔
      ∀ call ∈ calls, ¬ call.Masked :=
  observe_eq_iff lawful fresh calls

/-- A native serializer over its buffer. -/
def sample : NativeSerializer Bytes where
  serializeBool value := Method.modify fun s => s ++ [if value then 1 else 0]
  serializeInt kind value := fun s =>
    match kind.format.pack value with
    | .ok bytes => (.ok (), s ++ bytes)
    | .error _ => (.error (.native "TypeError" "incompatible function arguments"), s)
  reset _ := []
  getBuffer s := s
  getSize s := s.length

theorem sample_lawful : sample.Lawful where
  size_eq _ := rfl
  reset_empties _ := rfl
  bool_appends _ _ := ⟨_, rfl, rfl⟩
  int_of_pack kind value s bytes packs := by
    refine ⟨s ++ bytes, ?_, rfl⟩
    simp only [sample, packs]
  int_of_beyond kind value s beyond := by
    obtain ⟨exc, refused⟩ := IntFormat.pack_of_not_holds beyond
    refine ⟨.native "TypeError" "incompatible function arguments", s, ?_, rfl⟩
    simp only [sample, refused]

theorem writers_agree_iff_sample :
    observeWrites sample.write sample.reset sample.getBuffer sample.getSize
        [.write (.int .uint16 258), .write (.int .uint16 65536), .write (.bytes [7])] [] =
      observeWrites Value.write Serializer.reset Serializer.toBytes Serializer.len
        [.write (.int .uint16 258), .write (.int .uint16 65536), .write (.bytes [7])] {} := by
  apply (writers_agree_iff sample_lawful rfl _).mpr
  intro call member masked
  obtain ⟨value, rfl, _⟩ := masked
  simp at member

theorem not_masked_of_writable {value : Value} (writable : value.Writable) :
    ¬ (SerializerCall.write value).Masked := by
  rintro ⟨byte, written, beyond⟩
  obtain rfl := SerializerCall.write.inj written
  exact beyond writable

end NativeSerializer

/-! ### What one path wrote and either path reads -/

namespace NativeDeserializer

variable {ω : Type} {cpp : NativeDeserializer ω} {buffer : ω → Bytes}

theorem readKind_consumes (lawful : cpp.Lawful buffer) {value : Value} (writable : value.Writable)
    {s : ω} {front back : Bytes} (stands : Stands cpp buffer s front (value.frame ++ back)) :
    ∃ t, cpp.readKind value.kind s = (.ok value, t) ∧
      Stands cpp buffer t (front ++ value.frame) back := by
  have within : value.kind.WithinAt (Deserializer.place front (value.frame ++ back)) := by
    intro n raw
    cases value with
    | raw bytes =>
        obtain rfl := Kind.raw.inj raw
        refine ⟨Int.natCast_nonneg _, .inl ?_⟩
        rw [Deserializer.place_remaining, List.length_append, Value.frame]
        omega
    | _ => cases raw
  obtain ⟨result, _, front', back', placed, moved⟩ := readKind_alike lawful stands within
  rw [value.read_consumes writable front back] at result placed
  have data : front ++ value.frame ++ back = front' ++ back' :=
    congrArg Deserializer.data placed
  have cursor : ((front ++ value.frame).length : Int) = front'.length :=
    congrArg Deserializer.pos placed
  obtain ⟨rfl, rfl⟩ := List.append_inj data (Int.ofNat.inj cursor)
  refine ⟨_, Prod.ext ?_ rfl, moved⟩
  exact returned_of_toOption result

theorem each_readKind_consumes (lawful : cpp.Lawful buffer) {values : List Value}
    (writable : ∀ v ∈ values, v.Writable) {s : ω} {front back : Bytes}
    (stands : Stands cpp buffer s front (values.flatMap Value.frame ++ back)) :
    ∃ t, Method.each cpp.readKind (values.map Value.kind) s = (.ok values, t) ∧
      Stands cpp buffer t (front ++ values.flatMap Value.frame) back := by
  induction values generalizing s front with
  | nil =>
      rw [List.flatMap_nil, List.append_nil]
      exact ⟨s, rfl, stands⟩
  | cons value values ih =>
      obtain ⟨head, tail⟩ := List.forall_mem_cons.mp writable
      rw [List.flatMap_cons, List.append_assoc] at stands
      obtain ⟨t, first, stands⟩ := readKind_consumes lawful head stands
      obtain ⟨u, rest, stands⟩ := ih tail stands
      refine ⟨u, Method.each_cons_of_ok first rest, ?_⟩
      rw [List.flatMap_cons, ← List.append_assoc]
      exact stands

end NativeDeserializer

/-- Whichever of the two paths wrote a list of values that the writers promise to take, the bytes
are the same, and a deserializer on either path reads the values back and stops where they end. -/
theorem paths_round_trip {ω υ : Type} {writer : NativeSerializer ω} {reader : NativeDeserializer υ}
    {buffer : υ → Bytes} (writes : writer.Lawful) (reads : reader.Lawful buffer)
    (values : List Value) (writable : ∀ v ∈ values, v.Writable) {s : ω}
    (fresh : writer.getBuffer s = []) :
    ∃ written t p, Method.each writer.write values s = (.ok written, t) ∧
      writeAll values {} = (.ok written, p) ∧ p.toBytes = writer.getBuffer t ∧
      (∃ d, readAll (values.map Value.kind) { data := writer.getBuffer t } = (.ok values, d) ∧
        d.remaining = 0) ∧
      ∀ u, buffer u = writer.getBuffer t → reader.getPosition u = 0 →
        ∃ v, Method.each reader.readKind (values.map Value.kind) u = (.ok values, v) ∧
          reader.getRemaining v = 0 := by
  have emits : Framing.Emits Serializer.emitted (writeAll values) (values.flatMap Value.frame) :=
    Framing.Emits.each values fun v member => v.write_emits (writable v member)
  have consumes : Framing.Consumes Deserializer.place (readAll (values.map Value.kind))
      (values.flatMap Value.frame) values :=
    Framing.Consumes.each values fun v member => v.read_consumes (writable v member)
  obtain ⟨written, wrote⟩ := emits []
  have together : Tandem writer.Holds (Method.each writer.write values) (writeAll values) :=
    Tandem.each fun v member =>
      NativeSerializer.write_tandem writes
        (NativeSerializer.not_masked_of_writable (writable v member))
  obtain ⟨result, holds⟩ := together s {} fresh
  have python : writeAll values {} = (.ok written, Serializer.emitted (values.flatMap Value.frame)) :=
    wrote
  rw [python] at result holds
  have bytes : writer.getBuffer (Method.each writer.write values s).2 = values.flatMap Value.frame :=
    holds
  refine ⟨written, _, _, Prod.ext (returned_of_toOption result) rfl, python, bytes.symm, ?_, ?_⟩
  · have read := consumes [] []
    rw [List.append_nil, List.nil_append] at read
    rw [bytes]
    exact ⟨_, read, Deserializer.place_remaining _ []⟩
  · intro u holds start
    rw [bytes] at holds
    have stands : NativeDeserializer.Stands reader buffer u []
        (values.flatMap Value.frame ++ []) := by
      rw [List.append_nil]
      exact ⟨holds, start⟩
    obtain ⟨v, ran, stood⟩ := NativeDeserializer.each_readKind_consumes reads writable stands
    refine ⟨v, ran, ?_⟩
    have left := stood.remaining_eq reads
    exact Int.ofNat.inj left

theorem paths_round_trip_mixed :
    ∃ written t p, Method.each NativeSerializer.sample.write mixedValues [] = (.ok written, t) ∧
      writeAll mixedValues {} = (.ok written, p) ∧ p.toBytes = t ∧
      (∃ d, readAll (mixedValues.map Value.kind) { data := t } = (.ok mixedValues, d) ∧
        d.remaining = 0) ∧
      ∀ u, u.1 = t → u.2 = 0 →
        ∃ v, Method.each NativeDeserializer.sample.readKind (mixedValues.map Value.kind) u =
            (.ok mixedValues, v) ∧ NativeDeserializer.sample.getRemaining v = 0 :=
  paths_round_trip NativeSerializer.sample_lawful NativeDeserializer.sample_lawful mixedValues
    mixedValues_writable rfl

end OpenSomeIp
