import OpenSomeIp.Lib.Transition
import OpenSomeIp.ReadGrammar

set_option autoImplicit false

namespace OpenSomeIp

/-- The native deserializer, its integer methods by the width and sign they read. -/
structure NativeDeserializer (ω : Type) where
  deserializeBool : Method Exn ω Bool
  deserializeInt : IntKind → Method Exn ω Int
  getPosition : ω → Nat
  getRemaining : ω → Nat

/-- The int as an element of `bytes(..)`. -/
def byteOf (value : Int) : Except Exn UInt8 :=
  if 0 ≤ value ∧ value < 256 then .ok (UInt8.ofNat value.toNat)
  else .error (.valueError "bytes must be in range(0, 256)")

namespace NativeDeserializer

variable {ω : Type} (cpp : NativeDeserializer ω)

/-! ### The `Deserializer` with the extension -/

def position (s : ω) : Int := cpp.getPosition s

def remaining (s : ω) : Int := cpp.getRemaining s

/-- The source's `_cpp_call`. -/
def cppCall {α : Type} (method : Method Exn ω α) : Method Exn ω α :=
  Method.tryExcept method fun exc =>
    if exc.isException then Method.raise (.valueError exc.str) else Method.raise exc

def readBool : Method Exn ω Bool := cppCall cpp.deserializeBool

def readInt (kind : IntKind) : Method Exn ω Int := cppCall (cpp.deserializeInt kind)

/-- An element of the generators of the composite reads. -/
def readElement : Method Exn ω UInt8 := do
  let value ← cpp.readInt .uint8
  Method.lift (byteOf value)

def readBytes : Method Exn ω Bytes := do
  let length ← cpp.readInt .uint32
  Method.times length.toNat cpp.readElement

/-- Unlike the pure-Python one, it reads byte by byte; `range(n)` is empty for a negative `n`. -/
def readBytesRaw (n : Int) : Method Exn ω Bytes := Method.times n.toNat cpp.readElement

def readString (encoding : Codec) : Method Exn ω PyStr := do
  let length ← cpp.readInt .uint32
  let raw ← Method.times length.toNat cpp.readElement
  Method.lift (encoding.decode (Deserializer.stripNul raw))

def readKind : Kind → Method Exn ω Value
  | .bool => do
      let value ← cpp.readBool
      pure (.bool value)
  | .int kind => do
      let value ← cpp.readInt kind
      pure (.int kind value)
  | .bytes => do
      let value ← cpp.readBytes
      pure (.bytes value)
  | .raw n => do
      let value ← cpp.readBytesRaw n
      pure (.raw value)
  | .string encoding => do
      let value ← cpp.readString encoding
      pure (.string encoding value)

/-- What the native primitives are documented to do on an object that holds `buffer s`: each
reads its width in network byte order and moves the cursor over it, or throws and leaves the
cursor where it was. -/
structure Lawful (buffer : ω → Bytes) : Prop where
  remaining_eq : ∀ s, cpp.getRemaining s = (buffer s).length - cpp.getPosition s
  int_of_le : ∀ kind s, cpp.getPosition s + kind.format.width ≤ (buffer s).length →
    ∃ value t, cpp.deserializeInt kind s = (.ok value, t) ∧
      kind.format.unpack (((buffer s).drop (cpp.getPosition s)).take kind.format.width) =
        .ok value ∧
      buffer t = buffer s ∧ cpp.getPosition t = cpp.getPosition s + kind.format.width
  int_of_lt : ∀ kind s, (buffer s).length < cpp.getPosition s + kind.format.width →
    ∃ exc t, cpp.deserializeInt kind s = (.error exc, t) ∧ exc.isException = true ∧
      buffer t = buffer s ∧ cpp.getPosition t = cpp.getPosition s
  bool_of_le : ∀ s, cpp.getPosition s + 1 ≤ (buffer s).length →
    ∃ byte t, cpp.deserializeBool s = (.ok (byte != 0), t) ∧
      ((buffer s).drop (cpp.getPosition s)).take 1 = [byte] ∧
      buffer t = buffer s ∧ cpp.getPosition t = cpp.getPosition s + 1
  bool_of_lt : ∀ s, (buffer s).length < cpp.getPosition s + 1 →
    ∃ exc t, cpp.deserializeBool s = (.error exc, t) ∧ exc.isException = true ∧
      buffer t = buffer s ∧ cpp.getPosition t = cpp.getPosition s

end NativeDeserializer

/-! ### Sequences of reads -/

/-- The sequence goes on after a call that returned and after a `ValueError`. -/
def goesOn {α : Type} : Except Exn α → Bool
  | .ok _ => true
  | .error exc => exc.isValueError

/-- What a caller sees of one read: the value, or that it raised, and the cursor after it. -/
structure Observation where
  result : Option Value
  position : Int
  remaining : Int

/-- The observations of a sequence of reads in which every `ValueError` is caught. -/
def observe {σ : Type} (read : Kind → Method Exn σ Value) (position remaining : σ → Int) :
    List Kind → σ → List Observation
  | [], _ => []
  | kind :: calls, s =>
      ⟨(read kind s).1.toOption, position (read kind s).2, remaining (read kind s).2⟩ ::
        if goesOn (read kind s).1 then observe read position remaining calls (read kind s).2
        else []

/-- The pure-Python deserializer after a call behind which the sequence goes on. -/
def Kind.tryStep (d : Deserializer) (kind : Kind) : Option Deserializer :=
  if goesOn (kind.read d).1 then some (kind.read d).2 else none

/-- A raw read asks for a number of bytes that is not negative and, unless the cursor is at the
end, not more than there are. -/
def Kind.WithinAt (d : Deserializer) (kind : Kind) : Prop :=
  ∀ n, kind = .raw n → 0 ≤ n ∧ (n ≤ d.remaining ∨ d.remaining = 0)

namespace NativeDeserializer

open Deserializer

variable {ω : Type} {cpp : NativeDeserializer ω} {buffer : ω → Bytes}

/-- The native object holds `front ++ back`, with its cursor between the two. -/
def Stands (cpp : NativeDeserializer ω) (buffer : ω → Bytes) (s : ω) (front back : Bytes) : Prop :=
  buffer s = front ++ back ∧ cpp.getPosition s = front.length

section Primitives

variable {s : ω} {front back : Bytes}

theorem cppCall_of_ok {α : Type} {method : Method Exn ω α} {value : α} {t : ω}
    (returned : method s = (.ok value, t)) : cppCall method s = (.ok value, t) :=
  Method.tryExcept_of_ok returned _

theorem cppCall_of_error {α : Type} {method : Method Exn ω α} {exc : Exn} {t : ω}
    (raised : method s = (.error exc, t)) (kind : exc.isException = true) :
    cppCall method s = (.error (.valueError exc.str), t) := by
  rw [cppCall, Method.tryExcept_of_error raised, if_pos kind, Method.raise_apply]

theorem Stands.remaining_eq (lawful : cpp.Lawful buffer) (stands : Stands cpp buffer s front back) :
    cpp.remaining s = back.length := by
  rw [remaining, lawful.remaining_eq, stands.1, stands.2, List.length_append]
  omega

theorem Stands.advance {t : ω} {n : Nat} (stands : Stands cpp buffer s front back)
    (enough : n ≤ back.length) (kept : buffer t = buffer s)
    (moved : cpp.getPosition t = cpp.getPosition s + n) :
    Stands cpp buffer t (front ++ back.take n) (back.drop n) := by
  constructor
  · rw [kept, stands.1, List.append_assoc, List.take_append_drop]
  · rw [moved, stands.2, List.length_append, List.length_take, Nat.min_eq_left enough]

theorem readInt_of_le (lawful : cpp.Lawful buffer) (stands : Stands cpp buffer s front back)
    (kind : IntKind) (enough : kind.format.width ≤ back.length) :
    ∃ t, cpp.readInt kind s = (kind.format.unpack (back.take kind.format.width), t) ∧
      Stands cpp buffer t (front ++ back.take kind.format.width)
        (back.drop kind.format.width) := by
  have room : cpp.getPosition s + kind.format.width ≤ (buffer s).length := by
    rw [stands.1, stands.2, List.length_append]
    omega
  obtain ⟨value, t, returned, unpacked, kept, moved⟩ := lawful.int_of_le kind s room
  rw [stands.1, stands.2, List.drop_left] at unpacked
  refine ⟨t, ?_, stands.advance enough kept moved⟩
  rw [unpacked]
  exact cppCall_of_ok returned

theorem readInt_of_lt (lawful : cpp.Lawful buffer) (stands : Stands cpp buffer s front back)
    (kind : IntKind) (short : back.length < kind.format.width) :
    ∃ text t, cpp.readInt kind s = (.error (.valueError text), t) ∧
      Stands cpp buffer t front back := by
  have room : (buffer s).length < cpp.getPosition s + kind.format.width := by
    rw [stands.1, stands.2, List.length_append]
    omega
  obtain ⟨exc, t, raised, caught, kept, stayed⟩ := lawful.int_of_lt kind s room
  exact ⟨exc.str, t, cppCall_of_error raised caught, kept.trans stands.1, stayed.trans stands.2⟩

theorem readElement_cons (lawful : cpp.Lawful buffer) {byte : UInt8}
    (stands : Stands cpp buffer s front (byte :: back)) :
    ∃ t, cpp.readElement s = (.ok byte, t) ∧ Stands cpp buffer t (front ++ [byte]) back := by
  obtain ⟨t, returned, moved⟩ :=
    readInt_of_le lawful stands .uint8 (by simp [IntKind.format])
  refine ⟨t, ?_, moved⟩
  have value : IntKind.uint8.format.unpack [byte] = .ok (byte.toNat : Int) := by
    rw [IntFormat.unpack_of_length rfl]
    simp [IntKind.format, BigEndian.decode]
  have element : byteOf (byte.toNat : Int) = .ok byte := by
    have small := byte.toNat_lt
    rw [byteOf, if_pos (by omega), Int.toNat_natCast, UInt8.ofNat_toNat]
  have first : cpp.readInt .uint8 s = (.ok (byte.toNat : Int), t) := by
    rw [returned, ← value]
    rfl
  rw [readElement, Method.bind_of_ok first, Method.lift_apply, element]

theorem readElement_nil (lawful : cpp.Lawful buffer) (stands : Stands cpp buffer s front []) :
    ∃ text t, cpp.readElement s = (.error (.valueError text), t) ∧ Stands cpp buffer t front [] := by
  have short : ([] : Bytes).length < IntKind.uint8.format.width := Nat.zero_lt_one
  obtain ⟨text, t, raised, stayed⟩ := readInt_of_lt lawful stands .uint8 short
  exact ⟨text, t, Method.bind_of_error raised _, stayed⟩

theorem times_readElement_of_le (lawful : cpp.Lawful buffer)
    (stands : Stands cpp buffer s front back) {n : Nat} (enough : n ≤ back.length) :
    ∃ t, Method.times n cpp.readElement s = (.ok (back.take n), t) ∧
      Stands cpp buffer t (front ++ back.take n) (back.drop n) := by
  induction n generalizing s front back with
  | zero => exact ⟨s, rfl, by simpa using stands⟩
  | succ n ih =>
      cases back with
      | nil => exact absurd enough (Nat.not_succ_le_zero n)
      | cons byte back =>
          obtain ⟨t, first, stands⟩ := readElement_cons lawful stands
          obtain ⟨u, rest, stands⟩ := ih stands (Nat.le_of_succ_le_succ enough)
          refine ⟨u, ?_, ?_⟩
          · rw [Method.times, Method.bind_of_ok first, Method.bind_of_ok rest, Method.pure_apply,
              List.take_succ_cons]
          · rw [List.append_assoc, List.singleton_append] at stands
            exact stands

theorem times_readElement_of_lt (lawful : cpp.Lawful buffer)
    (stands : Stands cpp buffer s front back) {n : Nat} (short : back.length < n) :
    ∃ text t, Method.times n cpp.readElement s = (.error (.valueError text), t) ∧
      Stands cpp buffer t (front ++ back) [] := by
  induction n generalizing s front back with
  | zero => exact absurd short (Nat.not_lt_zero _)
  | succ n ih =>
      cases back with
      | nil =>
          obtain ⟨text, t, raised, stayed⟩ := readElement_nil lawful stands
          rw [List.append_nil]
          exact ⟨text, t, Method.bind_of_error raised _, stayed⟩
      | cons byte back =>
          obtain ⟨t, first, stands⟩ := readElement_cons lawful stands
          obtain ⟨text, u, raised, stands⟩ := ih stands (Nat.lt_of_succ_lt_succ short)
          refine ⟨text, u, ?_, ?_⟩
          · rw [Method.times, Method.bind_of_ok first, Method.bind_of_error raised]
          · rw [List.append_assoc, List.singleton_append] at stands
            exact stands

end Primitives

/-! ### One read on both paths -/

/-- The two paths returned alike or raised alike, and their cursors stand at the same place. -/
structure Alike {α : Type} (cpp : NativeDeserializer ω) (buffer : ω → Bytes)
    (native : Except Exn α × ω) (python : Except Exn α × Deserializer) : Prop where
  result : native.1.toOption = python.1.toOption
  goesOn : goesOn native.1 = goesOn python.1
  cursor : ∃ front back, python.2 = place front back ∧ Stands cpp buffer native.2 front back

theorem Alike.of_same {α : Type} {result : Except Exn α} {t : ω} {front back : Bytes}
    (stands : Stands cpp buffer t front back) :
    Alike cpp buffer (result, t) (result, place front back) :=
  ⟨rfl, rfl, front, back, rfl, stands⟩

/-- The texts of the two errors may differ. -/
theorem Alike.of_errors {α : Type} {text other : String} {t : ω} {front back : Bytes}
    (stands : Stands cpp buffer t front back) :
    Alike cpp buffer ((.error (.valueError text) : Except Exn α), t)
      (.error (.valueError other), place front back) :=
  ⟨rfl, rfl, front, back, rfl, stands⟩

/-- What is made of the value touches neither cursor. -/
theorem Alike.lift {α β : Type} {native : Method Exn ω α} {python : Read α} {s : ω}
    {d : Deserializer} (alike : Alike cpp buffer (native s) (python d)) (made : α → Except Exn β) :
    Alike cpp buffer ((native >>= fun value => Method.lift (made value)) s)
      ((python >>= fun value => Method.lift (made value)) d) := by
  obtain ⟨result, goesOn, cursor⟩ := alike
  rw [Method.bind_apply, Method.bind_apply]
  cases ranNative : native s with
  | mk first t =>
      cases ranPython : python d with
      | mk second e =>
          rw [ranNative, ranPython] at result goesOn cursor
          cases first with
          | ok value =>
              cases second with
              | ok other =>
                  obtain rfl := Option.some.inj result
                  exact ⟨rfl, rfl, cursor⟩
              | error reason => cases result
          | error reason =>
              cases second with
              | ok other => cases result
              | error other => exact ⟨rfl, goesOn, cursor⟩

theorem Alike.map {α β : Type} {native : Method Exn ω α} {python : Read α} {s : ω}
    {d : Deserializer} (alike : Alike cpp buffer (native s) (python d)) (wrap : α → β) :
    Alike cpp buffer ((native >>= fun value => pure (wrap value)) s)
      ((python >>= fun value => pure (wrap value)) d) :=
  alike.lift fun value => .ok (wrap value)

section OneRead

variable {s : ω} {front back : Bytes}

theorem readInt_alike (lawful : cpp.Lawful buffer) (stands : Stands cpp buffer s front back)
    (kind : IntKind) : Alike cpp buffer (cpp.readInt kind s) (kind.read (place front back)) := by
  by_cases enough : kind.format.width ≤ back.length
  · obtain ⟨t, native, stands⟩ := readInt_of_le lawful stands kind enough
    rw [native, Deserializer.readInt_of_le front enough]
    exact Alike.of_same stands
  · obtain ⟨text, t, native, stands⟩ := readInt_of_lt lawful stands kind (Nat.lt_of_not_le enough)
    obtain ⟨other, python⟩ := Deserializer.readInt_of_lt front (Nat.lt_of_not_le enough)
    rw [native, python]
    exact Alike.of_errors stands

theorem readBool_alike (lawful : cpp.Lawful buffer) (stands : Stands cpp buffer s front back) :
    Alike cpp buffer (cpp.readBool s) (Deserializer.readBool (place front back)) := by
  cases back with
  | nil =>
      have room : (buffer s).length < cpp.getPosition s + 1 := by
        rw [stands.1, stands.2, List.append_nil]
        omega
      obtain ⟨exc, t, raised, caught, kept, stayed⟩ := lawful.bool_of_lt s room
      have short : ([] : Bytes).length < 1 := Nat.zero_lt_one
      obtain ⟨text, python⟩ := read_of_lt front short
      have broken : Deserializer.readBool (place front []) =
          (.error (.valueError text), place front []) := Method.bind_of_error python _
      rw [readBool, cppCall_of_error raised caught, broken]
      exact Alike.of_errors ⟨kept.trans stands.1, stayed.trans stands.2⟩
  | cons byte rest =>
      have room : cpp.getPosition s + 1 ≤ (buffer s).length := by
        rw [stands.1, stands.2, List.length_append, List.length_cons]
        omega
      obtain ⟨other, t, returned, first, kept, moved⟩ := lawful.bool_of_le s room
      rw [stands.1, stands.2, List.drop_left] at first
      obtain rfl : byte = other := List.singleton_inj.mp first
      have python : Deserializer.readBool (place front (byte :: rest)) =
          (.ok (byte != 0), place (front ++ [byte]) rest) :=
        Method.bind_of_ok (read_consumes [byte] front rest) _
      rw [readBool, cppCall_of_ok returned, python]
      exact Alike.of_same (stands.advance (n := 1) (by simp) kept moved)

/-- The composite reads fail alike, after the same elements. -/
theorem readBytes_alike (lawful : cpp.Lawful buffer) (stands : Stands cpp buffer s front back) :
    Alike cpp buffer (cpp.readBytes s) (Deserializer.readBytes (place front back)) := by
  by_cases four : 4 ≤ back.length
  · obtain ⟨t, native, stands⟩ := readInt_of_le lawful stands .uint32 four
    have size : (back.take 4).length = IntFormat.I.width := by
      rw [List.length_take, Nat.min_eq_left four]
      rfl
    have announced : cpp.readInt .uint32 s =
        (.ok ((place front back).lengthPrefix : Int), t) := by
      rw [native, lengthPrefix_place]
      exact congrArg (Prod.mk · t) (IntFormat.unpack_of_length size)
    rw [readBytes, Deserializer.readBytes, Method.bind_of_ok announced,
      Method.bind_of_ok (readUint32_of_le four), Int.toNat_natCast]
    generalize (place front back).lengthPrefix = n
    by_cases enough : n ≤ (back.drop 4).length
    · obtain ⟨u, elements, stands⟩ := times_readElement_of_le lawful stands enough
      rw [elements, times_readUint8_of_le enough]
      exact Alike.of_same stands
    · obtain ⟨text, u, elements, stands⟩ :=
        times_readElement_of_lt lawful stands (Nat.lt_of_not_le enough)
      obtain ⟨other, python⟩ :=
        times_readUint8_of_lt (front ++ back.take 4) (Nat.lt_of_not_le enough)
      rw [elements, python]
      exact Alike.of_errors stands
  · obtain ⟨text, t, native, stands⟩ :=
      readInt_of_lt lawful stands .uint32 (Nat.lt_of_not_le four)
    obtain ⟨other, python⟩ := readUint32_of_lt front (Nat.lt_of_not_le four)
    rw [readBytes, Deserializer.readBytes, Method.bind_of_error native,
      Method.bind_of_error python]
    exact Alike.of_errors stands

theorem readString_eq_bind (encoding : Codec) :
    cpp.readString encoding =
      cpp.readBytes >>= fun raw => Method.lift (encoding.decode (stripNul raw)) := by
  rw [readString, readBytes]
  exact (Method.bind_assoc _ _ _).symm

theorem readString_alike (lawful : cpp.Lawful buffer) (stands : Stands cpp buffer s front back)
    (encoding : Codec) :
    Alike cpp buffer (cpp.readString encoding s)
      (Deserializer.readString encoding (place front back)) := by
  rw [readString_eq_bind, Deserializer.readString_eq_bind]
  exact (readBytes_alike lawful stands).lift fun raw => encoding.decode (stripNul raw)

/-- A raw read in bounds, or one that finds the cursor at the end. -/
theorem readBytesRaw_alike (lawful : cpp.Lawful buffer) (stands : Stands cpp buffer s front back)
    {n : Nat} (within : n ≤ back.length ∨ back = []) :
    Alike cpp buffer (cpp.readBytesRaw n s)
      (Deserializer.readBytesRaw n (place front back)) := by
  rw [readBytesRaw, Deserializer.readBytesRaw, Int.toNat_natCast]
  by_cases enough : n ≤ back.length
  · obtain ⟨t, native, stands⟩ := times_readElement_of_le lawful stands enough
    rw [native, read_of_le enough]
    exact Alike.of_same stands
  · obtain ⟨text, t, native, stands⟩ :=
      times_readElement_of_lt lawful stands (Nat.lt_of_not_le enough)
    obtain ⟨other, python⟩ := read_of_lt front (Nat.lt_of_not_le enough)
    obtain rfl : back = [] := within.resolve_left enough
    rw [List.append_nil] at stands
    rw [native, python]
    exact Alike.of_errors stands

theorem withinAt_raw_iff (n : Int) :
    (Kind.raw n).WithinAt (place front back) ↔ 0 ≤ n ∧ (n ≤ back.length ∨ back = []) := by
  have empty : (back.length : Int) = 0 ↔ back = [] := by
    rw [Int.natCast_eq_zero, List.length_eq_zero_iff]
  simp only [Kind.WithinAt, Kind.raw.injEq, forall_eq', place_remaining, empty]

theorem readKind_alike (lawful : cpp.Lawful buffer) (stands : Stands cpp buffer s front back)
    {kind : Kind} (within : kind.WithinAt (place front back)) :
    Alike cpp buffer (cpp.readKind kind s) (kind.read (place front back)) := by
  cases kind with
  | bool => exact (readBool_alike lawful stands).map Value.bool
  | int kind => exact (readInt_alike lawful stands kind).map (Value.int kind)
  | bytes => exact (readBytes_alike lawful stands).map Value.bytes
  | raw n =>
      obtain ⟨nonneg, bounded⟩ := (withinAt_raw_iff n).mp within
      obtain ⟨count, rfl⟩ := Int.eq_ofNat_of_zero_le nonneg
      have fits : count ≤ back.length ∨ back = [] := bounded.imp_left Int.ofNat_le.mp
      exact (readBytesRaw_alike lawful stands fits).map Value.raw
  | string encoding => exact (readString_alike lawful stands encoding).map (Value.string encoding)

/-- Otherwise the cursors part: a negative read moves the pure-Python cursor back and leaves the
native one, a read beyond the end leaves the pure-Python cursor and uses up the native input. -/
theorem readKind_apart (lawful : cpp.Lawful buffer) (stands : Stands cpp buffer s front back)
    {kind : Kind} (outside : ¬ kind.WithinAt (place front back)) :
    cpp.position (cpp.readKind kind s).2 ≠ (kind.read (place front back)).2.position := by
  cases kind with
  | raw n =>
      rw [withinAt_raw_iff] at outside
      by_cases nonneg : 0 ≤ n
      · obtain ⟨count, rfl⟩ := Int.eq_ofNat_of_zero_le nonneg
        have short : back.length < count := by omega
        have some_ : back.length ≠ 0 := by
          intro none_
          exact outside ⟨nonneg, .inr (List.length_eq_zero_iff.mp none_)⟩
        obtain ⟨text, t, native, stands⟩ := times_readElement_of_lt lawful stands short
        obtain ⟨other, python⟩ := read_of_lt front short
        have ranNative : cpp.readKind (.raw count) s = (.error (.valueError text), t) :=
          Method.bind_of_error native _
        have ranPython : (Kind.raw count).read (place front back) =
            (.error (.valueError other), place front back) := Method.bind_of_error python _
        rw [ranNative, ranPython, position, stands.2, Deserializer.position, place,
          List.length_append]
        dsimp only
        omega
      · have none_ : n.toNat = 0 := by omega
        have native : cpp.readBytesRaw n s = (.ok [], s) := by
          rw [readBytesRaw, none_]
          rfl
        have ranNative : cpp.readKind (.raw n) s = (.ok (.raw []), s) :=
          Method.bind_of_ok native _
        have inside : ¬ (place front back).pos + n > (place front back).data.length := by
          simp only [place, List.length_append]
          omega
        have moved : ((Kind.raw n).read (place front back)).2.pos = front.length + n := by
          simp only [Kind.read, Deserializer.readBytesRaw, Deserializer.read, Method.bind_apply,
            Method.get_apply, inside, ↓reduceIte, Method.modify_apply, Method.pure_apply]
          rfl
        rw [ranNative, position, stands.2, Deserializer.position, moved]
        omega
  | _ =>
      apply absurd _ outside
      intro n raw
      cases raw

end OneRead

/-! ### Sequences -/

theorem Alike.observation {native : Except Exn Value × ω} {python : Except Exn Value × Deserializer}
    (lawful : cpp.Lawful buffer) (alike : Alike cpp buffer native python) :
    (⟨native.1.toOption, cpp.position native.2, cpp.remaining native.2⟩ : Observation) =
      ⟨python.1.toOption, python.2.position, python.2.remaining⟩ := by
  obtain ⟨front, back, placed, stands⟩ := alike.cursor
  rw [alike.result, stands.remaining_eq lawful, placed, place_remaining, position, stands.2]
  rfl

theorem observe_eq_iff (lawful : cpp.Lawful buffer) {s : ω} {front back : Bytes}
    (stands : Stands cpp buffer s front back) (calls : List Kind) :
    observe cpp.readKind cpp.position cpp.remaining calls s =
        observe Kind.read Deserializer.position Deserializer.remaining calls (place front back) ↔
      Transition.Along Kind.tryStep Kind.WithinAt (place front back) calls := by
  induction calls generalizing s front back with
  | nil => exact iff_of_true rfl trivial
  | cons kind calls ih =>
      by_cases within : kind.WithinAt (place front back)
      · have alike := readKind_alike lawful stands within
        obtain ⟨front', back', placed, moved⟩ := alike.cursor
        simp only [observe, Transition.Along, alike.observation lawful, List.cons.injEq, true_and,
          within, Kind.tryStep, alike.goesOn]
        by_cases on : OpenSomeIp.goesOn (kind.read (place front back)).1 = true
        · simp only [on, ↓reduceIte, Option.some.injEq, forall_eq']
          rw [placed]
          exact ih moved
        · simp only [on, Bool.false_eq_true, ↓reduceIte, reduceCtorEq, false_implies,
            implies_true]
      · apply iff_of_false
        · intro same
          have first := (List.cons.inj same).1
          exact readKind_apart lawful stands within (congrArg Observation.position first)
        · intro along
          exact within along.1

/-- Over one buffer, a deserializer with the extension and one without it are told apart by no
sequence of reads, exactly when every raw read of the sequence is in bounds or finds the cursor
at the end. -/
theorem paths_agree_iff (lawful : cpp.Lawful buffer) {s : ω} {data : Bytes}
    (fresh : buffer s = data ∧ cpp.getPosition s = 0) (calls : List Kind) :
    observe cpp.readKind cpp.position cpp.remaining calls s =
        observe Kind.read Deserializer.position Deserializer.remaining calls { data := data } ↔
      Transition.Along Kind.tryStep Kind.WithinAt { data := data } calls := by
  have stands : Stands cpp buffer s [] data := fresh
  exact observe_eq_iff lawful stands calls

/-- A native deserializer over a buffer and a position. -/
def sample : NativeDeserializer (Bytes × Nat) where
  deserializeBool := fun s =>
    match s.1.drop s.2 with
    | byte :: _ => (.ok (byte != 0), (s.1, s.2 + 1))
    | [] => (.error (.runtimeError "Deserialization failed"), s)
  deserializeInt kind := fun s =>
    match kind.format.unpack ((s.1.drop s.2).take kind.format.width) with
    | .ok value => (.ok value, (s.1, s.2 + kind.format.width))
    | .error _ => (.error (.runtimeError "Deserialization failed"), s)
  getPosition s := s.2
  getRemaining s := s.1.length - s.2

theorem sample_lawful : sample.Lawful Prod.fst where
  remaining_eq _ := rfl
  int_of_le kind s room := by
    have size : ((s.1.drop s.2).take kind.format.width).length = kind.format.width := by
      have enough : s.2 + kind.format.width ≤ s.1.length := room
      rw [List.length_take, List.length_drop]
      omega
    refine ⟨_, (s.1, s.2 + kind.format.width), ?_, IntFormat.unpack_of_length size, rfl, rfl⟩
    simp only [sample, IntFormat.unpack_of_length size]
  int_of_lt kind s short := by
    have size : ¬ ((s.1.drop s.2).take kind.format.width).length = kind.format.width := by
      have missing : s.1.length < s.2 + kind.format.width := short
      rw [List.length_take, List.length_drop]
      cases kind <;> simp only [IntKind.format, IntFormat.H, IntFormat.I, IntFormat.Q, IntFormat.b,
        IntFormat.h, IntFormat.i, IntFormat.q] at missing ⊢ <;> omega
    refine ⟨.runtimeError "Deserialization failed", s, ?_, rfl, rfl, rfl⟩
    simp only [sample, IntFormat.unpack, if_neg size]
  bool_of_le s room := by
    have enough : s.2 + 1 ≤ s.1.length := room
    cases rest : s.1.drop s.2 with
    | nil =>
        have size := congrArg List.length rest
        rw [List.length_drop, List.length_nil] at size
        omega
    | cons byte more =>
        refine ⟨byte, (s.1, s.2 + 1), ?_, ?_, rfl, rfl⟩
        · simp only [sample, rest]
        · simp only [sample, rest, List.take_succ_cons, List.take_zero]
  bool_of_lt s short := by
    have missing : s.1.length < s.2 + 1 := short
    have rest : s.1.drop s.2 = [] := List.drop_eq_nil_of_le (by omega)
    refine ⟨.runtimeError "Deserialization failed", s, ?_, rfl, rfl, rfl⟩
    simp only [sample, rest]

theorem paths_agree_iff_sample :
    observe sample.readKind sample.position sample.remaining [.int .uint16, .raw 1, .bytes]
          ([0, 7, 9, 1], 0) =
        observe Kind.read Deserializer.position Deserializer.remaining
          [.int .uint16, .raw 1, .bytes] { data := [0, 7, 9, 1] } ↔
      Transition.Along Kind.tryStep Kind.WithinAt { data := [0, 7, 9, 1] }
        [.int .uint16, .raw 1, .bytes] :=
  paths_agree_iff sample_lawful ⟨rfl, rfl⟩ _

/-- Three raw bytes of two: both paths raise, and the native cursor is at the end. -/
theorem short_raw_read_diverges :
    observe sample.readKind sample.position sample.remaining [.raw 3] ([1, 2], 0) ≠
      observe Kind.read Deserializer.position Deserializer.remaining [.raw 3]
        { data := [1, 2] } := by
  intro same
  have positions := congrArg (List.map Observation.position) same
  exact absurd positions (by decide)

end NativeDeserializer

end OpenSomeIp
