import OpenSomeIp.Lib.Transition
import OpenSomeIp.SerializationRoundTrip
import OpenSomeIp.Utf8

set_option autoImplicit false

namespace OpenSomeIp

open Framing

/-- A call of an integer writer, of `write_bytes` or of `write_string`. -/
inductive WriteCall where
  | int (kind : IntKind) (value : Int)
  | bytes (value : Bytes)
  | string (encoding : LosslessCodec) (value : PyStr)

namespace WriteCall

def value : WriteCall → Value
  | .int kind value => .int kind value
  | .bytes value => .bytes value
  | .string encoding value => .string encoding.toCodec value

def write (call : WriteCall) : Serializer.Write := call.value.write

/-- The serializer after the call, whether it returned or raised. -/
def step (s : Serializer) (call : WriteCall) : Option Serializer := some (call.write s).2

/-- The call raises and leaves the buffer as it was, or it appends bytes from which the matching
reader returns the value. -/
def Faithful (s : Serializer) (call : WriteCall) : Prop :=
  Conveys Serializer.emitted Deserializer.place call.write call.value.kind.read call.value s.buf

/-- A byte that does not fit, of which `write_uint8` keeps the low eight bits. -/
def Masked (call : WriteCall) : Prop :=
  ∃ value, call = .int .uint8 value ∧ ¬ (0 ≤ value ∧ value < 256)

/-- Every exception caught, no call alters a value, and the buffer decodes to the accepted values
in their order. -/
def Conveyed (calls : List WriteCall) : Prop :=
  Transition.Along step Faithful {} calls ∧
    ∃ d, readAll (((attempts write calls {}).1.map value).map Value.kind)
        { data := (attempts write calls {}).2.toBytes } =
          (.ok ((attempts write calls {}).1.map value), d) ∧
      d.remaining = 0

end WriteCall

/-! ### Writers that raise -/

theorem IntFormat.pack_of_not_holds {f : IntFormat} {value : Int} (beyond : ¬ f.Holds value) :
    ∃ exc, f.pack value = .error exc := by
  rw [pack, if_neg beyond]
  exact ⟨_, rfl⟩

theorem Serializer.extendPacked_of_not_holds {f : IntFormat} {value : Int}
    (beyond : ¬ f.Holds value) (s : Serializer) :
    ∃ exc, extendPacked f value s = (.error exc, s) := by
  obtain ⟨exc, refused⟩ := IntFormat.pack_of_not_holds beyond
  have raised : (Method.lift (f.pack value) : Method Exn Serializer Bytes) s = (.error exc, s) := by
    rw [Method.lift_apply, refused]
  exact ⟨exc, Method.bind_of_error raised _⟩

/-- Only the writer of unsigned bytes does not pack. -/
theorem IntKind.write_of_ne_uint8 {kind : IntKind} (packs : kind ≠ .uint8) :
    kind.write = Serializer.extendPacked kind.format := by
  cases kind with
  | uint8 => exact absurd rfl packs
  | _ => rfl

theorem prefix_refused {n : Nat} (large : ¬ n < 2 ^ 32) : ¬ IntFormat.I.Holds n := by
  simp only [IntFormat.Holds, IntFormat.I, Bool.false_eq_true, ↓reduceIte]
  omega

theorem Serializer.writeBytes_of_large {value : Bytes} (large : ¬ value.length < 2 ^ 32)
    (s : Serializer) : ∃ exc, writeBytes value s = (.error exc, s) := by
  obtain ⟨exc, raised⟩ := extendPacked_of_not_holds (prefix_refused large) s
  exact ⟨exc, Method.bind_of_error raised _⟩

theorem Serializer.writeString_of_error {encoding : Codec} {value : PyStr} {exc : Exn}
    (refused : encoding.encode value = .error exc) (s : Serializer) :
    writeString value encoding s = (.error exc, s) := by
  have raised : (Method.lift (encoding.encode value) : Method Exn Serializer Bytes) s =
      (.error exc, s) := by
    rw [Method.lift_apply, refused]
  exact Method.bind_of_error raised _

theorem Serializer.writeString_of_large {encoding : Codec} {value : PyStr} {text : Bytes}
    (encoded : encoding.encode value = .ok text) (large : ¬ text.length < 2 ^ 32 - 1)
    (s : Serializer) : ∃ exc, writeString value encoding s = (.error exc, s) := by
  have took : (Method.lift (encoding.encode value) : Method Exn Serializer Bytes) s =
      (.ok text, s) := by
    rw [Method.lift_apply, encoded]
  have beyond : ¬ (text ++ [0]).length < 2 ^ 32 := by
    rw [List.length_append, List.length_singleton]
    omega
  obtain ⟨exc, raised⟩ := extendPacked_of_not_holds (prefix_refused beyond) s
  refine ⟨exc, ?_⟩
  rw [writeString, Method.bind_of_ok took]
  exact Method.bind_of_error raised _

/-! ### Each call -/

namespace WriteCall

theorem conveys_of_writable {call : WriteCall} (writable : call.value.Writable) (s : Serializer) :
    call.Faithful s := by
  obtain ⟨result, wrote⟩ := call.value.write_emits writable s.buf
  exact .inr ⟨result, call.value.frame, wrote, call.value.read_consumes writable⟩

/-- What does not fit raises, except in the writer of unsigned bytes. -/
theorem raises_of_not_writable {call : WriteCall} (fits : ¬ call.Masked)
    (beyond : ¬ call.value.Writable) (s : Serializer) :
    ∃ exc, call.write s = (.error exc, s) := by
  cases call with
  | int kind value =>
      by_cases packs : kind = .uint8
      · rw [packs] at fits beyond
        have small : 0 ≤ value ∧ value < 256 := by
          by_contra large
          exact fits ⟨value, rfl, large⟩
        exact absurd small beyond
      · have writer : (WriteCall.int kind value).write = Serializer.extendPacked kind.format value :=
          congrFun (IntKind.write_of_ne_uint8 packs) value
        rw [writer]
        exact Serializer.extendPacked_of_not_holds beyond s
  | bytes value => exact Serializer.writeBytes_of_large beyond s
  | string encoding value =>
      cases encoded : encoding.encode value with
      | error exc => exact ⟨exc, Serializer.writeString_of_error encoded s⟩
      | ok text =>
          have large : ¬ text.length < 2 ^ 32 - 1 := by
            intro small
            exact beyond ⟨text, encoded, encoding.decode_encode value text encoded, small⟩
          exact Serializer.writeString_of_large encoded large s

theorem faithful_of_not_masked {call : WriteCall} (fits : ¬ call.Masked) (s : Serializer) :
    call.Faithful s := by
  by_cases writable : call.value.Writable
  · exact conveys_of_writable writable s
  · exact .inl (raises_of_not_writable fits writable s)

/-- The byte that is put out stands for another number. -/
theorem not_faithful_of_masked {call : WriteCall} (masked : call.Masked) (s : Serializer) :
    ¬ call.Faithful s := by
  obtain ⟨value, rfl, beyond⟩ := masked
  have wrote : (WriteCall.int .uint8 value).write s =
      (.ok (), { buf := s.buf ++ [UInt8.ofNat (value % 256).toNat] }) := rfl
  rintro (⟨exc, raised⟩ | ⟨result, frame, put, consumes⟩)
  · cases wrote.symm.trans raised
  · have buffers := congrArg (fun outcome => outcome.2.buf) (wrote.symm.trans put)
    have same : [UInt8.ofNat (value % 256).toNat] = frame := List.append_cancel_left buffers
    rw [← same] at consumes
    have reads : (Kind.int .uint8).read (Deserializer.place [] [UInt8.ofNat (value % 256).toNat]) =
        (.ok (.int .uint8 value), Deserializer.place [UInt8.ofNat (value % 256).toNat] []) :=
      consumes [] []
    have taken : (Kind.int .uint8).read (Deserializer.place [] [UInt8.ofNat (value % 256).toNat]) =
        (.ok (.int .uint8 (UInt8.ofNat (value % 256).toNat).toNat),
          Deserializer.place [UInt8.ofNat (value % 256).toNat] []) := rfl
    rw [taken] at reads
    have decoded := (Value.int.inj (Except.ok.inj (congrArg Prod.fst reads))).2
    rw [UInt8.toNat_ofNat'] at decoded
    omega

end WriteCall

/-- In a run of writer calls each raises and leaves the buffer as it was or appends what its reader
returns the value from, and the buffer decodes to the accepted values in order, if and only if no
call writes an unsigned byte that does not fit. -/
theorem writers_faithful_iff (calls : List WriteCall) :
    WriteCall.Conveyed calls ↔ ∀ call ∈ calls, ¬ call.Masked := by
  constructor
  · rintro ⟨along, -⟩ call member masked
    obtain ⟨s, faithful⟩ :=
      Transition.exists_allowed_of_mem (fun s call => ⟨(call.write s).2, rfl⟩) along member
    exact call.not_faithful_of_masked masked s faithful
  · intro fits
    refine ⟨Transition.along_of_forall fun call member s =>
      call.faithful_of_not_masked (fits call member) s, ?_⟩
    obtain ⟨frames, put, consumes⟩ := attempts_conveys calls
      (fun call member front => call.faithful_of_not_masked (fits call member) { buf := front }) []
    have written : (attempts WriteCall.write calls {}).2.toBytes = frames :=
      congrArg Serializer.toBytes put
    have read := consumes [] []
    rw [List.append_nil, List.nil_append] at read
    rw [written]
    exact ⟨_, read, Deserializer.place_remaining frames []⟩

/-- Of 256 the writer of unsigned bytes keeps 0, and does not raise. -/
theorem masked_byte_altered :
    ¬ WriteCall.Conveyed [.string .utf8 [0xE9], .int .uint8 256] := by
  rintro ⟨along, -⟩
  have faithful := (along.2 _ rfl).1
  have masked : (WriteCall.int .uint8 256).Masked := ⟨256, rfl, by decide⟩
  exact WriteCall.not_faithful_of_masked masked _ faithful

end OpenSomeIp
