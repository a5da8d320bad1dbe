import OpenSomeIp.Lib.Transition
import OpenSomeIp.Reencoding

set_option autoImplicit false

namespace OpenSomeIp

open Framing

/-! ### The floating-point readers -/

/-- One floating-point format of `struct`, in network byte order: Python's float is the
double, so a single is widened. -/
structure FloatFormat where
  width : Nat
  ofBits : Nat → Float

namespace FloatFormat

-- The format characters the source uses, under their own names.
def f : FloatFormat := ⟨4, fun bits => (Float32.ofBits (UInt32.ofNat bits)).toFloat⟩
def d : FloatFormat := ⟨8, fun bits => Float.ofBits (UInt64.ofNat bits)⟩

/-- As `struct.unpack(..)[0]`. -/
def unpack (format : FloatFormat) (bytes : Bytes) : Except Exn Float :=
  if bytes.length = format.width then .ok (format.ofBits (BigEndian.decode bytes))
  else .error (.structError ("unpack requires a buffer of " ++ toString format.width ++ " bytes"))

end FloatFormat

namespace Deserializer

/-- Reads, then unpacks: `struct.unpack(f, self._read(width))[0]`. -/
def readFloat (format : FloatFormat) : Read Float := do
  let result ← read format.width
  Method.lift (format.unpack result)

def readFloat32 : Read Float := readFloat .f
def readFloat64 : Read Float := readFloat .d

end Deserializer

/-! ### Calls of the readers -/

/-- A call of any reader. -/
inductive ReadCall where
  | of (kind : Kind)
  | float32
  | float64

inductive ReadResult where
  | of (value : Value)
  | float (value : Float)

namespace ReadCall

def read : ReadCall → Deserializer.Read ReadResult
  | .of kind => do
      let value ← kind.read
      pure (.of value)
  | .float32 => do
      let value ← Deserializer.readFloat32
      pure (.float value)
  | .float64 => do
      let value ← Deserializer.readFloat64
      pure (.float value)

/-- The deserializer after the call, whether it returned or raised. -/
def step (d : Deserializer) (call : ReadCall) : Option Deserializer := some (call.read d).2

/-- A raw read asks for a number of bytes that is not negative. -/
def NonNeg (call : ReadCall) : Prop := ∀ n, call = .of (.raw n) → 0 ≤ n

/-- The call gets past a length prefix and fails behind it: the prefix announces more than there
is, or the codec does not take the text. -/
def BreaksOff (d : Deserializer) : ReadCall → Prop
  | .of .bytes => d.pos + 4 ≤ d.data.length ∧ ¬ d.Framed
  | .of (.string encoding) =>
      d.pos + 4 ≤ d.data.length ∧
        (d.Framed → ∃ exc, encoding.decode (Deserializer.stripNul d.content) = .error exc)
  | _ => False

/-- A call that raises leaves the cursor where it was. -/
def Restores (d : Deserializer) (call : ReadCall) : Prop :=
  ∀ exc, (call.read d).1 = .error exc →
    (call.read d).2.position = d.position ∧ (call.read d).2.remaining = d.remaining

/-- The cursor does not go back, and what a call returned is what the bytes it passed over stand
for, of which a raw read returns as many as it asked for. -/
def Advances (d : Deserializer) (call : ReadCall) : Prop :=
  d.position ≤ (call.read d).2.position ∧
    ∀ result, (call.read d).1 = .ok result →
      ∃ w, pySlice d.data d.position (call.read d).2.position = w ∧
        (call.read d).2.position = d.position + w.length ∧
        Consumes Deserializer.place call.read w result ∧
        ∀ n, call = .of (.raw n) → result = .of (.raw w) ∧ (w.length : Int) = n

end ReadCall

/-- The cursor stands in the buffer. -/
def Deserializer.InBounds (buffer : Bytes) (d : Deserializer) : Prop :=
  d.data = buffer ∧ 0 ≤ d.position ∧ d.position ≤ buffer.length ∧
    d.remaining = buffer.length - d.position ∧ 0 ≤ d.remaining

/-! ### What one read does -/

namespace Deserializer

/-- On `back` the reader returns what a part of it stands for, or raises behind a part of it,
which is empty unless `breaksOff`. -/
inductive Outcome {α : Type} (reader : Read α) (front back : Bytes) (breaksOff : Prop) : Prop
  | returned (w rest : Bytes) (value : α) (parts : back = w ++ rest)
      (consumes : Consumes place reader w value) (clean : ¬ breaksOff)
  | raised (w rest : Bytes) (exc : Exn) (parts : back = w ++ rest)
      (failed : reader (place front back) = (.error exc, place (front ++ w) rest))
      (moved : w = [] ↔ ¬ breaksOff)

variable {α β : Type} {reader : Read α} {front back : Bytes} {breaksOff : Prop}

theorem Outcome.bind_lift {next : α → Except Exn β}
    (outcome : Outcome reader front back breaksOff)
    (total : ∀ w value, Consumes place reader w value → ∃ result, next value = .ok result) :
    Outcome (reader >>= fun value => Method.lift (next value)) front back breaksOff := by
  cases outcome with
  | returned w rest value parts consumes clean =>
      obtain ⟨result, success⟩ := total w value consumes
      exact .returned w rest result parts (consumes.bind_nil (Consumes.lift success)) clean
  | raised w rest exc parts failed moved =>
      exact .raised w rest exc parts (Method.bind_of_error failed _) moved

theorem Outcome.map (outcome : Outcome reader front back breaksOff) (result : α → β) :
    Outcome (reader >>= fun value => pure (result value)) front back breaksOff :=
  outcome.bind_lift fun _ value _ => ⟨result value, rfl⟩

/-- A read of `n` bytes that passes over `w` has `n` bytes to pass over, and returns them. -/
theorem read_passed {n : Nat} {w result : Bytes}
    (passed : read n (place [] w) = (.ok result, place w [])) : result = w ∧ w.length = n := by
  by_cases enough : n ≤ w.length
  · rw [read_of_le enough] at passed
    have value := Except.ok.inj (congrArg Prod.fst passed)
    have stop := congrArg (fun outcome => outcome.2.pos) passed
    simp only [place, List.nil_append, List.length_take] at stop
    have size : w.length = n := by omega
    rw [← value, ← size, List.take_length]
    exact ⟨rfl, rfl⟩
  · obtain ⟨text, raised⟩ := read_of_lt [] (Nat.lt_of_not_le enough)
    rw [raised] at passed
    cases passed

theorem passed_of_consumes {w : Bytes} {value : α} (consumes : Consumes place reader w value) :
    reader (place [] w) = (.ok value, place w []) := by
  have passed := consumes [] []
  rw [List.append_nil, List.nil_append] at passed
  exact passed

theorem read_outcome (n : Nat) (front back : Bytes) : Outcome (read n) front back False := by
  by_cases enough : n ≤ back.length
  · have consumes := read_consumes (back.take n)
    rw [List.length_take, Nat.min_eq_left enough] at consumes
    exact .returned _ _ _ (List.take_append_drop n back).symm consumes not_false
  · obtain ⟨text, failed⟩ := read_of_lt front (Nat.lt_of_not_le enough)
    apply Outcome.raised [] back _ rfl
    · rw [List.append_nil]
      exact failed
    · exact iff_of_true rfl not_false

/-- A read of fixed width whose bytes can always be unpacked. -/
theorem fixed_outcome {n : Nat} {unpack : Bytes → Except Exn α}
    (total : ∀ bytes, bytes.length = n → ∃ value, unpack bytes = .ok value) (front back : Bytes) :
    Outcome (read n >>= fun result => Method.lift (unpack result)) front back False := by
  apply (read_outcome n front back).bind_lift
  intro w result consumes
  obtain ⟨rfl, size⟩ := read_passed (passed_of_consumes consumes)
  exact total result size

theorem readUint8_outcome (front back : Bytes) : Outcome readUint8 front back False := by
  apply fixed_outcome
  intro bytes size
  cases bytes with
  | nil => cases size
  | cons byte rest => exact ⟨byte, rfl⟩

theorem readBool_outcome (front back : Bytes) : Outcome readBool front back False := by
  have assembled : readBool = readUint8 >>= fun byte => pure (byte != 0) :=
    (Method.bind_assoc _ _ _).symm
  rw [assembled]
  exact (readUint8_outcome front back).map _

theorem readInt_outcome (kind : IntKind) (front back : Bytes) :
    Outcome kind.read front back False := by
  cases kind with
  | uint8 => exact (readUint8_outcome front back).map _
  | _ => exact fixed_outcome (fun _ size => ⟨_, IntFormat.unpack_of_length size⟩) front back

theorem readFloat_outcome (format : FloatFormat) (front back : Bytes) :
    Outcome (readFloat format) front back False :=
  fixed_outcome (fun _ size => ⟨_, if_pos size⟩) front back

/-! ### The reads behind a length prefix -/

theorem prefix_fits_iff : (place front back).pos + 4 ≤ (place front back).data.length ↔
    4 ≤ back.length := by
  simp only [place, List.length_append]
  omega

/-- The prefix and the content, consumed by any reader that goes through both. -/
theorem framed_consumes {content : Int → Read α} {value : α} (framed : (place front back).Framed)
    (last : Consumes place (content (place front back).content.length)
      (place front back).content value) :
    Consumes place (readUint32 >>= content) (back.take 4 ++ (place front back).content) value := by
  obtain ⟨bounded, announced⟩ := packed_content_length framed
  have consumes := prefixed_consumes bounded last
  rw [announced] at consumes
  exact consumes

theorem readBytes_outcome (front back : Bytes) :
    Outcome readBytes front back
      ((place front back).pos + 4 ≤ (place front back).data.length ∧
        ¬ (place front back).Framed) := by
  by_cases framed : (place front back).Framed
  · apply Outcome.returned _ _ _ (behind_splits front back)
      (framed_consumes framed (content_consumes _))
    exact fun breaks => breaks.2 framed
  · obtain ⟨text, w, rest, parts, failed, moved⟩ := readBytes_of_not_framed framed
    apply Outcome.raised w rest _ parts failed
    rw [moved, prefix_fits_iff]
    simp only [framed, not_false_eq_true, and_true]

theorem readString_outcome (encoding : Codec) (front back : Bytes) :
    Outcome (readString encoding) front back
      ((place front back).pos + 4 ≤ (place front back).data.length ∧
        ((place front back).Framed →
          ∃ exc, encoding.decode (stripNul (place front back).content) = .error exc)) := by
  by_cases framed : (place front back).Framed
  · cases decoded : encoding.decode (stripNul (place front back).content) with
    | ok text =>
        have stripped : Consumes place
            (Method.lift (encoding.decode (stripNul (place front back).content))) [] text :=
          Consumes.lift decoded
        have consumes : Consumes place (readString encoding) _ text :=
          framed_consumes framed ((content_consumes _).bind_nil stripped)
        apply Outcome.returned _ _ text (behind_splits front back) consumes
        rintro ⟨-, breaks⟩
        obtain ⟨exc, failed⟩ := breaks framed
        cases failed
    | error exc =>
        have four := (framed_place_iff.mp framed).1
        have failed := readString_of_framed encoding framed
        rw [decoded, behind_place framed] at failed
        apply Outcome.raised _ _ exc (behind_splits front back) failed
        apply iff_of_false
        · intro empty
          have size := congrArg List.length empty
          rw [List.length_append, List.length_take, List.length_nil] at size
          omega
        · exact not_not_intro ⟨prefix_fits_iff.mpr four, fun _ => ⟨exc, rfl⟩⟩
  · obtain ⟨text, w, rest, parts, failed, moved⟩ := readString_of_not_framed encoding framed
    apply Outcome.raised w rest _ parts failed
    rw [moved, prefix_fits_iff]
    simp only [framed, false_implies, and_true]

end Deserializer

/-! ### Every call at a cursor inside the buffer -/

namespace ReadCall

open Deserializer

theorem outcome {call : ReadCall} (nonneg : call.NonNeg) (front back : Bytes) :
    Outcome call.read front back (call.BreaksOff (place front back)) := by
  cases call with
  | float32 => exact (readFloat_outcome .f front back).map _
  | float64 => exact (readFloat_outcome .d front back).map _
  | of kind =>
      cases kind with
      | bool => exact ((readBool_outcome front back).map _).map _
      | int kind => exact ((readInt_outcome kind front back).map _).map _
      | bytes => exact ((readBytes_outcome front back).map _).map _
      | string encoding => exact ((readString_outcome encoding front back).map _).map _
      | raw n =>
          obtain ⟨count, rfl⟩ := Int.eq_ofNat_of_zero_le (nonneg n rfl)
          exact ((read_outcome count front back).map _).map _

/-- What a raw read returns is what it passed over. -/
theorem raw_consumed {n : Int} (nonneg : 0 ≤ n) {w : Bytes} {result : ReadResult}
    (consumes : Consumes place (ReadCall.of (.raw n)).read w result) :
    result = .of (.raw w) ∧ (w.length : Int) = n := by
  obtain ⟨count, rfl⟩ := Int.eq_ofNat_of_zero_le nonneg
  obtain ⟨value, middle, inner, same⟩ := Method.bind_eq_ok (passed_of_consumes consumes)
  obtain ⟨bytes, stop, took, kept⟩ := Method.bind_eq_ok inner
  rw [Method.pure_apply] at same kept
  cases same
  cases kept
  obtain ⟨rfl, size⟩ := read_passed took
  exact ⟨rfl, congrArg Nat.cast size⟩

/-- A call that is no negative raw read does not leave the buffer. -/
theorem exists_passed {call : ReadCall} (nonneg : call.NonNeg) (front back : Bytes) :
    ∃ w rest, back = w ++ rest ∧ (call.read (place front back)).2 = place (front ++ w) rest := by
  cases outcome nonneg front back with
  | returned w rest value parts consumes clean =>
      refine ⟨w, rest, parts, ?_⟩
      rw [parts, consumes]
  | raised w rest exc parts failed moved =>
      refine ⟨w, rest, parts, ?_⟩
      rw [failed]

theorem place_inBounds (front back : Bytes) : (place front back).InBounds (front ++ back) := by
  refine ⟨rfl, ?_, ?_, ?_, ?_⟩ <;>
    simp only [position, remaining, place, List.length_append] <;> omega

theorem exists_place_of_inBounds {buffer : Bytes} {d : Deserializer} (inside : d.InBounds buffer) :
    ∃ front back, d = place front back ∧ buffer = front ++ back := by
  obtain ⟨rfl, start, stop, -⟩ := inside
  obtain ⟨front, back, rfl⟩ := exists_place start stop
  exact ⟨front, back, rfl, rfl⟩

theorem step_inBounds {buffer : Bytes} {d t : Deserializer} {call : ReadCall}
    (inside : d.InBounds buffer) (nonneg : call.NonNeg) (stepped : step d call = some t) :
    t.InBounds buffer := by
  obtain rfl := Option.some.inj stepped
  obtain ⟨front, back, rfl, rfl⟩ := exists_place_of_inBounds inside
  obtain ⟨w, rest, rfl, after⟩ := exists_passed nonneg front back
  rw [after, ← List.append_assoc]
  exact place_inBounds (front ++ w) rest

/-- After any calls of which none is a negative raw read. -/
theorem run_inBounds {buffer : Bytes} {calls : List ReadCall} {d : Deserializer}
    (nonneg : ∀ call ∈ calls, call.NonNeg)
    (reached : Transition.run step { data := buffer } calls = some d) : d.InBounds buffer := by
  have preserved (s : Deserializer) (call : ReadCall) (t : Deserializer) (inside : s.InBounds buffer)
      (among : call.NonNeg) (stepped : step s call = some t) : t.InBounds buffer :=
    step_inBounds inside among stepped
  exact Transition.invariant_among preserved (place_inBounds [] buffer) nonneg reached

/-! ### Failing reads -/

theorem restores_iff {call : ReadCall} (nonneg : call.NonNeg) (front back : Bytes) :
    call.Restores (place front back) ↔ ¬ call.BreaksOff (place front back) := by
  cases outcome nonneg front back with
  | returned w rest value parts consumes clean =>
      apply iff_of_true _ clean
      intro exc failed
      rw [parts, consumes] at failed
      cases failed
  | raised w rest exc parts failed moved =>
      rw [← moved, Restores, failed, parts]
      constructor
      · intro restores
        have same := (restores exc rfl).1
        simp only [position, place, List.length_append] at same
        exact List.length_eq_zero_iff.mp (by omega)
      · intro empty other _
        rw [empty, List.append_nil, List.nil_append]
        exact ⟨rfl, rfl⟩

end ReadCall

/-- From every cursor that calls on a buffer can reach, a call that raises leaves the cursor where
it was exactly when it does not get past a length prefix and fail behind it. -/
theorem failed_read_restores_iff (buffer : Bytes) (calls : List ReadCall)
    (nonneg : ∀ call ∈ calls, call.NonNeg) (d : Deserializer)
    (reached : Transition.run ReadCall.step { data := buffer } calls = some d) (call : ReadCall)
    (legal : call.NonNeg) : call.Restores d ↔ ¬ call.BreaksOff d := by
  have inside := ReadCall.run_inBounds nonneg reached
  obtain ⟨front, back, rfl, -⟩ := ReadCall.exists_place_of_inBounds inside
  exact ReadCall.restores_iff legal front back

/-- A bool and a blob that announces five bytes, of which one is there. -/
def truncated : Bytes := [1, 0, 0, 0, 5, 7]

theorem failed_read_restores_iff_truncated :
    (ReadCall.of .bytes).Restores { data := truncated, pos := 1 } ↔
      ¬ (ReadCall.of .bytes).BreaksOff { data := truncated, pos := 1 } :=
  failed_read_restores_iff truncated [.of .bool]
    (by
      intro call member n same
      rw [List.mem_singleton.mp member] at same
      cases same)
    { data := truncated, pos := 1 } rfl (.of .bytes)
    (by
      intro n same
      cases same)

/-- The blob cannot be read, and the cursor has gone to the end of the buffer. -/
theorem truncated_blob_moves :
    ¬ (ReadCall.of .bytes).Restores { data := truncated, pos := 1 } := by
  intro restores
  have stayed := (restores _ rfl).1
  exact absurd stayed (by decide)

/-! ### The cursor over a run -/

namespace ReadCall

open Deserializer

theorem advances_of_nonneg {call : ReadCall} (nonneg : call.NonNeg) (front back : Bytes) :
    call.Advances (place front back) := by
  obtain ⟨w, rest, parts, after⟩ := exists_passed nonneg front back
  constructor
  · rw [after]
    simp only [position, place, List.length_append]
    omega
  · intro result returned
    cases outcome nonneg front back with
    | raised v others exc parts failed moved =>
        rw [failed] at returned
        cases returned
    | returned v others value parts consumes clean =>
        rw [parts, consumes] at returned ⊢
        obtain rfl := Except.ok.inj returned
        refine ⟨v, ?_, ?_, consumes, ?_⟩
        · have slice := slice_place front (v ++ others) 0 v.length
          simpa [position, place] using slice
        · simp only [position, place, List.length_append, Int.natCast_add]
        · intro n same
          have asked := nonneg n same
          rw [same] at consumes
          exact raw_consumed asked consumes

/-- A negative raw read takes the cursor back. -/
theorem not_advances_of_neg {buffer : Bytes} {d : Deserializer} (inside : d.InBounds buffer)
    {n : Int} (negative : n < 0) : ¬ (ReadCall.of (.raw n)).Advances d := by
  have within : ¬ d.pos + n > d.data.length := by
    obtain ⟨rfl, -, stop, -⟩ := inside
    rw [position] at stop
    omega
  have moved : ((ReadCall.of (.raw n)).read d).2.position = d.position + n := by
    simp only [ReadCall.read, Kind.read, readBytesRaw, Deserializer.read, Method.bind_apply,
      Method.get_apply, within, ↓reduceIte, Method.modify_apply, Method.pure_apply, position]
  intro advances
  have forward := advances.1
  rw [moved] at forward
  omega

end ReadCall

/-- Along a run of calls the cursor stays inside the buffer, does not go back, and passes over
exactly what was read, if and only if no call is a negative raw read. -/
theorem cursor_invariant_iff (buffer : Bytes) (calls : List ReadCall) :
    Transition.Along ReadCall.step
        (fun d call =>
          d.InBounds buffer ∧ call.Advances d ∧ (call.read d).2.InBounds buffer)
        { data := buffer } calls ↔
      ∀ call ∈ calls, call.NonNeg := by
  constructor
  · intro along call member n same
    obtain ⟨d, held⟩ :=
      Transition.exists_allowed_of_mem (fun d call => ⟨(call.read d).2, rfl⟩) along member
    by_contra negative
    rw [same] at held
    exact ReadCall.not_advances_of_neg held.1 (Int.not_le.mp negative) held.2.1
  · intro nonneg
    apply Transition.along_of_invariant
      (fun _ _ _ inside among stepped => ReadCall.step_inBounds inside among stepped) _
      (ReadCall.place_inBounds [] buffer) nonneg
    intro d call inside among
    refine ⟨inside, ?_, ReadCall.step_inBounds inside among rfl⟩
    obtain ⟨front, back, rfl, -⟩ := ReadCall.exists_place_of_inBounds inside
    exact ReadCall.advances_of_nonneg among front back

/-- A length computed as the difference of two fields that are the wrong way round. -/
theorem negative_read_goes_back :
    ¬ Transition.Along ReadCall.step
        (fun d call =>
          d.InBounds [2, 1] ∧ call.Advances d ∧ (call.read d).2.InBounds [2, 1])
        { data := [2, 1] } [.of (.int .uint8), .of (.raw (-2))] := by
  intro along
  have held := along.2 _ rfl
  exact absurd held.1.2.1.1 (by decide)

end OpenSomeIp
