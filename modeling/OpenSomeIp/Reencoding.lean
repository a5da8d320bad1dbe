import OpenSomeIp.Lib.Transition
import OpenSomeIp.ReadGrammar
import OpenSomeIp.Utf8

set_option autoImplicit false

namespace OpenSomeIp

open Framing

/-- What the schema promises: no negative raw read, and codecs that give back the bytes they
decoded. -/
def Kind.Sound : Kind → Prop
  | .raw n => 0 ≤ n
  | .string encoding => encoding.Strict
  | _ => True

/-- The read at the cursor meets an encoding as the writers put it out: a bool is one of the
bytes 0 and 1, and the content of a string ends in a NUL byte. -/
def Kind.CanonicalAt (d : Deserializer) : Kind → Prop
  | .bool => pySlice d.data d.pos (d.pos + 1) = [0] ∨ pySlice d.data d.pos (d.pos + 1) = [1]
  | .string _ => d.content.getLast? = some 0
  | _ => True

/-- The deserializer after a read that returned. -/
def Kind.step (d : Deserializer) (kind : Kind) : Option Deserializer :=
  match kind.read d with
  | (.ok _, t) => some t
  | (.error _, _) => none

theorem Kind.step_of_ok {kind : Kind} {d t : Deserializer} {v : Value}
    (returned : kind.read d = (.ok v, t)) : Kind.step d kind = some t := by
  rw [Kind.step, returned]

/-- Where the input was canonical the writer puts out `w` again; and whatever it puts out is at
least as long as `w`, and `w` itself only where the input was canonical. -/
structure Answers {α : Type} (writer : Method Exn Serializer α) (w : Bytes) (canonical : Prop) :
    Prop where
  emits : canonical → Emits Serializer.emitted writer w
  covers : ∀ s value t, writer s = (.ok value, t) →
    ∃ out, t.buf = s.buf ++ out ∧ w.length ≤ out.length ∧ (out = w → canonical)

theorem Answers.of_emits {α : Type} {writer : Method Exn Serializer α} {w : Bytes}
    {canonical : Prop} (holds : canonical) (emits : Emits Serializer.emitted writer w) :
    Answers writer w canonical := by
  refine ⟨fun _ => emits, fun s value t wrote => ⟨w, ?_, Nat.le_refl _, fun _ => holds⟩⟩
  obtain ⟨other, again⟩ := emits s.buf
  have same : (Except.ok value, t) = (Except.ok other, Serializer.emitted (s.buf ++ w)) :=
    wrote.symm.trans again
  rw [(Prod.mk.inj same).2]
  rfl

/-- No shortened output behind it makes up for a lengthened one. -/
theorem Answers.cons {v : Value} {values : List Value} {w rest : Bytes} {here behind : Prop}
    (head : Answers v.write w here) (tail : Answers (writeAll values) rest behind) :
    Answers (writeAll (v :: values)) (w ++ rest) (here ∧ behind) := by
  constructor
  · rintro ⟨first, others⟩ front
    obtain ⟨value, wrote⟩ := head.emits first front
    obtain ⟨later, followed⟩ := tail.emits others (front ++ w)
    refine ⟨value :: later, ?_⟩
    rw [← List.append_assoc]
    exact Method.each_cons_of_ok wrote followed
  · intro s value u wrote
    obtain ⟨first, t, others, headRan, tailRan, _⟩ := Method.each_cons_eq_ok wrote
    obtain ⟨out, put, long, only⟩ := head.covers s first t headRan
    obtain ⟨outs, puts, longer, onlyRest⟩ := tail.covers t others u tailRan
    refine ⟨out ++ outs, ?_, ?_, ?_⟩
    · rw [puts, put, List.append_assoc]
    · rw [List.length_append, List.length_append]
      omega
    · intro same
      have total := congrArg List.length same
      rw [List.length_append, List.length_append] at total
      obtain ⟨first, second⟩ := List.append_inj same (by omega)
      exact ⟨only first, onlyRest second⟩

theorem Answers.nil : Answers (writeAll []) [] True :=
  Answers.of_emits trivial (Emits.pure [])

/-! ### One element -/

section Element

open Deserializer

variable {front back : Bytes}

/-- What a successful read returned is answered by its own bytes. -/
def Answered (kind : Kind) (front back : Bytes) (v : Value) (t : Deserializer) : Prop :=
  ∃ w rest, back = w ++ rest ∧ t = place (front ++ w) rest ∧
    Answers v.write w (kind.CanonicalAt (place front back))

theorem packed_of_unpack {f : IntFormat} (positive : 0 < f.width) {bytes : Bytes} {v : Int}
    (unpacked : f.unpack bytes = .ok v) : packed f v = bytes := by
  rw [packed, (IntFormat.pack_unpack positive unpacked).2]
  rfl

/-- The first byte of a one-byte read. -/
theorem read_one_cases (front back : Bytes) :
    (∃ byte rest, back = byte :: rest ∧
        read 1 (place front back) = (.ok [byte], place (front ++ [byte]) rest)) ∨
      ∃ text, read 1 (place front back) = (.error (.valueError text), place front back) := by
  cases back with
  | nil =>
      have short : ([] : Bytes).length < 1 := Nat.zero_lt_one
      exact .inr (read_of_lt front short)
  | cons byte rest => exact .inl ⟨byte, rest, rfl, read_consumes [byte] front rest⟩

theorem readBool_answered {v : Value} {t : Deserializer}
    (returned : Kind.bool.read (place front back) = (.ok v, t)) :
    Answered .bool front back v t := by
  rcases read_one_cases front back with ⟨byte, rest, rfl, ran⟩ | ⟨text, raised⟩
  · have took : Kind.bool.read (place front (byte :: rest)) =
        (.ok (.bool (byte != 0)), place (front ++ [byte]) rest) := by
      have bool : readBool (place front (byte :: rest)) =
          (.ok (byte != 0), place (front ++ [byte]) rest) := Method.bind_of_ok ran _
      exact Method.bind_of_ok bool _
    obtain ⟨same, rfl⟩ := Prod.mk.inj (returned.symm.trans took)
    obtain rfl := Except.ok.inj same
    refine ⟨[byte], rest, rfl, rfl, ?_⟩
    have slice : pySlice (place front (byte :: rest)).data (place front (byte :: rest)).pos
        ((place front (byte :: rest)).pos + 1) = [byte] := by
      have whole := slice_place front (byte :: rest) 0 1
      simpa only [Int.natCast_zero, Int.add_zero, List.drop_zero, List.take_succ_cons,
        List.take_zero, Int.cast_ofNat_Int] using whole
    have written : (if byte != 0 then 1 else 0) = byte ↔ byte = 0 ∨ byte = 1 := by
      by_cases zero : byte = 0
      · simp [zero]
      · simp only [bne_iff_ne, ne_eq, zero, not_false_eq_true, ↓reduceIte, false_or]
        exact eq_comm
    have canonical : Kind.bool.CanonicalAt (place front (byte :: rest)) ↔
        byte = 0 ∨ byte = 1 := by
      rw [Kind.CanonicalAt, slice]
      simp
    rw [← written] at canonical
    refine ⟨fun holds => ?_, fun s value t wrote => ?_⟩
    · have emits : Emits Serializer.emitted (Value.bool (byte != 0)).write
          [if byte != 0 then 1 else 0] := extend_emits _
      rw [canonical.mp holds] at emits
      exact emits
    · refine ⟨[if byte != 0 then 1 else 0], ?_, Nat.le_refl 1, fun same => ?_⟩
      · have put := (Prod.mk.inj wrote).2
        rw [← put]
      · exact canonical.mpr (List.singleton_inj.mp same)
  · have broken : Kind.bool.read (place front back) =
        (.error (.valueError text), place front back) := by
      have bool : readBool (place front back) = (.error (.valueError text), place front back) :=
        Method.bind_of_error raised _
      exact Method.bind_of_error bool _
    cases returned.symm.trans broken

theorem readInt_answered {kind : IntKind} {v : Value} {t : Deserializer}
    (returned : (Kind.int kind).read (place front back) = (.ok v, t)) :
    Answered (.int kind) front back v t := by
  have positive : 0 < kind.format.width := by cases kind <;> decide
  by_cases enough : kind.format.width ≤ back.length
  · have size : (back.take kind.format.width).length = kind.format.width := by
      rw [List.length_take, Nat.min_eq_left enough]
    have unpacked := IntFormat.unpack_of_length size
    have ran := readInt_of_le front enough
    rw [unpacked] at ran
    obtain ⟨same, rfl⟩ := Prod.mk.inj (returned.symm.trans (Method.bind_of_ok ran _))
    obtain rfl := Except.ok.inj same
    refine ⟨_, _, (List.take_append_drop _ _).symm, rfl, ?_⟩
    have emits := kind.write_emits (IntFormat.pack_unpack positive unpacked).1
    rw [packed_of_unpack positive unpacked] at emits
    exact Answers.of_emits trivial emits
  · obtain ⟨text, raised⟩ := readInt_of_lt front (Nat.lt_of_not_le enough)
    cases returned.symm.trans (Method.bind_of_error raised _)

theorem readBytesRaw_answered {n : Int} (nonneg : 0 ≤ n) {v : Value} {t : Deserializer}
    (returned : (Kind.raw n).read (place front back) = (.ok v, t)) :
    Answered (.raw n) front back v t := by
  obtain ⟨count, rfl⟩ := Int.eq_ofNat_of_zero_le nonneg
  by_cases enough : count ≤ back.length
  · obtain ⟨same, rfl⟩ :=
      Prod.mk.inj (returned.symm.trans (Method.bind_of_ok (read_of_le enough) _))
    obtain rfl := Except.ok.inj same
    refine ⟨_, _, (List.take_append_drop _ _).symm, rfl, ?_⟩
    exact Answers.of_emits trivial (extend_emits _)
  · obtain ⟨text, raised⟩ := read_of_lt front (Nat.lt_of_not_le enough)
    cases returned.symm.trans (Method.bind_of_error raised _)

/-- The prefix of a framed content is the packed length of it. -/
theorem packed_content_length (framed : (place front back).Framed) :
    (place front back).content.length < 2 ^ 32 ∧
      packed .I (place front back).content.length = back.take 4 := by
  obtain ⟨four, announced⟩ := framed_place_iff.mp framed
  have prefixSize : (back.take 4).length = 4 := by rw [List.length_take, Nat.min_eq_left four]
  have size : (place front back).content.length = BigEndian.decode (back.take 4) := by
    rw [content_place, List.length_take, Nat.min_eq_left announced, lengthPrefix_place]
  have unpacked : IntFormat.I.unpack (back.take 4) = .ok (BigEndian.decode (back.take 4) : Int) :=
    IntFormat.unpack_of_length prefixSize
  have bound := BigEndian.decode_lt (back.take 4)
  rw [prefixSize] at bound
  rw [size]
  exact ⟨by omega, packed_of_unpack (by decide) unpacked⟩

theorem behind_splits (front back : Bytes) :
    back = back.take 4 ++ (place front back).content ++
      (back.drop 4).drop (place front back).lengthPrefix := by
  rw [content_place, List.append_assoc, List.take_append_drop, List.take_append_drop]

theorem readBytes_answered {v : Value} {t : Deserializer}
    (returned : Kind.bytes.read (place front back) = (.ok v, t)) :
    Answered .bytes front back v t := by
  by_cases framed : (place front back).Framed
  · obtain ⟨same, rfl⟩ :=
      Prod.mk.inj (returned.symm.trans (Method.bind_of_ok (readBytes_of_framed framed) _))
    obtain rfl := Except.ok.inj same
    obtain ⟨bounded, announced⟩ := packed_content_length framed
    refine ⟨_, _, behind_splits front back, behind_place framed, ?_⟩
    have emits := (Value.bytes (place front back).content).write_emits bounded
    rw [Value.frame, announced] at emits
    exact Answers.of_emits trivial emits
  · obtain ⟨text, _, _, _, raised, _⟩ := readBytes_of_not_framed framed
    cases returned.symm.trans (Method.bind_of_error raised _)

/-- A content without a final NUL comes back one byte longer, if at all. -/
theorem writeString_lengthens {encoding : Codec} {text : PyStr} {raw : Bytes}
    (encodes : encoding.encode text = .ok raw) {s t : Serializer} {value : Unit}
    (wrote : Serializer.writeString text encoding s = (.ok value, t)) :
    ∃ out, t.buf = s.buf ++ out ∧ out.length = 4 + raw.length + 1 := by
  have encoded : (Method.lift (encoding.encode text) : Method Exn Serializer Bytes) s =
      (.ok raw, s) := by
    rw [encodes, Method.lift_apply]
  rw [Serializer.writeString, Method.bind_of_ok encoded] at wrote
  obtain ⟨middle, u, announced, wrote⟩ := Method.bind_eq_ok wrote
  obtain ⟨announcement, _, lifted, extended⟩ := Method.bind_eq_ok announced
  obtain ⟨success, rfl⟩ := Prod.mk.inj lifted
  obtain ⟨_, rfl⟩ := Prod.mk.inj extended
  obtain ⟨_, rfl⟩ := Prod.mk.inj wrote
  refine ⟨announcement ++ (raw ++ [0]), (List.append_assoc _ _ _), ?_⟩
  rw [List.length_append, List.length_append, IntFormat.pack_length success]
  rfl

theorem readString_answered {encoding : Codec} (strict : encoding.Strict) {v : Value}
    {t : Deserializer}
    (returned : (Kind.string encoding).read (place front back) = (.ok v, t)) :
    Answered (.string encoding) front back v t := by
  by_cases framed : (place front back).Framed
  · cases decoded : encoding.decode (stripNul (place front back).content) with
    | error reason =>
        have raised := readString_of_framed encoding framed
        rw [decoded] at raised
        cases returned.symm.trans (Method.bind_of_error raised _)
    | ok text =>
        have ran := readString_of_framed encoding framed
        rw [decoded] at ran
        obtain ⟨same, rfl⟩ := Prod.mk.inj (returned.symm.trans (Method.bind_of_ok ran _))
        obtain rfl := Except.ok.inj same
        have encodes := strict _ _ decoded
        obtain ⟨bounded, announced⟩ := packed_content_length framed
        refine ⟨_, _, behind_splits front back, behind_place framed, ?_⟩
        by_cases terminated : (place front back).content.getLast? = some 0
        · obtain ⟨raw, whole⟩ := List.getLast?_eq_some_iff.mp terminated
          rw [whole, stripNul_snoc] at decoded encodes
          rw [whole, List.length_append, List.length_singleton] at bounded announced
          have emits := (Value.string encoding text).write_emits
            ⟨raw, encodes, decoded, by omega⟩
          simp only [Value.frame, encodes, Except.toOption, Option.getD_some] at emits
          rw [Int.natCast_add] at announced
          rw [Int.cast_ofNat_Int] at announced
          rw [announced, ← whole] at emits
          exact Answers.of_emits terminated emits
        · have kept : stripNul (place front back).content = (place front back).content := by
            rw [stripNul, if_neg terminated]
          rw [kept] at encodes
          have prefixSize : (back.take 4).length = 4 := by
            rw [List.length_take, Nat.min_eq_left (framed_place_iff.mp framed).1]
          refine ⟨fun canonical => absurd canonical terminated, fun s value u wrote => ?_⟩
          obtain ⟨out, put, longer⟩ := writeString_lengthens encodes wrote
          refine ⟨out, put, ?_, fun same => ?_⟩
          · rw [List.length_append, prefixSize]
            omega
          · rw [same, List.length_append, prefixSize] at longer
            omega
  · obtain ⟨text, _, _, _, raised, _⟩ := readString_of_not_framed encoding framed
    cases returned.symm.trans (Method.bind_of_error raised _)

theorem Kind.read_answered {kind : Kind} (sound : kind.Sound) {v : Value} {t : Deserializer}
    (returned : kind.read (place front back) = (.ok v, t)) : Answered kind front back v t := by
  cases kind with
  | bool => exact readBool_answered returned
  | int kind => exact readInt_answered returned
  | bytes => exact readBytes_answered returned
  | raw n => exact readBytesRaw_answered sound returned
  | string encoding => exact readString_answered sound returned

end Element

/-! ### A whole schema -/

theorem readAll_answered (schema : List Kind) (sound : ∀ kind ∈ schema, kind.Sound)
    {front back : Bytes} {values : List Value} {t : Deserializer}
    (returned : readAll schema (Deserializer.place front back) = (.ok values, t)) :
    ∃ w rest, back = w ++ rest ∧ t = Deserializer.place (front ++ w) rest ∧
      Answers (writeAll values) w
        (Transition.Along Kind.step Kind.CanonicalAt (Deserializer.place front back) schema) := by
  induction schema generalizing front back values t with
  | nil =>
      obtain ⟨same, rfl⟩ := Prod.mk.inj returned
      obtain rfl := Except.ok.inj same
      exact ⟨[], back, rfl, by rw [List.append_nil], Answers.nil⟩
  | cons kind schema ih =>
      obtain ⟨v, middle, others, head, tail, rfl⟩ := Method.each_cons_eq_ok returned
      have stepped := Kind.step_of_ok head
      obtain ⟨w, rest, rfl, rfl, answered⟩ := Kind.read_answered (sound kind List.mem_cons_self) head
      obtain ⟨w', rest', rfl, rfl, answeredRest⟩ :=
        ih (fun other member => sound other (List.mem_cons_of_mem kind member)) tail
      refine ⟨w ++ w', rest', (List.append_assoc _ _ _).symm, by rw [List.append_assoc], ?_⟩
      have along : Transition.Along Kind.step Kind.CanonicalAt
          (Deserializer.place front (w ++ (w' ++ rest'))) (kind :: schema) ↔
            kind.CanonicalAt (Deserializer.place front (w ++ (w' ++ rest'))) ∧
              Transition.Along Kind.step Kind.CanonicalAt
                (Deserializer.place (front ++ w) (w' ++ rest')) schema := by
        simp only [Transition.Along, stepped, Option.some.injEq, forall_eq']
      rw [along]
      exact answered.cons answeredRest

/-- Writing back what the reads of a schema took from a buffer succeeds and gives the buffer
again exactly when every bool was the byte 0 or 1 and every string ended in NUL. -/
theorem reencode_iff (schema : List Kind) (sound : ∀ kind ∈ schema, kind.Sound) (buffer : Bytes)
    (values : List Value) (d : Deserializer)
    (returned : readAll schema { data := buffer } = (.ok values, d)) (complete : d.remaining = 0) :
    (∃ written s, writeAll values {} = (.ok written, s) ∧ s.toBytes = buffer) ↔
      Transition.Along Kind.step Kind.CanonicalAt { data := buffer } schema := by
  have fresh : ({ data := buffer } : Deserializer) = Deserializer.place [] buffer := rfl
  rw [fresh] at returned ⊢
  obtain ⟨w, rest, rfl, rfl, answers⟩ := readAll_answered schema sound returned
  have consumed : rest = [] := by
    rw [Deserializer.place_remaining] at complete
    exact List.length_eq_zero_iff.mp (by omega)
  rw [consumed, List.append_nil] at answers ⊢
  constructor
  · rintro ⟨written, s, wrote, same⟩
    obtain ⟨out, put, _, only⟩ := answers.covers {} written s wrote
    exact only (put.symm.trans same)
  · intro canonical
    obtain ⟨written, wrote⟩ := answers.emits canonical []
    exact ⟨written, _, wrote, rfl⟩

/-- A bool, a counter and a string that is not terminated. -/
def unterminated : Bytes := [2, 0, 7, 0, 0, 0, 2, 0xC3, 0xA9]

theorem reencode_iff_unterminated :
    (∃ written s,
        writeAll [.bool true, .int .uint16 7, .string .utf8 [0xE9]] {} = (.ok written, s) ∧
          s.toBytes = unterminated) ↔
      Transition.Along Kind.step Kind.CanonicalAt { data := unterminated }
        [.bool, .int .uint16, .string .utf8] :=
  reencode_iff [.bool, .int .uint16, .string .utf8]
    (by
      intro kind member
      simp only [List.mem_cons, List.not_mem_nil, or_false] at member
      rcases member with rfl | rfl | rfl
      · trivial
      · trivial
      · exact Codec.utf8_strict)
    unterminated _ ⟨unterminated, 9⟩ rfl rfl

end OpenSomeIp
