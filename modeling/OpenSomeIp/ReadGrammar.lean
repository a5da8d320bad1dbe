import OpenSomeIp.Lib.Counting
import OpenSomeIp.SerializationRoundTrip

set_option autoImplicit false

namespace OpenSomeIp

namespace Deserializer

/-- A cursor inside the buffer stands between two parts of it. -/
theorem exists_place {d : Deserializer} (start : 0 ≤ d.pos) (stop : d.pos ≤ d.data.length) :
    ∃ front back, d = place front back := by
  obtain ⟨data, pos⟩ := d
  refine ⟨data.take pos.toNat, data.drop pos.toNat, ?_⟩
  have size : ((data.take pos.toNat).length : Int) = pos := by
    simp only at start stop
    rw [List.length_take]
    omega
  rw [place, List.take_append_drop, size]

/-- The cursor has moved over `w`. -/
theorem place_advance (front w rest : Bytes) :
    place (front ++ w) rest =
      { place front (w ++ rest) with pos := (front.length + w.length : Nat) } := by
  simp only [place, List.append_assoc, List.length_append]

/-! ### Reads at a cursor inside the buffer -/

theorem read_of_le {front back : Bytes} {n : Nat} (enough : n ≤ back.length) :
    read n (place front back) = (.ok (back.take n), place (front ++ back.take n) (back.drop n)) := by
  have consumed := read_consumes (back.take n) front (back.drop n)
  rw [List.take_append_drop, List.length_take, Nat.min_eq_left enough] at consumed
  exact consumed

/-- A read beyond the end moves nothing. -/
theorem read_of_lt (front : Bytes) {back : Bytes} {n : Nat} (short : back.length < n) :
    ∃ text, read n (place front back) = (.error (.valueError text), place front back) := by
  have beyond : (place front back).pos + n > (place front back).data.length := by
    simp only [place, List.length_append]
    omega
  simp only [read, Method.bind_apply, Method.get_apply, beyond, ↓reduceIte, Method.raise_apply]
  exact ⟨_, rfl⟩

theorem readUint8_nil (front : Bytes) :
    ∃ text, readUint8 (place front []) = (.error (.valueError text), place front []) := by
  have short : ([] : Bytes).length < 1 := Nat.zero_lt_one
  obtain ⟨text, raised⟩ := read_of_lt front short
  exact ⟨text, Method.bind_of_error raised _⟩

theorem readUint8_cons (front : Bytes) (byte : UInt8) (back : Bytes) :
    readUint8 (place front (byte :: back)) = (.ok byte, place (front ++ [byte]) back) :=
  readUint8_consumes byte front back

theorem times_readUint8_of_le {front back : Bytes} {n : Nat} (enough : n ≤ back.length) :
    Method.times n readUint8 (place front back) =
      (.ok (back.take n), place (front ++ back.take n) (back.drop n)) := by
  have consumed := content_consumes (back.take n) front (back.drop n)
  rw [List.take_append_drop, Int.toNat_natCast, List.length_take, Nat.min_eq_left enough]
    at consumed
  exact consumed

/-- The element loop takes what is there and then fails. -/
theorem times_readUint8_of_lt (front : Bytes) {back : Bytes} {n : Nat} (short : back.length < n) :
    ∃ text, Method.times n readUint8 (place front back) =
      (.error (.valueError text), place (front ++ back) []) := by
  cases n with
  | zero => exact absurd short (Nat.not_lt_zero _)
  | succ n =>
      induction back generalizing front n with
      | nil =>
          obtain ⟨text, raised⟩ := readUint8_nil front
          refine ⟨text, ?_⟩
          rw [List.append_nil, Method.times, Method.bind_of_error raised]
      | cons byte back ih =>
          cases n with
          | zero => simp only [List.length_cons, Nat.reduceAdd] at short; omega
          | succ n =>
              have fewer : back.length < n + 1 := by
                rw [List.length_cons] at short
                omega
              obtain ⟨text, raised⟩ := ih (front ++ [byte]) n fewer
              refine ⟨text, ?_⟩
              rw [Method.times, Method.bind_of_ok (readUint8_cons front byte back),
                Method.bind_of_error raised, List.append_assoc, List.singleton_append]

/-- Whatever the count, the loop attempts no more reads than there are bytes, and one. -/
theorem times_counted_le (n : Nat) (front back : Bytes) (count : Nat) :
    (Method.times n (Method.counted readUint8) (place front back, count)).2.2 ≤
      count + back.length + 1 := by
  induction n generalizing front back count with
  | zero =>
      rw [Method.times, Method.pure_apply]
      dsimp only
      omega
  | succ n ih =>
      cases back with
      | nil =>
          obtain ⟨text, raised⟩ := readUint8_nil front
          have attempt : Method.counted readUint8 (place front [], count) =
              (.error (.valueError text), (place front [], count + 1)) := by
            rw [Method.counted_apply, raised]
          rw [Method.times, Method.bind_of_error attempt]
          exact Nat.le_refl (count + 1)
      | cons byte back =>
          have attempt : Method.counted readUint8 (place front (byte :: back), count) =
              (.ok byte, (place (front ++ [byte]) back, count + 1)) := by
            rw [Method.counted_apply, readUint8_cons]
          have later := ih (front ++ [byte]) back (count + 1)
          rw [Method.times, Method.bind_of_ok attempt, Method.bind_apply, List.length_cons]
          split
          · rename_i rest t same
            rw [same] at later
            rw [Method.pure_apply]
            dsimp only at later ⊢
            omega
          · rename_i reason t same
            rw [same] at later
            dsimp only at later ⊢
            omega

/-- An integer read takes its width off the buffer and unpacks it. -/
theorem readInt_of_le {kind : IntKind} (front : Bytes) {back : Bytes}
    (enough : kind.format.width ≤ back.length) :
    kind.read (place front back) =
      (kind.format.unpack (back.take kind.format.width),
        place (front ++ back.take kind.format.width) (back.drop kind.format.width)) := by
  cases kind with
  | uint8 =>
      cases back with
      | nil => exact absurd enough (Nat.not_succ_le_zero 0)
      | cons byte back =>
          have value : IntKind.uint8.format.unpack [byte] = .ok (byte.toNat : Int) := by
            rw [IntFormat.unpack_of_length rfl]
            simp [IntKind.format, BigEndian.decode]
          have ran : IntKind.uint8.read (place front (byte :: back)) =
              (.ok (byte.toNat : Int), place (front ++ [byte]) back) :=
            Method.bind_of_ok (readUint8_cons front byte back) _
          rw [ran, ← value]
          rfl
  | _ => exact Method.bind_of_ok (read_of_le enough) _

theorem readInt_of_lt {kind : IntKind} (front : Bytes) {back : Bytes}
    (short : back.length < kind.format.width) :
    ∃ text, kind.read (place front back) = (.error (.valueError text), place front back) := by
  obtain ⟨text, raised⟩ := read_of_lt front short
  refine ⟨text, ?_⟩
  cases kind with
  | uint8 =>
      have byte : readUint8 (place front back) = (.error (.valueError text), place front back) :=
        Method.bind_of_error raised _
      exact Method.bind_of_error byte _
  | _ => exact Method.bind_of_error raised _

/-! ### The length prefix -/

/-- The 32-bit number at the cursor. -/
def lengthPrefix (d : Deserializer) : Nat :=
  BigEndian.decode (pySlice d.data d.pos (d.pos + 4))

/-- The bytes that the prefix announces. -/
def content (d : Deserializer) : Bytes :=
  pySlice d.data (d.pos + 4) (d.pos + 4 + d.lengthPrefix)

/-- The prefix and what it announces lie inside the buffer. -/
def Framed (d : Deserializer) : Prop :=
  d.pos + 4 ≤ d.data.length ∧ d.pos + 4 + d.lengthPrefix ≤ d.data.length

/-- The deserializer with its cursor behind them. -/
def behind (d : Deserializer) : Deserializer := { d with pos := d.pos + 4 + d.lengthPrefix }

instance (d : Deserializer) : Decidable d.Framed := inferInstanceAs (Decidable (_ ∧ _))

section Place

variable {front back : Bytes}

theorem slice_place (front back : Bytes) (skip n : Nat) :
    pySlice (place front back).data ((place front back).pos + skip)
      ((place front back).pos + skip + n) = (back.drop skip).take n := by
  have start : (place front back).pos + skip = ((front.length + skip : Nat) : Int) := by
    rw [place, Int.natCast_add]
  have stop : (place front back).pos + skip + n = ((front.length + skip + n : Nat) : Int) := by
    rw [start, ← Int.natCast_add]
  rw [stop, start, pySlice_natCast, place, Nat.add_assoc, List.take_length_add_append,
    ← List.drop_drop, List.drop_left, List.drop_take, Nat.add_sub_cancel_left]

theorem lengthPrefix_place : (place front back).lengthPrefix = BigEndian.decode (back.take 4) := by
  have slice := slice_place front back 0 4
  rw [List.drop_zero] at slice
  simp only [Int.natCast_zero, Int.add_zero] at slice
  rw [lengthPrefix]
  exact congrArg BigEndian.decode slice

theorem content_place :
    (place front back).content = (back.drop 4).take (place front back).lengthPrefix :=
  slice_place front back 4 _

theorem framed_place_iff :
    (place front back).Framed ↔
      4 ≤ back.length ∧ (place front back).lengthPrefix ≤ (back.drop 4).length := by
  simp only [Framed, place, List.length_append, List.length_drop]
  omega

theorem behind_place (framed : (place front back).Framed) :
    (place front back).behind =
      place (front ++ (back.take 4 ++ (place front back).content))
        ((back.drop 4).drop (place front back).lengthPrefix) := by
  obtain ⟨four, announced⟩ := framed_place_iff.mp framed
  have joined : back.take 4 ++ (place front back).content ++
      (back.drop 4).drop (place front back).lengthPrefix = back := by
    rw [content_place, List.append_assoc, List.take_append_drop, List.take_append_drop]
  have size : (back.take 4 ++ (place front back).content).length =
      4 + (place front back).lengthPrefix := by
    rw [content_place, List.length_append, List.length_take, List.length_take,
      Nat.min_eq_left four, Nat.min_eq_left announced]
  have moved : (place front back).pos + 4 + ((place front back).lengthPrefix : Nat) =
      ((front.length + (4 + (place front back).lengthPrefix) : Nat) : Int) := by
    rw [← Nat.add_assoc, Int.natCast_add, Int.natCast_add]
    rfl
  rw [place_advance, joined, size, behind, moved]

theorem readUint32_of_le (four : 4 ≤ back.length) :
    readUint32 (place front back) =
      (.ok ((place front back).lengthPrefix : Int),
        place (front ++ back.take 4) (back.drop 4)) := by
  have size : (back.take 4).length = IntFormat.I.width := by
    rw [List.length_take, Nat.min_eq_left four]
    rfl
  have unpacked : IntFormat.I.unpack (back.take 4) = .ok (BigEndian.decode (back.take 4) : Int) := by
    rw [IntFormat.unpack, if_pos size]
    rfl
  have stood : read IntFormat.I.width (place front back) =
      (.ok (back.take 4), place (front ++ back.take 4) (back.drop 4)) := read_of_le four
  rw [readUint32, readPacked, Method.bind_of_ok stood, Method.lift_apply, unpacked,
    lengthPrefix_place]

theorem readUint32_of_lt (front : Bytes) (short : back.length < 4) :
    ∃ text, readUint32 (place front back) = (.error (.valueError text), place front back) := by
  obtain ⟨text, raised⟩ := read_of_lt front short
  exact ⟨text, Method.bind_of_error raised _⟩

theorem readBytes_of_framed (framed : (place front back).Framed) :
    readBytes (place front back) =
      (.ok (place front back).content, (place front back).behind) := by
  obtain ⟨four, announced⟩ := framed_place_iff.mp framed
  rw [readBytes, Method.bind_of_ok (readUint32_of_le four), Int.toNat_natCast,
    times_readUint8_of_le announced, behind_place framed, content_place, List.append_assoc]

/-- A buffer that ends too early uses up the prefix, if that is there, and all that follows. -/
theorem readBytes_of_not_framed (unframed : ¬ (place front back).Framed) :
    ∃ text w rest, back = w ++ rest ∧
      readBytes (place front back) = (.error (.valueError text), place (front ++ w) rest) ∧
      (w = [] ↔ ¬ 4 ≤ back.length) := by
  by_cases four : 4 ≤ back.length
  · have short : (back.drop 4).length < (place front back).lengthPrefix := by
      rw [framed_place_iff] at unframed
      omega
    obtain ⟨text, raised⟩ := times_readUint8_of_lt (front ++ back.take 4) short
    refine ⟨text, back, [], (List.append_nil back).symm, ?_, ?_⟩
    · rw [readBytes, Method.bind_of_ok (readUint32_of_le four), Int.toNat_natCast, raised,
        List.append_assoc, List.take_append_drop]
    · apply iff_of_false _ (not_not_intro four)
      intro empty
      rw [empty] at four
      exact absurd four (by decide)
  · obtain ⟨text, raised⟩ := readUint32_of_lt front (Nat.lt_of_not_le four)
    refine ⟨text, [], back, rfl, ?_, iff_of_true rfl four⟩
    rw [readBytes, Method.bind_of_error raised, List.append_nil]

end Place

/-! ### Strings -/

/-- A string is a blob whose content is decoded. -/
theorem readString_eq_bind (encoding : Codec) :
    readString encoding = readBytes >>= fun raw => Method.lift (encoding.decode (stripNul raw)) := by
  rw [readString, readBytes]
  exact (Method.bind_assoc _ _ _).symm

section Place

variable {front back : Bytes}

theorem readString_of_framed (encoding : Codec) (framed : (place front back).Framed) :
    readString encoding (place front back) =
      (encoding.decode (stripNul (place front back).content), (place front back).behind) := by
  rw [readString_eq_bind, Method.bind_of_ok (readBytes_of_framed framed), Method.lift_apply]

theorem readString_of_not_framed (encoding : Codec) (unframed : ¬ (place front back).Framed) :
    ∃ text w rest, back = w ++ rest ∧
      readString encoding (place front back) =
        (.error (.valueError text), place (front ++ w) rest) ∧
      (w = [] ↔ ¬ 4 ≤ back.length) := by
  obtain ⟨text, w, rest, parts, raised, moved⟩ := readBytes_of_not_framed unframed
  refine ⟨text, w, rest, parts, ?_, moved⟩
  rw [readString_eq_bind, Method.bind_of_error raised]

end Place

/-! ### Counting the single-byte reads -/

/-- `readBytes` with a counter that every single-byte read advances. -/
def readBytesCounted : Method Exn (Deserializer × Nat) Bytes := do
  let length ← Method.uncounted readUint32
  Method.times length.toNat (Method.counted readUint8)

/-- `readString` with the same counter. -/
def readStringCounted (encoding : Codec) : Method Exn (Deserializer × Nat) PyStr := do
  let length ← Method.uncounted readUint32
  let raw ← Method.times length.toNat (Method.counted readUint8)
  Method.lift (encoding.decode (stripNul raw))

theorem readBytesCounted_erases : Method.Erases readBytesCounted readBytes :=
  (Method.uncounted_erases readUint32).bind fun length =>
    (Method.counted_erases readUint8).times length.toNat

theorem readStringCounted_eq_bind (encoding : Codec) :
    readStringCounted encoding =
      readBytesCounted >>= fun raw => Method.lift (encoding.decode (stripNul raw)) := by
  rw [readStringCounted, readBytesCounted]
  exact (Method.bind_assoc _ _ _).symm

theorem readStringCounted_erases (encoding : Codec) :
    Method.Erases (readStringCounted encoding) (readString encoding) := by
  rw [readStringCounted_eq_bind, readString_eq_bind]
  exact readBytesCounted_erases.bind fun raw =>
    fun _ count => ⟨count, rfl⟩

/-- Decoding makes no further read. -/
theorem readStringCounted_count (encoding : Codec) (s : Deserializer × Nat) :
    (readStringCounted encoding s).2.2 = (readBytesCounted s).2.2 := by
  rw [readStringCounted_eq_bind, Method.bind_apply]
  split
  · rename_i raw t same
    rw [same, Method.lift_apply]
  · rename_i reason t same
    rw [same]

theorem readBytesCounted_le (front : Bytes) {back : Bytes} (four : 4 ≤ back.length) :
    (readBytesCounted (place front back, 0)).2.2 ≤ (back.drop 4).length + 1 := by
  have opened : Method.uncounted readUint32 (place front back, 0) =
      (.ok ((place front back).lengthPrefix : Int),
        (place (front ++ back.take 4) (back.drop 4), 0)) := by
    rw [Method.uncounted_apply, readUint32_of_le four]
  have bound := times_counted_le (place front back).lengthPrefix (front ++ back.take 4)
    (back.drop 4) 0
  rw [readBytesCounted, Method.bind_of_ok opened, Int.toNat_natCast]
  omega

/-! ### What the two readers accept -/

section Accepted

variable {d : Deserializer}

theorem readBytes_framed (start : 0 ≤ d.pos) (stop : d.pos ≤ d.data.length) (framed : d.Framed) :
    readBytes d = (.ok d.content, d.behind) := by
  obtain ⟨front, back, rfl⟩ := exists_place start stop
  exact readBytes_of_framed framed

theorem readBytes_unframed (start : 0 ≤ d.pos) (stop : d.pos ≤ d.data.length)
    (unframed : ¬ d.Framed) : ∃ text, (readBytes d).1 = .error (.valueError text) := by
  obtain ⟨front, back, rfl⟩ := exists_place start stop
  obtain ⟨text, _, _, _, raised, _⟩ := readBytes_of_not_framed unframed
  exact ⟨text, congrArg Prod.fst raised⟩

theorem readBytesCounted_bound (start : 0 ≤ d.pos) (stop : d.pos ≤ d.data.length)
    (room : d.pos + 4 ≤ d.data.length) :
    ((readBytesCounted (d, 0)).2.2 : Int) ≤ d.data.length - (d.pos + 4) + 1 := by
  obtain ⟨front, back, rfl⟩ := exists_place start stop
  have four : 4 ≤ back.length := by
    simp only [place, List.length_append] at room
    omega
  have bound := readBytesCounted_le front four
  rw [List.length_drop] at bound
  simp only [place, List.length_append] at bound ⊢
  omega

end Accepted

/-- From every cursor inside the buffer, a blob or a string is read exactly when its prefix and
what the prefix announces are there, and for a string when the codec takes the content; every
other case is a `ValueError` or the error of the codec, after a bounded number of reads. -/
theorem prefixed_reads_accept (encoding : Codec) (d : Deserializer) (start : 0 ≤ d.pos)
    (stop : d.pos ≤ d.data.length) :
    ((∃ value, (readBytes d).1 = .ok value) ↔ d.Framed) ∧
      (d.Framed → readBytes d = (.ok d.content, d.behind)) ∧
      (¬ d.Framed → ∃ text, (readBytes d).1 = .error (.valueError text)) ∧
      ((∃ text, (readString encoding d).1 = .ok text) ↔
        d.Framed ∧ ∃ text, encoding.decode (stripNul d.content) = .ok text) ∧
      (d.Framed → readString encoding d = (encoding.decode (stripNul d.content), d.behind)) ∧
      (¬ d.Framed → ∃ text, (readString encoding d).1 = .error (.valueError text)) ∧
      (∃ reads : Nat, readBytesCounted (d, 0) = ((readBytes d).1, ((readBytes d).2, reads)) ∧
        (d.pos + 4 ≤ d.data.length → (reads : Int) ≤ d.data.length - (d.pos + 4) + 1)) ∧
      (∃ reads : Nat, readStringCounted encoding (d, 0) =
          ((readString encoding d).1, ((readString encoding d).2, reads)) ∧
        (d.pos + 4 ≤ d.data.length → (reads : Int) ≤ d.data.length - (d.pos + 4) + 1)) := by
  have blob := readBytes_framed start stop
  have noBlob := readBytes_unframed start stop
  have string : d.Framed →
      readString encoding d = (encoding.decode (stripNul d.content), d.behind) := by
    intro framed
    rw [readString_eq_bind, Method.bind_of_ok (blob framed), Method.lift_apply]
  have noString : ¬ d.Framed → ∃ text, (readString encoding d).1 = .error (.valueError text) := by
    intro unframed
    obtain ⟨text, raised⟩ := noBlob unframed
    have broken : readBytes d = (.error (.valueError text), (readBytes d).2) := by
      rw [← raised]
    exact ⟨text, by rw [readString_eq_bind, Method.bind_of_error broken]⟩
  refine ⟨⟨?_, ?_⟩, blob, noBlob, ⟨?_, ?_⟩, string, noString, ?_, ?_⟩
  · rintro ⟨value, returned⟩
    by_cases framed : d.Framed
    · exact framed
    · obtain ⟨text, raised⟩ := noBlob framed
      rw [raised] at returned
      cases returned
  · intro framed
    exact ⟨d.content, by rw [blob framed]⟩
  · rintro ⟨value, returned⟩
    by_cases framed : d.Framed
    · rw [string framed] at returned
      exact ⟨framed, value, returned⟩
    · obtain ⟨text, raised⟩ := noString framed
      rw [raised] at returned
      cases returned
  · rintro ⟨framed, text, decoded⟩
    exact ⟨text, by rw [string framed, decoded]⟩
  · obtain ⟨reads, ran⟩ := readBytesCounted_erases d 0
    refine ⟨reads, ran, fun room => ?_⟩
    have bound := readBytesCounted_bound start stop room
    rw [ran] at bound
    exact bound
  · obtain ⟨reads, ran⟩ := readStringCounted_erases encoding d 0
    refine ⟨reads, ran, fun room => ?_⟩
    have bound := readBytesCounted_bound start stop room
    rw [← readStringCounted_count encoding, ran] at bound
    exact bound

/-- A blob announced by the largest prefix, one byte before the end of the buffer: two reads at
most. -/
theorem prefixed_reads_accept_oversized :
    ∃ reads : Nat, readBytesCounted (⟨[9, 255, 255, 255, 255, 1], 1⟩, 0) =
        ((readBytes ⟨[9, 255, 255, 255, 255, 1], 1⟩).1,
          ((readBytes ⟨[9, 255, 255, 255, 255, 1], 1⟩).2, reads)) ∧
      ((1 : Int) + 4 ≤ 6 → (reads : Int) ≤ 6 - (1 + 4) + 1) :=
  (prefixed_reads_accept .latin1 ⟨[9, 255, 255, 255, 255, 1], 1⟩ (by decide)
    (by decide)).2.2.2.2.2.2.1

end Deserializer

end OpenSomeIp
