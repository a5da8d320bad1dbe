import OpenSomeIp.CrcDetection
import OpenSomeIp.E2eStream

set_option autoImplicit false

namespace OpenSomeIp

open ErrorDetection

theorem crcs_differ {data other : Bytes} (burst : DifferWithin 2 data other)
    (different : data ≠ other) : crc16 data ≠ crc16 other :=
  crc16_detects_burst burst.length_eq different (burst.flatMap reversed_bitsOf_length)

namespace SimpleE2EProfile

/-- What `protect` makes of a payload: the four bytes of `"!HBB"` and the payload. -/
def stamped (data : Bytes) (counter : Nat) : Bytes :=
  BigEndian.encode 2 (crc16 data) ++ UInt8.ofNat counter :: 0 :: data

theorem protect_eq (data : Bytes) (counter : Nat) :
    protect data counter = .ok (stamped data counter) := by
  have crcFits : IntFormat.H.Holds (crc16 data) := by
    have bound := crc16_lt data
    simp only [IntFormat.Holds, IntFormat.H, Bool.false_eq_true, ↓reduceIte]
    omega
  have counterFits : B.Holds (counter &&& 0xFF : Nat) := by
    have bound : counter &&& 0xFF ≤ 0xFF := Nat.and_le_right
    simp only [IntFormat.Holds, B, Bool.false_eq_true, ↓reduceIte]
    omega
  have low : UInt8.ofNat (counter &&& 0xFF) = UInt8.ofNat counter := by
    rw [show (0xFF : Nat) = 2 ^ 8 - 1 from rfl, Nat.and_two_pow_sub_one_eq_mod]
    exact UInt8.ofNat_mod_size
  have crc : IntFormat.H.pack (crc16 data) = .ok (BigEndian.encode 2 (crc16 data)) := by
    simp only [IntFormat.pack, crcFits, ↓reduceIte]
    simp only [IntFormat.H, Bool.false_eq_true, ↓reduceIte, Int.toNat_natCast]
  have stamp : B.pack (counter &&& 0xFF : Nat) = .ok [UInt8.ofNat counter] := by
    simp only [IntFormat.pack, counterFits, ↓reduceIte]
    simp only [B, Bool.false_eq_true, ↓reduceIte, Int.toNat_natCast, BigEndian.encode, low,
      List.nil_append]
  have reserved : B.pack 0 = .ok [0] := rfl
  have joined : BigEndian.encode 2 (crc16 data) ++ [UInt8.ofNat counter] ++ [0] ++ data =
      stamped data counter := by
    rw [stamped, List.append_assoc, List.append_assoc]
    rfl
  simp only [protect, crc, stamp, reserved, ← joined]
  rfl

theorem stamped_length (data : Bytes) (counter : Nat) :
    (stamped data counter).length = data.length + 4 := by
  simp only [stamped, List.length_append, BigEndian.encode_length, List.length_cons]
  omega

/-- The verdict on a payload that has its four bytes. -/
theorem check_eq (high low stamp reserved : UInt8) (payload : Bytes) (counter : Nat) :
    check (high :: low :: stamp :: reserved :: payload) counter =
      .ok (if crc16 payload ≠ BigEndian.decode [high, low] then .error
        else if stamp ≠ UInt8.ofNat counter then .wrongSequence else .ok) := by
  have long : ¬ (high :: low :: stamp :: reserved :: payload).length < 4 := by
    simp only [List.length_cons]
    omega
  have crc : IntFormat.H.unpack [high, low] = .ok (BigEndian.decode [high, low] : Int) := rfl
  have stored : B.unpack [stamp] = .ok (stamp.toNat : Int) := by
    simp only [IntFormat.unpack, B, List.length_singleton, ↓reduceIte, Bool.false_eq_true]
    simp [BigEndian.decode]
  have zero : B.unpack [reserved] = .ok (BigEndian.decode [reserved] : Int) := rfl
  have counts : ((stamp.toNat : Int) ≠ (counter &&& 0xFF : Nat)) ↔ stamp ≠ UInt8.ofNat counter := by
    rw [show (0xFF : Nat) = 2 ^ 8 - 1 from rfl, Nat.and_two_pow_sub_one_eq_mod, Ne, Ne, not_iff_not,
      ← UInt8.toNat_inj, UInt8.toNat_ofNat']
    omega
  simp only [check, long, ↓reduceIte, List.take_succ_cons, List.take_zero, List.drop_succ_cons,
    List.drop_zero, crc, stored, zero, bind, Except.bind, counts, Nat.cast_inj, ne_eq]
  split_ifs <;> rfl

theorem exists_four {bytes : Bytes} (long : 4 ≤ bytes.length) :
    ∃ high low stamp reserved rest, bytes = high :: low :: stamp :: reserved :: rest := by
  match bytes, long with
  | high :: low :: stamp :: reserved :: rest, _ => exact ⟨high, low, stamp, reserved, rest, rfl⟩

/-- What the status of a payload is that a channel altered within two neighbouring bytes. -/
def verdict (wire received : Bytes) (counter : Nat) : E2ECheckStatus :=
  if received.take 2 ≠ wire.take 2 ∨ received.drop 4 ≠ wire.drop 4 then .error
  else if received[2]? ≠ some (UInt8.ofNat counter) then .wrongSequence
  else .ok

/-- The checksum bytes are two bytes away from the payload it is of, so an alteration that
reaches one of them leaves the other to tell. -/
theorem check_of_altered (data : Bytes) (sent checked : Nat) {received : Bytes}
    (altered : DifferWithin 2 (stamped data sent) received) :
    check received checked = .ok (verdict (stamped data sent) received checked) := by
  have size := altered.length_eq
  rw [stamped_length] at size
  have apart := altered.take_or_drop (show 2 + 2 ≤ 4 + 1 by decide)
  have inside := altered.drop 4
  have long : 4 ≤ received.length := by omega
  obtain ⟨high, low, stamp, reserved, payload, rfl⟩ := exists_four long
  have front : (stamped data sent).take 2 = BigEndian.encode 2 (crc16 data) := rfl
  have back : (stamped data sent).drop 4 = data := rfl
  rw [check_eq, verdict, front, back]
  rw [front, back] at apart
  rw [back] at inside
  simp only [List.take_succ_cons, List.take_zero, List.drop_succ_cons, List.drop_zero,
    List.getElem?_cons_succ, List.getElem?_cons_zero, ne_eq, Option.some.injEq] at apart inside ⊢
  have fits : crc16 data < 256 ^ 2 := crc16_lt data
  have crc : BigEndian.decode [high, low] = crc16 data ↔
      [high, low] = BigEndian.encode 2 (crc16 data) := by
    constructor
    · intro same
      rw [← same]
      exact (BigEndian.encode_decode [high, low]).symm
    · intro same
      rw [same, BigEndian.decode_encode_of_lt fits]
  have same : crc16 payload = BigEndian.decode [high, low] ↔
      [high, low] = BigEndian.encode 2 (crc16 data) ∧ payload = data := by
    constructor
    · intro accepted
      by_cases whole : payload = data
      · subst whole
        exact ⟨crc.mp accepted.symm, rfl⟩
      · have kept := apart.resolve_right fun agree => whole agree.symm
        rw [crc.mpr kept.symm] at accepted
        have detected := (crcs_differ inside fun agree => whole agree.symm)
        exact absurd accepted.symm detected
    · rintro ⟨kept, rfl⟩
      exact (crc.mpr kept).symm
  simp only [same, not_and_or]

/-- The check raises on nothing. -/
theorem check_returns (bytes : Bytes) (counter : Nat) :
    ∃ status, check bytes counter = .ok status := by
  by_cases long : 4 ≤ bytes.length
  · obtain ⟨high, low, stamp, reserved, rest, rfl⟩ := exists_four long
    exact ⟨_, check_eq high low stamp reserved rest counter⟩
  · refine ⟨.error, ?_⟩
    have short : bytes.length < 4 := by omega
    simp only [check, short, ↓reduceIte]
    rfl

end SimpleE2EProfile

/-- A turn of the receiver in the example's loop: it advances the counter by hand. -/
def E2EProtection.validate (protected_ : Bytes) : Method Exn E2EProtection E2ECheckStatus := do
  let status ← check protected_
  Method.modify fun receiver => { receiver with counter := (receiver.counter + 1) &&& 0xFF }
  pure status

namespace E2EProtection

open SimpleE2EProfile (stamped verdict)

theorem validate_after {config : E2EConfig} {profile : E2EProfile} {checked : Nat} {bytes : Bytes}
    {status : E2ECheckStatus} (checks : profile.check bytes (checked % 256) = .ok status) :
    validate bytes (after config profile checked) =
      (.ok status, after config profile (checked + 1)) := by
  have looked : check bytes (after config profile checked) =
      (.ok status, after config profile checked) := by
    rw [check_after, checks]
  rw [validate, Method.bind_of_ok looked]
  simp only [Method.bind_apply, Method.modify_apply, Method.pure_apply, after, advance_counter]

theorem each_protect (config : E2EConfig) (payloads : List Bytes) (sent : Nat) :
    Method.each protect payloads (after config simpleE2EProfile sent) =
      (.ok (payloads.mapIdx fun j data => stamped data ((sent + j) % 256)),
        after config simpleE2EProfile (sent + payloads.length)) := by
  induction payloads generalizing sent with
  | nil => rfl
  | cons data payloads ih =>
      have head : protect data (after config simpleE2EProfile sent) = _ :=
        protect_after (SimpleE2EProfile.protect_eq data (sent % 256))
      have tail := ih (sent + 1)
      rw [Method.each_cons_of_ok head tail, List.mapIdx_cons, List.length_cons]
      simp only [Nat.add_right_comm, Nat.add_assoc, Nat.add_zero]

theorem each_validate (config : E2EConfig) (received : List Bytes) (checked : Nat) :
    ∃ statuses receiver, Method.each validate received (after config simpleE2EProfile checked) =
        (.ok statuses, receiver) ∧ statuses.length = received.length ∧
      ∀ (k : Nat) bytes, received[k]? = some bytes → ∀ status,
        SimpleE2EProfile.check bytes ((checked + k) % 256) = .ok status →
          statuses[k]? = some status := by
  induction received generalizing checked with
  | nil => exact ⟨[], _, rfl, rfl, nofun⟩
  | cons bytes received ih =>
      obtain ⟨status, checks⟩ := SimpleE2EProfile.check_returns bytes (checked % 256)
      obtain ⟨statuses, receiver, ran, size, each⟩ := ih (checked + 1)
      have head : validate bytes (after config simpleE2EProfile checked) = _ :=
        validate_after checks
      refine ⟨status :: statuses, receiver, Method.each_cons_of_ok head ran, ?_, ?_⟩
      · rw [List.length_cons, size, List.length_cons]
      · intro k other found result returned
        cases k with
        | zero =>
            obtain rfl := Option.some.inj found
            exact congrArg some (Except.ok.inj (checks.symm.trans returned))
        | succ k =>
            refine each k other found result ?_
            rw [Nat.add_right_comm, Nat.add_assoc]
            exact returned

/-- What the example's receiver reports when the channel loses, repeats, reorders and alters what
the sender protected, each message within two neighbouring bytes: ERROR exactly when the checksum
bytes or the payload are no longer the sender's, else WRONG_SEQUENCE unless the counter byte, which
the checksum does not cover, is that of the arrival. A message that came through unaltered is
accepted exactly in its turn, modulo 256. -/
theorem altered_stream (sending receiving : E2EConfig) (payloads : List Bytes) :
    ∃ wires sender,
      Method.each protect payloads { config := sending, profile := some simpleE2EProfile } =
        (.ok wires, sender) ∧ wires.length = payloads.length ∧
      ∀ received : List Bytes, ∃ statuses receiver,
        Method.each validate received { config := receiving, profile := some simpleE2EProfile } =
          (.ok statuses, receiver) ∧ statuses.length = received.length ∧
        ∀ (j k : Nat) wire arrived, wires[j]? = some wire → received[k]? = some arrived →
          (DifferWithin 2 wire arrived → statuses[k]? = some (verdict wire arrived k)) ∧
          (arrived = wire → (statuses[k]? = some .ok ↔ j % 256 = k % 256)) := by
  refine ⟨_, _, each_protect sending payloads 0, List.length_mapIdx, ?_⟩
  intro received
  obtain ⟨statuses, receiver, ran, size, each⟩ := each_validate receiving received 0
  refine ⟨statuses, receiver, ran, size, ?_⟩
  intro j k wire arrived sent arrives
  rw [List.getElem?_mapIdx, Option.map_eq_some_iff] at sent
  obtain ⟨data, _, rfl⟩ := sent
  have status (altered : DifferWithin 2 (stamped data ((0 + j) % 256)) arrived) :
      statuses[k]? = some (verdict (stamped data ((0 + j) % 256)) arrived k) := by
    have checked := SimpleE2EProfile.check_of_altered data ((0 + j) % 256) ((0 + k) % 256) altered
    rw [each k arrived arrives _ checked, verdict, verdict, Nat.zero_add k,
      show UInt8.ofNat (k % 256) = UInt8.ofNat k from UInt8.ofNat_mod_size]
  refine ⟨status, ?_⟩
  rintro rfl
  rw [status (DifferWithin.refl _), verdict]
  have stamp : (stamped data ((0 + j) % 256))[2]? = some (UInt8.ofNat (j % 256)) := by
    rw [Nat.zero_add]
    rfl
  have turn : UInt8.ofNat (j % 256) = UInt8.ofNat k ↔ j % 256 = k % 256 := by
    rw [← UInt8.toNat_inj, UInt8.toNat_ofNat', UInt8.toNat_ofNat', Nat.mod_mod]
  simp only [ne_eq, not_true_eq_false, or_self, ↓reduceIte, stamp, Option.some.injEq, turn]
  split_ifs with same
  · exact iff_of_true rfl same
  · exact iff_of_false nofun same

end E2EProtection

end OpenSomeIp
