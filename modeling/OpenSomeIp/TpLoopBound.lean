import Mathlib.Algebra.Order.Floor.Div
import OpenSomeIp.TpNative

set_option autoImplicit false

namespace OpenSomeIp

namespace NativeTp

variable {ω κ : Type}

/-- From a state on, `get_next_segment` returns segments one by one with SUCCESS and then
another result. -/
inductive HandsOut (native : NativeTp ω κ) (transferId : Nat) : List Bytes → ω → Prop where
  | done {s t : ω} {result : TpResult} {payload : Bytes} (refused : result ≠ .success)
      (call : native.getNextSegment transferId s = (.ok (result, payload), t)) :
      HandsOut native transferId [] s
  | next {s t : ω} {payload : Bytes} {rest : List Bytes}
      (call : native.getNextSegment transferId s = (.ok (.success, payload), t))
      (later : HandsOut native transferId rest t) :
      HandsOut native transferId (payload :: rest) s

/-- The native layer wants a message segmented, cuts it at the largest multiple of 16 within the
configured size, and hands the segments out. -/
structure Cuts (native : NativeTp ω κ) (mtu : Nat) (message : Message) (s : ω)
    (segments : List Bytes) : Prop where
  count : segments.length = message.payload.length ⌈/⌉ (mtu / 16 * 16)
  handsOut : ∃ cppMsg t u result transferId v,
    native.toCppMessage message s = (.ok cppMsg, t) ∧
    native.needsSegmentation cppMsg t = (.ok true, u) ∧
    native.segmentMessage cppMsg u = (.ok (result, transferId), v) ∧
    native.HandsOut transferId segments v

variable {native : NativeTp ω κ}

/-- A loop over the segments sees as many of them as it has turns. -/
theorem pull_of_handsOut {transferId : Nat} {segments : List Bytes} {s : ω}
    (handsOut : native.HandsOut transferId segments s) (count : Nat) :
    (native.pull transferId count s).1.1 = segments.take count ∧
      ∀ exc, (native.pull transferId count s).1.2 ≠ .raised exc := by
  induction handsOut generalizing count with
  | done refused call =>
      cases count with
      | zero => exact ⟨rfl, nofun⟩
      | succ count =>
          rw [pull_of_refused call refused]
          exact ⟨rfl, nofun⟩
  | next call later ih =>
      cases count with
      | zero => exact ⟨rfl, nofun⟩
      | succ count =>
          obtain ⟨rest, calm⟩ := ih count
          rw [pull_of_success call]
          refine ⟨?_, calm⟩
          simp only [rest, List.take_succ_cons]

end NativeTp

/-- Cutting at the multiple of 16 below `mtu` takes at most two segments more than a division by
`mtu` tells, exactly as long as what the cuts fall short of `mtu`, and the remainder, fit into
these two. -/
theorem ceilDiv_le_bound_iff {mtu : Nat} (wide : 16 ≤ mtu) (size : Nat) :
    size ⌈/⌉ (mtu / 16 * 16) ≤ size / mtu + 2 ↔
      size / mtu * (mtu % 16) + size % mtu ≤ 2 * (mtu - mtu % 16) := by
  have positive : 0 < mtu / 16 * 16 := by omega
  have aligned : mtu / 16 * 16 = mtu - mtu % 16 := by omega
  have whole : mtu * (size / mtu) + size % mtu = size := Nat.div_add_mod size mtu
  have parts : mtu * (size / mtu) =
      (mtu - mtu % 16) * (size / mtu) + size / mtu * (mtu % 16) := by
    have split : mtu = (mtu - mtu % 16) + mtu % 16 := by omega
    calc mtu * (size / mtu) = ((mtu - mtu % 16) + mtu % 16) * (size / mtu) := by rw [← split]
      _ = (mtu - mtu % 16) * (size / mtu) + size / mtu * (mtu % 16) := by
          rw [Nat.add_mul, Nat.mul_comm (mtu % 16)]
  have covered : (mtu - mtu % 16) * (size / mtu + 2) =
      (mtu - mtu % 16) * (size / mtu) + 2 * (mtu - mtu % 16) := by
    rw [Nat.mul_add, Nat.mul_comm _ 2]
  rw [ceilDiv_le_iff_le_mul positive, aligned, covered]
  omega

namespace TpManager

variable {ω κ : Type} {native : NativeTp ω κ}

/-- The native branch hands over as many segments as its loop has turns, and returns. -/
theorem send_of_cuts (zero_iff : ∀ result, native.int result = 0 ↔ result = .success) {mtu : Nat}
    (wide : 16 ≤ mtu) {message : Message} {endpoint : Option Endpoint}
    {w : TpWorld (List (Message × Option Endpoint)) ω} {segments : List Bytes}
    (cuts : native.Cuts mtu message w.native segments) {fuel : Nat}
    (enough : message.payload.length < fuel) :
    ∃ t, (nativeManager mtu native).send fuel message endpoint w =
      (.ok (some ()), handed endpoint
        ((segments.take (message.payload.length / mtu + 2)).map (segment message))
        { w with native := t }) := by
  obtain ⟨cppMsg, t, u, result, transferId, v, converted, asked, segmented, handsOut⟩ :=
    cuts.handsOut
  obtain ⟨pulled, calm⟩ :=
    NativeTp.pull_of_handsOut handsOut (message.payload.length / mtu + 2)
  have regular := native.pull_ne_whole transferId (message.payload.length / mtu + 2) v
  have tried : native.attempt message (message.payload.length / mtu + 2) w.native =
      ({ result := some result
         segments := segments.take (message.payload.length / mtu + 2)
         ending := (native.pull transferId (message.payload.length / mtu + 2) v).1.2 },
        (native.pull transferId (message.payload.length / mtu + 2) v).2) := by
    simp only [NativeTp.attempt, converted, asked, segmented, pulled]
  have outcome : ({ result := some result
                    segments := segments.take (message.payload.length / mtu + 2)
                    ending := (native.pull transferId (message.payload.length / mtu + 2) v).1.2 } :
        NativeAttempt).outcome = .ok () := by
    unfold NativeAttempt.outcome
    split
    · rename_i exc raised
      exact absurd raised (calm exc)
    · rfl
  have sent : (nativeManager mtu native).send fuel message endpoint w = _ :=
    send_accept rfl rfl zero_iff (by omega) rfl enough tried
  rw [outcome] at sent
  refine ⟨(native.pull transferId (message.payload.length / mtu + 2) v).2, sent.trans ?_⟩
  rw [NativeAttempt.messages_of_ne_whole regular]

/-- All segments of a message are sent exactly if those that a cut at a multiple of 16 adds fit
into the two turns that the loop has to spare; in either case `send` returns. -/
theorem send_all_segments_iff (native : NativeTp ω κ)
    (zero_iff : ∀ result, native.int result = 0 ↔ result = .success) (mtu : Nat)
    (wide : 16 ≤ mtu) (message : Message) (endpoint : Option Endpoint)
    (w : TpWorld (List (Message × Option Endpoint)) ω) (segments : List Bytes)
    (cuts : native.Cuts mtu message w.native segments) (fuel : Nat)
    (enough : message.payload.length < fuel) :
    ((nativeManager mtu native).send fuel message endpoint w).1 = .ok (some ()) ∧
      (((nativeManager mtu native).send fuel message endpoint w).2.transport =
          w.transport ++ (segments.map (segment message)).map (fun m => (m, endpoint)) ↔
        message.payload.length / mtu * (mtu % 16) + message.payload.length % mtu ≤
          2 * (mtu - mtu % 16)) := by
  obtain ⟨t, sent⟩ := @send_of_cuts _ _ native zero_iff mtu wide message endpoint w segments cuts
    fuel enough
  rw [sent]
  refine ⟨rfl, ?_⟩
  rw [← ceilDiv_le_bound_iff wide, ← cuts.count]
  constructor
  · intro same
    have sizes := congrArg List.length (List.append_cancel_left same)
    rw [List.length_map, List.length_map, List.length_map, List.length_map, List.length_take]
      at sizes
    omega
  · intro within
    rw [List.take_of_length_le within]
    rfl

/-- A native layer that cuts at a multiple of 16; its state is what is left of the segments. -/
def alignedTp (mtu : Nat) : NativeTp (List Bytes) Message where
  int := fun result => if result = .success then 0 else 5
  toCppMessage := fun message => pure message
  needsSegmentation := fun message => pure (decide (mtu < message.payload.length))
  segmentMessage := fun message => do
    let size := mtu / 16 * 16
    Method.modify fun _ => (List.range ((message.payload.length + size - 1) / size)).map fun k =>
      (message.payload.drop (size * k)).take size
    pure (.success, 1)
  getNextSegment := fun _ => do
    match ← Method.get with
    | [] => pure (.sequenceError, [])
    | payload :: rest => do
        Method.modify fun _ => rest
        pure (.success, payload)

theorem alignedTp_handsOut (mtu transferId : Nat) (segments : List Bytes) :
    (alignedTp mtu).HandsOut transferId segments segments := by
  induction segments with
  | nil =>
      have failed : TpResult.sequenceError ≠ .success := by decide
      have ended : (alignedTp mtu).getNextSegment transferId [] =
          (.ok (.sequenceError, []), []) := rfl
      exact .done failed ended
  | cons payload rest ih =>
      have returned : (alignedTp mtu).getNextSegment transferId (payload :: rest) =
          (.ok (.success, payload), rest) := rfl
      exact .next returned ih

theorem alignedTp_cuts {mtu : Nat} {message : Message} (large : mtu < message.payload.length)
    (s : List Bytes) :
    (alignedTp mtu).Cuts mtu message s
      ((List.range ((message.payload.length + mtu / 16 * 16 - 1) / (mtu / 16 * 16))).map fun k =>
        (message.payload.drop (mtu / 16 * 16 * k)).take (mtu / 16 * 16)) where
  count := by
    rw [List.length_map, List.length_range]
    rfl
  handsOut := by
    have asked : (alignedTp mtu).needsSegmentation message s = (.ok true, s) := by
      have needed : (alignedTp mtu).needsSegmentation message s =
          (.ok (decide (mtu < message.payload.length)), s) := rfl
      rw [needed, decide_eq_true large]
    exact ⟨message, s, s, .success, 1, _, rfl, asked, rfl, alignedTp_handsOut mtu 1 _⟩

/-- 48 bytes at 31 a turn: three segments of 16 bytes, three turns. -/
theorem send_all_segments_iff_three :
    ((nativeManager (31 : Nat) (alignedTp 31)).send 49 { payload := List.replicate 48 7 } none
        { transport := [], native := [] }).2.transport.map (fun sent => sent.1.payload) =
      [List.replicate 16 7, List.replicate 16 7, List.replicate 16 7] := by
  have sent := (send_all_segments_iff (alignedTp 31) (by intro result; cases result <;> decide) 31
    (by decide) { payload := List.replicate 48 7 } none { transport := [], native := [] } _
    (alignedTp_cuts (by decide) []) 49 (by decide)).2.mpr (by decide)
  rw [sent]
  decide

/-- 93 bytes make six segments, and the loop has five turns: the last 13 bytes are not sent. -/
theorem last_segment_unsent :
    ∃ segments, (alignedTp 31).Cuts 31 { payload := List.replicate 93 7 } [] segments ∧
      segments.length = 6 ∧
      ((nativeManager (31 : Nat) (alignedTp 31)).send 94 { payload := List.replicate 93 7 } none
          { transport := [], native := [] }).1 = .ok (some ()) ∧
      ((nativeManager (31 : Nat) (alignedTp 31)).send 94 { payload := List.replicate 93 7 } none
          { transport := [], native := [] }).2.transport.map (fun sent => sent.1.payload) =
        segments.take 5 := by
  refine ⟨_, alignedTp_cuts (by decide) [], ?_, ?_, ?_⟩
  · decide
  · rfl
  · decide

end TpManager

end OpenSomeIp
