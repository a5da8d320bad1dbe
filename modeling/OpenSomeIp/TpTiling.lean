import OpenSomeIp.TpScript

set_option autoImplicit false

namespace OpenSomeIp

namespace TpManager

variable {ω κ : Type} {mtu : Nat}

/-- The payloads that the pure-Python path hands over, one after another. -/
def slices (mtu : Nat) (message : Message) : List Bytes := (pieces mtu message).map Message.payload

theorem slices_of_le {message : Message} (small : message.payload.length ≤ mtu) :
    slices mtu message = [message.payload] := by
  rw [slices, pieces, if_pos small]
  rfl

theorem slices_of_lt {message : Message} (large : mtu < message.payload.length) :
    slices mtu message = Chunks.chunks mtu message.payload := by
  have unfit : ¬ message.payload.length ≤ mtu := by omega
  rw [slices, pieces, if_neg unfit, List.map_map]
  exact List.map_id _

theorem slices_length (positive : 1 ≤ mtu) (message : Message) :
    (slices mtu message).length = max 1 (message.payload.length ⌈/⌉ mtu) := by
  by_cases small : message.payload.length ≤ mtu
  · have single : message.payload.length ⌈/⌉ mtu ≤ 1 := by
      rw [ceilDiv_le_iff_le_mul positive, Nat.mul_one]
      exact small
    rw [slices_of_le small, List.length_singleton, Nat.max_eq_left single]
  · have several : 1 ≤ message.payload.length ⌈/⌉ mtu := by
      have nonzero : ¬ message.payload.length ⌈/⌉ mtu ≤ 0 := by
        rw [ceilDiv_le_iff_le_mul positive]
        omega
      omega
    rw [slices_of_lt (Nat.lt_of_not_le small), Chunks.length_chunks positive,
      Nat.max_eq_right several]

/-- A slice lies behind the full ones before it. -/
theorem slices_getElem (positive : 1 ≤ mtu) {message : Message} {k : Nat} {slice : Bytes}
    (there : (slices mtu message)[k]? = some slice) :
    slice = (message.payload.drop (mtu * k)).take mtu ∧
      (mtu * k < message.payload.length ∨ message.payload = []) := by
  by_cases small : message.payload.length ≤ mtu
  · rw [slices_of_le small, List.getElem?_singleton] at there
    split at there
    · rename_i first
      obtain rfl := Option.some.inj there
      rw [first, Nat.mul_zero, List.drop_zero, List.take_of_length_le small]
      by_cases empty : message.payload = []
      · exact ⟨rfl, .inr empty⟩
      · exact ⟨rfl, .inl (List.length_pos_of_ne_nil empty)⟩
    · cases there
  · rw [slices_of_lt (Nat.lt_of_not_le small)] at there
    obtain ⟨inside, same⟩ := Chunks.getElem?_chunks positive there
    exact ⟨same, .inl inside⟩

/-- Every slice but the last is full, and the last is empty only with the whole payload. -/
theorem slice_size (positive : 1 ≤ mtu) {message : Message} {k : Nat} {slice : Bytes}
    (there : (slices mtu message)[k]? = some slice) :
    slice.length ≤ mtu ∧ (k + 1 < (slices mtu message).length → slice.length = mtu) ∧
      (slice = [] → message.payload = []) := by
  obtain ⟨same, place⟩ := slices_getElem positive there
  have size : slice.length = min mtu (message.payload.length - mtu * k) := by
    rw [same, List.length_take, List.length_drop]
  refine ⟨by omega, ?_, ?_⟩
  · intro more
    have next : (slices mtu message)[k + 1]? = some (slices mtu message)[k + 1] :=
      List.getElem?_eq_getElem more
    obtain ⟨-, later⟩ := slices_getElem positive next
    rcases later with inside | empty
    · rw [Nat.mul_succ] at inside
      omega
    · have single : slices mtu message = [message.payload] := by
        apply slices_of_le
        rw [empty]
        exact Nat.zero_le mtu
      rw [single, List.length_singleton] at more
      omega
  · intro blank
    rcases place with inside | empty
    · rw [blank, List.length_nil] at size
      omega
    · exact empty

section Sending

variable {outcomes : Nat → Option Exn} {manager : TpManager ScriptedTransport ω κ}
variable {message : Message} {endpoint : Option Endpoint} {fuel : Nat}

theorem sendPython_accepted (transport : manager.transportSend = scripted outcomes)
    (positive : 1 ≤ mtu) (size : manager.mtu = mtu) (enough : message.payload.length < fuel)
    {w : TpWorld ScriptedTransport ω}
    (accepted : ∀ i, i < (slices mtu message).length → outcomes (w.transport.call + i) = none) :
    (manager.sendPython fuel message endpoint w).1 = .ok (some ()) ∧
      (manager.sendPython fuel message endpoint w).2.transport.accepted.map Message.payload =
        w.transport.accepted.map Message.payload ++ slices mtu message := by
  have attempts : Attempts outcomes w (slices mtu message) none
      (manager.sendAll endpoint (pieces mtu message) w) :=
    sendAll_attempts transport (pieces mtu message) w
  obtain ⟨silent, all⟩ := Script.taken_of_accepted accepted
  have returned := attempts.result
  have taken := attempts.accepted
  rw [silent, Option.none_or] at returned
  rw [all] at taken
  rw [sendPython_eq_sendAll positive size message endpoint enough]
  refine ⟨?_, taken⟩
  cases ran : (manager.sendAll endpoint (pieces mtu message) w).1 with
  | ok done => rfl
  | error exc =>
      rw [ran] at returned
      cases returned

theorem sendPython_refused (transport : manager.transportSend = scripted outcomes)
    (positive : 1 ≤ mtu) (size : manager.mtu = mtu) (enough : message.payload.length < fuel)
    {w : TpWorld ScriptedTransport ω} {k : Nat} {exc : Exn}
    (bound : k < (slices mtu message).length)
    (before : ∀ i, i < k → outcomes (w.transport.call + i) = none)
    (refused : outcomes (w.transport.call + k) = some exc) :
    (manager.sendPython fuel message endpoint w).1 = .error exc ∧
      (manager.sendPython fuel message endpoint w).2.transport.accepted.map Message.payload =
        w.transport.accepted.map Message.payload ++ (slices mtu message).take k := by
  have attempts : Attempts outcomes w (slices mtu message) none
      (manager.sendAll endpoint (pieces mtu message) w) :=
    sendAll_attempts transport (pieces mtu message) w
  obtain ⟨refusal, front, -⟩ := Script.refusal_of_first bound before refused
  have raised := attempts.result
  have taken := attempts.accepted
  rw [refusal, Option.some_or] at raised
  rw [front] at taken
  rw [sendPython_eq_sendAll positive size message endpoint enough]
  refine ⟨?_, taken⟩
  cases ran : (manager.sendAll endpoint (pieces mtu message) w).1 with
  | ok done =>
      rw [ran] at raised
      cases raised
  | error reason =>
      rw [ran] at raised
      obtain rfl := Option.some.inj raised
      rfl

end Sending

/-- The pure-Python path hands the payload over in consecutive slices: all of them to a transport
that accepts them, and those before the first refusal to one that does not. A manager without its
native part takes no other path. -/
theorem sendPython_tiles (mtu : Nat) (positive : 1 ≤ mtu) (message : Message) (fuel : Nat)
    (enough : message.payload.length < fuel) :
    ∃ slices : List Bytes,
      slices.flatten = message.payload ∧
      slices.length = max 1 (message.payload.length ⌈/⌉ mtu) ∧
      (∀ k slice, slices[k]? = some slice →
        slice = (message.payload.drop (mtu * k)).take mtu ∧ slice.length ≤ mtu ∧
          (k + 1 < slices.length → slice.length = mtu) ∧ (slice = [] → message.payload = [])) ∧
      ∀ (outcomes : Nat → Option Exn) (cpp : Option (NativeTp ω κ)) (endpoint : Option Endpoint)
        (w : TpWorld ScriptedTransport ω),
        let manager : TpManager ScriptedTransport ω κ :=
          { mtu := mtu, transportSend := scripted outcomes, cpp := cpp }
        (cpp = none →
          manager.send fuel message endpoint w = manager.sendPython fuel message endpoint w) ∧
        ((∀ i, i < slices.length → outcomes (w.transport.call + i) = none) →
          (manager.sendPython fuel message endpoint w).1 = .ok (some ()) ∧
            (manager.sendPython fuel message endpoint w).2.transport.accepted.map
                Message.payload = w.transport.accepted.map Message.payload ++ slices) ∧
        (∀ k exc, k < slices.length → (∀ i, i < k → outcomes (w.transport.call + i) = none) →
          outcomes (w.transport.call + k) = some exc →
          (manager.sendPython fuel message endpoint w).1 = .error exc ∧
            (manager.sendPython fuel message endpoint w).2.transport.accepted.map
                Message.payload =
              w.transport.accepted.map Message.payload ++ slices.take k) := by
  refine ⟨slices mtu message, flatten_pieces positive message, slices_length positive message,
    ?_, ?_⟩
  · intro k slice there
    exact ⟨(slices_getElem positive there).1, slice_size positive there⟩
  · intro outcomes cpp endpoint w manager
    refine ⟨?_, ?_, ?_⟩
    · intro absent
      simp only [send, manager, absent]
    · exact sendPython_accepted rfl positive rfl enough
    · intro k exc bound before refused
      exact sendPython_refused rfl positive rfl enough bound before refused

/-- Three bytes in segments of two; the second is refused. -/
theorem sendPython_tiles_three :
    let outcomes : Nat → Option Exn := fun call => if call = 1 then some .queueFull else none
    let manager : TpManager ScriptedTransport Unit Unit :=
      { mtu := (2 : Nat), transportSend := scripted outcomes }
    ∃ slices : List Bytes, slices.length = 2 ∧
      (manager.sendPython 4 { payload := [1, 2, 3] } none
        { transport := {}, native := () }).1 = .error .queueFull ∧
      (manager.sendPython 4 { payload := [1, 2, 3] } none
        { transport := {}, native := () }).2.transport.accepted.map Message.payload =
          slices.take 1 := by
  intro outcomes manager
  obtain ⟨slices, -, size, -, sends⟩ := @sendPython_tiles Unit Unit 2 (by decide)
    { payload := [1, 2, 3] } 4 (by decide)
  have two : slices.length = 2 := size
  have first : ∀ i, i < 1 → outcomes (0 + i) = none := by
    intro i smaller
    obtain rfl : i = 0 := Nat.lt_one_iff.mp smaller
    rfl
  obtain ⟨-, -, refused⟩ := sends outcomes none none { transport := {}, native := () }
  obtain ⟨raised, accepted⟩ := refused 1 .queueFull (by omega) first rfl
  exact ⟨slices, two, raised, accepted⟩

end TpManager

end OpenSomeIp
