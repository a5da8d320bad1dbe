import OpenSomeIp.Lib.Script
import OpenSomeIp.Lib.Slices
import OpenSomeIp.TpNative

set_option autoImplicit false

namespace OpenSomeIp

/-- A transport with the number of the next call of its `send` and what it has accepted. -/
structure ScriptedTransport where
  call : Nat := 0
  accepted : List Message := []
  deriving DecidableEq, Repr

/-- A `Transport.send` of which the outcome of each call is given. -/
def scripted (outcomes : Nat → Option Exn) (message : Message) (_endpoint : Option Endpoint) :
    Method Exn ScriptedTransport Unit := do
  let self ← Method.get
  match outcomes self.call with
  | none =>
      Method.modify fun self => { call := self.call + 1, accepted := self.accepted ++ [message] }
  | some exc => do
      Method.modify fun self => { self with call := self.call + 1 }
      Method.raise exc

namespace TpManager

variable {ω κ : Type}

/-- The payloads that the native branch hands over one after another while none is refused.
At an `mtu` of zero it gets no further than the bound of its loop. -/
def nativePayloads (native : NativeTp ω κ) (mtu : Nat) (message : Message) (s : ω) : List Bytes :=
  let a := native.attemptFor mtu message s
  if a.ending = .whole then [message.payload]
  else if mtu = 0 then []
  else a.segments

/-- The exception among the endings of the native calls. -/
def endingError : NativeEnding → Option Exn
  | .raised exc => some exc
  | _ => none

/-- The exception that then ends it. -/
def nativeError (native : NativeTp ω κ) (mtu : Nat) (message : Message) (s : ω) : Option Exn :=
  let a := native.attemptFor mtu message s
  if mtu = 0 ∧ a.result.isSome then some .zeroDivisionError else endingError a.ending

/-- The payloads that the pure-Python path hands over while none is refused, in a number of
turns. -/
def pythonPayloads (mtu : Nat) (message : Message) (fuel : Nat) : List Bytes :=
  if message.payload.length ≤ mtu then [message.payload]
  else if mtu = 0 then List.replicate fuel []
  else Chunks.chunks mtu message.payload

/-- The places in the payload of what the transport accepts in one call of `send`. -/
def acceptedSlices (native : NativeTp ω κ) (mtu : Nat) (message : Message) (s : ω)
    (outcomes : Nat → Option Exn) (fuel : Nat) : List Slice :=
  let slices := Slice.tile 0 (nativePayloads native mtu message s)
  let front := Script.taken outcomes 0 slices
  match (Script.refusal outcomes 0 slices).or (nativeError native mtu message s) with
  | none => front
  | some exc =>
      if exc.isException then
        front ++ Script.taken outcomes (Script.next outcomes 0 slices)
          (Slice.tile 0 (pythonPayloads mtu message fuel))
      else front

section Attempts

variable {outcomes : Nat → Option Exn}

/-- The exception of a result. -/
def raisedBy {α : Type} : Except Exn α → Option Exn
  | .ok _ => none
  | .error exc => some exc

/-- From `w` on, payloads were handed to the transport one after another up to the first that
it refused; if it refused none, the code came to an ending of its own. -/
structure Attempts {α : Type} (outcomes : Nat → Option Exn) (w : TpWorld ScriptedTransport ω)
    (payloads : List Bytes) (ending : Option Exn)
    (ran : Except Exn α × TpWorld ScriptedTransport ω) : Prop where
  result : raisedBy ran.1 = (Script.refusal outcomes w.transport.call payloads).or ending
  call : ran.2.transport.call = Script.next outcomes w.transport.call payloads
  accepted : ran.2.transport.accepted.map Message.payload =
    w.transport.accepted.map Message.payload ++ Script.taken outcomes w.transport.call payloads

/-- Nothing is handed over where the transport is left alone. -/
theorem Attempts.nothing {α : Type} {w u : TpWorld ScriptedTransport ω}
    (same : u.transport = w.transport) (result : Except Exn α) :
    Attempts outcomes w [] (raisedBy result) (result, u) where
  result := rfl
  call := by rw [same, Script.next]
  accepted := by rw [same, Script.taken, List.append_nil]

/-- What is handed over depends on the transport alone. -/
theorem Attempts.of_transport {α : Type} {w u : TpWorld ScriptedTransport ω} {payloads : List Bytes}
    {ending : Option Exn} {ran : Except Exn α × TpWorld ScriptedTransport ω}
    (attempts : Attempts outcomes u payloads ending ran) (same : u.transport = w.transport) :
    Attempts outcomes w payloads ending ran := by
  constructor
  · rw [← same]
    exact attempts.result
  · rw [← same]
    exact attempts.call
  · rw [← same]
    exact attempts.accepted

variable {manager : TpManager ScriptedTransport ω κ} {endpoint : Option Endpoint}

theorem handOver_of_accepted (transport : manager.transportSend = scripted outcomes)
    {w : TpWorld ScriptedTransport ω} (accepted : outcomes w.transport.call = none)
    (message : Message) :
    manager.handOver endpoint message w =
      (.ok (), { w with transport :=
        { call := w.transport.call + 1, accepted := w.transport.accepted ++ [message] } }) := by
  simp only [handOver, onTransport, Method.zoom_apply, transport, scripted, Method.bind_apply,
    Method.get_apply, accepted, Method.modify_apply]

theorem handOver_of_refusal (transport : manager.transportSend = scripted outcomes)
    {w : TpWorld ScriptedTransport ω} {exc : Exn} (refused : outcomes w.transport.call = some exc)
    (message : Message) :
    manager.handOver endpoint message w =
      (.error exc, { w with transport := { w.transport with call := w.transport.call + 1 } }) := by
  simp only [handOver, onTransport, Method.zoom_apply, transport, scripted, Method.bind_apply,
    Method.get_apply, refused, Method.modify_apply, Method.raise_apply]

/-- A message and what is handed over behind it. -/
theorem Attempts.cons {α : Type} (transport : manager.transportSend = scripted outcomes)
    {message : Message} {next : Unit → Method Exn (TpWorld ScriptedTransport ω) α}
    {w : TpWorld ScriptedTransport ω} {payloads : List Bytes} {ending : Option Exn}
    (rest : ∀ u : TpWorld ScriptedTransport ω, u.native = w.native →
      Attempts outcomes u payloads ending (next () u)) :
    Attempts outcomes w (message.payload :: payloads) ending
      ((manager.handOver endpoint message >>= next) w) := by
  cases outcome : outcomes w.transport.call with
  | none =>
      have later := rest { w with transport :=
        { call := w.transport.call + 1, accepted := w.transport.accepted ++ [message] } } rfl
      rw [Method.bind_of_ok (handOver_of_accepted transport outcome message)]
      constructor
      · rw [later.result]
        simp only [Script.refusal, outcome]
      · rw [later.call]
        simp only [Script.next, outcome]
      · rw [later.accepted, Script.taken_cons_of_none outcome, List.map_append, List.map_cons,
          List.map_nil, List.append_assoc]
        rfl
  | some exc =>
      rw [Method.bind_of_error (handOver_of_refusal transport outcome message)]
      constructor
      · simp only [Script.refusal, outcome]
        rfl
      · simp only [Script.next, outcome]
      · rw [Script.taken_of_some outcome, List.append_nil]

theorem Attempts.handOver (transport : manager.transportSend = scripted outcomes) (message : Message)
    (w : TpWorld ScriptedTransport ω) :
    Attempts outcomes w [message.payload] none (manager.handOver endpoint message w) := by
  cases outcome : outcomes w.transport.call with
  | none =>
      rw [handOver_of_accepted transport outcome message]
      constructor
      · simp only [Script.refusal, outcome]
        rfl
      · simp only [Script.next, outcome]
      · rw [Script.taken_cons_of_none outcome, Script.taken, List.map_append, List.map_cons,
          List.map_nil]
  | some exc =>
      rw [handOver_of_refusal transport outcome message]
      constructor
      · simp only [Script.refusal, outcome]
        rfl
      · simp only [Script.next, outcome]
      · rw [Script.taken_of_some outcome, List.append_nil]

theorem sendAll_attempts (transport : manager.transportSend = scripted outcomes)
    (messages : List Message) (w : TpWorld ScriptedTransport ω) :
    Attempts outcomes w (messages.map Message.payload) none
      (manager.sendAll endpoint messages w) := by
  induction messages generalizing w with
  | nil => exact Attempts.nothing rfl (.ok [])
  | cons message messages ih =>
      apply Attempts.cons transport
      intro u _
      have later := ih u
      rw [Method.bind_apply]
      split
      · rename_i rest t ran
        rw [sendAll, ran] at later
        exact ⟨later.result, later.call, later.accepted⟩
      · rename_i exc t ran
        rw [sendAll, ran] at later
        exact ⟨later.result, later.call, later.accepted⟩

section Native

variable {native : NativeTp ω κ} {message : Message}

theorem sendSegments_attempts (transport : manager.transportSend = scripted outcomes)
    (zero_iff : ∀ result, native.int result = 0 ↔ result = .success) (transferId : Nat)
    (count : Nat) (w : TpWorld ScriptedTransport ω) :
    Attempts outcomes w (native.pull transferId count w.native).1.1
      (endingError (native.pull transferId count w.native).1.2)
      (manager.sendSegments native message endpoint transferId count w) := by
  induction count generalizing w with
  | zero => exact Attempts.nothing rfl (.ok ())
  | succ count ih =>
      obtain ⟨t, how⟩ := sendSegments_cases manager zero_iff message endpoint transferId count w
      rcases how with ⟨exc, pulled, ran⟩ | ⟨result, pulled, ran⟩ | ⟨payload, pulled, ran⟩
      · rw [ran, pulled]
        exact Attempts.nothing (by rfl) (.error exc : Except Exn Unit)
      · rw [ran, pulled]
        exact Attempts.nothing (by rfl) (.ok () : Except Exn Unit)
      · rw [ran, pulled]
        have turn : Attempts outcomes { w with native := t }
            ((segment message payload).payload :: (native.pull transferId count t).1.1)
            (endingError (native.pull transferId count t).1.2)
            ((manager.handOver endpoint (segment message payload) >>= fun _ =>
              manager.sendSegments native message endpoint transferId count)
                { w with native := t }) := by
          apply Attempts.cons transport
          intro u same
          have later := ih u
          rw [same] at later
          exact later
        exact turn.of_transport rfl

/-- The loop with its bound, which divides by `mtu`. -/
theorem boundedSegments_attempts (transport : manager.transportSend = scripted outcomes)
    (zero_iff : ∀ result, native.int result = 0 ↔ result = .success) {mtu : Nat}
    (size : manager.mtu = mtu) (transferId : Nat) (w : TpWorld ScriptedTransport ω) :
    Attempts outcomes w
      (if mtu = 0 then []
        else (native.pull transferId (message.payload.length / mtu + 2) w.native).1.1)
      (if mtu = 0 then some .zeroDivisionError
        else endingError (native.pull transferId (message.payload.length / mtu + 2) w.native).1.2)
      ((do
        let quotient ← Method.lift (floorDiv message.payload.length manager.mtu)
        manager.sendSegments native message endpoint transferId (quotient + 2).toNat) w) := by
  by_cases zero : mtu = 0
  · have undivided : floorDiv message.payload.length manager.mtu = .error .zeroDivisionError := by
      rw [size, zero]
      rfl
    simp only [if_pos zero, Method.bind_apply, Method.lift_apply, undivided]
    exact Attempts.nothing (by rfl) (.error .zeroDivisionError : Except Exn Unit)
  · rw [if_neg zero, if_neg zero, boundedSegments_eq (Nat.pos_of_ne_zero zero) size]
    exact sendSegments_attempts transport zero_iff transferId _ w

/-- The `try` block. -/
theorem sendNative_attempts (transport : manager.transportSend = scripted outcomes)
    (zero_iff : ∀ result, native.int result = 0 ↔ result = .success) {mtu : Nat}
    (size : manager.mtu = mtu) (w : TpWorld ScriptedTransport ω) :
    Attempts outcomes w (nativePayloads native mtu message w.native)
      (nativeError native mtu message w.native)
      (manager.sendNative native message endpoint w) := by
  obtain ⟨t, how⟩ := sendNative_cases manager native message endpoint w
  rcases how with ⟨exc, prepared, ran⟩ | ⟨prepared, ran⟩ | ⟨result, transferId, prepared, ran⟩
  · simp only [nativePayloads, nativeError, NativeTp.attemptFor, prepared, reduceCtorEq,
      ↓reduceIte, ite_self, Option.isSome_none, Bool.false_eq_true, and_false]
    rw [ran]
    exact Attempts.nothing (by rfl) (.error exc : Except Exn Unit)
  · simp only [nativePayloads, nativeError, NativeTp.attemptFor, prepared, ↓reduceIte,
      Option.isSome_none, Bool.false_eq_true, and_false]
    rw [ran]
    exact (Attempts.handOver transport message _).of_transport rfl
  · have regular := native.pull_ne_whole transferId (message.payload.length / mtu + 2) t
    simp only [nativePayloads, nativeError, NativeTp.attemptFor, prepared, regular, ↓reduceIte,
      Option.isSome_some, and_true]
    rw [ran]
    exact (boundedSegments_attempts transport zero_iff size transferId
      { w with native := t }).of_transport rfl

end Native

section Python

variable {message : Message}

theorem sendChunks_attempts_zero (transport : manager.transportSend = scripted outcomes)
    (size : manager.mtu = 0) (filled : 0 < message.payload.length) (fuel : Nat)
    (w : TpWorld ScriptedTransport ω) :
    Attempts outcomes w (List.replicate fuel []) none
      (manager.sendChunks message endpoint fuel 0 w) := by
  induction fuel generalizing w with
  | zero => exact Attempts.nothing rfl (.ok none)
  | succ fuel ih =>
      have looping : manager.sendChunks message endpoint (fuel + 1) (0 : Nat) w =
          (manager.sendChunk message endpoint (0 : Nat) >>= fun next =>
            manager.sendChunks message endpoint fuel next) w := sendChunks_succ filled endpoint fuel w
      have chunk : manager.sendChunk message endpoint (0 : Nat) = (do
          manager.handOver endpoint (segment message [])
          pure 0) := sendChunk_eq size message endpoint 0
      rw [Int.natCast_zero] at looping chunk
      have shape : (manager.sendChunk message endpoint 0 >>= fun next =>
            manager.sendChunks message endpoint fuel next) w =
          (manager.handOver endpoint (segment message []) >>= fun _ =>
            manager.sendChunks message endpoint fuel 0) w := by
        rw [chunk, Method.bind_apply, Method.bind_apply, Method.bind_apply]
        cases manager.handOver endpoint (segment message []) w with
        | mk result u =>
            cases result with
            | ok value => rfl
            | error exc => rfl
      have turn : Attempts outcomes w ((segment message []).payload :: List.replicate fuel []) none
          ((manager.handOver endpoint (segment message []) >>= fun _ =>
            manager.sendChunks message endpoint fuel 0) w) :=
        Attempts.cons transport fun u _ => ih u
      rw [looping, shape, List.replicate_succ]
      exact turn

/-- What a loop hands over, the path around it hands over. -/
theorem Attempts.map {α β : Type} {w u : TpWorld ScriptedTransport ω} {payloads : List Bytes}
    {ending : Option Exn} {result : Except Exn α}
    (attempts : Attempts outcomes w payloads ending (result, u)) (f : α → β) :
    Attempts outcomes w payloads ending (result.map f, u) where
  result := by
    rw [← attempts.result]
    cases result with
    | ok value => rfl
    | error exc => rfl
  call := attempts.call
  accepted := attempts.accepted

theorem map_payload_pieces {mtu : Nat} (positive : 0 < mtu) (fuel : Nat) :
    (pieces mtu message).map Message.payload = pythonPayloads mtu message fuel := by
  have nonzero : ¬ mtu = 0 := Nat.ne_of_gt positive
  rw [pieces, pythonPayloads, if_neg nonzero]
  split
  · rfl
  · rw [List.map_map]
    exact List.map_id _

/-- The pure-Python path. -/
theorem sendPython_attempts (transport : manager.transportSend = scripted outcomes) {mtu : Nat}
    (size : manager.mtu = mtu) {fuel : Nat} (enough : message.payload.length < fuel)
    (w : TpWorld ScriptedTransport ω) :
    Attempts outcomes w (pythonPayloads mtu message fuel) none
      (manager.sendPython fuel message endpoint w) := by
  by_cases positive : 0 < mtu
  · rw [sendPython_eq_sendAll positive size message endpoint enough w,
      ← map_payload_pieces positive fuel]
    exact (sendAll_attempts transport (pieces mtu message) w).map _
  · have zero : mtu = 0 := Nat.eq_zero_of_not_pos positive
    subst zero
    by_cases small : message.payload.length ≤ 0
    · have fits : (message.payload.length : Int) ≤ manager.mtu := by omega
      have whole : pythonPayloads 0 message fuel = [message.payload] := by
        rw [pythonPayloads, if_pos small]
      rw [sendPython, if_pos fits, whole]
      exact Attempts.cons transport fun u _ => Attempts.nothing (by rfl) (.ok (some ()))
    · have large : ¬ (message.payload.length : Int) ≤ manager.mtu := by omega
      have endless : pythonPayloads 0 message fuel = List.replicate fuel [] := by
        rw [pythonPayloads, if_neg small, if_pos rfl]
      rw [sendPython, if_neg large, endless, Method.bind_apply]
      have attempts : Attempts outcomes w (List.replicate fuel []) none
          (manager.sendChunks message endpoint fuel 0 w) :=
        sendChunks_attempts_zero transport size (Nat.pos_of_ne_zero (by omega)) fuel w
      cases ran : manager.sendChunks message endpoint fuel 0 w with
      | mk result u =>
          rw [ran] at attempts
          cases result with
          | ok last => exact ⟨attempts.result, attempts.call, attempts.accepted⟩
          | error exc => exact ⟨attempts.result, attempts.call, attempts.accepted⟩

end Python

section Send

variable {native : NativeTp ω κ} {message : Message} {mtu : Nat} {s : ω}

theorem nativePayloads_within
    (slices : (native.attemptFor mtu message s).segments.flatten <+: message.payload) :
    (nativePayloads native mtu message s).flatten <+: message.payload.drop 0 := by
  rw [List.drop_zero]
  unfold nativePayloads
  dsimp only
  split
  · simp only [List.flatten_cons, List.flatten_nil, List.append_nil, List.prefix_rfl]
  · split
    · exact List.nil_prefix
    · exact slices

theorem pythonPayloads_within (fuel : Nat) :
    (pythonPayloads mtu message fuel).flatten <+: message.payload.drop 0 := by
  rw [List.drop_zero]
  unfold pythonPayloads
  split
  · simp only [List.flatten_cons, List.flatten_nil, List.append_nil, List.prefix_rfl]
  · split
    · simp only [List.flatten_replicate_nil, List.nil_prefix]
    · rename_i nonzero
      have whole := Chunks.flatten_chunks (Nat.pos_of_ne_zero nonzero) message.payload
      exact ⟨[], by rw [whole, List.append_nil]⟩

/-- The bytes at the accepted places. -/
theorem map_cut_acceptedSlices (outcomes : Nat → Option Exn) (fuel : Nat)
    (slices : (native.attemptFor mtu message s).segments.flatten <+: message.payload) :
    (acceptedSlices native mtu message s outcomes fuel).map (Slice.cut message.payload) =
      match (Script.refusal outcomes 0 (nativePayloads native mtu message s)).or
          (nativeError native mtu message s) with
      | none => Script.taken outcomes 0 (nativePayloads native mtu message s)
      | some exc =>
          if exc.isException then
            Script.taken outcomes 0 (nativePayloads native mtu message s) ++
              Script.taken outcomes (Script.next outcomes 0 (nativePayloads native mtu message s))
                (pythonPayloads mtu message fuel)
          else Script.taken outcomes 0 (nativePayloads native mtu message s) := by
  have front := Slice.map_cut_tile (nativePayloads_within slices)
  have back : (Slice.tile 0 (pythonPayloads mtu message fuel)).map (Slice.cut message.payload) =
      pythonPayloads mtu message fuel := Slice.map_cut_tile (pythonPayloads_within fuel)
  have refused : Script.refusal outcomes 0 (nativePayloads native mtu message s) =
      Script.refusal outcomes 0 (Slice.tile 0 (nativePayloads native mtu message s)) := by
    rw [← Script.refusal_map (Slice.cut message.payload), front]
  have after : Script.next outcomes 0 (nativePayloads native mtu message s) =
      Script.next outcomes 0 (Slice.tile 0 (nativePayloads native mtu message s)) := by
    rw [← Script.next_map (Slice.cut message.payload), front]
  have taken : (Script.taken outcomes 0 (Slice.tile 0 (nativePayloads native mtu message s))).map
      (Slice.cut message.payload) =
        Script.taken outcomes 0 (nativePayloads native mtu message s) := by
    rw [← Script.taken_map, front]
  rw [acceptedSlices, refused, after]
  split
  · exact taken
  · split
    · rw [List.map_append, taken, ← Script.taken_map, back]
    · exact taken

/-- What the transport accepts in one call of `send` are the bytes at the accepted places. -/
theorem send_accepted (zero_iff : ∀ result, native.int result = 0 ↔ result = .success) {fuel : Nat}
    (enough : message.payload.length < fuel)
    (slices : (native.attemptFor mtu message s).segments.flatten <+: message.payload)
    (transport : manager.transportSend = scripted outcomes) (size : manager.mtu = mtu)
    (present : manager.cpp = some native) :
    (manager.send fuel message endpoint { transport := {}, native := s }).2.transport.accepted.map
        Message.payload =
      (acceptedSlices native mtu message s outcomes fuel).map (Slice.cut message.payload) := by
  have block : Attempts outcomes { transport := {}, native := s }
      (nativePayloads native mtu message s) (nativeError native mtu message s)
      (manager.sendNative native message endpoint { transport := {}, native := s }) :=
    sendNative_attempts transport zero_iff size _
  rw [map_cut_acceptedSlices outcomes fuel slices]
  cases ran : manager.sendNative native message endpoint { transport := {}, native := s } with
  | mk result u =>
      rw [ran] at block
      have outcome := block.result
      have call := block.call
      have accepted := block.accepted
      simp only [List.map_nil, List.nil_append] at outcome call accepted
      rw [send_eq_native present, ran]
      cases result with
      | ok value =>
          rw [← outcome]
          exact accepted
      | error exc =>
          rw [← outcome]
          by_cases caught : exc.isException = true
          · have python : Attempts outcomes u (pythonPayloads mtu message fuel) none
                (manager.sendPython fuel message endpoint u) :=
              sendPython_attempts transport size enough u
            simp only [raisedBy, caught, ↓reduceIte]
            rw [python.accepted, accepted, call]
          · simp only [raisedBy, caught]
            exact accepted

end Send

end Attempts

end TpManager

end OpenSomeIp
