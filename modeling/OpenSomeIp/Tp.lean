import OpenSomeIp.Lib.Chunks
import OpenSomeIp.Lib.Loop
import OpenSomeIp.Message
import OpenSomeIp.Serialization

set_option autoImplicit false

namespace OpenSomeIp

/-- The results of the native TP layer. -/
inductive TpResult where
  | success
  | messageTooLarge
  | segmentationFailed
  | reassemblyTimeout
  | invalidSegment
  | sequenceError
  | networkError
  | resourceExhausted
  | timeout
  deriving DecidableEq, Repr

/-- The native `TpManager`, with its state `ω`; `κ` are its messages, and a segment is
known by its payload. `int` is the conversion of a result to an integer. -/
structure NativeTp (ω κ : Type) where
  int : TpResult → Int
  toCppMessage : Message → Method Exn ω κ
  needsSegmentation : κ → Method Exn ω Bool
  segmentMessage : κ → Method Exn ω (TpResult × Nat)
  getNextSegment : Nat → Method Exn ω (TpResult × Bytes)

/-- What a `TpManager` works on: its transport and its native part. -/
structure TpWorld (τ ω : Type) where
  transport : τ
  native : ω

structure TpManager (τ ω κ : Type) where
  mtu : Int
  transportSend : Message → Option Endpoint → Method Exn τ Unit
  cpp : Option (NativeTp ω κ) := none

namespace TpManager

variable {τ ω κ : Type}

def onTransport {α : Type} (body : Method Exn τ α) : Method Exn (TpWorld τ ω) α :=
  Method.zoom TpWorld.transport (fun t w => { w with transport := t }) body

def onNative {α : Type} (body : Method Exn ω α) : Method Exn (TpWorld τ ω) α :=
  Method.zoom TpWorld.native (fun n w => { w with native := n }) body

/-- The call `self._transport.send(message, endpoint)`. -/
def handOver (manager : TpManager τ ω κ) (endpoint : Option Endpoint) (message : Message) :
    Method Exn (TpWorld τ ω) Unit :=
  onTransport (manager.transportSend message endpoint)

/-- The message that carries a part of the payload: the fields the source copies, and the
defaults of the others. -/
def segment (message : Message) (payload : Bytes) : Message :=
  { messageId := message.messageId, requestId := message.requestId,
    messageType := message.messageType, returnCode := message.returnCode, payload := payload }

/-- The expression `a // b`. -/
def floorDiv (a b : Int) : Except Exn Int :=
  if b = 0 then .error .zeroDivisionError else .ok (Int.fdiv a b)

/-- The loop `for _ in range(max_segments)` of the native branch. -/
def sendSegments (manager : TpManager τ ω κ) (native : NativeTp ω κ) (message : Message)
    (endpoint : Option Endpoint) (transferId : Nat) : Nat → Method Exn (TpWorld τ ω) Unit
  | 0 => pure ()
  | count + 1 => do
      let (segResult, payload) ← onNative (native.getNextSegment transferId)
      if native.int segResult ≠ 0 then
        pure ()
      else do
        manager.handOver endpoint (segment message payload)
        sendSegments manager native message endpoint transferId count

/-- The body of the `try` statement. -/
def sendNative (manager : TpManager τ ω κ) (native : NativeTp ω κ) (message : Message)
    (endpoint : Option Endpoint) : Method Exn (TpWorld τ ω) Unit := do
  let cppMsg ← onNative (native.toCppMessage message)
  let needed ← onNative (native.needsSegmentation cppMsg)
  if needed then do
    let (_, transferId) ← onNative (native.segmentMessage cppMsg)
    let quotient ← Method.lift (floorDiv message.payload.length manager.mtu)
    let maxSegments := quotient + 2
    sendSegments manager native message endpoint transferId maxSegments.toNat
  else
    manager.handOver endpoint message

/-- A turn of the `while` loop; the offset after it. -/
def sendChunk (manager : TpManager τ ω κ) (message : Message) (endpoint : Option Endpoint)
    (offset : Int) : Method Exn (TpWorld τ ω) Int := do
  let chunk := pySlice message.payload offset (offset + manager.mtu)
  manager.handOver endpoint (segment message chunk)
  pure (offset + manager.mtu)

/-- The `while` loop from an offset on, for at most `fuel` turns. -/
def sendChunks (manager : TpManager τ ω κ) (message : Message) (endpoint : Option Endpoint)
    (fuel : Nat) (offset : Int) : Method Exn (TpWorld τ ω) (Option Int) :=
  Method.whileLoop (fun offset => decide (offset < message.payload.length))
    (manager.sendChunk message endpoint) fuel offset

/-- The pure-Python segmentation. -/
def sendPython (manager : TpManager τ ω κ) (fuel : Nat) (message : Message)
    (endpoint : Option Endpoint) : Method Exn (TpWorld τ ω) (Option Unit) :=
  if (message.payload.length : Int) ≤ manager.mtu then do
    manager.handOver endpoint message
    pure (some ())
  else do
    let last ← manager.sendChunks message endpoint fuel 0
    pure (last.map fun _ => ())

/-- The source's `send`; `none` says that its `while` loop is not done after `fuel` turns. -/
def send (manager : TpManager τ ω κ) (fuel : Nat) (message : Message)
    (endpoint : Option Endpoint) : Method Exn (TpWorld τ ω) (Option Unit) :=
  match manager.cpp with
  | none => manager.sendPython fuel message endpoint
  | some native =>
      Method.tryExcept
        (do manager.sendNative native message endpoint
            pure (some ()))
        (fun exc =>
          if exc.isException then manager.sendPython fuel message endpoint else Method.raise exc)

/-- The messages that the pure-Python path makes of one message. -/
def pieces (mtu : Nat) (message : Message) : List Message :=
  if message.payload.length ≤ mtu then [message]
  else (Chunks.chunks mtu message.payload).map (segment message)

/-- The messages handed to the transport one after another, up to the first that it
refuses. -/
def sendAll (manager : TpManager τ ω κ) (endpoint : Option Endpoint) (messages : List Message) :
    Method Exn (TpWorld τ ω) (List Unit) :=
  Method.each (manager.handOver endpoint) messages

theorem pySlice_add {α : Type} (xs : List α) (start size : Nat) :
    pySlice xs (start : Int) ((start : Int) + (size : Int)) = (xs.drop start).take size := by
  rw [← Int.natCast_add, pySlice_natCast, List.drop_take, Nat.add_sub_cancel_left]

variable {manager : TpManager τ ω κ} {mtu : Nat}

theorem sendChunk_eq (size : manager.mtu = mtu) (message : Message)
    (endpoint : Option Endpoint) (offset : Nat) :
    manager.sendChunk message endpoint offset = (do
      manager.handOver endpoint (segment message ((message.payload.drop offset).take mtu))
      pure ((offset + mtu : Nat) : Int)) := by
  rw [sendChunk, size, pySlice_add, Int.natCast_add]

theorem sendAll_cons_of_ok {message : Message} {endpoint : Option Endpoint} {done : Unit}
    {w after : TpWorld τ ω}
    (turn : manager.handOver endpoint message w = (.ok done, after))
    (rest : List Message) :
    manager.sendAll endpoint (message :: rest) w =
      ((manager.sendAll endpoint rest after).1.map (done :: ·),
        (manager.sendAll endpoint rest after).2) :=
  Method.each_cons_of_first turn rest

theorem sendAll_cons_of_error {message : Message} {endpoint : Option Endpoint} {reason : Exn}
    {w after : TpWorld τ ω}
    (turn : manager.handOver endpoint message w = (.error reason, after))
    (rest : List Message) :
    manager.sendAll endpoint (message :: rest) w = (.error reason, after) :=
  Method.each_cons_of_error turn rest

theorem sendChunks_of_le {message : Message} {offset : Nat}
    (past : message.payload.length ≤ offset) (endpoint : Option Endpoint) (fuel : Nat)
    (w : TpWorld τ ω) :
    manager.sendChunks message endpoint (fuel + 1) offset w = (.ok (some (offset : Int)), w) := by
  apply Method.whileLoop_of_false
  rw [decide_eq_false_iff_not]
  omega

theorem sendChunks_succ {message : Message} {offset : Nat}
    (more : offset < message.payload.length) (endpoint : Option Endpoint) (fuel : Nat)
    (w : TpWorld τ ω) :
    manager.sendChunks message endpoint (fuel + 1) offset w =
      (manager.sendChunk message endpoint offset >>= fun next =>
        manager.sendChunks message endpoint fuel next) w := by
  have going : decide ((offset : Int) < message.payload.length) = true := by
    rw [decide_eq_true_eq]
    omega
  rw [sendChunks, Method.whileLoop]
  simp only [going, ↓reduceIte]
  rfl

/-- The `while` loop from an offset on sends the pieces of what lies behind it. -/
theorem sendChunks_eq_sendAll (positive : 0 < mtu) (size : manager.mtu = mtu)
    (message : Message) (endpoint : Option Endpoint) :
    ∀ (fuel offset : Nat) (w : TpWorld τ ω), message.payload.length - offset < fuel →
      ∃ last, manager.sendChunks message endpoint fuel offset w =
        ((manager.sendAll endpoint
            ((Chunks.chunks mtu (message.payload.drop offset)).map (segment message)) w).1.map
          fun _ => some last,
        (manager.sendAll endpoint
            ((Chunks.chunks mtu (message.payload.drop offset)).map (segment message)) w).2) := by
  intro fuel
  induction fuel with
  | zero =>
      intro offset w enough
      omega
  | succ fuel ih =>
      intro offset w enough
      by_cases more : offset < message.payload.length
      · have nonempty : message.payload.drop offset ≠ [] := by
          apply List.ne_nil_of_length_pos
          rw [List.length_drop]
          omega
        rw [sendChunks_succ more, sendChunk_eq size, Chunks.chunks_of_ne_nil positive nonempty,
          List.map_cons, List.drop_drop]
        cases turn : manager.handOver endpoint
            (segment message ((message.payload.drop offset).take mtu)) w with
        | mk outcome middle =>
            cases outcome with
            | ok done =>
                rcases ih (offset + mtu) middle (by omega) with ⟨last, later⟩
                refine ⟨last, ?_⟩
                rw [sendAll_cons_of_ok turn, Method.bind_apply, Method.bind_of_ok turn,
                  Method.pure_apply]
                show manager.sendChunks message endpoint fuel ((offset + mtu : Nat) : Int) middle = _
                rw [later]
                cases (manager.sendAll _ _ middle).1 <;> rfl
            | error reason =>
                refine ⟨0, ?_⟩
                rw [sendAll_cons_of_error turn, Method.bind_apply, Method.bind_of_error turn]
                rfl
      · have past : message.payload.length ≤ offset := Nat.le_of_not_lt more
        refine ⟨offset, ?_⟩
        rw [sendChunks_of_le past, List.drop_of_length_le past, Chunks.chunks_nil]
        rfl

/-- With turns enough, the pure-Python path is the sending of the pieces: it returns when
the transport takes them all and raises what the transport raises. -/
theorem sendPython_eq_sendAll (positive : 0 < mtu) (size : manager.mtu = mtu)
    (message : Message) (endpoint : Option Endpoint) {fuel : Nat}
    (enough : message.payload.length < fuel) (w : TpWorld τ ω) :
    manager.sendPython fuel message endpoint w =
      ((manager.sendAll endpoint (pieces mtu message) w).1.map fun _ => some (),
        (manager.sendAll endpoint (pieces mtu message) w).2) := by
  by_cases small : message.payload.length ≤ mtu
  · have fits : (message.payload.length : Int) ≤ manager.mtu := by omega
    rw [sendPython, if_pos fits, pieces, if_pos small]
    cases turn : manager.handOver endpoint message w with
    | mk outcome after =>
        cases outcome with
        | ok done =>
            rw [Method.bind_of_ok turn, sendAll_cons_of_ok turn]
            rfl
        | error reason =>
            rw [Method.bind_of_error turn, sendAll_cons_of_error turn]
            rfl
  · have large : ¬ (message.payload.length : Int) ≤ manager.mtu := by omega
    rcases sendChunks_eq_sendAll positive size message endpoint fuel 0 w (by omega) with
      ⟨last, looped⟩
    rw [List.drop_zero, Int.natCast_zero] at looped
    rw [sendPython, if_neg large, pieces, if_neg small, Method.bind_apply, looped]
    cases (manager.sendAll endpoint ((Chunks.chunks mtu message.payload).map (segment message)) w).1
    <;> rfl

/-- A path that has come to its end comes to the same end with more turns to spare. -/
theorem sendPython_add (more : Nat) {fuel : Nat} {message : Message}
    {endpoint : Option Endpoint} {result : Except Exn (Option Unit)} {w after : TpWorld τ ω}
    (ran : manager.sendPython fuel message endpoint w = (result, after))
    (ended : result ≠ .ok none) :
    manager.sendPython (fuel + more) message endpoint w = (result, after) := by
  by_cases fits : (message.payload.length : Int) ≤ manager.mtu
  · rw [sendPython, if_pos fits] at ran ⊢
    exact ran
  · rw [sendPython, if_neg fits, Method.bind_apply] at ran ⊢
    cases looped : manager.sendChunks message endpoint fuel 0 w with
    | mk outcome middle =>
        rw [looped] at ran
        have finished : outcome ≠ .ok none := by
          rintro rfl
          cases ran
          exact ended rfl
        have longer : manager.sendChunks message endpoint (fuel + more) 0 w = (outcome, middle) :=
          Method.whileLoop_add more fuel looped finished
        rw [longer]
        exact ran

theorem send_add (more : Nat) {fuel : Nat} {message : Message} {endpoint : Option Endpoint}
    {result : Except Exn (Option Unit)} {w after : TpWorld τ ω}
    (ran : manager.send fuel message endpoint w = (result, after)) (ended : result ≠ .ok none) :
    manager.send (fuel + more) message endpoint w = (result, after) := by
  cases cpp : manager.cpp with
  | none =>
      simp only [send, cpp] at ran ⊢
      exact sendPython_add more ran ended
  | some native =>
      simp only [send, cpp] at ran ⊢
      cases tried : (manager.sendNative native message endpoint >>= fun _ => pure (some ())) w with
      | mk outcome middle =>
          cases outcome with
          | ok value =>
              rw [Method.tryExcept_of_ok tried] at ran ⊢
              exact ran
          | error exc =>
              rw [Method.tryExcept_of_error tried] at ran ⊢
              by_cases caught : exc.isException = true
              · rw [if_pos caught] at ran ⊢
                exact sendPython_add more ran ended
              · rw [if_neg caught] at ran ⊢
                exact ran

/-- A transport that accepts every message and remembers what it was handed. -/
def accept (message : Message) (endpoint : Option Endpoint) :
    Method Exn (List (Message × Option Endpoint)) Unit :=
  Method.modify fun sent => sent ++ [(message, endpoint)]

/-- The world after more messages were handed over. -/
def handed (endpoint : Option Endpoint) (messages : List Message)
    (w : TpWorld (List (Message × Option Endpoint)) ω) :
    TpWorld (List (Message × Option Endpoint)) ω :=
  { w with transport := w.transport ++ messages.map fun m => (m, endpoint) }

section Accepting

variable {accepting : TpManager (List (Message × Option Endpoint)) ω κ}
variable {endpoint : Option Endpoint} {w : TpWorld (List (Message × Option Endpoint)) ω}

@[simp] theorem handed_nil : handed endpoint [] w = w := by
  simp only [handed, List.map_nil, List.append_nil]

@[simp] theorem handed_handed (first second : List Message) :
    handed endpoint second (handed endpoint first w) = handed endpoint (first ++ second) w := by
  simp only [handed, List.map_append, List.append_assoc]

theorem handOver_accept (accepts : accepting.transportSend = accept) (message : Message) :
    accepting.handOver endpoint message w = (.ok (), handed endpoint [message] w) := by
  rw [handOver, accepts]
  rfl

theorem sendAll_accept (accepts : accepting.transportSend = accept) (messages : List Message) :
    accepting.sendAll endpoint messages w =
      (.ok (messages.map fun _ => ()), handed endpoint messages w) := by
  induction messages generalizing w with
  | nil =>
      rw [handed_nil]
      rfl
  | cons message messages ih =>
      rw [sendAll_cons_of_ok (handOver_accept accepts message), ih, handed_handed]
      rfl

/-- To a transport that accepts every message, the pure-Python path hands all pieces. -/
theorem sendPython_accept (accepts : accepting.transportSend = accept) (positive : 0 < mtu)
    (size : accepting.mtu = mtu) {message : Message} {fuel : Nat}
    (enough : message.payload.length < fuel) :
    accepting.sendPython fuel message endpoint w =
      (.ok (some ()), handed endpoint (pieces mtu message) w) := by
  rw [sendPython_eq_sendAll positive size message endpoint enough, sendAll_accept accepts]
  rfl

end Accepting

/-- Nothing of the payload is lost in the pieces. -/
theorem flatten_pieces (positive : 0 < mtu) (message : Message) :
    ((pieces mtu message).map Message.payload).flatten = message.payload := by
  unfold pieces
  split
  · rw [List.map_cons, List.map_nil, List.flatten_cons, List.flatten_nil, List.append_nil]
  · rw [List.map_map]
    have same : (Message.payload ∘ segment message) = id := rfl
    rw [same, List.map_id, Chunks.flatten_chunks positive]

theorem pieces_ne_nil (positive : 0 < mtu) (message : Message) : pieces mtu message ≠ [] := by
  unfold pieces
  split
  · exact List.cons_ne_nil _ _
  · rename_i large
    rw [Chunks.chunks_of_lt positive (Nat.lt_of_not_le large)]
    exact List.cons_ne_nil _ _

end TpManager

end OpenSomeIp
