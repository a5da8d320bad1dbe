import OpenSomeIp.ResponderSystem
import OpenSomeIp.Tp

set_option autoImplicit false

namespace OpenSomeIp

open Method

/-! ### Calls of `TpManager.send` at work -/

def Message.ids (msg : Message) : MessageId × RequestId := (msg.messageId, msg.requestId)

inductive TpPhase where
  | running
  | returned
  | raised (exc : Exn)
  deriving DecidableEq, Repr

/-- Where an outcome of `send` leaves its call; `none` says that the loop is not done. -/
def TpPhase.ofOutcome {α : Type} : Except Exn (Option α) → TpPhase
  | .ok none => .running
  | .ok (some _) => .returned
  | .error exc => .raised exc

/-- A call of the pure-Python `TpManager.send`: how far it has got in the payload, and what its
transport has taken. -/
structure TpCall (ι : Type) where
  sender : ι
  message : Message
  endpoint : Option Endpoint
  offset : Nat := 0
  phase : TpPhase := .running
  handed : List Message := []
  deriving DecidableEq, Repr

namespace TpCall

variable {ι : Type}

/-- What the call hands to the transport next, if it is not at its end. -/
def next (mtu : Nat) (call : TpCall ι) : Option Message :=
  if call.message.payload.length ≤ mtu then some call.message
  else if call.offset < call.message.payload.length then
    some (TpManager.segment call.message
      (pySlice call.message.payload call.offset ((call.offset : Int) + mtu)))
  else none

/-- The call after the transport's `send`. -/
def after (mtu : Nat) (call : TpCall ι) (piece : Message) : Except Exn Unit → TpCall ι
  | .ok () =>
      if call.message.payload.length ≤ mtu then
        { call with
          offset := call.message.payload.length
          phase := .returned
          handed := call.handed ++ [piece] }
      else { call with offset := call.offset + mtu, handed := call.handed ++ [piece] }
  | .error exc => { call with phase := .raised exc }

/-- The ids that all parts of the message carry. -/
def ids (call : TpCall ι) : MessageId × RequestId := call.message.ids

end TpCall

namespace TpCall

variable {ι : Type} {mtu : Nat} {call : TpCall ι} {piece : Message}

def key (call : TpCall ι) : ι × MessageId × RequestId := (call.sender, call.ids)

/-- What has been taken is what lies before the offset. -/
structure Wrote (mtu : Nat) (call : TpCall ι) : Prop where
  bytes : call.handed.flatMap Message.payload = call.message.payload.take call.offset
  marked : ∀ piece ∈ call.handed, piece.ids = call.ids
  fresh : call.message.payload.length ≤ mtu → call.phase = .running → call.offset = 0
  whole : call.phase = .returned → call.message.payload.length ≤ call.offset

theorem ids_of_next (more : call.next mtu = some piece) : piece.ids = call.ids := by
  rw [next] at more
  split at more
  · obtain rfl := Option.some.inj more
    rfl
  · split at more
    · obtain rfl := Option.some.inj more
      rfl
    · cases more

theorem key_after (result : Except Exn Unit) : (call.after mtu piece result).key = call.key := by
  cases result with
  | error exc => rfl
  | ok value =>
      rw [after]
      split <;> rfl

theorem wrote_after (wrote : call.Wrote mtu) (running : call.phase = .running)
    (more : call.next mtu = some piece) (result : Except Exn Unit) :
    (call.after mtu piece result).Wrote mtu := by
  have marked : ∀ other ∈ call.handed ++ [piece], other.ids = call.ids := by
    intro other member
    rcases List.mem_append.mp member with earlier | last
    · exact wrote.marked other earlier
    · obtain rfl := List.mem_singleton.mp last
      exact ids_of_next more
  have joined : (call.handed ++ [piece]).flatMap Message.payload =
      call.message.payload.take call.offset ++ piece.payload := by
    rw [List.flatMap_append, wrote.bytes, List.flatMap_singleton]
  cases result with
  | error exc =>
      exact ⟨wrote.bytes, wrote.marked, fun _ going => (by cases going),
        fun ended => (by cases ended)⟩
  | ok value =>
      rw [next] at more
      rw [after]
      split at more
      · rename_i small
        obtain rfl := Option.some.inj more
        rw [if_pos small]
        refine ⟨?_, marked, fun _ going => (by cases going), fun _ => Nat.le_refl _⟩
        rw [joined, wrote.fresh small running, List.take_zero, List.take_length]
        rfl
      · rename_i large
        rw [if_neg large]
        split at more
        · obtain rfl := Option.some.inj more
          refine ⟨?_, marked, fun small => absurd small large, fun ended => ?_⟩
          · rw [joined]
            change _ ++ pySlice _ _ _ = _
            rw [TpManager.pySlice_add, List.take_add]
          · cases running.symm.trans ended
        · cases more

theorem wrote_returned (wrote : call.Wrote mtu) (done : call.next mtu = none) :
    ({ call with phase := .returned } : TpCall ι).Wrote mtu := by
  refine ⟨wrote.bytes, wrote.marked, fun _ going => (by cases going), fun _ => ?_⟩
  rw [next] at done
  split at done
  · cases done
  · split at done
    · cases done
    · rename_i past
      exact Nat.le_of_not_lt past

end TpCall

/-- What tells the calls of one sender apart at the receiver. -/
def Call.key {ι : Type} (call : Call ι) : ι × MessageId × RequestId :=
  (call.sender, call.message.ids)

theorem Call.key_of_made {ι : Type} {i : ι} {piece : Message} {result : Except Exn Unit}
    {target : Option Endpoint} {made : Call ι} (member : made ∈ Call.made i piece result target) :
    made.key = (i, piece.ids) := by
  unfold Call.made at member
  split at member
  · obtain rfl := List.mem_singleton.mp member
    rfl
  · cases member

/-- A link, every transport of which has a TP manager, and the calls of these so far. -/
structure TpTraffic (ι ω : Type) where
  link : Link ι ω
  calls : List (TpCall ι) := []

/-- Any number of calls may be under way, on one manager too; `turn` is the next step of one. -/
inductive TpAct (ι : Type) where
  | other (act : LinkAct ι)
  | send (i : ι) (message : Message) (endpoint : Option Endpoint)
  | turn (k : Nat)
  deriving DecidableEq, Repr

def LinkAct.isSend {ι : Type} : LinkAct ι → Bool
  | .send _ _ _ => true
  | _ => false

/-- What the act does on the network by itself. -/
def TpAct.transit {ι : Type} : TpAct ι → Option (Medium.Act (Letter ι))
  | .other act => act.transit
  | _ => none

variable {ι ω : Type}

namespace TpTraffic

/-- The network keeps to a rule. -/
def Obeys (rule : Medium (Letter ι) → Medium.Act (Letter ι) → Prop) (s : TpTraffic ι ω)
    (act : TpAct ι) : Prop := ∀ a, act.transit = some a → rule s.link.net a

def new (native : ι → ω) : TpTraffic ι ω := { link := Link.new native }

section Step

variable [DecidableEq ι] (transport : ι → AnyTransport ω CppEndpoint CppMessage)
  (address : ι → Endpoint) (outbox : ω → List Parcel) (mtu : ι → Nat)

def step (s : TpTraffic ι ω) : TpAct ι → Option (TpTraffic ι ω)
  | .other act =>
      if act.isSend then none
      else (s.link.step transport address outbox act).map fun link => { s with link := link }
  | .send i message endpoint =>
      some { s with calls := s.calls ++ [{ sender := i, message := message, endpoint := endpoint }] }
  | .turn k =>
      match s.calls[k]? with
      | none => none
      | some call =>
          if call.phase = .running then
            match call.next (mtu call.sender) with
            | none => some { s with calls := s.calls.set k { call with phase := .returned } }
            | some piece =>
                (s.link.step transport address outbox
                  (.send call.sender piece call.endpoint)).map fun link =>
                    { link := link
                      calls := s.calls.set k (call.after (mtu call.sender) piece
                        ((transport call.sender).super.send piece call.endpoint
                          (s.link.stations call.sender).world).1) }
          else none

end Step

end TpTraffic

namespace Link

section Calls

variable [DecidableEq ι] {transport : ι → AnyTransport ω CppEndpoint CppMessage}
  {address : ι → Endpoint} {outbox : ω → List Parcel} {s t : Link ι ω}

theorem calls_of_other (posts : ∀ i, (transport i).Posts outbox) {act : LinkAct ι}
    (other : act.isSend = false) (stepped : s.step transport address outbox act = some t) :
    t.calls = s.calls := by
  cases moves_of_step posts stepped with
  | tended act still i w tends => rfl
  | sent i message endpoint target w tends net posted => cases other
  | arrive i place letter found aimed => rfl
  | transit act a moves faulty net moved => rfl
  | consume i act station consumed => rfl

theorem calls_of_send {i : ι} {message : Message} {endpoint : Option Endpoint}
    (stepped : s.step transport address outbox (.send i message endpoint) = some t) :
    t.calls = s.calls ++ Call.made i message
      ((transport i).super.send message endpoint (s.stations i).world).1
      ((transport i).super.target message endpoint) := by
  obtain rfl := Option.some.inj stepped
  rfl

end Calls

end Link

namespace TpTraffic

/-- No other call has its sender and ids. -/
def Alone (keys : List (ι × MessageId × RequestId)) (k : Nat) : Prop :=
  ∀ j, keys[j]? = keys[k]? → j = k

def keys (s : TpTraffic ι ω) : List (ι × MessageId × RequestId) := s.calls.map TpCall.key

/-- The `send` calls of the transport that a list of messages makes. -/
def madeBy (transport : ι → AnyTransport ω CppEndpoint CppMessage) (call : TpCall ι)
    (handed : List Message) : List (Call ι) :=
  handed.flatMap fun piece => Call.made call.sender piece (.ok ())
    ((transport call.sender).super.target piece call.endpoint)

theorem madeBy_after {transport : ι → AnyTransport ω CppEndpoint CppMessage} {call : TpCall ι}
    {piece : Message} {size : Nat} (result : Except Exn Unit) :
    madeBy transport (call.after size piece result) (call.after size piece result).handed =
      madeBy transport call call.handed ++ Call.made call.sender piece result
        ((transport call.sender).super.target piece call.endpoint) := by
  have grown : madeBy transport call (call.handed ++ [piece]) =
      madeBy transport call call.handed ++ Call.made call.sender piece (.ok ())
        ((transport call.sender).super.target piece call.endpoint) := by
    rw [madeBy, List.flatMap_append, List.flatMap_singleton]
    rfl
  cases result with
  | error exc => exact (List.append_nil _).symm
  | ok value =>
      rw [TpCall.after]
      split <;> exact grown

theorem alone_of_unique {s : TpTraffic ι ω} {k : Nat} {call : TpCall ι}
    (found : s.calls[k]? = some call)
    (unique : ∀ j other, s.calls[j]? = some other → other.sender = call.sender →
      other.ids = call.ids → j = k) : Alone s.keys k := by
  intro j same
  rw [keys, List.getElem?_map, List.getElem?_map, found] at same
  obtain ⟨other, there, equal⟩ := Option.map_eq_some_iff.mp same
  exact unique j other there (congrArg Prod.fst equal) (congrArg Prod.snd equal)

/-! ### A call that takes every turn -/

/-- The manager of a transport. -/
def manager (transport : ι → AnyTransport ω CppEndpoint CppMessage) (mtu : ι → Nat) (i : ι) :
    TpManager (TransportWorld ω) Unit Unit where
  mtu := mtu i
  transportSend := (transport i).super.send

theorem handOver_manager {transport : ι → AnyTransport ω CppEndpoint CppMessage}
    (mtu : ι → Nat) {i : ι} {piece : Message} {endpoint : Option Endpoint}
    {result : Except Exn Unit} {w : TransportWorld ω} {before : TpWorld (TransportWorld ω) Unit}
    (ran : (transport i).super.send piece endpoint before.transport = (result, w)) :
    (manager transport mtu i).handOver endpoint piece before =
      (result, { before with transport := w }) := by
  simp only [TpManager.handOver, TpManager.onTransport, Method.zoom_apply, manager, ran]

theorem found_set {s t : TpTraffic ι ω} {k : Nat} {call next : TpCall ι}
    (found : s.calls[k]? = some call) (turned : t.calls = s.calls.set k next) :
    t.calls[k]? = some next := by
  obtain ⟨bound, -⟩ := List.getElem?_eq_some_iff.mp found
  rw [turned, List.getElem?_set_self bound]

variable [DecidableEq ι]

section Alone

variable (transport : ι → AnyTransport ω CppEndpoint CppMessage) (address : ι → Endpoint)
  (outbox : ω → List Parcel) (mtu : ι → Nat) {s t : TpTraffic ι ω} {k : Nat} {call : TpCall ι}

/-- Some turns of call `k` in a row bring it to a phase, and its transport to `w`. -/
def Reaches (s : TpTraffic ι ω) (k : Nat) (i : ι) (phase : TpPhase) (w : TransportWorld ω) :
    Prop :=
  ∃ turns t call,
    Transition.run (step transport address outbox mtu) s (List.replicate turns (.turn k)) = some t ∧
      t.calls = s.calls.set k call ∧ call.phase = phase ∧ (t.link.stations i).world = w

theorem turn_of_next {piece : Message} {result : Except Exn Unit} {w : TransportWorld ω}
    (found : s.calls[k]? = some call) (running : call.phase = .running)
    (more : call.next (mtu call.sender) = some piece)
    (ran : (transport call.sender).super.send piece call.endpoint
      (s.link.stations call.sender).world = (result, w)) :
    ∃ t, s.step transport address outbox mtu (.turn k) = some t ∧
      t.calls = s.calls.set k (call.after (mtu call.sender) piece result) ∧
      (t.link.stations call.sender).world = w := by
  simp only [step, found, running, more, ↓reduceIte]
  refine ⟨_, rfl, ?_, ?_⟩
  · change s.calls.set k (call.after (mtu call.sender) piece
      ((transport call.sender).super.send piece call.endpoint
        (s.link.stations call.sender).world).1) = _
    rw [ran]
  · change ((s.link.tend call.sender _).stations call.sender).world = w
    rw [Link.tend_self]
    change ((transport call.sender).super.send piece call.endpoint
      (s.link.stations call.sender).world).2 = w
    rw [ran]

theorem turn_of_done (found : s.calls[k]? = some call) (running : call.phase = .running)
    (done : call.next (mtu call.sender) = none) :
    s.step transport address outbox mtu (.turn k) =
      some { s with calls := s.calls.set k { call with phase := .returned } } := by
  simp only [step, found, running, done, ↓reduceIte]

theorem reaches_now (found : s.calls[k]? = some call) {w : TransportWorld ω}
    (at_ : (s.link.stations call.sender).world = w) :
    s.Reaches transport address outbox mtu k call.sender call.phase w := by
  obtain ⟨bound, is_⟩ := List.getElem?_eq_some_iff.mp found
  refine ⟨0, s, call, rfl, ?_, rfl, at_⟩
  rw [← is_]
  exact (List.set_getElem_self bound).symm

/-- What is reached from where a turn leads. -/
theorem reaches_turn {i : ι} {phase : TpPhase} {w : TransportWorld ω} {next : TpCall ι}
    (first : s.step transport address outbox mtu (.turn k) = some t)
    (turned : t.calls = s.calls.set k next)
    (rest : t.Reaches transport address outbox mtu k i phase w) :
    s.Reaches transport address outbox mtu k i phase w := by
  obtain ⟨turns, u, done, ran, calls, phased, world⟩ := rest
  refine ⟨turns + 1, u, done, ?_, ?_, phased, world⟩
  · rw [List.replicate_succ, Transition.run_cons_of_some first, ran]
  · rw [calls, turned, List.set_set]

/-- The `while` loop, turn by turn. -/
theorem reaches_sendChunks (fuel : Nat) (found : s.calls[k]? = some call)
    (running : call.phase = .running) (large : ¬ call.message.payload.length ≤ mtu call.sender)
    (w : TpWorld (TransportWorld ω) Unit)
    (at_ : (s.link.stations call.sender).world = w.transport) :
    s.Reaches transport address outbox mtu k call.sender
      (.ofOutcome ((manager transport mtu call.sender).sendChunks call.message call.endpoint fuel
        call.offset w).1)
      ((manager transport mtu call.sender).sendChunks call.message call.endpoint fuel
        call.offset w).2.transport := by
  -- no turn of the loop, no turn of the call
  induction fuel generalizing s call w with
  | zero =>
      have here := reaches_now transport address outbox mtu found at_
      rw [running] at here
      exact here
  | succ fuel ih =>
      by_cases behind : call.offset < call.message.payload.length
      · have more : call.next (mtu call.sender) = some (TpManager.segment call.message
            (pySlice call.message.payload call.offset ((call.offset : Int) + mtu call.sender))) := by
          rw [TpCall.next, if_neg large, if_pos behind]
        rw [TpManager.sendChunks_succ behind]
        cases sent : (transport call.sender).super.send (TpManager.segment call.message
            (pySlice call.message.payload call.offset ((call.offset : Int) + mtu call.sender)))
            call.endpoint w.transport with
        | mk result after =>
            have handed := handOver_manager mtu sent
            rw [← at_] at sent
            obtain ⟨t, first, turned, world⟩ := turn_of_next transport address outbox
              mtu found running more sent
            have there := found_set found turned
            refine reaches_turn transport address outbox mtu first turned ?_
            cases result with
            | error exc =>
                have raised : (manager transport mtu call.sender).sendChunk call.message
                    call.endpoint call.offset w = (.error exc, { w with transport := after }) :=
                  Method.bind_of_error handed _
                rw [Method.bind_of_error raised]
                exact reaches_now _ _ _ _ there world
            | ok value =>
                have chunk : (manager transport mtu call.sender).sendChunk call.message
                    call.endpoint call.offset w = (.ok ((call.offset + mtu call.sender : Nat) : Int),
                      { w with transport := after }) :=
                  Method.bind_of_ok handed _
                rw [Method.bind_of_ok chunk]
                rw [TpCall.after, if_neg large] at there
                exact ih there running large { w with transport := after } world
      · have done : call.next (mtu call.sender) = none := by
          rw [TpCall.next, if_neg large, if_neg behind]
        rw [TpManager.sendChunks_of_le (Nat.le_of_not_lt behind)]
        have first := turn_of_done transport address outbox mtu found running done
        obtain ⟨bound, -⟩ := List.getElem?_eq_some_iff.mp found
        have there := List.getElem?_set_self (a := { call with phase := .returned }) bound
        refine reaches_turn transport address outbox mtu first rfl ?_
        exact reaches_now (s := { s with calls := s.calls.set k { call with phase := .returned } })
          transport address outbox mtu there at_

/-- The call of a message that fits. -/
theorem reaches_whole (fuel : Nat) (found : s.calls[k]? = some call)
    (running : call.phase = .running) (small : call.message.payload.length ≤ mtu call.sender)
    (w : TpWorld (TransportWorld ω) Unit)
    (at_ : (s.link.stations call.sender).world = w.transport) :
    s.Reaches transport address outbox mtu k call.sender
      (.ofOutcome ((manager transport mtu call.sender).send fuel call.message call.endpoint w).1)
      ((manager transport mtu call.sender).send fuel call.message call.endpoint w).2.transport := by
  have whole : (manager transport mtu call.sender).send fuel call.message call.endpoint =
      ((manager transport mtu call.sender).handOver call.endpoint call.message >>= fun _ =>
        (pure (some ()) : Method Exn (TpWorld (TransportWorld ω) Unit) (Option Unit))) := by
    rw [TpManager.send, manager, TpManager.sendPython, if_pos (Int.ofNat_le.mpr small)]
  have more : call.next (mtu call.sender) = some call.message := if_pos small
  rw [whole]
  cases sent : (transport call.sender).super.send call.message call.endpoint w.transport with
  | mk result after =>
      have handed := handOver_manager mtu sent
      rw [← at_] at sent
      obtain ⟨t, first, turned, world⟩ := turn_of_next transport address outbox mtu found
        running more sent
      have there := found_set found turned
      refine reaches_turn transport address outbox mtu first turned ?_
      cases result with
      | error exc =>
          rw [Method.bind_of_error handed]
          exact reaches_now _ _ _ _ there world
      | ok value =>
          rw [Method.bind_of_ok handed]
          rw [TpCall.after, if_pos small] at there
          exact reaches_now _ _ _ _ there world

/-- A call that takes every turn does what the source's `send` does. -/
theorem reaches_send (fuel : Nat) (found : s.calls[k]? = some call)
    (running : call.phase = .running) (fresh : call.offset = 0)
    (w : TpWorld (TransportWorld ω) Unit)
    (at_ : (s.link.stations call.sender).world = w.transport) :
    s.Reaches transport address outbox mtu k call.sender
      (.ofOutcome ((manager transport mtu call.sender).send fuel call.message call.endpoint w).1)
      ((manager transport mtu call.sender).send fuel call.message call.endpoint w).2.transport := by
  by_cases small : call.message.payload.length ≤ mtu call.sender
  · exact reaches_whole transport address outbox mtu fuel found running small w at_
  · have looped := reaches_sendChunks transport address outbox mtu fuel found running small w at_
    have large : ¬ (call.message.payload.length : Int) ≤ mtu call.sender :=
      fun le => small (Int.ofNat_le.mp le)
    have python : (manager transport mtu call.sender).send fuel call.message call.endpoint =
        ((manager transport mtu call.sender).sendChunks call.message call.endpoint fuel 0 >>=
          fun last => (pure (last.map fun _ => ()) :
            Method Exn (TpWorld (TransportWorld ω) Unit) (Option Unit))) := by
      rw [TpManager.send, manager, TpManager.sendPython, if_neg large]
    rw [fresh, Int.natCast_zero] at looped
    rw [python]
    cases ran : (manager transport mtu call.sender).sendChunks call.message call.endpoint fuel 0
        w with
    | mk outcome after =>
        rw [ran] at looped
        cases outcome with
        | error exc =>
            rw [Method.bind_of_error ran]
            exact looped
        | ok last =>
            rw [Method.bind_of_ok ran]
            cases last <;> exact looped

/-- So does one that is begun and then takes them, as the last of the calls. -/
theorem run_send (fuel : Nat) (i : ι) (message : Message) (endpoint : Option Endpoint)
    (w : TpWorld (TransportWorld ω) Unit) (at_ : (s.link.stations i).world = w.transport) :
    ∃ turns t call, Transition.run (step transport address outbox mtu) s
        (.send i message endpoint :: List.replicate turns (.turn s.calls.length)) = some t ∧
      t.calls = s.calls ++ [call] ∧
      call.phase = .ofOutcome ((manager transport mtu i).send fuel message endpoint w).1 ∧
      (t.link.stations i).world =
        ((manager transport mtu i).send fuel message endpoint w).2.transport := by
  have begun : s.step transport address outbox mtu (.send i message endpoint) = some { s with
      calls := s.calls ++ [{ sender := i, message := message, endpoint := endpoint }] } := rfl
  obtain ⟨turns, t, call, ran, calls, phase, world⟩ :=
    reaches_send transport address outbox mtu
      (s := { s with
        calls := s.calls ++ [{ sender := i, message := message, endpoint := endpoint }] })
      fuel List.getElem?_concat_length rfl rfl w at_
  refine ⟨turns, t, call, ?_, ?_, phase, world⟩
  · rw [Transition.run_cons_of_some begun, ran]
  · rw [calls, List.set_append_right _ _ (Nat.le_refl _), Nat.sub_self]
    rfl

end Alone

/-! ### What is known in every state -/

/-- Every `send` of a transport is one of a TP call, and those with the ids of no other call are
those it has made. -/
structure Sound (transport : ι → AnyTransport ω CppEndpoint CppMessage) (mtu : ι → Nat)
    (s : TpTraffic ι ω) : Prop where
  known : ∀ made ∈ s.link.calls, made.key ∈ s.keys
  own : ∀ k call, s.calls[k]? = some call → Alone s.keys k →
    s.link.calls.filter (fun made => made.key = call.key) = madeBy transport call call.handed
  wrote : ∀ call ∈ s.calls, call.Wrote (mtu call.sender)

section Run

variable {transport : ι → AnyTransport ω CppEndpoint CppMessage} {address : ι → Endpoint}
  {outbox : ω → List Parcel} {mtu : ι → Nat} {s t : TpTraffic ι ω} {acts : List (TpAct ι)}

theorem sound_send (sound : s.Sound transport mtu) (i : ι) (message : Message)
    (endpoint : Option Endpoint) :
    ({ s with calls := s.calls ++
      [{ sender := i, message := message, endpoint := endpoint }] } : TpTraffic ι ω).Sound
        transport mtu := by
  have grown : (s.calls ++ [({ sender := i, message := message, endpoint := endpoint } :
      TpCall ι)]).map TpCall.key = s.keys ++ [(i, message.ids)] := List.map_append
  refine ⟨fun made member => ?_, fun k call found alone => ?_, fun call member => ?_⟩
  · rw [keys, grown]
    exact List.mem_append_left _ (sound.known made member)
  · rw [keys, grown] at alone
    change (s.calls ++ [_])[k]? = some call at found
    rw [List.getElem?_append] at found
    split at found
    · rename_i within
      apply sound.own k call found
      intro j same
      have bound : k < s.keys.length := by
        rw [keys, List.length_map]
        exact within
      have there := List.getElem?_eq_getElem bound
      have inside : j < s.keys.length := (List.getElem?_eq_some_iff.mp (same.trans there)).1
      apply alone j
      rw [List.getElem?_append_left inside, List.getElem?_append_left bound, same]
    · rename_i beyond
      obtain ⟨bound, is_⟩ := List.getElem?_eq_some_iff.mp found
      have last : k = s.calls.length := by
        rw [List.length_singleton] at bound
        omega
      obtain rfl : { sender := i, message := message, endpoint := endpoint } = call := by
        rw [← is_, List.getElem_singleton]
      apply List.filter_eq_nil_iff.mpr
      intro made member same
      -- an earlier call has these ids
      obtain ⟨j, inside, earlier⟩ := List.getElem_of_mem (sound.known made member)
      have length : s.keys.length = s.calls.length := List.length_map ..
      have equal : j = k := by
        apply alone
        rw [List.getElem?_append_left inside, List.getElem?_eq_getElem inside, earlier, last,
          ← length, List.getElem?_concat_length]
        exact congrArg some (of_decide_eq_true same)
      omega
  · rcases List.mem_append.mp member with earlier | new
    · exact sound.wrote call earlier
    · obtain rfl := List.mem_singleton.mp new
      exact ⟨rfl, fun _ member => absurd member List.not_mem_nil, fun _ _ => rfl,
        fun ended => by cases ended⟩

/-- One call gets on, and the transport's calls are those before and those it made of a part. -/
theorem sound_set (sound : s.Sound transport mtu) {k : Nat} {call next : TpCall ι} {link : Link ι ω}
    {made : List (Call ι)} (found : s.calls[k]? = some call) (same : next.key = call.key)
    (wrote : next.Wrote (mtu next.sender)) (grown : link.calls = s.link.calls ++ made)
    (marked : ∀ other ∈ made, other.key = call.key)
    (counts : madeBy transport next next.handed = madeBy transport call call.handed ++ made) :
    ({ link := link, calls := s.calls.set k next } : TpTraffic ι ω).Sound transport mtu := by
  have keys_ : (s.calls.set k next).map TpCall.key = s.keys := by
    have at_ : s.keys[k]? = some call.key := by
      rw [keys, List.getElem?_map, found]
      rfl
    obtain ⟨bound, is_⟩ := List.getElem?_eq_some_iff.mp at_
    rw [List.map_set, same, ← is_]
    exact List.set_getElem_self bound
  refine ⟨fun other member => ?_, fun j other there alone => ?_, fun other member => ?_⟩
  · rw [keys, keys_]
    rw [grown, List.mem_append] at member
    rcases member with earlier | new
    · exact sound.known other earlier
    · rw [marked other new]
      exact List.mem_map_of_mem (List.mem_of_getElem? found)
  · rw [keys, keys_] at alone
    rw [grown, List.filter_append]
    change (s.calls.set k next)[j]? = some other at there
    rw [List.getElem?_set] at there
    split at there
    · rename_i here
      subst here
      split at there
      · obtain rfl := Option.some.inj there
        rw [same, sound.own k call found alone, counts]
        congr 1
        exact List.filter_eq_self.mpr fun other member => decide_eq_true (marked other member)
      · cases there
    · rename_i elsewhere
      rw [sound.own j other there alone]
      have none_ : made.filter (fun made => made.key = other.key) = [] := by
        apply List.filter_eq_nil_iff.mpr
        intro one member equal
        apply elsewhere
        apply alone k
        rw [keys, List.getElem?_map, List.getElem?_map, found, there]
        exact congrArg some ((marked one member).symm.trans (of_decide_eq_true equal))
      rw [none_, List.append_nil]
  · rcases List.mem_or_eq_of_mem_set member with earlier | rfl
    · exact sound.wrote other earlier
    · exact wrote

theorem sound_step (posts : ∀ i, (transport i).Posts outbox) {act : TpAct ι}
    (sound : s.Sound transport mtu)
    (stepped : s.step transport address outbox mtu act = some t) : t.Sound transport mtu := by
  cases act with
  | other act =>
      rw [step] at stepped
      split at stepped
      · cases stepped
      · rename_i other
        obtain ⟨link, moved, rfl⟩ := Option.map_eq_some_iff.mp stepped
        have same := Link.calls_of_other posts (Bool.eq_false_iff.mpr other) moved
        exact ⟨same.symm ▸ sound.known, same.symm ▸ sound.own, sound.wrote⟩
  | send i message endpoint =>
      obtain rfl := Option.some.inj stepped
      exact sound_send sound i message endpoint
  | turn k =>
      rw [step] at stepped
      split at stepped
      · cases stepped
      · rename_i call found
        have wrote := sound.wrote call (List.mem_of_getElem? found)
        split at stepped
        · rename_i running
          split at stepped
          · rename_i done
            obtain rfl := Option.some.inj stepped
            exact sound_set sound found rfl (TpCall.wrote_returned wrote done)
              (List.append_nil _).symm (fun _ member => absurd member List.not_mem_nil)
              (List.append_nil _).symm
          · rename_i piece more
            obtain ⟨link, moved, rfl⟩ := Option.map_eq_some_iff.mp stepped
            have kept (result : Except Exn Unit) :
                (call.after (mtu call.sender) piece result).key = call.key :=
              TpCall.key_after result
            have advanced := TpCall.wrote_after wrote running more
            have sender (result : Except Exn Unit) :
                (call.after (mtu call.sender) piece result).sender = call.sender :=
              congrArg Prod.fst (kept result)
            refine sound_set sound found (kept _) ?_ (Link.calls_of_send moved) ?_ (madeBy_after _)
            · rw [sender]
              exact advanced _
            · intro other member
              rw [Call.key_of_made member, TpCall.ids_of_next more]
              rfl
        · cases stepped

theorem link_step {act : TpAct ι} (stepped : s.step transport address outbox mtu act = some t) :
    t.link = s.link ∨ ∃ a : LinkAct ι, a.transit = act.transit ∧
      s.link.step transport address outbox a = some t.link := by
  cases act with
  | other act =>
      rw [step] at stepped
      split at stepped
      · cases stepped
      · obtain ⟨link, moved, rfl⟩ := Option.map_eq_some_iff.mp stepped
        exact .inr ⟨act, rfl, moved⟩
  | send i message endpoint =>
      obtain rfl := Option.some.inj stepped
      exact .inl rfl
  | turn k =>
      rw [step] at stepped
      split at stepped
      · cases stepped
      · split at stepped
        · split at stepped
          · obtain rfl := Option.some.inj stepped
            exact .inl rfl
          · obtain ⟨link, moved, rfl⟩ := Option.map_eq_some_iff.mp stepped
            exact .inr ⟨_, rfl, moved⟩
        · cases stepped

theorem invariants_run (posts : ∀ i, (transport i).Posts outbox)
    (distinct : Function.Injective address) (dependable : Link.Dependable transport outbox)
    (native : ι → ω)
    (along : Transition.Along (step transport address outbox mtu)
      (Obeys (Medium.Reliable Letter.channel)) (new native) acts)
    (ran : Transition.run (step transport address outbox mtu) (new native) acts = some t) :
    t.Sound transport mtu ∧ t.link.Traced address ∧ t.link.Written ∧
      t.link.net.Complete Letter.channel := by
  have preserved (s : TpTraffic ι ω) (act : TpAct ι) (t : TpTraffic ι ω)
      (before : s.Sound transport mtu ∧ s.link.Traced address ∧ s.link.Written ∧
        s.link.net.Complete Letter.channel)
      (reliable : s.Obeys (Medium.Reliable Letter.channel) act)
      (stepped : s.step transport address outbox mtu act = some t) :
      t.Sound transport mtu ∧ t.link.Traced address ∧ t.link.Written ∧
        t.link.net.Complete Letter.channel := by
    obtain ⟨sound, traced, written, complete⟩ := before
    refine ⟨sound_step posts sound stepped, ?_⟩
    rcases link_step stepped with same | ⟨a, transit, moved⟩
    · rw [same]
      exact ⟨traced, written, complete⟩
    · refine ⟨Link.traced_step posts distinct traced moved,
        Link.written_step posts dependable written moved, ?_⟩
      exact Link.net_step (Medium.lasting_complete Letter.channel) posts complete
        (fun b one => reliable b (transit ▸ one)) moved
  have start : (new native : TpTraffic ι ω).Sound transport mtu := by
    refine ⟨fun made member => absurd member List.not_mem_nil, fun k call found => ?_,
      fun call member => absurd member List.not_mem_nil⟩
    cases found
  exact Transition.invariant_along preserved along
    ⟨start, Link.traced_new address native, rfl, fun _ => rfl⟩ ran

/-! ### What the receiver gets of a call -/

/-- The bytes that a station has sent in messages of certain ids. -/
def bytesOf (source : Endpoint) (ids : MessageId × RequestId) (messages : List Message) : Bytes :=
  ((sentBy source messages).filter fun msg => msg.ids = ids).flatMap Message.payload

theorem filter_addressed (i j : ι) (ids : MessageId × RequestId) (s : Link ι ω) :
    ((s.callsBy j).filterMap (Call.addressed address i)).filter (fun msg => msg.ids = ids) =
      (s.calls.filter fun made => made.key = (j, ids)).filterMap (Call.addressed address i) := by
  rw [Link.callsBy, List.filter_filterMap, List.filterMap_filter, List.filterMap_filter]
  apply List.filterMap_congr
  intro call _
  by_cases mine : call.sender = j
  · by_cases same : call.message.ids = ids
    · have key : call.key = (j, ids) := Prod.ext mine same
      simp only [mine, key, decide_true, ↓reduceIte]
      rw [Call.addressed]
      split
      · exact Option.filter_some_pos (decide_eq_true same)
      · rfl
    · have key : ¬ call.key = (j, ids) := fun equal => same (congrArg Prod.snd equal)
      simp only [mine, key, decide_true, decide_false, ↓reduceIte, Bool.false_eq_true]
      rw [Call.addressed]
      split
      · exact Option.filter_some_neg (decide_eq_false same)
      · rfl
  · have key : ¬ call.key = (j, ids) := fun equal => mine (congrArg Prod.fst equal)
    simp only [mine, key, decide_false, ↓reduceIte, Bool.false_eq_true]

/-- What a call of its own ids has sent to a station is what its transport has taken. -/
theorem bytes_of_alone (distinct : Function.Injective address) (sound : s.Sound transport mtu)
    {k : Nat} {call : TpCall ι} (found : s.calls[k]? = some call) (alone : Alone s.keys k) {i : ι}
    (aimed : call.endpoint.or (transport call.sender).super.remoteEndpoint = some (address i)) :
    bytesOf (address call.sender) call.ids (s.link.calls.filterMap (Call.addressed address i)) =
      call.message.payload.take call.offset := by
  have target (piece : Message) :
      (transport call.sender).super.target piece call.endpoint = some (address i) := by
    rw [Transport.target, aimed]
    rfl
  have made : madeBy transport call call.handed =
      call.handed.map fun piece => ⟨call.sender, piece, address i⟩ := by
    simp only [madeBy, target]
    exact List.map_eq_flatMap.symm
  have arrives : (call.handed.map fun piece => (⟨call.sender, piece, address i⟩ : Call ι)).filterMap
      (Call.addressed address i) = call.handed.map fun piece =>
        { piece with sourceEndpoint := some (address call.sender) } := by
    rw [List.filterMap_map, ← List.filterMap_eq_map]
    exact List.filterMap_congr fun piece _ => if_pos rfl
  have taken : ((sentBy (address call.sender) (s.link.calls.filterMap
      (Call.addressed address i))).filter fun msg => msg.ids = call.ids) =
        call.handed.map fun piece =>
          { piece with sourceEndpoint := some (address call.sender) } := by
    rw [Link.sentBy_addressed distinct, filter_addressed, ← arrives, ← made]
    exact congrArg _ (sound.own k call found alone)
  rw [bytesOf, taken, List.flatMap_map]
  exact (sound.wrote call (List.mem_of_getElem? found)).bytes

theorem bytesOf_prefix {source : Endpoint} {ids : MessageId × RequestId} {xs ys : List Message}
    (front : sentBy source xs <+: sentBy source ys) :
    bytesOf source ids xs <+: bytesOf source ids ys := by
  obtain ⟨rest, whole⟩ := front.filter fun msg => msg.ids = ids
  exact ⟨rest.flatMap Message.payload, by rw [bytesOf, bytesOf, ← whole, List.flatMap_append]⟩

/-- Over a reliable network, with any number of calls of TP managers under way at once: of a call
whose message and request ids no other call of its station has, the receiver that it is sent to
gets the bytes in their order and no others under these ids. What its sync iteration has yielded is
a front of the payload; while it is open, this, what waits in its queue and what is in flight are
all that has been handed over, which after the call has returned is the whole payload. -/
theorem tp_streams (posts : ∀ i, (transport i).Posts outbox)
    (distinct : Function.Injective address) (dependable : Link.Dependable transport outbox)
    (native : ι → ω)
    (along : Transition.Along (step transport address outbox mtu)
      (Obeys (Medium.Reliable Letter.channel)) (new native) acts)
    (ran : Transition.run (step transport address outbox mtu) (new native) acts = some t)
    {k : Nat} {call : TpCall ι} (found : t.calls[k]? = some call)
    (unique : ∀ j other, t.calls[j]? = some other → other.sender = call.sender →
      other.ids = call.ids → j = k) {i : ι}
    (aimed : call.endpoint.or (transport call.sender).super.remoteEndpoint = some (address i)) :
    bytesOf (address call.sender) call.ids (t.link.taken i) <+: call.message.payload ∧
    ((t.link.stations i).closed = false →
      bytesOf (address call.sender) call.ids (t.link.stations i).inbox.syncLine ++
          bytesOf (address call.sender) call.ids
            (t.link.net.inFlight.filterMap (Letter.heard address i)) =
        call.message.payload.take call.offset) ∧
    (call.phase = .returned → call.message.payload.take call.offset = call.message.payload) := by
  obtain ⟨sound, traced, written, complete⟩ :=
    invariants_run posts distinct dependable native along ran
  have all := bytes_of_alone distinct sound found (alone_of_unique found unique) aimed
  refine ⟨?_, fun open_ => ?_, fun ended => ?_⟩
  · have got := Link.returned_of_complete distinct traced written complete i call.sender
    have front : bytesOf (address call.sender) call.ids (t.link.taken i) <+:
        bytesOf (address call.sender) call.ids
          (t.link.calls.filterMap (Call.addressed address i)) := bytesOf_prefix got
    rw [all] at front
    exact front.trans (List.take_prefix _ _)
  · have line := Link.line_of_complete distinct traced written complete i open_ call.sender
    rw [← all, bytesOf, bytesOf, bytesOf, ← List.flatMap_append, ← List.filter_append, line]
  · have wrote := sound.wrote call (List.mem_of_getElem? found)
    exact List.take_of_length_le (wrote.whole ended)

/-- Two calls of one manager take turns. -/
def braided : List (TpAct Bool) :=
  [.other (.start false), .other (.start true),
    .send false { requestId := ⟨1, 1⟩, payload := [1, 2, 3] } none,
    .send false { requestId := ⟨1, 2⟩, payload := [4, 5, 6] } none,
    .turn 0, .turn 1, .turn 1, .turn 0, .turn 0, .other (.arrive true 0), .other (.arrive true 0),
    .other (.arrive true 0), .other (.arrive true 0), .other (.consume true .next),
    .other (.consume true .next), .other (.consume true .next), .other (.consume true .next)]

/-- The first of them at the end of the run. -/
def firstCall : TpCall Bool where
  sender := false
  message := { requestId := ⟨1, 1⟩, payload := [1, 2, 3] }
  endpoint := none
  offset := 4
  phase := .returned
  handed := [{ requestId := ⟨1, 1⟩, payload := [1, 2] }, { requestId := ⟨1, 1⟩, payload := [3] }]

def braidedCalls : List (TpCall Bool) :=
  [firstCall,
    { sender := false
      message := { requestId := ⟨1, 2⟩, payload := [4, 5, 6] }
      endpoint := none
      offset := 4
      handed := [{ requestId := ⟨1, 2⟩, payload := [4, 5] }, { requestId := ⟨1, 2⟩, payload := [6] }] }]

theorem braided_reliable (s : TpTraffic Bool (List Parcel)) :
    Transition.Along (step Link.pair Link.pairAddress id fun _ => 2)
      (Obeys (Medium.Reliable Letter.channel)) s braided := by
  apply Transition.along_of_forall
  intro act member t a one
  have only : a = .arrive 0 := by
    simp only [braided, List.mem_cons, List.not_mem_nil, or_false] at member
    rcases member with rfl | rfl | rfl | rfl | rfl | rfl | rfl | rfl | rfl | rfl | rfl | rfl | rfl |
      rfl | rfl | rfl | rfl <;> cases one <;> rfl
  rw [only]
  exact Medium.reliable_first Letter.channel t.link.net

theorem tp_streams_braided :
    ∃ t call, Transition.run (step Link.pair Link.pairAddress id fun _ => 2) (new fun _ => [])
        braided = some t ∧
      t.calls[0]? = some call ∧ call.phase = .returned ∧
      (t.link.taken true).map Message.payload = [[1, 2], [4, 5], [6], [3]] ∧
      bytesOf (Link.pairAddress false) (⟨0, 0⟩, ⟨1, 1⟩) (t.link.taken true) <+: [1, 2, 3] ∧
      call.message.payload.take call.offset = [1, 2, 3] := by
  have reached : (Transition.run (step Link.pair Link.pairAddress id fun _ => 2) (new fun _ => [])
      braided).map (fun t => ((t.link.taken true).map Message.payload, t.calls)) =
      some ([[1, 2], [4, 5], [6], [3]], braidedCalls) := by
    decide +kernel
  obtain ⟨t, ran, shape⟩ := Option.map_eq_some_iff.mp reached
  obtain ⟨taken, calls⟩ := Prod.mk.inj shape
  have found : t.calls[0]? = some firstCall := congrArg (·[0]?) calls
  have unique : ∀ j other, t.calls[j]? = some other → other.sender = firstCall.sender →
      other.ids = firstCall.ids → j = 0 := by
    intro j other there _ same
    rw [calls] at there
    match j with
    | 0 => rfl
    | 1 =>
        obtain rfl := Option.some.inj there
        exact absurd same (by decide)
    | j + 2 => cases there
  obtain ⟨front, -, whole⟩ := tp_streams Link.pair_posts Link.pairAddress_injective
    Link.pair_dependable (fun _ => []) (braided_reliable _) ran found unique (i := true) rfl
  exact ⟨t, firstCall, ran, found, rfl, taken, front, whole rfl⟩

end Run

end TpTraffic

end OpenSomeIp
