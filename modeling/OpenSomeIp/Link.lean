import Mathlib.Logic.Function.Basic
import OpenSomeIp.Lib.Medium
import OpenSomeIp.Posting
import OpenSomeIp.ReceiverLines

set_option autoImplicit false

namespace OpenSomeIp

open Method

/-! ### What a listener does with any native message -/

namespace Bridge

/-- What a listener makes of it. -/
def listened (message : CppMessage) (sender : CppEndpoint) : Except Exn Message := do
  let pyMsg ← fromCppMessage message
  withSource pyMsg sender

section Deliver

variable {s : ReceiverSystem Message} {message : CppMessage} {sender : CppEndpoint}

theorem onMessageReceived_eq (message : CppMessage) (sender : CppEndpoint)
    (w : ReceiverWorld Message) :
    onMessageReceived message sender w =
      match listened message sender with
      | .ok pyMsg => ReceiverWorld.put pyMsg w
      | .error exc => (.error exc, w) := by
  rw [listened]
  cases converted : fromCppMessage message with
  | error exc => simp only [onMessageReceived, Method.bind_apply, Method.lift_apply, converted]; rfl
  | ok plain =>
      simp only [onMessageReceived, Method.bind_apply, Method.lift_apply, converted]
      change _ = match withSource plain sender with
        | .ok pyMsg => ReceiverWorld.put pyMsg w
        | .error exc => (.error exc, w)
      cases withSource plain sender <;> rfl

theorem deliver_of_unheard {exc : Exn} (unheard : listened message sender = .error exc) :
    deliver s message sender = s := by
  have ran := onMessageReceived_eq message sender s.world
  rw [unheard] at ran
  simp only [deliver, ran, ReceiverSystem.syncItems, List.drop_length, List.append_nil]

theorem deliver_of_closed (closed : s.closed = true) : deliver s message sender = s := by
  cases heard : listened message sender with
  | error exc => exact deliver_of_unheard heard
  | ok pyMsg =>
      have ran := onMessageReceived_eq message sender s.world
      rw [heard] at ran
      simp only [ReceiverWorld.put_of_closed closed] at ran
      simp only [deliver, ran, ReceiverSystem.syncItems, List.drop_length, List.append_nil]

theorem deliver_of_open (sound : s.Sound) (open_ : s.closed = false) {pyMsg : Message}
    (heard : listened message sender = .ok pyMsg) :
    deliver s message sender = s.offer false (.message pyMsg) := by
  have ran := onMessageReceived_eq message sender s.world
  rw [heard] at ran
  simp only [ReceiverWorld.put_of_open open_ sound.unbounded] at ran
  have queued := (ReceiverWorld.deliver_frame s.world false (.message pyMsg)).1
  simp only [deliver, ran, queued, ReceiverSystem.offer, SyncQueue.push, ReceiverSystem.syncItems,
    List.drop_left]

theorem sound_deliver (sound : s.Sound) (message : CppMessage) (sender : CppEndpoint) :
    (deliver s message sender).Sound := by
  cases open_ : s.closed with
  | true =>
      rw [deliver_of_closed open_]
      exact sound
  | false =>
      cases heard : listened message sender with
      | error exc =>
          rw [deliver_of_unheard heard]
          exact sound
      | ok pyMsg =>
          rw [deliver_of_open sound open_ heard]
          exact ReceiverSystem.sound_offer sound (.inr ⟨open_, rfl, nofun⟩)

end Deliver

/-- A message sent from an endpoint is heard as it was sent, that endpoint its source. -/
theorem listened_toCpp (msg : Message) (ep : Endpoint) :
    listened (toCppMessage msg) (toCppEndpoint ep) = .ok { msg with sourceEndpoint := some ep } := by
  simp only [listened, fromCppMessage_toCppMessage, bind, Except.bind, withSource,
    fromCppEndpoint_toCppEndpoint, Message.wire]

end Bridge

/-! ### A transport and its receiver at work -/

structure Station (ω : Type) where
  native : ω
  running : Bool := false
  connected : Bool := false
  inbox : ReceiverSystem Message
  sound : inbox.Sound

namespace Station

variable {ω : Type} {s : Station ω} {w : TransportWorld ω}

/-- As `__init__` leaves it. -/
def new (native : ω) : Station ω where
  native := native
  inbox := {}
  sound := ReceiverSystem.sound_init

def closed (s : Station ω) : Bool := s.inbox.closed

/-- What the methods of the transport see of it. -/
def world (s : Station ω) : TransportWorld ω where
  native := s.native
  running := s.running
  connected := s.connected
  receiver := ⟨s.inbox.world, s.sound.unbounded⟩

/-- A method of the transport leaves the receiver alone or closes it. -/
def Tends (s : Station ω) (w : TransportWorld ω) : Prop :=
  w.receiver = s.world.receiver ∨ w.receiver = s.world.receiver.close

/-- The receiver after a method that ended in `w`; it has accepted what came into its queue. -/
def inboxAfter (s : Station ω) (w : TransportWorld ω) : ReceiverSystem Message :=
  { s.inbox with
    world := w.receiver.world
    accepted := s.inbox.accepted ++ w.receiver.items.drop s.inbox.syncItems.length }

theorem inboxAfter_cases (tends : s.Tends w) :
    s.inboxAfter w = s.inbox ∨ s.inboxAfter w = s.inbox.offer true .sentinel := by
  rcases tends with same | closes
  · left
    rw [inboxAfter, same]
    simp only [world, UnboundedReceiver.items, ReceiverSystem.syncItems, List.drop_length,
      List.append_nil]
  · right
    have queued := (ReceiverWorld.deliver_frame s.inbox.world true .sentinel).1
    rw [inboxAfter, closes, UnboundedReceiver.items, UnboundedReceiver.close_world]
    simp only [world, queued, ReceiverSystem.offer, SyncQueue.push, ReceiverSystem.syncItems,
      List.drop_left]

theorem sound_inboxAfter (tends : s.Tends w) : (s.inboxAfter w).Sound := by
  rcases inboxAfter_cases tends with same | closes
  · rw [same]
    exact s.sound
  · rw [closes]
    exact ReceiverSystem.sound_offer s.sound (.inl ⟨rfl, rfl⟩)

def after (s : Station ω) (w : TransportWorld ω) (tends : s.Tends w) : Station ω where
  native := w.native
  running := w.running
  connected := w.connected
  inbox := s.inboxAfter w
  sound := sound_inboxAfter tends

/-- The native layer hands a message to the listener. -/
def deliver (message : CppMessage) (sender : CppEndpoint) (s : Station ω) : Station ω :=
  { s with
    inbox := Bridge.deliver s.inbox message sender
    sound := Bridge.sound_deliver s.sound message sender }

def consume (act : ReceiverAct Message) (s : Station ω) : Option (Station ω) :=
  if ReceiverSystem.isConsumer act then
    (s.inbox.step act).pmap (fun t sound => { s with inbox := t, sound := sound })
      fun t ran => ReceiverSystem.sound_step s.inbox act t s.sound ran
  else none

end Station

section Receivers

variable {ω : Type}

theorem Transport.stop_receiver {transport : Transport ω CppEndpoint CppMessage}
    {w : TransportWorld ω} :
    (transport.stop w).2.receiver = w.receiver ∨
      (transport.stop w).2.receiver = w.receiver.close := by
  cases running : w.running with
  | false =>
      rw [Transport.stop_of_stopped running]
      exact .inl rfl
  | true =>
      by_cases clean : transport.StopsClean w.native
      · obtain ⟨native, ran⟩ := Transport.stop_of_clean running clean
        rw [ran]
        exact .inr rfl
      · obtain ⟨native, exc, ran⟩ := Transport.stop_of_raised running clean
        rw [ran]
        exact .inl rfl

theorem Transport.send_receiver {transport : Transport ω CppEndpoint CppMessage}
    (message : Message) (endpoint : Option Endpoint) (w : TransportWorld ω) :
    (transport.send message endpoint w).2.receiver = w.receiver := by
  have native {α : Type} (body : Method Exn ω α) :
      Keeps (fun u : TransportWorld ω => u.receiver = w.receiver) (Transport.onNative body) :=
    fun _ before => before
  have whole : Keeps (fun u : TransportWorld ω => u.receiver = w.receiver)
      (transport.send message endpoint) := by
    rw [Transport.send]
    refine Keeps.bind (fun _ before => before) ?_
    intro self
    split
    · exact Keeps.raise _
    · split
      · exact Keeps.raise _
      · refine Keeps.bind (native _) ?_
        intro cppMsg
        split
        · exact Keeps.raise _
        · exact (native _).bind fun _ => native _
  exact whole w rfl

theorem AnyTransport.stop_receiver {transport : AnyTransport ω CppEndpoint CppMessage}
    {w : TransportWorld ω} :
    (transport.stop w).2.receiver = w.receiver ∨
      (transport.stop w).2.receiver = w.receiver.close := by
  cases transport with
  | udp transport => exact Transport.stop_receiver
  | tcp transport =>
      cases disconnected : (transport.disconnectNative w.connected w.native).1 with
      | ok value =>
          rw [AnyTransport.stop, TcpTransport.stop_of_disconnected disconnected]
          exact Transport.stop_receiver
      | error exc =>
          rw [AnyTransport.stop, TcpTransport.stop_of_broken disconnected]
          exact .inl rfl

theorem Station.tends_start (transport : AnyTransport ω CppEndpoint CppMessage) (s : Station ω) :
    s.Tends (transport.start s.world).2 := .inl AnyTransport.start_frame.1

theorem Station.tends_stop (transport : AnyTransport ω CppEndpoint CppMessage) (s : Station ω) :
    s.Tends (transport.stop s.world).2 := AnyTransport.stop_receiver

theorem Station.tends_send (transport : AnyTransport ω CppEndpoint CppMessage) (message : Message)
    (endpoint : Option Endpoint) (s : Station ω) :
    s.Tends (transport.super.send message endpoint s.world).2 :=
  .inl (Transport.send_receiver message endpoint s.world)

end Receivers

/-! ### Transports and the network between them -/

/-- A message on the network. -/
structure Letter (ι : Type) where
  sender : ι
  message : CppMessage
  target : CppEndpoint
  deriving DecidableEq, Repr

/-- A call of `send` that returned, and where it sent its message. -/
structure Call (ι : Type) where
  sender : ι
  message : Message
  target : Endpoint
  deriving DecidableEq, Repr

/-- The call that a result of `send` makes one. -/
def Call.made {ι : Type} (i : ι) (message : Message) :
    Except Exn Unit → Option Endpoint → List (Call ι)
  | .ok (), some target => [⟨i, message, target⟩]
  | _, _ => []

def Call.letter {ι : Type} (call : Call ι) : Letter ι where
  sender := call.sender
  message := toCppMessage call.message
  target := toCppEndpoint call.target

/-- One transport for each name, the network, and the calls of `send` so far. -/
structure Link (ι ω : Type) where
  stations : ι → Station ω
  net : Medium (Letter ι) := {}
  calls : List (Call ι) := []

inductive LinkAct (ι : Type) where
  | start (i : ι)
  | stop (i : ι)
  | send (i : ι) (message : Message) (endpoint : Option Endpoint)
  | arrive (i : ι) (place : Nat)
  | lose (place : Nat)
  | again (place : Nat)
  | consume (i : ι) (act : ReceiverAct Message)
  deriving DecidableEq, Repr

variable {ι ω : Type}

/-- What the act does on the network by itself. -/
def LinkAct.transit : LinkAct ι → Option (Medium.Act (Letter ι))
  | .arrive _ place => some (.arrive place)
  | .lose place => some (.lose place)
  | .again place => some (.again place)
  | _ => none

namespace Link

/-- What a call added to the outbox goes on the network. -/
def transmit (outbox : ω → List Parcel) (i : ι) (before after : ω) (net : Medium (Letter ι)) :
    Medium (Letter ι) :=
  ((outbox after).drop (outbox before).length).foldl
    (fun net parcel => net.post ⟨i, parcel.1, parcel.2⟩) net

section Transmit

variable {outbox : ω → List Parcel} {i : ι} {before after : ω} {net : Medium (Letter ι)}

theorem transmit_of_same (same : outbox after = outbox before) :
    transmit outbox i before after net = net := by
  rw [transmit, same, List.drop_length]
  rfl

theorem transmit_of_posted {parcel : Parcel} (posted : outbox after = outbox before ++ [parcel]) :
    transmit outbox i before after net = net.post ⟨i, parcel.1, parcel.2⟩ := by
  rw [transmit, posted, List.drop_left]
  rfl

end Transmit

/-- The native `send_message` of every transport posts when it returns. -/
def Dependable (transport : ι → AnyTransport ω CppEndpoint CppMessage)
    (outbox : ω → List Parcel) : Prop :=
  ∀ i cpp, (transport i).super.cpp = some cpp → ∀ cppMsg cppEp s,
    (cpp.sendMessage cppMsg cppEp s).1 = .ok () →
      outbox (cpp.sendMessage cppMsg cppEp s).2 = outbox s ++ [(cppMsg, cppEp)]

/-- A call that posts nothing has not been made by a dependable transport. -/
theorem not_dependable_of_same {transport : ι → AnyTransport ω CppEndpoint CppMessage}
    {outbox : ω → List Parcel} {i : ι} {cpp : NativeTransport ω CppEndpoint CppMessage}
    (present : (transport i).super.cpp = some cpp) {cppMsg : CppMessage} {cppEp : CppEndpoint}
    {native : ω} (returned : (cpp.sendMessage cppMsg cppEp native).1 = .ok ())
    (same : outbox (cpp.sendMessage cppMsg cppEp native).2 = outbox native) :
    ¬ Dependable transport outbox := by
  intro dependable
  have posted := dependable i cpp present cppMsg cppEp native returned
  rw [same] at posted
  exact List.cons_ne_nil _ _ (List.self_eq_append_right.mp posted)

variable [DecidableEq ι]

def tend (i : ι) (station : Station ω) (s : Link ι ω) : Link ι ω :=
  { s with stations := Function.update s.stations i station }

/-- After a call of a method of station `i` that ended in `w`. -/
def called (outbox : ω → List Parcel) (i : ι) (s : Link ι ω) (w : TransportWorld ω)
    (tends : (s.stations i).Tends w) : Link ι ω :=
  { s.tend i ((s.stations i).after w tends) with
    net := transmit outbox i (s.stations i).native w.native s.net }

/-- After a `send` of station `i`; a call that returned is remembered. -/
def sent (outbox : ω → List Parcel) (i : ι) (message : Message) (target : Option Endpoint)
    (s : Link ι ω) (result : Except Exn Unit) (w : TransportWorld ω)
    (tends : (s.stations i).Tends w) : Link ι ω :=
  { s.called outbox i w tends with calls := s.calls ++ Call.made i message result target }

section Step

variable (transport : ι → AnyTransport ω CppEndpoint CppMessage) (address : ι → Endpoint)
  (outbox : ω → List Parcel)

/-- A message arrives with the address of its sender, where it is addressed to. To a multicast
group it stays in flight here: `Multicast.step` carries it to the members. -/
def step (s : Link ι ω) : LinkAct ι → Option (Link ι ω)
  | .start i => some (s.called outbox i ((transport i).start (s.stations i).world).2
      (Station.tends_start (transport i) (s.stations i)))
  | .stop i => some (s.called outbox i ((transport i).stop (s.stations i).world).2
      (Station.tends_stop (transport i) (s.stations i)))
  | .send i message endpoint => some (s.sent outbox i message
      ((transport i).super.target message endpoint)
      ((transport i).super.send message endpoint (s.stations i).world).1
      ((transport i).super.send message endpoint (s.stations i).world).2
      (Station.tends_send (transport i) message endpoint (s.stations i)))
  | .arrive i place =>
      match s.net.inFlight[place]? with
      | none => none
      | some letter =>
          if letter.target = toCppEndpoint (address i) then
            let heard := (s.stations i).deliver letter.message (toCppEndpoint (address letter.sender))
            some { s.tend i heard with net := s.net.arrive place letter }
          else none
  | .lose place => (s.net.step (.lose place)).map fun net => { s with net := net }
  | .again place => (s.net.step (.again place)).map fun net => { s with net := net }
  | .consume i act => ((s.stations i).consume act).map fun station => s.tend i station

end Step

/-- What a step does to the calls and the network. -/
inductive Moves (transport : ι → AnyTransport ω CppEndpoint CppMessage) (address : ι → Endpoint)
    (outbox : ω → List Parcel) (s : Link ι ω) : LinkAct ι → Link ι ω → Prop
  | tended (act : LinkAct ι) (still : act.transit = none) (i : ι) (w : TransportWorld ω)
      (tends : (s.stations i).Tends w) :
      Moves transport address outbox s act (s.tend i ((s.stations i).after w tends))
  | sent (i : ι) (message : Message) (endpoint : Option Endpoint) (target : Endpoint)
      (w : TransportWorld ω) (tends : (s.stations i).Tends w) (net : Medium (Letter ι))
      (posted : net = s.net ∧ ¬ Dependable transport outbox ∨
        net = s.net.post (Call.letter ⟨i, message, target⟩)) :
      Moves transport address outbox s (.send i message endpoint)
        { s.tend i ((s.stations i).after w tends) with
          net := net, calls := s.calls ++ [⟨i, message, target⟩] }
  | arrive (i : ι) (place : Nat) (letter : Letter ι) (found : s.net.inFlight[place]? = some letter)
      (aimed : letter.target = toCppEndpoint (address i)) :
      Moves transport address outbox s (.arrive i place)
        { s.tend i ((s.stations i).deliver letter.message (toCppEndpoint (address letter.sender)))
          with net := s.net.arrive place letter }
  | transit (act : LinkAct ι) (a : Medium.Act (Letter ι)) (moves : act.transit = some a)
      (faulty : a.loses = true ∨ a.repeats = true) (net : Medium (Letter ι))
      (stepped : s.net.step a = some net) :
      Moves transport address outbox s act { s with net := net }
  | consume (i : ι) (act : ReceiverAct Message) (station : Station ω)
      (consumed : (s.stations i).consume act = some station) :
      Moves transport address outbox s (.consume i act) (s.tend i station)

section Inversion

variable {transport : ι → AnyTransport ω CppEndpoint CppMessage} {address : ι → Endpoint}
  {outbox : ω → List Parcel} {s t : Link ι ω}

theorem called_of_same {i : ι} {w : TransportWorld ω} {tends : (s.stations i).Tends w}
    (same : outbox w.native = outbox (s.stations i).native) :
    s.called outbox i w tends = s.tend i ((s.stations i).after w tends) := by
  rw [called, transmit_of_same same]
  rfl

theorem called_of_posted {i : ι} {w : TransportWorld ω} {tends : (s.stations i).Tends w}
    {parcel : Parcel} (posted : outbox w.native = outbox (s.stations i).native ++ [parcel]) :
    s.called outbox i w tends = { s.tend i ((s.stations i).after w tends) with
      net := s.net.post ⟨i, parcel.1, parcel.2⟩ } := by
  rw [called, transmit_of_posted posted]

theorem moves_sent (posts : ∀ i, (transport i).Posts outbox) {i : ι} {message : Message}
    {endpoint : Option Endpoint} {result : Except Exn Unit} {w : TransportWorld ω}
    (tends : (s.stations i).Tends w)
    (ran : (transport i).super.send message endpoint (s.stations i).world = (result, w)) :
    Moves transport address outbox s (.send i message endpoint)
      (s.sent outbox i message ((transport i).super.target message endpoint) result w tends) := by
  have native := AnyTransport.super_posts (posts i)
  rcases Transport.send_cases native message endpoint (s.stations i).world with
    ⟨exc, raised⟩ | ⟨cpp, target, present, aimed, called⟩
  · obtain ⟨rfl, rfl⟩ := Prod.mk.inj (raised.symm.trans ran)
    rw [sent, called_of_same rfl, Call.made, List.append_nil]
    · exact .tended _ rfl i _ tends
    · intro _ returned
      cases returned
  · rw [called, Transport.onNative_apply] at ran
    have posted := (native cpp present).sendMessage (toCppMessage message) (toCppEndpoint target)
      (s.stations i).native
    cases sends : cpp.sendMessage (toCppMessage message) (toCppEndpoint target)
        (s.stations i).native with
    | mk outcome after =>
        have ended : (cpp.sendMessage (toCppMessage message) (toCppEndpoint target)
          (s.stations i).world.native) = (outcome, after) := sends
        rw [ended] at ran
        obtain ⟨rfl, rfl⟩ := Prod.mk.inj ran
        rw [sends] at posted
        rw [aimed]
        cases outcome with
        | error exc =>
            rcases posted with same | ⟨returned, _⟩
            · rw [sent, called_of_same same, Call.made, List.append_nil]
              · exact .tended _ rfl i _ tends
              · intro _ returned
                cases returned
            · cases returned
        | ok value =>
            have made : Call.made i message (.ok value) (some target) = [⟨i, message, target⟩] := rfl
            rcases posted with same | ⟨_, one⟩
            · have unsure := not_dependable_of_same present (by rw [sends]) (by rw [sends]; exact same)
              rw [sent, called_of_same same, made]
              exact .sent i message endpoint target _ tends _ (.inl ⟨rfl, unsure⟩)
            · rw [sent, called_of_posted one, made]
              exact .sent i message endpoint target _ tends _ (.inr rfl)

theorem moves_of_step (posts : ∀ i, (transport i).Posts outbox) {act : LinkAct ι}
    (stepped : s.step transport address outbox act = some t) :
    Moves transport address outbox s act t := by
  cases act with
  | start i =>
      obtain rfl := Option.some.inj stepped
      rw [called_of_same (AnyTransport.start_outbox (posts i))]
      exact .tended _ rfl i _ _
  | stop i =>
      obtain rfl := Option.some.inj stepped
      rw [called_of_same (AnyTransport.stop_outbox (posts i))]
      exact .tended _ rfl i _ _
  | send i message endpoint =>
      obtain rfl := Option.some.inj stepped
      exact moves_sent posts _ rfl
  | arrive i place =>
      simp only [step] at stepped
      split at stepped
      · cases stepped
      · rename_i letter found
        split at stepped
        · rename_i aimed
          obtain rfl := Option.some.inj stepped
          exact .arrive i place letter found aimed
        · cases stepped
  | lose place =>
      obtain ⟨net, lost, rfl⟩ := Option.map_eq_some_iff.mp stepped
      exact .transit _ (.lose place) rfl (.inl rfl) net lost
  | again place =>
      obtain ⟨net, copied, rfl⟩ := Option.map_eq_some_iff.mp stepped
      exact .transit _ (.again place) rfl (.inr rfl) net copied
  | consume i act =>
      obtain ⟨station, consumed, rfl⟩ := Option.map_eq_some_iff.mp stepped
      exact .consume i act station consumed

end Inversion

@[simp] theorem tend_self (s : Link ι ω) (i : ι) (station : Station ω) :
    (s.tend i station).stations i = station := by
  simp only [tend, Function.update_self]

theorem tend_of_ne {i j : ι} (other : j ≠ i) (s : Link ι ω) (station : Station ω) :
    (s.tend i station).stations j = s.stations j := by
  simp only [tend, Function.update_of_ne other]

theorem tend_all {s : Link ι ω} {i : ι} {station : Station ω} {holds : ι → Station ω → Prop}
    (others : ∀ j, holds j (s.stations j)) (one : holds i station) (j : ι) :
    holds j ((s.tend i station).stations j) := by
  by_cases same : j = i
  · subst same
    rw [tend_self]
    exact one
  · rw [tend_of_ne same]
    exact others j

end Link

end OpenSomeIp
