import OpenSomeIp.Component

set_option autoImplicit false

namespace OpenSomeIp

/-- Whether `except TransportError` catches it. -/
def Exn.isTransportError : Exn → Bool
  | .transportError _ => true
  | _ => false

/-- What the two native transports have in common; `ε` are their endpoints and `κ` their
messages. `start` returns the `name` of its result, or `none` where that has no such attribute. -/
structure NativeTransport (ω ε κ : Type) where
  toCppEndpoint : Endpoint → Method Exn ω ε
  toCppMessage : Message → Method Exn ω κ
  start : Method Exn ω (Option String)
  stop : Method Exn ω Unit
  sendMessage : κ → ε → Method Exn ω Unit

structure NativeUdpTransport (ω ε κ : Type) extends NativeTransport ω ε κ where
  joinMulticastGroup : String → Method Exn ω Unit

structure NativeTcpTransport (ω ε κ : Type) extends NativeTransport ω ε κ where
  initializeTransport : ε → Method Exn ω Unit
  connect : ε → Method Exn ω Unit
  disconnect : Method Exn ω Unit

/-- What `__init__` settles; `cpp` is `none` where the extension is missing. -/
structure Transport (ω ε κ : Type) where
  localEndpoint : Endpoint
  remoteEndpoint : Option Endpoint := none
  cpp : Option (NativeTransport ω ε κ) := none

/-- What calls change. Only a `TcpTransport` is ever connected. -/
structure TransportWorld (ω : Type) where
  native : ω
  running : Bool := false
  connected : Bool := false
  receiver : UnboundedReceiver Message := .new

namespace Transport

variable {ω ε κ : Type} (transport : Transport ω ε κ)

def onNative {α : Type} (body : Method Exn ω α) : Method Exn (TransportWorld ω) α :=
  Method.zoom TransportWorld.native (fun native self => { self with native := native }) body

/-- What `start` makes of the result of the native `start`. -/
def checkStarted : Option String → Except Exn Unit
  | none => .ok ()
  | some name =>
      if name ≠ "SUCCESS" then
        .error (.transportError ("Native transport failed to start: " ++ name))
      else .ok ()

/-- The `try` statement of `start`. -/
def startNative (cpp : NativeTransport ω ε κ) : Method Exn ω Unit :=
  Method.tryExcept
    (do
      let result ← cpp.start
      Method.lift (checkStarted result))
    fun exc =>
      if exc.isTransportError then Method.raise exc
      else if exc.isException then pure ()
      else Method.raise exc

def start : Method Exn (TransportWorld ω) Unit := do
  let self ← Method.get
  if self.running then pure ()
  else do
    match transport.cpp with
    | none => pure ()
    | some cpp => onNative (startNative cpp)
    Method.modify fun self => { self with running := true }

def stop : Method Exn (TransportWorld ω) Unit := do
  let self ← Method.get
  if self.running = false then pure ()
  else do
    Method.modify fun self => { self with running := false }
    match transport.cpp with
    | none => pure ()
    | some cpp => onNative cpp.stop
    Method.modify fun self => { self with receiver := self.receiver.close }

/-- Where a message goes: the argument, the configured peer, or whoever sent it. -/
def target (message : Message) (endpoint : Option Endpoint) : Option Endpoint :=
  (endpoint.or transport.remoteEndpoint).or message.sourceEndpoint

def send (message : Message) (endpoint : Option Endpoint) : Method Exn (TransportWorld ω) Unit := do
  let self ← Method.get
  if self.running = false then Method.raise (.transportError "Transport is not running")
  else
    match transport.cpp with
    | none =>
        Method.raise (.transportError
          ("Cannot send: opensomeip native transport is not available. " ++
            "See https://github.com/vtz/opensomeip-python#troubleshooting"))
    | some cpp => do
        let cppMsg ← onNative (cpp.toCppMessage message)
        match transport.target message endpoint with
        | none =>
            Method.raise (.transportError
              "No target endpoint specified and no remote endpoint configured")
        | some target => do
            let cppEp ← onNative (cpp.toCppEndpoint target)
            onNative (cpp.sendMessage cppMsg cppEp)

end Transport

structure UdpTransport (ω ε κ : Type) where
  localEndpoint : Endpoint
  remoteEndpoint : Option Endpoint := none
  multicastGroup : Option String := none
  cpp : Option (NativeUdpTransport ω ε κ) := none

namespace UdpTransport

variable {ω ε κ : Type} (transport : UdpTransport ω ε κ)

/-- What it inherits. -/
def super : Transport ω ε κ where
  localEndpoint := transport.localEndpoint
  remoteEndpoint := transport.remoteEndpoint
  cpp := transport.cpp.map (·.toNativeTransport)

/-- What `start` does behind `super().start()`. -/
def joinNative : Method Exn ω Unit :=
  match transport.cpp, transport.multicastGroup with
  | some cpp, some group => cpp.joinMulticastGroup group
  | _, _ => pure ()

def start : Method Exn (TransportWorld ω) Unit := do
  transport.super.start
  Transport.onNative transport.joinNative

def stop : Method Exn (TransportWorld ω) Unit := transport.super.stop

end UdpTransport

structure TcpTransport (ω ε κ : Type) where
  localEndpoint : Endpoint
  remoteEndpoint : Option Endpoint := none
  cpp : Option (NativeTcpTransport ω ε κ) := none

namespace TcpTransport

variable {ω ε κ : Type} (transport : TcpTransport ω ε κ)

/-- What it inherits. -/
def super : Transport ω ε κ where
  localEndpoint := transport.localEndpoint
  remoteEndpoint := transport.remoteEndpoint
  cpp := transport.cpp.map (·.toNativeTransport)

/-- The native calls of `connect`. -/
def connectNative (remote : Endpoint) : Method Exn ω Unit :=
  match transport.cpp with
  | none => pure ()
  | some cpp => do
      let cppEp ← cpp.toCppEndpoint remote
      RpcClient.suppress (cpp.connect cppEp)

def connect : Method Exn (TransportWorld ω) Unit :=
  match transport.remoteEndpoint with
  | none => Method.raise (.transportError "No remote endpoint configured")
  | some remote => do
      Transport.onNative (transport.connectNative remote)
      Method.modify fun self => { self with connected := true }

/-- What `start` does before `super().start()`. -/
def prepareNative : Method Exn ω Unit :=
  match transport.cpp with
  | none => pure ()
  | some cpp => do
      let cppLocal ← cpp.toCppEndpoint transport.localEndpoint
      RpcClient.suppress (cpp.initializeTransport cppLocal)

def start : Method Exn (TransportWorld ω) Unit := do
  Transport.onNative transport.prepareNative
  transport.super.start
  if transport.remoteEndpoint.isSome then transport.connect else pure ()

/-- What `stop` does before `super().stop()`. -/
def disconnectNative (wasConnected : Bool) : Method Exn ω Unit :=
  match transport.cpp, wasConnected with
  | some cpp, true => RpcClient.suppress cpp.disconnect
  | _, _ => pure ()

def stop : Method Exn (TransportWorld ω) Unit := do
  let self ← Method.get
  let wasConnected := self.connected
  Method.modify fun self => { self with connected := false }
  Transport.onNative (transport.disconnectNative wasConnected)
  transport.super.stop

end TcpTransport

namespace Transport

variable {ω ε κ : Type} {transport : Transport ω ε κ} {w : TransportWorld ω}

@[simp] theorem onNative_apply {α : Type} (body : Method Exn ω α) (w : TransportWorld ω) :
    onNative body w = ((body w.native).1, { w with native := (body w.native).2 }) := rfl

/-- The outcomes of the native `start` after which the transport counts as running: no
result but SUCCESS, and no exception that `start` lets through. -/
def NativeUp : Except Exn (Option String) → Prop
  | .ok none => True
  | .ok (some name) => name = "SUCCESS"
  | .error exc => exc.isTransportError = false ∧ exc.isException = true

/-- The native transport, if there is one, comes up. -/
def ComesUp (transport : Transport ω ε κ) (s : ω) : Prop :=
  ∀ cpp, transport.cpp = some cpp → NativeUp (cpp.start s).1

/-- The native transport, if there is one, stops without an exception. -/
def StopsClean (transport : Transport ω ε κ) (s : ω) : Prop :=
  ∀ cpp exc, transport.cpp = some cpp → (cpp.stop s).1 ≠ .error exc

/-- The native transport after its `start`. -/
def started (transport : Transport ω ε κ) (s : ω) : ω :=
  match transport.cpp with
  | none => s
  | some cpp => (cpp.start s).2

theorem startNative_of_up {cpp : NativeTransport ω ε κ} {s : ω} (up : NativeUp (cpp.start s).1) :
    startNative cpp s = (.ok (), (cpp.start s).2) := by
  cases ran : cpp.start s with
  | mk result after =>
      rw [ran] at up
      cases result with
      | ok name =>
          have passed : checkStarted name = .ok () := by
            cases name with
            | none => rfl
            | some name =>
                rw [checkStarted, if_neg]
                exact not_not_intro up
          apply Method.tryExcept_of_ok
          rw [Method.bind_of_ok ran, Method.lift_apply, passed]
      | error exc =>
          obtain ⟨other, caught⟩ : exc.isTransportError = false ∧ exc.isException = true := up
          rw [startNative, Method.tryExcept_of_error (Method.bind_of_error ran _)]
          simp only [other, caught, Bool.false_eq_true, ↓reduceIte]
          rfl

theorem startNative_of_down {cpp : NativeTransport ω ε κ} {s : ω}
    (down : ¬ NativeUp (cpp.start s).1) :
    ∃ exc, startNative cpp s = (.error exc, (cpp.start s).2) := by
  cases ran : cpp.start s with
  | mk result after =>
      rw [ran] at down
      cases result with
      | ok name =>
          cases name with
          | none => exact absurd trivial down
          | some name =>
              have failure : name ≠ "SUCCESS" := down
              have failed : (cpp.start >>= fun result => Method.lift (checkStarted result)) s =
                  (.error (.transportError ("Native transport failed to start: " ++ name)),
                    after) := by
                rw [Method.bind_of_ok ran, Method.lift_apply, checkStarted, if_pos failure]
              refine ⟨.transportError ("Native transport failed to start: " ++ name), ?_⟩
              rw [startNative, Method.tryExcept_of_error failed]
              rfl
      | error exc =>
          refine ⟨exc, ?_⟩
          rw [startNative, Method.tryExcept_of_error (Method.bind_of_error ran _)]
          by_cases transportError : exc.isTransportError = true
          · rw [if_pos transportError]
            rfl
          · have uncaught : ¬ exc.isException = true := by
              intro caught
              exact down ⟨Bool.eq_false_iff.mpr transportError, caught⟩
            rw [if_neg transportError, if_neg uncaught]
            rfl

theorem start_of_running (running : w.running = true) : transport.start w = (.ok (), w) := by
  simp only [start, Method.bind_apply, Method.get_apply, running, ↓reduceIte, Method.pure_apply]

theorem start_of_up (stopped : w.running = false) (up : transport.ComesUp w.native) :
    transport.start w =
      (.ok (), { w with native := transport.started w.native, running := true }) := by
  cases present : transport.cpp with
  | none =>
      simp only [start, Method.bind_apply, Method.get_apply, stopped, Bool.false_eq_true,
        ↓reduceIte, present, started]
      rfl
  | some cpp =>
      simp only [start, Method.bind_apply, Method.get_apply, stopped, Bool.false_eq_true,
        ↓reduceIte, present, started, onNative_apply, startNative_of_up (up cpp present),
        Method.modify_apply]

/-- A start that raises has not made the transport run. -/
theorem start_of_down (stopped : w.running = false) (down : ¬ transport.ComesUp w.native) :
    ∃ exc, transport.start w =
      (.error exc, { w with native := transport.started w.native }) := by
  simp only [ComesUp, not_forall] at down
  obtain ⟨cpp, present, down⟩ := down
  obtain ⟨exc, raised⟩ := startNative_of_down down
  refine ⟨exc, ?_⟩
  simp only [start, Method.bind_apply, Method.get_apply, stopped, Bool.false_eq_true,
    ↓reduceIte, present, started, onNative_apply, raised]

theorem stop_of_stopped (stopped : w.running = false) : transport.stop w = (.ok (), w) := by
  simp only [stop, Method.bind_apply, Method.get_apply, stopped, ↓reduceIte, Method.pure_apply]

theorem stop_of_clean (running : w.running = true) (clean : transport.StopsClean w.native) :
    ∃ native, transport.stop w =
      (.ok (), { w with native := native, running := false, receiver := w.receiver.close }) := by
  cases present : transport.cpp with
  | none =>
      refine ⟨w.native, ?_⟩
      simp only [stop, Method.bind_apply, Method.get_apply, running, Bool.true_eq_false,
        ↓reduceIte, present]
      rfl
  | some cpp =>
      cases ran : cpp.stop w.native with
      | mk result native =>
          refine ⟨native, ?_⟩
          cases result with
          | ok value =>
              simp only [stop, Method.bind_apply, Method.get_apply, running, Bool.true_eq_false,
                ↓reduceIte, present, Method.modify_apply, onNative_apply, ran]
          | error exc =>
              have silent := clean cpp exc present
              rw [ran] at silent
              exact absurd rfl silent

/-- Where the native `stop` raises, the receiver is never closed. -/
theorem stop_of_raised (running : w.running = true) (raises : ¬ transport.StopsClean w.native) :
    ∃ native exc, transport.stop w = (.error exc, { w with native := native, running := false }) := by
  simp only [StopsClean, not_forall, ne_eq, not_not] at raises
  obtain ⟨cpp, exc, present, raised⟩ := raises
  cases ran : cpp.stop w.native with
  | mk result native =>
      rw [ran] at raised
      refine ⟨native, exc, ?_⟩
      simp only [stop, Method.bind_apply, Method.get_apply, running, Bool.true_eq_false,
        ↓reduceIte, present, Method.modify_apply, onNative_apply, ran, raised]

theorem stop_running : (transport.stop w).2.running = false := by
  cases running : w.running with
  | false =>
      rw [stop_of_stopped running]
      exact running
  | true =>
      by_cases clean : transport.StopsClean w.native
      · obtain ⟨native, ran⟩ := stop_of_clean running clean
        rw [ran]
      · obtain ⟨native, exc, ran⟩ := stop_of_raised running clean
        rw [ran]

theorem stop_connected : (transport.stop w).2.connected = w.connected := by
  cases running : w.running with
  | false => rw [stop_of_stopped running]
  | true =>
      by_cases clean : transport.StopsClean w.native
      · obtain ⟨native, ran⟩ := stop_of_clean running clean
        rw [ran]
      · obtain ⟨native, exc, ran⟩ := stop_of_raised running clean
        rw [ran]

end Transport

end OpenSomeIp
