import OpenSomeIp.ServerNode

set_option autoImplicit false

namespace OpenSomeIp

namespace SomeIpServer

open CompositeWorld

variable {ω ε κ ς η γ : Type} (config : ServerSettings) (ext : Option (ServerExtension ω ε κ ς))

/-- The TP manager of a server, on the transport that the server gave it. -/
def tpManager : TpManager (TransportWorld ω) ω κ where
  mtu := config.tpMtu
  transportSend := (config.transport ext).super.send
  cpp := ext.map fun native => native.tpManager.toNativeTp

/-- The statement `payload = self._e2e.protect(payload)`, if E2E is enabled. -/
def protect [E2EObject γ] (payload : Bytes) : Method Exn (ServerWorld ω η γ) Bytes :=
  onCore (Method.zoom e2e (fun e2e self => { self with e2e := e2e })
    (E2EProtection.protectIf payload))

/-- The call `self._tp_manager.send(message)` on a manager that is there; `none` as for
`TpManager.send`. -/
def sendTp (fuel : Nat) (message : Message) (manager : Component ω TpManagerAttributes) :
    Method Exn (ServerWorld ω η γ) (Option Unit) :=
  Method.zoom (fun self => { transport := self.transport, native := manager.native })
    (fun tp self =>
      { self with
        transport := tp.transport
        tpManager := some { manager with native := tp.native } })
    ((tpManager config ext).send fuel message none)

def eventPublisher : EventPublisher ω where
  cpp := ext.map (·.eventPublisher)

def notify (eventId : Int) (payload : Bytes) : Method Exn (ServerWorld ω η γ) Unit :=
  onEvents ((eventPublisher ext).notify eventId payload)

/-- The source's `publish_event`; `none` as for `TpManager.send`. -/
def publishEvent [E2EObject γ] (fuel : Nat) (eventId : Int) (payload : Bytes) :
    Method Exn (ServerWorld ω η γ) (Option Unit) := do
  let payload ← protect payload
  let messageId ← Method.lift (MessageId.ofInts 0 eventId)
  let msg : Message :=
    { messageId := messageId, messageType := .notification, returnCode := .eOk,
      payload := payload }
  let self ← Method.get
  match self.tpManager with
  | some manager =>
      if (payload.length : Int) > config.tpMtu then sendTp config ext fuel msg manager
      else do
        notify ext eventId payload
        pure (some ())
  | none => do
      notify ext eventId payload
      pure (some ())

def setField [E2EObject γ] (eventId : Int) (payload : Bytes) :
    Method Exn (ServerWorld ω η γ) Unit := do
  let payload ← protect payload
  onEvents ((eventPublisher ext).setField eventId payload)

end SomeIpServer

namespace Transport

variable {ω ε κ : Type} {transport : Transport ω ε κ}

/-- The native conversion of a message succeeds. -/
def Converts (transport : Transport ω ε κ) : Prop :=
  ∀ cpp, transport.cpp = some cpp →
    ∀ message s, ∃ cppMsg t, cpp.toCppMessage message s = (.ok cppMsg, t)

/-- Without a peer, a transport refuses each message that is not addressed. -/
theorem send_of_no_target (converts : transport.Converts)
    {message : Message} (unaddressed : transport.target message none = none)
    (w : TransportWorld ω) :
    ∃ text t, transport.send message none w = (.error (.transportError text), t) := by
  cases running : w.running with
  | false =>
      refine ⟨"Transport is not running", w, ?_⟩
      simp only [send, Method.bind_apply, Method.get_apply, running, ↓reduceIte, Method.raise_apply]
  | true =>
      cases present : transport.cpp with
      | none =>
          have refusal : transport.send message none w = (.error (.transportError
              ("Cannot send: opensomeip native transport is not available. " ++
                "See https://github.com/vtz/opensomeip-python#troubleshooting")), w) := by
            simp only [send, Method.bind_apply, Method.get_apply, running, Bool.true_eq_false,
              ↓reduceIte, present, Method.raise_apply]
          exact ⟨_, w, refusal⟩
      | some cpp =>
          obtain ⟨cppMsg, t, converted⟩ := converts cpp present message w.native
          refine ⟨"No target endpoint specified and no remote endpoint configured",
            { w with native := t }, ?_⟩
          simp only [send, Method.bind_apply, Method.get_apply, running, Bool.true_eq_false,
            ↓reduceIte, present, onNative_apply, converted, unaddressed, Method.raise_apply]

end Transport

namespace TpManager

variable {τ ω κ : Type} {manager : TpManager τ ω κ}

/-- The transport refuses every message without a source. -/
def Refused (manager : TpManager τ ω κ) : Prop :=
  ∀ message, message.sourceEndpoint = none → ∀ t,
    ∃ text u, manager.transportSend message none t = (.error (.transportError text), u)

theorem handOver_of_refused (refused : manager.Refused) {message : Message}
    (unaddressed : message.sourceEndpoint = none) (w : TpWorld τ ω) :
    ∃ text u, manager.handOver none message w = (.error (.transportError text), u) := by
  obtain ⟨text, t, raised⟩ := refused message unaddressed w.transport
  refine ⟨text, { w with transport := t }, ?_⟩
  rw [handOver, onTransport, Method.zoom_apply, raised]

/-- What the pure-Python path then raises is a `TransportError`. -/
theorem sendPython_of_refused (refused : manager.Refused) {message : Message}
    (unaddressed : message.sourceEndpoint = none) (fuel : Nat) :
    (manager.sendPython fuel message none).RaisesOnly fun exc => exc.isTransportError = true := by
  have handing (m : Message) (plain : m.sourceEndpoint = none) :
      (manager.handOver none m).RaisesOnly fun exc => exc.isTransportError = true := by
    intro w exc raised
    obtain ⟨text, u, refusal⟩ := handOver_of_refused refused plain w
    rw [refusal] at raised
    obtain rfl : Exn.transportError text = exc := Except.error.inj raised
    rfl
  unfold sendPython
  split
  · exact (handing message unaddressed).bind fun _ => Method.RaisesOnly.pure _
  · have looping : (manager.sendChunks message none fuel 0).RaisesOnly
        fun exc => exc.isTransportError = true := by
      apply Method.RaisesOnly.whileLoop
      intro offset
      exact (handing _ rfl).bind fun _ => Method.RaisesOnly.pure _
    exact looping.bind fun _ => Method.RaisesOnly.pure _

/-- So is what `send` raises, unless it is no `Exception` of a native call. -/
theorem send_of_refused (refused : manager.Refused) {message : Message}
    (unaddressed : message.sourceEndpoint = none) (fuel : Nat) :
    (manager.send fuel message none).RaisesOnly
      fun exc => exc.isTransportError = true ∨ exc.isException = false := by
  have python : (manager.sendPython fuel message none).RaisesOnly
      fun exc => exc.isTransportError = true ∨ exc.isException = false :=
    fun w exc raised => .inl (sendPython_of_refused refused unaddressed fuel w exc raised)
  unfold send
  split
  · exact python
  · apply Method.RaisesOnly.tryExcept
    intro exc
    split
    · exact python
    · rename_i uncaught
      exact Method.RaisesOnly.raise (.inr (Bool.eq_false_iff.mpr uncaught))

end TpManager

namespace SomeIpServer

variable {ω ε κ ς η γ : Type} [E2EObject γ] {config : ServerSettings}
  {ext : ServerExtension ω ε κ ς}

/-- The transport of a server has no peer of its own. -/
theorem target_of_unaddressed (config : ServerSettings) (ext : Option (ServerExtension ω ε κ ς))
    {message : Message} (unaddressed : message.sourceEndpoint = none) :
    (config.transport ext).super.target message none = none := by
  have noRemote : (config.transport ext).super.remoteEndpoint = none := by
    unfold ServerSettings.transport
    split
    · rfl
    · rfl
  rw [Transport.target, noRemote, unaddressed]
  rfl

/-- The server with its counter where `protect` left it. -/
def withE2e (w : ServerWorld ω η γ) (e2e : Option γ) : ServerWorld ω η γ :=
  { w with core := { w.core with e2e := e2e } }

@[simp] theorem protect_apply (payload : Bytes) (w : ServerWorld ω η γ) :
    protect payload w = ((E2EProtection.protectIf payload w.core.e2e).1,
      withE2e w (E2EProtection.protectIf payload w.core.e2e).2) := rfl

theorem protect_of_ok {payload stamped : Bytes} {w : ServerWorld ω η γ} {e2e : Option γ}
    (protects : E2EProtection.protectIf payload w.core.e2e = (.ok stamped, e2e)) :
    protect payload w = (.ok stamped, withE2e w e2e) := by
  rw [protect_apply, protects]

theorem protect_of_error {payload : Bytes} {exc : Exn} {w : ServerWorld ω η γ}
    {e2e : Option γ}
    (raised : E2EProtection.protectIf payload w.core.e2e = (.error exc, e2e)) :
    protect payload w = (.error exc, withE2e w e2e) := by
  rw [protect_apply, raised]

theorem setField_core (ext : Option (ServerExtension ω ε κ ς)) (eventId : Int) (payload : Bytes)
    (w : ServerWorld ω η γ) :
    (setField ext eventId payload w).2.core =
      { w.core with e2e := (E2EProtection.protectIf payload w.core.e2e).2 } := by
  rw [setField]
  cases protects : E2EProtection.protectIf payload w.core.e2e with
  | mk result e2e =>
      cases result with
      | error exc =>
          rw [Method.bind_of_error (protect_of_error protects)]
          rfl
      | ok stamped =>
          rw [Method.bind_of_ok (protect_of_ok protects)]
          rfl

theorem ofInts_of_fits {eventId : Int} (fits : 0 ≤ eventId ∧ eventId ≤ 0xFFFF) :
    ∃ messageId, MessageId.ofInts 0 eventId = .ok messageId := by
  unfold MessageId.ofInts
  rw [if_neg (by omega), if_neg (not_not_intro fits)]
  exact ⟨_, rfl⟩

theorem ofInts_of_not_fits {eventId : Int} (fits : ¬ (0 ≤ eventId ∧ eventId ≤ 0xFFFF)) :
    ∃ text, MessageId.ofInts 0 eventId = .error (.valueError text) := by
  unfold MessageId.ofInts
  rw [if_neg (by omega), if_pos fits]
  exact ⟨_, rfl⟩

section Paths

variable {ext : Option (ServerExtension ω ε κ ς)}

/-- The path of an event to the publisher: TP is off or the protected payload is no longer
than the threshold. -/
theorem publishEvent_of_small {fuel : Nat} {eventId : Int} {payload stamped : Bytes}
    {w : ServerWorld ω η γ} {e2e : Option γ}
    (protects : E2EProtection.protectIf payload w.core.e2e = (.ok stamped, e2e))
    (fits : 0 ≤ eventId ∧ eventId ≤ 0xFFFF)
    (small : w.tpManager.isSome → (stamped.length : Int) ≤ config.tpMtu) :
    publishEvent config ext fuel eventId payload w =
      ((notify ext eventId stamped >>= fun _ => pure (some ())) (withE2e w e2e)) := by
  obtain ⟨messageId, named⟩ := ofInts_of_fits fits
  have same : (withE2e w e2e).tpManager = w.tpManager := rfl
  rw [publishEvent, Method.bind_of_ok (protect_of_ok protects), named, Method.bind_apply,
    Method.lift_apply]
  cases enabled : w.tpManager with
  | none => simp only [Method.bind_apply, Method.get_apply, same, enabled]
  | some manager =>
      have notLarge : ¬ (stamped.length : Int) > config.tpMtu := by
        have short := small (by rw [enabled]; rfl)
        omega
      simp only [Method.bind_apply, Method.get_apply, same, enabled, notLarge, ↓reduceIte]

/-- All that this path leaves behind. -/
theorem publishEvent_state_of_small {fuel : Nat} {eventId : Int} {payload stamped : Bytes}
    {w : ServerWorld ω η γ} {e2e : Option γ}
    (protects : E2EProtection.protectIf payload w.core.e2e = (.ok stamped, e2e))
    (fits : 0 ≤ eventId ∧ eventId ≤ 0xFFFF)
    (small : w.tpManager.isSome → (stamped.length : Int) ≤ config.tpMtu) :
    (publishEvent config ext fuel eventId payload w).2 =
      { withE2e w e2e with
        events := ((eventPublisher ext).notify eventId stamped w.events).2 } := by
  have state : (notify ext eventId stamped (withE2e w e2e)).2 =
      { withE2e w e2e with
        events := ((eventPublisher ext).notify eventId stamped w.events).2 } := rfl
  rw [publishEvent_of_small protects fits small, Method.bind_apply]
  split
  · rename_i value t ran
    rw [ran] at state
    exact state
  · rename_i exc t ran
    rw [ran] at state
    exact state

theorem publishEvent_of_misnamed {fuel : Nat} {eventId : Int} {payload stamped : Bytes}
    {w : ServerWorld ω η γ} {e2e : Option γ}
    (protects : E2EProtection.protectIf payload w.core.e2e = (.ok stamped, e2e))
    (fits : ¬ (0 ≤ eventId ∧ eventId ≤ 0xFFFF)) :
    ∃ text, publishEvent config ext fuel eventId payload w =
      (.error (.valueError text), withE2e w e2e) := by
  obtain ⟨text, refused⟩ := ofInts_of_not_fits fits
  refine ⟨text, ?_⟩
  rw [publishEvent, Method.bind_of_ok (protect_of_ok protects), refused, Method.bind_apply,
    Method.lift_apply]

/-- The other path goes past the publisher. -/
theorem publishEvent_of_large {fuel : Nat} {eventId : Int} {payload stamped : Bytes}
    {w : ServerWorld ω η γ} {e2e : Option γ} {manager : Component ω TpManagerAttributes}
    (protects : E2EProtection.protectIf payload w.core.e2e = (.ok stamped, e2e))
    (fits : 0 ≤ eventId ∧ eventId ≤ 0xFFFF) (enabled : w.tpManager = some manager)
    (large : ¬ (stamped.length : Int) ≤ config.tpMtu) :
    ∃ message : Message, message.sourceEndpoint = none ∧
      publishEvent config ext fuel eventId payload w =
        sendTp config ext fuel message manager (withE2e w e2e) := by
  obtain ⟨messageId, named⟩ := ofInts_of_fits fits
  have same : (withE2e w e2e).tpManager = w.tpManager := rfl
  have more : (stamped.length : Int) > config.tpMtu := by omega
  refine ⟨{ messageId := messageId, messageType := .notification, returnCode := .eOk,
            payload := stamped }, rfl, ?_⟩
  rw [publishEvent, Method.bind_of_ok (protect_of_ok protects), named, Method.bind_apply,
    Method.lift_apply]
  simp only [Method.bind_apply, Method.get_apply, same, enabled, more, ↓reduceIte]

/-- Of the core, `publish_event` changes what protecting the payload changes. -/
theorem publishEvent_core (config : ServerSettings) (ext : Option (ServerExtension ω ε κ ς))
    (fuel : Nat) (eventId : Int) (payload : Bytes) (w : ServerWorld ω η γ) :
    (publishEvent config ext fuel eventId payload w).2.core =
      { w.core with e2e := (E2EProtection.protectIf payload w.core.e2e).2 } := by
  cases protects : E2EProtection.protectIf payload w.core.e2e with
  | mk result e2e =>
      cases result with
      | error exc =>
          rw [publishEvent, Method.bind_of_error (protect_of_error protects)]
          rfl
      | ok stamped =>
          by_cases fits : 0 ≤ eventId ∧ eventId ≤ 0xFFFF
          · by_cases small : w.tpManager.isSome → (stamped.length : Int) ≤ config.tpMtu
            · rw [publishEvent_state_of_small protects fits small]
              rfl
            · obtain ⟨enabled, large⟩ := Classical.not_imp.mp small
              obtain ⟨manager, there⟩ := Option.isSome_iff_exists.mp enabled
              obtain ⟨message, -, path⟩ := publishEvent_of_large protects fits there large
              rw [path]
              rfl
          · obtain ⟨text, path⟩ := publishEvent_of_misnamed protects fits
            rw [path]
            rfl

end Paths

omit [E2EObject γ] in
theorem notify_of_missing {eventId : Int} {payload : Bytes} {w : ServerWorld ω η γ}
    (missing : eventId ∉ w.events.attributes.registeredEvents) :
    notify (some ext) eventId payload w = (.error (EventPublisher.notRegistered eventId), w) := by
  simp only [notify, CompositeWorld.onEvents, Method.zoom_apply, EventPublisher.notify,
    Method.bind_apply, Method.get_apply, missing, not_false_eq_true, ↓reduceIte, Method.raise_apply]

omit [E2EObject γ] in
theorem notify_of_registered {eventId : Int} {payload : Bytes} {w : ServerWorld ω η γ} {native : ω}
    (registered : eventId ∈ w.events.attributes.registeredEvents)
    (ran : ext.eventPublisher.publishEvent eventId payload w.events.native = (.ok (), native)) :
    notify (some ext) eventId payload w =
      (.ok (), { w with events := { w.events with native := native } }) := by
  simp only [notify, CompositeWorld.onEvents, Method.zoom_apply, EventPublisher.notify,
    Method.bind_apply, Method.get_apply, registered, not_true_eq_false, ↓reduceIte,
    eventPublisher, Option.map_some, Component.onNative, ran]

end SomeIpServer

end OpenSomeIp
