import OpenSomeIp.E2eLedger
import OpenSomeIp.Recording
import OpenSomeIp.ServerSystem

set_option autoImplicit false

namespace OpenSomeIp

open E2EProtection

namespace TpManager

variable {τ ω κ : Type} {manager : TpManager τ ω κ} {holds : τ → Prop}

/-- What the transport keeps at each message without a source. -/
def SendsKeep (manager : TpManager τ ω κ) (holds : τ → Prop) : Prop :=
  ∀ message : Message, message.sourceEndpoint = none →
    Method.Keeps holds (manager.transportSend message none)

theorem onNative_keeps {α : Type} (body : Method Exn ω α) :
    Method.Keeps (fun w : TpWorld τ ω => holds w.transport) (onNative body) := by
  intro w before
  exact before

theorem handOver_keeps (sends : manager.SendsKeep holds) {message : Message}
    (unaddressed : message.sourceEndpoint = none) :
    Method.Keeps (fun w : TpWorld τ ω => holds w.transport) (manager.handOver none message) := by
  intro w before
  exact sends message unaddressed w.transport before

theorem sendPython_keeps (sends : manager.SendsKeep holds) {message : Message}
    (unaddressed : message.sourceEndpoint = none) (fuel : Nat) :
    Method.Keeps (fun w : TpWorld τ ω => holds w.transport)
      (manager.sendPython fuel message none) := by
  unfold sendPython
  split
  · exact (handOver_keeps sends unaddressed).bind fun _ => Method.Keeps.pure _
  · have looping : Method.Keeps (fun w : TpWorld τ ω => holds w.transport)
        (manager.sendChunks message none fuel 0) := by
      apply Method.Keeps.whileLoop
      intro offset
      exact (handOver_keeps sends rfl).bind fun _ => Method.Keeps.pure _
    exact looping.bind fun _ => Method.Keeps.pure _

theorem sendSegments_keeps (sends : manager.SendsKeep holds) (cpp : NativeTp ω κ)
    (message : Message) (transferId count : Nat) :
    Method.Keeps (fun w : TpWorld τ ω => holds w.transport)
      (manager.sendSegments cpp message none transferId count) := by
  induction count with
  | zero => exact Method.Keeps.pure ()
  | succ count ih =>
      apply (onNative_keeps _).bind
      rintro ⟨result, payload⟩
      dsimp only
      split
      · exact Method.Keeps.pure ()
      · exact (handOver_keeps sends rfl).bind fun _ => ih

theorem sendNative_keeps (sends : manager.SendsKeep holds) (cpp : NativeTp ω κ) {message : Message}
    (unaddressed : message.sourceEndpoint = none) :
    Method.Keeps (fun w : TpWorld τ ω => holds w.transport)
      (manager.sendNative cpp message none) := by
  apply (onNative_keeps _).bind
  intro cppMsg
  apply (onNative_keeps _).bind
  intro needed
  split
  · apply (onNative_keeps _).bind
    rintro ⟨result, transferId⟩
    dsimp only
    exact (Method.Keeps.lift _).bind fun quotient =>
      sendSegments_keeps sends cpp message transferId _
  · exact handOver_keeps sends unaddressed

/-- All the segments of a message keep it too, on either path. -/
theorem send_keeps (sends : manager.SendsKeep holds) {message : Message}
    (unaddressed : message.sourceEndpoint = none) (fuel : Nat) :
    Method.Keeps (fun w : TpWorld τ ω => holds w.transport) (manager.send fuel message none) := by
  have python := sendPython_keeps sends unaddressed fuel
  unfold send
  split
  · exact python
  · apply Method.Keeps.tryExcept
    · exact (sendNative_keeps sends _ unaddressed).bind fun _ => Method.Keeps.pure _
    · intro exc
      split
      · exact python
      · exact Method.Keeps.raise exc

end TpManager

namespace Transport

variable {ω ε κ : Type} {transport : Transport (ω × List Bytes) ε κ} {log : List Bytes}

/-- A message without a target gets as far as its conversion. -/
theorem send_keeps_log
    (converts : ∀ cpp, transport.cpp = some cpp → ∀ message,
      Method.Keeps (fun s => s.2 = log) (cpp.toCppMessage message))
    {message : Message} (unaddressed : transport.target message none = none) :
    Method.Keeps (fun w => w.native.2 = log) (transport.send message none) := by
  intro w before
  cases running : w.running with
  | false =>
      simp only [send, Method.bind_apply, Method.get_apply, running, ↓reduceIte,
        Method.raise_apply]
      exact before
  | true =>
      cases present : transport.cpp with
      | none =>
          simp only [send, Method.bind_apply, Method.get_apply, running, Bool.true_eq_false,
            ↓reduceIte, present, Method.raise_apply]
          exact before
      | some cpp =>
          have converted := converts cpp present message w.native before
          simp only [send, Method.bind_apply, Method.get_apply, running, Bool.true_eq_false,
            ↓reduceIte, present, onNative_apply, unaddressed]
          cases ran : cpp.toCppMessage message w.native with
          | mk result native =>
              rw [ran] at converted
              cases result with
              | ok cppMsg => exact converted
              | error exc => exact converted

end Transport

namespace EventPublisher

variable {ω : Type}

def recorded (publisher : EventPublisher ω) : EventPublisher (ω × List Bytes) where
  cpp := publisher.cpp.map NativeEventPublisher.recorded

/-- The event is registered, and the native call returns. -/
def Publishes (publisher : EventPublisher ω) (eventId : Int) (data : Bytes)
    (w : Component (ω × List Bytes) EventPublisherAttributes) : Prop :=
  eventId ∈ w.attributes.registeredEvents ∧ ∃ cpp, publisher.cpp = some cpp ∧
    (cpp.publishEvent eventId data w.native.1).1 = .ok ()

/-- The native call for a field returns; it needs no registration. -/
def PublishesField (publisher : EventPublisher ω) (eventId : Int) (data : Bytes)
    (w : Component (ω × List Bytes) EventPublisherAttributes) : Prop :=
  ∃ cpp, publisher.cpp = some cpp ∧ (cpp.publishField eventId data w.native.1).1 = .ok ()

variable {publisher : EventPublisher ω} {eventId : Int} {data : Bytes}
  {w : Component (ω × List Bytes) EventPublisherAttributes}

theorem recorded_present {cpp : NativeEventPublisher ω} (present : publisher.cpp = some cpp) :
    publisher.recorded.cpp = some cpp.recorded := by
  rw [recorded, present, Option.map_some]

theorem notify_log_of_publishes (publishes : publisher.Publishes eventId data w) :
    (publisher.recorded.notify eventId data w).2.native.2 = w.native.2 ++ [data] := by
  obtain ⟨registered, cpp, present, returned⟩ := publishes
  have noted : cpp.recorded.publishEvent eventId data w.native = (.ok (), _) :=
    Method.noting_of_ok returned
  simp only [notify, Method.bind_apply, Method.get_apply, registered, not_true_eq_false,
    ↓reduceIte, recorded_present present, Component.onNative, Method.zoom_apply, noted]

theorem notify_log_of_not_publishes (fails : ¬ publisher.Publishes eventId data w) :
    (publisher.recorded.notify eventId data w).2.native.2 = w.native.2 := by
  by_cases registered : eventId ∈ w.attributes.registeredEvents
  · cases present : publisher.cpp with
    | none =>
        have missing : publisher.recorded.cpp = none := by
          rw [recorded, present, Option.map_none]
        simp only [notify, Method.bind_apply, Method.get_apply, registered, not_true_eq_false,
          ↓reduceIte, missing, Method.raise_apply]
    | some cpp =>
        cases returned : (cpp.publishEvent eventId data w.native.1).1 with
        | ok value => exact absurd ⟨registered, cpp, present, returned⟩ fails
        | error exc =>
            have noted : cpp.recorded.publishEvent eventId data w.native = (.error exc, _) :=
              Method.noting_of_error returned
            simp only [notify, Method.bind_apply, Method.get_apply, registered, not_true_eq_false,
              ↓reduceIte, recorded_present present, Component.onNative, Method.zoom_apply, noted]
  · simp only [notify, Method.bind_apply, Method.get_apply, registered, not_false_eq_true,
      ↓reduceIte, Method.raise_apply]

theorem setField_log_of_publishes (publishes : publisher.PublishesField eventId data w) :
    (publisher.recorded.setField eventId data w).2.native.2 = w.native.2 ++ [data] := by
  obtain ⟨cpp, present, returned⟩ := publishes
  have noted : cpp.recorded.publishField eventId data w.native = (.ok (), _) :=
    Method.noting_of_ok returned
  simp only [setField, recorded_present present, Component.onNative, Method.zoom_apply, noted]

theorem setField_log_of_not_publishes (fails : ¬ publisher.PublishesField eventId data w) :
    (publisher.recorded.setField eventId data w).2.native.2 = w.native.2 := by
  cases present : publisher.cpp with
  | none =>
      have missing : publisher.recorded.cpp = none := by
        rw [recorded, present, Option.map_none]
      simp only [setField, missing, Method.raise_apply]
  | some cpp =>
      cases returned : (cpp.publishField eventId data w.native.1).1 with
      | ok value => exact absurd ⟨cpp, present, returned⟩ fails
      | error exc =>
          have noted : cpp.recorded.publishField eventId data w.native = (.error exc, _) :=
            Method.noting_of_error returned
          simp only [setField, recorded_present present, Component.onNative, Method.zoom_apply,
            noted]

end EventPublisher

namespace SomeIpServer

variable {ω ε κ ς η : Type} {config : ServerSettings} {ext : Option (ServerExtension ω ε κ ς)}
  {w : ServerWorld (ω × List Bytes) η} {eventId : Int} {payload stamped : Bytes}
  {e2e : Option E2EProtection} {fuel : Nat}

theorem eventPublisher_recorded :
    eventPublisher (ext.map ServerExtension.recorded) = (eventPublisher ext).recorded := by
  cases ext with
  | none => rfl
  | some native => rfl

/-- The conversion of a message is nothing that is handed on. -/
theorem transport_converts {log : List Bytes}
    {cpp : NativeTransport (ω × List Bytes) ε (κ × Bytes)}
    (present : (config.transport (ext.map ServerExtension.recorded)).super.cpp = some cpp)
    (message : Message) : Method.Keeps (fun s => s.2 = log) (cpp.toCppMessage message) := by
  have converting (native : NativeTransport ω ε κ) :
      Method.Keeps (fun s => s.2 = log) (native.recorded.toCppMessage message) :=
    (Method.beside_keeps _ log).bind fun _ => Method.Keeps.pure _
  cases ext with
  | none =>
      unfold ServerSettings.transport at present
      split at present
      · cases present
      · cases present
  | some native =>
      unfold ServerSettings.transport at present
      split at present
      · obtain rfl := Option.some.inj present
        exact converting native.tcpTransport.toNativeTransport
      · obtain rfl := Option.some.inj present
        exact converting native.udpTransport.toNativeTransport

/-- The way over TP hands nothing on: the transport has no peer. -/
theorem sendTp_log {message : Message} (unaddressed : message.sourceEndpoint = none)
    (manager : Component (ω × List Bytes) TpManagerAttributes) :
    (sendTp config (ext.map ServerExtension.recorded) fuel message manager w).2.transport.native.2 =
      w.transport.native.2 := by
  have sends : (tpManager config (ext.map ServerExtension.recorded)).SendsKeep
      fun t => t.native.2 = w.transport.native.2 := by
    intro m plain
    apply Transport.send_keeps_log
    · intro cpp present m
      exact transport_converts present m
    · exact target_of_unaddressed config _ plain
  exact TpManager.send_keeps sends unaddressed fuel
    { transport := w.transport, native := manager.native } rfl

/-- On the other paths nobody takes anything. -/
theorem publishEvent_logs_of_not_small
    (protects : protectIf payload w.core.e2e = (.ok stamped, e2e))
    (other : ¬ ((0 ≤ eventId ∧ eventId ≤ 0xFFFF) ∧
      (w.tpManager.isSome → (stamped.length : Int) ≤ config.tpMtu))) {t : ServerWorld _ η}
    (ran : (publishEvent config (ext.map ServerExtension.recorded) fuel eventId payload w).2 = t) :
    t.events = w.events ∧ t.transport.native.2 = w.transport.native.2 := by
  by_cases fits : 0 ≤ eventId ∧ eventId ≤ 0xFFFF
  · obtain ⟨enabled, large⟩ := Classical.not_imp.mp (not_and.mp other fits)
    obtain ⟨manager, there⟩ := Option.isSome_iff_exists.mp enabled
    obtain ⟨message, plain, path⟩ := publishEvent_of_large protects fits there large
    rw [path] at ran
    obtain rfl := ran
    exact ⟨rfl, sendTp_log plain manager⟩
  · obtain ⟨text, path⟩ := publishEvent_of_misnamed protects fits
    rw [path] at ran
    obtain rfl := ran
    exact ⟨rfl, rfl⟩

/-- Nothing fails on the way of a stamped event to the native publisher. -/
def Reaches (config : ServerSettings) (ext : Option (ServerExtension ω ε κ ς))
    (w : ServerWorld (ω × List Bytes) η) (eventId : Int) (stamped : Bytes) : Prop :=
  (0 ≤ eventId ∧ eventId ≤ 0xFFFF) ∧
    (w.tpManager.isSome → (stamped.length : Int) ≤ config.tpMtu) ∧
    (eventPublisher ext).Publishes eventId stamped w.events

theorem publishEvent_log_of_reaches
    (protects : protectIf payload w.core.e2e = (.ok stamped, e2e))
    (reaches : Reaches config ext w eventId stamped) :
    (publishEvent config (ext.map ServerExtension.recorded) fuel eventId payload
      w).2.events.native.2 = w.events.native.2 ++ [stamped] := by
  obtain ⟨fits, small, publishes⟩ := reaches
  rw [publishEvent_state_of_small protects fits small, eventPublisher_recorded]
  exact EventPublisher.notify_log_of_publishes publishes

theorem publishEvent_log_of_not_reaches
    (protects : protectIf payload w.core.e2e = (.ok stamped, e2e))
    (fails : ¬ Reaches config ext w eventId stamped) :
    (publishEvent config (ext.map ServerExtension.recorded) fuel eventId payload
      w).2.events.native.2 = w.events.native.2 := by
  by_cases path : (0 ≤ eventId ∧ eventId ≤ 0xFFFF) ∧
      (w.tpManager.isSome → (stamped.length : Int) ≤ config.tpMtu)
  · rw [publishEvent_state_of_small protects path.1 path.2, eventPublisher_recorded]
    apply EventPublisher.notify_log_of_not_publishes
    intro publishes
    exact fails ⟨path.1, path.2, publishes⟩
  · rw [(publishEvent_logs_of_not_small protects path rfl).1]

theorem publishEvent_transport_log
    (protects : protectIf payload w.core.e2e = (.ok stamped, e2e)) :
    (publishEvent config (ext.map ServerExtension.recorded) fuel eventId payload
      w).2.transport.native.2 = w.transport.native.2 := by
  by_cases path : (0 ≤ eventId ∧ eventId ≤ 0xFFFF) ∧
      (w.tpManager.isSome → (stamped.length : Int) ≤ config.tpMtu)
  · rw [publishEvent_state_of_small protects path.1 path.2]
    rfl
  · exact (publishEvent_logs_of_not_small protects path rfl).2

theorem setField_state (protects : protectIf payload w.core.e2e = (.ok stamped, e2e)) :
    (setField (ext.map ServerExtension.recorded) eventId payload w).2 =
      { withE2e w e2e with
        events := ((eventPublisher ext).recorded.setField eventId stamped w.events).2 } := by
  rw [setField, Method.bind_of_ok (protect_of_ok protects), ← eventPublisher_recorded]
  rfl

/-- What the wrapped handler returns, behind what the application's own handler answered. -/
def answered (handler : RaisingHandler η) (req : Message) (self : SomeIpServer η) :
    List (Bytes × Bytes) :=
  match handler req self.app, (registered handler req self).1 with
  | (.ok resp, app), .ok response => [((app.objects resp).payload, response.payload)]
  | _, _ => []

end SomeIpServer

namespace ServerAct

variable {ω ε κ ς η : Type} (config : ServerSettings) (ext : Option (ServerExtension ω ε κ ς))
  (fuel : Nat)

/-- What the native publisher and the native transport took in an act. -/
def taken (w : ServerWorld (ω × List Bytes) η) (a : ServerAct η) : List Bytes :=
  let t := perform config (ext.map ServerExtension.recorded) fuel w a
  t.events.native.2.drop w.events.native.2.length ++
    t.transport.native.2.drop w.transport.native.2.length

/-- The payloads that an act hands on, each behind the one that the application gave. -/
def handedOn (w : ServerWorld (ω × List Bytes) η) : ServerAct η → List (Bytes × Bytes)
  | .request handler req => SomeIpServer.answered handler req w.core
  | .publishEvent eventId payload =>
      (taken config ext fuel w (.publishEvent eventId payload)).map (payload, ·)
  | .setField eventId payload =>
      (taken config ext fuel w (.setField eventId payload)).map (payload, ·)
  | _ => []

/-- Nothing fails between the stamp and the native call. A handler may raise: it runs before the
stamp. -/
def HandsOn (w : ServerWorld (ω × List Bytes) η) : ServerAct η → Prop
  | .publishEvent eventId payload => ∃ stamped, (protectIf payload w.core.e2e).1 = .ok stamped ∧
      SomeIpServer.Reaches config ext w eventId stamped
  | .setField eventId payload => ∃ stamped, (protectIf payload w.core.e2e).1 = .ok stamped ∧
      (SomeIpServer.eventPublisher ext).PublishesField eventId stamped w.events
  | _ => True

variable {profile : E2EProfile}

theorem request_spends
    (total : ∀ payload counter, ∃ stamped, profile.protect payload counter = .ok stamped)
    {e2eConfig : E2EConfig} {sent : Nat} {self : SomeIpServer η}
    (counted : self.e2e = some (.after e2eConfig profile sent)) (handler : RaisingHandler η)
    (req : Message) :
    ∃ spent,
      (SomeIpServer.registered handler req self).2.e2e =
        some (.after e2eConfig profile (sent + spent)) ∧
      Ledger.Spends profile sent (SomeIpServer.answered handler req self) spent True := by
  rw [SomeIpServer.answered, SomeIpServer.registered_eq]
  cases ran : handler req self.app with
  | mk result app =>
      cases result with
      | error exc => exact ⟨0, counted, .nothing trivial⟩
      | ok resp =>
          obtain ⟨stamped, success, protects⟩ :=
            Ledger.protectIf_of_total total counted (app.objects resp).payload
          simp only [protects, Message.wire_payload, SomeIpServer.setPayload_payload]
          exact ⟨1, rfl, .handedOn success trivial⟩

theorem accounted
    (total : ∀ payload counter, ∃ stamped, profile.protect payload counter = .ok stamped)
    (e2eConfig : E2EConfig) :
    Ledger.Accounted (perform config (ext.map ServerExtension.recorded) fuel)
      (handedOn config ext fuel) (fun w : ServerWorld (ω × List Bytes) η => w.core.e2e)
      e2eConfig profile (HandsOn config ext) := by
  intro w a sent counted
  cases a with
  | request handler req => exact request_spends total counted handler req
  | publishEvent eventId payload =>
      obtain ⟨stamped, success, protects⟩ := Ledger.protectIf_of_total total counted payload
      refine ⟨1, ?_, ?_⟩
      · dsimp only [perform]
        rw [SomeIpServer.publishEvent_core, protects]
      · rw [handedOn, taken, perform, SomeIpServer.publishEvent_transport_log protects,
          List.drop_length, List.append_nil]
        apply Ledger.spends_of_log success protects
        · exact SomeIpServer.publishEvent_log_of_reaches protects
        · exact SomeIpServer.publishEvent_log_of_not_reaches protects
  | setField eventId payload =>
      obtain ⟨stamped, success, protects⟩ := Ledger.protectIf_of_total total counted payload
      refine ⟨1, ?_, ?_⟩
      · dsimp only [perform]
        rw [SomeIpServer.setField_core, protects]
      · have unsent : (perform config (ext.map ServerExtension.recorded) fuel w
            (setField eventId payload)).transport = w.transport := by
          rw [perform, SomeIpServer.setField_state protects]
          rfl
        rw [handedOn, taken, unsent, List.drop_length, List.append_nil, perform,
          SomeIpServer.setField_state protects]
        apply Ledger.spends_of_log success protects
        · exact EventPublisher.setField_log_of_publishes
        · exact EventPublisher.setField_log_of_not_publishes
  | registerEvent eventId eventgroupId => exact ⟨0, counted, .nothing trivial⟩
  | start =>
      refine ⟨0, ?_, .nothing trivial⟩
      have same := Composite.start_core
        (SomeIpServer.node_lawful config (ext.map ServerExtension.recorded)) w
      exact (congrArg SomeIpServer.e2e same).trans counted
  | stop =>
      refine ⟨0, ?_, .nothing trivial⟩
      have same := (Composite.stop_frame
        (SomeIpServer.node_lawful config (ext.map ServerExtension.recorded)) w).2
      exact (congrArg SomeIpServer.e2e same).trans counted

end ServerAct

end OpenSomeIp
