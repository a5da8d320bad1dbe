import OpenSomeIp.Publish

set_option autoImplicit false

namespace OpenSomeIp

namespace SomeIpServer

variable {ω ε κ ς η : Type} {config : ServerSettings} {ext : ServerExtension ω ε κ ς}

/-- What is promised of `publish_event`, whatever the length: the payload is protected, and an
event that is not registered is refused with nothing sent, any other handed to the native
publisher. -/
def Publishes (published : ω → List (Int × Bytes)) (config : ServerSettings)
    (ext : ServerExtension ω ε κ ς) (fuel : Nat) (w : ServerWorld ω η) (eventId : Int)
    (payload : Bytes) : Prop :=
  ∃ stamped e2e, E2EProtection.protectIf payload w.core.e2e = (.ok stamped, e2e) ∧
    (eventId ∉ w.events.attributes.registeredEvents →
      publishEvent config (some ext) fuel eventId payload w =
        (.error (EventPublisher.notRegistered eventId), withE2e w e2e)) ∧
    (eventId ∈ w.events.attributes.registeredEvents →
      ∃ native, published native = published w.events.native ++ [(eventId, stamped)] ∧
        publishEvent config (some ext) fuel eventId payload w =
          (.ok (some ()), { withE2e w e2e with events := { w.events with native := native } }))

/-- The protected payload goes to the publisher under an event id of 16 bits. -/
def BelowThreshold (config : ServerSettings) (w : ServerWorld ω η) (eventId : Int)
    (payload : Bytes) : Prop :=
  ∃ stamped, (E2EProtection.protectIf payload w.core.e2e).1 = .ok stamped ∧
    (0 ≤ eventId ∧ eventId ≤ 0xFFFF) ∧
    (w.tpManager.isSome → (stamped.length : Int) ≤ config.tpMtu)

theorem publishes_of_below {published : ω → List (Int × Bytes)}
    (publishing : ∀ eventId data s, 0 ≤ eventId ∧ eventId ≤ 0xFFFF →
      ∃ t, ext.eventPublisher.publishEvent eventId data s = (.ok (), t) ∧
        published t = published s ++ [(eventId, data)])
    {fuel : Nat} {w : ServerWorld ω η} {eventId : Int} {payload : Bytes}
    (below : BelowThreshold config w eventId payload) :
    Publishes published config ext fuel w eventId payload := by
  obtain ⟨stamped, protects, fits, small⟩ := below
  have protection : E2EProtection.protectIf payload w.core.e2e =
      (.ok stamped, (E2EProtection.protectIf payload w.core.e2e).2) := Prod.ext protects rfl
  refine ⟨stamped, _, protection, ?_, ?_⟩
  · intro missing
    rw [publishEvent_of_small protection fits small]
    apply Method.bind_of_error
    exact notify_of_missing missing
  · intro registered
    obtain ⟨native, ran, recorded⟩ := publishing eventId stamped w.events.native fits
    refine ⟨native, recorded, ?_⟩
    rw [publishEvent_of_small protection fits small]
    have handed : notify (some ext) eventId stamped
        (withE2e w (E2EProtection.protectIf payload w.core.e2e).2) = (.ok (), _) :=
      notify_of_registered registered ran
    rw [Method.bind_of_ok handed]
    rfl

theorem refused_of_converts (converts : (config.transport (some ext)).super.Converts) :
    (tpManager config (some ext)).Refused := by
  intro message unaddressed w
  exact Transport.send_of_no_target converts (target_of_unaddressed config _ unaddressed) w

/-- The verdict of `publish_event` is the registry's exactly below the threshold. -/
theorem publishes_iff (published : ω → List (Int × Bytes))
    (publishing : ∀ eventId data s, 0 ≤ eventId ∧ eventId ≤ 0xFFFF →
      ∃ t, ext.eventPublisher.publishEvent eventId data s = (.ok (), t) ∧
        published t = published s ++ [(eventId, data)])
    (converts : (config.transport (some ext)).super.Converts)
    (fuel : Nat) (w : ServerWorld ω η) (eventId : Int) (payload : Bytes) :
    Publishes published config ext fuel w eventId payload ↔
      BelowThreshold config w eventId payload := by
  constructor
  · rintro ⟨stamped, e2e, protects, missing, present⟩
    have fits : 0 ≤ eventId ∧ eventId ≤ 0xFFFF := by
      by_cases fits : 0 ≤ eventId ∧ eventId ≤ 0xFFFF
      · exact fits
      · have misnamed : ∃ text, publishEvent config (some ext) fuel eventId payload w =
            (.error (.valueError text), withE2e w e2e) := publishEvent_of_misnamed protects fits
        obtain ⟨text, refused⟩ := misnamed
        by_cases registered : eventId ∈ w.events.attributes.registeredEvents
        · obtain ⟨native, -, ran⟩ := present registered
          cases ran.symm.trans refused
        · cases (missing registered).symm.trans refused
    refine ⟨stamped, by rw [protects], fits, ?_⟩
    intro enabled
    by_cases small : (stamped.length : Int) ≤ config.tpMtu
    · exact small
    · obtain ⟨manager, there⟩ := Option.isSome_iff_exists.mp enabled
      have segmented : ∃ message : Message, message.sourceEndpoint = none ∧
          publishEvent config (some ext) fuel eventId payload w =
            sendTp config (some ext) fuel message manager (withE2e w e2e) :=
        publishEvent_of_large protects fits there small
      obtain ⟨message, plain, path⟩ := segmented
      have raises := TpManager.send_of_refused (refused_of_converts converts) plain fuel
      by_cases registered : eventId ∈ w.events.attributes.registeredEvents
      · obtain ⟨native, recorded, ran⟩ := present registered
        have untouched : w.events = { w.events with native := native } :=
          congrArg (fun result => result.2.events) (path.symm.trans ran)
        have same : w.events.native = native := congrArg Component.native untouched
        have longer := congrArg List.length recorded
        rw [same, List.length_append, List.length_singleton] at longer
        omega
      · have result := congrArg Prod.fst (path.symm.trans (missing registered))
        rcases raises _ _ result with transportError | uncaught
        · cases transportError
        · cases uncaught
  · exact publishes_of_below publishing

/-- An extension that accepts every call and remembers what was published. -/
def recordingServer : ServerExtension (List (Int × Bytes)) Unit Unit Unit where
  udpTransport :=
    { toCppEndpoint := fun _ => pure ()
      toCppMessage := fun _ => pure ()
      start := pure (some "SUCCESS")
      stop := pure ()
      sendMessage := fun _ _ => pure ()
      joinMulticastGroup := fun _ => pure () }
  tcpTransport :=
    { toCppEndpoint := fun _ => pure ()
      toCppMessage := fun _ => pure ()
      start := pure (some "SUCCESS")
      stop := pure ()
      sendMessage := fun _ _ => pure ()
      initializeTransport := fun _ => pure ()
      connect := fun _ => pure ()
      disconnect := pure () }
  sdServer :=
    { initializeServer := pure ()
      shutdown := pure ()
      toCppServiceInstance := fun _ => pure ()
      offerService := fun _ _ => pure ()
      stopOfferService := fun _ _ => pure () }
  rpcServer := { initializeServer := pure (), shutdown := pure () }
  eventPublisher :=
    { initializePublisher := pure ()
      shutdown := pure ()
      registerEvent := fun _ _ => pure ()
      publishEvent := fun eventId data => Method.modify fun sent => sent ++ [(eventId, data)]
      publishField := fun eventId data => Method.modify fun sent => sent ++ [(eventId, data)] }
  tpManager :=
    { int := fun result => if result = .success then 0 else 1
      toCppMessage := fun _ => pure ()
      needsSegmentation := fun _ => pure true
      segmentMessage := fun _ => pure (.success, 0)
      getNextSegment := fun _ => pure (.success, [0])
      initializeManager := pure ()
      setMessageCallback := pure ()
      shutdown := pure () }

/-- A server with TP at a threshold of four bytes. -/
def tpServer : ServerSettings where
  localEndpoint := ⟨"127.0.0.1", 30490⟩
  sdConfig := { unicastEndpoint := ⟨"127.0.0.1", 30490⟩ }
  enableTp := true
  tpMtu := 4

/-- It was started and has registered the event 0x8001. -/
def publishingServer : ServerWorld (List (Int × Bytes)) Unit :=
  ((do
    start tpServer (some recordingServer)
    CompositeWorld.onEvents ((eventPublisher (some recordingServer)).registerEvent 0x8001 1) :
      Method Exn (ServerWorld (List (Int × Bytes)) Unit) Unit)
    (create tpServer [] { state := (), objects := fun _ => {} })).2

/-- Where the native layer accepts all: a payload of four bytes is published. -/
theorem publishes_iff_recording :
    Publishes id tpServer recordingServer 1 publishingServer 0x8001 [1, 2, 3, 4] := by
  apply (publishes_iff id _ _ 1 publishingServer 0x8001 [1, 2, 3, 4]).mpr
  · exact ⟨[1, 2, 3, 4], rfl, by decide, fun _ => by decide⟩
  · intro eventId data s _
    exact ⟨_, rfl, rfl⟩
  · intro cpp present message s
    obtain rfl := Option.some.inj present
    exact ⟨(), s, rfl⟩

/-- With a fifth byte a registered event is refused, and one that is not registered is
refused for the same reason. -/
theorem long_event_not_published :
    publishingServer.running = true ∧
    (0x8001 ∈ publishingServer.events.attributes.registeredEvents ∧
      (publishEvent tpServer (some recordingServer) 1 0x8001 [1, 2, 3, 4, 5] publishingServer).1 =
        .error (.transportError
          "No target endpoint specified and no remote endpoint configured")) ∧
    (0x8002 ∉ publishingServer.events.attributes.registeredEvents ∧
      (publishEvent tpServer (some recordingServer) 1 0x8002 [1, 2, 3, 4, 5] publishingServer).1 =
        .error (.transportError
          "No target endpoint specified and no remote endpoint configured")) ∧
    ¬ Publishes id tpServer recordingServer 1 publishingServer 0x8001 [1, 2, 3, 4, 5] := by
  have refused : (publishEvent tpServer (some recordingServer) 1 0x8001 [1, 2, 3, 4, 5]
      publishingServer).1 = .error (.transportError
        "No target endpoint specified and no remote endpoint configured") := rfl
  have known : 0x8001 ∈ publishingServer.events.attributes.registeredEvents := by decide +kernel
  refine ⟨rfl, ⟨known, refused⟩, ⟨by decide +kernel, rfl⟩, ?_⟩
  rintro ⟨stamped, e2e, -, -, present⟩
  obtain ⟨native, -, ran⟩ := present known
  rw [ran] at refused
  cases refused

end SomeIpServer

end OpenSomeIp
