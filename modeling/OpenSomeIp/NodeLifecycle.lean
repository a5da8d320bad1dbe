import OpenSomeIp.ClientNode

set_option autoImplicit false

namespace OpenSomeIp

namespace Composite

variable {ω ε κ σ ρ ν τ γ : Type}

/-- A node that runs after a history has all its components running. -/
def RunsTogether (node : Composite ω ε κ σ ρ ν τ) (w : CompositeWorld ω σ ρ ν τ γ)
    (history : List Lifecycle.Act) : Prop :=
  ∀ u, Transition.run node.act w history = some u → u.running = true → node.AllRunning u

/-- A stop behind a history leaves nothing running and nothing connected. -/
def StopsTogether (node : Composite ω ε κ σ ρ ν τ) (w : CompositeWorld ω σ ρ ν τ γ)
    (history : List Lifecycle.Act) : Prop :=
  ∀ u, Transition.run node.act w (history ++ [.stop]) = some u → node.AllStopped u

/-- A start that raises leaves the node as stopped as it was. -/
def StartsWhole (node : Composite ω ε κ σ ρ ν τ) (w : CompositeWorld ω σ ρ ν τ γ) : Prop :=
  ∀ exc, (node.start w).1 = .error exc → node.AllStopped (node.start w).2

end Composite

/-- A native call that raises. -/
def faulty {α : Type} : Method Exn Unit α := Method.raise (.runtimeError "native failure")

theorem faulty_translated {α : Type} : Translated (faulty (α := α)) := by
  intro s exc raised
  obtain rfl : Exn.runtimeError "native failure" = exc := Except.error.inj raised
  rfl

/-- Native transports of which only the `start` succeeds. -/
def faultyUdp : NativeUdpTransport Unit Unit Unit where
  toCppEndpoint _ := faulty
  toCppMessage _ := faulty
  start := pure (some "SUCCESS")
  stop := faulty
  sendMessage _ _ := faulty
  joinMulticastGroup _ := faulty

def faultyTcp : NativeTcpTransport Unit Unit Unit where
  toNativeTransport := faultyUdp.toNativeTransport
  initializeTransport _ := faulty
  connect _ := faulty
  disconnect := faulty

/-- The extension of a server in which all calls raise that a server guards. -/
def faultyServer : ServerExtension Unit Unit Unit Unit where
  udpTransport := faultyUdp
  tcpTransport := faultyTcp
  sdServer :=
    { initializeServer := faulty
      shutdown := faulty
      toCppServiceInstance := fun _ => faulty
      offerService := fun _ _ => faulty
      stopOfferService := fun _ _ => faulty }
  rpcServer := { initializeServer := faulty, shutdown := faulty }
  eventPublisher :=
    { initializePublisher := faulty
      shutdown := faulty
      registerEvent := fun _ _ => faulty
      publishEvent := fun _ _ => faulty
      publishField := fun _ _ => faulty }
  tpManager :=
    { int := fun _ => 0
      toCppMessage := fun _ => faulty
      needsSegmentation := fun _ => faulty
      segmentMessage := fun _ => faulty
      getNextSegment := fun _ => faulty
      initializeManager := faulty
      setMessageCallback := faulty
      shutdown := faulty }

theorem faultyServer_translated : faultyServer.Translated where
  disconnect := faulty_translated
  initializeSd := faulty_translated
  shutdownSd := faulty_translated
  toCppServiceInstance _ := faulty_translated
  offerService _ _ := faulty_translated
  stopOfferService _ _ := faulty_translated
  initializeRpc := faulty_translated
  shutdownRpc := faulty_translated
  initializeEvents := faulty_translated
  shutdownEvents := faulty_translated
  initializeTp := faulty_translated
  setMessageCallback := faulty_translated
  shutdownTp := faulty_translated

/-- The extension of a server whose native transport does not come up. -/
def refusingServer : ServerExtension Unit Unit Unit Unit :=
  { faultyServer with udpTransport := { faultyUdp with start := pure (some "NETWORK_ERROR") } }

theorem refusingServer_translated : refusingServer.Translated := { faultyServer_translated with }

/-- A server over UDP in a multicast group, with one service and with TP. -/
def multicastServer : ServerSettings where
  localEndpoint := ⟨"127.0.0.1", 30490⟩
  sdConfig := { unicastEndpoint := ⟨"127.0.0.1", 30490⟩ }
  services := [{ serviceId := 0x1234, instanceId := 1 }]
  multicastGroup := some "239.1.1.1"
  enableTp := true

def emptyApp : App Unit where
  state := ()
  objects _ := {}

/-- A client over TCP without the extension. -/
def plainClient : ClientSettings where
  localEndpoint := ⟨"127.0.0.1", 0⟩
  sdConfig := { unicastEndpoint := ⟨"127.0.0.1", 0⟩ }
  transportMode := .tcp
  remoteEndpoint := some ⟨"127.0.0.1", 30490⟩

section Claims

variable {ω ε κ ς η : Type} (server : ServerSettings) (serverExt : Option (ServerExtension ω ε κ ς))
  (client : ClientSettings) (clientExt : Option (ClientExtension ω ε κ))

/-- Every history of starts and stops keeps a server and a client consistent with their
components, however the native calls end. -/
theorem lifecycle_consistent (native : ω) (app : App η) (history : List Lifecycle.Act) :
    ((SomeIpServer.node server serverExt).RunsTogether
        (SomeIpServer.create server native app) history ∧
      ((∀ native, serverExt = some native → native.Translated) →
        (SomeIpServer.node server serverExt).StopsTogether
          (SomeIpServer.create server native app) history)) ∧
    (SomeIpClient.node client clientExt).RunsTogether
        (SomeIpClient.create client native) history ∧
      ((∀ native, clientExt = some native → native.Translated) →
        (SomeIpClient.node client clientExt).StopsTogether
          (SomeIpClient.create client native) history) := by
  have serverLawful := SomeIpServer.node_lawful server serverExt
  have clientLawful := SomeIpClient.node_lawful client clientExt
  refine ⟨⟨?_, ?_⟩, ?_, ?_⟩
  · intro u ran
    exact Composite.run_allRunning serverLawful rfl ran
  · intro translated u ran
    exact Composite.run_allStopped serverLawful
      (SomeIpServer.node_returns server translated)
      (SomeIpServer.node_disconnects server translated) ran
  · intro u ran
    exact Composite.run_allRunning clientLawful rfl ran
  · intro translated u ran
    exact Composite.run_allStopped clientLawful
      (SomeIpClient.node_returns client translated)
      (SomeIpClient.node_disconnects client translated) ran

/-- Every guarded native call and the native `stop` raise, and yet all stop. -/
theorem lifecycle_consistent_faulty :
    ∃ u, Transition.run (SomeIpServer.node multicastServer (some faultyServer)).act
        (SomeIpServer.create multicastServer () emptyApp) [.start, .stop] = some u ∧
      (SomeIpServer.node multicastServer (some faultyServer)).AllStopped u := by
  refine ⟨_, rfl, ?_⟩
  have consistent := lifecycle_consistent multicastServer (some faultyServer) plainClient
    (none : Option (ClientExtension Unit Unit Unit)) () emptyApp [.start]
  apply consistent.1.2
  · intro native same
    obtain rfl := Option.some.inj same
    exact faultyServer_translated
  · rfl

/-- Starting is all or nothing exactly when the transport does not fail behind the point
where it counts as running. -/
theorem start_all_or_nothing_iff
    (serverTranslated : ∀ native, serverExt = some native → native.Translated)
    (clientTranslated : ∀ native, clientExt = some native → native.Translated) :
    (∀ w : ServerWorld ω η, (SomeIpServer.node server serverExt).AllStopped w →
      ((SomeIpServer.node server serverExt).StartsWhole w ↔
        ¬ (server.transport serverExt).FailsLate w.transport.native)) ∧
    ∀ w : ClientWorld ω, (SomeIpClient.node client clientExt).AllStopped w →
      ((SomeIpClient.node client clientExt).StartsWhole w ↔
        ¬ (client.transport clientExt).FailsLate w.transport.native) := by
  constructor
  · intro w stopped
    exact Composite.start_allStopped_iff (SomeIpServer.node_returns server serverTranslated) stopped
  · intro w stopped
    exact Composite.start_allStopped_iff (SomeIpClient.node_returns client clientTranslated) stopped

/-- The native transport does not come up, and the start that raises leaves all stopped. -/
theorem start_all_or_nothing_refused :
    let node := SomeIpServer.node multicastServer (some refusingServer)
    let w := SomeIpServer.create multicastServer () emptyApp
    (node.start w).1 = .error (.transportError
        "Native transport failed to start: NETWORK_ERROR") ∧
      node.AllStopped (node.start w).2 := by
  intro node w
  have raised : (node.start w).1 = .error (.transportError
      "Native transport failed to start: NETWORK_ERROR") := rfl
  have whole := start_all_or_nothing_iff (η := Unit) multicastServer (some refusingServer)
    plainClient (none : Option (ClientExtension Unit Unit Unit))
    (by
      intro native same
      obtain rfl := Option.some.inj same
      exact refusingServer_translated)
    (by
      intro native same
      cases same)
  have stopped : node.AllStopped w := SomeIpServer.create_allStopped multicastServer () emptyApp
  refine ⟨raised, (whole.1 w stopped).mpr ?_ _ raised⟩
  rintro ⟨up, -⟩
  have succeeded : "NETWORK_ERROR" = "SUCCESS" := up _ rfl
  exact absurd succeeded (by decide)

/-- The multicast join raises, and the transport of the server that has not started runs. -/
theorem failed_start_leaves_running :
    let node := SomeIpServer.node multicastServer (some faultyServer)
    let w := SomeIpServer.create multicastServer () emptyApp
    node.AllStopped w ∧ (∃ exc, (node.start w).1 = .error exc) ∧
      (node.start w).2.transport.running = true ∧ ¬ node.StartsWhole w := by
  intro node w
  have raised : (node.start w).1 = .error (.runtimeError "native failure") := rfl
  have up : (node.start w).2.transport.running = true := rfl
  refine ⟨SomeIpServer.create_allStopped multicastServer () emptyApp, ⟨_, raised⟩, up, ?_⟩
  intro whole
  have down := AnyTransport.running_of_stopped (whole _ raised).transport
  cases down.symm.trans up

end Claims

end OpenSomeIp
