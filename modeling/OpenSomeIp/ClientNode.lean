import OpenSomeIp.Client
import OpenSomeIp.RpcInFlight
import OpenSomeIp.ServerNode

set_option autoImplicit false

namespace OpenSomeIp

namespace RpcClient

variable {ω : Type} {client : RpcClient ω}

theorem cancelPending_running (w : RpcWorld ω) : w.cancelPending.running = w.running := by
  have kept (t : RpcWorld ω) (future : Nat) (same : t.running = w.running) :
      (t.cancelFuture future).running = w.running := by
    unfold RpcWorld.cancelFuture
    split
    · exact same
    · exact same
  exact RpcWorld.cancelPending_keeps kept rfl

/-- The native `initialize`, if there is one, returns or raises an `Exception`. -/
def StartsUp (client : RpcClient ω) (w : RpcWorld ω) : Prop :=
  ∀ cpp exc, client.cpp = some cpp → (cpp.initializeClient w.native).1 = .error exc →
    exc.isException = true

theorem start_of_startsUp {w : RpcWorld ω} (quiet : client.StartsUp w) :
    ∃ native, client.start w = (.ok (), { w with native := native, running := true }) := by
  cases present : client.cpp with
  | none =>
      refine ⟨w.native, ?_⟩
      simp only [start, present]
      rfl
  | some cpp =>
      obtain ⟨native, ran⟩ :=
        suppress_onNative_of_caught (w := w) fun exc raised => quiet cpp exc present raised
      refine ⟨native, ?_⟩
      simp only [start, present]
      rw [Method.bind_of_ok ran, Method.modify_apply]

theorem start_of_not_startsUp {w : RpcWorld ω} (loud : ¬ client.StartsUp w) :
    ∃ native exc, client.start w = (.error exc, { w with native := native }) := by
  simp only [StartsUp, not_forall] at loud
  obtain ⟨cpp, exc, present, raised, uncaught⟩ := loud
  obtain ⟨native, ran⟩ := suppress_onNative_of_uncaught raised uncaught
  refine ⟨native, exc, ?_⟩
  simp only [start, present]
  exact Method.bind_of_error ran _

/-- The client as a part of a node. -/
def part (client : RpcClient ω) : Part (RpcWorld ω) where
  start := client.start
  stop := client.stop
  running := RpcWorld.running

theorem part_lawful (client : RpcClient ω) : client.part.Lawful where
  started w u returned := by
    by_cases quiet : client.StartsUp w
    · obtain ⟨native, ran⟩ := start_of_startsUp quiet
      obtain ⟨-, rfl⟩ := Prod.mk.inj (ran.symm.trans returned)
      rfl
    · obtain ⟨native, exc, ran⟩ := start_of_not_startsUp quiet
      cases ran.symm.trans returned
  stopped w u returned := by
    by_cases quiet : client.ShutsDown w
    · obtain ⟨native, ran⟩ := stop_of_shutsDown quiet
      obtain ⟨-, rfl⟩ := Prod.mk.inj (ran.symm.trans returned)
      exact cancelPending_running _
    · obtain ⟨native, exc, ran⟩ := stop_of_not_shutsDown quiet
      cases ran.symm.trans returned
  keepsRunning w running := by
    by_cases quiet : client.StartsUp w
    · obtain ⟨native, ran⟩ := start_of_startsUp quiet
      simp only [part, ran]
    · obtain ⟨native, exc, ran⟩ := start_of_not_startsUp quiet
      simp only [part, ran]
      exact running
  keepsStopped w stopped := by
    by_cases quiet : client.ShutsDown w
    · obtain ⟨native, ran⟩ := stop_of_shutsDown quiet
      simp only [part, ran]
      exact cancelPending_running _
    · obtain ⟨native, exc, ran⟩ := stop_of_not_shutsDown quiet
      simp only [part, ran]
      exact stopped

theorem part_returns (starts : ∀ cpp, client.cpp = some cpp → Translated cpp.initializeClient)
    (stops : ∀ cpp, client.cpp = some cpp → Translated cpp.shutdown) : client.part.Returns where
  start w := by
    have quiet : client.StartsUp w := fun cpp exc present => starts cpp present w.native exc
    obtain ⟨native, ran⟩ := start_of_startsUp quiet
    exact ⟨_, ran⟩
  stop w := by
    have quiet : client.ShutsDown w := fun cpp exc present => stops cpp present w.native exc
    obtain ⟨native, ran⟩ := stop_of_shutsDown quiet
    exact ⟨_, ran⟩

end RpcClient

/-- All of `ClientConfig`. -/
structure ClientSettings extends ClientConfig where
  localEndpoint : Endpoint
  sdConfig : SdConfig
  transportMode : TransportMode := .udp
  multicastGroup : Option String := none
  remoteEndpoint : Option Endpoint := none
  enableTp : Bool := false
  tpMtu : Int := 1400

/-- The native objects that the components of a client make for themselves. -/
structure ClientExtension (ω ε κ : Type) where
  udpTransport : NativeUdpTransport ω ε κ
  tcpTransport : NativeTcpTransport ω ε κ
  sdClient : NativeSdClient ω
  rpcClient : NativeRpcClient ω
  eventSubscriber : NativeEventSubscriber ω
  tpManager : NativeTpManager ω κ

/-- The attributes of a client with all its components. -/
abbrev ClientWorld (ω : Type) : Type :=
  CompositeWorld ω (Component ω SdClientAttributes) (RpcWorld ω)
    (Component ω EventSubscriberAttributes) (Component ω TpManagerAttributes)
    (Option E2EProtection)

namespace ClientSettings

variable {ω ε κ : Type} (config : ClientSettings) (ext : Option (ClientExtension ω ε κ))

def transport : AnyTransport ω ε κ :=
  match config.transportMode with
  | .tcp => .tcp
      { localEndpoint := config.localEndpoint
        remoteEndpoint := config.remoteEndpoint
        cpp := ext.map (·.tcpTransport) }
  | .udp => .udp
      { localEndpoint := config.localEndpoint
        remoteEndpoint := config.remoteEndpoint
        multicastGroup := config.multicastGroup
        cpp := ext.map (·.udpTransport) }

end ClientSettings

/-- The native calls that a client guards with `except Exception` raise nothing else. -/
structure ClientExtension.Translated {ω ε κ : Type} (ext : ClientExtension ω ε κ) : Prop where
  disconnect : OpenSomeIp.Translated ext.tcpTransport.disconnect
  initializeSd : OpenSomeIp.Translated ext.sdClient.initializeClient
  shutdownSd : OpenSomeIp.Translated ext.sdClient.shutdown
  initializeRpc : OpenSomeIp.Translated ext.rpcClient.initializeClient
  shutdownRpc : OpenSomeIp.Translated ext.rpcClient.shutdown
  initializeEvents : OpenSomeIp.Translated ext.eventSubscriber.initializeSubscriber
  shutdownEvents : OpenSomeIp.Translated ext.eventSubscriber.shutdown
  initializeTp : OpenSomeIp.Translated ext.tpManager.initializeManager
  setMessageCallback : OpenSomeIp.Translated ext.tpManager.setMessageCallback
  shutdownTp : OpenSomeIp.Translated ext.tpManager.shutdown

namespace SomeIpClient

variable {ω ε κ : Type} (config : ClientSettings) (ext : Option (ClientExtension ω ε κ))

/-- The components of a client, as its `start` and `stop` see them. -/
def node :
    Composite ω ε κ (Component ω SdClientAttributes) (RpcWorld ω)
      (Component ω EventSubscriberAttributes) (Component ω TpManagerAttributes) :=
  let sdClient : SdClient ω := { cpp := ext.map (·.sdClient) }
  let rpcClient : RpcClient ω := { cpp := ext.map (·.rpcClient) }
  let eventSubscriber : EventSubscriber ω := { cpp := ext.map (·.eventSubscriber) }
  let tpManager := ext.map (·.tpManager)
  { transport := config.transport ext
    sd := { start := sdClient.start, stop := sdClient.stop, running := Component.running }
    rpc := { start := rpcClient.start, stop := rpcClient.stop, running := RpcWorld.running }
    events :=
      { start := eventSubscriber.start, stop := eventSubscriber.stop
        running := Component.running }
    tpManager :=
      { start := TpManager.start tpManager, stop := TpManager.stop tpManager
        running := Component.running } }

/-- The source's `__init__`. -/
def create (native : ω) : ClientWorld ω where
  transport := { native := native }
  sd := { native := native, attributes := {} }
  rpc := (init config.toClientConfig native).rpcClient
  events := { native := native, attributes := {} }
  tpManager := if config.enableTp then some { native := native, attributes := {} } else none
  core := (init config.toClientConfig native).e2e

def start : Method Exn (ClientWorld ω) Unit := (node config ext).start

def stop : Method Exn (ClientWorld ω) Unit := (node config ext).stop

theorem node_lawful : (node config ext).Lawful where
  sd := Component.part_lawful _ _ _
  rpc := RpcClient.part_lawful _
  events := Component.part_lawful _ _ _
  tpManager := Component.part_lawful _ _ _
  offers := by
    intro offer member
    cases member
  stopOffers := by
    intro stopOffer member
    cases member

variable {ext}

theorem node_returns (translated : ∀ native, ext = some native → native.Translated) :
    (node config ext).Returns where
  sd := Component.part_returns _
    (Translated.map_map fun native present => (translated native present).initializeSd)
    (Translated.map_map fun native present => (translated native present).shutdownSd)
  rpc := by
    apply RpcClient.part_returns
    · intro cpp present
      obtain ⟨native, found, rfl⟩ := Option.map_eq_some_iff.mp present
      exact (translated native found).initializeRpc
    · intro cpp present
      obtain ⟨native, found, rfl⟩ := Option.map_eq_some_iff.mp present
      exact (translated native found).shutdownRpc
  events := Component.part_returns _
    (Translated.map_map fun native present => (translated native present).initializeEvents)
    (Translated.map_map fun native present => (translated native present).shutdownEvents)
  tpManager := Component.part_returns _
    (Translated.map_map fun native present =>
      (translated native present).initializeTp.bind fun _ =>
        (translated native present).setMessageCallback)
    (Translated.map_map fun native present => (translated native present).shutdownTp)
  offers := by
    intro offer member
    cases member
  stopOffers := by
    intro stopOffer member
    cases member

theorem node_disconnects (translated : ∀ native, ext = some native → native.Translated)
    (w : TransportWorld ω) : (node config ext).transport.Disconnects w := by
  cases mode : config.transportMode with
  | udp =>
      simp only [node, ClientSettings.transport, mode]
      trivial
  | tcp =>
      simp only [node, ClientSettings.transport, mode]
      intro cpp exc present _ raised
      obtain ⟨native, found, rfl⟩ := Option.map_eq_some_iff.mp present
      exact (translated native found).disconnect w.native exc raised

theorem create_allStopped (native : ω) : (node config ext).AllStopped (create config native) where
  running := rfl
  transport := by
    cases mode : config.transportMode with
    | udp =>
        simp only [node, ClientSettings.transport, mode]
        rfl
    | tcp =>
        simp only [node, ClientSettings.transport, mode]
        exact ⟨rfl, rfl⟩
  sd := rfl
  rpc := rfl
  events := rfl
  tpManager := by
    intro tpManager enabled
    unfold create at enabled
    split at enabled
    · obtain rfl := Option.some.inj enabled
      rfl
    · cases enabled

end SomeIpClient

end OpenSomeIp
