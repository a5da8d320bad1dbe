import OpenSomeIp.CompositeLifecycle
import OpenSomeIp.Events
import OpenSomeIp.RpcServer
import OpenSomeIp.Sd
import OpenSomeIp.Server
import OpenSomeIp.TpManager

set_option autoImplicit false

namespace OpenSomeIp

inductive TransportMode where
  | udp
  | tcp
  deriving DecidableEq, Repr

/-- All of `ServerConfig`. -/
structure ServerSettings extends ServerConfig where
  localEndpoint : Endpoint
  sdConfig : SdConfig
  services : List ServiceInstance := []
  transportMode : TransportMode := .udp
  multicastGroup : Option String := none
  enableTp : Bool := false
  tpMtu : Int := 1400

/-- The native objects that the components of a server make for themselves. -/
structure ServerExtension (ω ε κ ς : Type) where
  udpTransport : NativeUdpTransport ω ε κ
  tcpTransport : NativeTcpTransport ω ε κ
  sdServer : NativeSdServer ω ς
  rpcServer : NativeRpcServer ω
  eventPublisher : NativeEventPublisher ω
  tpManager : NativeTpManager ω κ

/-- The attributes of a server with all its components. -/
abbrev ServerWorld (ω η : Type) (γ : Type := E2EProtection) : Type :=
  CompositeWorld ω (Component ω SdServerAttributes) (Component ω RpcServerAttributes)
    (Component ω EventPublisherAttributes) (Component ω TpManagerAttributes) (SomeIpServer η γ)

namespace ServerSettings

variable {ω ε κ ς : Type} (config : ServerSettings) (ext : Option (ServerExtension ω ε κ ς))

def transport : AnyTransport ω ε κ :=
  match config.transportMode with
  | .tcp => .tcp
      { localEndpoint := config.localEndpoint
        cpp := ext.map (·.tcpTransport) }
  | .udp => .udp
      { localEndpoint := config.localEndpoint
        multicastGroup := config.multicastGroup
        cpp := ext.map (·.udpTransport) }

def sdServer : SdServer ω ς where
  config := config.sdConfig
  cpp := ext.map (·.sdServer)

end ServerSettings

namespace SomeIpServer

variable {ω ε κ ς η : Type}

/-- The components of a server, as its `start` and `stop` see them. -/
def node (config : ServerSettings) (ext : Option (ServerExtension ω ε κ ς)) :
    Composite ω ε κ (Component ω SdServerAttributes) (Component ω RpcServerAttributes)
      (Component ω EventPublisherAttributes) (Component ω TpManagerAttributes) :=
  let sdServer := config.sdServer ext
  let rpcServer : RpcServer ω := { cpp := ext.map (·.rpcServer) }
  let eventPublisher : EventPublisher ω := { cpp := ext.map (·.eventPublisher) }
  let tpManager := ext.map (·.tpManager)
  { transport := config.transport ext
    sd := { start := sdServer.start, stop := sdServer.stop, running := Component.running }
    rpc := { start := rpcServer.start, stop := rpcServer.stop, running := Component.running }
    events :=
      { start := eventPublisher.start, stop := eventPublisher.stop, running := Component.running }
    tpManager :=
      { start := TpManager.start tpManager, stop := TpManager.stop tpManager
        running := Component.running }
    offers := config.services.map sdServer.offer
    stopOffers := config.services.map sdServer.stopOffer }

/-- The source's `__init__`. -/
def create (config : ServerSettings) (native : ω) (app : App η) : ServerWorld ω η where
  transport := { native := native }
  sd := { native := native, attributes := {} }
  rpc := { native := native, attributes := {} }
  events := { native := native, attributes := {} }
  tpManager := if config.enableTp then some { native := native, attributes := {} } else none
  core := init config.toServerConfig app

def start {γ : Type} (config : ServerSettings) (ext : Option (ServerExtension ω ε κ ς)) :
    Method Exn (ServerWorld ω η γ) Unit := (node config ext).start

def stop {γ : Type} (config : ServerSettings) (ext : Option (ServerExtension ω ε κ ς)) :
    Method Exn (ServerWorld ω η γ) Unit := (node config ext).stop

end SomeIpServer

/-- The native calls that a server guards with `except Exception` raise nothing else. -/
structure ServerExtension.Translated {ω ε κ ς : Type} (ext : ServerExtension ω ε κ ς) : Prop where
  disconnect : OpenSomeIp.Translated ext.tcpTransport.disconnect
  initializeSd : OpenSomeIp.Translated ext.sdServer.initializeServer
  shutdownSd : OpenSomeIp.Translated ext.sdServer.shutdown
  toCppServiceInstance : ∀ service, OpenSomeIp.Translated (ext.sdServer.toCppServiceInstance service)
  offerService : ∀ service endpoint, OpenSomeIp.Translated (ext.sdServer.offerService service endpoint)
  stopOfferService : ∀ serviceId instanceId,
    OpenSomeIp.Translated (ext.sdServer.stopOfferService serviceId instanceId)
  initializeRpc : OpenSomeIp.Translated ext.rpcServer.initializeServer
  shutdownRpc : OpenSomeIp.Translated ext.rpcServer.shutdown
  initializeEvents : OpenSomeIp.Translated ext.eventPublisher.initializePublisher
  shutdownEvents : OpenSomeIp.Translated ext.eventPublisher.shutdown
  initializeTp : OpenSomeIp.Translated ext.tpManager.initializeManager
  setMessageCallback : OpenSomeIp.Translated ext.tpManager.setMessageCallback
  shutdownTp : OpenSomeIp.Translated ext.tpManager.shutdown

namespace SomeIpServer

variable {ω ε κ ς : Type} (config : ServerSettings) (ext : Option (ServerExtension ω ε κ ς))

theorem node_lawful : (node config ext).Lawful where
  sd := Component.part_lawful _ _ _
  rpc := Component.part_lawful _ _ _
  events := Component.part_lawful _ _ _
  tpManager := Component.part_lawful _ _ _
  offers := by
    intro offer member w
    obtain ⟨service, -, rfl⟩ := List.mem_map.mp member
    exact SdServer.offer_running _ service w
  stopOffers := by
    intro stopOffer member w
    obtain ⟨service, -, rfl⟩ := List.mem_map.mp member
    exact SdServer.stopOffer_running _ service w

variable {ext}

theorem node_returns (translated : ∀ native, ext = some native → native.Translated) :
    (node config ext).Returns where
  sd := Component.part_returns _
    (Translated.map_map fun native present => (translated native present).initializeSd)
    (Translated.map_map fun native present => (translated native present).shutdownSd)
  rpc := Component.part_returns _
    (Translated.map_map fun native present => (translated native present).initializeRpc)
    (Translated.map_map fun native present => (translated native present).shutdownRpc)
  events := Component.part_returns _
    (Translated.map_map fun native present => (translated native present).initializeEvents)
    (Translated.map_map fun native present => (translated native present).shutdownEvents)
  tpManager := Component.part_returns _
    (Translated.map_map fun native present =>
      (translated native present).initializeTp.bind fun _ =>
        (translated native present).setMessageCallback)
    (Translated.map_map fun native present => (translated native present).shutdownTp)
  offers := by
    intro offer member
    obtain ⟨service, -, rfl⟩ := List.mem_map.mp member
    apply SdServer.offer_returns
    apply Translated.map_map
    intro native present
    exact ((translated native present).toCppServiceInstance service).bind fun _ =>
      (translated native present).offerService _ _
  stopOffers := by
    intro stopOffer member
    obtain ⟨service, -, rfl⟩ := List.mem_map.mp member
    apply SdServer.stopOffer_returns
    apply Translated.map_map
    intro native present
    exact (translated native present).stopOfferService _ _

theorem node_disconnects (translated : ∀ native, ext = some native → native.Translated)
    (w : TransportWorld ω) : (node config ext).transport.Disconnects w := by
  cases mode : config.transportMode with
  | udp =>
      simp only [node, ServerSettings.transport, mode]
      trivial
  | tcp =>
      simp only [node, ServerSettings.transport, mode]
      intro cpp exc present _ raised
      obtain ⟨native, found, rfl⟩ := Option.map_eq_some_iff.mp present
      exact (translated native found).disconnect w.native exc raised

theorem create_allStopped {η : Type} (native : ω) (app : App η) :
    (node config ext).AllStopped (create config native app) where
  running := rfl
  transport := by
    cases mode : config.transportMode with
    | udp =>
        simp only [node, ServerSettings.transport, mode]
        rfl
    | tcp =>
        simp only [node, ServerSettings.transport, mode]
        exact ⟨rfl, rfl⟩
  sd := rfl
  rpc := rfl
  events := rfl
  tpManager := by
    intro tpManager enabled
    unfold create at enabled
    split at enabled
    · obtain rfl := Option.some.inj enabled
      rfl
    · cases enabled

end SomeIpServer

end OpenSomeIp
