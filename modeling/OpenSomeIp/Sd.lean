import Mathlib.Data.Finset.Erase
import Mathlib.Data.Finset.Insert
import OpenSomeIp.Component

set_option autoImplicit false

namespace OpenSomeIp

structure ServiceInstance where
  serviceId : Int
  instanceId : Int
  majorVersion : Int := 1
  minorVersion : Int := 0
  deriving DecidableEq, Repr

structure SdConfig where
  unicastEndpoint : Endpoint

/-- The native server; `σ` are its service instances. -/
structure NativeSdServer (ω σ : Type) where
  initializeServer : Method Exn ω Unit
  shutdown : Method Exn ω Unit
  toCppServiceInstance : ServiceInstance → Method Exn ω σ
  offerService : σ → String → Method Exn ω Unit
  stopOfferService : Int → Int → Method Exn ω Unit

structure SdServer (ω σ : Type) where
  config : SdConfig
  cpp : Option (NativeSdServer ω σ) := none

structure SdServerAttributes where
  offered : Finset ServiceInstance := ∅

namespace SdServer

variable {ω σ : Type} (server : SdServer ω σ)

def start : Method Exn (Component ω SdServerAttributes) Unit :=
  Component.start (server.cpp.map (·.initializeServer))

def stop : Method Exn (Component ω SdServerAttributes) Unit :=
  Component.stop (server.cpp.map (·.shutdown)) fun _ => { offered := ∅ }

/-- The native calls of `offer`. -/
def offerNative (service : ServiceInstance) (cpp : NativeSdServer ω σ) : Method Exn ω Unit := do
  let cppSvc ← cpp.toCppServiceInstance service
  cpp.offerService cppSvc
    (server.config.unicastEndpoint.ip ++ ":" ++ toString server.config.unicastEndpoint.port)

def offer (service : ServiceInstance) : Method Exn (Component ω SdServerAttributes) Unit := do
  Component.tryNative (server.cpp.map (server.offerNative service))
  Method.modify fun self =>
    { self with attributes := { offered := insert service self.attributes.offered } }

def stopOffer (service : ServiceInstance) : Method Exn (Component ω SdServerAttributes) Unit := do
  Component.tryNative
    (server.cpp.map fun cpp => cpp.stopOfferService service.serviceId service.instanceId)
  Method.modify fun self =>
    { self with attributes := { offered := self.attributes.offered.erase service } }

theorem offer_running (service : ServiceInstance) (w : Component ω SdServerAttributes) :
    (server.offer service w).2.running = w.running :=
  Component.tryNative_then_running _
    (fun attributes : SdServerAttributes => { offered := insert service attributes.offered }) w

theorem stopOffer_running (service : ServiceInstance) (w : Component ω SdServerAttributes) :
    (server.stopOffer service w).2.running = w.running :=
  Component.tryNative_then_running _
    (fun attributes : SdServerAttributes => { offered := attributes.offered.erase service }) w

variable {server} {service : ServiceInstance}

theorem offer_returns (translated : ∀ body,
      server.cpp.map (server.offerNative service) = some body → Translated body)
    (w : Component ω SdServerAttributes) : ∃ u, server.offer service w = (.ok (), u) :=
  Component.tryNative_then_returns translated
    (fun attributes : SdServerAttributes => { offered := insert service attributes.offered }) w

theorem stopOffer_returns (translated : ∀ body,
      (server.cpp.map fun cpp => cpp.stopOfferService service.serviceId service.instanceId) =
        some body → Translated body)
    (w : Component ω SdServerAttributes) : ∃ u, server.stopOffer service w = (.ok (), u) :=
  Component.tryNative_then_returns translated
    (fun attributes : SdServerAttributes => { offered := attributes.offered.erase service }) w

end SdServer

structure NativeSdClient (ω : Type) where
  initializeClient : Method Exn ω Unit
  shutdown : Method Exn ω Unit
  findService : Int → Method Exn ω Unit

structure SdClient (ω : Type) where
  cpp : Option (NativeSdClient ω) := none

/-- The receivers that `find` has handed out, and the number of the last. -/
structure SdClientAttributes where
  receivers : List (UnboundedReceiver Message) := []
  findReceiver : Option Nat := none

namespace SdClient

variable {ω : Type} (client : SdClient ω)

def start : Method Exn (Component ω SdClientAttributes) Unit :=
  Component.start (client.cpp.map (·.initializeClient))

def closeFind (self : SdClientAttributes) : SdClientAttributes :=
  match self.findReceiver with
  | none => self
  | some number =>
      { self with receivers := self.receivers.modify number UnboundedReceiver.close }

def stop : Method Exn (Component ω SdClientAttributes) Unit :=
  Component.stop (client.cpp.map (·.shutdown)) closeFind

/-- Returns the number of the receiver. -/
def find (service : ServiceInstance) : Method Exn (Component ω SdClientAttributes) Nat := do
  let self ← Method.get
  let number := self.attributes.receivers.length
  Method.modify fun self =>
    { self with attributes :=
        { receivers := self.attributes.receivers ++ [.new], findReceiver := some number } }
  Component.tryNative (client.cpp.map fun cpp => cpp.findService service.serviceId)
  pure number

end SdClient

end OpenSomeIp
