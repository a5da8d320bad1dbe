import OpenSomeIp.Component

set_option autoImplicit false

namespace OpenSomeIp

structure NativeRpcServer (ω : Type) where
  initializeServer : Method Exn ω Unit
  shutdown : Method Exn ω Unit

structure RpcServer (ω : Type) where
  cpp : Option (NativeRpcServer ω) := none

/-- The receivers that `incoming_requests` has handed out, and the dictionary of those in use:
their numbers by the value of the method id. -/
structure RpcServerAttributes where
  receivers : List (UnboundedReceiver Message) := []
  requestReceivers : AList (fun _ : Nat => Nat) := ∅

namespace RpcServer

variable {ω : Type} (server : RpcServer ω)

def start : Method Exn (Component ω RpcServerAttributes) Unit :=
  Component.start (server.cpp.map (·.initializeServer))

def closeReceivers (self : RpcServerAttributes) : RpcServerAttributes where
  receivers := (self.requestReceivers.entries.map (·.2)).foldl
    (fun receivers number => receivers.modify number UnboundedReceiver.close) self.receivers
  requestReceivers := ∅

def stop : Method Exn (Component ω RpcServerAttributes) Unit :=
  Component.stop (server.cpp.map (·.shutdown)) closeReceivers

/-- Returns the number of the receiver. -/
def incomingRequests (methodId : MessageId) :
    Method Exn (Component ω RpcServerAttributes) Nat := do
  let self ← Method.get
  let number := self.attributes.receivers.length
  Method.modify fun self =>
    { self with attributes :=
        { receivers := self.attributes.receivers ++ [.new]
          requestReceivers := self.attributes.requestReceivers.insert methodId.value number } }
  pure number

end RpcServer

end OpenSomeIp
