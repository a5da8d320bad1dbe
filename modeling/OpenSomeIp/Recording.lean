import OpenSomeIp.ClientNode
import OpenSomeIp.Lib.Keeping

set_option autoImplicit false

/-! Native layers with a log beside them: the payloads that they took without raising. -/

namespace OpenSomeIp

open Method

variable {ω ε κ ς : Type}

namespace NativeTransport

def recorded (cpp : NativeTransport ω ε κ) :
    NativeTransport (ω × List Bytes) ε (κ × Bytes) where
  toCppEndpoint endpoint := beside (cpp.toCppEndpoint endpoint)
  toCppMessage message := do
    let cppMsg ← beside (cpp.toCppMessage message)
    pure (cppMsg, message.payload)
  start := beside cpp.start
  stop := beside cpp.stop
  sendMessage cppMsg cppEp := noting cppMsg.2 (cpp.sendMessage cppMsg.1 cppEp)

end NativeTransport

namespace NativeUdpTransport

def recorded (cpp : NativeUdpTransport ω ε κ) :
    NativeUdpTransport (ω × List Bytes) ε (κ × Bytes) where
  toNativeTransport := cpp.toNativeTransport.recorded
  joinMulticastGroup group := beside (cpp.joinMulticastGroup group)

end NativeUdpTransport

namespace NativeTcpTransport

def recorded (cpp : NativeTcpTransport ω ε κ) :
    NativeTcpTransport (ω × List Bytes) ε (κ × Bytes) where
  toNativeTransport := cpp.toNativeTransport.recorded
  initializeTransport endpoint := beside (cpp.initializeTransport endpoint)
  connect endpoint := beside (cpp.connect endpoint)
  disconnect := beside cpp.disconnect

end NativeTcpTransport

namespace NativeSdServer

def recorded (cpp : NativeSdServer ω ς) : NativeSdServer (ω × List Bytes) ς where
  initializeServer := beside cpp.initializeServer
  shutdown := beside cpp.shutdown
  toCppServiceInstance service := beside (cpp.toCppServiceInstance service)
  offerService service endpoint := beside (cpp.offerService service endpoint)
  stopOfferService serviceId instanceId := beside (cpp.stopOfferService serviceId instanceId)

end NativeSdServer

namespace NativeRpcServer

def recorded (cpp : NativeRpcServer ω) : NativeRpcServer (ω × List Bytes) where
  initializeServer := beside cpp.initializeServer
  shutdown := beside cpp.shutdown

end NativeRpcServer

namespace NativeEventPublisher

def recorded (cpp : NativeEventPublisher ω) : NativeEventPublisher (ω × List Bytes) where
  initializePublisher := beside cpp.initializePublisher
  shutdown := beside cpp.shutdown
  registerEvent eventId eventgroupId := beside (cpp.registerEvent eventId eventgroupId)
  publishEvent eventId data := noting data (cpp.publishEvent eventId data)
  publishField eventId data := noting data (cpp.publishField eventId data)

end NativeEventPublisher

namespace NativeTpManager

def recorded (cpp : NativeTpManager ω κ) : NativeTpManager (ω × List Bytes) (κ × Bytes) where
  int := cpp.int
  toCppMessage message := do
    let cppMsg ← beside (cpp.toCppMessage message)
    pure (cppMsg, message.payload)
  needsSegmentation cppMsg := beside (cpp.needsSegmentation cppMsg.1)
  segmentMessage cppMsg := beside (cpp.segmentMessage cppMsg.1)
  getNextSegment transferId := beside (cpp.getNextSegment transferId)
  initializeManager := beside cpp.initializeManager
  setMessageCallback := beside cpp.setMessageCallback
  shutdown := beside cpp.shutdown

end NativeTpManager

namespace ServerExtension

def recorded (ext : ServerExtension ω ε κ ς) :
    ServerExtension (ω × List Bytes) ε (κ × Bytes) ς where
  udpTransport := ext.udpTransport.recorded
  tcpTransport := ext.tcpTransport.recorded
  sdServer := ext.sdServer.recorded
  rpcServer := ext.rpcServer.recorded
  eventPublisher := ext.eventPublisher.recorded
  tpManager := ext.tpManager.recorded

end ServerExtension

namespace NativeRpcClient

def recorded (cpp : NativeRpcClient ω) : NativeRpcClient (ω × List Bytes) where
  int := cpp.int
  initializeClient := beside cpp.initializeClient
  shutdown := beside cpp.shutdown
  callMethodSync serviceId methodId params :=
    noting params (cpp.callMethodSync serviceId methodId params)
  callMethodAsync serviceId methodId params :=
    noting params (cpp.callMethodAsync serviceId methodId params)

end NativeRpcClient

end OpenSomeIp
