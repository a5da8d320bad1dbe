import OpenSomeIp.Component
import OpenSomeIp.Tp

set_option autoImplicit false

namespace OpenSomeIp

/-- All of the native manager. -/
structure NativeTpManager (ω κ : Type) extends NativeTp ω κ where
  initializeManager : Method Exn ω Unit
  setMessageCallback : Method Exn ω Unit
  shutdown : Method Exn ω Unit

structure TpManagerAttributes where
  reassemblyReceiver : UnboundedReceiver Message := .new

namespace NativeTpManager

variable {ω κ : Type}

/-- The native calls of `TpManager.start`. -/
def startUp (cpp : NativeTpManager ω κ) : Method Exn ω Unit := do
  cpp.initializeManager
  cpp.setMessageCallback

end NativeTpManager

namespace TpManager

variable {ω κ : Type} (cpp : Option (NativeTpManager ω κ))

def start : Method Exn (Component ω TpManagerAttributes) Unit :=
  Component.start (cpp.map (·.startUp))

def closeReceiver (self : TpManagerAttributes) : TpManagerAttributes where
  reassemblyReceiver := self.reassemblyReceiver.close

def stop : Method Exn (Component ω TpManagerAttributes) Unit :=
  Component.stop (cpp.map (·.shutdown)) closeReceiver

end TpManager

end OpenSomeIp
