import Mathlib.Data.Finset.Insert
import OpenSomeIp.Component

set_option autoImplicit false

namespace OpenSomeIp

/-- The native publisher. `register_event` includes the making of its `EventConfig`. -/
structure NativeEventPublisher (ω : Type) where
  initializePublisher : Method Exn ω Unit
  shutdown : Method Exn ω Unit
  registerEvent (eventId eventgroupId : Int) : Method Exn ω Unit
  publishEvent (eventId : Int) (data : Bytes) : Method Exn ω Unit
  publishField (eventId : Int) (data : Bytes) : Method Exn ω Unit

structure EventPublisher (ω : Type) where
  cpp : Option (NativeEventPublisher ω) := none

/-- The event groups by the id of the event. -/
structure EventPublisherAttributes where
  registeredEvents : AList (fun _ : Int => Int) := ∅

namespace EventPublisher

variable {ω : Type} (publisher : EventPublisher ω)

def start : Method Exn (Component ω EventPublisherAttributes) Unit :=
  Component.start (publisher.cpp.map (·.initializePublisher))

def stop : Method Exn (Component ω EventPublisherAttributes) Unit :=
  Component.stop (publisher.cpp.map (·.shutdown)) fun _ => { registeredEvents := ∅ }

def registerEvent (eventId eventgroupId : Int) :
    Method Exn (Component ω EventPublisherAttributes) Unit := do
  Method.modify fun self =>
    { self with attributes :=
        { registeredEvents := self.attributes.registeredEvents.insert eventId eventgroupId } }
  match publisher.cpp with
  | none => pure ()
  | some cpp => Component.onNative (cpp.registerEvent eventId eventgroupId)

def notRegistered (eventId : Int) : Exn :=
  .configurationError ("Event " ++ hexOfInt 4 eventId ++ " is not registered")

def notify (eventId : Int) (payload : Bytes) :
    Method Exn (Component ω EventPublisherAttributes) Unit := do
  let self ← Method.get
  if eventId ∉ self.attributes.registeredEvents then Method.raise (notRegistered eventId)
  else
    match publisher.cpp with
    | none =>
        Method.raise (.runtimeError
          ("Cannot publish events: opensomeip C++ extension is not available. " ++
            "See https://github.com/vtz/opensomeip-python#troubleshooting"))
    | some cpp => Component.onNative (cpp.publishEvent eventId payload)

def setField (eventId : Int) (payload : Bytes) :
    Method Exn (Component ω EventPublisherAttributes) Unit :=
  match publisher.cpp with
  | none =>
      Method.raise (.runtimeError
        ("Cannot set field: opensomeip C++ extension is not available. " ++
          "See https://github.com/vtz/opensomeip-python#troubleshooting"))
  | some cpp => Component.onNative (cpp.publishField eventId payload)

end EventPublisher

structure NativeEventSubscriber (ω : Type) where
  initializeSubscriber : Method Exn ω Unit
  shutdown : Method Exn ω Unit

structure EventSubscriber (ω : Type) where
  cpp : Option (NativeEventSubscriber ω) := none

structure EventSubscriberAttributes where
  notificationReceiver : UnboundedReceiver Message := .new
  statusReceiver : Option (UnboundedReceiver Message) := none
  subscribedGroups : Finset Int := ∅

namespace EventSubscriber

variable {ω : Type} (subscriber : EventSubscriber ω)

def start : Method Exn (Component ω EventSubscriberAttributes) Unit :=
  Component.start (subscriber.cpp.map (·.initializeSubscriber))

def closeReceivers (self : EventSubscriberAttributes) : EventSubscriberAttributes where
  notificationReceiver := self.notificationReceiver.close
  statusReceiver := self.statusReceiver.map UnboundedReceiver.close
  subscribedGroups := ∅

def stop : Method Exn (Component ω EventSubscriberAttributes) Unit :=
  Component.stop (subscriber.cpp.map (·.shutdown)) closeReceivers

end EventSubscriber

end OpenSomeIp
