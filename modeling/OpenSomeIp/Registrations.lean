import Mathlib.Data.Finset.Erase
import OpenSomeIp.EventIsolation
import OpenSomeIp.Events
import OpenSomeIp.Lib.Registering
import OpenSomeIp.RpcDispatch
import OpenSomeIp.RpcServer

set_option autoImplicit false

namespace OpenSomeIp

/-- A method of the extension, where there is an extension, raises. -/
def Refused {ω : Type} (method : Option (Method Exn ω Unit)) (s : ω) : Prop :=
  ∃ body exc, method = some body ∧ (body s).1 = .error exc

/-- A method that works on a part of the attributes. -/
def Component.within {ω β γ α : Type} (part : γ → β) (put : β → γ → γ)
    (body : Method Exn (Component ω β) α) : Method Exn (Component ω γ) α :=
  Method.zoom
    (fun self => ⟨self.native, self.running, part self.attributes⟩)
    (fun inner self => ⟨inner.native, inner.running, put inner.attributes self.attributes⟩) body

/-! ### Events that a publisher registers -/

/-- The calls on an `EventPublisher`. -/
inductive PublisherAct where
  | start
  | stop
  | registerEvent (eventId eventgroupId : Int)
  | notify (eventId : Int) (payload : Bytes)
  | setField (eventId : Int) (payload : Bytes)
  deriving DecidableEq, Repr

namespace EventPublisher

variable {ω : Type} (publisher : EventPublisher ω)

def call : PublisherAct → Method Exn (Component ω EventPublisherAttributes) Unit
  | .start => publisher.start
  | .stop => publisher.stop
  | .registerEvent eventId eventgroupId => publisher.registerEvent eventId eventgroupId
  | .notify eventId payload => publisher.notify eventId payload
  | .setField eventId payload => publisher.setField eventId payload

/-- The registry is `_registered_events`, which a stop that returns clears. -/
def calls : Registering.Calls Exn (Component ω EventPublisherAttributes) PublisherAct
    (Int → Option Int) where
  call := publisher.call
  registry w event := w.attributes.registeredEvents.lookup event
  entry
    | .registerEvent eventId eventgroupId =>
        some fun registry => Function.update registry eventId (some eventgroupId)
    | _ => none
  others
    | .stop, .ok () => fun _ _ => none
    | _, _ => id

/-- An event that the native publisher refuses is registered already, in that group. -/
def Permits (w : Component ω EventPublisherAttributes) : PublisherAct → Prop
  | .registerEvent eventId eventgroupId =>
      Refused (publisher.cpp.map (·.registerEvent eventId eventgroupId)) w.native →
        w.attributes.registeredEvents.lookup eventId = some eventgroupId
  | _ => True

variable {publisher} {w : Component ω EventPublisherAttributes}

theorem registerEvent_attributes (eventId eventgroupId : Int) :
    (publisher.registerEvent eventId eventgroupId w).2.attributes.registeredEvents =
      w.attributes.registeredEvents.insert eventId eventgroupId := by
  rw [registerEvent, Method.bind_apply]
  cases publisher.cpp <;> rfl

theorem registerEvent_raised_iff (eventId eventgroupId : Int) :
    (∃ exc, (publisher.registerEvent eventId eventgroupId w).1 = .error exc) ↔
      Refused (publisher.cpp.map (·.registerEvent eventId eventgroupId)) w.native := by
  rw [registerEvent, Method.bind_apply]
  cases publisher.cpp with
  | none => simp [Refused]
  | some cpp => simp [Refused, Component.onNative]

theorem notify_of_unregistered {eventId : Int}
    (unregistered : w.attributes.registeredEvents.lookup eventId = none) (payload : Bytes) :
    publisher.notify eventId payload w = (.error (notRegistered eventId), w) := by
  have absent : eventId ∉ w.attributes.registeredEvents := AList.lookup_eq_none.mp unregistered
  simp only [notify, Method.bind_apply, Method.get_apply, if_pos absent, Method.raise_apply]

theorem notify_attributes (eventId : Int) (payload : Bytes) :
    (publisher.notify eventId payload w).2.attributes = w.attributes := by
  by_cases absent : eventId ∉ w.attributes.registeredEvents
  · simp only [notify, Method.bind_apply, Method.get_apply, if_pos absent, Method.raise_apply]
  · simp only [notify, Method.bind_apply, Method.get_apply, if_neg absent]
    cases publisher.cpp <;> rfl

theorem setField_attributes (eventId : Int) (payload : Bytes) :
    (publisher.setField eventId payload w).2.attributes = w.attributes := by
  rw [setField]
  cases publisher.cpp <;> rfl

theorem stop_registry :
    (fun event => (publisher.stop w).2.attributes.registeredEvents.lookup event) =
      match (publisher.stop w).1 with
      | .ok () => fun _ => none
      | .error _ => fun event => w.attributes.registeredEvents.lookup event := by
  rw [stop]
  by_cases caught : Caught (publisher.cpp.map (·.shutdown)) w.native
  · obtain ⟨native, stopped⟩ := Component.stop_of_caught caught
    rw [stopped]
    rfl
  · obtain ⟨native, exc, stopped⟩ := Component.stop_of_uncaught caught
    rw [stopped]

theorem calls_laws (publisher : EventPublisher ω) : Registering.Laws publisher.calls where
  entered a enter registers w := by
    cases a with
    | registerEvent eventId eventgroupId =>
        obtain rfl := Option.some.inj registers
        simp only [calls, call, registerEvent_attributes]
        exact Registering.lookup_insert_update _ eventId eventgroupId
    | _ => cases registers
  other a nothing w := by
    cases a with
    | start => simp only [calls, call, start, Component.start_attributes, id]
    | stop =>
        simp only [calls, call, stop_registry]
        cases (publisher.stop w).1 with
        | ok value => rfl
        | error exc => rfl
    | registerEvent eventId eventgroupId => cases nothing
    | notify eventId payload => simp only [calls, call, notify_attributes, id]
    | setField eventId payload => simp only [calls, call, setField_attributes, id]

theorem traceless_iff_permits (w : Component ω EventPublisherAttributes) (a : PublisherAct) :
    Registering.Traceless publisher.calls w a ↔ publisher.Permits w a := by
  cases a with
  | registerEvent eventId eventgroupId =>
      rw [Registering.traceless_entry_iff (calls_laws publisher) rfl]
      apply imp_congr (registerEvent_raised_iff eventId eventgroupId)
      exact Function.update_eq_self_iff.trans eq_comm
  | _ => exact iff_of_true (Registering.traceless_of_other rfl) trivial

end EventPublisher

/-! ### Groups that a subscriber subscribes to -/

/-- The native subscriber with all its calls. -/
structure NativeEventgroups (ω : Type) where
  lifecycle : NativeEventSubscriber ω
  subscriptions : NativeSubscriptions ω
  unsubscribeEventgroup : Int → Int → Int → Method Exn ω Unit

/-- All attributes of an `EventSubscriber`; the status receiver is one of the receivers. -/
structure SubscriberAttributes where
  subscriptions : SubscriptionAttributes := {}
  statusReceiver : Option Nat := none

/-- The call `receiver.close()`. -/
def ReceiverSystem.shut {α : Type} (s : ReceiverSystem α) : ReceiverSystem α :=
  (s.step .close).getD s

def SubscriberAttributes.closeReceivers (self : SubscriberAttributes) : SubscriberAttributes :=
  let notified := self.subscriptions.receivers.modify self.subscriptions.notificationReceiver
    ReceiverSystem.shut
  { self with subscriptions :=
      { self.subscriptions with
        receivers :=
          match self.statusReceiver with
          | none => notified
          | some number => notified.modify number ReceiverSystem.shut
        subscribedGroups := ∅ } }

/-- The calls on an `EventSubscriber`. -/
inductive SubscriberAct where
  | start
  | stop
  | subscribe (eventgroupId serviceId instanceId : Int)
  | unsubscribe (eventgroupId serviceId instanceId : Int)
  | subscriptionStatus
  deriving DecidableEq, Repr

namespace EventSubscriber

variable {ω : Type}

def unsubscribe (cpp : Option (NativeEventgroups ω)) (eventgroupId : Int)
    (serviceId instanceId : Int := 0xFFFF) :
    Method Exn (Component ω SubscriptionAttributes) Unit := do
  Method.modify fun self =>
    { self with attributes :=
        { self.attributes with
          subscribedGroups := self.attributes.subscribedGroups.erase eventgroupId } }
  match cpp with
  | none => pure ()
  | some cpp => Component.onNative (cpp.unsubscribeEventgroup serviceId instanceId eventgroupId)

/-- Returns the number of the receiver, which the first call makes. -/
def subscriptionStatus : Method Exn (Component ω SubscriberAttributes) Nat := do
  let self ← Method.get
  match self.attributes.statusReceiver with
  | some number => pure number
  | none => do
      let number := self.attributes.subscriptions.receivers.length
      Method.modify fun self =>
        { self with attributes :=
            { subscriptions :=
                { self.attributes.subscriptions with
                  receivers := self.attributes.subscriptions.receivers ++ [{}] }
              statusReceiver := some number } }
      pure number

variable (cpp : Option (NativeEventgroups ω))

def call : SubscriberAct → Method Exn (Component ω SubscriberAttributes) Unit
  | .start => Component.start (cpp.map (·.lifecycle.initializeSubscriber))
  | .stop => Component.stop (cpp.map (·.lifecycle.shutdown)) SubscriberAttributes.closeReceivers
  | .subscribe eventgroupId serviceId instanceId =>
      Component.within (·.subscriptions) (fun inner self => { self with subscriptions := inner })
        (subscribe (cpp.map (·.subscriptions)) eventgroupId serviceId instanceId)
  | .unsubscribe eventgroupId serviceId instanceId =>
      Component.within (·.subscriptions) (fun inner self => { self with subscriptions := inner })
        (unsubscribe cpp eventgroupId serviceId instanceId)
  | .subscriptionStatus => do
      let _ ← subscriptionStatus
      pure ()

/-- The registry is `_subscribed_groups`. -/
def calls : Registering.Calls Exn (Component ω SubscriberAttributes) SubscriberAct
    (Finset Int) where
  call := call cpp
  registry w := w.attributes.subscriptions.subscribedGroups
  entry
    | .subscribe eventgroupId _ _ => some (insert eventgroupId)
    | _ => none
  others
    | .stop, .ok () => fun _ => ∅
    | .unsubscribe eventgroupId _ _, _ => fun groups => groups.erase eventgroupId
    | _, _ => id

/-- A group that no native subscriber accepts is subscribed already. -/
def Permits (w : Component ω SubscriberAttributes) : SubscriberAct → Prop
  | .subscribe eventgroupId serviceId instanceId =>
      cpp.isNone ∨
        Refused (cpp.map (·.subscriptions.subscribeEventgroup serviceId instanceId eventgroupId
          ⟨w.attributes.subscriptions.notificationReceiver⟩)) w.native →
        eventgroupId ∈ w.attributes.subscriptions.subscribedGroups
  | _ => True

variable {cpp} {w : Component ω SubscriberAttributes}

theorem subscribe_groups (cpp : Option (NativeSubscriptions ω))
    (u : Component ω SubscriptionAttributes) (eventgroupId serviceId instanceId : Int) :
    (subscribe cpp eventgroupId serviceId instanceId u).2.attributes.subscribedGroups =
      insert eventgroupId u.attributes.subscribedGroups := by
  cases cpp <;> rfl

theorem unsubscribe_groups (u : Component ω SubscriptionAttributes)
    (eventgroupId serviceId instanceId : Int) :
    (unsubscribe cpp eventgroupId serviceId instanceId u).2.attributes.subscribedGroups =
      u.attributes.subscribedGroups.erase eventgroupId := by
  cases cpp <;> rfl

theorem subscribe_raised_iff (eventgroupId serviceId instanceId : Int) :
    (∃ exc, (call cpp (.subscribe eventgroupId serviceId instanceId) w).1 = .error exc) ↔
      cpp.isNone ∨
        Refused (cpp.map (·.subscriptions.subscribeEventgroup serviceId instanceId eventgroupId
          ⟨w.attributes.subscriptions.notificationReceiver⟩)) w.native := by
  rw [call, Component.within, Method.zoom_apply]
  cases cpp with
  | none => simp [subscribe, Method.bind_apply]
  | some cpp => simp [subscribe, Refused, Component.onNative, Method.bind_apply]

theorem subscriptionStatus_groups :
    (subscriptionStatus w).2.attributes.subscriptions.subscribedGroups =
      w.attributes.subscriptions.subscribedGroups := by
  simp only [subscriptionStatus, Method.bind_apply, Method.get_apply]
  cases w.attributes.statusReceiver <;> rfl

theorem stop_groups :
    (call cpp .stop w).2.attributes.subscriptions.subscribedGroups =
      match (call cpp .stop w).1 with
      | .ok () => ∅
      | .error _ => w.attributes.subscriptions.subscribedGroups := by
  rw [call]
  by_cases caught : Caught (cpp.map (·.lifecycle.shutdown)) w.native
  · obtain ⟨native, stopped⟩ := Component.stop_of_caught caught
    rw [stopped]
    rfl
  · obtain ⟨native, exc, stopped⟩ := Component.stop_of_uncaught caught
    rw [stopped]

theorem calls_laws (cpp : Option (NativeEventgroups ω)) : Registering.Laws (calls cpp) where
  entered a enter registers w := by
    cases a with
    | subscribe eventgroupId serviceId instanceId =>
        obtain rfl := Option.some.inj registers
        exact subscribe_groups _ _ eventgroupId serviceId instanceId
    | _ => cases registers
  other a nothing w := by
    cases a with
    | start => simp only [calls, call, Component.start_attributes, id]
    | stop =>
        simp only [calls, stop_groups]
        cases (call cpp .stop w).1 with
        | ok value => rfl
        | error exc => rfl
    | subscribe eventgroupId serviceId instanceId => cases nothing
    | unsubscribe eventgroupId serviceId instanceId =>
        exact unsubscribe_groups _ eventgroupId serviceId instanceId
    | subscriptionStatus =>
        simp only [calls, call, Method.bind_pure_state, id]
        exact subscriptionStatus_groups

theorem traceless_iff_permits (w : Component ω SubscriberAttributes) (a : SubscriberAct) :
    Registering.Traceless (calls cpp) w a ↔ Permits cpp w a := by
  cases a with
  | subscribe eventgroupId serviceId instanceId =>
      rw [Registering.traceless_entry_iff (calls_laws cpp) rfl]
      apply imp_congr (subscribe_raised_iff eventgroupId serviceId instanceId)
      exact Finset.insert_eq_self
  | _ => exact iff_of_true (Registering.traceless_of_other rfl) trivial

end EventSubscriber

/-! ### Handlers that a server registers -/

/-- The native server with all its calls. -/
structure NativeServer (ω η : Type) where
  lifecycle : NativeRpcServer ω
  registry : NativeRpcRegistry ω η

/-- All attributes of a `RpcServer`. -/
structure ServerAttributes (η ζ : Type) where
  handlers : RpcHandlers η := {}
  asyncHandlers : AList (fun _ : Nat => ζ) := ∅
  requests : RpcServerAttributes := {}

/-- The calls on a `RpcServer`. -/
inductive RpcServerAct (η ζ : Type) where
  | start
  | stop
  | registerHandler (methodId : MessageId) (handler : η)
  | registerAsyncHandler (methodId : MessageId) (handler : ζ)
  | incomingRequests (methodId : MessageId)
  deriving DecidableEq, Repr

namespace RpcServer

variable {ω η ζ : Type}

def registerAsyncHandler (methodId : MessageId) (handler : ζ) :
    Method Exn (Component ω (ServerAttributes η ζ)) Unit :=
  Method.modify fun self =>
    { self with attributes :=
        { self.attributes with
          asyncHandlers := self.attributes.asyncHandlers.insert methodId.value handler } }

def withinRequests {α : Type} (body : Method Exn (Component ω RpcServerAttributes) α) :
    Method Exn (Component ω (ServerAttributes η ζ)) α :=
  Component.within (·.requests) (fun inner self => { self with requests := inner }) body

variable (cpp : Option (NativeServer ω η))

def call : RpcServerAct η ζ → Method Exn (Component ω (ServerAttributes η ζ)) Unit
  | .start => withinRequests (start ⟨cpp.map (·.lifecycle)⟩)
  | .stop => withinRequests (stop ⟨cpp.map (·.lifecycle)⟩)
  | .registerHandler methodId handler =>
      Component.within (·.handlers) (fun inner self => { self with handlers := inner })
        (registerHandler (cpp.map (·.registry)) methodId handler)
  | .registerAsyncHandler methodId handler => registerAsyncHandler methodId handler
  | .incomingRequests methodId => do
      let _ ← withinRequests (incomingRequests methodId)
      pure ()

/-- The registry is `_handlers`, which no other call touches. -/
def calls : Registering.Calls Exn (Component ω (ServerAttributes η ζ)) (RpcServerAct η ζ)
    (Nat → Option η) where
  call := call cpp
  registry w methodId := w.attributes.handlers.handlers.lookup methodId
  entry
    | .registerHandler methodId handler =>
        some fun registry => Function.update registry methodId.value (some handler)
    | _ => none
  others _ _ := id

/-- A handler whose method the native server refuses is registered already. -/
def Permits (w : Component ω (ServerAttributes η ζ)) : RpcServerAct η ζ → Prop
  | .registerHandler methodId handler =>
      Refused (cpp.map (·.registry.registerMethod methodId.methodId ⟨handler⟩)) w.native →
        w.attributes.handlers.handlers.lookup methodId.value = some handler
  | _ => True

variable {cpp} {w : Component ω (ServerAttributes η ζ)}

theorem registerHandler_handlers (cpp : Option (NativeRpcRegistry ω η))
    (u : Component ω (RpcHandlers η)) (methodId : MessageId) (handler : η) :
    (registerHandler cpp methodId handler u).2.attributes.handlers =
      u.attributes.handlers.insert methodId.value handler := by
  cases cpp <;> rfl

theorem registerHandler_raised_iff (methodId : MessageId) (handler : η) :
    (∃ exc, (call cpp (.registerHandler methodId handler) w).1 = .error exc) ↔
      Refused (cpp.map (·.registry.registerMethod methodId.methodId ⟨handler⟩)) w.native := by
  rw [call, Component.within, Method.zoom_apply]
  cases cpp with
  | none => simp [registerHandler, Refused, Method.bind_apply]
  | some cpp => simp [registerHandler, Refused, Component.onNative, Method.bind_apply]

theorem calls_laws (cpp : Option (NativeServer ω η)) :
    Registering.Laws (calls (ζ := ζ) cpp) where
  entered a enter registers w := by
    cases a with
    | registerHandler methodId handler =>
        obtain rfl := Option.some.inj registers
        simp only [calls, call, Component.within, Method.zoom_apply, registerHandler_handlers]
        exact Registering.lookup_insert_update _ methodId.value handler
    | _ => cases registers
  other a nothing w := by
    cases a with
    | registerHandler methodId handler => cases nothing
    | incomingRequests methodId =>
        simp only [calls, call, Method.bind_pure_state]
        rfl
    | _ => rfl

theorem traceless_iff_permits (w : Component ω (ServerAttributes η ζ)) (a : RpcServerAct η ζ) :
    Registering.Traceless (calls cpp) w a ↔ Permits cpp w a := by
  cases a with
  | registerHandler methodId handler =>
      rw [Registering.traceless_entry_iff (calls_laws cpp) rfl]
      apply imp_congr (registerHandler_raised_iff methodId handler)
      exact Function.update_eq_self_iff.trans eq_comm
  | _ => exact iff_of_true (Registering.traceless_of_other rfl) trivial

end RpcServer

/-! ### Failed registrations -/

section Failed

open Registering

/-- A run leaves no trace of failed registrations exactly when the native side refuses nothing
in it but what is registered already. Then the registries hold what was accepted, and an event
that was not is one that `notify` does not know. -/
theorem failed_registrations_traceless_iff {ω η ζ : Type} (publisher : EventPublisher ω)
    (subscriber : Option (NativeEventgroups ω)) (server : Option (NativeServer ω η)) :
    (∀ w acts,
      (Throughout publisher.calls (Traceless publisher.calls) w acts ↔
        Throughout publisher.calls publisher.Permits w acts) ∧
      (Throughout publisher.calls publisher.Permits w acts → ∀ t, Leads publisher.calls w acts t →
        (∀ event, t.1.attributes.registeredEvents.lookup event = t.2 event) ∧
        ∀ event payload, t.2 event = none →
          publisher.notify event payload t.1 =
            (.error (EventPublisher.notRegistered event), t.1))) ∧
    (∀ w acts,
      (Throughout (EventSubscriber.calls subscriber)
          (Traceless (EventSubscriber.calls subscriber)) w acts ↔
        Throughout (EventSubscriber.calls subscriber) (EventSubscriber.Permits subscriber) w acts) ∧
      (Throughout (EventSubscriber.calls subscriber) (EventSubscriber.Permits subscriber) w acts →
        ∀ t, Leads (EventSubscriber.calls subscriber) w acts t →
          t.1.attributes.subscriptions.subscribedGroups = t.2)) ∧
    ∀ (w : Component ω (ServerAttributes η ζ)) acts,
      (Throughout (RpcServer.calls server) (Traceless (RpcServer.calls server)) w acts ↔
        Throughout (RpcServer.calls server) (RpcServer.Permits server) w acts) ∧
      (Throughout (RpcServer.calls server) (RpcServer.Permits server) w acts →
        ∀ t, Leads (RpcServer.calls server) w acts t →
          ∀ methodId, t.1.attributes.handlers.handlers.lookup methodId = t.2 methodId) := by
  refine ⟨fun w acts => ?_, fun w acts => ?_, fun w acts => ?_⟩
  · obtain ⟨exactly, accepted⟩ := throughout_iff (EventPublisher.calls_laws publisher)
      EventPublisher.traceless_iff_permits w acts
    refine ⟨exactly, fun permits t leads => ?_⟩
    have entries (event : Int) : t.1.attributes.registeredEvents.lookup event = t.2 event :=
      congrFun (accepted permits t leads) event
    refine ⟨entries, fun event payload unknown => ?_⟩
    apply EventPublisher.notify_of_unregistered
    rw [entries, unknown]
  · exact throughout_iff (EventSubscriber.calls_laws subscriber)
      EventSubscriber.traceless_iff_permits w acts
  · obtain ⟨exactly, accepted⟩ := throughout_iff (RpcServer.calls_laws server)
      RpcServer.traceless_iff_permits w acts
    refine ⟨exactly, fun permits t leads methodId => ?_⟩
    exact congrFun (accepted permits t leads) methodId

/-- A native publisher whose ids are 16-bit numbers. -/
def narrowPublisher : NativeEventPublisher Unit where
  initializePublisher := pure ()
  shutdown := pure ()
  registerEvent eventId eventgroupId :=
    if 0 ≤ eventId ∧ eventId ≤ 0xFFFF ∧ 0 ≤ eventgroupId ∧ eventgroupId ≤ 0xFFFF then pure ()
    else Method.raise (.native "TypeError" "incompatible function arguments")
  publishEvent eventId _ :=
    if 0 ≤ eventId ∧ eventId ≤ 0xFFFF then pure ()
    else Method.raise (.native "TypeError" "incompatible function arguments")
  publishField _ _ := pure ()

/-- Without the extension a group stays behind; so does an event whose id the extension does not
take, and `notify` hands it on. -/
theorem failed_registrations_leave_traces :
    (∃ exc w, EventSubscriber.call none (.subscribe 1 0xFFFF 0xFFFF)
        { native := (), attributes := {} } = (.error exc, w) ∧
      w.attributes.subscriptions.subscribedGroups = {1}) ∧
    ¬ Throughout (EventSubscriber.calls none) (Traceless (EventSubscriber.calls none))
        { native := (), attributes := {} } [.subscribe 1 0xFFFF 0xFFFF] ∧
    ∃ exc w, EventPublisher.registerEvent ⟨some narrowPublisher⟩ 0x10000 1
        { native := (), attributes := {} } = (.error exc, w) ∧
      (EventPublisher.notify ⟨some narrowPublisher⟩ 0x10000 [] w).1 ≠
        .error (EventPublisher.notRegistered 0x10000) := by
  refine ⟨⟨_, _, rfl, rfl⟩, ?_, ⟨_, _, rfl, by decide +kernel⟩⟩
  intro throughout
  have same := throughout.1 (insert 1) rfl _ rfl
  exact absurd same (by decide)

end Failed

end OpenSomeIp
