import OpenSomeIp.Lib.Mirror
import OpenSomeIp.Lib.Transition
import OpenSomeIp.Sd

set_option autoImplicit false

namespace OpenSomeIp

/-- The key that the native server knows a service instance by, and the versions under it. -/
def ServiceInstance.field (service : ServiceInstance) : (Int × Int) × (Int × Int) :=
  ((service.serviceId, service.instanceId), (service.majorVersion, service.minorVersion))

theorem ServiceInstance.field_injective : Function.Injective ServiceInstance.field := by
  rintro ⟨serviceId, instanceId, major, minor⟩ ⟨otherId, otherInstance, otherMajor, otherMinor⟩
    same
  simp only [field, Prod.mk.injEq] at same
  obtain ⟨⟨rfl, rfl⟩, rfl, rfl⟩ := same
  rfl

/-- The native server keeps its offers in a table. A call may fail without raising; `accepts` and
`withdraws` say when `offer_service` and `stop_offer_service` succeed. -/
structure OfferTable {ω σ : Type} (cpp : NativeSdServer ω σ) where
  offers : ω → Int × Int → Option (Int × Int)
  denotes : σ → ServiceInstance
  accepts : σ → String → ω → Prop
  withdraws : Int → Int → ω → Prop
  initialize_offers : ∀ s, offers (cpp.initializeServer s).2 = offers s
  convert_offers : ∀ service s, offers (cpp.toCppServiceInstance service s).2 = offers s
  convert_denotes : ∀ service s cppSvc,
    (cpp.toCppServiceInstance service s).1 = .ok cppSvc → denotes cppSvc = service
  offer_accepted : ∀ cppSvc endpoint s, accepts cppSvc endpoint s →
    (cpp.offerService cppSvc endpoint s).1 = .ok () ∧
      offers (cpp.offerService cppSvc endpoint s).2 = Function.update (offers s)
        (denotes cppSvc).field.1 (some (denotes cppSvc).field.2)
  offer_refused : ∀ cppSvc endpoint s, ¬ accepts cppSvc endpoint s →
    offers (cpp.offerService cppSvc endpoint s).2 = offers s
  stop_withdrawn : ∀ serviceId instanceId s, withdraws serviceId instanceId s →
    (cpp.stopOfferService serviceId instanceId s).1 = .ok () ∧
      offers (cpp.stopOfferService serviceId instanceId s).2 =
        Function.update (offers s) (serviceId, instanceId) none
  stop_refused : ∀ serviceId instanceId s, ¬ withdraws serviceId instanceId s →
    offers (cpp.stopOfferService serviceId instanceId s).2 = offers s
  shutdown_returned : ∀ s, (cpp.shutdown s).1 = .ok () →
    offers (cpp.shutdown s).2 = fun _ => none
  shutdown_raised : ∀ s exc, (cpp.shutdown s).1 = .error exc →
    offers (cpp.shutdown s).2 = offers s

inductive OfferAction where
  | start
  | stop
  | offer (service : ServiceInstance)
  | stopOffer (service : ServiceInstance)
  deriving DecidableEq, Repr

namespace SdServer

variable {ω σ : Type}

def call (server : SdServer ω σ) (w : Component ω SdServerAttributes) :
    OfferAction → Component ω SdServerAttributes
  | .start => (server.start w).2
  | .stop => (server.stop w).2
  | .offer service => (server.offer service w).2
  | .stopOffer service => (server.stopOffer service w).2

def step (server : SdServer ω σ) (w : Component ω SdServerAttributes) (action : OfferAction) :
    Option (Component ω SdServerAttributes) :=
  some (server.call w action)

end SdServer

namespace OfferTable

variable {ω σ : Type} {cpp : NativeSdServer ω σ} (table : OfferTable cpp)

/-- The service instances that the native server offers. -/
def offered (s : ω) : Set ServiceInstance :=
  {service | table.offers s service.field.1 = some service.field.2}

/-- `offered_services` is what the native server offers. -/
def Mirrored (w : Component ω SdServerAttributes) : Prop :=
  (w.attributes.offered : Set ServiceInstance) = table.offered w.native

/-- The native half of an `offer` succeeds. -/
def Accepts (config : SdConfig) (service : ServiceInstance) (s : ω) : Prop :=
  ∃ cppSvc t, cpp.toCppServiceInstance service s = (.ok cppSvc, t) ∧
    table.accepts cppSvc
      (config.unicastEndpoint.ip ++ ":" ++ toString config.unicastEndpoint.port) t

/-- No other version of the service instance is offered. -/
def OneVersion (w : Component ω SdServerAttributes) (service : ServiceInstance) : Prop :=
  ∀ other ∈ w.attributes.offered, other.field.1 = service.field.1 → other = service

/-- A native call that succeeds touches no other version, and one that fails has nothing to do. A
`BaseException` leaves both sides alone. -/
def Allowed (config : SdConfig) (w : Component ω SdServerAttributes) : OfferAction → Prop
  | .start => True
  | .stop =>
      (∃ exc, (cpp.shutdown w.native).1 = .error exc ∧ exc.isException = true) →
        w.attributes.offered = ∅
  | .offer service =>
      (table.Accepts config service w.native → OneVersion w service) ∧
        (¬ table.Accepts config service w.native →
          Caught (some (SdServer.offerNative ⟨config, some cpp⟩ service cpp)) w.native →
            service ∈ w.attributes.offered)
  | .stopOffer service =>
      (table.withdraws service.serviceId service.instanceId w.native → OneVersion w service) ∧
        (¬ table.withdraws service.serviceId service.instanceId w.native →
          Caught (some (cpp.stopOfferService service.serviceId service.instanceId)) w.native →
            service ∉ w.attributes.offered)

variable {table} {config : SdConfig} {w : Component ω SdServerAttributes}
  {service : ServiceInstance}

theorem mirrored_iff {offered : Finset ServiceInstance} {running : Bool} {native : ω} :
    table.Mirrored { native := native, running := running, attributes := { offered := offered } } ↔
      Mirror.Mirrors ServiceInstance.field (offered : Set ServiceInstance)
        (table.offers native) :=
  Set.ext_iff

theorem mirrors (mirrored : table.Mirrored w) :
    Mirror.Mirrors ServiceInstance.field (w.attributes.offered : Set ServiceInstance)
      (table.offers w.native) :=
  Set.ext_iff.mp mirrored

/-! ### The native half -/

theorem offerNative_of_accepts {s : ω} (accepts : table.Accepts config service s) :
    (SdServer.offerNative ⟨config, some cpp⟩ service cpp s).1 = .ok () ∧
      table.offers (SdServer.offerNative ⟨config, some cpp⟩ service cpp s).2 =
        Function.update (table.offers s) service.field.1 (some service.field.2) := by
  obtain ⟨cppSvc, t, converted, accepted⟩ := accepts
  have before : table.offers t = table.offers s := by
    rw [← table.convert_offers service s, converted]
  have same : table.denotes cppSvc = service :=
    table.convert_denotes service s cppSvc (by rw [converted])
  rw [SdServer.offerNative, Method.bind_of_ok converted]
  have offered := table.offer_accepted cppSvc _ t accepted
  rw [same, before] at offered
  exact offered

theorem offerNative_of_refused {s : ω} (refused : ¬ table.Accepts config service s) :
    table.offers (SdServer.offerNative ⟨config, some cpp⟩ service cpp s).2 =
      table.offers s := by
  cases converted : cpp.toCppServiceInstance service s with
  | mk result t =>
      have before : table.offers t = table.offers s := by
        rw [← table.convert_offers service s, converted]
      cases result with
      | error exc =>
          rw [SdServer.offerNative, Method.bind_of_error converted]
          exact before
      | ok cppSvc =>
          rw [SdServer.offerNative, Method.bind_of_ok converted, ← before]
          apply table.offer_refused
          intro accepted
          exact refused ⟨cppSvc, t, converted, accepted⟩

/-! ### One call -/

section Guarded

variable {body : Method Exn ω Unit} (update : Finset ServiceInstance → Finset ServiceInstance)

/-- A guarded native call that is caught, with what the method does to the set behind it. -/
theorem tryNative_then (caught : Caught (some body) w.native) :
    ((do
      Component.tryNative (some body)
      Method.modify fun self =>
        { self with attributes := { offered := update self.attributes.offered } } :
          Method Exn (Component ω SdServerAttributes) Unit) w).2 =
      { w with
        native := (body w.native).2
        attributes := { offered := update w.attributes.offered } } := by
  obtain ⟨native, tried⟩ := Component.tryNative_of_caught caught
  have left := Component.tryNative_native body w
  rw [tried] at left
  rw [Method.bind_of_ok tried, Method.modify_apply, ← left]

/-- A `BaseException` of the native call ends the method there. -/
theorem tryNative_then_uncaught (uncaught : ¬ Caught (some body) w.native) :
    ((do
      Component.tryNative (some body)
      Method.modify fun self =>
        { self with attributes := { offered := update self.attributes.offered } } :
          Method Exn (Component ω SdServerAttributes) Unit) w).2 =
      { w with native := (body w.native).2 } := by
  obtain ⟨native, exc, tried⟩ := Component.tryNative_of_uncaught uncaught
  have left := Component.tryNative_native body w
  rw [tried] at left
  rw [Method.bind_of_error tried, ← left]

theorem caught_of_ok {s : ω} (returned : (body s).1 = .ok ()) :
    Caught (some body) s := by
  intro other exc same raised
  obtain rfl := Option.some.inj same
  cases returned.symm.trans raised

/-- A method that updates the set behind a guarded native call: where the call succeeds both
sides change, where it fails quietly the set alone, and a `BaseException` leaves both. -/
theorem guarded_mirrored_iff {succeeds alone needless : Prop} (mirrored : table.Mirrored w)
    (returned : succeeds → (body w.native).1 = .ok ())
    (changed : succeeds → (Mirror.Mirrors ServiceInstance.field
      (update w.attributes.offered : Set ServiceInstance)
        (table.offers (body w.native).2) ↔ alone))
    (kept : ¬ succeeds → table.offers (body w.native).2 = table.offers w.native)
    (idle : Mirror.Mirrors ServiceInstance.field
      (update w.attributes.offered : Set ServiceInstance) (table.offers w.native) ↔ needless) :
    table.Mirrored ((do
      Component.tryNative (some body)
      Method.modify fun self =>
        { self with attributes := { offered := update self.attributes.offered } } :
          Method Exn (Component ω SdServerAttributes) Unit) w).2 ↔
      (succeeds → alone) ∧ (¬ succeeds → Caught (some body) w.native → needless) := by
  by_cases done : succeeds
  · rw [tryNative_then update (caught_of_ok (returned done)), mirrored_iff, changed done]
    simp only [done, true_imp_iff, not_true_eq_false, false_implies, and_true]
  · by_cases caught : Caught (some body) w.native
    · rw [tryNative_then update caught, mirrored_iff, kept done, idle]
      simp only [done, false_implies, not_false_eq_true, caught, true_imp_iff, true_and]
    · rw [tryNative_then_uncaught update caught]
      apply iff_of_true
      · rw [Mirrored, offered, kept done]
        exact mirrored
      · exact ⟨fun other => absurd other done, fun _ other => absurd other caught⟩

end Guarded

theorem offer_mirrored_iff (mirrored : table.Mirrored w) :
    table.Mirrored (SdServer.offer ⟨config, some cpp⟩ service w).2 ↔
      table.Allowed config w (.offer service) := by
  apply guarded_mirrored_iff (insert service) mirrored
  · intro accepts
    exact (offerNative_of_accepts accepts).1
  · intro accepts
    rw [(offerNative_of_accepts accepts).2, Finset.coe_insert]
    exact Mirror.mirrors_put ServiceInstance.field_injective (mirrors mirrored)
  · exact offerNative_of_refused
  · rw [Finset.coe_insert]
    exact Mirror.mirrors_insert (mirrors mirrored)

theorem stopOffer_mirrored_iff (mirrored : table.Mirrored w) :
    table.Mirrored (SdServer.stopOffer ⟨config, some cpp⟩ service w).2 ↔
      table.Allowed config w (.stopOffer service) := by
  apply guarded_mirrored_iff (Finset.erase · service) mirrored
  · intro withdraws
    exact (table.stop_withdrawn _ _ _ withdraws).1
  · intro withdraws
    rw [(table.stop_withdrawn _ _ _ withdraws).2, Finset.coe_erase]
    exact Mirror.mirrors_drop (x := service) (mirrors mirrored)
  · exact table.stop_refused _ _ _
  · rw [Finset.coe_erase]
    exact Mirror.mirrors_erase (mirrors mirrored)

theorem start_mirrored (mirrored : table.Mirrored w) :
    table.Mirrored (SdServer.start ⟨config, some cpp⟩ w).2 := by
  have attributes : (SdServer.start ⟨config, some cpp⟩ w).2.attributes = w.attributes :=
    Component.start_attributes
  have native : (SdServer.start ⟨config, some cpp⟩ w).2.native =
      (cpp.initializeServer w.native).2 := Component.start_native _
  rw [Mirrored, attributes, native, offered, table.initialize_offers]
  exact mirrored

theorem stop_mirrored_iff (mirrored : table.Mirrored w) :
    table.Mirrored (SdServer.stop ⟨config, some cpp⟩ w).2 ↔ table.Allowed config w .stop := by
  have left : (SdServer.stop ⟨config, some cpp⟩ w).2.native = (cpp.shutdown w.native).2 :=
    Component.stop_native _
  by_cases caught : Caught (some cpp.shutdown) w.native
  · obtain ⟨native, ran⟩ : ∃ native, SdServer.stop ⟨config, some cpp⟩ w =
        (.ok (), { native := native, running := false, attributes := { offered := ∅ } }) :=
      Component.stop_of_caught caught
    rw [ran] at left ⊢
    dsimp only at left
    rw [mirrored_iff, left, Finset.coe_empty]
    cases outcome : (cpp.shutdown w.native).1 with
    | ok value =>
        rw [table.shutdown_returned w.native outcome]
        apply iff_of_true Mirror.mirrors_clear
        rintro ⟨exc, raised, _⟩
        cases outcome.symm.trans raised
    | error exc =>
        have kind : exc.isException = true := caught _ exc rfl outcome
        rw [table.shutdown_raised w.native exc outcome, Mirror.mirrors_empty (mirrors mirrored),
          Finset.coe_eq_empty]
        exact ⟨fun empty _ => empty, fun allowed => allowed ⟨exc, outcome, kind⟩⟩
  · obtain ⟨native, exc, ran⟩ : ∃ native exc, SdServer.stop ⟨config, some cpp⟩ w =
        (.error exc, { w with native := native }) := Component.stop_of_uncaught caught
    rw [ran] at left ⊢
    have passed (exc : Exn) (raised : (cpp.shutdown w.native).1 = .error exc) :
        exc.isException ≠ true := by
      intro kind
      apply caught
      intro body other same again
      obtain rfl := Option.some.inj same
      obtain rfl := Except.error.inj (raised.symm.trans again)
      exact kind
    cases outcome : (cpp.shutdown w.native).1 with
    | ok value => exact absurd (caught_of_ok outcome) caught
    | error exc =>
        apply iff_of_true
        · rw [Mirrored, offered, left, table.shutdown_raised w.native exc outcome]
          exact mirrored
        · rintro ⟨other, raised, kind⟩
          exact absurd kind (passed other raised)

theorem call_mirrored_iff (mirrored : table.Mirrored w) (action : OfferAction) :
    table.Mirrored (SdServer.call ⟨config, some cpp⟩ w action) ↔
      table.Allowed config w action := by
  cases action with
  | start => exact iff_of_true (start_mirrored mirrored) trivial
  | stop => exact stop_mirrored_iff mirrored
  | offer service => exact offer_mirrored_iff mirrored
  | stopOffer service => exact stopOffer_mirrored_iff mirrored

/-- From a native server without offers on, `offered_services` mirrors the native offers in every
state of a run exactly when every call that changes one side changes the other as much. -/
theorem offered_services_mirror_iff (table : OfferTable cpp) (config : SdConfig) (native : ω)
    (fresh : table.offered native = ∅) (actions : List OfferAction) :
    Transition.Along (SdServer.step ⟨config, some cpp⟩) (table.Allowed config)
        { native := native, attributes := {} } actions ↔
      ∀ front, front <+: actions →
        ∀ t, Transition.run (SdServer.step ⟨config, some cpp⟩)
            { native := native, attributes := {} } front = some t →
          (t.attributes.offered : Set ServiceInstance) = table.offered t.native := by
  have start : table.Mirrored { native := native, attributes := {} } := by
    rw [Mirrored, fresh]
    exact Finset.coe_empty
  have exactly (w : Component ω SdServerAttributes) (action : OfferAction)
      (mirrored : table.Mirrored w) :
      table.Mirrored (SdServer.call ⟨config, some cpp⟩ w action) ↔ table.Allowed config w action :=
    call_mirrored_iff mirrored action
  exact Transition.along_iff_always_call exactly start actions

/-- A native server that is its table, and refuses nothing. -/
def plainServer : NativeSdServer (Int × Int → Option (Int × Int)) ServiceInstance where
  initializeServer := pure ()
  shutdown := Method.modify fun _ _ => none
  toCppServiceInstance service := pure service
  offerService cppSvc _ := Method.modify fun offers =>
    Function.update offers cppSvc.field.1 (some cppSvc.field.2)
  stopOfferService serviceId instanceId := Method.modify fun offers =>
    Function.update offers (serviceId, instanceId) none

def plainTable : OfferTable plainServer where
  offers := id
  denotes := id
  accepts _ _ _ := True
  withdraws _ _ _ := True
  initialize_offers _ := rfl
  convert_offers _ _ := rfl
  convert_denotes _ _ _ converted := (Except.ok.inj converted).symm
  offer_accepted _ _ _ _ := ⟨rfl, rfl⟩
  offer_refused _ _ _ refused := absurd trivial refused
  stop_withdrawn _ _ _ _ := ⟨rfl, rfl⟩
  stop_refused _ _ _ refused := absurd trivial refused
  shutdown_returned _ _ := rfl
  shutdown_raised _ _ raised := nomatch raised

theorem offered_services_mirror_iff_plain :
    ∃ t, Transition.run (SdServer.step ⟨⟨"192.168.0.7", 30490⟩, some plainServer⟩)
        { native := fun _ => none, attributes := {} } [.start, .offer ⟨0x1234, 1, 1, 0⟩] = some t ∧
      (t.attributes.offered : Set ServiceInstance) = plainTable.offered t.native := by
  have fresh : plainTable.offered (fun _ => none) = ∅ :=
    Set.eq_empty_of_forall_notMem fun _ entry => nomatch entry
  have mirrors := offered_services_mirror_iff plainTable ⟨"192.168.0.7", 30490⟩ (fun _ => none)
    fresh [.start, .offer ⟨0x1234, 1, 1, 0⟩]
  refine ⟨_, rfl, mirrors.mp ?_ _ (List.prefix_refl _) _ rfl⟩
  refine ⟨trivial, fun t first => ?_⟩
  obtain rfl := Option.some.inj first
  refine ⟨⟨fun _ other member => absurd member (Finset.notMem_empty other), ?_⟩, fun _ _ => trivial⟩
  intro refused
  exact absurd ⟨⟨0x1234, 1, 1, 0⟩, _, rfl, trivial⟩ refused

/-- Offered again in another version, a service instance stays listed in the first. -/
theorem second_version_stays_listed :
    ∃ t, Transition.run (SdServer.step ⟨⟨"192.168.0.7", 30490⟩, some plainServer⟩)
        { native := fun _ => none, attributes := {} }
        [.start, .offer ⟨0x1234, 1, 1, 0⟩, .offer ⟨0x1234, 1, 2, 0⟩] = some t ∧
      (t.attributes.offered : Set ServiceInstance) ≠ plainTable.offered t.native := by
  refine ⟨_, rfl, fun same => ?_⟩
  have listed : (⟨0x1234, 1, 1, 0⟩ : ServiceInstance) ∈
      ({⟨0x1234, 1, 2, 0⟩, ⟨0x1234, 1, 1, 0⟩} : Finset ServiceInstance) := by decide
  have entry := (Set.ext_iff.mp same ⟨0x1234, 1, 1, 0⟩).mp listed
  cases entry

end OfferTable

end OpenSomeIp
