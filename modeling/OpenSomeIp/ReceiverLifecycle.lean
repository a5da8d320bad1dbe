import OpenSomeIp.Events
import OpenSomeIp.Lib.Lifecycle
import OpenSomeIp.TpManager
import OpenSomeIp.TransportKinds

set_option autoImplicit false

namespace OpenSomeIp

open Lifecycle (Act Machine)

/-- A component that serves its receiver: while it runs, the receiver is open and takes every
message it is handed; whatever stop takes it out of the running state closes the receiver. -/
structure Serves {σ : Type} (m : Machine σ) (receiver : σ → UnboundedReceiver Message) (s : σ)
    (history : List Act) : Prop where
  isOpen : ∀ front, front <+: history → ∀ t,
    Transition.run (Lifecycle.step m) s front = some t → m.running t = true →
      (receiver t).closed = false ∧
        ∀ message, ((receiver t).put message).items = (receiver t).items ++ [.message message]
  isClosed : ∀ front, front ++ [.stop] <+: history → ∀ t,
    Transition.run (Lifecycle.step m) s front = some t → m.running t = true →
      m.running (m.stop t) = false → (receiver (m.stop t)).closed = true

theorem serves_iff_consistent {σ : Type} {m : Machine σ} {receiver : σ → UnboundedReceiver Message}
    (same : ∀ s, m.closed s = (receiver s).closed) {s : σ} {history : List Act} :
    Serves m receiver s history ↔ Lifecycle.Consistent m s history := by
  constructor
  · intro serves
    constructor
    · intro front inside t reached running
      rw [same]
      exact (serves.isOpen front inside t reached running).1
    · intro front inside t reached running ended
      rw [same]
      exact serves.isClosed front inside t reached running ended
  · intro consistent
    constructor
    · intro front inside t reached running
      have open_ := consistent.isOpen front inside t reached running
      rw [same] at open_
      exact ⟨open_, UnboundedReceiver.put_items_of_open open_⟩
    · intro front inside t reached running ended
      rw [← same]
      exact consistent.isClosed front inside t reached running ended

namespace AnyTransport

variable {ω ε κ : Type} (transport : AnyTransport ω ε κ)

def machine : Machine (TransportWorld ω) where
  start w := (transport.start w).2
  stop w := (transport.stop w).2
  running w := w.running
  closed w := w.receiver.closed

/-- A stop of the running transport gets as far as the native `stop`, which raises. -/
def Leaks : AnyTransport ω ε κ → TransportWorld ω → Prop
  | .udp transport, w => ¬ transport.super.StopsClean w.native
  | .tcp transport, w =>
      (transport.disconnectNative w.connected w.native).1 = .ok () ∧
        ¬ transport.super.StopsClean (transport.disconnectNative w.connected w.native).2

end AnyTransport

namespace Transport

variable {ω ε κ : Type} {transport : Transport ω ε κ} {w : TransportWorld ω}

/-- The receiver of a running transport stays open exactly when the native `stop` raises. -/
theorem stop_closed_iff (running : w.running = true) (open_ : w.receiver.closed = false) :
    (transport.stop w).2.receiver.closed = false ↔ ¬ transport.StopsClean w.native := by
  by_cases clean : transport.StopsClean w.native
  · obtain ⟨native, ran⟩ := stop_of_clean running clean
    rw [ran]
    apply iff_of_false _ (not_not_intro clean)
    simp only [UnboundedReceiver.close_closed, Bool.true_eq_false, not_false_eq_true]
  · obtain ⟨native, exc, ran⟩ := stop_of_raised running clean
    rw [ran]
    exact iff_of_true open_ clean

end Transport

namespace AnyTransport

variable {ω ε κ : Type}

theorem laws (transport : AnyTransport ω ε κ) :
    Lifecycle.Laws transport.machine (fun w => transport.ComesUp w.native) transport.Leaks where
  start_closed w := congrArg UnboundedReceiver.closed start_frame.1
  start_running w := start_frame.2
  stop_running w running := by
    cases transport with
    | udp transport =>
        have ended : (transport.stop w).2.running = false := Transport.stop_running
        cases ended.symm.trans running
    | tcp transport =>
        cases quiet : (transport.disconnectNative w.connected w.native).1 with
        | error exc =>
            have broken := TcpTransport.stop_of_broken quiet
            simp only [machine, stop, broken] at running ⊢
            exact ⟨running, trivial⟩
        | ok value =>
            simp only [machine, stop, TcpTransport.stop_of_disconnected quiet,
              Transport.stop_running] at running
            cases running
  stop_closed w running open_ := by
    cases transport with
    | udp transport =>
        have ended : (transport.stop w).2.running = false := Transport.stop_running
        have closes : (transport.super.stop w).2.receiver.closed = false ↔
            ¬ transport.super.StopsClean w.native := Transport.stop_closed_iff running open_
        exact ⟨fun both => closes.mp both.2, fun leaks => ⟨ended, closes.mpr leaks⟩⟩
    | tcp transport =>
        cases quiet : (transport.disconnectNative w.connected w.native).1 with
        | error exc =>
            have broken := TcpTransport.stop_of_broken quiet
            simp only [machine, stop, broken, Leaks, quiet, reduceCtorEq, false_and, iff_false,
              not_and]
            intro ended
            cases running.symm.trans ended
        | ok value =>
            have closes : (transport.super.stop { w with
                native := (transport.disconnectNative w.connected w.native).2
                connected := false }).2.receiver.closed = false ↔
                  ¬ transport.super.StopsClean
                    (transport.disconnectNative w.connected w.native).2 :=
              Transport.stop_closed_iff running open_
            simp only [machine, stop, TcpTransport.stop_of_disconnected quiet,
              Transport.stop_running, Leaks, quiet, true_and]
            exact closes

end AnyTransport

namespace Component

variable {ω β : Type}

/-- A component of which a stop closes the receiver among the attributes. -/
def machine (initializeNative shutdown : Option (Method Exn ω Unit)) (clear : β → β)
    (outlet : β → UnboundedReceiver Message) : Machine (Component ω β) where
  start w := (start initializeNative w).2
  stop w := (stop shutdown clear w).2
  running w := w.running
  closed w := (outlet w.attributes).closed

theorem laws {initializeNative shutdown : Option (Method Exn ω Unit)} {clear : β → β}
    {outlet : β → UnboundedReceiver Message}
    (closes : ∀ attributes, (outlet (clear attributes)).closed = true) :
    Lifecycle.Laws (machine initializeNative shutdown clear outlet)
      (fun w => Caught initializeNative w.native) (fun _ => False) where
  start_closed w := by
    simp only [machine, start_attributes]
  start_running w := by
    cases running : w.running with
    | false =>
        simp only [machine, start_running_iff running, Bool.false_eq_true, false_or, running]
    | true =>
        apply iff_of_true
        · exact start_keeps running
        · exact .inl running
  stop_running w running := by
    by_cases caught : Caught shutdown w.native
    · obtain ⟨native, ran⟩ : ∃ native, stop shutdown clear w =
          (.ok (), { native := native, running := false, attributes := clear w.attributes }) :=
        stop_of_caught caught
      simp only [machine, ran, Bool.false_eq_true] at running
    · obtain ⟨native, exc, ran⟩ : ∃ native exc, stop shutdown clear w =
          (.error exc, { w with native := native }) := stop_of_uncaught caught
      simp only [machine, ran] at running ⊢
      exact ⟨running, trivial⟩
  stop_closed w running open_ := by
    rw [iff_false]
    rintro ⟨ended, stays⟩
    by_cases caught : Caught shutdown w.native
    · obtain ⟨native, ran⟩ : ∃ native, stop shutdown clear w =
          (.ok (), { native := native, running := false, attributes := clear w.attributes }) :=
        stop_of_caught caught
      simp only [machine, ran, closes, Bool.true_eq_false] at stays
    · obtain ⟨native, exc, ran⟩ : ∃ native exc, stop shutdown clear w =
          (.error exc, { w with native := native }) := stop_of_uncaught caught
      simp only [machine, ran] at ended
      cases running.symm.trans ended

end Component

def TpManager.machine {ω κ : Type} (cpp : Option (NativeTpManager ω κ)) :
    Machine (Component ω TpManagerAttributes) :=
  Component.machine (cpp.map (·.startUp)) (cpp.map (·.shutdown)) TpManager.closeReceiver
    TpManagerAttributes.reassemblyReceiver

def EventSubscriber.machine {ω : Type} (subscriber : EventSubscriber ω) :
    Machine (Component ω EventSubscriberAttributes) :=
  Component.machine (subscriber.cpp.map (·.initializeSubscriber))
    (subscriber.cpp.map (·.shutdown)) EventSubscriber.closeReceivers
    EventSubscriberAttributes.notificationReceiver

/-- From its creation on, a component serves its receiver exactly when no start makes it run
behind a closed receiver, and, for the transports, no native `stop` raises. -/
theorem serves_iff {ω ε κ : Type} (native : ω) (history : List Act) :
    (∀ transport : AnyTransport ω ε κ,
      Serves transport.machine TransportWorld.receiver { native := native } history ↔
        Transition.Along (Lifecycle.step transport.machine)
          (Lifecycle.Allowed transport.machine (fun w => transport.ComesUp w.native)
            transport.Leaks) { native := native } history) ∧
    (∀ cpp : Option (NativeTpManager ω κ),
      Serves (TpManager.machine cpp) (fun w => w.attributes.reassemblyReceiver)
          { native := native, attributes := {} } history ↔
        Transition.Along (Lifecycle.step (TpManager.machine cpp))
          (Lifecycle.Allowed (TpManager.machine cpp)
            (fun w => Caught (cpp.map (·.startUp)) w.native) fun _ => False)
          { native := native, attributes := {} } history) ∧
    ∀ subscriber : EventSubscriber ω,
      Serves subscriber.machine (fun w => w.attributes.notificationReceiver)
          { native := native, attributes := {} } history ↔
        Transition.Along (Lifecycle.step subscriber.machine)
          (Lifecycle.Allowed subscriber.machine
            (fun w => Caught (subscriber.cpp.map (·.initializeSubscriber)) w.native) fun _ => False)
          { native := native, attributes := {} } history := by
  refine ⟨?_, ?_, ?_⟩
  · intro transport
    rw [serves_iff_consistent fun _ => rfl]
    apply Lifecycle.consistent_iff_allowed transport.laws
    intro running
    cases running
  · intro cpp
    rw [serves_iff_consistent fun _ => rfl]
    have closes (attributes : TpManagerAttributes) :
        (TpManager.closeReceiver attributes).reassemblyReceiver.closed = true :=
      UnboundedReceiver.close_closed _
    apply Lifecycle.consistent_iff_allowed (Component.laws closes)
    intro running
    cases running
  · intro subscriber
    rw [serves_iff_consistent fun _ => rfl]
    have closes (attributes : EventSubscriberAttributes) :
        (EventSubscriber.closeReceivers attributes).notificationReceiver.closed = true :=
      UnboundedReceiver.close_closed _
    apply Lifecycle.consistent_iff_allowed (Component.laws closes)
    intro running
    cases running

/-- Started again, a transport runs with the receiver that its stop has closed. -/
theorem restarted_transport_closed :
    let transport : AnyTransport Unit Unit Unit := .udp { localEndpoint := ⟨"127.0.0.1", 30490⟩ }
    ∃ w, Transition.run (Lifecycle.step transport.machine) { native := () }
        [.start, .stop, .start] = some w ∧
      w.running = true ∧ w.receiver.closed = true ∧
      ¬ Serves transport.machine TransportWorld.receiver { native := () } [.start, .stop, .start] := by
  intro transport
  refine ⟨_, rfl, rfl, rfl, ?_⟩
  intro serves
  have open_ := (serves.isOpen _ (List.prefix_refl _) _ rfl rfl).1
  cases open_

end OpenSomeIp
