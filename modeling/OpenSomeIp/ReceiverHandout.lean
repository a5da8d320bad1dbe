import OpenSomeIp.Lib.Handout
import OpenSomeIp.Lib.Registering
import OpenSomeIp.RpcServer
import OpenSomeIp.Sd

set_option autoImplicit false

namespace OpenSomeIp

/-- The calls of a component that hands out receivers; a `request` is a `find` or an
`incoming_requests`. -/
inductive HandoutAction (α : Type) where
  | start
  | stop
  | request (about : α)
  deriving DecidableEq, Repr

/-- A component, and the numbers of the receivers that its calls have returned. -/
structure HandoutWorld (ω β : Type) where
  component : Component ω β
  returned : List Nat := []

namespace HandoutAction

variable {ω α β κ : Type}

def kind (key : α → κ) : HandoutAction α → Handout.Act κ
  | .start => .rest
  | .stop => .release
  | .request about => .hand (key about)

theorem kind_eq_release {key : α → κ} {action : HandoutAction α} :
    action.kind key = .release ↔ action = .stop := by
  cases action with
  | stop => exact iff_of_true rfl rfl
  | start => exact iff_of_false (fun same => nomatch same) fun same => nomatch same
  | request about => exact iff_of_false (fun same => nomatch same) fun same => nomatch same

/-- A call that raises returns no receiver. -/
def ask (method : Method Exn (Component ω β) Nat) (w : HandoutWorld ω β) : HandoutWorld ω β :=
  match method w.component with
  | (.ok number, component) => { component := component, returned := w.returned ++ [number] }
  | (.error _, component) => { w with component := component }

def call (start stop : Method Exn (Component ω β) Unit)
    (request : α → Method Exn (Component ω β) Nat) (w : HandoutWorld ω β) :
    HandoutAction α → HandoutWorld ω β
  | .start => { w with component := (start w.component).2 }
  | .stop => { w with component := (stop w.component).2 }
  | .request about => ask (request about) w

def step (start stop : Method Exn (Component ω β) Unit)
    (request : α → Method Exn (Component ω β) Nat) (w : HandoutWorld ω β)
    (action : HandoutAction α) : Option (HandoutWorld ω β) :=
  some (call start stop request w action)

end HandoutAction

namespace SdClient

variable {ω : Type} (client : SdClient ω)

def step : HandoutWorld ω SdClientAttributes → HandoutAction ServiceInstance →
    Option (HandoutWorld ω SdClientAttributes) :=
  HandoutAction.step client.start client.stop client.find

end SdClient

namespace RpcServer

variable {ω : Type} (server : RpcServer ω)

def step : HandoutWorld ω RpcServerAttributes → HandoutAction MessageId →
    Option (HandoutWorld ω RpcServerAttributes) :=
  HandoutAction.step server.start server.stop RpcServer.incomingRequests

end RpcServer

/-- The receiver of that number is closed. -/
def ClosedAt (receivers : List (UnboundedReceiver Message)) (number : Nat) : Prop :=
  ∃ receiver, receivers[number]? = some receiver ∧ receiver.closed = true

section Receivers

variable {receivers : List (UnboundedReceiver Message)} {number n : Nat}

theorem ClosedAt.lt (closed : ClosedAt receivers n) : n < receivers.length := by
  obtain ⟨receiver, found, _⟩ := closed
  exact (List.getElem?_eq_some_iff.mp found).1

theorem closedAt_new : ClosedAt (receivers ++ [.new]) n ↔ ClosedAt receivers n := by
  by_cases old : n < receivers.length
  · rw [ClosedAt, List.getElem?_append_left old]
    rfl
  · apply iff_of_false
    · rintro ⟨receiver, found, closed⟩
      rw [List.getElem?_append_right (Nat.le_of_not_lt old)] at found
      have single := List.mem_of_getElem? found
      rw [List.mem_singleton.mp single, UnboundedReceiver.new_closed] at closed
      cases closed
    · intro closed
      exact old closed.lt

theorem closedAt_modify :
    ClosedAt (receivers.modify number UnboundedReceiver.close) n ↔
      ClosedAt receivers n ∨ n < receivers.length ∧ n = number := by
  rw [ClosedAt, List.getElem?_modify, ClosedAt]
  by_cases inside : n < receivers.length
  · rw [List.getElem?_eq_getElem inside]
    by_cases same : number = n
    · simp [same, inside]
    · have other : ¬ n = number := fun equal => same equal.symm
      simp [same, other]
  · rw [List.getElem?_eq_none (Nat.le_of_not_lt inside)]
    simp [inside]

/-- Closing one receiver after the other. -/
theorem closedAt_foldl (numbers : List Nat) :
    ClosedAt (numbers.foldl
        (fun receivers number => receivers.modify number UnboundedReceiver.close) receivers) n ↔
      ClosedAt receivers n ∨ n < receivers.length ∧ n ∈ numbers := by
  induction numbers generalizing receivers with
  | nil => simp only [List.foldl_nil, List.not_mem_nil, and_false, or_false]
  | cons number rest ih =>
      rw [List.foldl_cons, ih, closedAt_modify, List.length_modify, List.mem_cons, or_assoc,
        ← and_or_left]

theorem length_foldl_modify (numbers : List Nat) :
    (numbers.foldl
      (fun receivers number => receivers.modify number UnboundedReceiver.close)
        receivers).length = receivers.length := by
  induction numbers generalizing receivers with
  | nil => rfl
  | cons number rest ih => rw [List.foldl_cons, ih, List.length_modify]

end Receivers

/-- The receivers as resources under the keys that a component tracks them by. -/
def handout {κ : Type} (receivers : List (UnboundedReceiver Message)) (tracked : κ → Option Nat) :
    Handout.State κ where
  count := receivers.length
  released := {n | ClosedAt receivers n}
  tracked := tracked

theorem handout_new {κ : Type} [DecidableEq κ] {receivers : List (UnboundedReceiver Message)}
    {tracked : κ → Option Nat} {key : κ} :
    handout (receivers ++ [.new]) (Function.update tracked key (some receivers.length)) =
      (handout receivers tracked).hand key := by
  have same : {n | ClosedAt (receivers ++ [.new]) n} = {n | ClosedAt receivers n} := by
    ext n
    exact closedAt_new
  rw [handout, same, List.length_append]
  rfl

theorem handout_release {κ : Type} {receivers rest : List (UnboundedReceiver Message)}
    {tracked cleared : κ → Option Nat} (length : rest.length = receivers.length)
    (nothing : ∀ key, cleared key = none)
    (closed : ∀ n, ClosedAt rest n ↔
      ClosedAt receivers n ∨ n < receivers.length ∧ ∃ key, tracked key = some n) :
    handout rest cleared = (handout receivers tracked).release := by
  have same : {n | ClosedAt rest n} = (handout receivers tracked).release.released := by
    ext n
    exact closed n
  have none_ : cleared = fun _ => none := funext nothing
  rw [handout, same, length, none_]
  rfl

/-! ### Systems that hand out receivers -/

namespace HandoutAction

variable {ω α β κ : Type} [DecidableEq κ]

/-- What the methods of a component do to the resources it has handed out. -/
structure Laws (start stop : Method Exn (Component ω β) Unit)
    (request : α → Method Exn (Component ω β) Nat) (view : β → Handout.State κ) (key : α → κ) :
    Prop where
  start : ∀ w, (start w).2.attributes = w.attributes
  stop : ∀ w, view (stop w).2.attributes = (view w.attributes).release
  request : ∀ about w, ∃ u, request about w = (.ok (view w.attributes).count, u) ∧
    view u.attributes = (view w.attributes).hand (key about)

variable {start stop : Method Exn (Component ω β) Unit}
  {request : α → Method Exn (Component ω β) Nat} {view : β → Handout.State κ} {key : α → κ}

theorem call_refines (laws : Laws start stop request view key) (w : HandoutWorld ω β)
    (action : HandoutAction α) :
    view (call start stop request w action).component.attributes =
      (view w.component.attributes).act (action.kind key) := by
  cases action with
  | start => exact congrArg view (laws.start w.component)
  | stop => exact laws.stop w.component
  | request about =>
      obtain ⟨u, ran, same⟩ := laws.request about w.component
      rw [call, ask, ran]
      exact same

/-- Every receiver that was created was returned. -/
theorem call_returned (laws : Laws start stop request view key) (w : HandoutWorld ω β)
    (action : HandoutAction α)
    (before : w.returned = List.range (view w.component.attributes).count) :
    (call start stop request w action).returned =
      List.range (view (call start stop request w action).component.attributes).count := by
  rw [call_refines laws w action]
  cases action with
  | start => exact before
  | stop => exact before
  | request about =>
      obtain ⟨u, ran, _⟩ := laws.request about w.component
      rw [call, ask, ran]
      change w.returned ++ [_] = List.range (_ + 1)
      rw [List.range_succ, before]

theorem run_returned (laws : Laws start stop request view key) {w t : HandoutWorld ω β}
    {actions : List (HandoutAction α)}
    (before : w.returned = List.range (view w.component.attributes).count)
    (ran : Transition.run (step start stop request) w actions = some t) :
    t.returned = List.range (view t.component.attributes).count := by
  have kept (u : HandoutWorld ω β) (action : HandoutAction α) (v : HandoutWorld ω β)
      (known : u.returned = List.range (view u.component.attributes).count)
      (stepped : step start stop request u action = some v) :
      v.returned = List.range (view v.component.attributes).count := by
    obtain rfl := Option.some.inj stepped
    exact call_returned laws u action known
  exact Transition.invariant_run kept before ran

/-- Every `stop` of a run leaves all returned receivers closed exactly when no two requests
before it, back to the last `stop`, have the same key. -/
theorem stop_closes_iff {receivers : β → List (UnboundedReceiver Message)}
    {tracked : β → κ → Option Nat} {native : ω} {attributes : β}
    (laws : Laws start stop request (fun self => handout (receivers self) (tracked self)) key)
    (empty : handout (receivers attributes) (tracked attributes) = {})
    (actions : List (HandoutAction α)) :
    (∀ front, front ++ [.stop] <+: actions →
        ∀ t, Transition.run (step start stop request)
            { component := { native := native, attributes := attributes } }
            (front ++ [.stop]) = some t →
          ∀ number ∈ t.returned, ClosedAt (receivers t.component.attributes) number) ↔
      ∀ front, front ++ [.stop] <+: actions →
        (Handout.asked (HandoutAction.kind key) front).Nodup := by
  have refines (w : HandoutWorld ω β) (action : HandoutAction α) (t : HandoutWorld ω β)
      (stepped : step start stop request w action = some t) :
      handout (receivers t.component.attributes) (tracked t.component.attributes) =
        (handout (receivers w.component.attributes) (tracked w.component.attributes)).act
          (action.kind key) := by
    obtain rfl := Option.some.inj stepped
    exact call_refines laws w action
  have first : [] = List.range (handout (receivers attributes) (tracked attributes)).count := by
    rw [empty]
    rfl
  have general := Handout.releasesAll_iff (fun w action => ⟨_, rfl⟩) refines
    (s := { component := { native := native, attributes := attributes } }) empty actions
  constructor
  · intro closes front inside
    refine general.mp ?_ front .stop inside rfl
    intro front action inside releases t ran number below
    obtain rfl := kind_eq_release.mp releases
    apply closes front inside t ran
    rw [run_returned laws first ran]
    exact List.mem_range.mpr below
  · intro distinct front inside t ran number member
    rw [run_returned laws first ran] at member
    refine general.mpr ?_ front .stop inside rfl t ran number (List.mem_range.mp member)
    intro front action inside releases
    obtain rfl := kind_eq_release.mp releases
    exact distinct front inside

end HandoutAction

namespace SdClient

variable {ω : Type}

/-- The slot, as long as its receiver is open. -/
def tracked (self : SdClientAttributes) (_ : Unit) : Option Nat :=
  self.findReceiver.filter fun number =>
    (self.receivers[number]?.map fun receiver => !receiver.closed).getD false

theorem tracked_eq_some {self : SdClientAttributes} {key : Unit} {n : Nat} :
    tracked self key = some n ↔
      self.findReceiver = some n ∧ n < self.receivers.length ∧ ¬ ClosedAt self.receivers n := by
  rw [tracked, Option.filter_eq_some_iff]
  apply and_congr_right
  intro _
  by_cases inside : n < self.receivers.length
  · rw [ClosedAt, List.getElem?_eq_getElem inside]
    simp [inside]
  · rw [List.getElem?_eq_none (Nat.le_of_not_lt inside)]
    simp [inside]

theorem closeFind_release (self : SdClientAttributes) :
    handout (closeFind self).receivers (tracked (closeFind self)) =
      (handout self.receivers (tracked self)).release := by
  cases slot : self.findReceiver with
  | none =>
      have same : closeFind self = self := by
        rw [closeFind, slot]
      have nothing (key : Unit) : tracked self key = none := by
        rw [tracked, slot]
        rfl
      rw [same]
      apply handout_release rfl nothing
      intro n
      simp only [nothing, reduceCtorEq, exists_const, and_false, or_false]
  | some number =>
      have same : closeFind self =
          { self with receivers := self.receivers.modify number UnboundedReceiver.close } := by
        rw [closeFind, slot]
      rw [same]
      apply handout_release (List.length_modify ..)
      · intro key
        apply Option.eq_none_iff_forall_ne_some.mpr
        intro n found
        obtain ⟨here, inside, open_⟩ := tracked_eq_some.mp found
        obtain rfl : number = n := Option.some.inj (slot.symm.trans here)
        apply open_
        rw [List.length_modify] at inside
        exact closedAt_modify.mpr (.inr ⟨inside, rfl⟩)
      · intro n
        rw [closedAt_modify]
        by_cases closed : ClosedAt self.receivers n
        · simp only [closed, true_or]
        · simp only [closed, tracked_eq_some, slot, Option.some.injEq, not_false_eq_true,
            and_true, false_or, exists_const]
          constructor
          · rintro ⟨inside, here⟩
            exact ⟨inside, here.symm, inside⟩
          · rintro ⟨inside, here, _⟩
            exact ⟨inside, here.symm⟩

theorem tracked_new (self : SdClientAttributes) :
    tracked { receivers := self.receivers ++ [.new], findReceiver := some self.receivers.length } =
      Function.update (tracked self) () (some self.receivers.length) := by
  funext key
  obtain rfl : key = () := rfl
  rw [Function.update_self, tracked_eq_some, List.length_append, closedAt_new]
  refine ⟨rfl, Nat.lt_succ_self _, fun closed => ?_⟩
  exact absurd closed.lt (Nat.lt_irrefl _)

variable {client : SdClient ω}

theorem laws
    (stops : ∀ body, client.cpp.map (·.shutdown) = some body → Translated body)
    (finds : ∀ serviceId body,
      (client.cpp.map fun cpp => cpp.findService serviceId) = some body → Translated body) :
    HandoutAction.Laws client.start client.stop client.find
      (fun self => handout self.receivers (tracked self)) fun _ => () where
  start _ := Component.start_attributes
  stop w := by
    obtain ⟨native, ran⟩ : ∃ native, client.stop w = (.ok (),
        { native := native, running := false, attributes := closeFind w.attributes }) :=
      Component.stop_of_caught (Translated.caught stops w.native)
    rw [ran]
    exact closeFind_release w.attributes
  request service w := by
    let handed : SdClientAttributes :=
      { receivers := w.attributes.receivers ++ [.new]
        findReceiver := some w.attributes.receivers.length }
    obtain ⟨native, tried⟩ : ∃ native, Component.tryNative
        (client.cpp.map fun cpp => cpp.findService service.serviceId)
        { w with attributes := handed } =
          (.ok (), { w with native := native, attributes := handed }) :=
      Component.tryNative_of_caught (Translated.caught (finds service.serviceId) w.native)
    refine ⟨{ w with native := native, attributes := handed }, ?_, ?_⟩
    · simp only [find, Method.bind_apply, Method.get_apply, Method.modify_apply, tried,
        Method.pure_apply, handed]
      rfl
    · change handout _ (tracked handed) = _
      rw [tracked_new]
      exact handout_new

end SdClient

namespace RpcServer

variable {ω : Type}

def tracked (self : RpcServerAttributes) (value : Nat) : Option Nat :=
  self.requestReceivers.lookup value

theorem closeReceivers_release (self : RpcServerAttributes) :
    handout (closeReceivers self).receivers (tracked (closeReceivers self)) =
      (handout self.receivers (tracked self)).release := by
  apply handout_release (length_foldl_modify _)
  · intro value
    exact AList.lookup_empty value
  · intro n
    have named : n ∈ self.requestReceivers.entries.map (·.2) ↔
        ∃ value, tracked self value = some n := by
      rw [List.mem_map]
      constructor
      · rintro ⟨⟨value, number⟩, member, rfl⟩
        exact ⟨value, AList.mem_lookup_iff.mpr member⟩
      · rintro ⟨value, found⟩
        exact ⟨⟨value, n⟩, AList.mem_lookup_iff.mp found, rfl⟩
    rw [← named]
    exact closedAt_foldl _

theorem tracked_insert (self : RpcServerAttributes) (value : Nat) :
    tracked { receivers := self.receivers ++ [.new]
              requestReceivers := self.requestReceivers.insert value self.receivers.length } =
      Function.update (tracked self) value (some self.receivers.length) :=
  Registering.lookup_insert_update self.requestReceivers value self.receivers.length

variable {server : RpcServer ω}

theorem laws
    (stops : ∀ body, server.cpp.map (·.shutdown) = some body → Translated body) :
    HandoutAction.Laws server.start server.stop incomingRequests
      (fun self => handout self.receivers (tracked self)) MessageId.value where
  start _ := Component.start_attributes
  stop w := by
    obtain ⟨native, ran⟩ : ∃ native, server.stop w = (.ok (),
        { native := native, running := false, attributes := closeReceivers w.attributes }) :=
      Component.stop_of_caught (Translated.caught stops w.native)
    rw [ran]
    exact closeReceivers_release w.attributes
  request methodId w := by
    refine ⟨_, rfl, ?_⟩
    rw [tracked_insert]
    exact handout_new

end RpcServer

/-- A `stop` closes every receiver that `find`, or `incoming_requests`, has returned exactly when
since the `stop` before no second one was asked for, or none for the same message id. -/
theorem stop_closes_returned_iff {ω : Type} (native : ω) (client : SdClient ω)
    (server : RpcServer ω)
    (clientStops : ∀ body, client.cpp.map (·.shutdown) = some body → Translated body)
    (finds : ∀ serviceId body,
      (client.cpp.map fun cpp => cpp.findService serviceId) = some body → Translated body)
    (serverStops : ∀ body, server.cpp.map (·.shutdown) = some body → Translated body) :
    (∀ actions,
      (∀ front, front ++ [.stop] <+: actions →
          ∀ t, Transition.run client.step
              { component := { native := native, attributes := {} } } (front ++ [.stop]) = some t →
            ∀ number ∈ t.returned, ClosedAt t.component.attributes.receivers number) ↔
        ∀ front, front ++ [.stop] <+: actions →
          (Handout.asked (HandoutAction.kind fun _ => ()) front).Nodup) ∧
      ∀ actions,
        (∀ front, front ++ [.stop] <+: actions →
            ∀ t, Transition.run server.step
                { component := { native := native, attributes := {} } } (front ++ [.stop]) =
                  some t →
              ∀ number ∈ t.returned, ClosedAt t.component.attributes.receivers number) ↔
          ∀ front, front ++ [.stop] <+: actions →
            (Handout.asked (HandoutAction.kind MessageId.value) front).Nodup := by
  have nothing (receivers : List (UnboundedReceiver Message)) (none_ : receivers = []) (n : Nat) :
      ¬ ClosedAt receivers n := by
    intro closed
    have below := closed.lt
    rw [none_] at below
    exact Nat.not_lt_zero n below
  have clientEmpty : handout ({} : SdClientAttributes).receivers (SdClient.tracked {}) = {} := by
    have same : {n | ClosedAt ({} : SdClientAttributes).receivers n} = ∅ :=
      Set.eq_empty_of_forall_notMem (nothing _ rfl)
    rw [handout, same]
    rfl
  have serverEmpty : handout ({} : RpcServerAttributes).receivers (RpcServer.tracked {}) = {} := by
    have same : {n | ClosedAt ({} : RpcServerAttributes).receivers n} = ∅ :=
      Set.eq_empty_of_forall_notMem (nothing _ rfl)
    rw [handout, same]
    rfl
  constructor
  · exact HandoutAction.stop_closes_iff (SdClient.laws clientStops finds) clientEmpty
  · exact HandoutAction.stop_closes_iff (RpcServer.laws serverStops) serverEmpty

/-- A native client and a native server that do nothing. -/
def quietClient : SdClient Unit where
  cpp := some { initializeClient := pure (), shutdown := pure (), findService := fun _ => pure () }

def quietServer : RpcServer Unit where
  cpp := some { initializeServer := pure (), shutdown := pure () }

theorem stop_closes_returned_iff_once :
    ∃ t, Transition.run quietClient.step { component := { native := (), attributes := {} } }
        [.request ⟨0x1234, 1, 1, 0⟩, .stop] = some t ∧
      0 ∈ t.returned ∧ ClosedAt t.component.attributes.receivers 0 := by
  have returns {body : Method Exn Unit Unit} (is_ : some (pure ()) = some body) :
      Translated body := by
    obtain rfl := Option.some.inj is_
    exact Method.RaisesOnly.pure ()
  have closes := ((stop_closes_returned_iff () quietClient quietServer (fun _ => returns)
    (fun _ _ => returns) fun _ => returns).1 [.request ⟨0x1234, 1, 1, 0⟩, .stop]).mpr
  refine ⟨_, rfl, List.mem_cons_self, ?_⟩
  refine closes ?_ [.request ⟨0x1234, 1, 1, 0⟩] (List.prefix_refl _) _ rfl 0 List.mem_cons_self
  intro front inside
  match front with
  | [] => exact List.nodup_nil
  | [action] =>
      cases action with
      | request about => exact List.nodup_singleton ()
      | start => exact List.nodup_nil
      | stop => exact List.nodup_nil
  | _ :: _ :: rest => exact absurd inside.length_le (by simp)

/-- Found twice, the first receiver is out of reach. -/
theorem second_find_loses_first :
    ∃ t, Transition.run (SdClient.step { cpp := none })
        ({ component := { native := (), attributes := {} } } :
          HandoutWorld Unit SdClientAttributes)
        [.start, .request ⟨0x1234, 1, 1, 0⟩, .request ⟨0x5678, 1, 1, 0⟩, .stop] = some t ∧
      0 ∈ t.returned ∧ ¬ ClosedAt t.component.attributes.receivers 0 := by
  refine ⟨_, rfl, List.mem_cons_self, ?_⟩
  rintro ⟨receiver, found, closed⟩
  obtain rfl := Option.some.inj found
  cases closed

end OpenSomeIp
