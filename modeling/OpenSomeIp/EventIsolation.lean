import Mathlib.Data.Finset.Insert
import OpenSomeIp.Component
import OpenSomeIp.ReceiverLines

set_option autoImplicit false

namespace OpenSomeIp

/-- What the native subscriber hands to a callback. -/
structure CppNotification where
  serviceId : UInt16
  eventId : UInt16
  eventData : Bytes
  deriving DecidableEq, Repr

/-- The message that `_on_notification` builds. -/
def CppNotification.toMessage (notification : CppNotification) : Message where
  messageId := ⟨notification.serviceId, notification.eventId⟩
  payload := notification.eventData

/-- A message, with the group of the subscription it was delivered for and its place among the
deliveries. A receiver looks at neither. -/
structure Notification where
  group : Int
  serial : Nat
  message : Message
  deriving DecidableEq, Repr

/-- The closure `_on_notification` over its `receiver`, by number. -/
structure EventCallback where
  receiver : Nat
  deriving DecidableEq, Repr

/-- The native subscriber with its subscriptions, each a group and the callback for it. -/
structure NativeSubscriptions (ω : Type) where
  subscribeEventgroup : Int → Int → Int → EventCallback → Method Exn ω Unit
  subscriptions : ω → List (Int × EventCallback)

/-- A call that returns subscribes; a call that raises does not. -/
structure NativeSubscriptions.Lawful {ω : Type} (cpp : NativeSubscriptions ω) : Prop where
  returned : ∀ serviceId instanceId group callback s,
    (cpp.subscribeEventgroup serviceId instanceId group callback s).1 = .ok () →
      cpp.subscriptions (cpp.subscribeEventgroup serviceId instanceId group callback s).2 =
        cpp.subscriptions s ++ [(group, callback)]
  raised : ∀ serviceId instanceId group callback s exc,
    (cpp.subscribeEventgroup serviceId instanceId group callback s).1 = .error exc →
      cpp.subscriptions (cpp.subscribeEventgroup serviceId instanceId group callback s).2 =
        cpp.subscriptions s

/-- The attributes of an `EventSubscriber`, with the receivers there are; `__init__` makes the
first. -/
structure SubscriptionAttributes where
  subscribedGroups : Finset Int := ∅
  receivers : List (ReceiverSystem Notification) := [{}]
  notificationReceiver : Nat := 0

namespace EventSubscriber

variable {ω : Type} (cpp : Option (NativeSubscriptions ω))

def subscribe (eventgroupId : Int) (serviceId instanceId : Int := 0xFFFF) :
    Method Exn (Component ω SubscriptionAttributes) Unit := do
  Method.modify fun self =>
    { self with attributes :=
        { self.attributes with
          subscribedGroups := insert eventgroupId self.attributes.subscribedGroups } }
  match cpp with
  | none =>
      Method.raise (.runtimeError
        ("Cannot subscribe to events: opensomeip C++ extension is not available. " ++
          "See https://github.com/vtz/opensomeip-python#troubleshooting"))
  | some cpp => do
      let self ← Method.get
      Component.onNative (cpp.subscribeEventgroup serviceId instanceId eventgroupId
        ⟨self.attributes.notificationReceiver⟩)

/-- Returns the number of the receiver. -/
def notifications : Method Exn (Component ω SubscriptionAttributes) Nat := do
  let self ← Method.get
  pure self.attributes.notificationReceiver

end EventSubscriber

/-- Of `SomeIpClient`. -/
def subscribeEvents {ω : Type} (cpp : Option (NativeSubscriptions ω)) (eventgroupId : Int) :
    Method Exn (Component ω SubscriptionAttributes) Nat := do
  EventSubscriber.subscribe cpp eventgroupId
  EventSubscriber.notifications

/-- A subscriber at work: the groups that receivers were returned for, and what the native
subscriber has delivered. -/
structure EventWorld (ω : Type) where
  component : Component ω SubscriptionAttributes
  handed : List (Int × Nat) := []
  delivered : List Notification := []

inductive EventAction where
  | subscribeEvents (group : Int)
  | notify (subscription : Nat) (notification : CppNotification)
  | receive (receiver : Nat) (act : ReceiverAct Notification)
  deriving DecidableEq, Repr

namespace EventWorld

variable {ω : Type}

def receivers (w : EventWorld ω) : List (ReceiverSystem Notification) :=
  w.component.attributes.receivers

def setReceiver (w : EventWorld ω) (number : Nat) (s : ReceiverSystem Notification) :
    EventWorld ω :=
  { w with component :=
      { w.component with attributes :=
          { w.component.attributes with receivers := w.receivers.set number s } } }

/-- A delivery is numbered by those before it. -/
def deliver (w : EventWorld ω) (group : Int) (notification : CppNotification) : Notification :=
  ⟨group, w.delivered.length, notification.toMessage⟩

/-- The native subscriber invokes the callback of a subscription, which puts the message into
its receiver; consumers and the event loop work on any receiver. -/
def step (cpp : NativeSubscriptions ω) (w : EventWorld ω) : EventAction → Option (EventWorld ω)
  | .subscribeEvents group =>
      match OpenSomeIp.subscribeEvents (some cpp) group w.component with
      | (.ok number, u) => some { w with component := u, handed := w.handed ++ [(group, number)] }
      | (.error _, u) => some { w with component := u }
  | .notify subscription notification => do
      let pair ← (cpp.subscriptions w.component.native)[subscription]?
      let s ← w.receivers[pair.2.receiver]?
      let item := w.deliver pair.1 notification
      let t ← s.step (.put item)
      some { w.setReceiver pair.2.receiver t with delivered := w.delivered ++ [item] }
  | .receive number act => do
      let s ← w.receivers[number]?
      if ReceiverSystem.isConsumer act then
        let t ← s.step act
        some (w.setReceiver number t)
      else none

/-- A receiver returned for a group yields the notifications of the group, once and in order, to
either iteration once begun, and no others. -/
structure Serves (group : Int) (delivered : List Notification)
    (s : ReceiverSystem Notification) : Prop where
  sync : s.syncLine.filter (·.group = group) = delivered.filter (·.group = group)
  async : s.asyncBegun = true →
    s.asyncLine.filter (·.group = group) = delivered.filter (·.group = group)
  own : ∀ notification ∈ s.yielded, notification.group = group

def Isolated (w : EventWorld ω) : Prop :=
  ∀ pair ∈ w.handed, ∃ s, w.receivers[pair.2]? = some s ∧ Serves pair.1 w.delivered s

/-- No group joins another that something was yielded for, and nothing is taken while there are
several. Async iteration begins before the first delivery, and no delivery overtakes one of its
group on a stopped loop. -/
def Allowed (cpp : NativeSubscriptions ω) (w : EventWorld ω) : EventAction → Prop
  | .subscribeEvents group =>
      (cpp.subscribeEventgroup 0xFFFF 0xFFFF group ⟨w.component.attributes.notificationReceiver⟩
        w.component.native).1 = .ok () →
        ∀ s ∈ w.receivers, ∀ notification ∈ s.yielded, notification.group = group
  | .notify subscription _ =>
      ∀ pair, (cpp.subscriptions w.component.native)[subscription]? = some pair →
        ∀ s, w.receivers[pair.2.receiver]? = some s → s.overtakes = true →
          ∀ waiting ∈ messagesOf s.ready, waiting.group ≠ pair.1
  | .receive number act =>
      ∀ s, w.receivers[number]? = some s →
        (∀ notification ∈ s.taken act, ∀ pair ∈ w.handed, notification.group = pair.1) ∧
          (act.asksAsync = true → s.asyncBegun = false → w.delivered = [])

/-! ### One receiver for all groups -/

/-- There is the one receiver, open, with all that was delivered in it. -/
structure Routed (cpp : NativeSubscriptions ω) (w : EventWorld ω)
    (s : ReceiverSystem Notification) : Prop where
  number : w.component.attributes.notificationReceiver = 0
  receivers : w.receivers = [s]
  sound : s.Sound
  open_ : s.closed = false
  accepted : s.accepted = w.delivered.map .message
  handed : ∀ pair ∈ w.handed, pair.2 = 0
  subscribed : ∀ pair ∈ cpp.subscriptions w.component.native,
    pair.2.receiver = 0 ∧ (pair.1, 0) ∈ w.handed
  grouped : ∀ notification ∈ w.delivered, (notification.group, 0) ∈ w.handed
  numbered : ∀ notification ∈ w.delivered, notification.serial < w.delivered.length

theorem messagesOf_map (delivered : List Notification) :
    messagesOf (delivered.map .message) = delivered := by
  rw [messagesOf, List.filterMap_map]
  exact List.filterMap_some

variable {cpp : NativeSubscriptions ω} {w : EventWorld ω} {s : ReceiverSystem Notification}

theorem Routed.messages (routed : Routed cpp w s) : messagesOf s.accepted = w.delivered := by
  rw [routed.accepted, messagesOf_map]

theorem Routed.lookup (routed : Routed cpp w s) {number : Nat}
    {t : ReceiverSystem Notification} (found : w.receivers[number]? = some t) :
    number = 0 ∧ t = s := by
  rw [routed.receivers] at found
  cases number with
  | zero => exact ⟨rfl, (Option.some.inj found).symm⟩
  | succ number => cases found

/-- What tells whether the one receiver serves a group. -/
theorem Routed.serves_group_iff (routed : Routed cpp w s) {group : Int} :
    Serves group w.delivered s ↔
      (s.asyncBegun = true →
        s.asyncLine.filter (·.group = group) = w.delivered.filter (·.group = group)) ∧
      ∀ notification ∈ s.yielded, notification.group = group := by
  constructor
  · intro serves
    exact ⟨serves.async, serves.own⟩
  · rintro ⟨async, own⟩
    refine ⟨?_, async, own⟩
    rw [ReceiverSystem.syncLine_of_open routed.sound routed.open_, routed.messages]

theorem Routed.isolated_iff (routed : Routed cpp w s) :
    Isolated w ↔ ∀ pair ∈ w.handed, Serves pair.1 w.delivered s := by
  constructor
  · intro isolated pair member
    obtain ⟨t, found, serves⟩ := isolated pair member
    obtain ⟨_, rfl⟩ := routed.lookup found
    exact serves
  · intro serves pair member
    refine ⟨s, ?_, serves pair member⟩
    rw [routed.receivers, routed.handed pair member]
    rfl

/-- For a group that nothing was delivered for, there is nothing in the lines. -/
theorem Routed.async_of_new (routed : Routed cpp w s) {group : Int}
    (new : (group, 0) ∉ w.handed) :
    s.asyncLine.filter (·.group = group) = w.delivered.filter (·.group = group) := by
  have absent (notification : Notification) (member : notification ∈ w.delivered) :
      ¬ decide (notification.group = group) = true := by
    intro same
    apply new
    rw [← of_decide_eq_true same]
    exact routed.grouped notification member
  rw [List.filter_eq_nil_iff.mpr absent, List.filter_eq_nil_iff]
  intro notification member
  apply absent notification
  rw [← routed.messages]
  exact ReceiverSystem.mem_of_asyncLine routed.sound member

/-! ### Subscribing -/

section Subscribe

variable {group : Int}

/-- The component after `subscribe`, but for what the native call did. -/
def joined (u : Component ω SubscriptionAttributes) (group : Int) (native : ω) :
    Component ω SubscriptionAttributes :=
  { u with
    native := native
    attributes :=
      { u.attributes with subscribedGroups := insert group u.attributes.subscribedGroups } }

theorem subscribeEvents_apply (u : Component ω SubscriptionAttributes) (result : Except Exn Unit)
    (native : ω)
    (called : cpp.subscribeEventgroup 0xFFFF 0xFFFF group ⟨u.attributes.notificationReceiver⟩
      u.native = (result, native)) :
    OpenSomeIp.subscribeEvents (some cpp) group u =
      (result.map fun _ => u.attributes.notificationReceiver, joined u group native) := by
  have subscribed : EventSubscriber.subscribe (some cpp) group 0xFFFF 0xFFFF u =
      (result, joined u group native) := by
    simp only [EventSubscriber.subscribe, Method.bind_apply, Method.modify_apply,
      Method.get_apply, Component.onNative, Method.zoom_apply, called]
    rfl
  cases result with
  | error exc =>
      rw [OpenSomeIp.subscribeEvents, Method.bind_of_error subscribed]
      rfl
  | ok value =>
      rw [OpenSomeIp.subscribeEvents, Method.bind_of_ok subscribed]
      rfl

theorem routed_subscribe_raised (lawful : cpp.Lawful) (routed : Routed cpp w s) {native : ω}
    {exc : Exn}
    (called : cpp.subscribeEventgroup 0xFFFF 0xFFFF group
      ⟨w.component.attributes.notificationReceiver⟩ w.component.native = (.error exc, native)) :
    Routed cpp { w with component := joined w.component group native } s := by
  refine { routed with subscribed := ?_ }
  have same := lawful.raised 0xFFFF 0xFFFF group _ w.component.native exc (by rw [called])
  rw [called] at same
  change ∀ pair ∈ cpp.subscriptions native, _
  rw [same]
  exact routed.subscribed

theorem routed_subscribe_returned (lawful : cpp.Lawful) (routed : Routed cpp w s) {native : ω}
    (called : cpp.subscribeEventgroup 0xFFFF 0xFFFF group
      ⟨w.component.attributes.notificationReceiver⟩ w.component.native = (.ok (), native)) :
    Routed cpp { w with
      component := joined w.component group native
      handed := w.handed ++ [(group, 0)] } s := by
  refine { routed with handed := ?_, subscribed := ?_, grouped := ?_ }
  · intro pair member
    rcases List.mem_append.mp member with old | new
    · exact routed.handed pair old
    · rw [List.mem_singleton.mp new]
  · have more := lawful.returned 0xFFFF 0xFFFF group
      ⟨w.component.attributes.notificationReceiver⟩ w.component.native (by rw [called])
    rw [called] at more
    change ∀ pair ∈ cpp.subscriptions native, _
    rw [more]
    intro pair member
    rcases List.mem_append.mp member with old | new
    · obtain ⟨number, known⟩ := routed.subscribed pair old
      exact ⟨number, List.mem_append_left _ known⟩
    · rw [List.mem_singleton.mp new]
      exact ⟨routed.number, List.mem_append_right _ List.mem_cons_self⟩
  · intro notification member
    exact List.mem_append_left _ (routed.grouped notification member)

/-- A group more is served if nothing was yielded for another. -/
theorem serves_joining (routed : Routed cpp w s) (isolated : Isolated w) :
    Serves group w.delivered s ↔ ∀ notification ∈ s.yielded, notification.group = group := by
  rw [routed.serves_group_iff]
  apply and_iff_right
  intro begun
  by_cases known : (group, 0) ∈ w.handed
  · exact (routed.isolated_iff.mp isolated (group, 0) known).async begun
  · exact routed.async_of_new known

theorem subscribe_isolated_iff (lawful : cpp.Lawful) (routed : Routed cpp w s)
    {t : EventWorld ω} (stepped : step cpp w (.subscribeEvents group) = some t) :
    (∃ u, Routed cpp t u) ∧
      (Isolated w → (Isolated t ↔ Allowed cpp w (.subscribeEvents group))) := by
  cases called : cpp.subscribeEventgroup 0xFFFF 0xFFFF group
      ⟨w.component.attributes.notificationReceiver⟩ w.component.native with
  | mk result native =>
      have ran := subscribeEvents_apply w.component result native called
      rw [step, ran] at stepped
      cases result with
      | error exc =>
          obtain rfl := Option.some.inj stepped
          have kept := routed_subscribe_raised lawful routed called
          refine ⟨⟨s, kept⟩, fun isolated => iff_of_true isolated ?_⟩
          · intro returned
            rw [called] at returned
            cases returned
      | ok value =>
          obtain rfl := Option.some.inj stepped
          rw [routed.number]
          have kept := routed_subscribe_returned lawful routed called
          refine ⟨⟨s, kept⟩, fun isolated => ?_⟩
          rw [kept.isolated_iff, Allowed, called, routed.receivers]
          simp only [List.mem_append, List.mem_singleton, true_imp_iff, forall_eq]
          rw [← serves_joining routed isolated]
          constructor
          · intro all
            exact all (group, 0) (.inr rfl)
          · rintro serves pair (old | rfl)
            · exact routed.isolated_iff.mp isolated pair old
            · exact serves

end Subscribe

/-! ### Delivering -/

section Notify

variable {index : Nat} {notification : CppNotification}

/-- The world after a delivery for a group to the one receiver. -/
def notified (w : EventWorld ω) (s : ReceiverSystem Notification) (group : Int)
    (notification : CppNotification) : EventWorld ω :=
  { w.setReceiver 0 (s.offer false (.message (w.deliver group notification))) with
    delivered := w.delivered ++ [w.deliver group notification] }

theorem notify_inv (routed : Routed cpp w s) {t : EventWorld ω}
    (stepped : step cpp w (.notify index notification) = some t) :
    ∃ pair, (cpp.subscriptions w.component.native)[index]? = some pair ∧
      (pair.1, 0) ∈ w.handed ∧ pair.2.receiver = 0 ∧ t = notified w s pair.1 notification := by
  simp only [step, Option.bind_eq_bind, Option.bind_eq_some_iff] at stepped
  obtain ⟨pair, found, holder, there, u, put, reached⟩ := stepped
  obtain ⟨number, known⟩ := routed.subscribed pair (List.mem_of_getElem? found)
  obtain ⟨_, rfl⟩ := routed.lookup there
  refine ⟨pair, found, known, number, ?_⟩
  rw [ReceiverSystem.step_put routed.sound.unbounded, routed.open_] at put
  rw [← Option.some.inj reached, ← Option.some.inj put, number]
  rfl

theorem routed_notified (routed : Routed cpp w s) {group : Int} (known : (group, 0) ∈ w.handed) :
    Routed cpp (notified w s group notification)
      (s.offer false (.message (w.deliver group notification))) where
  number := routed.number
  receivers := by
    change w.receivers.set 0 _ = _
    rw [routed.receivers]
    rfl
  sound := by
    have stepped := ReceiverSystem.step_put routed.sound.unbounded (w.deliver group notification)
    rw [routed.open_] at stepped
    exact ReceiverSystem.sound_step s _ _ routed.sound stepped
  open_ := (ReceiverWorld.deliver_frame _ _ _).2.1
  accepted := by
    change s.accepted ++ [_] = _
    rw [routed.accepted, notified, List.map_append]
    rfl
  handed := routed.handed
  subscribed := routed.subscribed
  grouped := by
    intro other member
    rcases List.mem_append.mp member with old | new
    · exact routed.grouped other old
    · rw [List.mem_singleton.mp new]
      exact known
  numbered := by
    intro other member
    change other.serial < (w.delivered ++ [_]).length
    rw [List.length_append, List.length_singleton]
    rcases List.mem_append.mp member with old | new
    · have before := routed.numbered other old
      omega
    · rw [List.mem_singleton.mp new]
      exact Nat.lt_succ_self _

theorem cons_eq_concat_iff {α : Type} {x : α} {xs : List α} (fresh : x ∉ xs) :
    x :: xs = xs ++ [x] ↔ xs = [] := by
  cases xs with
  | nil => exact iff_of_true rfl rfl
  | cons y ys =>
      apply iff_of_false
      · intro same
        apply fresh
        rw [List.cons_append, List.cons.injEq] at same
        rw [same.1]
        exact List.mem_cons_self
      · intro empty
        cases empty

/-- A delivery has a number that nothing waiting has. -/
theorem Routed.fresh (routed : Routed cpp w s) {group : Int} :
    w.deliver group notification ∉ messagesOf s.ready := by
  intro member
  have waiting : w.deliver group notification ∈ s.asyncLine := by
    rw [ReceiverSystem.asyncLine_eq]
    exact List.mem_append_right _ member
  have old := ReceiverSystem.mem_of_asyncLine routed.sound waiting
  rw [routed.messages] at old
  exact absurd (routed.numbered _ old) (Nat.lt_irrefl _)

theorem filter_cons_group (first : Notification) (rest : List Notification) (group : Int) :
    (first :: rest).filter (·.group = group) =
      if first.group = group then first :: rest.filter (·.group = group)
      else rest.filter (·.group = group) := by
  by_cases mine : first.group = group
  · simp only [List.filter_cons, mine, decide_true, ↓reduceIte]
  · simp only [List.filter_cons, mine, decide_false, Bool.false_eq_true, ↓reduceIte]

/-- The async line of a group after a delivery. -/
theorem filter_asyncLine_iff (routed : Routed cpp w s) {group other : Int}
    (begun : s.asyncBegun = true)
    (before : s.asyncLine.filter (·.group = other) = w.delivered.filter (·.group = other)) :
    (s.offer false (.message (w.deliver group notification))).asyncLine.filter
        (·.group = other) =
      (w.delivered ++ [w.deliver group notification]).filter (·.group = other) ↔
    (s.overtakes = true → group = other → ∀ waiting ∈ messagesOf s.ready, waiting.group ≠ other) :=
    by
  rw [List.filter_append, ← before]
  cases late : s.overtakes with
  | false =>
      rw [ReceiverSystem.offer_asyncLine begun late, List.filter_append]
      exact iff_of_true rfl fun false_ => nomatch false_
  | true =>
      rw [ReceiverSystem.offer_asyncLine_overtaking late, ReceiverSystem.asyncLine_eq,
        List.filter_append, List.filter_append, List.append_assoc, List.append_right_inj]
      rw [filter_cons_group, filter_cons_group, List.filter_nil]
      have about : (w.deliver group notification).group = group := rfl
      rw [about]
      by_cases mine : group = other
      · have fresh : w.deliver group notification ∉
            (messagesOf s.ready).filter (·.group = other) := by
          intro member
          exact routed.fresh (List.mem_of_mem_filter member)
        rw [if_pos mine, if_pos mine, cons_eq_concat_iff fresh, List.filter_eq_nil_iff]
        simp only [decide_eq_true_eq, mine, true_imp_iff, ne_eq]
      · rw [if_neg mine, if_neg mine, List.append_nil]
        exact iff_of_true rfl fun _ same => absurd same mine

theorem notify_isolated_iff (routed : Routed cpp w s) {t : EventWorld ω}
    (stepped : step cpp w (.notify index notification) = some t) :
    (∃ u, Routed cpp t u) ∧
      (Isolated w → (Isolated t ↔ Allowed cpp w (.notify index notification))) := by
  obtain ⟨pair, found, known, number, rfl⟩ := notify_inv routed stepped
  have kept : Routed cpp (notified w s pair.1 notification) _ := routed_notified routed known
  refine ⟨⟨_, kept⟩, fun isolated => ?_⟩
  have serves := routed.isolated_iff.mp isolated
  have allowed : Allowed cpp w (.notify index notification) ↔
      (s.overtakes = true → ∀ waiting ∈ messagesOf s.ready, waiting.group ≠ pair.1) := by
    simp only [Allowed, found, Option.some.injEq, forall_eq', number, routed.receivers,
      List.getElem?_cons_zero]
  rw [kept.isolated_iff, allowed]
  constructor
  · intro all late
    have begun : s.asyncBegun = true := (Bool.and_eq_true_iff.mp late).1
    have async := (all (pair.1, 0) known).async
      ((ReceiverSystem.offer_begun s _).trans begun)
    exact (filter_asyncLine_iff routed begun ((serves _ known).async begun)).mp async late rfl
  · intro behind other member
    refine kept.serves_group_iff.mpr ⟨fun begun => ?_, (serves other member).own⟩
    rw [ReceiverSystem.offer_begun] at begun
    apply (filter_asyncLine_iff routed begun ((serves other member).async begun)).mpr
    intro late same
    rw [← same]
    exact behind late

end Notify

/-! ### Receiving -/

section Receive

variable {number : Nat} {act : ReceiverAct Notification}

theorem receive_inv (routed : Routed cpp w s) {t : EventWorld ω}
    (stepped : step cpp w (.receive number act) = some t) :
    number = 0 ∧ ReceiverSystem.isConsumer act = true ∧
      ∃ u, s.step act = some u ∧ t = w.setReceiver 0 u := by
  simp only [step, Option.bind_eq_bind, Option.bind_eq_some_iff] at stepped
  obtain ⟨there, found, reached⟩ := stepped
  obtain ⟨rfl, rfl⟩ := routed.lookup found
  by_cases consumer : ReceiverSystem.isConsumer act = true
  · rw [if_pos consumer, Option.bind_eq_some_iff] at reached
    obtain ⟨u, taken, reached⟩ := reached
    exact ⟨rfl, consumer, u, taken, (Option.some.inj reached).symm⟩
  · rw [if_neg consumer] at reached
    cases reached

theorem routed_received (routed : Routed cpp w s) {u : ReceiverSystem Notification}
    (stepped : s.step act = some u) (consumed : s.Consumed act u) :
    Routed cpp (w.setReceiver 0 u) u :=
  { routed with
    receivers := by
      change w.receivers.set 0 u = _
      rw [routed.receivers]
      rfl
    sound := ReceiverSystem.sound_step s act u routed.sound stepped
    open_ := consumed.closed.trans routed.open_
    accepted := consumed.accepted.trans routed.accepted }

theorem delivered_eq_nil_iff (routed : Routed cpp w s) :
    w.delivered = [] ↔
      ∀ pair ∈ w.handed, [] = w.delivered.filter (·.group = pair.1) := by
  constructor
  · intro nothing pair _
    rw [nothing]
    rfl
  · intro all
    by_contra some_
    obtain ⟨notification, member⟩ := List.exists_mem_of_ne_nil _ some_
    have none_ := all _ (routed.grouped notification member)
    have kept : notification ∈ w.delivered.filter (·.group = notification.group) :=
      List.mem_filter.mpr ⟨member, decide_eq_true rfl⟩
    rw [← none_] at kept
    exact absurd kept List.not_mem_nil

theorem receive_isolated_iff (routed : Routed cpp w s) {t : EventWorld ω}
    (stepped : step cpp w (.receive number act) = some t) :
    (∃ u, Routed cpp t u) ∧
      (Isolated w → (Isolated t ↔ Allowed cpp w (.receive number act))) := by
  obtain ⟨rfl, consumer, u, moved, rfl⟩ := receive_inv routed stepped
  have consumed := ReceiverSystem.consumed_of_step routed.sound routed.open_ consumer moved
  have kept := routed_received routed moved consumed
  refine ⟨⟨u, kept⟩, fun isolated => ?_⟩
  have serves := routed.isolated_iff.mp isolated
  have allowed : Allowed cpp w (.receive 0 act) ↔
      (∀ notification ∈ s.taken act, ∀ pair ∈ w.handed, notification.group = pair.1) ∧
        (act.asksAsync = true → s.asyncBegun = false → w.delivered = []) := by
    simp only [Allowed, routed.receivers, List.getElem?_cons_zero, Option.some.injEq,
      forall_eq']
  rw [kept.isolated_iff, allowed]
  constructor
  · intro all
    constructor
    · intro notification member pair known
      exact (all pair known).own notification ((consumed.yielded _).mpr (.inr member))
    · intro asks absent
      apply (delivered_eq_nil_iff routed).mpr
      intro pair known
      have begun : u.asyncBegun = true := by
        rw [consumed.begun, asks, Bool.or_true]
      have async := (all pair known).async begun
      rw [consumed.asyncLine, ReceiverSystem.asyncLine_of_not_begun routed.sound absent] at async
      exact async
  · rintro ⟨own, early⟩ pair known
    refine kept.serves_group_iff.mpr ⟨fun begun => ?_, fun notification member => ?_⟩
    · rw [consumed.asyncLine]
      cases before : s.asyncBegun with
      | true => exact (serves pair known).async before
      | false =>
          rw [consumed.begun, before, Bool.false_or] at begun
          have nothing := early begun before
          rw [ReceiverSystem.asyncLine_of_not_begun routed.sound before]
          exact (delivered_eq_nil_iff routed).mp nothing pair known
    · rcases (consumed.yielded notification).mp member with old | taken
      · exact (serves pair known).own notification old
      · exact own notification taken pair known

end Receive

theorem routed_start {native : ω} (fresh : cpp.subscriptions native = []) :
    Routed cpp { component := { native := native, attributes := {} } } {} where
  number := rfl
  receivers := rfl
  sound := ReceiverSystem.sound_init
  open_ := rfl
  accepted := rfl
  handed := fun _ member => absurd member List.not_mem_nil
  subscribed := by
    intro pair member
    rw [fresh] at member
    exact absurd member List.not_mem_nil
  grouped := fun _ member => absurd member List.not_mem_nil
  numbered := fun _ member => absurd member List.not_mem_nil

theorem step_isolated_iff (lawful : cpp.Lawful) (routed : Routed cpp w s) {action : EventAction}
    {t : EventWorld ω} (stepped : step cpp w action = some t) :
    (∃ u, Routed cpp t u) ∧ (Isolated w → (Isolated t ↔ Allowed cpp w action)) := by
  cases action with
  | subscribeEvents group => exact subscribe_isolated_iff lawful routed stepped
  | notify index notification => exact notify_isolated_iff routed stepped
  | receive number act => exact receive_isolated_iff routed stepped

/-- In a run of subscriptions, deliveries and consumers, the receivers keep the event groups apart
in every state passed through exactly when every action is allowed. -/
theorem groups_isolated_iff (lawful : cpp.Lawful) {native : ω}
    (fresh : cpp.subscriptions native = []) {actions : List EventAction} {u : EventWorld ω}
    (ran : Transition.run (step cpp) { component := { native := native, attributes := {} } }
      actions = some u) :
    Transition.Along (step cpp) (Allowed cpp)
        { component := { native := native, attributes := {} } } actions ↔
      ∀ front, front <+: actions →
        ∀ t, Transition.run (step cpp) { component := { native := native, attributes := {} } }
            front = some t →
          Isolated t := by
  have preserved (w : EventWorld ω) (action : EventAction) (t : EventWorld ω)
      (routed : ∃ s, Routed cpp w s) (stepped : step cpp w action = some t) :
      ∃ s, Routed cpp t s := by
    obtain ⟨s, routed⟩ := routed
    exact (step_isolated_iff lawful routed stepped).1
  have exactly (w : EventWorld ω) (action : EventAction) (t : EventWorld ω)
      (routed : ∃ s, Routed cpp w s) (isolated : Isolated w)
      (stepped : step cpp w action = some t) : Isolated t ↔ Allowed cpp w action := by
    obtain ⟨s, routed⟩ := routed
    exact (step_isolated_iff lawful routed stepped).2 isolated
  have start : Isolated ({ component := { native := native, attributes := {} } } : EventWorld ω) :=
    fun _ member => absurd member List.not_mem_nil
  exact Transition.along_iff_always preserved exactly ⟨_, routed_start fresh⟩ start ran

/-- A native subscriber that is its list of subscriptions. -/
def plainSubscriber : NativeSubscriptions (List (Int × EventCallback)) where
  subscribeEventgroup _ _ group callback := Method.modify fun s => s ++ [(group, callback)]
  subscriptions s := s

theorem plainSubscriber_lawful : plainSubscriber.Lawful where
  returned _ _ _ _ _ _ := rfl
  raised _ _ _ _ _ _ raised := nomatch raised

theorem groups_isolated_iff_one_group :
    ∃ t, Transition.run (step plainSubscriber)
        { component := { native := [], attributes := {} } }
        [.subscribeEvents 1, .notify 0 ⟨0x1234, 0x8001, [7]⟩, .receive 0 .next] = some t ∧
      Isolated t := by
  have isolated := @groups_isolated_iff _ plainSubscriber plainSubscriber_lawful [] rfl _ _
    (show Transition.run (step plainSubscriber)
      { component := { native := [], attributes := {} } }
      [.subscribeEvents 1, .notify 0 ⟨0x1234, 0x8001, [7]⟩, .receive 0 .next] = some _ from rfl)
  refine ⟨_, rfl, isolated.mp ?_ _ (List.prefix_refl _) _ rfl⟩
  refine ⟨?_, fun t first => ?_⟩
  · intro _ s member notification yielded
    obtain rfl := List.mem_singleton.mp member
    exact absurd yielded List.not_mem_nil
  · obtain rfl := Option.some.inj first
    refine ⟨?_, fun t second => ?_⟩
    · intro pair found s there late
      obtain rfl := Option.some.inj found
      obtain rfl := Option.some.inj there
      cases late
    · obtain rfl := Option.some.inj second
      refine ⟨?_, fun _ _ => trivial⟩
      intro s there
      obtain rfl := Option.some.inj there
      refine ⟨fun notification member pair known => ?_, fun asks => nomatch asks⟩
      rw [List.mem_singleton.mp member, List.mem_singleton.mp known]
      rfl

/-- The consumer of one group takes the message of the other. -/
theorem second_group_takes_first :
    ∃ t, Transition.run (step plainSubscriber)
        { component := { native := [], attributes := {} } }
        [.subscribeEvents 1, .subscribeEvents 2, .notify 0 ⟨0x1234, 0x8001, [7]⟩,
          .receive 0 .next] = some t ∧
      ¬ Isolated t := by
  refine ⟨_, rfl, fun isolated => ?_⟩
  obtain ⟨s, there, serves⟩ := isolated (2, 0) (List.mem_cons_of_mem _ List.mem_cons_self)
  obtain rfl := Option.some.inj there
  have own := serves.own ⟨1, 0, CppNotification.toMessage ⟨0x1234, 0x8001, [7]⟩⟩
    List.mem_cons_self
  cases own

end EventWorld

end OpenSomeIp
