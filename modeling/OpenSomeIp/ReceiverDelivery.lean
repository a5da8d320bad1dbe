import OpenSomeIp.ReceiverSystem

set_option autoImplicit false

namespace OpenSomeIp

/-- Whether the action asks for the async queue. -/
def ReceiverAct.asksAsync {α : Type} : ReceiverAct α → Bool
  | .aiter _ => true
  | .anext _ => true
  | _ => false

def ReceiverAct.isClose {α : Type} : ReceiverAct α → Bool
  | .close => true
  | _ => false

/-- Whether the action belongs to a consumer or to the event loop at work for it. -/
def ReceiverAct.consumes {α : Type} : ReceiverAct α → Bool
  | .next => true
  | .anext _ => true
  | .resume _ => true
  | .tick => true
  | _ => false

namespace ReceiverSystem

variable {α : Type}

/-- The messages ahead of the first end-of-stream. -/
def beforeEnd : List (Item α) → List α
  | [] => []
  | .sentinel :: _ => []
  | .message m :: items => m :: beforeEnd items

/-- The messages put before the first `close`, in put order. -/
def putBeforeClose : List (ReceiverAct α) → List α
  | [] => []
  | .close :: _ => []
  | .put m :: acts => m :: putBeforeClose acts
  | _ :: acts => putBeforeClose acts

/-- The consumers of a prefix of the items see a prefix of the messages, and all of
them once they met an end-of-stream. -/
theorem prefix_beforeEnd {xs ys : List (Item α)} (front : xs <+: ys) :
    beforeEnd xs <+: beforeEnd ys ∧ (.sentinel ∈ xs → beforeEnd xs = beforeEnd ys) := by
  obtain ⟨back, rfl⟩ := front
  induction xs with
  | nil => exact ⟨List.nil_prefix, fun member => absurd member List.not_mem_nil⟩
  | cons x xs ih =>
      cases x with
      | sentinel => exact ⟨List.prefix_refl _, fun _ => rfl⟩
      | message m =>
          refine ⟨List.cons_prefix_cons.mpr ⟨rfl, ih.1⟩, fun member => ?_⟩
          have tail : .sentinel ∈ xs := by simpa using member
          exact congrArg (m :: ·) (ih.2 tail)

theorem beforeEnd_append_replicate (xs : List (Item α)) (stops : Nat) :
    beforeEnd (xs ++ List.replicate stops .sentinel) = beforeEnd xs := by
  induction xs with
  | nil => cases stops <;> rfl
  | cons x xs ih =>
      cases x with
      | sentinel => rfl
      | message m => exact congrArg (m :: ·) ih

theorem beforeEnd_offered (acts : List (ReceiverAct α)) :
    beforeEnd (offered false acts) = putBeforeClose acts := by
  induction acts with
  | nil => rfl
  | cons a acts ih =>
      cases a with
      | put m => exact congrArg (m :: ·) ih
      | close => rfl
      | _ => exact ih

theorem beforeEnd_append_of_mem {xs : List (Item α)} (stop : .sentinel ∈ xs)
    (ys : List (Item α)) : beforeEnd (xs ++ ys) = beforeEnd xs :=
  ((prefix_beforeEnd (List.prefix_append xs ys)).2 stop).symm

theorem beforeEnd_append_of_not_mem {xs : List (Item α)} (open_ : .sentinel ∉ xs)
    (ys : List (Item α)) : beforeEnd (xs ++ ys) = beforeEnd xs ++ beforeEnd ys := by
  induction xs with
  | nil => rfl
  | cons x xs ih =>
      cases x with
      | sentinel => exact absurd List.mem_cons_self open_
      | message m => exact congrArg (m :: ·) (ih fun member => open_ (List.mem_cons_of_mem _ member))

/-- A closed receiver takes no message. -/
theorem beforeEnd_offered_closed (acts : List (ReceiverAct α)) :
    beforeEnd (offered true acts) = [] := by
  induction acts with
  | nil => rfl
  | cons a acts ih =>
      cases a with
      | close => rfl
      | _ => exact ih

/-- The first action decides whether the rest of the calls meets a closed receiver. -/
theorem offered_cons (closed : Bool) (a : ReceiverAct α) (acts : List (ReceiverAct α)) :
    offered closed (a :: acts) =
      offered closed [a] ++ offered (closed || a.isClose) acts := by
  cases a <;> cases closed <;> rfl

theorem sentinel_mem_offered {acts : List (ReceiverAct α)} (closes : .close ∈ acts)
    (closed : Bool) : .sentinel ∈ offered closed acts := by
  induction acts generalizing closed with
  | nil => exact absurd closes List.not_mem_nil
  | cons a acts ih =>
      rw [offered_cons]
      rcases List.mem_cons.mp closes with rfl | later
      · refine List.mem_append_left _ ?_
        cases closed <;> exact List.mem_cons_self
      · exact List.mem_append_right _ (ih later _)

/-- An end-of-stream is followed by nothing else. -/
def Ended (items : List (Item α)) : Prop :=
  items.Pairwise fun x y => x = .sentinel → y = .sentinel

/-- What `__next__` calls saw is what they dequeued, and end-of-stream again for
every call that found the queue empty and the receiver closed. -/
def SyncDelivers (s : ReceiverSystem α) : Prop :=
  ∃ dequeued stops, s.returned = dequeued ++ List.replicate stops .sentinel ∧
    dequeued ++ s.syncItems = s.accepted ∧ (0 < stops → .sentinel ∈ dequeued)

/-- What holds in every state of a receiver whose sync queue is unbounded. -/
structure Sound (s : ReceiverSystem α) : Prop where
  unbounded : s.Unbounded
  idle : s.world.receiver.asyncQueue = none → s.ready = [] ∧ s.obtained = []
  ended : Ended s.accepted
  closed_iff : s.closed = true ↔ .sentinel ∈ s.accepted
  sync : s.SyncDelivers
  delivered : ∀ item ∈ s.obtained ++ s.world.pending, item ∈ s.accepted

theorem sound_init : Sound ({} : ReceiverSystem α) where
  unbounded := rfl
  idle := fun _ => ⟨rfl, rfl⟩
  ended := List.Pairwise.nil
  closed_iff := by simp only [closed, Bool.false_eq_true, List.not_mem_nil]
  sync := ⟨[], 0, rfl, rfl, fun positive => absurd positive (Nat.lt_irrefl 0)⟩
  delivered := fun _ member => absurd member List.not_mem_nil

theorem ended_append {items : List (Item α)} (ended : Ended items) {item : Item α}
    (last : item = .sentinel ∨ .sentinel ∉ items) : Ended (items ++ [item]) := by
  refine List.pairwise_append.mpr ⟨ended, List.pairwise_singleton _ _, ?_⟩
  intro x member y single stop
  obtain rfl := List.mem_singleton.mp single
  rcases last with rfl | none
  · rfl
  · exact absurd (stop ▸ member) none

/-- Handing in an item keeps a receiver sound: a message while it is open, a sentinel
at any time. -/
theorem sound_offer {s : ReceiverSystem α} (sound : s.Sound) {closed : Bool} {item : Item α}
    (fits : closed = true ∧ item = .sentinel ∨
      s.closed = false ∧ closed = false ∧ item ≠ .sentinel) :
    (s.offer closed item).Sound := by
  obtain ⟨syncQueue, closedFlag, _, _, _⟩ := ReceiverWorld.deliver_frame s.world closed item
  refine ⟨?_, ?_, ?_, ?_, ?_, ?_⟩
  · show (s.world.deliver closed item).receiver.syncQueue.maxsize = 0
    rw [syncQueue]
    exact sound.unbounded
  · intro absent
    cases created : s.world.receiver.asyncQueue with
    | none =>
        have idle := sound.idle created
        obtain ⟨_, eventLoop⟩ := ReceiverWorld.deliver_absent_queues created closed item
        exact ⟨(congrArg EventLoop.ready eventLoop).trans idle.1, idle.2⟩
    | some aq =>
        obtain ⟨next, present, _⟩ := ReceiverWorld.deliver_queues created closed item
        exact absurd (present.symm.trans absent) (Option.some_ne_none next)
  · refine ended_append sound.ended ?_
    rcases fits with ⟨_, last⟩ | ⟨open_, _, _⟩
    · exact .inl last
    · refine .inr fun member => ?_
      exact Bool.false_ne_true (open_.symm.trans (sound.closed_iff.mpr member))
  · show (s.world.deliver closed item).receiver.closed = true ↔ .sentinel ∈ s.accepted ++ [item]
    rw [closedFlag, List.mem_append, List.mem_singleton, ← sound.closed_iff]
    rcases fits with ⟨rfl, rfl⟩ | ⟨open_, rfl, message⟩
    · simp only [or_true]
    · simp only [open_, Bool.false_eq_true, message.symm, or_self]
  · obtain ⟨dequeued, stops, returned, queued, marked⟩ := sound.sync
    refine ⟨dequeued, stops, returned, ?_, marked⟩
    show dequeued ++ (s.world.deliver closed item).receiver.syncQueue.items = s.accepted ++ [item]
    rw [syncQueue, ← queued, List.append_assoc]
    rfl
  · intro other member
    show other ∈ s.accepted ++ [item]
    rcases List.mem_append.mp member with got | waits
    · exact List.mem_append_left _ (sound.delivered other (List.mem_append_left _ got))
    · rcases ReceiverWorld.mem_pending_deliver waits with old | rfl
      · exact List.mem_append_left _ (sound.delivered other (List.mem_append_right _ old))
      · exact List.mem_append_right _ List.mem_cons_self

/-- A `__next__` that dequeues takes the head of what was handed in and not yet taken. -/
theorem syncDelivers_nextItem {s : ReceiverSystem α} (sound : s.Sound) {item : Item α}
    {rest : List (Item α)} (head : s.syncItems = item :: rest) :
    ∃ dequeued stops, s.returned ++ [item] = dequeued ++ List.replicate stops .sentinel ∧
      dequeued ++ rest = s.accepted ∧ (0 < stops → .sentinel ∈ dequeued) := by
  obtain ⟨dequeued, stops, returned, queued, marked⟩ := sound.sync
  rw [head] at queued
  refine ⟨dequeued ++ [item], stops, ?_, ?_, fun again => List.mem_append_left _ (marked again)⟩
  · cases stops with
    | zero => simp only [returned, List.replicate_zero, List.append_nil]
    | succ stops =>
        -- a call saw end-of-stream on the empty queue, so only sentinels came after
        have stop : .sentinel ∈ dequeued := marked (Nat.zero_lt_succ stops)
        have ended : Ended (dequeued ++ item :: rest) := queued.symm ▸ sound.ended
        have last : item = .sentinel :=
          (List.pairwise_append.mp ended).2.2 _ stop _ List.mem_cons_self rfl
        rw [returned, last, List.append_assoc, List.append_assoc, ← List.replicate_succ',
          List.replicate_succ, List.singleton_append]
  · rw [← queued, List.append_assoc]
    rfl

/-- What the `__next__` of a closed receiver returns from an empty queue. -/
theorem syncDelivers_nextStop {s : ReceiverSystem α} (sound : s.Sound) (empty : s.syncItems = [])
    (closed : s.closed = true) :
    ∃ dequeued stops, s.returned ++ [.sentinel] = dequeued ++ List.replicate stops .sentinel ∧
      dequeued ++ [] = s.accepted ∧ (0 < stops → .sentinel ∈ dequeued) := by
  obtain ⟨dequeued, stops, returned, queued, marked⟩ := sound.sync
  rw [empty] at queued
  refine ⟨dequeued, stops + 1, ?_, queued, fun _ => ?_⟩
  · rw [returned, List.replicate_succ', List.append_assoc]
  · rw [List.append_nil] at queued
    rw [queued]
    exact sound.closed_iff.mp closed

/-- An action of the async side moves items along and leaves the sync side alone. -/
theorem sound_of_async {s t : ReceiverSystem α} (sound : s.Sound)
    (syncQueue : t.world.receiver.syncQueue = s.world.receiver.syncQueue)
    (closed : t.closed = s.closed) (accepted : t.accepted = s.accepted)
    (returned : t.returned = s.returned) (created : t.world.receiver.asyncQueue ≠ none)
    (moved : ∀ item ∈ t.obtained ++ t.world.pending, item ∈ s.obtained ++ s.world.pending) :
    t.Sound where
  unbounded := (congrArg SyncQueue.maxsize syncQueue).trans sound.unbounded
  idle := fun absent => absurd absent created
  ended := accepted ▸ sound.ended
  closed_iff := by
    rw [closed, accepted]
    exact sound.closed_iff
  sync := by
    obtain ⟨dequeued, stops, seen, queued, marked⟩ := sound.sync
    refine ⟨dequeued, stops, returned.trans seen, ?_, marked⟩
    rw [accepted, ← queued, syncItems, syncQueue]
    rfl
  delivered := fun item member => accepted ▸ sound.delivered item (moved item member)

/-- Every action keeps a receiver sound. -/
theorem sound_step (s : ReceiverSystem α) (a : ReceiverAct α) (t : ReceiverSystem α)
    (sound : s.Sound) (success : s.step a = some t) : t.Sound := by
  cases moves_of_step sound.unbounded success with
  | putClosed m closed => exact sound
  | putOpen m open_ => exact sound_offer sound (.inr ⟨open_, rfl, nofun⟩)
  | close => exact sound_offer sound (.inl ⟨rfl, rfl⟩)
  | nextItem item rest head =>
      exact { sound with sync := syncDelivers_nextItem sound head }
  | nextIdle empty open_ => exact sound
  | nextStop empty closed =>
      refine { sound with sync := ?_ }
      obtain ⟨dequeued, stops, returned, queued, marked⟩ :=
        syncDelivers_nextStop sound empty closed
      exact ⟨dequeued, stops, returned, empty ▸ queued, marked⟩
  | aiter inLoop inside =>
      have same := ReceiverWorld.ensureAsyncQueue_eq inLoop s.world
      refine sound_of_async sound ?_ ?_ rfl rfl ?_ fun item member => ?_
      · exact congrArg (fun w => w.receiver.syncQueue) same
      · exact congrArg (fun w => w.receiver.closed) same
      · simp only [ensured, same, ReceiverWorld.setReceiver, ne_eq, reduceCtorEq,
          not_false_eq_true]
      · simpa only [ensured, same, ReceiverWorld.pending, ReceiverWorld.asyncItems,
          ReceiverWorld.setReceiver, Option.getD_some] using member
  | anext task inside =>
      have same := ReceiverWorld.anext_eq task true s.world
      refine sound_of_async sound ?_ ?_ rfl rfl ?_ fun item member => ?_
      · exact congrArg (fun w => w.receiver.syncQueue) same
      · exact congrArg (fun w => w.receiver.closed) same
      · simp only [same, ReceiverWorld.setReceiver, ne_eq, reduceCtorEq, not_false_eq_true]
      · simpa only [same, ReceiverWorld.pending, ReceiverWorld.asyncItems,
          ReceiverWorld.setReceiver, Option.getD_some] using member
  | resume task aq item rest inside created waits head =>
      refine sound_of_async sound rfl rfl rfl rfl (Option.some_ne_none _) fun other member => ?_
      simp only [ReceiverWorld.pending, ReceiverWorld.asyncItems, created, Option.getD_some, head]
      simpa only [ReceiverWorld.pending, ReceiverWorld.asyncItems, ReceiverWorld.setAsyncQueue,
        Option.getD_some, List.append_assoc, List.singleton_append, List.cons_append,
        List.nil_append] using member
  | tick aq item rest inside created head =>
      refine sound_of_async sound rfl rfl rfl rfl (Option.some_ne_none _) fun other member => ?_
      unfold ready at head
      simp only [ReceiverWorld.pending, ReceiverWorld.asyncItems, created, Option.getD_some, head]
      simpa only [ReceiverWorld.pending, ReceiverWorld.asyncItems, ReceiverWorld.setAsyncQueue,
        AsyncQueue.putNowait_items, Option.getD_some, List.append_assoc, List.singleton_append]
        using member
  | stopLoop => exact { sound with }
  | runLoop => exact { sound with }

theorem sound_run {acts : List (ReceiverAct α)} {s t : ReceiverSystem α} (sound : s.Sound)
    (ran : Transition.run step s acts = some t) : t.Sound :=
  Transition.invariant_run sound_step sound ran

/-- The messages that `__next__` calls returned, in their order, are those ahead of the
first `close`. -/
theorem returned_seen {s : ReceiverSystem α} (sound : s.Sound) :
    beforeEnd s.returned <+: beforeEnd s.accepted ∧
      (.sentinel ∈ s.returned → beforeEnd s.returned = beforeEnd s.accepted) := by
  obtain ⟨dequeued, stops, returned, queued, marked⟩ := sound.sync
  have front : dequeued <+: s.accepted := ⟨s.syncItems, queued⟩
  have seen := prefix_beforeEnd front
  rw [returned, beforeEnd_append_replicate]
  refine ⟨seen.1, fun member => seen.2 ?_⟩
  rcases List.mem_append.mp member with inside | stopped
  · exact inside
  · exact marked (Nat.pos_of_ne_zero (List.mem_replicate.mp stopped).1)

theorem accepted_step {s t : ReceiverSystem α} {a : ReceiverAct α} (unbounded : s.Unbounded)
    (success : s.step a = some t) :
    t.accepted = s.accepted ++ offered s.closed [a] ∧ t.closed = (s.closed || a.isClose) := by
  cases moves_of_step unbounded success with
  | putClosed m closed => simp only [closed, offered, List.append_nil, Bool.true_or, and_self]
  | putOpen m open_ =>
      refine ⟨by simp only [open_, offered, offer], ?_⟩
      rw [open_]
      exact (ReceiverWorld.deliver_frame s.world false (.message m)).2.1
  | close =>
      refine ⟨by cases s.closed <;> rfl, ?_⟩
      rw [ReceiverAct.isClose, Bool.or_true]
      exact (ReceiverWorld.deliver_frame s.world true .sentinel).2.1
  | aiter inLoop inside =>
      have same := ReceiverWorld.ensureAsyncQueue_eq inLoop s.world
      refine ⟨by cases s.closed <;> simp [offered, ensured], ?_⟩
      exact (congrArg (fun w => w.receiver.closed) same).trans (Bool.or_false _).symm
  | anext task inside =>
      have same := ReceiverWorld.anext_eq task true s.world
      refine ⟨by cases s.closed <;> simp [offered], ?_⟩
      exact (congrArg (fun w => w.receiver.closed) same).trans (Bool.or_false _).symm
  | _ => refine ⟨by cases s.closed <;> simp [offered], (Bool.or_false _).symm⟩

/-- The receiver accepted what the calls of the run offered it. -/
theorem accepted_run {acts : List (ReceiverAct α)} {s t : ReceiverSystem α} (sound : s.Sound)
    (ran : Transition.run step s acts = some t) :
    t.accepted = s.accepted ++ offered s.closed acts := by
  induction acts generalizing s with
  | nil =>
      obtain rfl := Option.some.inj ran
      simp only [offered, List.append_nil]
  | cons a acts ih =>
      obtain ⟨middle, first, rest⟩ := Transition.run_cons_eq_some ran
      obtain ⟨accepted, closed⟩ := accepted_step sound.unbounded first
      rw [ih (sound_step s a middle sound first) rest, accepted, closed, offered_cons s.closed a acts,
        List.append_assoc]

end ReceiverSystem

end OpenSomeIp
