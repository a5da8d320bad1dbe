import OpenSomeIp.ReceiverDelivery

set_option autoImplicit false

namespace OpenSomeIp

/-! ### An open receiver -/

namespace ReceiverSystem

variable {α : Type}

/-- What the sync iteration has yielded and what it can still get. -/
def syncLine (s : ReceiverSystem α) : List α := messagesOf (s.returned ++ s.syncItems)

/-- What the async iteration has yielded and what it can still get. -/
def asyncLine (s : ReceiverSystem α) : List α := messagesOf (s.obtained ++ s.world.pending)

def yielded (s : ReceiverSystem α) : List α := messagesOf (s.returned ++ s.obtained)

/-- Async iteration has begun. -/
def asyncBegun (s : ReceiverSystem α) : Bool := s.world.receiver.asyncQueue.isSome

/-- What an action of a consumer takes out of a queue. -/
def taken (s : ReceiverSystem α) : ReceiverAct α → List α
  | .next => messagesOf (s.syncItems.take 1)
  | .resume _ => messagesOf (s.world.asyncItems.take 1)
  | _ => []

theorem sentinel_not_mem_of_open {s : ReceiverSystem α} (sound : s.Sound)
    (open_ : s.closed = false) : .sentinel ∉ s.accepted := by
  intro member
  exact Bool.false_ne_true (open_.symm.trans (sound.closed_iff.mpr member))

/-- As long as the receiver is open, the sync iteration gets all that was put. -/
theorem syncLine_of_open {s : ReceiverSystem α} (sound : s.Sound) (open_ : s.closed = false) :
    s.syncLine = messagesOf s.accepted := by
  obtain ⟨dequeued, stops, returned, queued, marked⟩ := sound.sync
  have none_ : stops = 0 := by
    apply Nat.eq_zero_of_not_pos
    intro positive
    apply sentinel_not_mem_of_open sound open_
    rw [← queued]
    exact List.mem_append_left _ (marked positive)
  rw [none_, List.replicate_zero, List.append_nil] at returned
  rw [syncLine, returned, queued]

/-- What async consumers have got or can get was put. -/
theorem mem_of_asyncLine {s : ReceiverSystem α} (sound : s.Sound) {m : α}
    (member : m ∈ s.asyncLine) : m ∈ messagesOf s.accepted :=
  mem_messagesOf.mpr (sound.delivered _ (mem_messagesOf.mp member))

theorem asyncLine_of_not_begun {s : ReceiverSystem α} (sound : s.Sound)
    (absent : s.asyncBegun = false) : s.asyncLine = [] := by
  have none_ : s.world.receiver.asyncQueue = none := Option.isSome_eq_false_iff.mp absent |>
    Option.isNone_iff_eq_none.mp
  obtain ⟨ready, obtained⟩ := sound.idle none_
  have queue : s.world.asyncItems = [] := by
    rw [ReceiverWorld.asyncItems, none_]
    rfl
  have pending : s.world.pending = s.world.asyncItems ++ s.ready := rfl
  rw [asyncLine, pending, queue, ready, obtained]
  rfl

/-- A consumer's action, or one of the event loop. -/
def isConsumer : ReceiverAct α → Bool
  | .put _ => false
  | .close => false
  | _ => true

/-- What such an action does to an open receiver: it moves items along, and yields what it
takes. -/
structure Consumed (s : ReceiverSystem α) (act : ReceiverAct α) (t : ReceiverSystem α) :
    Prop where
  closed : t.closed = s.closed
  accepted : t.accepted = s.accepted
  asyncLine : t.asyncLine = s.asyncLine
  yielded : ∀ m, m ∈ t.yielded ↔ m ∈ s.yielded ∨ m ∈ s.taken act
  begun : t.asyncBegun = (s.asyncBegun || act.asksAsync)

theorem consumed_of_step {s t : ReceiverSystem α} {act : ReceiverAct α} (sound : s.Sound)
    (open_ : s.closed = false) (consumer : isConsumer act = true) (stepped : s.step act = some t) :
    Consumed s act t := by
  have same (m : α) (nothing : s.taken act = []) :
      m ∈ s.yielded ↔ m ∈ s.yielded ∨ m ∈ s.taken act := by
    rw [nothing]
    simp only [List.not_mem_nil, or_false]
  cases moves_of_step sound.unbounded stepped with
  | putClosed m closed => cases consumer
  | putOpen m open_ => cases consumer
  | close => cases consumer
  | nextItem item rest head =>
      refine ⟨rfl, rfl, rfl, fun m => ?_, (Bool.or_false _).symm⟩
      rw [taken, head, yielded, yielded, messagesOf_append, messagesOf_append, messagesOf_append,
        List.take_succ_cons, List.take_zero]
      simp only [List.mem_append]
      tauto
  | nextIdle empty open_ =>
      refine ⟨rfl, rfl, rfl, fun m => same m ?_, (Bool.or_false _).symm⟩
      rw [taken, empty]
      rfl
  | nextStop empty closed => exact absurd (open_.symm.trans closed) Bool.false_ne_true
  | aiter inLoop inside =>
      have made := ReceiverWorld.ensureAsyncQueue_eq inLoop s.world
      refine ⟨?_, rfl, ?_, fun m => same m rfl, ?_⟩
      · exact congrArg (fun w => w.receiver.closed) made
      · rw [asyncLine, asyncLine, ensured, made]
        rfl
      · rw [asyncBegun, ensured, made]
        exact (Bool.or_true _).symm
  | anext task inside =>
      have made := ReceiverWorld.anext_eq task true s.world
      refine ⟨?_, rfl, ?_, fun m => same m rfl, ?_⟩
      · exact congrArg (fun w => w.receiver.closed) made
      · rw [asyncLine, asyncLine, made]
        rfl
      · rw [asyncBegun, made]
        exact (Bool.or_true _).symm
  | resume task aq item rest inside created waits head =>
      refine ⟨rfl, rfl, ?_, fun m => ?_, ?_⟩
      · simp only [asyncLine, ReceiverWorld.pending, ReceiverWorld.asyncItems, created,
          Option.getD_some, head, ReceiverWorld.setAsyncQueue, List.append_assoc,
          List.cons_append, List.nil_append]
      · have first : s.world.asyncItems = item :: rest := by
          rw [ReceiverWorld.asyncItems, created]
          exact head
        rw [taken, first, yielded, yielded, messagesOf_append, messagesOf_append,
          messagesOf_append, List.take_succ_cons, List.take_zero]
        simp only [List.mem_append]
        tauto
      · change true = (s.asyncBegun || false)
        rw [asyncBegun, created]
        rfl
  | tick aq item rest inside created head =>
      refine ⟨rfl, rfl, ?_, fun m => same m rfl, ?_⟩
      · unfold ready at head
        simp only [asyncLine, ReceiverWorld.pending, ReceiverWorld.asyncItems, created,
          Option.getD_some, head, ReceiverWorld.setAsyncQueue, AsyncQueue.putNowait_items,
          List.append_assoc, List.cons_append, List.nil_append]
      · change true = (s.asyncBegun || false)
        rw [asyncBegun, created]
        rfl
  | stopLoop => exact ⟨rfl, rfl, rfl, fun m => same m rfl, (Bool.or_false _).symm⟩
  | runLoop => exact ⟨rfl, rfl, rfl, fun m => same m rfl, (Bool.or_false _).symm⟩

/-- Whether a message handed in now goes ahead of the scheduled ones. -/
def overtakes (s : ReceiverSystem α) : Bool :=
  s.asyncBegun && !(s.world.receiver.loop && s.running)

theorem offer_begun (s : ReceiverSystem α) (item : Item α) :
    (s.offer false item).asyncBegun = s.asyncBegun := by
  rcases ReceiverWorld.deliver_cases s.world false item with
    ⟨absent, same⟩ | ⟨aq, created, ⟨_, _, same⟩ | ⟨_, same⟩⟩
  · rw [asyncBegun, offer, same]
    rfl
  · rw [asyncBegun, offer, same]
    rfl
  · rw [asyncBegun, asyncBegun, offer, same, created]
    rfl

/-- Where it does not overtake, a message joins the end of the line. -/
theorem offer_asyncLine {s : ReceiverSystem α} (begun : s.asyncBegun = true)
    (behind : s.overtakes = false) (m : α) :
    (s.offer false (.message m)).asyncLine = s.asyncLine ++ [m] := by
  rw [overtakes, begun, Bool.true_and, Bool.not_eq_false'] at behind
  rcases ReceiverWorld.deliver_cases s.world false (.message m) with
    ⟨absent, _⟩ | ⟨aq, created, ⟨_, _, same⟩ | ⟨still, _⟩⟩
  · rw [asyncBegun, absent] at begun
    cases begun
  · rw [asyncLine, offer, same]
    change messagesOf (s.obtained ++ (s.world.asyncItems ++ (s.ready ++ [.message m]))) = _
    rw [← List.append_assoc, ← List.append_assoc, messagesOf_append, List.append_assoc]
    rfl
  · cases still.symm.trans behind

theorem offer_asyncLine_overtaking {s : ReceiverSystem α} (overtakes : s.overtakes = true) (m : α) :
    (s.offer false (.message m)).asyncLine =
      messagesOf (s.obtained ++ s.world.asyncItems) ++ m :: messagesOf s.ready := by
  rw [ReceiverSystem.overtakes, Bool.and_eq_true_iff, Bool.not_eq_true'] at overtakes
  obtain ⟨begun, late⟩ := overtakes
  rcases ReceiverWorld.deliver_cases s.world false (.message m) with
    ⟨absent, _⟩ | ⟨aq, created, ⟨loop, running, _⟩ | ⟨_, same⟩⟩
  · rw [asyncBegun, absent] at begun
    cases begun
  · rw [loop, Bool.true_and] at late
    cases late.symm.trans running
  · rw [asyncLine, offer, same]
    change messagesOf (s.obtained ++ (aq.items ++ [.message m] ++ s.ready)) = _
    have queue : s.world.asyncItems = aq.items := by
      rw [ReceiverWorld.asyncItems, created]
      rfl
    rw [queue, List.append_assoc, ← List.append_assoc, messagesOf_append]
    rfl

theorem asyncLine_eq (s : ReceiverSystem α) :
    s.asyncLine = messagesOf (s.obtained ++ s.world.asyncItems) ++ messagesOf s.ready := by
  rw [asyncLine, ReceiverWorld.pending, ← List.append_assoc, messagesOf_append]
  rfl

end ReceiverSystem

end OpenSomeIp
