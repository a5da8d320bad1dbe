import OpenSomeIp.ReceiverLines

set_option autoImplicit false

namespace OpenSomeIp

namespace ReceiverWorld

variable {α : Type}

/-- An item more for the sync consumer and, where there is an async queue, for the async one: in
the queue, or scheduled on the running loop. -/
structure Enqueued (item : Item α) (w u : ReceiverWorld α) : Prop where
  sync : u.receiver.syncQueue = w.receiver.syncQueue.push item
  async : ∀ aq, w.receiver.asyncQueue = some aq → ∃ next, u.receiver.asyncQueue = some next ∧
    ((next.items = aq.items ++ [item] ∧ u.eventLoop.ready = w.eventLoop.ready) ∨
      (next.items = aq.items ∧ w.eventLoop.running = true ∧
        u.eventLoop.ready = w.eventLoop.ready ++ [item]))

theorem enqueued_deliver (w : ReceiverWorld α) (closed : Bool) (item : Item α) :
    Enqueued item w (w.deliver closed item) where
  sync := (deliver_frame w closed item).1
  async aq created := by
    obtain ⟨next, present, queues⟩ := deliver_queues created closed item
    refine ⟨next, present, ?_⟩
    rcases queues with ⟨items, running, ready⟩ | ⟨items, _, ready⟩
    · exact .inr ⟨items, running, ready⟩
    · exact .inl ⟨items, ready⟩

/-- The source's `put` never leaves anything half done. -/
theorem put_raised {w u : ReceiverWorld α} {m : α} {exc : Exn} (raised : put m w = (.error exc, u)) :
    u = w := by
  cases open_ : w.receiver.closed with
  | true =>
      rw [put_of_closed open_] at raised
      cases raised
  | false =>
      cases full : w.receiver.syncQueue.full with
      | true =>
          rw [put_of_full open_ full] at raised
          exact (congrArg Prod.snd raised).symm
      | false =>
          rw [put_of_room open_ full] at raised
          cases raised

end ReceiverWorld

namespace ReceiverSystem

variable {α : Type}

/-- What a call of `put` or `close` promises: it raises with the receiver and the scheduled calls
as they were, and a `close` that returns has closed the receiver and enqueued the sentinel. -/
def Atomic (s : ReceiverSystem α) : ReceiverAct α → Prop
  | .put m => ∀ exc w, s.world.put m = (.error exc, w) → w = s.world
  | .close =>
      (∀ exc w, s.world.close = (.error exc, w) → w = s.world) ∧
        ∀ w, s.world.close = (.ok (), w) →
          w.receiver.closed = true ∧ s.world.Enqueued .sentinel w
  | _ => True

/-- No open receiver is closed on a full queue. -/
def Roomy (s : ReceiverSystem α) (act : ReceiverAct α) : Prop :=
  act = .close → s.world.receiver.syncQueue.full = true → s.closed = true

theorem close_atomic_of_room {s : ReceiverSystem α}
    (room : s.world.receiver.syncQueue.full = false) : s.Atomic .close := by
  have returned := ReceiverWorld.close_of_room room
  constructor
  · intro exc w ran
    rw [returned] at ran
    cases ran
  · intro w ran
    rw [returned] at ran
    obtain rfl : s.world.deliver true .sentinel = w := congrArg Prod.snd ran
    exact ⟨(ReceiverWorld.deliver_frame _ _ _).2.1,
      ReceiverWorld.enqueued_deliver s.world true .sentinel⟩

/-- On a full queue the flag is all that a `close` changes, so it has to be set already. -/
theorem close_atomic_iff_of_full {s : ReceiverSystem α}
    (full : s.world.receiver.syncQueue.full = true) : s.Atomic .close ↔ s.closed = true := by
  have raised := ReceiverWorld.close_of_full full
  constructor
  · intro atomic
    have same := atomic.1 _ _ raised
    rw [closed, ← same]
    rfl
  · intro shut
    have shut : s.world.receiver.closed = true := shut
    constructor
    · intro exc w ran
      rw [raised, ← shut] at ran
      exact (congrArg Prod.snd ran).symm
    · intro w ran
      rw [raised] at ran
      cases ran

theorem atomic_iff_roomy (s : ReceiverSystem α) (act : ReceiverAct α) :
    s.Atomic act ↔ s.Roomy act := by
  cases act with
  | put m =>
      apply iff_of_true
      · intro exc w raised
        exact ReceiverWorld.put_raised raised
      · intro closing
        cases closing
  | close =>
      cases full : s.world.receiver.syncQueue.full with
      | true =>
          rw [close_atomic_iff_of_full full]
          exact ⟨fun shut _ _ => shut, fun roomy => roomy rfl full⟩
      | false =>
          apply iff_of_true (close_atomic_of_room full)
          intro _ other
          rw [full] at other
          cases other
  | _ =>
      apply iff_of_true trivial
      intro closing
      cases closing

/-! ### The closed flag over a run -/

theorem step_put_of_room {s : ReceiverSystem α} (open_ : s.closed = false)
    (room : s.world.receiver.syncQueue.full = false) (m : α) :
    s.step (.put m) = some (s.offer false (.message m)) := by
  have delivered := ReceiverWorld.put_of_room open_ room m
  simp only [step, delivered, open_, Bool.false_eq_true, ↓reduceIte, offer]

theorem step_close_of_room {s : ReceiverSystem α}
    (room : s.world.receiver.syncQueue.full = false) :
    s.step .close = some (s.offer true .sentinel) := by
  simp only [step, ReceiverWorld.close_of_room room, offer]

theorem step_close_of_full {s : ReceiverSystem α}
    (full : s.world.receiver.syncQueue.full = true) :
    s.step .close = some { s with
      world := s.world.setReceiver { s.world.receiver with closed := true } } := by
  simp only [step, ReceiverWorld.close_of_full full]

/-- A put leaves the flag alone and accepts no sentinel. -/
theorem put_frame {s t : ReceiverSystem α} {m : α} (stepped : s.step (.put m) = some t) :
    t.closed = s.closed ∧ (.sentinel ∈ t.accepted ↔ .sentinel ∈ s.accepted) := by
  cases open_ : s.closed with
  | true =>
      have same := ReceiverWorld.put_of_closed open_ m
      simp only [step, same, open_, ↓reduceIte, List.append_nil] at stepped
      obtain rfl := Option.some.inj stepped
      exact ⟨open_, Iff.rfl⟩
  | false =>
      cases full : s.world.receiver.syncQueue.full with
      | true =>
          have same := ReceiverWorld.put_of_full open_ full m
          simp only [step, same] at stepped
          obtain rfl := Option.some.inj stepped
          exact ⟨open_, Iff.rfl⟩
      | false =>
          rw [step_put_of_room open_ full] at stepped
          obtain rfl := Option.some.inj stepped
          refine ⟨(ReceiverWorld.deliver_frame _ _ _).2.1, ?_⟩
          simp only [offer, List.mem_append, List.mem_singleton, reduceCtorEq, or_false]

/-- Consumers and the event loop leave the flag and the accepted items alone. -/
theorem consumer_frame {s t : ReceiverSystem α} {act : ReceiverAct α}
    (consumer : isConsumer act = true) (stepped : s.step act = some t) :
    t.closed = s.closed ∧ t.accepted = s.accepted := by
  have puts (m : α) : act ≠ .put m := by
    rintro rfl
    cases consumer
  have closes : act ≠ .close := by
    rintro rfl
    cases consumer
  cases moves_of_consumer puts closes stepped with
  | putClosed m => exact absurd rfl (puts m)
  | putOpen m => exact absurd rfl (puts m)
  | close => exact absurd rfl closes
  | aiter inLoop inside =>
      have made := ReceiverWorld.ensureAsyncQueue_eq inLoop s.world
      exact ⟨congrArg (fun w => w.receiver.closed) made, rfl⟩
  | anext task inside =>
      have made := ReceiverWorld.anext_eq task true s.world
      exact ⟨congrArg (fun w => w.receiver.closed) made, rfl⟩
  | _ => exact ⟨rfl, rfl⟩

/-- No sentinel is accepted that did not close the receiver. -/
def Marked (s : ReceiverSystem α) : Prop := .sentinel ∈ s.accepted → s.closed = true

/-- A receiver that counts as closed has been given its sentinel. -/
def Signalled (s : ReceiverSystem α) : Prop := s.closed = true → .sentinel ∈ s.accepted

theorem marked_step {s t : ReceiverSystem α} {act : ReceiverAct α} (marked : s.Marked)
    (stepped : s.step act = some t) : t.Marked := by
  cases act with
  | put m =>
      obtain ⟨closed, accepted⟩ := put_frame stepped
      intro member
      rw [closed]
      exact marked (accepted.mp member)
  | close =>
      intro _
      cases full : s.world.receiver.syncQueue.full with
      | true =>
          rw [step_close_of_full full] at stepped
          obtain rfl := Option.some.inj stepped
          rfl
      | false =>
          rw [step_close_of_room full] at stepped
          obtain rfl := Option.some.inj stepped
          exact (ReceiverWorld.deliver_frame _ _ _).2.1
  | _ =>
      obtain ⟨closed, accepted⟩ := consumer_frame rfl stepped
      rw [Marked, closed, accepted]
      exact marked

/-- A step keeps it that a closed receiver has its sentinel exactly if it is roomy. -/
theorem signalled_step_iff {s t : ReceiverSystem α} {act : ReceiverAct α} (marked : s.Marked)
    (signalled : s.Signalled) (stepped : s.step act = some t) : t.Signalled ↔ s.Roomy act := by
  cases act with
  | put m =>
      obtain ⟨closed, accepted⟩ := put_frame stepped
      apply iff_of_true _ nofun
      rw [Signalled, closed, accepted]
      exact signalled
  | close =>
      cases full : s.world.receiver.syncQueue.full with
      | true =>
          rw [step_close_of_full full] at stepped
          obtain rfl := Option.some.inj stepped
          constructor
          · intro sentinel _ _
            exact marked (sentinel rfl)
          · intro roomy _
            exact signalled (roomy rfl full)
      | false =>
          rw [step_close_of_room full] at stepped
          obtain rfl := Option.some.inj stepped
          apply iff_of_true
          · intro _
            exact List.mem_append_right _ List.mem_cons_self
          · intro _ other
            rw [full] at other
            cases other
  | _ =>
      obtain ⟨closed, accepted⟩ := consumer_frame rfl stepped
      apply iff_of_true _ nofun
      rw [Signalled, closed, accepted]
      exact signalled

/-- Puts and closes on a receiver of any size are atomic in a run exactly when no open receiver is
closed on a full queue; it is also then that the receiver never counts as closed without its
sentinel. -/
theorem put_close_atomic_iff (maxsize : Int) (acts : List (ReceiverAct α)) :
    let fresh : ReceiverSystem α := { world := { receiver := { syncQueue := { maxsize } } } }
    (Transition.Along step Atomic fresh acts ↔ Transition.Along step Roomy fresh acts) ∧
      ∀ u, Transition.run step fresh acts = some u →
        (Transition.Along step Roomy fresh acts ↔
          ∀ front, front <+: acts → ∀ t, Transition.run step fresh front = some t →
            t.Signalled) := by
  intro fresh
  constructor
  · have same (s : ReceiverSystem α) (act : ReceiverAct α) (_ : True) :
        s.Atomic act ↔ s.Roomy act := atomic_iff_roomy s act
    exact Transition.along_congr same (fun _ _ _ _ _ _ => trivial) trivial acts
  · intro u ran
    have marked : fresh.Marked := nofun
    have signalled : fresh.Signalled := nofun
    apply Transition.along_iff_always (fun s act t => marked_step) _ marked signalled ran
    intro s act t marked signalled stepped
    exact signalled_step_iff marked signalled stepped

/-- One message in a receiver of size one: `close` raises, and the receiver counts as closed with
the message as the only item in its queue. -/
theorem close_on_full_queue :
    ∃ s : ReceiverSystem Nat,
      Transition.run step { world := { receiver := { syncQueue := { maxsize := 1 } } } } [.put 7] =
        some s ∧
      s.closed = false ∧
      (∃ w, s.world.close = (.error .queueFull, w) ∧ w.receiver.closed = true ∧
        w.receiver.syncQueue.items = [.message 7]) ∧
      ¬ s.Atomic .close := by
  refine ⟨_, rfl, rfl, ⟨_, rfl, rfl, rfl⟩, ?_⟩
  intro atomic
  have same := atomic.1 _ _ rfl
  exact absurd (congrArg (fun w => w.receiver.closed) same) (by decide)

end ReceiverSystem

end OpenSomeIp
