import OpenSomeIp.ReceiverDelivery

set_option autoImplicit false

namespace OpenSomeIp

namespace ReceiverSystem

variable {α : Type}

/-- Every pending `__anext__` has an item of its own, queued or scheduled. -/
def Unblocked (s : ReceiverSystem α) : Prop :=
  s.closed = true → s.world.getters.length ≤ s.world.pending.length

/-- One `close` releases one pending call more than there are items on the way, and a
call that comes after it needs an item that no pending call waits for. -/
def Served (s : ReceiverSystem α) : ReceiverAct α → Prop
  | .close => s.closed = true ∨ s.world.getters.length ≤ s.world.pending.length + 1
  | .anext _ => s.closed = false ∨ s.world.getters.length < s.world.pending.length
  | _ => True

instance decidableServed (s : ReceiverSystem α) : ∀ a, Decidable (Served s a)
  | .close => inferInstanceAs (Decidable (_ ∨ _))
  | .anext _ => inferInstanceAs (Decidable (_ ∨ _))
  | .put _ | .next | .aiter _ | .resume _ | .tick | .stopLoop | .runLoop =>
      inferInstanceAs (Decidable True)

/-- How the consumers of a closed receiver fare after the run `front`: a turn of
`__next__` ends the call, each pending `__anext__` has an item of its own, and whatever
either can still get was put before the first `close`. -/
structure Released (front : List (ReceiverAct α)) (s : ReceiverSystem α) : Prop where
  next_ends : s.world.nextTurn.1 = .error .stopIteration ∨
    ∃ m ∈ putBeforeClose front, s.world.nextTurn.1 = .ok (some m)
  anext_ends : s.world.getters.length ≤ s.world.pending.length
  put_before : ∀ m, .message m ∈ s.world.pending → m ∈ putBeforeClose front

theorem pending_deliver_length {w : ReceiverWorld α} {aq : AsyncQueue (Item α)}
    (created : w.receiver.asyncQueue = some aq) (closed : Bool) (item : Item α) :
    (w.deliver closed item).pending.length = w.pending.length + 1 := by
  obtain ⟨next, present, queues⟩ := ReceiverWorld.deliver_queues created closed item
  simp only [ReceiverWorld.pending, ReceiverWorld.asyncItems, present, created, Option.getD_some,
    List.length_append]
  rcases queues with ⟨items, _, ready⟩ | ⟨items, _, ready⟩
  · rw [items, ready, List.length_append, List.length_singleton, Nat.add_assoc]
  · rw [items, ready, List.length_append, List.length_singleton, Nat.add_right_comm]

/-- Closing leaves nobody blocked exactly when at most one pending call more than there
are items on the way. -/
theorem unblocked_close {s : ReceiverSystem α} (unblocked : Unblocked s) :
    Unblocked (s.offer true .sentinel) ↔ Served s .close := by
  obtain ⟨_, closed, _, _, getters⟩ := ReceiverWorld.deliver_frame s.world true .sentinel
  have after : Unblocked (s.offer true .sentinel) ↔
      s.world.getters.length ≤ (s.world.deliver true .sentinel).pending.length := by
    show ((s.world.deliver true .sentinel).receiver.closed = true →
      (s.world.deliver true .sentinel).getters.length ≤ _) ↔ _
    rw [closed, getters]
    exact ⟨fun holds => holds rfl, fun holds _ => holds⟩
  rw [after]
  cases created : s.world.receiver.asyncQueue with
  | none =>
      have nobody : s.world.getters = [] := by
        rw [ReceiverWorld.getters, created]
        rfl
      simp only [Served, nobody, List.length_nil, Nat.zero_le, or_true]
  | some aq =>
      rw [pending_deliver_length created]
      constructor
      · exact .inr
      · rintro (open_ | enough)
        · exact Nat.le_succ_of_le (unblocked open_)
        · exact enough

/-- An action leaves nobody blocked exactly when it is served. -/
theorem unblocked_step (s : ReceiverSystem α) (a : ReceiverAct α) (t : ReceiverSystem α)
    (sound : s.Sound) (unblocked : Unblocked s) (success : s.step a = some t) :
    Unblocked t ↔ Served s a := by
  cases moves_of_step sound.unbounded success with
  | putClosed m closed => exact iff_of_true unblocked trivial
  | putOpen m open_ =>
      have closed := (ReceiverWorld.deliver_frame s.world false (.message m)).2.1
      refine iff_of_true (fun stopped => ?_) trivial
      exact absurd (closed.symm.trans stopped) Bool.false_ne_true
  | close => exact unblocked_close unblocked
  | nextItem item rest head => exact iff_of_true unblocked trivial
  | nextIdle empty open_ => exact iff_of_true unblocked trivial
  | nextStop empty closed => exact iff_of_true unblocked trivial
  | aiter inLoop inside =>
      refine iff_of_true ?_ trivial
      rw [Unblocked, ensured, ReceiverWorld.ensureAsyncQueue_eq]
      exact unblocked
  | anext task inside =>
      rw [Unblocked, ReceiverWorld.anext_eq]
      show (s.closed = true → (s.world.getters ++ [task]).length ≤ s.world.pending.length) ↔
        s.closed = false ∨ s.world.getters.length < s.world.pending.length
      rw [List.length_append, List.length_singleton]
      by_cases closed : s.closed = true
      · simp only [closed, forall_const, Bool.true_eq_false, false_or]
        omega
      · have open_ : s.closed = false := Bool.eq_false_iff.mpr closed
        exact iff_of_true (fun shut => absurd shut closed) (.inl open_)
  | resume task aq item rest inside created waits head =>
      refine iff_of_true (fun closed => ?_) trivial
      have before := unblocked closed
      simp only [ReceiverWorld.getters, ReceiverWorld.pending, ReceiverWorld.asyncItems, created,
        Option.getD_some, head, List.cons_append, List.length_cons] at before
      show (aq.getters.erase task).length ≤ (rest ++ s.world.eventLoop.ready).length
      rw [List.length_erase_of_mem waits]
      omega
  | tick aq item rest inside created head =>
      refine iff_of_true (fun closed => ?_) trivial
      unfold ready at head
      have before := unblocked closed
      simp only [ReceiverWorld.getters, ReceiverWorld.pending, ReceiverWorld.asyncItems, created,
        Option.getD_some, head, List.length_append, List.length_cons] at before
      show aq.getters.length ≤ ((aq.items ++ [item]) ++ rest).length
      simp only [List.length_append, List.length_singleton]
      omega
  | stopLoop => exact iff_of_true unblocked trivial
  | runLoop => exact iff_of_true unblocked trivial

theorem mem_beforeEnd {items : List (Item α)} (ended : Ended items) {m : α}
    (member : .message m ∈ items) : m ∈ beforeEnd items := by
  induction items with
  | nil => exact absurd member List.not_mem_nil
  | cons x items ih =>
      obtain ⟨last, rest⟩ := List.pairwise_cons.mp ended
      cases x with
      | sentinel =>
          rcases List.mem_cons.mp member with same | later
          · cases same
          · exact absurd (last _ later rfl) nofun
      | message head =>
          rcases List.mem_cons.mp member with same | later
          · obtain rfl := Item.message.inj same
            exact List.mem_cons_self
          · exact List.mem_cons_of_mem _ (ih rest later)

/-- What a closed receiver still holds, for either kind of consumer, was put in time. -/
theorem released_of_unblocked {front : List (ReceiverAct α)} {s : ReceiverSystem α}
    (ran : Transition.run step {} front = some s) (closed : s.closed = true)
    (unblocked : Unblocked s) : Released front s := by
  have sound := sound_run sound_init ran
  have accepted : s.accepted = offered false front := accepted_run sound_init ran
  have in_time : ∀ m, .message m ∈ s.accepted → m ∈ putBeforeClose front := by
    intro m member
    rw [← beforeEnd_offered, ← accepted]
    exact mem_beforeEnd sound.ended member
  refine ⟨?_, unblocked closed, fun m member => ?_⟩
  · unfold ReceiverSystem.closed at closed
    cases queue : s.world.receiver.syncQueue.items with
    | nil =>
        refine .inl ?_
        simp only [ReceiverWorld.nextTurn, Method.bind_apply, Method.get_apply, queue, closed,
          ↓reduceIte, Method.raise_apply]
    | cons item rest =>
        cases item with
        | sentinel =>
            refine .inl ?_
            simp only [ReceiverWorld.nextTurn, Method.bind_apply, Method.get_apply, queue,
              Method.modify_apply, Method.raise_apply]
        | message m =>
            refine .inr ⟨m, in_time m ?_, ?_⟩
            · obtain ⟨dequeued, stops, _, queued, _⟩ := sound.sync
              rw [syncItems, queue] at queued
              rw [← queued]
              exact List.mem_append_right _ List.mem_cons_self
            · simp only [ReceiverWorld.nextTurn, Method.bind_apply, Method.get_apply, queue,
                Method.modify_apply, Method.pure_apply]
  · exact in_time m (sound.delivered _ (List.mem_append_right _ member))

/-- After `close` no consumer can block for ever, in any state of a run, exactly when
each first `close` and each later `__anext__` of the run is served. -/
theorem close_releases_iff {acts : List (ReceiverAct α)} {u : ReceiverSystem α}
    (ran : Transition.run step {} acts = some u) :
    (∀ front, front <+: acts → ∀ s, Transition.run step {} front = some s → s.closed = true →
      Released front s) ↔ Transition.Along step Served {} acts := by
  have start : Unblocked ({} : ReceiverSystem α) := fun closed => absurd closed Bool.false_ne_true
  have always := Transition.along_iff_always sound_step unblocked_step sound_init start ran
  rw [always]
  constructor
  · intro released front inside s reached closed
    exact (released front inside s reached closed).anext_ends
  · intro unblocked front inside s reached closed
    exact released_of_unblocked reached closed (unblocked front inside s reached)

theorem close_releases_one_waiting :
    (∀ front, front <+: ([.runLoop, .anext 0, .put 7, .close, .tick, .resume 0, .tick, .anext 1,
        .resume 1] : List (ReceiverAct Nat)) → ∀ s, Transition.run step {} front = some s →
        s.closed = true → Released front s) ↔
      Transition.Along step Served {} ([.runLoop, .anext 0, .put 7, .close, .tick, .resume 0, .tick,
        .anext 1, .resume 1] : List (ReceiverAct Nat)) :=
  close_releases_iff rfl

/-- A consumer that calls `__anext__` again after the end of the stream. -/
def secondCall : List (ReceiverAct Nat) :=
  [.runLoop, .aiter true, .close, .tick, .anext 0, .resume 0, .anext 0]

/-- It waits on an empty queue, with nothing on the way. -/
theorem second_call_blocks :
    ∃ s, Transition.run step {} secondCall = some s ∧ s.closed = true ∧
      s.obtained = [.sentinel] ∧ s.world.getters = [0] ∧ s.world.pending = [] ∧
      ¬ Released secondCall s := by
  refine ⟨_, rfl, rfl, rfl, rfl, rfl, ?_⟩
  intro released
  have served := released.anext_ends
  contradiction

end ReceiverSystem

end OpenSomeIp
