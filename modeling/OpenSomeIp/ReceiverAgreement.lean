import OpenSomeIp.ReceiverAsync

set_option autoImplicit false

namespace OpenSomeIp

namespace ReceiverSystem

variable {α : Type}

theorem running_step {s t : ReceiverSystem α} {a : ReceiverAct α} (unbounded : s.Unbounded)
    (running : s.running = true) (other : a ≠ .stopLoop) (success : s.step a = some t) :
    t.running = true := by
  cases moves_of_step unbounded success with
  | putOpen m open_ =>
      exact (ReceiverWorld.deliver_frame s.world false (.message m)).2.2.2.1.trans running
  | close => exact (ReceiverWorld.deliver_frame s.world true .sentinel).2.2.2.1.trans running
  | aiter inLoop inside =>
      have same := ReceiverWorld.ensureAsyncQueue_eq inLoop s.world
      exact (congrArg (fun w => w.eventLoop.running) same).trans running
  | anext task inside =>
      have same := ReceiverWorld.anext_eq task true s.world
      exact (congrArg (fun w => w.eventLoop.running) same).trans running
  | stopLoop => exact absurd rfl other
  | runLoop => rfl
  | _ => exact running

/-- A loop that nobody stops keeps running. -/
theorem sound_running_step (s : ReceiverSystem α) (a : ReceiverAct α) (t : ReceiverSystem α)
    (holds : s.Sound ∧ s.running = true) (other : a ≠ .stopLoop) (success : s.step a = some t) :
    t.Sound ∧ t.running = true :=
  ⟨sound_step s a t holds.1 success, running_step holds.1.unbounded holds.2 other success⟩

/-- On a loop that is never stopped no item can overtake another. -/
theorem inOrder_of_running (s : ReceiverSystem α) (a : ReceiverAct α)
    (holds : s.Sound ∧ s.running = true) (_ : a ≠ .stopLoop) : InOrder s a := by
  cases a with
  | put m => exact .inr (.inl holds.2)
  | close => exact .inl holds.2
  | _ => trivial

/-- Calls of `__next__` on a closed receiver come to the end of the stream and touch
nothing else. -/
theorem sync_ends (items : List (Item α)) : ∀ s : ReceiverSystem α, s.syncItems = items →
    s.closed = true → ∃ t, Transition.run step s (List.replicate (items.length + 1) .next) = some t ∧
      .sentinel ∈ t.returned ∧ t.obtained = s.obtained ∧
      t.world.receiver.asyncQueue = s.world.receiver.asyncQueue ∧
      t.world.eventLoop = s.world.eventLoop := by
  induction items with
  | nil =>
      intro s empty closed
      have stop := step_next_nil empty
      rw [closed, if_pos rfl] at stop
      refine ⟨_, Transition.run_cons_of_some stop [], ?_, rfl, rfl, rfl⟩
      exact List.mem_append_right s.returned List.mem_cons_self
  | cons item rest ih =>
      intro s head closed
      have taken := step_next_cons head
      obtain ⟨t, ran, ended, obtained, asyncQueue, eventLoop⟩ := ih { s with
        world := s.world.setReceiver { s.world.receiver with
          syncQueue := { s.world.receiver.syncQueue with items := rest } }
        returned := s.returned ++ [item] } rfl closed
      exact ⟨t, (Transition.run_cons_of_some taken _).trans ran, ended, obtained, asyncQueue,
        eventLoop⟩

/-- A call of `__anext__` on a queue with an item obtains it. -/
theorem async_takes {s : ReceiverSystem α} {aq : AsyncQueue (Item α)} {item : Item α}
    {rest : List (Item α)} (running : s.running = true)
    (created : s.world.receiver.asyncQueue = some aq) (head : aq.items = item :: rest) :
    ∃ t next, Transition.run step s [.anext 0, .resume 0] = some t ∧
      t.obtained = s.obtained ++ [item] ∧ t.returned = s.returned ∧ t.running = true ∧
      t.world.receiver.asyncQueue = some next ∧ next.items = rest ∧ t.ready = s.ready := by
  let waiting : AsyncQueue (Item α) := { items := aq.items, getters := aq.getters ++ [0] }
  let called : ReceiverSystem α := { s with world := s.world.setAsyncQueue waiting }
  have suspends : s.step (.anext 0) = some called := by
    simp only [step, running, ↓reduceIte, ReceiverWorld.anext, ReceiverWorld.ensureAsyncQueue,
      created, called, waiting]
  have present : called.world.receiver.asyncQueue = some waiting := rfl
  have resumes : called.step (.resume 0) = _ :=
    step_resume running present (List.mem_append_right _ List.mem_cons_self) head
  refine ⟨_, _, (Transition.run_cons_of_some suspends _).trans
    (Transition.run_cons_of_some resumes []), rfl, rfl, running, rfl, rfl, rfl⟩

/-- The running loop moves the oldest scheduled item into the queue. -/
theorem async_ticks {s : ReceiverSystem α} {aq : AsyncQueue (Item α)} {item : Item α}
    {rest : List (Item α)} (running : s.running = true)
    (created : s.world.receiver.asyncQueue = some aq) (scheduled : s.ready = item :: rest) :
    ∃ t next, s.step .tick = some t ∧ t.obtained = s.obtained ∧ t.returned = s.returned ∧
      t.running = true ∧ t.world.receiver.asyncQueue = some next ∧
      next.items = aq.items ++ [item] ∧ t.ready = rest :=
  ⟨_, aq.putNowait item, step_tick running created scheduled, rfl, rfl, running, rfl, rfl, rfl⟩

/-- While the loop runs, an async consumer comes to a sentinel that is queued or
scheduled. -/
theorem async_ends (size : Nat) : ∀ (s : ReceiverSystem α) (aq : AsyncQueue (Item α)),
    s.running = true → s.world.receiver.asyncQueue = some aq →
    .sentinel ∈ s.obtained ++ (aq.items ++ s.ready) →
    aq.items.length + 2 * s.ready.length = size →
    ∃ acts t, (∀ a ∈ acts, a.consumes = true) ∧ Transition.run step s acts = some t ∧
      .sentinel ∈ t.obtained ∧ t.returned = s.returned := by
  induction size using Nat.strongRecOn with
  | ind size ih =>
      intro s aq running created ahead measured
      cases head : aq.items with
      | cons item rest =>
          obtain ⟨middle, next, ran, obtained, returned, running, created, items, ready⟩ :=
            async_takes running created head
          obtain ⟨acts, t, consumes, ended, sentinel, same⟩ :=
            ih (next.items.length + 2 * middle.ready.length)
              (by rw [items, ready, ← measured, head, List.length_cons]; omega)
              middle next running created
              (by simpa only [obtained, items, ready, head, List.append_assoc, List.cons_append,
                List.nil_append] using ahead) rfl
          refine ⟨[.anext 0, .resume 0] ++ acts, t, ?_, ?_, sentinel, same.trans returned⟩
          · intro a member
            rcases List.mem_append.mp member with first | later
            · simp only [List.mem_cons, List.not_mem_nil, or_false] at first
              rcases first with rfl | rfl <;> rfl
            · exact consumes a later
          · rw [Transition.run_append, ran]
            exact ended
      | nil =>
          cases scheduled : s.ready with
          | nil =>
              rw [head, scheduled, List.append_nil, List.append_nil] at ahead
              exact ⟨[], s, fun a member => absurd member List.not_mem_nil, rfl, ahead, rfl⟩
          | cons item rest =>
              obtain ⟨middle, next, ticked, obtained, returned, running, created, items, ready⟩ :=
                async_ticks running created scheduled
              obtain ⟨acts, t, consumes, ended, sentinel, same⟩ :=
                ih (next.items.length + 2 * middle.ready.length)
                  (by rw [items, ready, ← measured, head, scheduled, List.length_cons]; simp; omega)
                  middle next running created
                  (by simpa only [obtained, items, ready, head, scheduled, List.nil_append,
                    List.cons_append] using ahead) rfl
              refine ⟨.tick :: acts, t, ?_, ?_, sentinel, same.trans returned⟩
              · intro a member
                rcases List.mem_cons.mp member with rfl | later
                · rfl
                · exact consumes a later
              · exact (Transition.run_cons_of_some ticked _).trans ended

/-- What the consumers of a receiver see when `early` was put before the async iteration
began and `later` after it, both before the first `close`. -/
structure Agrees (early later : List α) (s : ReceiverSystem α) : Prop where
  sync_order : beforeEnd s.returned <+: early ++ later
  sync_all : .sentinel ∈ s.returned → beforeEnd s.returned = early ++ later
  async_order : beforeEnd s.obtained <+: later
  async_all : .sentinel ∈ s.obtained → beforeEnd s.obtained = later
  equal_iff : .sentinel ∈ s.returned → .sentinel ∈ s.obtained →
    (beforeEnd s.obtained = beforeEnd s.returned ↔ early = [])

theorem agrees_of_accepted {s : ReceiverSystem α} (sound : s.Sound) {early later : List (Item α)}
    (split : beforeEnd s.accepted = beforeEnd early ++ beforeEnd later)
    (obtained : s.obtained <+: later) : Agrees (beforeEnd early) (beforeEnd later) s := by
  have seen := returned_seen sound
  have got := prefix_beforeEnd obtained
  rw [split] at seen
  refine ⟨seen.1, seen.2, got.1, got.2, fun ended stopped => ?_⟩
  rw [seen.2 ended, got.2 stopped]
  constructor
  · intro same
    exact List.self_eq_append_left.mp same
  · intro nothing
    rw [nothing, List.nil_append]

/-- On a loop that keeps running, both iteration interfaces yield the messages put before
the first `close` in put order, the async one those put since it was begun; a `close`
after the beginning lets both come to the end of the stream. -/
theorem iterations_agree {front back : List (ReceiverAct α)} {begin : ReceiverAct α}
    {s1 s : ReceiverSystem α} (before : Transition.run step {} front = some s1)
    (unasked : ∀ a ∈ front, a.asksAsync = false) (begins : Begins begin)
    (runs : .stopLoop ∉ back) (ran : Transition.run step s1 (begin :: back) = some s) :
    ∃ later, putBeforeClose (front ++ begin :: back) = putBeforeClose front ++ later ∧
      Agrees (putBeforeClose front) later s ∧
      (.close ∈ back → ∃ acts t, (∀ a ∈ acts, a.consumes = true) ∧
        Transition.run step s acts = some t ∧ .sentinel ∈ t.returned ∧ .sentinel ∈ t.obtained) := by
  obtain ⟨s2, begun, ran⟩ := Transition.run_cons_eq_some ran
  have sound1 := sound_run sound_init before
  have sound2 := sound_step s1 begin s2 sound1 begun
  obtain ⟨_, _, running⟩ := queued_begin sound1 (absent_run sound_init rfl unasked before) begins begun
  have others : ∀ a ∈ back, a ≠ .stopLoop := by
    rintro a member rfl
    exact runs member
  have ordered := Transition.along_of_invariant sound_running_step inOrder_of_running
    ⟨sound2, running⟩ others
  obtain ⟨sound, accepted, aq, created, lined⟩ :=
    queued_offered before unasked begins begun ordered ran
  have early : s1.accepted = offered false front := accepted_run sound_init before
  have whole : s.accepted = offered false (front ++ begin :: back) := by
    refine accepted_run sound_init ?_
    rw [Transition.run_append, before]
    exact (Transition.run_cons_of_some begun back).trans ran
  have split : beforeEnd s.accepted = beforeEnd s1.accepted ++ beforeEnd (offered s1.closed back) := by
    rw [accepted]
    cases open_ : s1.closed with
    | true =>
        rw [beforeEnd_append_of_mem (sound1.closed_iff.mp open_), beforeEnd_offered_closed,
          List.append_nil]
    | false =>
        refine beforeEnd_append_of_not_mem (fun stop => ?_) _
        exact Bool.false_ne_true (open_.symm.trans (sound1.closed_iff.mpr stop))
  have obtained : s.obtained <+: offered s1.closed back := ⟨_, lined⟩
  have agrees := agrees_of_accepted sound split obtained
  rw [whole, early, beforeEnd_offered, beforeEnd_offered] at split
  rw [early, beforeEnd_offered] at agrees
  refine ⟨_, split, agrees, fun closes => ?_⟩
  have turning := (Transition.invariant_among sound_running_step ⟨sound2, running⟩ others ran).2
  have stop : .sentinel ∈ offered s1.closed back := sentinel_mem_offered closes _
  have closed : s.closed = true := by
    rw [sound.closed_iff, accepted]
    exact List.mem_append_right _ stop
  obtain ⟨t, ended, returned, same, asyncQueue, eventLoop⟩ := sync_ends _ s rfl closed
  obtain ⟨acts, u, consumes, drained, finished, kept⟩ := async_ends _ t aq
    ((congrArg EventLoop.running eventLoop).trans turning) (asyncQueue.trans created)
    (by
      have ready : t.ready = s.ready := congrArg EventLoop.ready eventLoop
      rw [same, ready, lined]
      exact stop) rfl
  refine ⟨List.replicate (s.syncItems.length + 1) .next ++ acts, u, ?_, ?_, ?_, finished⟩
  · intro a member
    rcases List.mem_append.mp member with next | other
    · rw [(List.mem_replicate.mp next).2]
      rfl
    · exact consumes a other
  · rw [Transition.run_append, ended]
    exact drained
  · rw [kept]
    exact returned

/-- Message 7 is put before the async iteration begins, message 8 after it. -/
def lateBeginning : List (ReceiverAct Nat) := [.put 8, .close, .tick, .tick]

theorem iterations_agree_late :
    ∃ later, putBeforeClose ([.put 7, .runLoop] ++ .aiter true :: lateBeginning) =
        putBeforeClose [.put 7, .runLoop] ++ later ∧
      Agrees (putBeforeClose [.put 7, .runLoop]) later
        (reached ([.put 7, .runLoop] ++ .aiter true :: lateBeginning)) ∧
      (.close ∈ lateBeginning → ∃ acts t, (∀ a ∈ acts, a.consumes = true) ∧
        Transition.run step (reached ([.put 7, .runLoop] ++ .aiter true :: lateBeginning)) acts =
          some t ∧ .sentinel ∈ t.returned ∧ .sentinel ∈ t.obtained) :=
  @iterations_agree Nat [.put 7, .runLoop] lateBeginning (.aiter true)
    (reached [.put 7, .runLoop]) _ rfl (by decide) (.inl rfl) (by decide) rfl

/-- The sync consumer obtains 7 and 8, the async consumer 8 alone. -/
theorem late_beginning_misses :
    ∃ s, Transition.run step {} ([.put 7, .runLoop] ++ .aiter true :: lateBeginning ++
        [.next, .next, .next, .anext 0, .resume 0, .anext 0, .resume 0]) = some s ∧
      s.returned = [.message 7, .message 8, .sentinel] ∧
      s.obtained = [.message 8, .sentinel] ∧ beforeEnd s.obtained ≠ beforeEnd s.returned := by
  refine ⟨_, rfl, ?_, ?_, ?_⟩ <;> decide

end ReceiverSystem

end OpenSomeIp
