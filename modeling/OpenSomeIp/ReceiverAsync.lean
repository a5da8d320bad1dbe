import OpenSomeIp.ReceiverDelivery

set_option autoImplicit false

namespace OpenSomeIp

namespace ReceiverSystem

variable {α : Type}

/-- The async queue was created on an event loop when `base` had been accepted, and
everything accepted since is obtained, queued or scheduled, in this order. -/
def Queued (base : List (Item α)) (s : ReceiverSystem α) : Prop :=
  ∃ aq, s.world.receiver.asyncQueue = some aq ∧ s.world.receiver.loop = true ∧
    s.accepted = base ++ (s.obtained ++ (aq.items ++ s.ready))

/-- The item of a `put` or `close` call cannot overtake a scheduled one. -/
def InOrder (s : ReceiverSystem α) : ReceiverAct α → Prop
  | .put _ => s.closed = true ∨ s.running = true ∨ s.ready = []
  | .close => s.running = true ∨ s.ready = []
  | _ => True

instance decidableInOrder [DecidableEq α] (s : ReceiverSystem α) :
    ∀ a, Decidable (InOrder s a)
  | .put _ => inferInstanceAs (Decidable (s.closed = true ∨ s.running = true ∨ s.ready = []))
  | .close => inferInstanceAs (Decidable (s.running = true ∨ s.ready = []))
  | .next | .aiter _ | .anext _ | .resume _ | .tick | .stopLoop | .runLoop =>
      inferInstanceAs (Decidable True)

theorem queued_offer {base : List (Item α)} {s : ReceiverSystem α} (queued : Queued base s)
    (ordered : s.running = true ∨ s.ready = []) (closed : Bool) (item : Item α) :
    Queued base (s.offer closed item) := by
  obtain ⟨aq, created, loop, accepted⟩ := queued
  obtain ⟨next, present, queues⟩ := ReceiverWorld.deliver_queues created closed item
  obtain ⟨_, _, sameLoop, _, _⟩ := ReceiverWorld.deliver_frame s.world closed item
  refine ⟨next, present, sameLoop.trans loop, ?_⟩
  show s.accepted ++ [item] =
    base ++ (s.obtained ++ (next.items ++ (s.world.deliver closed item).eventLoop.ready))
  rcases queues with ⟨items, _, ready⟩ | ⟨items, still, ready⟩
  · rw [items, ready, accepted]
    simp only [List.append_assoc]
    rfl
  · have off : s.running = false := by
      rw [loop, Bool.true_and] at still
      exact still
    have none_scheduled : s.world.eventLoop.ready = [] := by
      rcases ordered with on | empty
      · exact absurd (off.symm.trans on) Bool.false_ne_true
      · exact empty
    rw [items, ready, none_scheduled, accepted, ReceiverSystem.ready, none_scheduled]
    simp only [List.append_assoc, List.append_nil]

/-- Every action that keeps the order keeps the items lined up. -/
theorem queued_step {base : List (Item α)} (s : ReceiverSystem α) (a : ReceiverAct α)
    (t : ReceiverSystem α) (holds : s.Sound ∧ Queued base s) (ordered : InOrder s a)
    (success : s.step a = some t) : t.Sound ∧ Queued base t := by
  obtain ⟨sound, queued⟩ := holds
  refine ⟨sound_step s a t sound success, ?_⟩
  cases moves_of_step sound.unbounded success with
  | putClosed m closed => exact queued
  | putOpen m open_ =>
      refine queued_offer queued ?_ false (.message m)
      rcases ordered with closed | ordered
      · exact absurd (open_.symm.trans closed) Bool.false_ne_true
      · exact ordered
  | close => exact queued_offer queued ordered true .sentinel
  | nextItem item rest head => exact queued
  | nextIdle empty open_ => exact queued
  | nextStop empty closed => exact queued
  | aiter inLoop inside =>
      obtain ⟨aq, created, loop, accepted⟩ := queued
      have same : s.world.ensureAsyncQueue inLoop = s.world := by
        simp only [ReceiverWorld.ensureAsyncQueue, created]
      rw [ensured, same]
      exact ⟨aq, created, loop, accepted⟩
  | anext task inside =>
      obtain ⟨aq, created, loop, accepted⟩ := queued
      rw [ReceiverWorld.anext_eq, created]
      refine ⟨_, rfl, loop, ?_⟩
      rw [ReceiverWorld.asyncItems, created]
      exact accepted
  | resume task aq item rest inside created waits head =>
      obtain ⟨queue, present, loop, accepted⟩ := queued
      obtain rfl : queue = aq := Option.some.inj (present.symm.trans created)
      refine ⟨_, rfl, loop, ?_⟩
      show s.accepted = base ++ ((s.obtained ++ [item]) ++ (rest ++ s.ready))
      rw [accepted, head]
      simp only [List.append_assoc, List.cons_append, List.nil_append]
  | tick aq item rest inside created head =>
      obtain ⟨queue, present, loop, accepted⟩ := queued
      obtain rfl : queue = aq := Option.some.inj (present.symm.trans created)
      refine ⟨_, rfl, loop, ?_⟩
      show s.accepted = base ++ (s.obtained ++ ((queue.items ++ [item]) ++ rest))
      rw [accepted, head]
      simp only [List.append_assoc, List.cons_append, List.nil_append]
  | stopLoop => exact queued
  | runLoop => exact queued

theorem queued_run {base : List (Item α)} {acts : List (ReceiverAct α)} {s t : ReceiverSystem α}
    (sound : s.Sound) (queued : Queued base s) (ordered : Transition.Along step InOrder s acts)
    (ran : Transition.run step s acts = some t) : t.Sound ∧ Queued base t :=
  Transition.invariant_along queued_step ordered ⟨sound, queued⟩ ran

/-- The first access to the async side, from inside the running loop. -/
def Begins (begin : ReceiverAct α) : Prop :=
  begin = .aiter true ∨ ∃ task, begin = .anext task

/-- No async queue exists until somebody asks for one. -/
theorem absent_run {acts : List (ReceiverAct α)} {s t : ReceiverSystem α} (sound : s.Sound)
    (absent : s.world.receiver.asyncQueue = none) (unasked : ∀ a ∈ acts, a.asksAsync = false)
    (ran : Transition.run step s acts = some t) : t.world.receiver.asyncQueue = none := by
  induction acts generalizing s with
  | nil =>
      obtain rfl := Option.some.inj ran
      exact absent
  | cons a acts ih =>
      obtain ⟨middle, first, rest⟩ := Transition.run_cons_eq_some ran
      refine ih (sound_step s a middle sound first) ?_
        (fun b member => unasked b (List.mem_cons_of_mem a member)) rest
      have quiet := unasked a List.mem_cons_self
      cases moves_of_step sound.unbounded first with
      | putOpen m open_ => exact (ReceiverWorld.deliver_absent_queues absent _ _).1
      | close => exact (ReceiverWorld.deliver_absent_queues absent _ _).1
      | aiter inLoop inside => cases quiet
      | anext task inside => cases quiet
      | resume task aq item rest inside created waits head =>
          exact absurd (created.symm.trans absent) (Option.some_ne_none aq)
      | tick aq item rest inside created head =>
          exact absurd (created.symm.trans absent) (Option.some_ne_none aq)
      | _ => exact absent

/-- Beginning on the loop creates an empty queue: what was accepted before stays out of it. -/
theorem queued_begin {begin : ReceiverAct α} {s t : ReceiverSystem α} (sound : s.Sound)
    (absent : s.world.receiver.asyncQueue = none) (begins : Begins begin)
    (success : s.step begin = some t) :
    Queued s.accepted t ∧ t.closed = s.closed ∧ t.running = true := by
  obtain ⟨ready, obtained⟩ := sound.idle absent
  cases moves_of_step sound.unbounded success with
  | aiter inLoop inside =>
      obtain rfl : inLoop = true := by
        rcases begins with same | ⟨task, same⟩
        · exact ReceiverAct.aiter.inj same
        · cases same
      have same : s.world.ensureAsyncQueue true = _ := ReceiverWorld.ensureAsyncQueue_eq true s.world
      rw [absent] at same
      refine ⟨⟨{}, ?_, ?_, ?_⟩, ?_, ?_⟩
      · exact congrArg (fun w => w.receiver.asyncQueue) same
      · exact congrArg (fun w => w.receiver.loop) same
      · show s.accepted = s.accepted ++
          (s.obtained ++ ([] ++ (s.world.ensureAsyncQueue true).eventLoop.ready))
        rw [same, obtained]
        change s.accepted = s.accepted ++ s.ready
        rw [ready, List.append_nil]
      · exact congrArg (fun w => w.receiver.closed) same
      · exact (congrArg (fun w => w.eventLoop.running) same).trans (inside rfl)
  | anext task inside =>
      have same : s.world.anext task true = _ := ReceiverWorld.anext_eq task true s.world
      rw [ReceiverWorld.asyncItems, absent] at same
      refine ⟨⟨_, congrArg (fun w => w.receiver.asyncQueue) same, ?_, ?_⟩, ?_, ?_⟩
      · exact congrArg (fun w => w.receiver.loop) same
      · show s.accepted = s.accepted ++
          (s.obtained ++ ([] ++ (s.world.anext task true).eventLoop.ready))
        rw [same, obtained]
        change s.accepted = s.accepted ++ s.ready
        rw [ready, List.append_nil]
      · exact congrArg (fun w => w.receiver.closed) same
      · exact (congrArg (fun w => w.eventLoop.running) same).trans inside
  | _ => rcases begins with same | ⟨_, same⟩ <;> cases same

/-- What the async side was given is what was offered since its queue was created. -/
theorem queued_offered {front back : List (ReceiverAct α)} {begin : ReceiverAct α}
    {s1 s2 s : ReceiverSystem α} (before : Transition.run step {} front = some s1)
    (unasked : ∀ a ∈ front, a.asksAsync = false) (begins : Begins begin)
    (begun : s1.step begin = some s2) (ordered : Transition.Along step InOrder s2 back)
    (ran : Transition.run step s2 back = some s) :
    s.Sound ∧ s.accepted = s1.accepted ++ offered s1.closed back ∧
      ∃ aq, s.world.receiver.asyncQueue = some aq ∧
        s.obtained ++ (aq.items ++ s.ready) = offered s1.closed back := by
  have sound1 := sound_run sound_init before
  have absent := absent_run sound_init rfl unasked before
  have sound2 := sound_step s1 begin s2 sound1 begun
  obtain ⟨queued, closed, _⟩ := queued_begin sound1 absent begins begun
  obtain ⟨sound, aq, created, loop, accepted⟩ := queued_run sound2 queued ordered ran
  have all := accepted_run sound2 ran
  obtain ⟨none_offered, _⟩ := accepted_step sound1.unbounded begun
  have quiet : offered s1.closed [begin] = [] := by
    rcases begins with rfl | ⟨task, rfl⟩ <;> cases s1.closed <;> rfl
  rw [none_offered, quiet, List.append_nil, closed] at all
  exact ⟨sound, all, aq, created, List.append_cancel_left (accepted.symm.trans all)⟩

/-- As long as no `put` or `close` meets a stopped loop with calls still scheduled, the
items enter the async queue and reach its consumers in the order they were put. -/
theorem async_keeps_put_order {front back : List (ReceiverAct α)} {begin : ReceiverAct α}
    {s1 s2 s : ReceiverSystem α} (before : Transition.run step {} front = some s1)
    (unasked : ∀ a ∈ front, a.asksAsync = false) (begins : Begins begin)
    (begun : s1.step begin = some s2) (ordered : Transition.Along step InOrder s2 back)
    (ran : Transition.run step s2 back = some s) :
    s.obtained ++ s.world.asyncItems <+: offered s1.closed back ∧
      (.sentinel ∈ s.obtained → beforeEnd s.obtained = beforeEnd (offered s1.closed back)) := by
  obtain ⟨_, _, aq, created, lined⟩ := queued_offered before unasked begins begun ordered ran
  have entered : s.obtained ++ s.world.asyncItems <+: offered s1.closed back := by
    rw [ReceiverWorld.asyncItems, created, Option.getD_some, ← lined, ← List.append_assoc]
    exact List.prefix_append _ _
  refine ⟨entered, ?_⟩
  exact (prefix_beforeEnd ((List.prefix_append _ _).trans entered)).2

/-- The state in which a run of a new receiver ends. -/
def reached (acts : List (ReceiverAct Nat)) : ReceiverSystem Nat :=
  (Transition.run step {} acts).getD {}

theorem async_keeps_put_order_restarted :
    (reached [.runLoop, .aiter true, .put 1, .tick, .stopLoop, .put 2, .close, .runLoop, .anext 0,
        .resume 0]).obtained ++
      (reached [.runLoop, .aiter true, .put 1, .tick, .stopLoop, .put 2, .close, .runLoop, .anext 0,
        .resume 0]).world.asyncItems <+: [.message 1, .message 2, .sentinel] :=
  (@async_keeps_put_order Nat [.runLoop]
    [.put 1, .tick, .stopLoop, .put 2, .close, .runLoop, .anext 0, .resume 0] (.aiter true)
    (reached [.runLoop]) (reached [.runLoop, .aiter true]) _ rfl (by decide) (.inl rfl) rfl
    (by decide) rfl).1

/-- Two puts and a `close`, the second put and the `close` while the loop is stopped. -/
def overtaken : List (ReceiverAct Nat) :=
  [.put 1, .stopLoop, .put 2, .close, .runLoop, .tick, .anext 0, .resume 0, .anext 1, .resume 1]

/-- The message put first stays behind the second and behind end-of-stream. -/
theorem stopped_loop_overtakes :
    ∃ s, Transition.run step {} (.runLoop :: .aiter true :: overtaken) = some s ∧
      s.obtained = [.message 2, .sentinel] ∧ s.world.asyncItems = [.message 1] ∧
      ¬ s.obtained ++ s.world.asyncItems <+: offered false overtaken := by
  refine ⟨_, rfl, ?_, ?_, ?_⟩
  · decide
  · decide
  · decide

end ReceiverSystem

end OpenSomeIp
