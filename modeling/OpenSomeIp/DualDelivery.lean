import OpenSomeIp.DualInterleaving

set_option autoImplicit false

namespace OpenSomeIp

open Lanes

namespace SyncSystem

variable {α : Type}

/-- What is coherent about the sync side does not read the async one. -/
theorem coherent_of_receiver {s : SyncSystem α} (coherent : s.Coherent) {r : MessageReceiver α}
    (queue : r.syncQueue = s.receiver.syncQueue) (flag : r.closed = s.receiver.closed) :
    Coherent { s with receiver := r } where
  queue := by
    rw [queue]
    exact coherent.queue
  flag := by
    rw [flag]
    exact coherent.flag
  closing := coherent.closing
  timedOut := coherent.timedOut
  history := coherent.history

end SyncSystem

namespace DualSystem

variable {α : Type}

/-- Every item that has entered the sync queue by a thread went past the async side, or was
passed on to it, or is still carried to it, in this order. -/
def Accounted (s : DualSystem α) : Prop :=
  ∀ thread, lane thread s.entered =
    lane thread s.missed ++ lane thread s.passed ++ (s.pc thread).carried

/-- What was passed on is with the consumers, on its way to them, or lost with the loop. -/
def Conserved (s : DualSystem α) : Prop :=
  (s.passed.map Prod.snd).Perm (s.obtained ++ s.pending ++ s.lost)

/-- Without an async queue nothing is on its way to one. -/
def Unborn (s : DualSystem α) : Prop :=
  s.asyncQueue = none → s.passed = [] ∧ s.eventLoop.ready = [] ∧
    ∀ thread, (s.pc thread).found = false

/-- What holds between the steps of any number of threads and of the loop. -/
structure Sound (s : DualSystem α) : Prop where
  coherent : s.sync.Coherent
  enters : s.entered.map Prod.snd = enqueuedItems s.sync.log
  accounted : s.Accounted
  conserved : s.Conserved
  unborn : s.Unborn
  loses : s.loopClosed = false → s.lost = []

theorem accounted_goto {s : DualSystem α} (accounted : s.Accounted) {thread : Nat}
    {pc : AsyncPc α} (same : pc.carried = (s.pc thread).carried) :
    (s.goto thread pc).Accounted := by
  intro other
  by_cases own : other = thread
  · subst own
    rw [goto_self, same]
    exact accounted other
  · rw [goto_of_ne own]
    exact accounted other

theorem accounted_enters {s : DualSystem α} (accounted : s.Accounted) {thread : Nat}
    (stands : s.pc thread = .out) (item : Item α) (v : SyncSystem α) :
    Accounted { s.goto thread (.locking item) with
      sync := v
      entered := s.entered ++ [(thread, item)] } := by
  intro other
  have before := accounted other
  by_cases own : other = thread
  · subst own
    rw [stands, AsyncPc.carried, List.append_nil] at before
    simp only [lane_append, lane_own, goto_self, AsyncPc.carried, before]
    rfl
  · have ne : thread ≠ other := fun same => own same.symm
    simp only [lane_append, lane_other ne, goto_of_ne own, List.append_nil, before]
    rfl

theorem accounted_misses {s : DualSystem α} (accounted : s.Accounted) {thread : Nat}
    {item : Item α} (stands : s.pc thread = .locking item) (none_ : s.passed = []) :
    Accounted { s.goto thread .out with missed := s.missed ++ [(thread, item)] } := by
  intro other
  have before := accounted other
  rw [none_, lane_nil, List.append_nil] at before
  have still : (s.goto thread .out).passed = [] := none_
  by_cases own : other = thread
  · subst own
    rw [stands, AsyncPc.carried] at before
    simp only [lane_append, lane_own, goto_self, AsyncPc.carried, still, lane_nil, List.append_nil]
    exact before
  · have ne : thread ≠ other := fun same => own same.symm
    simp only [lane_append, lane_other ne, goto_of_ne own, List.append_nil, still, lane_nil]
    exact before

/-- A thread that passes its item on is outside then. -/
theorem accounted_passes {s t : DualSystem α} (accounted : s.Accounted) {thread : Nat}
    {item : Item α} (carries : (s.pc thread).carried = [item])
    (pc : t.pc = (s.goto thread .out).pc) (entered : t.entered = s.entered)
    (missed : t.missed = s.missed) (passed : t.passed = s.passed ++ [(thread, item)]) :
    t.Accounted := by
  intro other
  have before := accounted other
  rw [pc, entered, missed, passed, lane_append]
  by_cases own : other = thread
  · subst own
    rw [carries] at before
    rw [lane_own, goto_self, AsyncPc.carried, List.append_nil, before, List.append_assoc]
  · have ne : thread ≠ other := fun same => own same.symm
    rw [lane_other ne, goto_of_ne own, List.append_nil]
    exact before

theorem pending_of_created {s : DualSystem α} {aq : AsyncQueue (Item α)}
    (created : s.asyncQueue = some aq) : s.pending = aq.items ++ s.eventLoop.ready := by
  have items : s.world.asyncItems = aq.items := by
    rw [ReceiverWorld.asyncItems]
    exact congrArg (fun q => (q.getD {}).items) created
  rw [pending, ReceiverWorld.pending, items]
  rfl

theorem conserved_passes {s t : DualSystem α} (conserved : s.Conserved) {thread : Nat}
    {item : Item α} (passed : t.passed = s.passed ++ [(thread, item)])
    (more : (t.obtained ++ t.pending ++ t.lost).Perm
      (s.obtained ++ s.pending ++ s.lost ++ [item])) : t.Conserved := by
  rw [Conserved, passed, List.map_append]
  exact (conserved.append_right [item]).trans more.symm

theorem conserved_moves {s t : DualSystem α} (conserved : s.Conserved)
    (passed : t.passed = s.passed)
    (same : (t.obtained ++ t.pending ++ t.lost).Perm (s.obtained ++ s.pending ++ s.lost)) :
    t.Conserved := by
  rw [Conserved, passed]
  exact conserved.trans same.symm

/-- Whether it goes last or before the scheduled ones, one item more is on its way. -/
theorem perm_insert (front mid back lost : List (Item α)) (item : Item α) :
    (front ++ (mid ++ [item] ++ back) ++ lost).Perm (front ++ (mid ++ back) ++ lost ++ [item]) := by
  classical
  rw [List.perm_iff_count]
  intro x
  simp only [List.count_append]
  omega

theorem pending_of_sync {s t : DualSystem α} (sync : t.asyncQueue = s.asyncQueue)
    (eventLoop : t.eventLoop = s.eventLoop) : t.pending = s.pending := by
  have items : t.world.asyncItems = s.world.asyncItems :=
    congrArg (fun q => (q.getD {}).items) sync
  rw [pending, ReceiverWorld.pending, items]
  exact congrArg (fun loop => s.world.asyncItems ++ loop.ready) eventLoop

theorem conserved_step {s t : DualSystem α} {a : DualAct α} (conserved : s.Conserved)
    (moves : Moves s a t) : t.Conserved := by
  cases moves with
  | aside a v stands stepped adds =>
      have same : pending { s with sync := v } = s.pending :=
        pending_of_sync (SyncSystem.async_of_step stepped).1 rfl
      refine conserved_moves conserved (by rfl) ?_
      rw [same]
  | enters thread item v stands stepped adds =>
      have same : pending { s.goto thread (.locking item) with
          sync := v
          entered := s.entered ++ [(thread, item)] } = s.pending :=
        pending_of_sync (SyncSystem.async_of_step stepped).1 rfl
      refine conserved_moves conserved (by rfl) ?_
      rw [same]
      exact .rfl
  | schedules thread item stands open_ =>
      refine conserved_passes conserved (by rfl) ?_
      have more := perm_insert s.obtained s.pending [] s.lost item
      rw [List.append_nil, List.append_nil] at more
      have queued : (s.setWorld (s.world.callSoonThreadsafe item)).pending =
          s.pending ++ [item] := by
        rw [pending, pending, ReceiverWorld.pending, ReceiverWorld.pending, List.append_assoc]
        rfl
      rw [← queued] at more
      exact more
  | refused thread item stands closed =>
      refine conserved_passes conserved (by rfl) ?_
      rw [← List.append_assoc]
      exact .rfl
  | inserts thread item aq stands created =>
      refine conserved_passes conserved (by rfl) ?_
      rw [pending_of_created created]
      exact perm_insert s.obtained aq.items s.eventLoop.ready s.lost item
  | ensures inLoop inside =>
      refine conserved_moves conserved (by rfl) ?_
      rw [ReceiverWorld.ensureAsyncQueue_eq]
      exact .rfl
  | waits task inside =>
      refine conserved_moves conserved (by rfl) ?_
      rw [ReceiverWorld.anext_eq]
      exact .rfl
  | resumes task aq item rest created head =>
      refine conserved_moves conserved (by rfl) ?_
      rw [pending_of_created created, head]
      change (s.obtained ++ [item] ++ (rest ++ s.eventLoop.ready) ++ s.lost).Perm _
      simp only [List.append_assoc, List.cons_append, List.nil_append]
      exact .rfl
  | ticks aq item rest created head =>
      refine conserved_moves conserved (by rfl) ?_
      rw [pending_of_created created, head]
      have split : aq.items ++ item :: rest = aq.items ++ [item] ++ rest := by
        rw [List.append_assoc]
        rfl
      rw [split]
      exact .rfl
  | closeLoop stopped =>
      refine conserved_moves conserved (by rfl) ?_
      have items : s.closeLoop.pending = s.world.asyncItems := List.append_nil _
      rw [items, pending, ReceiverWorld.pending]
      classical
      rw [List.perm_iff_count]
      intro x
      simp only [closeLoop, world, List.count_append]
      omega
  | _ => exact conserved

theorem accounted_step {s t : DualSystem α} {a : DualAct α} (accounted : s.Accounted)
    (unborn : s.Unborn) (moves : Moves s a t) : t.Accounted := by
  cases moves with
  | enters thread item v stands stepped adds => exact accounted_enters accounted stands item v
  | misses thread item stands absent =>
      exact accounted_misses accounted stands (unborn absent).1
  | finds thread item aq stands created =>
      apply accounted_goto accounted
      rw [stands]
      rfl
  | tests thread item loop stands =>
      apply accounted_goto accounted
      rw [stands]
      split <;> rfl
  | schedules thread item stands open_ =>
      exact accounted_passes accounted (by rw [stands]; rfl) rfl rfl rfl rfl
  | refused thread item stands closed =>
      exact accounted_passes accounted (by rw [stands]; rfl) rfl rfl rfl rfl
  | inserts thread item aq stands created =>
      exact accounted_passes accounted (by rw [stands]; rfl) rfl rfl rfl rfl
  | _ => exact accounted

theorem found_goto {s : DualSystem α} {thread : Nat} {pc : AsyncPc α}
    (fine : ∀ other, (s.pc other).found = false) (lost : pc.found = false) (other : Nat) :
    ((s.goto thread pc).pc other).found = false := by
  by_cases own : other = thread
  · rw [own, goto_self]
    exact lost
  · rw [goto_of_ne own]
    exact fine other

theorem unborn_step {s t : DualSystem α} {a : DualAct α} (unborn : s.Unborn)
    (moves : Moves s a t) : t.Unborn := by
  intro absent
  cases moves with
  | aside a v stands stepped adds =>
      exact unborn ((SyncSystem.async_of_step stepped).1.symm.trans absent)
  | enters thread item v stands stepped adds =>
      obtain ⟨passed, ready, found⟩ := unborn ((SyncSystem.async_of_step stepped).1.symm.trans absent)
      exact ⟨passed, ready, found_goto found rfl⟩
  | misses thread item stands none_ =>
      obtain ⟨passed, ready, found⟩ := unborn absent
      exact ⟨passed, ready, found_goto found rfl⟩
  | finds thread item aq stands created =>
      exact absurd (created.symm.trans absent) (Option.some_ne_none aq)
  | tests thread item loop stands =>
      obtain ⟨passed, ready, found⟩ := unborn absent
      have finds := found thread
      rw [stands] at finds
      cases finds
  | schedules thread item stands open_ =>
      have finds := (unborn absent).2.2 thread
      rw [stands] at finds
      cases finds
  | refused thread item stands closed =>
      have finds := (unborn absent).2.2 thread
      rw [stands] at finds
      cases finds
  | inserts thread item aq stands created => cases absent
  | ensures inLoop inside =>
      rw [ReceiverWorld.ensureAsyncQueue_eq] at absent
      cases absent
  | waits task inside =>
      rw [ReceiverWorld.anext_eq] at absent
      cases absent
  | resumes task aq item rest created head => cases absent
  | ticks aq item rest created head => cases absent
  | stopLoop => exact unborn absent
  | runLoop open_ => exact unborn absent
  | closeLoop stopped =>
      obtain ⟨passed, ready, found⟩ := unborn absent
      exact ⟨passed, rfl, found⟩

theorem loses_step {s t : DualSystem α} {a : DualAct α} (loses : s.loopClosed = false → s.lost = [])
    (moves : Moves s a t) : t.loopClosed = false → t.lost = [] := by
  intro open_
  cases moves with
  | refused thread item stands closed => exact absurd (open_.symm.trans closed) Bool.false_ne_true
  | closeLoop stopped => cases open_
  | _ => exact loses open_

/-- On the sync side each step is one of the threads at the sync queue, or none. -/
theorem coherent_step {s t : DualSystem α} {a : DualAct α} (coherent : s.sync.Coherent)
    (moves : Moves s a t) : t.sync.Coherent := by
  cases moves with
  | aside a v stands stepped adds => exact SyncSystem.coherent_step _ _ _ coherent stepped
  | enters thread item v stands stepped adds =>
      exact SyncSystem.coherent_step _ _ _ coherent stepped
  | ensures inLoop inside =>
      rw [ReceiverWorld.ensureAsyncQueue_eq]
      exact SyncSystem.coherent_of_receiver coherent rfl rfl
  | waits task inside =>
      rw [ReceiverWorld.anext_eq]
      exact SyncSystem.coherent_of_receiver coherent rfl rfl
  | schedules thread item stands open_ => exact coherent
  | inserts thread item aq stands created =>
      exact SyncSystem.coherent_of_receiver coherent rfl rfl
  | resumes task aq item rest created head =>
      exact SyncSystem.coherent_of_receiver coherent rfl rfl
  | ticks aq item rest created head =>
      exact SyncSystem.coherent_of_receiver coherent rfl rfl
  | _ => exact coherent

theorem enters_step {s t : DualSystem α} {a : DualAct α}
    (enters : s.entered.map Prod.snd = enqueuedItems s.sync.log) (moves : Moves s a t) :
    t.entered.map Prod.snd = enqueuedItems t.sync.log := by
  cases moves with
  | aside a v stands stepped adds => exact enters.trans adds.symm
  | enters thread item v stands stepped adds =>
      change (s.entered ++ [(thread, item)]).map Prod.snd = enqueuedItems v.log
      rw [adds, List.map_append, enters]
      rfl
  | _ => exact enters

theorem sound_step (s : DualSystem α) (a : DualAct α) (t : DualSystem α) (sound : s.Sound)
    (success : s.step a = some t) : t.Sound := by
  have moves := moves_of_step success
  exact ⟨coherent_step sound.coherent moves, enters_step sound.enters moves,
    accounted_step sound.accounted sound.unborn moves, conserved_step sound.conserved moves,
    unborn_step sound.unborn moves, loses_step sound.loses moves⟩

/-- A new receiver, `MessageReceiver(maxsize)`. -/
def new (maxsize : Int) : DualSystem α :=
  { sync := { receiver := { syncQueue := { maxsize := maxsize } } } }

theorem sound_new (maxsize : Int) : (new maxsize : DualSystem α).Sound where
  coherent := ⟨rfl, SyncSystem.coherent_init.flag, SyncSystem.coherent_init.closing,
    SyncSystem.coherent_init.timedOut, SyncSystem.coherent_init.history⟩
  enters := rfl
  accounted _ := rfl
  conserved := .rfl
  unborn _ := ⟨rfl, rfl, fun _ => rfl⟩
  loses _ := rfl

/-- From its creation on, nothing goes past the async queue. -/
theorem missed_step (missed : List (Nat × Item α)) (s : DualSystem α) (a : DualAct α)
    (t : DualSystem α) (before : s.asyncQueue ≠ none ∧ s.missed = missed)
    (success : s.step a = some t) : t.asyncQueue ≠ none ∧ t.missed = missed := by
  obtain ⟨created, same⟩ := before
  cases moves_of_step success with
  | aside a v stands stepped adds =>
      refine ⟨?_, same⟩
      intro absent
      exact created ((SyncSystem.async_of_step stepped).1.symm.trans absent)
  | enters thread item v stands stepped adds =>
      refine ⟨?_, same⟩
      intro absent
      exact created ((SyncSystem.async_of_step stepped).1.symm.trans absent)
  | misses thread item stands absent => exact absurd absent created
  | ensures inLoop inside =>
      rw [ReceiverWorld.ensureAsyncQueue_eq]
      exact ⟨Option.some_ne_none _, same⟩
  | waits task inside =>
      rw [ReceiverWorld.anext_eq]
      exact ⟨Option.some_ne_none _, same⟩
  | inserts thread item aq stands _ => exact ⟨Option.some_ne_none _, same⟩
  | resumes task aq item rest _ head => exact ⟨Option.some_ne_none _, same⟩
  | ticks aq item rest _ head => exact ⟨Option.some_ne_none _, same⟩
  | _ => exact ⟨created, same⟩

theorem sound_run {maxsize : Int} {acts : List (DualAct α)} {s : DualSystem α}
    (ran : Transition.run step (new maxsize) acts = some s) : s.Sound :=
  Transition.invariant_run sound_step (sound_new maxsize) ran

theorem Sound.perm_of_out {s : DualSystem α} (sound : s.Sound)
    (out : ∀ thread, s.pc thread = .out) : s.entered.Perm (s.missed ++ s.passed) := by
  apply perm_of_lanes
  intro thread
  have line := sound.accounted thread
  rw [out, AsyncPc.carried, List.append_nil] at line
  rw [line, lane_append]

/-- However the threads and the event loop interleave: the consumers of the sync queue take
what entered it, in its order; of what a thread put there, what came before the creation of the
async queue went past it, the rest was passed on in the order of its calls, up to the item still
in the thread's hands; and what was passed on is, as often as it was, with the async consumers,
on its way to them, or lost with a loop that was closed. When no thread is in `_put_async`, the
two sides have had the same items since the creation. -/
theorem interleavings_conserve {maxsize : Int} {acts : List (DualAct α)} {s : DualSystem α}
    (ran : Transition.run step (new maxsize) acts = some s) :
    dequeuedItems s.sync.log ++ s.sync.receiver.syncQueue.items = s.entered.map Prod.snd ∧
    (∀ thread, lane thread s.entered =
      lane thread s.missed ++ lane thread s.passed ++ (s.pc thread).carried) ∧
    (s.passed.map Prod.snd).Perm (s.obtained ++ s.pending ++ s.lost) ∧
    (s.loopClosed = false → s.lost = []) ∧
    (∀ more t, s.asyncQueue ≠ none → Transition.run step s more = some t →
      t.missed = s.missed) ∧
    ((∀ thread, s.pc thread = .out) → s.loopClosed = false →
      (dequeuedItems s.sync.log ++ s.sync.receiver.syncQueue.items).Perm
        (s.missed.map Prod.snd ++ (s.obtained ++ s.pending))) := by
  have sound := sound_run ran
  have queue := sound.coherent.queue.trans sound.enters.symm
  refine ⟨queue, sound.accounted, sound.conserved, sound.loses, ?_, ?_⟩
  · intro more t created continued
    exact (Transition.invariant_run (missed_step s.missed) ⟨created, rfl⟩ continued).2
  · intro out open_
    have kept := sound.conserved
    rw [Conserved, sound.loses open_, List.append_nil] at kept
    have split := (sound.perm_of_out out).map Prod.snd
    rw [List.map_append] at split
    rw [queue]
    exact split.trans (kept.append_left _)

/-- The second thread puts its item while the first is between the two queues. -/
def crossing : List (DualAct Nat) :=
  [.sync (.callPut 0 1), .sync (.enqueue 0), .takeLock 0, .aiter false, .sync (.callPut 0 2),
    .sync (.callPut 1 3), .sync (.enqueue 0), .sync (.enqueue 1), .takeLock 1, .testLoop 1,
    .insert 1, .takeLock 0, .testLoop 0, .insert 0]

theorem interleavings_conserve_crossing :
    ∃ s, Transition.run step (new 0) crossing = some s ∧
      s.sync.receiver.syncQueue.items = [.message 1, .message 2, .message 3] ∧
      s.pending = [.message 3, .message 2] ∧
      (dequeuedItems s.sync.log ++ s.sync.receiver.syncQueue.items).Perm
        (s.missed.map Prod.snd ++ (s.obtained ++ s.pending)) := by
  refine ⟨_, rfl, rfl, rfl, ?_⟩
  apply (@interleavings_conserve Nat 0 crossing _ rfl).2.2.2.2.2 _ rfl
  intro thread
  match thread with
  | 0 => rfl
  | 1 => rfl
  | n + 2 => rfl

end DualSystem

end OpenSomeIp
