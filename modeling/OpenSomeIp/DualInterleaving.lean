import OpenSomeIp.Lib.Lanes
import OpenSomeIp.SyncInterleaving

set_option autoImplicit false

namespace OpenSomeIp

/-- The thread that takes the step. -/
def SyncAct.thread {α : Type} : SyncAct α → Nat
  | .callPut thread _ => thread
  | .callClose thread => thread
  | .callNext thread => thread
  | .enqueue thread => thread
  | .dequeue thread => thread
  | .timeOut thread => thread
  | .readClosed thread => thread

/-- What a thread is about to put into the sync queue. -/
def SyncPc.offers {α : Type} : SyncPc α → Option (Item α)
  | .putting m => some (.message m)
  | .closing => some .sentinel
  | _ => none

/-- Where a thread stands in `_put_async`: outside, before the lock, past it with the loop it
found, past `is_running()`, or in the branch without a running loop. -/
inductive AsyncPc (α : Type) where
  | out
  | locking (item : Item α)
  | testing (item : Item α) (loop : Bool)
  | scheduling (item : Item α)
  | inserting (item : Item α)
  deriving DecidableEq, Repr

/-- What the thread has yet to hand to the async side. -/
def AsyncPc.carried {α : Type} : AsyncPc α → List (Item α)
  | .out => []
  | .locking item => [item]
  | .testing item _ => [item]
  | .scheduling item => [item]
  | .inserting item => [item]

/-- Whether the thread found an async queue under the lock. -/
def AsyncPc.found {α : Type} : AsyncPc α → Bool
  | .out => false
  | .locking _ => false
  | _ => true

/-- The atomic steps of the threads and of the event loop around a receiver. -/
inductive DualAct (α : Type) where
  | sync (a : SyncAct α)
  | takeLock (thread : Nat)
  | testLoop (thread : Nat)
  | callSoon (thread : Nat)
  | insert (thread : Nat)
  | aiter (inLoop : Bool)
  | anext (task : Nat)
  | resume (task : Nat)
  | tick
  | stopLoop
  | runLoop
  | closeLoop
  deriving DecidableEq

/-- A receiver with any number of threads at both its sides. The last five are what has
happened, with the thread it happened in: the items that entered the sync queue, those whose
`_put_async` found no queue, those it passed on, those that a closed loop lost, and how the
`__anext__` calls ended. -/
structure DualSystem (α : Type) where
  sync : SyncSystem α := {}
  eventLoop : EventLoop (Item α) := {}
  loopClosed : Bool := false
  pc : Nat → AsyncPc α := fun _ => .out
  entered : List (Nat × Item α) := []
  missed : List (Nat × Item α) := []
  passed : List (Nat × Item α) := []
  lost : List (Item α) := []
  obtained : List (Item α) := []

namespace DualSystem

variable {α : Type}

def world (s : DualSystem α) : ReceiverWorld α := ⟨s.sync.receiver, s.eventLoop⟩

def setWorld (w : ReceiverWorld α) (s : DualSystem α) : DualSystem α :=
  { s with sync := { s.sync with receiver := w.receiver }, eventLoop := w.eventLoop }

def asyncQueue (s : DualSystem α) : Option (AsyncQueue (Item α)) := s.sync.receiver.asyncQueue

/-- What async consumers can still get. -/
def pending (s : DualSystem α) : List (Item α) := s.world.pending

def goto (thread : Nat) (pc : AsyncPc α) (s : DualSystem α) : DualSystem α :=
  { s with pc := fun other => if other = thread then pc else s.pc other }

@[simp] theorem goto_self (thread : Nat) (pc : AsyncPc α) (s : DualSystem α) :
    (s.goto thread pc).pc thread = pc := if_pos rfl

theorem goto_of_ne {thread other : Nat} (ne : other ≠ thread) (pc : AsyncPc α)
    (s : DualSystem α) : (s.goto thread pc).pc other = s.pc other := if_neg ne

/-- An item that has entered the sync queue goes on to `_put_async`; one that `queue.Full`
refused does not. -/
def onSync (a : SyncAct α) (v : SyncSystem α) (s : DualSystem α) : DualSystem α :=
  match a, (s.sync.pc a.thread).offers with
  | .enqueue thread, some item =>
      if s.sync.receiver.syncQueue.full then { s with sync := v }
      else { s.goto thread (.locking item) with
        sync := v
        entered := s.entered ++ [(thread, item)] }
  | _, _ => { s with sync := v }

/-- The body of `with self._lock:` in `_put_async`, and the test that follows. -/
def takeLock (thread : Nat) (item : Item α) (s : DualSystem α) : DualSystem α :=
  match s.asyncQueue with
  | none => { s.goto thread .out with missed := s.missed ++ [(thread, item)] }
  | some _ => s.goto thread (.testing item s.sync.receiver.loop)

def testLoop (thread : Nat) (item : Item α) (loop : Bool) (s : DualSystem α) : DualSystem α :=
  s.goto thread (if loop && s.eventLoop.running then .scheduling item else .inserting item)

/-- A thread past `is_running()`: a loop closed since then raises `RuntimeError`. -/
def callSoon (thread : Nat) (item : Item α) (s : DualSystem α) : DualSystem α :=
  if s.loopClosed then
    { s.goto thread .out with passed := s.passed ++ [(thread, item)], lost := s.lost ++ [item] }
  else
    { (s.setWorld (s.world.callSoonThreadsafe item)).goto thread .out with
      passed := s.passed ++ [(thread, item)] }

def insert (thread : Nat) (item : Item α) (aq : AsyncQueue (Item α)) (s : DualSystem α) :
    DualSystem α :=
  { (s.setWorld (s.world.setAsyncQueue (aq.putNowait item))).goto thread .out with
    passed := s.passed ++ [(thread, item)] }

def setRunning (running : Bool) (s : DualSystem α) : DualSystem α :=
  { s with eventLoop := { s.eventLoop with running := running } }

/-- A loop that is closed drops its scheduled calls. -/
def closeLoop (s : DualSystem α) : DualSystem α :=
  { s with
    loopClosed := true
    eventLoop := { s.eventLoop with ready := [] }
    lost := s.lost ++ s.eventLoop.ready }

/-- A thread in `_put_async` takes no step at the sync queue. A loop is closed only while it
does not run, and runs no more then. -/
def step (s : DualSystem α) : DualAct α → Option (DualSystem α)
  | .sync a =>
      match s.pc a.thread with
      | .out => (s.sync.step a).map fun v => s.onSync a v
      | _ => none
  | .takeLock thread =>
      match s.pc thread with
      | .locking item => some (s.takeLock thread item)
      | _ => none
  | .testLoop thread =>
      match s.pc thread with
      | .testing item loop => some (s.testLoop thread item loop)
      | _ => none
  | .callSoon thread =>
      match s.pc thread with
      | .scheduling item => some (s.callSoon thread item)
      | _ => none
  | .insert thread =>
      match s.pc thread, s.asyncQueue with
      | .inserting item, some aq => some (s.insert thread item aq)
      | _, _ => none
  | .aiter inLoop =>
      if inLoop && !s.eventLoop.running then none
      else some (s.setWorld (s.world.ensureAsyncQueue inLoop))
  | .anext task =>
      if s.eventLoop.running then some (s.setWorld (s.world.anext task true)) else none
  | .resume task =>
      match s.asyncQueue with
      | none => none
      | some aq =>
          match aq.items with
          | [] => none
          | item :: rest =>
              if s.eventLoop.running && aq.getters.contains task then
                match s.world.resume aq task item rest with
                | (.ok m, w) =>
                    some { s.setWorld w with obtained := s.obtained ++ [.message m] }
                | (.error _, w) =>
                    some { s.setWorld w with obtained := s.obtained ++ [.sentinel] }
              else none
  | .tick => s.world.tick.map fun w => s.setWorld w
  | .stopLoop => some (s.setRunning false)
  | .runLoop => if s.loopClosed then none else some (s.setRunning true)
  | .closeLoop => if s.eventLoop.running then none else some s.closeLoop

/-- What each step does, and where its thread stands before it. -/
inductive Moves (s : DualSystem α) : DualAct α → DualSystem α → Prop
  | aside (a : SyncAct α) (v : SyncSystem α) (stands : s.pc a.thread = .out)
      (stepped : s.sync.step a = some v)
      (adds : enqueuedItems v.log = enqueuedItems s.sync.log) :
      Moves s (.sync a) { s with sync := v }
  | enters (thread : Nat) (item : Item α) (v : SyncSystem α) (stands : s.pc thread = .out)
      (stepped : s.sync.step (.enqueue thread) = some v)
      (adds : enqueuedItems v.log = enqueuedItems s.sync.log ++ [item]) :
      Moves s (.sync (.enqueue thread)) { s.goto thread (.locking item) with
        sync := v
        entered := s.entered ++ [(thread, item)] }
  | misses (thread : Nat) (item : Item α) (stands : s.pc thread = .locking item)
      (absent : s.asyncQueue = none) :
      Moves s (.takeLock thread)
        { s.goto thread .out with missed := s.missed ++ [(thread, item)] }
  | finds (thread : Nat) (item : Item α) (aq : AsyncQueue (Item α))
      (stands : s.pc thread = .locking item) (created : s.asyncQueue = some aq) :
      Moves s (.takeLock thread) (s.goto thread (.testing item s.sync.receiver.loop))
  | tests (thread : Nat) (item : Item α) (loop : Bool) (stands : s.pc thread = .testing item loop) :
      Moves s (.testLoop thread) (s.testLoop thread item loop)
  | schedules (thread : Nat) (item : Item α) (stands : s.pc thread = .scheduling item)
      (open_ : s.loopClosed = false) :
      Moves s (.callSoon thread)
        { (s.setWorld (s.world.callSoonThreadsafe item)).goto thread .out with
          passed := s.passed ++ [(thread, item)] }
  | refused (thread : Nat) (item : Item α) (stands : s.pc thread = .scheduling item)
      (closed : s.loopClosed = true) :
      Moves s (.callSoon thread) { s.goto thread .out with
        passed := s.passed ++ [(thread, item)]
        lost := s.lost ++ [item] }
  | inserts (thread : Nat) (item : Item α) (aq : AsyncQueue (Item α))
      (stands : s.pc thread = .inserting item) (created : s.asyncQueue = some aq) :
      Moves s (.insert thread) (s.insert thread item aq)
  | ensures (inLoop : Bool) (inside : inLoop = true → s.eventLoop.running = true) :
      Moves s (.aiter inLoop) (s.setWorld (s.world.ensureAsyncQueue inLoop))
  | waits (task : Nat) (inside : s.eventLoop.running = true) :
      Moves s (.anext task) (s.setWorld (s.world.anext task true))
  | resumes (task : Nat) (aq : AsyncQueue (Item α)) (item : Item α) (rest : List (Item α))
      (created : s.asyncQueue = some aq) (head : aq.items = item :: rest) :
      Moves s (.resume task)
        { s.setWorld (s.world.setAsyncQueue { items := rest, getters := aq.getters.erase task }) with
          obtained := s.obtained ++ [item] }
  | ticks (aq : AsyncQueue (Item α)) (item : Item α) (rest : List (Item α))
      (created : s.asyncQueue = some aq) (head : s.eventLoop.ready = item :: rest) :
      Moves s .tick (s.setWorld ({ s.world with
        eventLoop := { s.eventLoop with ready := rest } }.setAsyncQueue (aq.putNowait item)))
  | stopLoop : Moves s .stopLoop (s.setRunning false)
  | runLoop (open_ : s.loopClosed = false) : Moves s .runLoop (s.setRunning true)
  | closeLoop (stopped : s.eventLoop.running = false) : Moves s .closeLoop s.closeLoop

end DualSystem

namespace SyncSystem

variable {α : Type}

theorem push_of_room {s : SyncSystem α} (room : s.receiver.syncQueue.full = false)
    (item : Item α) : s.push item =
      { s with receiver := { s.receiver with syncQueue := s.receiver.syncQueue.push item } }.record
        (.enqueued item) := by
  rw [push, SyncQueue.putNowait_of_room room]

theorem push_of_full {s : SyncSystem α} (full : s.receiver.syncQueue.full = true)
    (item : Item α) : s.push item = s := by
  rw [push, SyncQueue.putNowait_of_full full]

theorem push_log (s : SyncSystem α) (item : Item α) :
    enqueuedItems (s.push item).log = enqueuedItems s.log ++
      if s.receiver.syncQueue.full then [] else [item] := by
  cases full : s.receiver.syncQueue.full with
  | true => rw [push_of_full full, if_pos rfl, List.append_nil]
  | false => 
      rw [push_of_room full]
      exact enqueuedItems_append s.log [.enqueued item]

/-- The steps at the sync queue leave the async side alone. -/
theorem async_of_step {s t : SyncSystem α} {a : SyncAct α} (success : s.step a = some t) :
    t.receiver.asyncQueue = s.receiver.asyncQueue ∧ t.receiver.loop = s.receiver.loop := by
  have pushed (item : Item α) : (s.push item).receiver.asyncQueue = s.receiver.asyncQueue ∧
      (s.push item).receiver.loop = s.receiver.loop := by
    cases full : s.receiver.syncQueue.full with
    | true => rw [push_of_full full]; exact ⟨rfl, rfl⟩
    | false => rw [push_of_room full]; exact ⟨rfl, rfl⟩
  cases moves_of_step success with
  | putEnqueues thread m stands => exact pushed (.message m)
  | closeEnqueues thread stands => exact pushed .sentinel
  | _ => exact ⟨rfl, rfl⟩

/-- Only a `put` or a `close` that meets room adds to what entered the queue. -/
theorem enqueued_of_step {s t : SyncSystem α} {a : SyncAct α} (success : s.step a = some t) :
    enqueuedItems t.log = enqueuedItems s.log ∧ (∀ thread, a ≠ .enqueue thread) ∨
      ∃ thread item, a = .enqueue thread ∧ (s.pc thread).offers = some item ∧
        enqueuedItems t.log = enqueuedItems s.log ++
          if s.receiver.syncQueue.full then [] else [item] := by
  have same (e : SyncEvent α) (adds : enqueuedItems [e] = []) :
      enqueuedItems (s.log ++ [e]) = enqueuedItems s.log := by
    rw [enqueuedItems_append, adds, List.append_nil]
  cases moves_of_step success with
  | putDropped thread m stands closed => exact .inl ⟨rfl, nofun⟩
  | putBegun thread m stands open_ => exact .inl ⟨rfl, nofun⟩
  | closeBegun thread stands => exact .inl ⟨same .closing rfl, nofun⟩
  | nextBegun thread stands => exact .inl ⟨rfl, nofun⟩
  | putEnqueues thread m stands =>
      exact .inr ⟨thread, .message m, rfl, by rw [stands]; rfl, push_log s _⟩
  | closeEnqueues thread stands =>
      exact .inr ⟨thread, .sentinel, rfl, by rw [stands]; rfl, push_log s _⟩
  | returned thread m rest stands head => exact .inl ⟨same (.returned thread m) rfl, nofun⟩
  | sawSentinel thread rest stands head => exact .inl ⟨same (.sawSentinel thread) rfl, nofun⟩
  | timedOut thread stands empty => exact .inl ⟨same (.timedOut thread) rfl, nofun⟩
  | sawClosed thread stands closed => exact .inl ⟨same (.sawClosed thread) rfl, nofun⟩
  | sawOpen thread stands open_ => exact .inl ⟨rfl, nofun⟩

end SyncSystem

namespace DualSystem

variable {α : Type}

theorem onSync_of_ne {s : DualSystem α} {a : SyncAct α} (ne : ∀ thread, a ≠ .enqueue thread)
    (v : SyncSystem α) : s.onSync a v = { s with sync := v } := by
  unfold onSync
  split
  · rename_i thread item offered
    exact absurd rfl (ne thread)
  · rfl

theorem onSync_enqueue {s : DualSystem α} {thread : Nat} {item : Item α}
    (offers : (s.sync.pc thread).offers = some item) (v : SyncSystem α) :
    s.onSync (.enqueue thread) v =
      if s.sync.receiver.syncQueue.full then { s with sync := v }
      else { s.goto thread (.locking item) with
        sync := v
        entered := s.entered ++ [(thread, item)] } := by
  have stands : (s.sync.pc (SyncAct.enqueue (α := α) thread).thread).offers = some item := offers
  simp only [onSync, stands]

theorem step_resume {s : DualSystem α} {task : Nat} {aq : AsyncQueue (Item α)} {item : Item α}
    {rest : List (Item α)} (inside : (s.eventLoop.running && aq.getters.contains task) = true)
    (created : s.asyncQueue = some aq) (head : aq.items = item :: rest) :
    s.step (.resume task) = some
      { s.setWorld (s.world.setAsyncQueue { items := rest, getters := aq.getters.erase task }) with
        obtained := s.obtained ++ [item] } := by
  cases item <;>
    simp only [step, created, head, inside, ↓reduceIte, ReceiverWorld.resume, Method.bind_apply,
      Method.modify_apply, Method.raise_apply, Method.pure_apply]

/-- The inversion of a step. -/
theorem moves_of_step {s t : DualSystem α} {a : DualAct α} (success : s.step a = some t) :
    Moves s a t := by
  cases a with
  | sync a =>
      simp only [step] at success
      split at success
      · rename_i stands
        obtain ⟨v, stepped, rfl⟩ := Option.map_eq_some_iff.mp success
        rcases SyncSystem.enqueued_of_step stepped with ⟨adds, ne⟩ | ⟨thread, item, rfl, offers, adds⟩
        · rw [onSync_of_ne ne]
          exact .aside a v stands stepped adds
        · rw [onSync_enqueue offers]
          split
          · rename_i full
            rw [full, if_pos rfl, List.append_nil] at adds
            exact .aside _ v stands stepped adds
          · rename_i room
            rw [if_neg room] at adds
            exact .enters thread item v stands stepped adds
      · cases success
  | takeLock thread =>
      simp only [step] at success
      split at success
      · rename_i item stands
        obtain rfl := Option.some.inj success
        unfold takeLock
        split
        · rename_i absent
          exact .misses thread item stands absent
        · rename_i aq created
          exact .finds thread item aq stands created
      · cases success
  | testLoop thread =>
      simp only [step] at success
      split at success
      · rename_i item loop stands
        obtain rfl := Option.some.inj success
        exact .tests thread item loop stands
      · cases success
  | callSoon thread =>
      simp only [step] at success
      split at success
      · rename_i item stands
        obtain rfl := Option.some.inj success
        unfold callSoon
        split
        · rename_i closed
          exact .refused thread item stands closed
        · rename_i open_
          exact .schedules thread item stands (Bool.eq_false_iff.mpr open_)
      · cases success
  | insert thread =>
      simp only [step] at success
      split at success
      · rename_i item aq stands created
        obtain rfl := Option.some.inj success
        exact .inserts thread item aq stands created
      · cases success
  | aiter inLoop =>
      simp only [step] at success
      split at success
      · cases success
      · rename_i allowed
        obtain rfl := Option.some.inj success
        refine .ensures inLoop fun within => ?_
        simpa [within] using allowed
  | anext task =>
      simp only [step] at success
      split at success
      · rename_i inside
        obtain rfl := Option.some.inj success
        exact .waits task inside
      · cases success
  | resume task =>
      cases created : s.asyncQueue with
      | none => simp only [step, created, reduceCtorEq] at success
      | some aq =>
          cases head : aq.items with
          | nil => simp only [step, created, head, reduceCtorEq] at success
          | cons item rest =>
              cases inside : s.eventLoop.running && aq.getters.contains task with
              | true =>
                  rw [step_resume inside created head] at success
                  obtain rfl := Option.some.inj success
                  exact .resumes task aq item rest created head
              | false =>
                  simp only [step, created, head, inside, Bool.false_eq_true, ↓reduceIte,
                    reduceCtorEq] at success
  | tick =>
      simp only [step] at success
      obtain ⟨w, ticked, rfl⟩ := Option.map_eq_some_iff.mp success
      unfold ReceiverWorld.tick at ticked
      split at ticked
      · rename_i item rest aq head created
        split at ticked
        · obtain rfl := Option.some.inj ticked
          exact .ticks aq item rest created head
        · cases ticked
      · cases ticked
  | stopLoop =>
      obtain rfl := Option.some.inj success
      exact .stopLoop
  | runLoop =>
      simp only [step] at success
      split at success
      · cases success
      · rename_i open_
        obtain rfl := Option.some.inj success
        exact .runLoop (Bool.eq_false_iff.mpr open_)
  | closeLoop =>
      simp only [step] at success
      split at success
      · cases success
      · rename_i stopped
        obtain rfl := Option.some.inj success
        exact .closeLoop (Bool.eq_false_iff.mpr stopped)

/-- The rest of `_put_async`, when nobody interrupts it. -/
theorem putAsync_uninterrupted {s : DualSystem α} {thread : Nat} {item : Item α}
    (stands : s.pc thread = .locking item) (open_ : s.loopClosed = false) :
    ∃ acts t, Transition.run step s acts = some t ∧ t.world = s.world.putAsync item ∧
      t.pc thread = .out ∧ t.sync.pc = s.sync.pc := by
  have first : s.step (.takeLock thread) = some (s.takeLock thread item) := by
    simp only [step, stands]
  cases created : s.asyncQueue with
  | none =>
      have absent : s.world.receiver.asyncQueue = none := created
      refine ⟨[.takeLock thread], _, Transition.run_cons_of_some first [], ?_⟩
      simp only [takeLock, created, ReceiverWorld.putAsync, absent]
      exact ⟨rfl, goto_self thread .out s, rfl⟩
  | some aq =>
      have present : s.world.receiver.asyncQueue = some aq := created
      let held := s.goto thread (.testing item s.sync.receiver.loop)
      let tested := held.testLoop thread item s.sync.receiver.loop
      have taken : s.takeLock thread item = held := by
        simp only [takeLock, created, held]
      have second : held.step (.testLoop thread) = some tested := by
        simp only [step, held, goto_self, tested]
      have front (last : DualAct α) : Transition.run step s [.takeLock thread, .testLoop thread, last] =
          Transition.run step tested [last] := by
        rw [Transition.run_cons_of_some first, taken, Transition.run_cons_of_some second]
      cases on : s.sync.receiver.loop && s.eventLoop.running with
      | true =>
          have at_ : tested.pc thread = .scheduling item := by
            have running : held.eventLoop = s.eventLoop := rfl
            simp only [tested, testLoop, running, on, ↓reduceIte, goto_self]
          have third : tested.step (.callSoon thread) = some (tested.callSoon thread item) := by
            simp only [step, at_]
          have alive : tested.loopClosed = false := open_
          refine ⟨_, _, (front _).trans (Transition.run_cons_of_some third []), ?_⟩
          have known : (s.world.receiver.loop && s.world.eventLoop.running) = true := on
          simp only [callSoon, alive, Bool.false_eq_true, ↓reduceIte, ReceiverWorld.putAsync, present,
            known]
          exact ⟨rfl, goto_self thread .out _, rfl⟩
      | false =>
          have at_ : tested.pc thread = .inserting item := by
            have running : held.eventLoop = s.eventLoop := rfl
            simp only [tested, testLoop, running, on, Bool.false_eq_true, ↓reduceIte, goto_self]
          have still : tested.asyncQueue = some aq := created
          have third : tested.step (.insert thread) = some (tested.insert thread item aq) := by
            simp only [step, at_, still]
          refine ⟨_, _, (front _).trans (Transition.run_cons_of_some third []), ?_⟩
          have known : (s.world.receiver.loop && s.world.eventLoop.running) = false := on
          simp only [ReceiverWorld.putAsync, present, known, Bool.false_eq_true, ↓reduceIte]
          exact ⟨rfl, goto_self thread .out _, rfl⟩

/-- A `put` or `close` past its look at the flag, when nobody interrupts it. -/
theorem enqueue_uninterrupted {s : DualSystem α} {thread : Nat} {item : Item α}
    (outside : s.pc thread = .out)
    (stepped : s.sync.step (.enqueue thread) = some ((s.sync.push item).goto thread .idle))
    (offers : (s.sync.pc thread).offers = some item) (open_ : s.loopClosed = false) :
    ∃ acts t, Transition.run step s acts = some t ∧
      t.world = ((ReceiverWorld.putSync item >>= fun _ =>
        Method.modify (ReceiverWorld.putAsync item)) s.world).2 ∧
      t.pc thread = .out ∧ t.sync.pc thread = .idle := by
  have first : s.step (.sync (.enqueue thread)) =
      some (s.onSync (.enqueue thread) ((s.sync.push item).goto thread .idle)) := by
    have outside' : s.pc (SyncAct.enqueue (α := α) thread).thread = .out := outside
    simp only [step, outside', stepped, Option.map_some]
  rw [onSync_enqueue offers] at first
  cases full : s.sync.receiver.syncQueue.full with
  | true =>
      rw [full, if_pos rfl, SyncSystem.push_of_full full] at first
      refine ⟨_, _, Transition.run_cons_of_some first [], ?_, outside,
        SyncSystem.goto_self thread .idle s.sync⟩
      rw [Method.bind_of_error (ReceiverWorld.putSync_of_full s.world full item)]
      rfl
  | false =>
      rw [full, if_neg Bool.false_ne_true] at first
      let entered : DualSystem α := { s.goto thread (.locking item) with
        sync := (s.sync.push item).goto thread .idle
        entered := s.entered ++ [(thread, item)] }
      have held : entered.pc thread = .locking item := goto_self thread (.locking item) s
      have alive : entered.loopClosed = false := open_
      obtain ⟨acts, t, ran, world, out, sync⟩ := putAsync_uninterrupted held alive
      refine ⟨_ :: acts, t, (Transition.run_cons_of_some first acts).trans ran, ?_, out, ?_⟩
      · have pushed : entered.world = s.world.enqueue item := by
          simp only [entered, DualSystem.world, SyncSystem.push_of_room full]
          rfl
        rw [world, pushed, Method.bind_of_ok (ReceiverWorld.putSync_of_room s.world full item)]
        rfl
      · rw [sync]
        exact SyncSystem.goto_self thread .idle _

/-- A `put` that nobody interrupts has the effect of the method. -/
theorem put_uninterrupted {s : DualSystem α} {thread : Nat} (outside : s.pc thread = .out)
    (idle : s.sync.pc thread = .idle) (open_ : s.loopClosed = false) (m : α) :
    ∃ acts t, Transition.run step s acts = some t ∧ t.world = (s.world.put m).2 ∧
      t.pc thread = .out ∧ t.sync.pc thread = .idle := by
  have outside' : s.pc (SyncAct.callPut thread m).thread = .out := outside
  cases closed : s.sync.receiver.closed with
  | true =>
      have first : s.step (.sync (.callPut thread m)) = some s := by
        simp only [step, outside', SyncSystem.step, idle, closed, ↓reduceIte, Option.map_some]
        rfl
      refine ⟨_, s, Transition.run_cons_of_some first [], ?_, outside, idle⟩
      rw [ReceiverWorld.put_of_closed closed]
  | false =>
      let begun : DualSystem α := { s with sync := s.sync.goto thread (.putting m) }
      have first : s.step (.sync (.callPut thread m)) = some begun := by
        simp only [step, outside', SyncSystem.step, idle, closed, Bool.false_eq_true, ↓reduceIte,
          Option.map_some]
        rfl
      have stands : begun.sync.pc thread = .putting m := SyncSystem.goto_self thread _ s.sync
      have stepped : begun.sync.step (.enqueue thread) =
          some ((begun.sync.push (.message m)).goto thread .idle) := by
        simp only [SyncSystem.step, stands]
      have offers : (begun.sync.pc thread).offers = some (.message m) := by
        rw [stands]
        rfl
      have away : begun.pc thread = .out := outside
      have alive : begun.loopClosed = false := open_
      obtain ⟨acts, t, ran, world, out, done⟩ := enqueue_uninterrupted away stepped offers alive
      refine ⟨_ :: acts, t, (Transition.run_cons_of_some first acts).trans ran, ?_, out, done⟩
      have flag : s.world.receiver.closed = false := closed
      rw [world]
      simp only [ReceiverWorld.put, Method.bind_apply, Method.get_apply, flag, Bool.false_eq_true,
        ↓reduceIte]
      rfl

/-- So has a `close`. -/
theorem close_uninterrupted {s : DualSystem α} {thread : Nat} (outside : s.pc thread = .out)
    (idle : s.sync.pc thread = .idle) (open_ : s.loopClosed = false) :
    ∃ acts t, Transition.run step s acts = some t ∧ t.world = s.world.close.2 ∧
      t.pc thread = .out ∧ t.sync.pc thread = .idle := by
  let flagged : SyncSystem α := ({ s.sync with
    receiver := { s.sync.receiver with closed := true } }.record .closing).goto thread .closing
  have outside' : s.pc (SyncAct.callClose (α := α) thread).thread = .out := outside
  let begun : DualSystem α := { s with sync := flagged }
  have first : s.step (.sync (.callClose thread)) = some begun := by
    simp only [step, outside', SyncSystem.step, idle, Option.map_some]
    rfl
  have stands : begun.sync.pc thread = .closing := SyncSystem.goto_self thread _ _
  have stepped : begun.sync.step (.enqueue thread) =
      some ((begun.sync.push .sentinel).goto thread .idle) := by
    simp only [SyncSystem.step, stands]
  have offers : (begun.sync.pc thread).offers = some .sentinel := by
    rw [stands]
    rfl
  have away : begun.pc thread = .out := outside
  have alive : begun.loopClosed = false := open_
  obtain ⟨acts, t, ran, world, out, done⟩ := enqueue_uninterrupted away stepped offers alive
  refine ⟨_ :: acts, t, (Transition.run_cons_of_some first acts).trans ran, ?_, out, done⟩
  rw [world]
  rfl

end DualSystem

end OpenSomeIp
