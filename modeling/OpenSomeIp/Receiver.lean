import Mathlib.Tactic.Tauto
import OpenSomeIp.Lib.Method
import OpenSomeIp.Types

set_option autoImplicit false

namespace OpenSomeIp

/-- What the queues of a receiver hold: a message or `_SENTINEL`. -/
inductive Item (α : Type) where
  | message (m : α)
  | sentinel
  deriving DecidableEq, Repr

/-- The messages among the items of a queue. -/
def messagesOf {α : Type} (items : List (Item α)) : List α :=
  items.filterMap fun
    | .message m => some m
    | .sentinel => none

theorem messagesOf_append {α : Type} (front back : List (Item α)) :
    messagesOf (front ++ back) = messagesOf front ++ messagesOf back := List.filterMap_append

theorem mem_messagesOf {α : Type} {items : List (Item α)} {m : α} :
    m ∈ messagesOf items ↔ .message m ∈ items := by
  rw [messagesOf, List.mem_filterMap]
  constructor
  · rintro ⟨item, member, found⟩
    cases item with
    | sentinel => cases found
    | message other =>
        obtain rfl := Option.some.inj found
        exact member
  · intro member
    exact ⟨_, member, rfl⟩

/-- The standard library's `queue.Queue(maxsize)`. -/
structure SyncQueue (β : Type) where
  maxsize : Int := 0
  items : List β := []
  deriving DecidableEq, Repr

namespace SyncQueue

variable {β : Type}

def full (q : SyncQueue β) : Bool := 0 < q.maxsize && q.maxsize ≤ q.items.length

def push (q : SyncQueue β) (item : β) : SyncQueue β := { q with items := q.items ++ [item] }

/-- A full queue raises `queue.Full`. -/
def putNowait (item : β) : Method Exn (SyncQueue β) Unit := do
  let q ← Method.get
  if q.full then Method.raise .queueFull else Method.modify fun q => q.push item

theorem putNowait_of_room {q : SyncQueue β} (room : q.full = false) (item : β) :
    putNowait item q = (.ok (), q.push item) := by
  simp only [putNowait, Method.bind_apply, Method.get_apply, room, Bool.false_eq_true, ↓reduceIte,
    Method.modify_apply]

theorem putNowait_of_full {q : SyncQueue β} (full : q.full = true) (item : β) :
    putNowait item q = (.error .queueFull, q) := by
  simp only [putNowait, Method.bind_apply, Method.get_apply, full, ↓reduceIte, Method.raise_apply]

theorem full_unbounded {q : SyncQueue β} (unbounded : q.maxsize = 0) : q.full = false := by
  simp [full, unbounded]

theorem putNowait_unbounded {q : SyncQueue β} (unbounded : q.maxsize = 0) (item : β) :
    putNowait item q = (.ok (), q.push item) :=
  putNowait_of_room (full_unbounded unbounded) item

end SyncQueue

/-- The unbounded `asyncio.Queue()` with the tasks suspended in `get()`. -/
structure AsyncQueue (β : Type) where
  items : List β := []
  getters : List Nat := []
  deriving DecidableEq, Repr

namespace AsyncQueue

variable {β : Type}

def putNowait (q : AsyncQueue β) (item : β) : AsyncQueue β := { q with items := q.items ++ [item] }

@[simp] theorem putNowait_items (q : AsyncQueue β) (item : β) :
    (q.putNowait item).items = q.items ++ [item] := rfl

end AsyncQueue

/-- An event loop: whether it runs, and the items of the `aq.put_nowait` calls in
its ready list, first to be executed first. -/
structure EventLoop (β : Type) where
  running : Bool := false
  ready : List β := []
  deriving DecidableEq, Repr

/-- A `MessageReceiver`; `loop` says whether `_loop` holds the event loop or `None`. -/
structure MessageReceiver (α : Type) where
  syncQueue : SyncQueue (Item α) := {}
  asyncQueue : Option (AsyncQueue (Item α)) := none
  loop : Bool := false
  closed : Bool := false
  deriving DecidableEq, Repr

/-- A receiver and the event loop its async consumers run on. -/
structure ReceiverWorld (α : Type) where
  receiver : MessageReceiver α := {}
  eventLoop : EventLoop (Item α) := {}
  deriving DecidableEq, Repr

namespace ReceiverWorld

variable {α : Type}

def setReceiver (r : MessageReceiver α) (w : ReceiverWorld α) : ReceiverWorld α :=
  { w with receiver := r }

def setAsyncQueue (q : AsyncQueue (Item α)) (w : ReceiverWorld α) : ReceiverWorld α :=
  { w with receiver := { w.receiver with asyncQueue := some q } }

def callSoonThreadsafe (item : Item α) (w : ReceiverWorld α) : ReceiverWorld α :=
  { w with eventLoop := { w.eventLoop with ready := w.eventLoop.ready ++ [item] } }

/-- The queue is created on first use; `inLoop` says whether the caller runs
inside the event loop, where `asyncio.get_running_loop()` finds it. -/
def ensureAsyncQueue (inLoop : Bool) (w : ReceiverWorld α) : ReceiverWorld α :=
  match w.receiver.asyncQueue with
  | some _ => w
  | none => w.setReceiver { w.receiver with asyncQueue := some {}, loop := inLoop }

/-- The source's `_put_async`; an unbounded `put_nowait` never raises. -/
def putAsync (item : Item α) (w : ReceiverWorld α) : ReceiverWorld α :=
  match w.receiver.asyncQueue with
  | none => w
  | some aq =>
      if w.receiver.loop && w.eventLoop.running then w.callSoonThreadsafe item
      else w.setAsyncQueue (aq.putNowait item)

/-- The call `self._sync_queue.put_nowait(item)`. -/
def putSync (item : Item α) : Method Exn (ReceiverWorld α) Unit :=
  Method.zoom (fun w => w.receiver.syncQueue)
    (fun q w => w.setReceiver { w.receiver with syncQueue := q }) (SyncQueue.putNowait item)

def put (message : α) : Method Exn (ReceiverWorld α) Unit := do
  let w ← Method.get
  if w.receiver.closed then
    pure ()
  else do
    putSync (.message message)
    Method.modify (putAsync (.message message))

def close : Method Exn (ReceiverWorld α) Unit := do
  Method.modify fun w => w.setReceiver { w.receiver with closed := true }
  putSync .sentinel
  Method.modify (putAsync .sentinel)

/-- One turn of the loop in `__next__`: a message, `StopIteration`, or `none` for
`continue`. The timed `get` gives up only on an empty queue. -/
def nextTurn : Method Exn (ReceiverWorld α) (Option α) := do
  let w ← Method.get
  match w.receiver.syncQueue.items with
  | [] => if w.receiver.closed then Method.raise .stopIteration else pure none
  | item :: rest => do
      Method.modify fun w =>
        w.setReceiver { w.receiver with syncQueue := { w.receiver.syncQueue with items := rest } }
      match item with
      | .sentinel => Method.raise .stopIteration
      | .message m => pure (some m)

/-- The first half of `__anext__`: up to the suspension in `await q.get()`. -/
def anext (task : Nat) (inLoop : Bool) (w : ReceiverWorld α) : ReceiverWorld α :=
  let w := w.ensureAsyncQueue inLoop
  match w.receiver.asyncQueue with
  | none => w
  | some aq => w.setAsyncQueue { aq with getters := aq.getters ++ [task] }

/-- The second half of `__anext__`: the suspended `get` takes the head of the queue. -/
def resume (aq : AsyncQueue (Item α)) (task : Nat) (item : Item α) (rest : List (Item α)) :
    Method Exn (ReceiverWorld α) α := do
  Method.modify (setAsyncQueue { items := rest, getters := aq.getters.erase task })
  match item with
  | .sentinel => Method.raise .stopAsyncIteration
  | .message m => pure m

/-- The running loop executes the oldest of its `aq.put_nowait` callbacks. -/
def tick (w : ReceiverWorld α) : Option (ReceiverWorld α) :=
  match w.eventLoop.ready, w.receiver.asyncQueue with
  | item :: rest, some aq =>
      if w.eventLoop.running then
        some ({ w with eventLoop := { w.eventLoop with ready := rest } }.setAsyncQueue
          (aq.putNowait item))
      else none
  | _, _ => none

/-- The messages and sentinels in the async queue, when there is one. -/
def asyncItems (w : ReceiverWorld α) : List (Item α) := (w.receiver.asyncQueue.getD {}).items

/-- What async consumers can still get: the async queue and the scheduled calls. -/
def pending (w : ReceiverWorld α) : List (Item α) := w.asyncItems ++ w.eventLoop.ready

/-- The `__anext__` calls suspended in `await q.get()`. -/
def getters (w : ReceiverWorld α) : List Nat := (w.receiver.asyncQueue.getD {}).getters

/-- The sync queue with one more item. -/
def enqueue (item : Item α) (w : ReceiverWorld α) : ReceiverWorld α :=
  w.setReceiver { w.receiver with syncQueue := w.receiver.syncQueue.push item }

/-- The closed flag set and an item added to the sync queue. -/
def record (closed : Bool) (item : Item α) (w : ReceiverWorld α) : ReceiverWorld α :=
  (w.setReceiver { w.receiver with closed := closed }).enqueue item

/-- What `put` and `close` do to a receiver whose sync queue is unbounded. -/
def deliver (closed : Bool) (item : Item α) (w : ReceiverWorld α) : ReceiverWorld α :=
  (w.record closed item).putAsync item

theorem putSync_of_room (w : ReceiverWorld α) (room : w.receiver.syncQueue.full = false)
    (item : Item α) : putSync item w = (.ok (), w.enqueue item) := by
  simp only [putSync, Method.zoom_apply, SyncQueue.putNowait_of_room room]
  rfl

theorem putSync_of_full (w : ReceiverWorld α) (full : w.receiver.syncQueue.full = true)
    (item : Item α) : putSync item w = (.error .queueFull, w) := by
  simp only [putSync, Method.zoom_apply, SyncQueue.putNowait_of_full full]
  rfl

theorem put_of_closed {w : ReceiverWorld α} (closed : w.receiver.closed = true) (m : α) :
    put m w = (.ok (), w) := by
  simp only [put, Method.bind_apply, Method.get_apply, closed, ↓reduceIte, Method.pure_apply]

theorem put_of_room {w : ReceiverWorld α} (open_ : w.receiver.closed = false)
    (room : w.receiver.syncQueue.full = false) (m : α) :
    put m w = (.ok (), w.deliver false (.message m)) := by
  have same : w.setReceiver { w.receiver with closed := false } = w := by
    rw [← open_]
    rfl
  simp only [put, Method.bind_apply, Method.get_apply, open_, Bool.false_eq_true, ↓reduceIte,
    putSync_of_room w room, Method.modify_apply, deliver, record, same]

theorem put_of_full {w : ReceiverWorld α} (open_ : w.receiver.closed = false)
    (full : w.receiver.syncQueue.full = true) (m : α) : put m w = (.error .queueFull, w) := by
  simp only [put, Method.bind_apply, Method.get_apply, open_, Bool.false_eq_true, ↓reduceIte,
    putSync_of_full w full]

theorem put_of_open {w : ReceiverWorld α} (open_ : w.receiver.closed = false)
    (unbounded : w.receiver.syncQueue.maxsize = 0) (m : α) :
    put m w = (.ok (), w.deliver false (.message m)) :=
  put_of_room open_ (SyncQueue.full_unbounded unbounded) m

theorem close_of_room {w : ReceiverWorld α} (room : w.receiver.syncQueue.full = false) :
    close w = (.ok (), w.deliver true .sentinel) := by
  have pushed := putSync_of_room (w.setReceiver { w.receiver with closed := true }) room .sentinel
  simp only [close, Method.bind_apply, Method.modify_apply, pushed, deliver, record]

/-- The flag is set before the queue turns out to be full. -/
theorem close_of_full {w : ReceiverWorld α} (full : w.receiver.syncQueue.full = true) :
    close w = (.error .queueFull, w.setReceiver { w.receiver with closed := true }) := by
  have refused := putSync_of_full (w.setReceiver { w.receiver with closed := true }) full .sentinel
  simp only [close, Method.bind_apply, Method.modify_apply, refused]

theorem close_unbounded {w : ReceiverWorld α} (unbounded : w.receiver.syncQueue.maxsize = 0) :
    close w = (.ok (), w.deliver true .sentinel) :=
  close_of_room (SyncQueue.full_unbounded unbounded)

/-- Without an async queue an item goes nowhere else. -/
theorem deliver_absent {w : ReceiverWorld α} (absent : w.receiver.asyncQueue = none)
    (closed : Bool) (item : Item α) : w.deliver closed item = w.record closed item := by
  have same : (w.record closed item).receiver.asyncQueue = none := absent
  simp only [deliver, putAsync, same]

/-- While the loop runs, the item waits in its ready list. -/
theorem deliver_deferred {w : ReceiverWorld α} {aq : AsyncQueue (Item α)}
    (created : w.receiver.asyncQueue = some aq) (loop : w.receiver.loop = true)
    (running : w.eventLoop.running = true) (closed : Bool) (item : Item α) :
    w.deliver closed item = (w.record closed item).callSoonThreadsafe item := by
  have same : (w.record closed item).receiver.asyncQueue = some aq := created
  have known : (w.record closed item).receiver.loop = true := loop
  have turning : (w.record closed item).eventLoop.running = true := running
  simp only [deliver, putAsync, same, known, turning, Bool.and_self, ↓reduceIte]

/-- While it does not, the item enters the async queue at once. -/
theorem deliver_immediate {w : ReceiverWorld α} {aq : AsyncQueue (Item α)}
    (created : w.receiver.asyncQueue = some aq)
    (still : (w.receiver.loop && w.eventLoop.running) = false) (closed : Bool) (item : Item α) :
    w.deliver closed item = (w.record closed item).setAsyncQueue (aq.putNowait item) := by
  have same : (w.record closed item).receiver.asyncQueue = some aq := created
  have off : ((w.record closed item).receiver.loop && (w.record closed item).eventLoop.running) =
      false := still
  simp only [deliver, putAsync, same, off, Bool.false_eq_true, ↓reduceIte]

theorem deliver_cases (w : ReceiverWorld α) (closed : Bool) (item : Item α) :
    (w.receiver.asyncQueue = none ∧ w.deliver closed item = w.record closed item) ∨
      ∃ aq, w.receiver.asyncQueue = some aq ∧
        ((w.receiver.loop = true ∧ w.eventLoop.running = true ∧
            w.deliver closed item = (w.record closed item).callSoonThreadsafe item) ∨
          ((w.receiver.loop && w.eventLoop.running) = false ∧
            w.deliver closed item = (w.record closed item).setAsyncQueue (aq.putNowait item))) := by
  cases created : w.receiver.asyncQueue with
  | none => exact .inl ⟨rfl, deliver_absent created closed item⟩
  | some aq =>
      refine .inr ⟨aq, rfl, ?_⟩
      cases on : w.receiver.loop && w.eventLoop.running with
      | true =>
          obtain ⟨loop, running⟩ := Bool.and_eq_true_iff.mp on
          exact .inl ⟨loop, running, deliver_deferred created loop running closed item⟩
      | false => exact .inr ⟨rfl, deliver_immediate created on closed item⟩

/-- `put` and `close` change the closed flag and the queues, nothing else. -/
theorem deliver_frame (w : ReceiverWorld α) (closed : Bool) (item : Item α) :
    (w.deliver closed item).receiver.syncQueue = w.receiver.syncQueue.push item ∧
      (w.deliver closed item).receiver.closed = closed ∧
      (w.deliver closed item).receiver.loop = w.receiver.loop ∧
      (w.deliver closed item).eventLoop.running = w.eventLoop.running ∧
      (w.deliver closed item).getters = w.getters := by
  rcases deliver_cases w closed item with ⟨_, same⟩ | ⟨aq, created, ⟨_, _, same⟩ | ⟨_, same⟩⟩
  · rw [same]
    exact ⟨rfl, rfl, rfl, rfl, rfl⟩
  · rw [same]
    exact ⟨rfl, rfl, rfl, rfl, rfl⟩
  · rw [same]
    refine ⟨rfl, rfl, rfl, rfl, ?_⟩
    simp only [getters, created]
    rfl

/-- The queues at the moment of a `put` or `close`: with an async queue, exactly one
item more is on its way, behind the scheduled ones only if the loop runs. -/
theorem deliver_queues {w : ReceiverWorld α} {aq : AsyncQueue (Item α)}
    (created : w.receiver.asyncQueue = some aq) (closed : Bool) (item : Item α) :
    ∃ next, (w.deliver closed item).receiver.asyncQueue = some next ∧
      ((next.items = aq.items ∧ w.eventLoop.running = true ∧
          (w.deliver closed item).eventLoop.ready = w.eventLoop.ready ++ [item]) ∨
        (next.items = aq.items ++ [item] ∧ (w.receiver.loop && w.eventLoop.running) = false ∧
          (w.deliver closed item).eventLoop.ready = w.eventLoop.ready)) := by
  rcases deliver_cases w closed item with ⟨absent, _⟩ | ⟨queue, present, rest⟩
  · exact absurd (created.symm.trans absent) (Option.some_ne_none aq)
  · obtain rfl : queue = aq := Option.some.inj (present.symm.trans created)
    rcases rest with ⟨_, running, same⟩ | ⟨still, same⟩
    · rw [same]
      exact ⟨queue, created, .inl ⟨rfl, running, rfl⟩⟩
    · rw [same]
      exact ⟨queue.putNowait item, rfl, .inr ⟨rfl, still, rfl⟩⟩

theorem deliver_absent_queues {w : ReceiverWorld α} (absent : w.receiver.asyncQueue = none)
    (closed : Bool) (item : Item α) :
    (w.deliver closed item).receiver.asyncQueue = none ∧
      (w.deliver closed item).eventLoop = w.eventLoop := by
  rw [deliver_absent absent]
  exact ⟨absent, rfl⟩

theorem mem_pending_deliver {w : ReceiverWorld α} {closed : Bool} {item other : Item α}
    (member : other ∈ (w.deliver closed item).pending) : other ∈ w.pending ∨ other = item := by
  cases created : w.receiver.asyncQueue with
  | none =>
      obtain ⟨absent, eventLoop⟩ := deliver_absent_queues created closed item
      rw [pending, asyncItems, absent, eventLoop] at member
      rw [pending, asyncItems, created]
      exact .inl member
  | some aq =>
      obtain ⟨next, present, queues⟩ := deliver_queues created closed item
      rw [pending, asyncItems, present, Option.getD_some, List.mem_append] at member
      rw [pending, asyncItems, created, Option.getD_some, List.mem_append]
      rcases queues with ⟨items, _, ready⟩ | ⟨items, _, ready⟩
      · rw [items, ready, List.mem_append, List.mem_singleton] at member
        tauto
      · rw [items, ready, List.mem_append, List.mem_singleton] at member
        tauto

/-- The queue that `_ensure_async_queue` returns, and the loop it remembers. -/
theorem ensureAsyncQueue_eq (inLoop : Bool) (w : ReceiverWorld α) :
    w.ensureAsyncQueue inLoop = w.setReceiver { w.receiver with
      asyncQueue := some (w.receiver.asyncQueue.getD {})
      loop := if w.receiver.asyncQueue.isSome then w.receiver.loop else inLoop } := by
  obtain ⟨⟨syncQueue, asyncQueue, loop, closed⟩, eventLoop⟩ := w
  cases asyncQueue <;> rfl

theorem anext_eq (task : Nat) (inLoop : Bool) (w : ReceiverWorld α) :
    w.anext task inLoop = w.setReceiver { w.receiver with
      asyncQueue := some { items := w.asyncItems, getters := w.getters ++ [task] }
      loop := if w.receiver.asyncQueue.isSome then w.receiver.loop else inLoop } := by
  obtain ⟨⟨syncQueue, asyncQueue, loop, closed⟩, eventLoop⟩ := w
  cases asyncQueue <;> rfl

end ReceiverWorld

/-- A receiver as the components create it: `MessageReceiver()` has no bound. -/
structure UnboundedReceiver (α : Type) where
  world : ReceiverWorld α
  unbounded : world.receiver.syncQueue.maxsize = 0

namespace UnboundedReceiver

variable {α : Type}

def new : UnboundedReceiver α := ⟨{}, rfl⟩

def closed (r : UnboundedReceiver α) : Bool := r.world.receiver.closed

/-- What the consumers of the sync queue can still get. -/
def items (r : UnboundedReceiver α) : List (Item α) := r.world.receiver.syncQueue.items

theorem close_unbounded_maxsize (r : UnboundedReceiver α) :
    (ReceiverWorld.close r.world).2.receiver.syncQueue.maxsize = 0 := by
  rw [ReceiverWorld.close_unbounded r.unbounded, (ReceiverWorld.deliver_frame _ _ _).1]
  exact r.unbounded

theorem put_unbounded_maxsize (m : α) (r : UnboundedReceiver α) :
    (ReceiverWorld.put m r.world).2.receiver.syncQueue.maxsize = 0 := by
  cases closed : r.world.receiver.closed with
  | true =>
      rw [ReceiverWorld.put_of_closed closed]
      exact r.unbounded
  | false =>
      rw [ReceiverWorld.put_of_open closed r.unbounded, (ReceiverWorld.deliver_frame _ _ _).1]
      exact r.unbounded

def close (r : UnboundedReceiver α) : UnboundedReceiver α :=
  ⟨(ReceiverWorld.close r.world).2, r.close_unbounded_maxsize⟩

def put (m : α) (r : UnboundedReceiver α) : UnboundedReceiver α :=
  ⟨(ReceiverWorld.put m r.world).2, put_unbounded_maxsize m r⟩

theorem close_world (r : UnboundedReceiver α) :
    r.close.world = r.world.deliver true .sentinel :=
  congrArg Prod.snd (ReceiverWorld.close_unbounded r.unbounded)

theorem put_world_of_open {r : UnboundedReceiver α} (open_ : r.closed = false) (m : α) :
    (r.put m).world = r.world.deliver false (.message m) :=
  congrArg Prod.snd (ReceiverWorld.put_of_open open_ r.unbounded m)

/-- A closed receiver drops what it is handed. -/
theorem put_world_of_closed {r : UnboundedReceiver α} (closed : r.closed = true) (m : α) :
    (r.put m).world = r.world :=
  congrArg Prod.snd (ReceiverWorld.put_of_closed closed m)

/-- Neither call raises. -/
theorem close_returns (r : UnboundedReceiver α) :
    ReceiverWorld.close r.world = (.ok (), r.close.world) := by
  rw [close_world, ReceiverWorld.close_unbounded r.unbounded]

theorem put_returns (m : α) (r : UnboundedReceiver α) :
    ReceiverWorld.put m r.world = (.ok (), (r.put m).world) := by
  cases closed : r.closed with
  | true => rw [put_world_of_closed closed, ReceiverWorld.put_of_closed closed]
  | false => rw [put_world_of_open closed, ReceiverWorld.put_of_open closed r.unbounded]

@[simp] theorem new_closed : (new : UnboundedReceiver α).closed = false := rfl

@[simp] theorem close_closed (r : UnboundedReceiver α) : r.close.closed = true := by
  rw [closed, close_world]
  exact (ReceiverWorld.deliver_frame _ _ _).2.1

/-- An open receiver enqueues it. -/
theorem put_items_of_open {r : UnboundedReceiver α} (open_ : r.closed = false) (m : α) :
    (r.put m).items = r.items ++ [.message m] := by
  rw [items, put_world_of_open open_, (ReceiverWorld.deliver_frame _ _ _).1]
  rfl

end UnboundedReceiver

end OpenSomeIp
