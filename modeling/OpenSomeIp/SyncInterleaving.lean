import OpenSomeIp.Lib.History
import OpenSomeIp.Lib.Transition
import OpenSomeIp.Receiver

set_option autoImplicit false

namespace OpenSomeIp

/-- Where a thread stands: outside the receiver, in `put` past the test of the flag, in
`close` past the setting of the flag, in the timed `get` of `__next__`, or in `__next__`
after `queue.Empty`. -/
inductive SyncPc (α : Type) where
  | idle
  | putting (m : α)
  | closing
  | getting
  | timedOut

/-- The atomic steps of the threads on the sync side of a receiver. -/
inductive SyncAct (α : Type) where
  | callPut (thread : Nat) (m : α)
  | callClose (thread : Nat)
  | callNext (thread : Nat)
  | enqueue (thread : Nat)
  | dequeue (thread : Nat)
  | timeOut (thread : Nat)
  | readClosed (thread : Nat)
  deriving DecidableEq

/-- What the steps leave behind, in their order. The last two are the two ways in which
`__next__` raises `StopIteration`. -/
inductive SyncEvent (α : Type) where
  | closing
  | enqueued (item : Item α)
  | timedOut (thread : Nat)
  | returned (thread : Nat) (m : α)
  | sawSentinel (thread : Nat)
  | sawClosed (thread : Nat)
  deriving DecidableEq

structure SyncSystem (α : Type) where
  receiver : MessageReceiver α := {}
  pc : Nat → SyncPc α := fun _ => .idle
  log : List (SyncEvent α) := []

namespace SyncSystem

variable {α : Type}

def goto (thread : Nat) (pc : SyncPc α) (s : SyncSystem α) : SyncSystem α :=
  { s with pc := fun other => if other = thread then pc else s.pc other }

@[simp] theorem goto_self (thread : Nat) (pc : SyncPc α) (s : SyncSystem α) :
    (s.goto thread pc).pc thread = pc := if_pos rfl

theorem goto_of_ne {thread other : Nat} (ne : other ≠ thread) (pc : SyncPc α)
    (s : SyncSystem α) : (s.goto thread pc).pc other = s.pc other := if_neg ne

def record (e : SyncEvent α) (s : SyncSystem α) : SyncSystem α := { s with log := s.log ++ [e] }

def setItems (items : List (Item α)) (s : SyncSystem α) : SyncSystem α :=
  { s with receiver := { s.receiver with syncQueue := { s.receiver.syncQueue with items := items } } }

/-- The call `self._sync_queue.put_nowait(item)`; an item that a full queue refuses is gone. -/
def push (item : Item α) (s : SyncSystem α) : SyncSystem α :=
  match SyncQueue.putNowait item s.receiver.syncQueue with
  | (.ok (), q) => { s with receiver := { s.receiver with syncQueue := q } }.record (.enqueued item)
  | (.error _, _) => s

def step (s : SyncSystem α) : SyncAct α → Option (SyncSystem α)
  | .callPut thread m =>
      match s.pc thread with
      | .idle => some (if s.receiver.closed then s else s.goto thread (.putting m))
      | _ => none
  | .callClose thread =>
      match s.pc thread with
      | .idle =>
          some (({ s with receiver := { s.receiver with closed := true } }.record .closing).goto
            thread .closing)
      | _ => none
  | .callNext thread =>
      match s.pc thread with
      | .idle => some (s.goto thread .getting)
      | _ => none
  | .enqueue thread =>
      match s.pc thread with
      | .putting m => some ((s.push (.message m)).goto thread .idle)
      | .closing => some ((s.push .sentinel).goto thread .idle)
      | _ => none
  | .dequeue thread =>
      match s.pc thread, s.receiver.syncQueue.items with
      | .getting, .message m :: rest =>
          some (((s.setItems rest).record (.returned thread m)).goto thread .idle)
      | .getting, .sentinel :: rest =>
          some (((s.setItems rest).record (.sawSentinel thread)).goto thread .idle)
      | _, _ => none
  | .timeOut thread =>
      match s.pc thread, s.receiver.syncQueue.items with
      | .getting, [] => some ((s.record (.timedOut thread)).goto thread .timedOut)
      | _, _ => none
  | .readClosed thread =>
      match s.pc thread with
      | .timedOut =>
          some (if s.receiver.closed then (s.record (.sawClosed thread)).goto thread .idle
            else s.goto thread .getting)
      | _ => none

/-- What each step does, and where its thread stands before it. -/
inductive Moves (s : SyncSystem α) : SyncAct α → SyncSystem α → Prop
  | putDropped (thread : Nat) (m : α) (stands : s.pc thread = .idle)
      (closed : s.receiver.closed = true) : Moves s (.callPut thread m) s
  | putBegun (thread : Nat) (m : α) (stands : s.pc thread = .idle)
      (open_ : s.receiver.closed = false) :
      Moves s (.callPut thread m) (s.goto thread (.putting m))
  | closeBegun (thread : Nat) (stands : s.pc thread = .idle) :
      Moves s (.callClose thread)
        (({ s with receiver := { s.receiver with closed := true } }.record .closing).goto
          thread .closing)
  | nextBegun (thread : Nat) (stands : s.pc thread = .idle) :
      Moves s (.callNext thread) (s.goto thread .getting)
  | putEnqueues (thread : Nat) (m : α) (stands : s.pc thread = .putting m) :
      Moves s (.enqueue thread) ((s.push (.message m)).goto thread .idle)
  | closeEnqueues (thread : Nat) (stands : s.pc thread = .closing) :
      Moves s (.enqueue thread) ((s.push .sentinel).goto thread .idle)
  | returned (thread : Nat) (m : α) (rest : List (Item α)) (stands : s.pc thread = .getting)
      (head : s.receiver.syncQueue.items = .message m :: rest) :
      Moves s (.dequeue thread) (((s.setItems rest).record (.returned thread m)).goto thread .idle)
  | sawSentinel (thread : Nat) (rest : List (Item α)) (stands : s.pc thread = .getting)
      (head : s.receiver.syncQueue.items = .sentinel :: rest) :
      Moves s (.dequeue thread)
        (((s.setItems rest).record (.sawSentinel thread)).goto thread .idle)
  | timedOut (thread : Nat) (stands : s.pc thread = .getting)
      (empty : s.receiver.syncQueue.items = []) :
      Moves s (.timeOut thread) ((s.record (.timedOut thread)).goto thread .timedOut)
  | sawClosed (thread : Nat) (stands : s.pc thread = .timedOut)
      (closed : s.receiver.closed = true) :
      Moves s (.readClosed thread) ((s.record (.sawClosed thread)).goto thread .idle)
  | sawOpen (thread : Nat) (stands : s.pc thread = .timedOut)
      (open_ : s.receiver.closed = false) :
      Moves s (.readClosed thread) (s.goto thread .getting)

theorem moves_of_step {s t : SyncSystem α} {a : SyncAct α} (success : s.step a = some t) :
    Moves s a t := by
  cases a with
  | callPut thread m =>
      simp only [step] at success
      split at success
      · rename_i stands
        obtain rfl := Option.some.inj success
        cases closed : s.receiver.closed with
        | true => exact .putDropped thread m stands closed
        | false => exact .putBegun thread m stands closed
      · cases success
  | callClose thread =>
      simp only [step] at success
      split at success
      · rename_i stands
        obtain rfl := Option.some.inj success
        exact .closeBegun thread stands
      · cases success
  | callNext thread =>
      simp only [step] at success
      split at success
      · rename_i stands
        obtain rfl := Option.some.inj success
        exact .nextBegun thread stands
      · cases success
  | enqueue thread =>
      simp only [step] at success
      split at success
      · rename_i m stands
        obtain rfl := Option.some.inj success
        exact .putEnqueues thread m stands
      · rename_i stands
        obtain rfl := Option.some.inj success
        exact .closeEnqueues thread stands
      · cases success
  | dequeue thread =>
      simp only [step] at success
      split at success
      · rename_i m rest stands head
        obtain rfl := Option.some.inj success
        exact .returned thread m rest stands head
      · rename_i rest stands head
        obtain rfl := Option.some.inj success
        exact .sawSentinel thread rest stands head
      · cases success
  | timeOut thread =>
      simp only [step] at success
      split at success
      · rename_i stands empty
        obtain rfl := Option.some.inj success
        exact .timedOut thread stands empty
      · cases success
  | readClosed thread =>
      simp only [step] at success
      split at success
      · rename_i stands
        obtain rfl := Option.some.inj success
        cases closed : s.receiver.closed with
        | true => exact .sawClosed thread stands closed
        | false => exact .sawOpen thread stands closed
      · cases success

end SyncSystem

/-- The items that entered the queue. -/
def enqueuedItems {α : Type} (log : List (SyncEvent α)) : List (Item α) :=
  log.filterMap fun
    | .enqueued item => some item
    | _ => none

/-- The items that left the queue. -/
def dequeuedItems {α : Type} (log : List (SyncEvent α)) : List (Item α) :=
  log.filterMap fun
    | .returned _ m => some (.message m)
    | .sawSentinel _ => some .sentinel
    | _ => none

namespace SyncEvent

variable {α : Type}

/-- The consumer that an event belongs to. -/
def consumer : SyncEvent α → Option Nat
  | .closing => none
  | .enqueued _ => none
  | .timedOut thread => some thread
  | .returned thread _ => some thread
  | .sawSentinel thread => some thread
  | .sawClosed thread => some thread

/-- Whether a `__next__` raised `StopIteration`. -/
def isStop : SyncEvent α → Bool
  | .sawSentinel _ => true
  | .sawClosed _ => true
  | _ => false

/-- The thread timed out, and no event of it came after that. -/
def TimedOut (thread : Nat) (log : List (SyncEvent α)) : Prop :=
  ∃ front mid, log = front ++ .timedOut thread :: mid ∧ ∀ e ∈ mid, e.consumer ≠ some thread

/-- How an event depends on the events before it: the queue is first in first out, a
time-out meets an empty queue, a sentinel comes after the flag, and the flag is read as set
only after it was set and only by a thread whose `get` timed out. -/
def fits (before : List (SyncEvent α)) : SyncEvent α → Prop
  | .closing => True
  | .enqueued item => item = .sentinel → .closing ∈ before
  | .timedOut _ => dequeuedItems before = enqueuedItems before
  | .returned _ m => dequeuedItems before ++ [.message m] <+: enqueuedItems before
  | .sawSentinel _ => dequeuedItems before ++ [.sentinel] <+: enqueuedItems before
  | .sawClosed thread => .closing ∈ before ∧ TimedOut thread before

end SyncEvent

namespace SyncSystem

variable {α : Type}

/-- What holds between the steps of any number of threads. -/
structure Coherent (s : SyncSystem α) : Prop where
  queue : dequeuedItems s.log ++ s.receiver.syncQueue.items = enqueuedItems s.log
  flag : s.receiver.closed = true ↔ .closing ∈ s.log
  closing : ∀ thread, s.pc thread = .closing → .closing ∈ s.log
  timedOut : ∀ thread, s.pc thread = .timedOut → SyncEvent.TimedOut thread s.log
  history : History.Fits SyncEvent.fits s.log

theorem coherent_init : Coherent ({} : SyncSystem α) where
  queue := rfl
  flag := by simp only [Bool.false_eq_true, List.not_mem_nil]
  closing := by
    intro thread stands
    cases stands
  timedOut := by
    intro thread stands
    cases stands
  history := History.fits_nil

theorem timedOut_snoc {thread : Nat} {log : List (SyncEvent α)} {e : SyncEvent α}
    (timedOut : SyncEvent.TimedOut thread log) (other : e.consumer ≠ some thread) :
    SyncEvent.TimedOut thread (log ++ [e]) := by
  rcases timedOut with ⟨front, mid, rfl, quiet⟩
  refine ⟨front, mid ++ [e], by rw [List.append_assoc, List.cons_append], ?_⟩
  intro x member
  rcases List.mem_append.mp member with old | new
  · exact quiet x old
  · rw [List.mem_singleton.mp new]
    exact other

theorem coherent_goto {s : SyncSystem α} (coherent : s.Coherent) {thread : Nat} {pc : SyncPc α}
    (closing : pc = .closing → .closing ∈ s.log)
    (timedOut : pc = .timedOut → SyncEvent.TimedOut thread s.log) :
    (s.goto thread pc).Coherent := by
  refine { coherent with closing := ?_, timedOut := ?_ }
  · intro other stands
    by_cases same : other = thread
    · rw [same, goto_self] at stands
      exact closing stands
    · rw [goto_of_ne same] at stands
      exact coherent.closing other stands
  · intro other stands
    by_cases same : other = thread
    · rw [same, goto_self] at stands
      rw [same]
      exact timedOut stands
    · rw [goto_of_ne same] at stands
      exact coherent.timedOut other stands

theorem coherent_record {s : SyncSystem α} (coherent : s.Coherent) (e : SyncEvent α)
    {receiver : MessageReceiver α} (fits : e.fits s.log)
    (queue : dequeuedItems (s.log ++ [e]) ++ receiver.syncQueue.items =
      enqueuedItems (s.log ++ [e]))
    (flag : receiver.closed = true ↔ .closing ∈ s.log ++ [e])
    (others : ∀ thread, s.pc thread = .timedOut → e.consumer ≠ some thread) :
    Coherent { s with receiver := receiver, log := s.log ++ [e] } where
  queue := queue
  flag := flag
  closing := by
    intro thread stands
    exact List.mem_append_left _ (coherent.closing thread stands)
  timedOut := by
    intro thread stands
    exact timedOut_snoc (coherent.timedOut thread stands) (others thread stands)
  history := History.fits_snoc coherent.history fits

@[simp] theorem enqueuedItems_append (front back : List (SyncEvent α)) :
    enqueuedItems (front ++ back) = enqueuedItems front ++ enqueuedItems back :=
  List.filterMap_append

@[simp] theorem dequeuedItems_append (front back : List (SyncEvent α)) :
    dequeuedItems (front ++ back) = dequeuedItems front ++ dequeuedItems back :=
  List.filterMap_append

/-- An event that moves no item and sets no flag. -/
theorem coherent_note {s : SyncSystem α} (coherent : s.Coherent) (e : SyncEvent α)
    (fits : e.fits s.log) (takes : dequeuedItems [e] = []) (adds : enqueuedItems [e] = [])
    (other : e ≠ .closing)
    (others : ∀ thread, s.pc thread = .timedOut → e.consumer ≠ some thread) :
    (s.record e).Coherent := by
  apply coherent_record coherent e fits
  · rw [dequeuedItems_append, enqueuedItems_append, takes, adds, List.append_nil, List.append_nil]
    exact coherent.queue
  · rw [coherent.flag, List.mem_append, List.mem_singleton]
    constructor
    · exact .inl
    · intro member
      rcases member with old | same
      · exact old
      · exact absurd same.symm other
  · exact others

theorem coherent_push {s : SyncSystem α} (coherent : s.Coherent) (item : Item α)
    (marked : item = .sentinel → .closing ∈ s.log) : (s.push item).Coherent := by
  have fits : (SyncEvent.enqueued item).fits s.log := marked
  unfold push SyncQueue.putNowait
  simp only [Method.bind_apply, Method.get_apply]
  by_cases full : s.receiver.syncQueue.full = true
  · simp only [full, ↓reduceIte, Method.raise_apply]
    exact coherent
  · simp only [full, Bool.false_eq_true, ↓reduceIte, Method.modify_apply]
    apply coherent_record coherent (.enqueued item) fits
    · have queue := coherent.queue
      simp only [dequeuedItems_append, enqueuedItems_append, SyncQueue.push, ← queue]
      simp only [dequeuedItems, enqueuedItems, List.filterMap_cons, List.filterMap_nil,
        List.append_assoc, List.append_nil]
    · rw [coherent.flag]
      simp only [List.mem_append, List.mem_singleton, reduceCtorEq, or_false]
    · intro thread _
      exact nofun

/-- A consumer that takes the head of the queue keeps the log in step with it. -/
theorem coherent_dequeue {s : SyncSystem α} (coherent : s.Coherent) (e : SyncEvent α)
    {item : Item α} {rest : List (Item α)} (head : s.receiver.syncQueue.items = item :: rest)
    (takes : dequeuedItems [e] = [item]) (adds : enqueuedItems [e] = []) (other : e ≠ .closing)
    (fits : dequeuedItems s.log ++ [item] <+: enqueuedItems s.log → e.fits s.log)
    (others : ∀ thread, s.pc thread = .timedOut → e.consumer ≠ some thread) :
    ((s.setItems rest).record e).Coherent := by
  have queue := coherent.queue
  rw [head] at queue
  apply coherent_record coherent e
  · apply fits
    exact ⟨rest, by rw [← queue, List.append_assoc, List.singleton_append]⟩
  · rw [dequeuedItems_append, enqueuedItems_append, takes, adds, List.append_nil, ← queue,
      List.append_assoc]
    rfl
  · rw [List.mem_append, List.mem_singleton]
    constructor
    · intro set
      exact .inl (coherent.flag.mp set)
    · intro member
      rcases member with old | same
      · exact coherent.flag.mpr old
      · exact absurd same.symm other
  · exact others

/-- A `close` that begins sets the flag and says so. -/
theorem coherent_close {s : SyncSystem α} (coherent : s.Coherent) :
    Coherent ({ s with receiver := { s.receiver with closed := true } }.record .closing) := by
  apply coherent_record coherent .closing trivial
  · rw [dequeuedItems_append, enqueuedItems_append]
    exact (congrArg (· ++ _) (List.append_nil _)).trans
      (coherent.queue.trans (List.append_nil _).symm)
  · simp only [List.mem_append, List.mem_singleton, or_true]
  · intro other _
    exact nofun

/-- Every step of every thread keeps the system coherent. -/
theorem coherent_step (s : SyncSystem α) (a : SyncAct α) (t : SyncSystem α)
    (coherent : s.Coherent) (success : s.step a = some t) : t.Coherent := by
  have apart {thread other : Nat} (stands : s.pc thread = .getting)
      (waits : s.pc other = .timedOut) : some thread ≠ some other := by
    intro same
    rw [← Option.some.inj same, stands] at waits
    cases waits
  cases moves_of_step success with
  | putDropped thread m stands closed => exact coherent
  | putBegun thread m stands open_ => exact coherent_goto coherent nofun nofun
  | closeBegun thread stands =>
      apply coherent_goto (coherent_close coherent)
      · intro _
        exact List.mem_append_right _ List.mem_cons_self
      · exact nofun
  | nextBegun thread stands => exact coherent_goto coherent nofun nofun
  | putEnqueues thread m stands =>
      exact coherent_goto (coherent_push coherent (.message m) nofun) nofun nofun
  | closeEnqueues thread stands =>
      have marked := coherent.closing thread stands
      exact coherent_goto (coherent_push coherent .sentinel fun _ => marked) nofun nofun
  | returned thread m rest stands head =>
      have taken := coherent_dequeue coherent (.returned thread m) head rfl rfl nofun
        (fun fits => fits) fun other waits => apart stands waits
      exact coherent_goto taken nofun nofun
  | sawSentinel thread rest stands head =>
      have taken := coherent_dequeue coherent (.sawSentinel thread) head rfl rfl nofun
        (fun fits => fits) fun other waits => apart stands waits
      exact coherent_goto taken nofun nofun
  | timedOut thread stands empty =>
      have queue := coherent.queue
      rw [empty, List.append_nil] at queue
      have logged : (s.record (.timedOut thread)).Coherent :=
        coherent_note coherent (.timedOut thread) queue rfl rfl nofun
          fun other waits => apart stands waits
      apply coherent_goto logged
      · exact nofun
      · intro _
        exact ⟨s.log, [], rfl, fun x member => absurd member List.not_mem_nil⟩
  | sawClosed thread stands closed =>
      have left : (s.goto thread .idle).Coherent := coherent_goto coherent nofun nofun
      show ((s.goto thread .idle).record (.sawClosed thread)).Coherent
      apply coherent_note left (.sawClosed thread) _ rfl rfl nofun
      · intro other waits same
        rw [← Option.some.inj same, goto_self] at waits
        cases waits
      · exact ⟨coherent.flag.mp closed, coherent.timedOut thread stands⟩
  | sawOpen thread stands open_ => exact coherent_goto coherent nofun nofun

theorem coherent_run {acts : List (SyncAct α)} {s : SyncSystem α}
    (ran : Transition.run step {} acts = some s) : s.Coherent :=
  Transition.invariant_run coherent_step coherent_init ran

/-- A `put` that nobody interrupts has the effect of the method on the sync side. -/
theorem put_uninterrupted {s : SyncSystem α} {w : ReceiverWorld α} {thread : Nat}
    (unbounded : s.receiver.syncQueue.maxsize = 0) (same : w.receiver = s.receiver)
    (idle : s.pc thread = .idle) (m : α) :
    ∃ t, Transition.run step s (.callPut thread m ::
        if s.receiver.closed then [] else [.enqueue thread]) = some t ∧
      t.receiver.syncQueue = (w.put m).2.receiver.syncQueue ∧
      t.receiver.closed = (w.put m).2.receiver.closed := by
  by_cases closed : s.receiver.closed = true
  · have first : s.step (.callPut thread m) = some s := by
      simp only [step, idle, closed, ↓reduceIte]
    refine ⟨s, ?_, ?_⟩
    · rw [closed, if_pos rfl, Transition.run_cons_of_some first]
      rfl
    · rw [ReceiverWorld.put_of_closed (same ▸ closed), same]
      exact ⟨rfl, rfl⟩
  · have first : s.step (.callPut thread m) = some (s.goto thread (.putting m)) := by
      simp only [step, idle, closed, Bool.false_eq_true, ↓reduceIte]
    have second : (s.goto thread (.putting m)).step (.enqueue thread) =
        some (((s.goto thread (.putting m)).push (.message m)).goto thread .idle) := by
      simp only [step, goto_self]
    have open_ : w.receiver.closed = false := by
      rw [same]
      exact Bool.eq_false_iff.mpr closed
    obtain ⟨syncQueue, flag, _⟩ := ReceiverWorld.deliver_frame w false (.message m)
    have room : (s.goto thread (.putting m)).receiver.syncQueue.maxsize = 0 := unbounded
    have ran : Transition.run step s (.callPut thread m :: [.enqueue thread]) = _ :=
      (Transition.run_cons_of_some first _).trans (Transition.run_cons_of_some second [])
    rw [if_neg closed]
    refine ⟨_, ran, ?_, ?_⟩
    · rw [ReceiverWorld.put_of_open open_ (same ▸ unbounded), syncQueue, same, push,
        SyncQueue.putNowait_unbounded room]
      rfl
    · rw [ReceiverWorld.put_of_open open_ (same ▸ unbounded), flag, push,
        SyncQueue.putNowait_unbounded room]
      exact Bool.eq_false_iff.mpr closed

/-- A `close` that nobody interrupts has the effect of the method on the sync side. -/
theorem close_uninterrupted {s : SyncSystem α} {w : ReceiverWorld α} {thread : Nat}
    (unbounded : s.receiver.syncQueue.maxsize = 0) (same : w.receiver = s.receiver)
    (idle : s.pc thread = .idle) :
    ∃ t, Transition.run step s [.callClose thread, .enqueue thread] = some t ∧
      t.receiver.syncQueue = w.close.2.receiver.syncQueue ∧
      t.receiver.closed = w.close.2.receiver.closed := by
  let flagged : SyncSystem α :=
    ({ s with receiver := { s.receiver with closed := true } }.record .closing).goto thread .closing
  have first : s.step (.callClose thread) = some flagged := by
    simp only [step, idle, flagged]
  have second : flagged.step (.enqueue thread) =
      some ((flagged.push .sentinel).goto thread .idle) := by
    simp only [step, flagged, goto_self]
  have room : flagged.receiver.syncQueue.maxsize = 0 := unbounded
  obtain ⟨syncQueue, flag, _⟩ := ReceiverWorld.deliver_frame w true .sentinel
  have ran : Transition.run step s [.callClose thread, .enqueue thread] = _ :=
    (Transition.run_cons_of_some first _).trans (Transition.run_cons_of_some second [])
  refine ⟨_, ran, ?_, ?_⟩
  · rw [ReceiverWorld.close_unbounded (same ▸ unbounded), syncQueue, same, push,
      SyncQueue.putNowait_unbounded room]
    rfl
  · rw [ReceiverWorld.close_unbounded (same ▸ unbounded), flag, push,
      SyncQueue.putNowait_unbounded room]
    rfl

/-- What a turn of `__next__` is in steps: a `get` that takes the head, or a time-out and
a look at the flag. -/
def turn (thread : Nat) (items : List (Item α)) : List (SyncAct α) :=
  match items with
  | [] => [.timeOut thread, .readClosed thread]
  | _ :: _ => [.dequeue thread]

/-- A turn of `__next__` that nobody interrupts has the effect and the outcome of the
method. -/
theorem next_uninterrupted {s : SyncSystem α} {w : ReceiverWorld α} {thread : Nat}
    (same : w.receiver = s.receiver) (waits : s.pc thread = .getting) :
    ∃ t, Transition.run step s (turn thread s.receiver.syncQueue.items) = some t ∧
      t.receiver = w.nextTurn.2.receiver ∧
      match w.nextTurn.1 with
      | .ok (some m) => t.log = s.log ++ [.returned thread m]
      | .ok none => t.log = s.log ++ [.timedOut thread] ∧ t.pc thread = .getting
      | .error _ => ∃ e : SyncEvent α, e.isStop = true ∧ e ∈ t.log := by
  cases queue : s.receiver.syncQueue.items with
  | nil =>
      have first : s.step (.timeOut thread) =
          some ((s.record (.timedOut thread)).goto thread .timedOut) := by
        simp only [step, waits, queue]
      by_cases closed : s.receiver.closed = true
      · have second : ((s.record (.timedOut thread)).goto thread .timedOut).step
            (.readClosed thread) = some ((((s.record (.timedOut thread)).goto thread
              .timedOut).record (.sawClosed thread)).goto thread .idle) := by
          have set : ((s.record (.timedOut thread)).goto thread .timedOut).receiver.closed = true :=
            closed
          simp only [step, goto_self, set, ↓reduceIte]
        have ran : Transition.run step s [.timeOut thread, .readClosed thread] = _ :=
          (Transition.run_cons_of_some first _).trans (Transition.run_cons_of_some second [])
        refine ⟨_, ran, ?_⟩
        simp only [ReceiverWorld.nextTurn, Method.bind_apply, Method.get_apply, same, queue,
          closed, ↓reduceIte, Method.raise_apply]
        exact ⟨rfl, .sawClosed thread, rfl, List.mem_append_right _ List.mem_cons_self⟩
      · have second : ((s.record (.timedOut thread)).goto thread .timedOut).step
            (.readClosed thread) = some (((s.record (.timedOut thread)).goto thread
              .timedOut).goto thread .getting) := by
          have unset : ((s.record (.timedOut thread)).goto thread .timedOut).receiver.closed =
              false := Bool.eq_false_iff.mpr closed
          simp only [step, goto_self, unset, Bool.false_eq_true, ↓reduceIte]
        have ran : Transition.run step s [.timeOut thread, .readClosed thread] = _ :=
          (Transition.run_cons_of_some first _).trans (Transition.run_cons_of_some second [])
        refine ⟨_, ran, ?_⟩
        simp only [ReceiverWorld.nextTurn, Method.bind_apply, Method.get_apply, same, queue,
          closed, Bool.false_eq_true, ↓reduceIte, Method.pure_apply]
        exact ⟨rfl, rfl, goto_self thread .getting _⟩
  | cons item rest =>
      cases item with
      | message m =>
          have first : s.step (.dequeue thread) =
              some (((s.setItems rest).record (.returned thread m)).goto thread .idle) := by
            simp only [step, waits, queue]
          refine ⟨_, Transition.run_cons_of_some first [], ?_⟩
          simp only [ReceiverWorld.nextTurn, Method.bind_apply, Method.get_apply, same, queue,
            Method.modify_apply, Method.pure_apply]
          exact ⟨rfl, rfl⟩
      | sentinel =>
          have first : s.step (.dequeue thread) =
              some (((s.setItems rest).record (.sawSentinel thread)).goto thread .idle) := by
            simp only [step, waits, queue]
          refine ⟨_, Transition.run_cons_of_some first [], ?_⟩
          simp only [ReceiverWorld.nextTurn, Method.bind_apply, Method.get_apply, same, queue,
            Method.modify_apply, Method.raise_apply]
          exact ⟨rfl, .sawSentinel thread, rfl, List.mem_append_right _ List.mem_cons_self⟩

end SyncSystem

end OpenSomeIp
