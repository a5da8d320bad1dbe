import OpenSomeIp.SyncClose

set_option autoImplicit false

open scoped List

namespace OpenSomeIp

variable {α : Type}

/-- The messages that `__next__` calls returned, to whichever consumer, by their dequeue. -/
def returnedMessages (log : List (SyncEvent α)) : List α :=
  log.filterMap fun
    | .returned _ m => some m
    | _ => none

/-- The messages that entered the queue, by their enqueue. -/
def enqueuedMessages (log : List (SyncEvent α)) : List α := messagesOf (enqueuedItems log)

theorem messagesOf_prefix {xs ys : List (Item α)} (inside : xs <+: ys) :
    messagesOf xs <+: messagesOf ys := by
  obtain ⟨rest, rfl⟩ := inside
  rw [messagesOf_append]
  exact List.prefix_append _ _

theorem messagesOf_dequeuedItems (log : List (SyncEvent α)) :
    messagesOf (dequeuedItems log) = returnedMessages log := by
  rw [messagesOf, dequeuedItems, List.filterMap_filterMap, returnedMessages]
  congr 1
  funext e
  cases e <;> rfl

namespace SyncEvent

/-- The log with the event in it begins with the part up to the first such event. -/
theorem prefix_of_mem {log front rest before after : List (SyncEvent α)} {e : SyncEvent α}
    (whole : log = front ++ rest) (inside : e ∈ front) (split : log = before ++ e :: after)
    (first : e ∉ before) : before <+: front := by
  have within : before <+: front ++ rest := ⟨e :: after, by rw [← whole, split]⟩
  rcases List.prefix_or_prefix_of_prefix within (List.prefix_append front rest) with short | long
  · exact short
  · exact absurd (long.subset inside) first

/-- A consumer that meets a sentinel comes behind every message from before the first one. -/
theorem not_overtaken {log front back before after : List (SyncEvent α)} {thread : Nat}
    (history : History.Fits fits log) (whole : log = front ++ .sawSentinel thread :: back)
    (split : log = before ++ .enqueued .sentinel :: after)
    (first : .enqueued .sentinel ∉ before) :
    enqueuedMessages before <+: returnedMessages front := by
  have taken : dequeuedItems front ++ [.sentinel] <+: enqueuedItems front :=
    history front _ back whole
  have entered : .sentinel ∈ enqueuedItems front :=
    taken.subset (List.mem_append_right _ List.mem_cons_self)
  obtain ⟨mid, same⟩ := prefix_of_mem whole (mem_enqueuedItems.mp entered) split first
  have none_yet : .sentinel ∉ enqueuedItems before := by
    intro member
    exact first (mem_enqueuedItems.mp member)
  rw [← same, SyncSystem.enqueuedItems_append, same] at taken
  rw [← messagesOf_dequeuedItems]
  exact messagesOf_prefix (prefix_of_stop taken none_yet)

/-- Either way to a `StopIteration` leads over a `close` that has begun. -/
theorem closing_of_stop {log front back : List (SyncEvent α)} {e : SyncEvent α}
    (history : History.Fits fits log) (whole : log = front ++ e :: back)
    (stop : e.isStop = true) : .closing ∈ front := by
  have fitted := history front e back whole
  cases e with
  | sawClosed thread => exact fitted.1
  | sawSentinel thread =>
      have taken : dequeuedItems front ++ [.sentinel] <+: enqueuedItems front := fitted
      have entered : .sentinel ∈ enqueuedItems front :=
        taken.subset (List.mem_append_right _ List.mem_cons_self)
      by_contra open_
      exact sentinel_not_mem history whole open_ entered
  | _ => cases stop

end SyncEvent

namespace SyncSystem

/-! ### Who enqueued what -/

/-- The message that a step moves into the queue, with its producer. -/
def delivery (s : SyncSystem α) : SyncAct α → List (Nat × α)
  | .enqueue thread =>
      match s.pc thread with
      | .putting m => [(thread, m)]
      | _ => []
  | _ => []

/-- The messages that a run moves into the queue, with their producers. -/
def deliveries : SyncSystem α → List (SyncAct α) → List (Nat × α)
  | _, [] => []
  | s, a :: rest =>
      s.delivery a ++
        match s.step a with
        | some t => deliveries t rest
        | none => []

/-- The messages of a producer's `put` calls, in their order. -/
def putCalls (thread : Nat) (acts : List (SyncAct α)) : List α :=
  acts.filterMap fun
    | .callPut other m => if other = thread then some m else none
    | _ => none

def deliveredBy (thread : Nat) (sent : List (Nat × α)) : List α :=
  (sent.filter fun entry => entry.1 == thread).map Prod.snd

/-- What a producer is about to enqueue. -/
def inHand (thread : Nat) (s : SyncSystem α) : List α :=
  match s.pc thread with
  | .putting m => [m]
  | _ => []

theorem deliveredBy_append (thread : Nat) (front back : List (Nat × α)) :
    deliveredBy thread (front ++ back) = deliveredBy thread front ++ deliveredBy thread back := by
  rw [deliveredBy, List.filter_append, List.map_append]
  rfl

theorem putCalls_cons (thread : Nat) (a : SyncAct α) (rest : List (SyncAct α)) :
    putCalls thread (a :: rest) = putCalls thread [a] ++ putCalls thread rest := by
  rw [putCalls, putCalls, putCalls, ← List.filterMap_append]
  rfl

theorem deliveries_cons {s t : SyncSystem α} {a : SyncAct α} (stepped : s.step a = some t)
    (rest : List (SyncAct α)) :
    deliveries s (a :: rest) = s.delivery a ++ deliveries t rest := by
  rw [deliveries, stepped]

/-- Where the queue is unbounded, everything that is pushed enters it. -/
theorem push_of_unbounded {s : SyncSystem α} (unbounded : s.receiver.syncQueue.maxsize = 0)
    (item : Item α) :
    (s.push item).log = s.log ++ [.enqueued item] ∧
      (s.push item).receiver.syncQueue.maxsize = 0 ∧ (s.push item).pc = s.pc := by
  rw [push, SyncQueue.putNowait_unbounded unbounded]
  exact ⟨rfl, unbounded, rfl⟩

theorem enqueuedMessages_append (front back : List (SyncEvent α)) :
    enqueuedMessages (front ++ back) = enqueuedMessages front ++ enqueuedMessages back := by
  rw [enqueuedMessages, enqueuedItems_append, messagesOf_append]
  rfl

/-- A thread that goes anywhere but into `put` has nothing in hand there. -/
theorem inHand_goto {s u : SyncSystem α} (mover : Nat) (pc : SyncPc α) (same : u.pc = s.pc)
    (empty : ∀ m, pc ≠ .putting m) (thread : Nat) :
    inHand thread (u.goto mover pc) <+ inHand thread s := by
  by_cases mine : thread = mover
  · rw [inHand, mine, goto_self]
    cases pc with
    | putting m => exact absurd rfl (empty m)
    | _ => exact List.nil_sublist _
  · rw [inHand, goto_of_ne mine, same]
    exact List.Sublist.refl _

/-- What a step does to the messages: the queue takes in what the step delivers, and nothing is
delivered but what the producer had in hand. -/
structure Delivers (s : SyncSystem α) (a : SyncAct α) (t : SyncSystem α) : Prop where
  unbounded : t.receiver.syncQueue.maxsize = 0
  entered : enqueuedMessages t.log = enqueuedMessages s.log ++ (s.delivery a).map Prod.snd
  hands : ∀ thread, deliveredBy thread (s.delivery a) ++ inHand thread t <+
    inHand thread s ++ putCalls thread [a]

/-- A step that delivers nothing, and logs at most what is no message that entered. -/
theorem delivers_quiet {s u : SyncSystem α} {a : SyncAct α} (mover : Nat) (pc : SyncPc α)
    (none_ : s.delivery a = []) (unbounded : u.receiver.syncQueue.maxsize = 0)
    (same : u.pc = s.pc) (empty : ∀ m, pc ≠ .putting m)
    (entered : enqueuedMessages u.log = enqueuedMessages s.log) :
    Delivers s a (u.goto mover pc) where
  unbounded := unbounded
  entered := by
    rw [none_]
    exact entered.trans (List.append_nil _).symm
  hands := by
    intro thread
    rw [none_]
    exact (inHand_goto mover pc same empty thread).trans (List.sublist_append_left _ _)

theorem enqueuedMessages_snoc (log : List (SyncEvent α)) {e : SyncEvent α}
    (alone : enqueuedMessages [e] = []) :
    enqueuedMessages (log ++ [e]) = enqueuedMessages log := by
  rw [enqueuedMessages_append, alone, List.append_nil]

/-- The producer that begins a `put` has its message in hand. -/
theorem delivers_putBegun {s : SyncSystem α} {mover : Nat} (m : α)
    (unbounded : s.receiver.syncQueue.maxsize = 0) (idle : s.pc mover = .idle) :
    Delivers s (.callPut mover m) (s.goto mover (.putting m)) where
  unbounded := unbounded
  entered := (List.append_nil _).symm
  hands := by
    intro thread
    by_cases mine : thread = mover
    · rw [mine, inHand, goto_self, inHand, idle]
      simp [delivery, deliveredBy, putCalls]
    · have still : inHand thread (s.goto mover (.putting m)) = inHand thread s := by
        rw [inHand, goto_of_ne mine]
        rfl
      rw [still]
      exact List.sublist_append_left _ _

/-- The producer that enqueues hands over what it had. -/
theorem delivers_putEnqueues {s : SyncSystem α} {mover : Nat} {m : α}
    (unbounded : s.receiver.syncQueue.maxsize = 0) (stands : s.pc mover = .putting m) :
    Delivers s (.enqueue mover) ((s.push (.message m)).goto mover .idle) := by
  obtain ⟨logged, room, same⟩ := push_of_unbounded unbounded (.message m)
  have sent : s.delivery (.enqueue mover) = [(mover, m)] := by
    simp only [delivery, stands]
  refine ⟨room, ?_, fun thread => ?_⟩
  · have entered : ((s.push (.message m)).goto mover .idle).log =
        s.log ++ [.enqueued (.message m)] := logged
    rw [sent, entered, enqueuedMessages_append]
    rfl
  · rw [sent]
    by_cases mine : thread = mover
    · rw [mine, inHand, goto_self, inHand, stands]
      simp [deliveredBy, putCalls]
    · have other : (mover == thread) = false := beq_false_of_ne (Ne.symm mine)
      have none_ : deliveredBy thread [(mover, m)] = [] := by
        simp only [deliveredBy, List.filter_cons, other, Bool.false_eq_true, ↓reduceIte,
          List.filter_nil, List.map_nil]
      rw [none_, List.nil_append]
      exact (inHand_goto mover .idle same nofun thread).trans (List.sublist_append_left _ _)

theorem step_delivers {s t : SyncSystem α} {a : SyncAct α}
    (unbounded : s.receiver.syncQueue.maxsize = 0) (stepped : s.step a = some t) :
    Delivers s a t := by
  cases moves_of_step stepped with
  | putDropped mover m stands closed =>
      refine ⟨unbounded, (List.append_nil _).symm, fun thread => ?_⟩
      exact List.sublist_append_left _ _
  | putBegun mover m stands open_ => exact delivers_putBegun m unbounded stands
  | closeBegun mover stands =>
      exact delivers_quiet mover .closing rfl unbounded rfl nofun (enqueuedMessages_snoc _ rfl)
  | nextBegun mover stands => exact delivers_quiet mover .getting rfl unbounded rfl nofun rfl
  | putEnqueues mover m stands => exact delivers_putEnqueues unbounded stands
  | closeEnqueues mover stands =>
      obtain ⟨logged, room, same⟩ := push_of_unbounded unbounded (.sentinel)
      have sent : s.delivery (.enqueue mover) = [] := by
        simp only [delivery, stands]
      apply delivers_quiet mover .idle sent room same nofun
      rw [logged]
      exact enqueuedMessages_snoc _ rfl
  | returned mover m rest stands head =>
      exact delivers_quiet mover .idle rfl unbounded rfl nofun (enqueuedMessages_snoc _ rfl)
  | sawSentinel mover rest stands head =>
      exact delivers_quiet mover .idle rfl unbounded rfl nofun (enqueuedMessages_snoc _ rfl)
  | timedOut mover stands empty =>
      exact delivers_quiet mover .timedOut rfl unbounded rfl nofun (enqueuedMessages_snoc _ rfl)
  | sawClosed mover stands closed =>
      exact delivers_quiet mover .idle rfl unbounded rfl nofun (enqueuedMessages_snoc _ rfl)
  | sawOpen mover stands open_ => exact delivers_quiet mover .getting rfl unbounded rfl nofun rfl

/-- A whole run: the enqueued messages are those of the producers, and each producer's are in
the order of its calls. -/
theorem run_delivers {acts : List (SyncAct α)} {s t : SyncSystem α}
    (unbounded : s.receiver.syncQueue.maxsize = 0) (ran : Transition.run step s acts = some t) :
    enqueuedMessages t.log = enqueuedMessages s.log ++ (deliveries s acts).map Prod.snd ∧
      ∀ thread, deliveredBy thread (deliveries s acts) <+
        inHand thread s ++ putCalls thread acts := by
  induction acts generalizing s with
  | nil =>
      obtain rfl := Option.some.inj ran
      exact ⟨(List.append_nil _).symm, fun thread => List.nil_sublist _⟩
  | cons a rest ih =>
      obtain ⟨middle, stepped, ran⟩ := Transition.run_cons_eq_some ran
      obtain ⟨room, entered, hands⟩ : Delivers s a middle := step_delivers unbounded stepped
      obtain ⟨all, order⟩ := ih room ran
      rw [deliveries_cons stepped]
      constructor
      · rw [all, entered, List.map_append, List.append_assoc]
      · intro thread
        rw [deliveredBy_append, putCalls_cons, ← List.append_assoc]
        calc deliveredBy thread (s.delivery a) ++ deliveredBy thread (deliveries middle rest)
            <+ deliveredBy thread (s.delivery a) ++
                (inHand thread middle ++ putCalls thread rest) :=
              (List.Sublist.refl _).append (order thread)
          _ = deliveredBy thread (s.delivery a) ++ inHand thread middle ++
                putCalls thread rest := (List.append_assoc _ _ _).symm
          _ <+ inHand thread s ++ putCalls thread [a] ++ putCalls thread rest :=
              (hands thread).append (List.Sublist.refl _)

/-- Whatever the interleaving, the sync side delivers first in first out and at most once, no
sentinel overtakes what was enqueued before the first of them, and `StopIteration` needs a
`close`. -/
theorem sync_fifo {acts : List (SyncAct α)} {s : SyncSystem α}
    (ran : Transition.run step {} acts = some s) :
    returnedMessages s.log <+: enqueuedMessages s.log ∧
      enqueuedMessages s.log = (deliveries {} acts).map Prod.snd ∧
      (∀ thread, deliveredBy thread (deliveries {} acts) <+ putCalls thread acts) ∧
      (∀ front thread back before after, s.log = front ++ .sawSentinel thread :: back →
        s.log = before ++ .enqueued .sentinel :: after → .enqueued .sentinel ∉ before →
          enqueuedMessages before <+: returnedMessages front) ∧
      ∀ front e back, s.log = front ++ e :: back → e.isStop = true → .closing ∈ front := by
  have coherent := coherent_run ran
  have unbounded : ({} : SyncSystem α).receiver.syncQueue.maxsize = 0 := rfl
  obtain ⟨entered, order⟩ := run_delivers unbounded ran
  refine ⟨?_, entered, order, ?_, ?_⟩
  · rw [← messagesOf_dequeuedItems, enqueuedMessages, ← coherent.queue]
    exact messagesOf_prefix (List.prefix_append _ _)
  · intro front thread back before after whole split first
    exact SyncEvent.not_overtaken coherent.history whole split first
  · intro front e back whole stop
    exact SyncEvent.closing_of_stop coherent.history whole stop

/-- Two producers, two closers and two consumers; a message lands behind the first sentinel. -/
def crossing : List (SyncAct Nat) :=
  [.callPut 0 10, .callPut 1 20, .enqueue 1, .callClose 2, .enqueue 2, .enqueue 0, .callNext 3,
    .callNext 4, .dequeue 3, .dequeue 4, .callClose 2, .callNext 4, .dequeue 4]

theorem sync_fifo_crossing :
    ∃ s, Transition.run step {} crossing = some s ∧
      returnedMessages s.log <+: enqueuedMessages s.log ∧
      ∀ front e back, s.log = front ++ e :: back → e.isStop = true → .closing ∈ front :=
  have fifo := @sync_fifo Nat crossing _ rfl
  ⟨_, rfl, fifo.1, fifo.2.2.2.2⟩

end SyncSystem

end OpenSomeIp
