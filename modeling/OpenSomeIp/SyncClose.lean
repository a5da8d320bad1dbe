import Mathlib.Data.List.Basic
import OpenSomeIp.SyncInterleaving

set_option autoImplicit false

namespace OpenSomeIp

namespace SyncEvent

variable {α : Type}

def isClosing : SyncEvent α → Bool
  | .closing => true
  | _ => false

/-- What entered the queue before `close` began left it for a consumer before the first
`StopIteration`. -/
def NoLoss (log : List (SyncEvent α)) : Prop :=
  ∀ front stop back before after, log = front ++ stop :: back → stop.isStop = true →
    (∀ e ∈ front, e.isStop = false) → log = before ++ .closing :: after →
      enqueuedItems before <+: dequeuedItems front

/-- A `get` times out, then a `put` completes and `close` begins, and only then the
consumer reads the flag. -/
def LateLoss (log : List (SyncEvent α)) : Prop :=
  ∃ front thread early late back m,
    log = front ++ .timedOut thread :: (early ++ .closing :: (late ++ .sawClosed thread :: back)) ∧
      (∀ e ∈ front, e.isStop = false) ∧ (∀ e ∈ early ++ late, e.consumer = none) ∧
      .enqueued (.message m) ∈ early

/-- The log of one `close`. -/
def Once (log : List (SyncEvent α)) : Prop :=
  ∀ before after, log = before ++ .closing :: after → .closing ∉ before ∧ .closing ∉ after

theorem once_of_countP {log : List (SyncEvent α)} (bounded : log.countP isClosing ≤ 1) :
    Once log := by
  intro before after split
  rw [split, List.countP_append, List.countP_cons, isClosing, if_pos rfl] at bounded
  constructor
  · intro member
    have positive : 0 < before.countP isClosing := List.countP_pos_iff.mpr ⟨_, member, rfl⟩
    omega
  · intro member
    have positive : 0 < after.countP isClosing := List.countP_pos_iff.mpr ⟨_, member, rfl⟩
    omega

/-- The part of the log up to `close` lies in every part that contains `close`. -/
theorem split_closing {log front rest before after : List (SyncEvent α)} (once : Once log)
    (whole : log = front ++ rest) (inside : .closing ∈ front)
    (split : log = before ++ .closing :: after) : ∃ mid, front = before ++ .closing :: mid := by
  rcases List.append_of_mem inside with ⟨start, mid, same⟩
  have again : log = start ++ .closing :: (mid ++ rest) := by
    rw [whole, same, List.append_assoc, List.cons_append]
  have joined : start ++ .closing :: (mid ++ rest) = before ++ .closing :: after :=
    again.symm.trans split
  have equal := (List.append_cons_inj_of_notMem (once _ _ again).1 (once _ _ again).2).mp joined
  exact ⟨mid, by rw [same, equal.1]⟩

theorem mem_enqueuedItems {log : List (SyncEvent α)} {item : Item α} :
    item ∈ enqueuedItems log ↔ .enqueued item ∈ log := by
  rw [enqueuedItems, List.mem_filterMap]
  constructor
  · intro found
    rcases found with ⟨e, member, same⟩
    cases e <;> cases same
    exact member
  · intro member
    exact ⟨_, member, rfl⟩

/-- No sentinel enters the queue before `close` begins. -/
theorem sentinel_not_mem {log before rest : List (SyncEvent α)} (history : History.Fits fits log)
    (split : log = before ++ rest) (open_ : .closing ∉ before) :
    .sentinel ∉ enqueuedItems before := by
  intro member
  have inside : before <+: log := ⟨rest, split.symm⟩
  rcases History.fits_of_mem (History.fits_prefix history inside) (mem_enqueuedItems.mp member) with
    ⟨front, within, marked⟩
  exact open_ (within.subset (marked rfl))

theorem dequeuedItems_of_quiet {log : List (SyncEvent α)} (quiet : ∀ e ∈ log, e.consumer = none) :
    dequeuedItems log = [] := by
  rw [dequeuedItems, List.filterMap_eq_nil_iff]
  intro e member
  have alone := quiet e member
  cases e with
  | returned thread m => cases alone
  | sawSentinel thread => cases alone
  | _ => rfl

theorem isStop_of_quiet {e : SyncEvent α} (quiet : e.consumer = none) : e.isStop = false := by
  cases e with
  | sawSentinel thread => cases quiet
  | sawClosed thread => cases quiet
  | _ => rfl

theorem prefix_of_stop {β : Type} {xs ys zs : List β} {x : β} (inside : xs ++ [x] <+: ys ++ zs)
    (absent : x ∉ ys) : ys <+: xs := by
  rcases List.prefix_or_prefix_of_prefix inside (List.prefix_append ys zs) with short | long
  · exact absurd (short.subset (List.mem_append_right xs List.mem_cons_self)) absent
  · rcases List.prefix_concat_iff.mp long with same | within
    · rw [same] at absent
      exact absurd (List.mem_append_right xs List.mem_cons_self) absent
    · exact within

/-- A consumer that meets the sentinel has taken everything that was there before it. -/
theorem kept_of_sentinel {log front back before after : List (SyncEvent α)} {thread : Nat}
    (history : History.Fits fits log) (once : Once log)
    (whole : log = front ++ .sawSentinel thread :: back)
    (split : log = before ++ .closing :: after) :
    enqueuedItems before <+: dequeuedItems front := by
  have taken : dequeuedItems front ++ [.sentinel] <+: enqueuedItems front :=
    history front _ back whole
  have entered : .sentinel ∈ enqueuedItems front :=
    taken.subset (List.mem_append_right _ List.mem_cons_self)
  have closed : .closing ∈ front := by
    by_contra open_
    exact sentinel_not_mem history whole open_ entered
  rcases split_closing once whole closed split with ⟨mid, same⟩
  rw [same, SyncSystem.enqueuedItems_append, ← same] at taken
  exact prefix_of_stop taken (sentinel_not_mem history split (once before after split).1)

/-- A consumer that reads the flag as set has taken what was there when its `get` timed
out, and nothing since. -/
theorem taken_of_sawClosed {log front back : List (SyncEvent α)} {thread consumer : Nat}
    (history : History.Fits fits log)
    (alone : ∀ e ∈ log, ∀ other, e.consumer = some other → other = consumer)
    (whole : log = front ++ .sawClosed thread :: back) :
    ∃ pre mid, front = pre ++ .timedOut thread :: mid ∧ .closing ∈ front ∧
      (∀ e ∈ mid, e.consumer = none) ∧ dequeuedItems front = enqueuedItems pre := by
  have mine : thread = consumer :=
    alone (.sawClosed thread) (whole ▸ List.mem_append_right _ List.mem_cons_self) thread rfl
  rcases history front _ back whole with ⟨closed, pre, mid, same, silent⟩
  have quiet : ∀ e ∈ mid, e.consumer = none := by
    intro e member
    have inside : e ∈ log := by
      rw [whole, same]
      exact List.mem_append_left _ (List.mem_append_right _ (List.mem_cons_of_mem _ member))
    cases belongs : e.consumer with
    | none => rfl
    | some other =>
        have one := alone e inside other belongs
        rw [one, ← mine] at belongs
        exact absurd belongs (silent e member)
  have empty : dequeuedItems pre = enqueuedItems pre := by
    apply history pre (.timedOut thread) (mid ++ .sawClosed thread :: back)
    rw [whole, same, List.append_assoc, List.cons_append]
  have none_taken : dequeuedItems (.timedOut thread :: mid) = [] := by
    show dequeuedItems mid = []
    exact dequeuedItems_of_quiet quiet
  refine ⟨pre, mid, same, closed, quiet, ?_⟩
  rw [same, SyncSystem.dequeuedItems_append, none_taken, List.append_nil, empty]

/-- What was there when the `get` timed out is returned; what came later, but before
`close`, is lost. -/
theorem kept_or_late {log front back before after : List (SyncEvent α)} {thread consumer : Nat}
    (history : History.Fits fits log) (once : Once log)
    (alone : ∀ e ∈ log, ∀ other, e.consumer = some other → other = consumer)
    (whole : log = front ++ .sawClosed thread :: back) (going : ∀ e ∈ front, e.isStop = false)
    (split : log = before ++ .closing :: after) :
    enqueuedItems before <+: dequeuedItems front ∨ LateLoss log := by
  rcases taken_of_sawClosed history alone whole with ⟨pre, mid, same, closed, quiet, gone⟩
  by_cases early_close : .closing ∈ pre
  · have joined : log = pre ++ (.timedOut thread :: mid ++ .sawClosed thread :: back) := by
      rw [whole, same, List.append_assoc]
    rcases split_closing once joined early_close split with ⟨mid', before_pre⟩
    left
    rw [gone, before_pre, SyncSystem.enqueuedItems_append]
    exact List.prefix_append _ _
  · have late_close : .closing ∈ mid := by
      rw [same] at closed
      rcases List.mem_append.mp closed with inside | inside
      · exact absurd inside early_close
      · rcases List.mem_cons.mp inside with wrong | inside
        · cases wrong
        · exact inside
    rcases List.append_of_mem late_close with ⟨early, late, parts⟩
    have again : log = (pre ++ .timedOut thread :: early) ++ .closing ::
        (late ++ .sawClosed thread :: back) := by
      rw [whole, same, parts]
      simp only [List.append_assoc, List.cons_append]
    have equal : before = pre ++ .timedOut thread :: early :=
      ((List.append_cons_inj_of_notMem (once _ _ split).1 (once _ _ split).2).mp
        (split.symm.trans again)).1
    have added : enqueuedItems before = enqueuedItems pre ++ enqueuedItems early := by
      rw [equal]
      exact SyncSystem.enqueuedItems_append pre (.timedOut thread :: early)
    cases found : enqueuedItems early with
    | nil =>
        left
        have all : enqueuedItems before = enqueuedItems pre := by
          rw [added, found, List.append_nil]
        exact ⟨[], by rw [gone, all, List.append_nil]⟩
    | cons item more =>
        right
        have member : item ∈ enqueuedItems early := found ▸ List.mem_cons_self
        cases item with
        | sentinel =>
            have none_yet := sentinel_not_mem history split (once before after split).1
            rw [added] at none_yet
            exact absurd (List.mem_append_right _ member) none_yet
        | message m =>
            refine ⟨pre, thread, early, late, back, m, ?_, ?_, ?_, mem_enqueuedItems.mp member⟩
            · rw [again, List.append_assoc, List.cons_append]
            · intro e inside
              exact going e (same ▸ List.mem_append_left _ inside)
            · intro e inside
              apply quiet e
              rw [parts]
              rcases List.mem_append.mp inside with first | last
              · exact List.mem_append_left _ first
              · exact List.mem_append_right _ (List.mem_cons_of_mem _ last)

/-- One consumer and one `close` lose nothing exactly when no time-out comes late. -/
theorem noLoss_iff_of_fits {log : List (SyncEvent α)} {consumer : Nat}
    (history : History.Fits fits log) (once : Once log)
    (alone : ∀ e ∈ log, ∀ other, e.consumer = some other → other = consumer) :
    NoLoss log ↔ ¬ LateLoss log := by
  constructor
  · intro kept late_loss
    rcases late_loss with ⟨pre, thread, early, late, back, m, whole, going, quiet, member⟩
    have cut : log = (pre ++ .timedOut thread :: (early ++ .closing :: late)) ++
        .sawClosed thread :: back := by
      rw [whole]
      simp only [List.append_assoc, List.cons_append]
    have split : log = (pre ++ .timedOut thread :: early) ++ .closing ::
        (late ++ .sawClosed thread :: back) := by
      rw [whole]
      simp only [List.append_assoc, List.cons_append]
    have still_going : ∀ e ∈ pre ++ .timedOut thread :: (early ++ .closing :: late),
        e.isStop = false := by
      intro e inside
      simp only [List.mem_append, List.mem_cons] at inside
      rcases inside with old | rfl | first | rfl | last
      · exact going e old
      · rfl
      · exact isStop_of_quiet (quiet e (List.mem_append_left _ first))
      · rfl
      · exact isStop_of_quiet (quiet e (List.mem_append_right _ last))
    have shorter := kept _ _ _ _ _ cut rfl still_going split
    have empty : dequeuedItems pre = enqueuedItems pre :=
      history pre (.timedOut thread) _ whole
    have gone : dequeuedItems (pre ++ .timedOut thread :: (early ++ .closing :: late)) =
        enqueuedItems pre := by
      have none_taken : dequeuedItems (.timedOut thread :: (early ++ .closing :: late)) = [] := by
        show dequeuedItems (early ++ .closing :: late) = []
        apply dequeuedItems_of_quiet
        intro e inside
        rcases List.mem_append.mp inside with first | last
        · exact quiet e (List.mem_append_left _ first)
        · rcases List.mem_cons.mp last with rfl | last
          · rfl
          · exact quiet e (List.mem_append_right _ last)
      rw [SyncSystem.dequeuedItems_append, none_taken, List.append_nil, empty]
    have added : enqueuedItems (pre ++ .timedOut thread :: early) =
        enqueuedItems pre ++ enqueuedItems early :=
      SyncSystem.enqueuedItems_append pre (.timedOut thread :: early)
    rw [gone, added] at shorter
    have size := shorter.length_le
    have positive := List.length_pos_of_mem (mem_enqueuedItems.mpr member)
    rw [List.length_append] at size
    omega
  · intro none_late front stop back before after whole stops going split
    cases stop with
    | sawSentinel thread => exact kept_of_sentinel history once whole split
    | sawClosed thread =>
        rcases kept_or_late history once alone whole going split with kept | late
        · exact kept
        · exact absurd late none_late
    | _ => cases stops

end SyncEvent

namespace SyncAct

variable {α : Type}

/-- The thread, when the step belongs to `__next__`. -/
def consumer : SyncAct α → Option Nat
  | .callNext thread => some thread
  | .dequeue thread => some thread
  | .timeOut thread => some thread
  | .readClosed thread => some thread
  | _ => none

def isCallClose : SyncAct α → Bool
  | .callClose _ => true
  | _ => false

end SyncAct

namespace SyncSystem

variable {α : Type}

/-- A step logs at most one event, of the thread that takes it. -/
theorem log_step {s t : SyncSystem α} {a : SyncAct α} (success : s.step a = some t) :
    t.log = s.log ∨ ∃ e : SyncEvent α, t.log = s.log ++ [e] ∧
      (e.consumer = none ∨ e.consumer = a.consumer) ∧ (e.isClosing = true → a.isCallClose = true) := by
  have pushed (item : Item α) : (s.push item).log = s.log ∨
      (s.push item).log = s.log ++ [.enqueued item] := by
    unfold push
    split
    · exact .inr rfl
    · exact .inl rfl
  cases moves_of_step success with
  | putDropped thread m stands closed => exact .inl rfl
  | putBegun thread m stands open_ => exact .inl rfl
  | closeBegun thread stands => exact .inr ⟨.closing, rfl, .inl rfl, fun _ => rfl⟩
  | nextBegun thread stands => exact .inl rfl
  | putEnqueues thread m stands =>
      rcases pushed (.message m) with same | same
      · exact .inl same
      · exact .inr ⟨.enqueued (.message m), same, .inl rfl, nofun⟩
  | closeEnqueues thread stands =>
      rcases pushed .sentinel with same | same
      · exact .inl same
      · exact .inr ⟨.enqueued .sentinel, same, .inl rfl, nofun⟩
  | returned thread m rest stands head =>
      exact .inr ⟨.returned thread m, rfl, .inr rfl, nofun⟩
  | sawSentinel thread rest stands head =>
      exact .inr ⟨.sawSentinel thread, rfl, .inr rfl, nofun⟩
  | timedOut thread stands empty => exact .inr ⟨.timedOut thread, rfl, .inr rfl, nofun⟩
  | sawClosed thread stands closed => exact .inr ⟨.sawClosed thread, rfl, .inr rfl, nofun⟩
  | sawOpen thread stands open_ => exact .inl rfl

theorem closing_run {acts : List (SyncAct α)} {s t : SyncSystem α}
    (ran : Transition.run step s acts = some t) :
    t.log.countP SyncEvent.isClosing ≤
      s.log.countP SyncEvent.isClosing + acts.countP SyncAct.isCallClose := by
  induction acts generalizing s with
  | nil =>
      cases ran
      exact Nat.le_refl _
  | cons a acts ih =>
      rcases Transition.run_cons_eq_some ran with ⟨middle, first, rest⟩
      have later := ih rest
      rw [List.countP_cons]
      rcases log_step first with same | ⟨e, same, _, marks⟩
      · rw [same] at later
        omega
      · rw [same, List.countP_append, List.countP_singleton] at later
        by_cases closing : e.isClosing = true
        · rw [if_pos closing] at later
          rw [if_pos (marks closing)]
          omega
        · rw [if_neg closing] at later
          omega

theorem consumer_run {acts : List (SyncAct α)} {s t : SyncSystem α} {consumer : Nat}
    (alone : ∀ a ∈ acts, ∀ thread, a.consumer = some thread → thread = consumer)
    (logged : ∀ e ∈ s.log, ∀ thread, e.consumer = some thread → thread = consumer)
    (ran : Transition.run step s acts = some t) :
    ∀ e ∈ t.log, ∀ thread, e.consumer = some thread → thread = consumer := by
  apply Transition.invariant_among _ logged alone ran
  intro s a t logged mine success e member thread belongs
  rcases log_step success with same | ⟨last, same, owner, _⟩
  · rw [same] at member
    exact logged e member thread belongs
  · rw [same] at member
    rcases List.mem_append.mp member with old | new
    · exact logged e old thread belongs
    · rw [List.mem_singleton.mp new] at belongs
      rcases owner with nobody | stepper
      · rw [nobody] at belongs
        cases belongs
      · exact mine thread (stepper.symm.trans belongs)

/-- With one `close` and one sync consumer, in every interleaving with any number of
producers, what was put before `close` began is returned before the first
`StopIteration` exactly when no `put` completes and no `close` begins between a time-out of
the consumer and its reading of the flag as set. -/
theorem no_loss_iff {acts : List (SyncAct α)} {s : SyncSystem α} {consumer : Nat}
    (one_close : acts.countP SyncAct.isCallClose ≤ 1)
    (one_consumer : ∀ a ∈ acts, ∀ thread, a.consumer = some thread → thread = consumer)
    (ran : Transition.run step {} acts = some s) :
    SyncEvent.NoLoss s.log ↔ ¬ SyncEvent.LateLoss s.log := by
  have counted := closing_run ran
  have once : SyncEvent.Once s.log := by
    apply SyncEvent.once_of_countP
    rw [List.countP_nil] at counted
    omega
  have alone := consumer_run one_consumer (fun e member => absurd member List.not_mem_nil) ran
  exact SyncEvent.noLoss_iff_of_fits (coherent_run ran).history once alone

/-- Thread 0 meets the sentinel behind message 7. -/
def orderlySchedule : List (SyncAct Nat) :=
  [.callPut 1 7, .enqueue 1, .callClose 2, .callNext 0, .dequeue 0, .enqueue 2, .callNext 0,
    .dequeue 0]

theorem no_loss_orderly :
    ∃ s, Transition.run step {} orderlySchedule = some s ∧
      (SyncEvent.NoLoss s.log ↔ ¬ SyncEvent.LateLoss s.log) :=
  ⟨_, rfl, @no_loss_iff Nat orderlySchedule _ 0 (by decide) (by simp [orderlySchedule,
    SyncAct.consumer]) rfl⟩

/-- Thread 0 times out; then message 7 is put and `close` begins; then thread 0 reads the
flag. -/
def lateSchedule : List (SyncAct Nat) :=
  [.callNext 0, .timeOut 0, .callPut 1 7, .enqueue 1, .callClose 2, .readClosed 0]

/-- The consumer stops although message 7 was put before `close` began. -/
theorem late_put_lost :
    ∃ s, Transition.run step {} lateSchedule = some s ∧
      s.log = [.timedOut 0, .enqueued (.message 7), .closing, .sawClosed 0] ∧
      ¬ SyncEvent.NoLoss s.log := by
  refine ⟨_, rfl, rfl, ?_⟩
  intro kept
  have lost := kept [.timedOut 0, .enqueued (.message 7), .closing] (.sawClosed 0) []
    [.timedOut 0, .enqueued (.message 7)] [.sawClosed 0] rfl rfl (by decide) rfl
  have size := lost.length_le
  contradiction

end SyncSystem

end OpenSomeIp
