import OpenSomeIp.DualDelivery

set_option autoImplicit false

namespace OpenSomeIp

open Lanes

namespace DualSystem

variable {α : Type}

/-- The consumers get what was passed on in the order in which it was. -/
def InLine (s : DualSystem α) : Prop := s.passed.map Prod.snd = s.obtained ++ s.pending

/-- No step overtakes a scheduled call or loses one. -/
def KeepsLine (s : DualSystem α) : DualAct α → Prop
  | .insert thread => ∀ item, s.pc thread = .inserting item →
      s.eventLoop.ready ++ [item] = item :: s.eventLoop.ready
  | .callSoon _ => s.loopClosed = false
  | .closeLoop => s.eventLoop.ready = []
  | _ => True

/-- A step that leaves what was passed on, and the line behind it, as they were. -/
theorem inLine_same {s t : DualSystem α} (line : s.InLine) (passed : t.passed = s.passed)
    (same : t.obtained ++ t.pending = s.obtained ++ s.pending) : t.InLine :=
  (congrArg (List.map Prod.snd) passed).trans (line.trans same.symm)

theorem inLine_iff_keeps {s t : DualSystem α} {a : DualAct α} (line : s.InLine)
    (moves : Moves s a t) : t.InLine ↔ s.KeepsLine a := by
  cases moves with
  | aside a v stands stepped adds =>
      have same : pending { s with sync := v } = s.pending :=
        pending_of_sync (SyncSystem.async_of_step stepped).1 rfl
      exact iff_of_true (inLine_same line rfl (by rw [same])) trivial
  | enters thread item v stands stepped adds =>
      have same : pending { s.goto thread (.locking item) with
          sync := v
          entered := s.entered ++ [(thread, item)] } = s.pending :=
        pending_of_sync (SyncSystem.async_of_step stepped).1 rfl
      exact iff_of_true (inLine_same line rfl (congrArg (s.obtained ++ ·) same)) trivial
  | schedules thread item stands open_ =>
      refine iff_of_true ?_ open_
      have queued : s.pending ++ [item] =
          (s.setWorld (s.world.callSoonThreadsafe item)).pending := List.append_assoc _ _ _
      change (s.passed ++ [(thread, item)]).map Prod.snd =
        s.obtained ++ (s.setWorld (s.world.callSoonThreadsafe item)).pending
      rw [List.map_append, line, List.append_assoc, ← queued]
      rfl
  | refused thread item stands closed =>
      refine iff_of_false ?_ ?_
      · intro kept
        change (s.passed ++ [(thread, item)]).map Prod.snd = s.obtained ++ s.pending at kept
        rw [List.map_append, line] at kept
        exact List.cons_ne_nil _ _ (List.append_right_eq_self.mp kept)
      · intro open_
        exact absurd (open_.symm.trans closed) Bool.false_ne_true
  | inserts thread item aq stands created =>
      have before : s.passed.map Prod.snd = s.obtained ++ (aq.items ++ s.eventLoop.ready) := by
        rw [← pending_of_created created]
        exact line
      change (s.passed ++ [(thread, item)]).map Prod.snd =
        s.obtained ++ (aq.items ++ [item] ++ s.eventLoop.ready) ↔ _
      rw [List.map_append, before, List.append_assoc, List.append_assoc, List.append_assoc,
        List.append_right_inj, List.append_right_inj]
      constructor
      · intro same other stood
        obtain rfl := AsyncPc.inserting.inj (stands.symm.trans stood)
        exact same
      · intro same
        exact same item stands
  | ensures inLoop inside =>
      rw [ReceiverWorld.ensureAsyncQueue_eq]
      exact iff_of_true line trivial
  | waits task inside =>
      rw [ReceiverWorld.anext_eq]
      exact iff_of_true line trivial
  | resumes task aq item rest created head =>
      refine iff_of_true (inLine_same line rfl ?_) trivial
      rw [pending_of_created created, head]
      change s.obtained ++ [item] ++ (rest ++ s.eventLoop.ready) = _
      rw [List.append_assoc]
      rfl
  | ticks aq item rest created head =>
      refine iff_of_true (inLine_same line rfl ?_) trivial
      rw [pending_of_created created, head]
      change s.obtained ++ (aq.items ++ [item] ++ rest) = _
      rw [List.append_assoc aq.items]
      rfl
  | closeLoop stopped =>
      change s.passed.map Prod.snd = s.obtained ++ (s.world.asyncItems ++ []) ↔
        s.eventLoop.ready = []
      rw [line, pending, ReceiverWorld.pending, List.append_right_inj, List.append_right_inj]
      exact Iff.rfl
  | _ => exact iff_of_true line trivial

/-- A step after which the loop still runs, with the queue in it. -/
def Undisturbed : DualAct α → Prop
  | .stopLoop => False
  | .closeLoop => False
  | .aiter inLoop => inLoop = true
  | _ => True

/-- The loop has run since the async queue was created in it. -/
structure Turning (s : DualSystem α) : Prop where
  running : s.eventLoop.running = true
  open_ : s.loopClosed = false
  loop : s.asyncQueue ≠ none → s.sync.receiver.loop = true
  testing : ∀ thread item loop, s.pc thread = .testing item loop → loop = true
  inserting : ∀ thread item, s.pc thread ≠ .inserting item

/-- The loop that a queue asked for from inside it remembers. -/
theorem Turning.kept {s : DualSystem α} (turning : s.Turning) :
    (if s.world.receiver.asyncQueue.isSome then s.world.receiver.loop else true) = true := by
  cases created : s.world.receiver.asyncQueue with
  | none => rfl
  | some aq =>
      exact turning.loop fun absent => Option.some_ne_none aq (created.symm.trans absent)

theorem turning_goto {s : DualSystem α} (turning : s.Turning) {thread : Nat} {pc : AsyncPc α}
    (tests : ∀ item loop, pc = .testing item loop → loop = true)
    (inserts : ∀ item, pc ≠ .inserting item) : (s.goto thread pc).Turning := by
  refine { turning with testing := ?_, inserting := ?_ }
  · intro other item loop stands
    by_cases own : other = thread
    · rw [own, goto_self] at stands
      exact tests item loop stands
    · rw [goto_of_ne own] at stands
      exact turning.testing other item loop stands
  · intro other item
    by_cases own : other = thread
    · rw [own, goto_self]
      exact inserts item
    · rw [goto_of_ne own]
      exact turning.inserting other item

theorem turning_out {s : DualSystem α} (turning : s.Turning) (thread : Nat) :
    (s.goto thread .out).Turning :=
  turning_goto turning nofun nofun

theorem turning_locking {s : DualSystem α} (turning : s.Turning) (thread : Nat) (item : Item α) :
    (s.goto thread (.locking item)).Turning :=
  turning_goto turning nofun nofun

theorem turning_testing {s : DualSystem α} (turning : s.Turning) (thread : Nat) (item : Item α)
    {loop : Bool} (known : loop = true) : (s.goto thread (.testing item loop)).Turning := by
  refine turning_goto turning ?_ nofun
  intro other value same
  obtain ⟨_, rfl⟩ := AsyncPc.testing.inj same
  exact known

theorem turning_scheduling {s : DualSystem α} (turning : s.Turning) (thread : Nat) (item : Item α) :
    (s.goto thread (.scheduling item)).Turning :=
  turning_goto turning nofun nofun

theorem keepsLine_of_turning {s : DualSystem α} {a : DualAct α} (turning : s.Turning)
    (undisturbed : Undisturbed a) : s.KeepsLine a := by
  cases a with
  | insert thread => exact fun item stands => absurd stands (turning.inserting thread item)
  | callSoon thread => exact turning.open_
  | closeLoop => cases undisturbed
  | _ => trivial

theorem turning_step (s : DualSystem α) (a : DualAct α) (t : DualSystem α) (turning : s.Turning)
    (undisturbed : Undisturbed a) (success : s.step a = some t) : t.Turning := by
  cases moves_of_step success with
  | aside a v stands stepped adds =>
      obtain ⟨queue, loop⟩ := SyncSystem.async_of_step stepped
      have known (created : v.receiver.asyncQueue ≠ none) : v.receiver.loop = true := by
        rw [queue] at created
        exact loop.trans (turning.loop created)
      exact { turning with loop := known }
  | enters thread item v stands stepped adds =>
      obtain ⟨queue, loop⟩ := SyncSystem.async_of_step stepped
      have known (created : v.receiver.asyncQueue ≠ none) : v.receiver.loop = true := by
        rw [queue] at created
        exact loop.trans (turning.loop created)
      have went := turning_locking turning thread item
      exact { went with loop := known }
  | misses thread item stands absent =>
      have went := turning_out turning thread
      exact { went with }
  | finds thread item aq stands created =>
      apply turning_testing turning
      exact turning.loop fun absent => Option.some_ne_none aq (created.symm.trans absent)
  | tests thread item loop stands =>
      have known := turning.testing thread item loop stands
      rw [testLoop, known, turning.running]
      exact turning_scheduling turning thread item
  | schedules thread item stands open_ =>
      have went := turning_out turning thread
      exact { went with }
  | refused thread item stands closed =>
      have went := turning_out turning thread
      exact { went with }
  | inserts thread item aq stands created => exact absurd stands (turning.inserting thread item)
  | ensures inLoop inside =>
      obtain rfl : inLoop = true := undisturbed
      rw [ReceiverWorld.ensureAsyncQueue_eq]
      exact { turning with loop := fun _ => turning.kept }
  | waits task inside =>
      rw [ReceiverWorld.anext_eq]
      exact { turning with loop := fun _ => turning.kept }
  | resumes task aq item rest created head =>
      exact { turning with
        loop := fun _ => turning.loop fun absent => Option.some_ne_none aq (created.symm.trans absent) }
  | ticks aq item rest created head =>
      exact { turning with
        loop := fun _ => turning.loop fun absent => Option.some_ne_none aq (created.symm.trans absent) }
  | stopLoop => cases undisturbed
  | runLoop open_ => exact { turning with running := rfl }
  | closeLoop stopped => cases undisturbed

/-- The async consumers get what the threads passed on, in its order, exactly as long as no
thread that saw the loop stopped inserts its item ahead of another's scheduled call, no loop is
closed with calls scheduled, and none is asked for a call after that. So they do when the loop
runs on and the queue is created inside it, and then they get each thread's items in the order
of its calls. -/
theorem line_kept_iff {maxsize : Int} {acts : List (DualAct α)} {u : DualSystem α}
    (ran : Transition.run step (new maxsize) acts = some u) :
    (Transition.Along step KeepsLine (new maxsize) acts ↔
      ∀ front, front <+: acts → ∀ t, Transition.run step (new maxsize) front = some t →
        t.InLine) ∧
    ∀ rest, acts = .runLoop :: rest → (∀ a ∈ rest, Undisturbed a) →
      u.passed.map Prod.snd = u.obtained ++ u.pending ∧
      ∀ thread, lane thread u.entered =
        lane thread u.missed ++ lane thread u.passed ++ (u.pc thread).carried := by
  have exactly (s : DualSystem α) (a : DualAct α) (t : DualSystem α) (_ : True) (line : s.InLine)
      (success : s.step a = some t) : t.InLine ↔ s.KeepsLine a :=
    inLine_iff_keeps line (moves_of_step success)
  have empty : (new maxsize : DualSystem α).InLine := rfl
  refine ⟨Transition.along_iff_always (fun _ _ _ _ _ => trivial) exactly trivial empty ran, ?_⟩
  rintro rest rfl undisturbed
  have turning : ((new maxsize : DualSystem α).setRunning true).Turning :=
    ⟨rfl, rfl, fun created => absurd rfl created, nofun, nofun⟩
  have first : (new maxsize : DualSystem α).step .runLoop = some ((new maxsize).setRunning true) :=
    rfl
  have kept (s : DualSystem α) (a : DualAct α) (t : DualSystem α) (before : s.Turning ∧ s.InLine)
      (fine : Undisturbed a) (success : s.step a = some t) : t.Turning ∧ t.InLine :=
    ⟨turning_step s a t before.1 fine success,
      (inLine_iff_keeps before.2 (moves_of_step success)).mpr (keepsLine_of_turning before.1 fine)⟩
  refine ⟨?_, (sound_run ran).accounted⟩
  rw [Transition.run_cons_of_some first] at ran
  exact (Transition.invariant_among kept ⟨turning, rfl⟩ undisturbed ran).2

/-- The loop is stopped between a scheduled call and the next `put`. -/
def overtaking : List (DualAct Nat) :=
  [.runLoop, .aiter true, .sync (.callPut 0 1), .sync (.enqueue 0), .takeLock 0, .testLoop 0,
    .callSoon 0, .stopLoop, .sync (.callPut 0 2), .sync (.enqueue 0), .takeLock 0, .testLoop 0,
    .insert 0]

theorem line_kept_iff_overtaking :
    ∃ u, Transition.run step (new 0) overtaking = some u ∧
      u.pending = [.message 2, .message 1] ∧
      (Transition.Along step KeepsLine (new 0) overtaking ↔
        ∀ front, front <+: overtaking → ∀ t, Transition.run step (new 0) front = some t →
          t.InLine) :=
  ⟨_, rfl, rfl, (@line_kept_iff Nat 0 overtaking _ rfl).1⟩

end DualSystem

end OpenSomeIp
