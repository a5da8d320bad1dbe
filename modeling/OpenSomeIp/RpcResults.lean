import OpenSomeIp.RpcPending

set_option autoImplicit false

namespace OpenSomeIp

namespace RpcClient

variable {ω : Type}

/-- The `set_result` that the loop executes next finds its future pending. -/
def Applies (w : RpcWorld ω) : Prop :=
  ∀ future message rest, w.ready = (future, message) :: rest →
    w.futures[future]? = some .pending

/-- Whatever the loop has yet to execute goes to a pending future, and to each only once. -/
structure Executable (w : RpcWorld ω) : Prop where
  once : (w.ready.map (·.1)).Nodup
  waits : ∀ entry ∈ w.ready, w.futures[entry.1]? = some .pending

/-- No response is scheduled for the future. -/
def Unscheduled (w : RpcWorld ω) (future : Nat) : Prop := ∀ entry ∈ w.ready, entry.1 ≠ future

/-- A response arrives once, and while its call is pending; what cancels futures cancels none
for which a response is scheduled. -/
def InTime (client : RpcClient ω) (w : RpcWorld ω) : RpcAct → Prop
  | .respond number _ =>
      ∀ c, w.calls[number]? = some c →
        w.futures[c.future]? = some .pending ∧ Unscheduled w c.future
  | .timeOut number | .cancelTask number => ∀ c, Awaits w number c → Unscheduled w c.future
  | .stop => ShutsDown client w → ∀ future ∈ w.pendingFutures, Unscheduled w future
  | _ => True

theorem Executable.applies {w : RpcWorld ω} (executable : Executable w) : Applies w := by
  intro future message rest head
  apply executable.waits (future, message)
  rw [head]
  exact List.mem_cons_self

/-- A future is pending after another was completed, when it was before. -/
theorem pending_after_set {futures : List FutureState} {future other : Nat} {message : Message}
    (waits : futures[future]? = some .pending) :
    (futures.set future (.done message))[other]? = some .pending ↔
      other ≠ future ∧ futures[other]? = some .pending := by
  by_cases same : future = other
  · subst same
    have inside := (List.getElem?_eq_some_iff.mp waits).1
    rw [List.getElem?_set_self inside]
    exact iff_of_false nofun fun both => both.1 rfl
  · rw [List.getElem?_set_ne same]
    exact ⟨fun pending => ⟨Ne.symm same, pending⟩, fun both => both.2⟩

/-- One turn of the loop takes the first entry off and leaves the others executable. -/
theorem executable_turn_iff {w : RpcWorld ω} {future : Nat} {message : Message}
    {rest : List (Nat × Message)} (head : w.ready = (future, message) :: rest)
    (waits : w.futures[future]? = some .pending) :
    Executable { w with ready := rest, futures := w.futures.set future (.done message) } ↔
      Executable w := by
  constructor
  · intro after
    constructor
    · rw [head, List.map_cons, List.nodup_cons]
      refine ⟨?_, after.once⟩
      intro again
      obtain ⟨entry, member, same⟩ := List.mem_map.mp again
      exact ((pending_after_set waits).mp (after.waits entry member)).1 same
    · intro entry member
      rw [head] at member
      rcases List.mem_cons.mp member with first | later
      · rw [first]
        exact waits
      · exact ((pending_after_set waits).mp (after.waits entry later)).2
  · intro before
    have once := before.once
    rw [head, List.map_cons, List.nodup_cons] at once
    refine ⟨once.2, ?_⟩
    intro entry member
    apply (pending_after_set waits).mpr
    constructor
    · intro same
      exact once.1 (List.mem_map.mpr ⟨entry, member, same⟩)
    · exact before.waits entry (head ▸ List.mem_cons_of_mem _ member)

theorem step_turn_of_applies {client : RpcClient ω} {w : RpcWorld ω} {future : Nat}
    {message : Message} {rest : List (Nat × Message)} (head : w.ready = (future, message) :: rest)
    (waits : w.futures[future]? = some .pending) :
    client.step w .turn =
      some { w with ready := rest, futures := w.futures.set future (.done message) } := by
  simp only [step, turn, head, RpcWorld.setResult, Method.bind_apply, Method.get_apply, waits,
    ↓reduceIte, Method.modify_apply]

/-- The loop can execute what it has exactly when every turn it takes finds a pending
future. -/
theorem executable_iff_turns (client : RpcClient ω) (w : RpcWorld ω) :
    Executable w ↔ ∀ count u,
      Transition.run client.step w (List.replicate count .turn) = some u → Applies u := by
  generalize scheduled : w.ready = ready
  induction ready generalizing w with
  | nil =>
      apply iff_of_true
      · constructor
        · rw [scheduled]
          exact List.nodup_nil
        · intro entry member
          rw [scheduled] at member
          cases member
      · intro count u ran
        cases count with
        | zero =>
            obtain rfl := Option.some.inj ran
            intro future message rest head
            rw [scheduled] at head
            cases head
        | succ count =>
            obtain ⟨t, success, _⟩ := Transition.run_cons_eq_some ran
            simp only [step, turn, scheduled] at success
            cases success
  | cons entry rest ih =>
      by_cases waits : w.futures[entry.1]? = some .pending
      · have next : client.step w .turn = some _ := step_turn_of_applies scheduled waits
        rw [← executable_turn_iff scheduled waits, ih _ rfl]
        constructor
        · intro later count u ran
          cases count with
          | zero =>
              obtain rfl := Option.some.inj ran
              intro future message others head
              rw [scheduled] at head
              cases head
              exact waits
          | succ count =>
              rw [List.replicate_succ, Transition.run_cons_of_some next] at ran
              exact later count u ran
        · intro always count u ran
          apply always (count + 1) u
          rw [List.replicate_succ, Transition.run_cons_of_some next]
          exact ran
      · apply iff_of_false
        · intro executable
          exact waits (executable.waits entry (scheduled ▸ List.mem_cons_self))
        · intro always
          exact waits (always 0 w rfl entry.1 entry.2 rest scheduled)

/-- Cancelling a future spoils exactly what is scheduled for it. -/
theorem executable_cancelFuture_iff {w : RpcWorld ω} (executable : Executable w) (future : Nat) :
    Executable (w.cancelFuture future) ↔ Unscheduled w future := by
  constructor
  · intro after entry member same
    have waits := after.waits entry (by rw [RpcWorld.cancelFuture_ready]; exact member)
    rw [RpcWorld.cancelFuture_getElem?, if_pos ⟨same, executable.waits entry member⟩] at waits
    cases waits
  · intro unscheduled
    constructor
    · rw [RpcWorld.cancelFuture_ready]
      exact executable.once
    · intro entry member
      rw [RpcWorld.cancelFuture_ready] at member
      rw [RpcWorld.cancelFuture_of_ne (Ne.symm (unscheduled entry member))]
      exact executable.waits entry member

theorem executable_stop {client : RpcClient ω} {w t : RpcWorld ω} (executable : Executable w)
    (success : client.step w .stop = some t) : Executable t ↔ InTime client w .stop := by
  obtain rfl := Option.some.inj success
  by_cases quiet : ShutsDown client w
  · obtain ⟨native, ran⟩ := stop_of_shutsDown quiet
    rw [ran]
    have cancelled (entry : Nat × Message) := RpcWorld.cancelPending_getElem?
      { w with native := native, running := false } entry.1
    constructor
    · intro after _ future listed entry member same
      subst same
      have waits := after.waits entry (by rw [RpcWorld.cancelPending_ready]; exact member)
      have gone := cancelled entry
      rw [if_pos ⟨listed, executable.waits entry member⟩] at gone
      cases gone.symm.trans waits
    · intro inTime
      constructor
      · rw [RpcWorld.cancelPending_ready]
        exact executable.once
      · intro entry member
        rw [RpcWorld.cancelPending_ready] at member
        have kept := cancelled entry
        rw [if_neg fun both => inTime quiet entry.1 both.1 entry member rfl] at kept
        exact kept.trans (executable.waits entry member)
  · obtain ⟨native, exc, ran⟩ := stop_of_not_shutsDown quiet
    rw [ran]
    apply iff_of_true ⟨executable.once, executable.waits⟩
    intro shutsDown
    exact absurd shutsDown quiet

theorem executable_respond_iff {client : RpcClient ω} {w : RpcWorld ω} (executable : Executable w)
    (c : AsyncCall) (resp : RpcOutcome) :
    Executable (client.onResponse c resp w) ↔
      w.futures[c.future]? = some .pending ∧ Unscheduled w c.future := by
  constructor
  · intro after
    refine ⟨?_, ?_⟩
    · exact after.waits (c.future, _) (List.mem_append_right _ List.mem_cons_self)
    · intro entry member same
      have once := after.once
      simp only [onResponse, List.map_append, List.map_cons, List.map_nil] at once
      apply (List.nodup_append.mp once).2.2 entry.1 (List.mem_map_of_mem member) c.future
        List.mem_cons_self
      exact same
  · rintro ⟨waits, unscheduled⟩
    constructor
    · simp only [onResponse, List.map_append, List.map_cons, List.map_nil]
      apply List.nodup_append.mpr
      refine ⟨executable.once, List.nodup_singleton _, ?_⟩
      intro first inside second new
      obtain ⟨entry, member, same⟩ := List.mem_map.mp inside
      rw [List.mem_singleton.mp new, ← same]
      exact unscheduled entry member
    · intro entry member
      rcases List.mem_append.mp member with before | new
      · exact executable.waits entry before
      · rw [List.mem_singleton.mp new]
        exact waits

/-- The future of a new call is none for which a response is scheduled. -/
theorem executable_entered {w : RpcWorld ω} (known : Known w) (executable : Executable w)
    (methodId : MessageId) (timeout : String) (native : ω) :
    Executable { entered methodId timeout w with native := native } where
  once := executable.once
  waits entry member := by
    rw [entered, List.getElem?_append_left (known.ready entry member)]
    exact executable.waits entry member

/-- A step leaves the loop able to execute what it has exactly when it comes in time. -/
theorem executable_step {client : RpcClient ω} {w t : RpcWorld ω} {a : RpcAct} (known : Known w)
    (executable : Executable w) (success : client.step w a = some t) :
    Executable t ↔ InTime client w a := by
  have itself {number : Nat} {c : AsyncCall} (awaits : Awaits w number c) :
      (∀ d, Awaits w number d → Unscheduled w d.future) ↔ Unscheduled w c.future := by
    constructor
    · exact fun all => all c awaits
    · intro unscheduled d other
      rw [← awaits_unique awaits other]
      exact unscheduled
  cases moves_of_step success with
  | start | call | refused => exact iff_of_true ⟨executable.once, executable.waits⟩ trivial
  | stop | stopBroken => exact executable_stop executable success
  | entered methodId payload timeout native =>
      exact iff_of_true (executable_entered known executable methodId timeout native) trivial
  | broken methodId payload timeout native exc =>
      have after := executable_entered known executable methodId timeout native
      exact iff_of_true ⟨after.once, after.waits⟩ trivial
  | respond number resp c found =>
      rw [executable_respond_iff executable, InTime]
      constructor
      · intro both d other
        obtain rfl := Option.some.inj (found.symm.trans other)
        exact both
      · exact fun all => all c found
  | turn future message rest head waits =>
      exact iff_of_true ((executable_turn_iff head waits).mpr executable) trivial
  | turnInvalid future message rest head settled =>
      exact absurd (executable.applies future message rest head) settled
  | timeOut number c awaits =>
      rw [InTime, itself awaits, ← executable_cancelFuture_iff executable]
      exact ⟨fun after => ⟨after.once, after.waits⟩, fun after => ⟨after.once, after.waits⟩⟩
  | cancelTask number c awaits =>
      rw [InTime, itself awaits, ← executable_cancelFuture_iff executable]
      exact ⟨fun after => ⟨after.once, after.waits⟩, fun after => ⟨after.once, after.waits⟩⟩
  | resumeDone number c message awaits done =>
      exact iff_of_true ⟨executable.once, executable.waits⟩ trivial
  | resumeCancelled number c awaits cancelled =>
      exact iff_of_true ⟨executable.once, executable.waits⟩ trivial

/-- In no state of a run, nor in the turns of the loop that may follow it, is `set_result`
executed on a future that is done, exactly when everything in the run comes in time. -/
theorem results_apply_iff {client : RpcClient ω} {native : ω} {last : RpcWorld ω}
    {history : List RpcAct} (ran : Transition.run client.step (fresh native) history = some last) :
    Transition.Along client.step (InTime client) (fresh native) history ↔
      ∀ front, front <+: history → ∀ count t,
        Transition.run client.step (fresh native) (front ++ List.replicate count .turn) = some t →
          Applies t := by
  have kept (w : RpcWorld ω) (a : RpcAct) (t : RpcWorld ω) (known : Known w)
      (success : client.step w a = some t) : Known t := known_step known success
  have exactly (w : RpcWorld ω) (a : RpcAct) (t : RpcWorld ω) (known : Known w)
      (executable : Executable w) (success : client.step w a = some t) :
      Executable t ↔ InTime client w a := executable_step known executable success
  have start : Executable (fresh native) := by
    constructor
    · exact List.nodup_nil
    · intro entry member
      cases member
  rw [Transition.along_iff_always kept exactly (known_fresh native) start ran]
  constructor
  · intro always front inside count t reached
    rw [Transition.run_append] at reached
    obtain ⟨w, before, turns⟩ := Option.bind_eq_some_iff.mp reached
    exact (executable_iff_turns client w).mp (always front inside w before) count t turns
  · intro always front inside w reached
    apply (executable_iff_turns client w).mpr
    intro count u turns
    apply always front inside count u
    rw [Transition.run_append, reached]
    exact turns

theorem results_apply_iff_answered :
    Transition.Along answeringClient.step (InTime answeringClient) (fresh ())
        [.start, .callAsync ⟨0x1234, 1⟩ [7] "5.0", .respond 0 ⟨.success, [1]⟩, .turn] ↔
      ∀ front, front <+: [.start, .callAsync ⟨0x1234, 1⟩ [7] "5.0", .respond 0 ⟨.success, [1]⟩,
          .turn] → ∀ count t,
        Transition.run answeringClient.step (fresh ()) (front ++ List.replicate count .turn) =
            some t → Applies t :=
  results_apply_iff rfl

/-- A response that comes after the time-out of its call: the loop executes `set_result` on
the cancelled future, which raises `InvalidStateError`. -/
theorem late_response_raises :
    ∃ w message, Transition.run answeringClient.step (fresh ())
        [.start, .callAsync ⟨0x1234, 1⟩ [7] "5.0", .timeOut 0, .respond 0 ⟨.success, [1]⟩] =
          some w ∧
      w.ready = [(0, message)] ∧ w.futures[0]? = some .cancelled ∧
      (RpcWorld.setResult 0 message w).1 = .error .invalidStateError ∧ ¬ Applies w := by
  refine ⟨_, _, rfl, rfl, rfl, rfl, ?_⟩
  intro applies
  cases applies 0 _ [] rfl

end RpcClient

end OpenSomeIp
