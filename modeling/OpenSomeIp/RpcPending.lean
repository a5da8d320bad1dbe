import OpenSomeIp.RpcInFlight

set_option autoImplicit false

namespace OpenSomeIp

namespace RpcClient

variable {ω : Type}

/-- Every call in flight finds its own future under its own session. -/
def Registered (w : RpcWorld ω) : Prop :=
  ∀ (number : Nat) (c : AsyncCall), Awaits w number c → w.pending.lookup c.session = some c.future

/-- A call that begins is not given the session of a call in flight. -/
def UnusedSession (client : RpcClient ω) (w : RpcWorld ω) : RpcAct → Prop
  | .callAsync _ _ _ =>
      Begins client w → ∀ (number : Nat) (c : AsyncCall), Awaits w number c →
        c.session ≠ nextSessionOf w
  | _ => True

theorem Registered.session_injective {w : RpcWorld ω} (registered : Registered w) (owns : Owns w)
    {number other : Nat} {c d : AsyncCall} (first : Awaits w number c) (second : Awaits w other d)
    (same : c.session = d.session) : number = other := by
  have left := registered number c first
  have right := registered other d second
  rw [same, right] at left
  exact owns number other c d first.1 second.1 (Option.some.inj left).symm

theorem lookup_entered_of_ne {w : RpcWorld ω} {session : Nat} (other : session ≠ nextSessionOf w)
    (methodId : MessageId) (timeout : String) :
    (entered methodId timeout w).pending.lookup session = w.pending.lookup session :=
  AList.lookup_insert_ne other

theorem lookup_entered_self (w : RpcWorld ω) (methodId : MessageId) (timeout : String) :
    (entered methodId timeout w).pending.lookup (nextSessionOf w) = some w.futures.length :=
  AList.lookup_insert _

/-- A new entry leaves the calls in flight registered exactly when it takes no place of theirs. -/
theorem entered_keeps_iff {w : RpcWorld ω} (known : Known w) (registered : Registered w)
    (methodId : MessageId) (timeout : String) :
    (∀ (number : Nat) (c : AsyncCall), Awaits w number c →
      (entered methodId timeout w).pending.lookup c.session = some c.future) ↔
    ∀ (number : Nat) (c : AsyncCall), Awaits w number c → c.session ≠ nextSessionOf w := by
  constructor
  · intro kept number c awaits same
    have bound := known.calls number c awaits.1
    have found := kept number c awaits
    rw [same, lookup_entered_self] at found
    have future := Option.some.inj found
    omega
  · intro unused number c awaits
    rw [lookup_entered_of_ne (unused number c awaits)]
    exact registered number c awaits

theorem registered_entered_iff {w : RpcWorld ω} (known : Known w) (registered : Registered w)
    (methodId : MessageId) (timeout : String) (native : ω) :
    Registered { entered methodId timeout w with native := native } ↔
      ∀ (number : Nat) (c : AsyncCall), Awaits w number c → c.session ≠ nextSessionOf w := by
  rw [← entered_keeps_iff known registered methodId timeout]
  constructor
  · intro after number c awaits
    exact after number c (awaits_entered.mpr (.inl awaits))
  · intro kept number c awaits
    rcases awaits_entered.mp awaits with before | ⟨_, new⟩
    · exact kept number c before
    · rw [new]
      exact lookup_entered_self w methodId timeout

theorem registered_broken_iff {w : RpcWorld ω} (known : Known w) (registered : Registered w)
    (methodId : MessageId) (timeout : String) (native : ω) (exc : Exn) :
    Registered ({ entered methodId timeout w with native := native }.finish w.calls.length
        (.error exc)) ↔
      ∀ (number : Nat) (c : AsyncCall), Awaits w number c → c.session ≠ nextSessionOf w := by
  rw [← entered_keeps_iff known registered methodId timeout]
  constructor
  · intro after number c awaits
    exact after number c (awaits_broken.mpr awaits)
  · intro kept number c awaits
    exact kept number c (awaits_broken.mp awaits)

/-- The end of a call takes no entry from another. -/
theorem Registered.finish {w : RpcWorld ω} (registered : Registered w) (ended : Nat)
    (outcome : Except Exn Message) : Registered (w.finish ended outcome) := by
  intro number c awaits
  exact registered number c (awaits_finish.mp awaits).1

/-- A time-out removes an entry by its session, and that is the entry of the call that ends. -/
theorem Registered.timeOut {w : RpcWorld ω} (registered : Registered w) (owns : Owns w)
    {ended : Nat} {c : AsyncCall} (ends : Awaits w ended c) :
    Registered (RpcClient.timeOut ended c w) := by
  intro number d awaits
  have both := awaits_finish.mp awaits
  have before : Awaits w number d := awaits_cancelFuture.mp both.1
  have apart : d.session ≠ c.session := by
    intro same
    exact both.2 (registered.session_injective owns before ends same)
  have erased : (w.pending.erase c.session).lookup d.session = some d.future := by
    rw [AList.lookup_erase_ne apart]
    exact registered number d before
  rw [← RpcWorld.cancelFuture_pending w c.future] at erased
  exact erased

theorem registered_callAsync {client : RpcClient ω} {w t : RpcWorld ω} {methodId : MessageId}
    {payload : Bytes} {timeout : String} (known : Known w) (registered : Registered w)
    (success : client.step w (.callAsync methodId payload timeout) = some t) :
    Registered t ↔ UnusedSession client w (.callAsync methodId payload timeout) := by
  rcases step_callAsync_cases success with ⟨refused, rfl⟩ | ⟨begins, _, native, rfl⟩ |
    ⟨begins, _, native, exc, rfl⟩
  · exact ⟨fun _ begins => absurd begins refused, fun _ => registered⟩
  · rw [registered_entered_iff known registered]
    exact ⟨fun unused _ => unused, fun unused => unused begins⟩
  · rw [registered_broken_iff known registered]
    exact ⟨fun unused _ => unused, fun unused => unused begins⟩

/-- Short of a stop, a step keeps the calls in flight registered exactly when no call takes
the place of another. -/
theorem registered_step {client : RpcClient ω} {w t : RpcWorld ω} {a : RpcAct}
    (numbered : Numbered w) (registered : Registered w) (unstopped : a ≠ .stop)
    (success : client.step w a = some t) : Registered t ↔ UnusedSession client w a := by
  cases moves_of_step success with
  | stop | stopBroken => exact absurd rfl unstopped
  | refused | entered | broken => exact registered_callAsync numbered.1 registered success
  | start | call | respond | turn | turnInvalid => exact iff_of_true registered trivial
  | timeOut number c awaits => exact iff_of_true (registered.timeOut numbered.2 awaits) trivial
  | cancelTask number c awaits =>
      have cancelled : Registered (w.cancelFuture c.future) := by
        intro other d inFlight
        rw [RpcWorld.cancelFuture_pending]
        exact registered other d (awaits_cancelFuture.mp inFlight)
      exact iff_of_true (cancelled.finish _ _) trivial
  | resumeDone number c message awaits done => exact iff_of_true (registered.finish _ _) trivial
  | resumeCancelled number c awaits cancelled =>
      exact iff_of_true (registered.finish _ _) trivial

/-- What a stop relies on, and what it does: every call in flight has an entry of its own, and
the stop leaves its future done. -/
structure Cancellable (client : RpcClient ω) (w : RpcWorld ω) : Prop where
  registered : Registered w
  distinct : ∀ (number other : Nat) (c d : AsyncCall), Awaits w number c → Awaits w other d →
    c.session = d.session → number = other
  stopped : ∀ (number : Nat) (c : AsyncCall), Awaits w number c →
    ∃ state, (client.stop w).2.futures[c.future]? = some state ∧ state ≠ .pending

theorem cancellable_of_registered {client : RpcClient ω} {w : RpcWorld ω} (numbered : Numbered w)
    (quiet : ShutsDown client w) (registered : Registered w) : Cancellable client w where
  registered := registered
  distinct _ _ _ _ first second same := registered.session_injective numbered.2 first second same
  stopped number c awaits := by
    obtain ⟨native, ran⟩ := stop_of_shutsDown quiet
    have inside := numbered.1.calls number c awaits.1
    have listed := RpcWorld.mem_pendingFutures (registered number c awaits)
    have cancelled := RpcWorld.cancelPending_getElem?
      { w with native := native, running := false } c.future
    rw [ran]
    by_cases waits : w.futures[c.future]? = some .pending
    · rw [if_pos ⟨listed, waits⟩] at cancelled
      exact ⟨.cancelled, cancelled, nofun⟩
    · rw [if_neg fun both => waits both.2] at cancelled
      refine ⟨w.futures[c.future], ?_, ?_⟩
      · exact cancelled.trans (List.getElem?_eq_getElem inside)
      · intro pending
        apply waits
        rw [List.getElem?_eq_getElem inside, pending]

/-- In a run without stops, every state passed through is one that a stop can deal with
exactly when no call is ever given the session of a call in flight. -/
theorem cancellable_iff_unused {client : RpcClient ω} (translated : ∀ w, ShutsDown client w)
    {native : ω} {last : RpcWorld ω} {history : List RpcAct} (unstopped : RpcAct.stop ∉ history)
    (ran : Transition.run client.step (fresh native) history = some last) :
    Transition.Along client.step (UnusedSession client) (fresh native) history ↔
      ∀ front, front <+: history → ∀ t,
        Transition.run client.step (fresh native) front = some t → Cancellable client t := by
  have kept (w : RpcWorld ω) (a : RpcAct) (t : RpcWorld ω) (numbered : Numbered w)
      (_ : a ≠ .stop) (success : client.step w a = some t) : Numbered t :=
    numbered_step numbered success
  have exactly (w : RpcWorld ω) (a : RpcAct) (t : RpcWorld ω) (numbered : Numbered w)
      (good : Cancellable client w) (other : a ≠ .stop) (success : client.step w a = some t) :
      Cancellable client t ↔ UnusedSession client w a := by
    rw [← registered_step numbered good.registered other success]
    constructor
    · exact fun cancellable => cancellable.registered
    · exact cancellable_of_registered (numbered_step numbered success) (translated t)
  have idle : Registered (fresh native) := by
    intro number c awaits
    cases awaits.1
  have start := cancellable_of_registered (numbered_fresh native) (translated _) idle
  have among : ∀ a ∈ history, a ≠ .stop := by
    rintro a member rfl
    exact unstopped member
  exact Transition.along_iff_always_among kept exactly (numbered_fresh native) start among ran

/-- The client that the concrete runs below are about. -/
def answeringClient : RpcClient Unit := { cpp := some (answering ⟨.success, [1]⟩) }

theorem cancellable_iff_unused_two_calls :
    Transition.Along answeringClient.step (UnusedSession answeringClient) (fresh ())
        [.start, .callAsync ⟨0x1234, 1⟩ [7] "5.0", .callAsync ⟨0x1234, 1⟩ [7] "5.0"] ↔
      ∀ front, front <+: [.start, .callAsync ⟨0x1234, 1⟩ [7] "5.0",
          .callAsync ⟨0x1234, 1⟩ [7] "5.0"] → ∀ t,
        Transition.run answeringClient.step (fresh ()) front = some t →
          Cancellable answeringClient t := by
  have translated (w : RpcWorld Unit) : ShutsDown answeringClient w := by
    intro cpp exc present raised
    cases present
    cases raised
  exact cancellable_iff_unused translated (by decide) rfl

theorem step_call_answering {w : RpcWorld Unit} (running : w.running = true) :
    answeringClient.step w (.call ⟨0x1234, 1⟩ [7]) =
      some { w with sessionCounter := (w.sessionCounter + 1) &&& 0xFFFF } := by
  rw [step, call_of_ok running rfl (callNative_of_success rfl rfl)]

/-- Only the counter tells how many synchronous calls were made. -/
theorem run_calls_answering {w : RpcWorld Unit} (running : w.running = true) (count : Nat) :
    ∀ counter, Transition.run answeringClient.step { w with sessionCounter := counter % 65536 }
        (List.replicate count (.call ⟨0x1234, 1⟩ [7])) =
      some { w with sessionCounter := (counter + count) % 65536 } := by
  induction count with
  | zero =>
      intro counter
      rfl
  | succ count ih =>
      intro counter
      have next : (counter % 65536 + 1) &&& 0xFFFF = (counter + 1) % 65536 := by
        rw [show (0xFFFF : Nat) = 2 ^ 16 - 1 from rfl, Nat.and_two_pow_sub_one_eq_mod]
        omega
      have first := step_call_answering (w := { w with sessionCounter := counter % 65536 }) running
      rw [next] at first
      rw [List.replicate_succ, Transition.run_cons_of_some first, ih (counter + 1),
        Nat.add_assoc, Nat.add_comm 1 count]

/-- A call that outlives 65535 later ones: the next call takes its entry, and a stop leaves
its future pending. -/
theorem wrapped_session_not_cancelled :
    let history : List RpcAct := .start :: .callAsync ⟨0x1234, 1⟩ [7] "60.0" ::
      (List.replicate 65535 (.call ⟨0x1234, 1⟩ [7]) ++ [.callAsync ⟨0x1234, 1⟩ [7] "5.0"])
    RpcAct.stop ∉ history ∧
    ∃ last c d, Transition.run answeringClient.step (fresh ()) history = some last ∧
      Awaits last 0 c ∧ Awaits last 1 d ∧ c.session = d.session ∧
      last.pending.lookup c.session = some d.future ∧
      (answeringClient.stop last).2.futures[c.future]? = some .pending ∧
      ¬ Cancellable answeringClient last := by
  intro history
  have unstopped : RpcAct.stop ∉ history := by
    simp only [history, List.mem_cons, List.mem_append, List.mem_replicate, reduceCtorEq,
      List.not_mem_nil, and_false, or_false, not_false_eq_true]
  let first : RpcWorld Unit :=
    entered ⟨0x1234, 1⟩ "60.0" { fresh () with running := true }
  let wrapped : RpcWorld Unit := { first with sessionCounter := 0 }
  let last : RpcWorld Unit := entered ⟨0x1234, 1⟩ "5.0" wrapped
  have calls : Transition.run answeringClient.step first
      (List.replicate 65535 (.call ⟨0x1234, 1⟩ [7])) = some wrapped := run_calls_answering (w := first) rfl 65535 1
  have ran : Transition.run answeringClient.step (fresh ()) history = some last := by
    have begun : Transition.run answeringClient.step (fresh ())
        [.start, .callAsync ⟨0x1234, 1⟩ [7] "60.0"] = some first := rfl
    have split : history = [.start, .callAsync ⟨0x1234, 1⟩ [7] "60.0"] ++
        (List.replicate 65535 (.call ⟨0x1234, 1⟩ [7]) ++ [.callAsync ⟨0x1234, 1⟩ [7] "5.0"]) := rfl
    rw [split, Transition.run_append, begun, Option.bind_some, Transition.run_append, calls]
    rfl
  have older : Awaits last 0 (nextCall { fresh () with running := true } ⟨0x1234, 1⟩ "60.0") :=
    ⟨rfl, rfl⟩
  have newer : Awaits last 1 (nextCall wrapped ⟨0x1234, 1⟩ "5.0") := ⟨rfl, rfl⟩
  have replaced : last.pending.lookup (nextSessionOf wrapped) = some 1 :=
    lookup_entered_self wrapped ⟨0x1234, 1⟩ "5.0"
  have forgotten : (answeringClient.stop (entered ⟨0x1234, 1⟩ "5.0"
      { entered ⟨0x1234, 1⟩ "60.0" { fresh () with running := true } with
        sessionCounter := 0 })).2.futures[0]? = some .pending := by
    decide +kernel
  refine ⟨unstopped, last, _, _, ran, older, newer, rfl, replaced, forgotten, ?_⟩
  intro cancellable
  have same := cancellable.distinct 0 1 _ _ older newer rfl
  omega

/-- Every key of the table is the session of a call in flight. -/
def OnlyInFlight (w : RpcWorld ω) : Prop :=
  ∀ session ∈ w.pending, ∃ number c, Awaits w number c ∧ c.session = session

/-- A call that ends otherwise than by its time-out has no entry any more, or shares it with
another call in flight. -/
def LeavesNothing (client : RpcClient ω) (w : RpcWorld ω) : RpcAct → Prop
  | .callAsync methodId payload _ =>
      Begins client w → Breaks client w methodId payload →
        ∃ other d, Awaits w other d ∧ d.session = nextSessionOf w
  | .cancelTask number | .resume number =>
      ∀ c, Awaits w number c → c.session ∈ w.pending →
        ∃ other d, (Awaits w other d ∧ other ≠ number) ∧ d.session = c.session
  | _ => True

theorem OnlyInFlight.empty {w : RpcWorld ω} (only : OnlyInFlight w)
    (idle : ∀ (number : Nat) (c : AsyncCall), ¬ Awaits w number c) : w.pending = ∅ := by
  apply AList.ext
  apply List.eq_nil_iff_forall_not_mem.mpr
  intro entry member
  have key : entry.1 ∈ w.pending := List.mem_keys_of_mem member
  obtain ⟨number, c, awaits, _⟩ := only entry.1 key
  exact idle number c awaits

theorem OnlyInFlight.cancelFuture {w : RpcWorld ω} (only : OnlyInFlight w) (future : Nat) :
    OnlyInFlight (w.cancelFuture future) := by
  intro session member
  rw [RpcWorld.cancelFuture_pending] at member
  obtain ⟨number, c, awaits, same⟩ := only session member
  exact ⟨number, c, awaits_cancelFuture.mpr awaits, same⟩

/-- A call that ends without touching the table. -/
theorem onlyInFlight_finish_iff {w : RpcWorld ω} (only : OnlyInFlight w) {ended : Nat}
    {c : AsyncCall} (ends : Awaits w ended c) (outcome : Except Exn Message) :
    OnlyInFlight (w.finish ended outcome) ↔
      (c.session ∈ w.pending →
        ∃ other d, (Awaits w other d ∧ other ≠ ended) ∧ d.session = c.session) := by
  constructor
  · intro after member
    obtain ⟨other, d, awaits, same⟩ := after c.session member
    exact ⟨other, d, awaits_finish.mp awaits, same⟩
  · intro shared session member
    obtain ⟨number, d, awaits, same⟩ := only session member
    by_cases itself : number = ended
    · subst itself
      obtain rfl := awaits_unique ends awaits
      subst same
      obtain ⟨other, e, awaits, same⟩ := shared member
      exact ⟨other, e, awaits_finish.mpr awaits, same⟩
    · exact ⟨number, d, awaits_finish.mpr ⟨awaits, itself⟩, same⟩

theorem onlyInFlight_entered {w : RpcWorld ω} (only : OnlyInFlight w) (methodId : MessageId)
    (timeout : String) (native : ω) :
    OnlyInFlight { entered methodId timeout w with native := native } := by
  intro session member
  rcases (AList.mem_insert w.pending).mp member with new | old
  · exact ⟨w.calls.length, _, awaits_entered.mpr (.inr ⟨rfl, rfl⟩), new.symm⟩
  · obtain ⟨number, c, awaits, same⟩ := only session old
    exact ⟨number, c, awaits_entered.mpr (.inl awaits), same⟩

theorem onlyInFlight_broken_iff {w : RpcWorld ω} (only : OnlyInFlight w) (methodId : MessageId)
    (timeout : String) (native : ω) (exc : Exn) :
    OnlyInFlight ({ entered methodId timeout w with native := native }.finish w.calls.length
        (.error exc)) ↔ ∃ other d, Awaits w other d ∧ d.session = nextSessionOf w := by
  constructor
  · intro after
    obtain ⟨other, d, awaits, same⟩ :=
      after (nextSessionOf w) ((AList.mem_insert w.pending).mpr (.inl rfl))
    exact ⟨other, d, awaits_broken.mp awaits, same⟩
  · rintro ⟨other, d, awaits, same⟩ session member
    rcases (AList.mem_insert w.pending).mp member with new | old
    · exact ⟨other, d, awaits_broken.mpr awaits, same.trans new.symm⟩
    · obtain ⟨number, c, awaits, same⟩ := only session old
      exact ⟨number, c, awaits_broken.mpr awaits, same⟩

theorem onlyInFlight_callAsync {client : RpcClient ω} {w t : RpcWorld ω} {methodId : MessageId}
    {payload : Bytes} {timeout : String} (only : OnlyInFlight w)
    (success : client.step w (.callAsync methodId payload timeout) = some t) :
    OnlyInFlight t ↔ LeavesNothing client w (.callAsync methodId payload timeout) := by
  rcases step_callAsync_cases success with ⟨refused, rfl⟩ | ⟨begins, fine, native, rfl⟩ |
    ⟨begins, breaks, native, exc, rfl⟩
  · exact ⟨fun _ begins => absurd begins refused, fun _ => only⟩
  · apply iff_of_true (onlyInFlight_entered only methodId timeout native)
    intro _ breaks
    exact absurd breaks fine
  · rw [onlyInFlight_broken_iff only]
    exact ⟨fun shared _ _ => shared, fun shared => shared begins breaks⟩

/-- Of the ways a call can end, the time-out alone removes the entry. -/
theorem OnlyInFlight.timeOut {w : RpcWorld ω} (only : OnlyInFlight w) {ended : Nat}
    {c : AsyncCall} (ends : Awaits w ended c) : OnlyInFlight (RpcClient.timeOut ended c w) := by
  intro session member
  have both : session ≠ c.session ∧ session ∈ w.pending := by
    rw [← RpcWorld.cancelFuture_pending w c.future]
    exact AList.mem_erase.mp member
  obtain ⟨number, d, awaits, same⟩ := only session both.2
  refine ⟨number, d, awaits_finish.mpr ⟨awaits_cancelFuture.mpr awaits, ?_⟩, same⟩
  rintro rfl
  obtain rfl := awaits_unique ends awaits
  exact both.1 same.symm

theorem onlyInFlight_step {client : RpcClient ω} {w t : RpcWorld ω} {a : RpcAct}
    (only : OnlyInFlight w) (success : client.step w a = some t) :
    OnlyInFlight t ↔ LeavesNothing client w a := by
  have ended {number : Nat} {c : AsyncCall} (awaits : Awaits w number c) (P : AsyncCall → Prop) :
      (∀ d, Awaits w number d → P d) ↔ P c := by
    constructor
    · exact fun all => all c awaits
    · intro holds d other
      rw [← awaits_unique awaits other]
      exact holds
  cases moves_of_step success with
  | start | stopBroken | call | respond | turn | turnInvalid => exact iff_of_true only trivial
  | stop native =>
      apply iff_of_true _ trivial
      intro session member
      cases member
  | refused | entered | broken => exact onlyInFlight_callAsync only success
  | timeOut number c awaits => exact iff_of_true (only.timeOut awaits) trivial
  | cancelTask number c awaits =>
      have inFlight : Awaits (w.cancelFuture c.future) number c := awaits_cancelFuture.mpr awaits
      rw [LeavesNothing, ended awaits, cancelTask,
        onlyInFlight_finish_iff (only.cancelFuture c.future) inFlight]
      simp only [awaits_cancelFuture, RpcWorld.cancelFuture_pending]
  | resumeDone number c message awaits done =>
      rw [LeavesNothing, ended awaits, onlyInFlight_finish_iff only awaits]
  | resumeCancelled number c awaits cancelled =>
      rw [LeavesNothing, ended awaits, onlyInFlight_finish_iff only awaits]

/-- In every state of a run the table holds calls in flight only, and nothing when there is
none, exactly when no call leaves its entry behind. -/
theorem only_in_flight_iff {client : RpcClient ω} {native : ω} {last : RpcWorld ω}
    {history : List RpcAct} (ran : Transition.run client.step (fresh native) history = some last) :
    Transition.Along client.step (LeavesNothing client) (fresh native) history ↔
      ∀ front, front <+: history → ∀ t,
        Transition.run client.step (fresh native) front = some t →
          OnlyInFlight t ∧
            ((∀ (number : Nat) (c : AsyncCall), ¬ Awaits t number c) → t.pending = ∅) := by
  have kept (w : RpcWorld ω) (a : RpcAct) (t : RpcWorld ω) (_ : True)
      (_ : client.step w a = some t) : True := trivial
  have exactly (w : RpcWorld ω) (a : RpcAct) (t : RpcWorld ω) (_ : True) (only : OnlyInFlight w)
      (success : client.step w a = some t) : OnlyInFlight t ↔ LeavesNothing client w a :=
    onlyInFlight_step only success
  have start : OnlyInFlight (fresh native) := by
    intro session member
    cases member
  rw [Transition.along_iff_always kept exactly trivial start ran]
  constructor
  · intro always front inside t reached
    exact ⟨always front inside t reached, (always front inside t reached).empty⟩
  · intro always front inside t reached
    exact (always front inside t reached).1

theorem only_in_flight_iff_answered :
    Transition.Along answeringClient.step (LeavesNothing answeringClient) (fresh ())
        [.start, .callAsync ⟨0x1234, 1⟩ [7] "5.0", .timeOut 0] ↔
      ∀ front, front <+: [.start, .callAsync ⟨0x1234, 1⟩ [7] "5.0", .timeOut 0] → ∀ t,
        Transition.run answeringClient.step (fresh ()) front = some t →
          OnlyInFlight t ∧
            ((∀ (number : Nat) (c : AsyncCall), ¬ Awaits t number c) → t.pending = ∅) :=
  only_in_flight_iff rfl

/-- A call that returned normally is still in the table. -/
theorem answered_call_left_behind :
    ∃ last, Transition.run answeringClient.step (fresh ())
        [.start, .callAsync ⟨0x1234, 1⟩ [7] "5.0", .respond 0 ⟨.success, [1]⟩, .turn,
          .resume 0] = some last ∧
      (∀ (number : Nat) (c : AsyncCall), ¬ Awaits last number c) ∧ 1 ∈ last.pending ∧
      ¬ OnlyInFlight last := by
  refine ⟨_, rfl, ?_⟩
  generalize ran : RpcWorld.finish _ _ _ = last
  have idle (number : Nat) (c : AsyncCall) : ¬ Awaits last number c := by
    subst ran
    rintro ⟨found, open_⟩
    cases number with
    | zero =>
        cases found
        cases open_
    | succ number => cases found
  have left : 1 ∈ last.pending := by
    subst ran
    exact (AList.mem_insert _).mpr (.inl rfl)
  refine ⟨idle, left, ?_⟩
  intro only
  obtain ⟨number, c, awaits, _⟩ := only 1 left
  exact idle number c awaits

end RpcClient

end OpenSomeIp
