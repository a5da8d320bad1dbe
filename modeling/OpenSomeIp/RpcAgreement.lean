import OpenSomeIp.RpcSystem

set_option autoImplicit false

namespace OpenSomeIp

/-- How the native client ends a call. -/
inductive NativeOutcome where
  | returned (outcome : RpcOutcome)
  | raised (exc : Exn)

namespace NativeOutcome

/-- What `call_method_sync` comes to. -/
def sync : NativeOutcome → Except Exn RpcOutcome
  | .returned outcome => .ok outcome
  | .raised exc => .error exc

/-- What `call_method_async` comes to; a returned outcome goes to the callback. -/
def async : NativeOutcome → Except Exn Unit
  | .returned _ => .ok ()
  | .raised exc => .error exc

/-- A result with code SUCCESS, or an exception that is an `RpcError` already. -/
def Plain : NativeOutcome → Prop
  | .returned outcome => outcome.result = .success
  | .raised exc => exc.isRpcError = true

end NativeOutcome

/-- Both raise `RpcError`, or both return a response and the two say the same. -/
def SameVerdict : Except Exn Message → Except Exn Message → Prop
  | .ok a, .ok b =>
      a.messageType = .response ∧ b.messageType = .response ∧ a.messageId = b.messageId ∧
        a.returnCode = b.returnCode ∧ a.payload = b.payload
  | .error e, .error f => e.isRpcError = true ∧ f.isRpcError = true
  | _, _ => False

/-- No failure comes back as `E_OK`. -/
def NoFailureAsOk (outcome : NativeOutcome) (verdict : Except Exn Message) : Prop :=
  ∀ native, outcome = .returned native → native.result ≠ .success →
    ∀ message, verdict = .ok message → message.returnCode ≠ .eOk

def Agree (outcome : NativeOutcome) (sync async : Except Exn Message) : Prop :=
  SameVerdict sync async ∧ NoFailureAsOk outcome sync ∧ NoFailureAsOk outcome async

namespace RpcClient

variable {ω : Type}

/-- Nothing but the outcome of the call ends it. -/
def Undisturbed (number : Nat) (outcome : NativeOutcome) : RpcAct → Prop
  | .stop => False
  | .timeOut other => other ≠ number
  | .cancelTask other => other ≠ number
  | .respond other resp => other = number → outcome = .returned resp
  | _ => True

def Ended (w : RpcWorld ω) (number : Nat) (verdict : Except Exn Message) : Prop :=
  ∃ c, w.calls[number]? = some c ∧ c.outcome = some verdict

/-- A run of `call_async` in which the outcome arrived in time. -/
structure Delivered (client : RpcClient ω) (w : RpcWorld ω) (methodId : MessageId)
    (payload : Bytes) (timeout : String) (outcome : NativeOutcome) (acts : List RpcAct)
    (last : RpcWorld ω) (verdict : Except Exn Message) : Prop where
  undisturbed : ∀ a ∈ acts, Undisturbed w.calls.length outcome a
  ran : Transition.run client.step w (.callAsync methodId payload timeout :: acts) = some last
  ended : Ended last w.calls.length verdict

/-- What `call_async` makes of an outcome: it never looks at the result code. -/
def asyncVerdict (client : RpcClient ω) (w : RpcWorld ω) (methodId : MessageId) :
    NativeOutcome → Except Exn Message
  | .returned outcome =>
      .ok (client.response methodId ((w.sessionCounter + 1) &&& 0xFFFF) outcome.returnValues)
  | .raised exc => .error exc

/-- A call in flight, and `message` the only response on its way. -/
structure Tracks (number : Nat) (c : AsyncCall) (message : Message) (w : RpcWorld ω) : Prop where
  registered : w.calls[number]? = some c ∨
    w.calls[number]? = some { c with outcome := some (.ok message) }
  alone : ∀ (other : Nat) (d : AsyncCall),
    w.calls[other]? = some d → d.future = c.future → other = number
  state : w.futures[c.future]? = some .pending ∨ w.futures[c.future]? = some (.done message)
  carried : ∀ entry ∈ w.ready, entry.1 = c.future → entry.2 = message

namespace Tracks

variable {number : Nat} {c : AsyncCall} {message : Message} {w : RpcWorld ω}

theorem inside (tracks : Tracks number c message w) : c.future < w.futures.length := by
  cases tracks.state with
  | inl pending => exact (List.getElem?_eq_some_iff.mp pending).1
  | inr done => exact (List.getElem?_eq_some_iff.mp done).1

theorem listed (tracks : Tracks number c message w) : number < w.calls.length := by
  cases tracks.registered with
  | inl open_ => exact (List.getElem?_eq_some_iff.mp open_).1
  | inr closed => exact (List.getElem?_eq_some_iff.mp closed).1

/-- Another call awaits another future. -/
theorem apart (tracks : Tracks number c message w) {other : Nat} {d : AsyncCall}
    (found : w.calls[other]? = some d) (different : other ≠ number) : d.future ≠ c.future :=
  fun same => different (tracks.alone other d found same)

/-- The end of a call gives its future to nobody else. -/
theorem alone_finish (tracks : Tracks number c message w) (other : Nat)
    (outcome : Except Exn Message) (third : Nat) (d : AsyncCall)
    (found : (w.finish other outcome).calls[third]? = some d) (same : d.future = c.future) :
    third = number := by
  obtain ⟨before, known, future⟩ := RpcWorld.finish_known found
  apply tracks.alone third before known
  rw [future, same]

theorem finish_other (tracks : Tracks number c message w) {other : Nat}
    (different : other ≠ number) (outcome : Except Exn Message) :
    Tracks number c message (w.finish other outcome) where
  registered := by
    rw [RpcWorld.finish_of_ne different]
    exact tracks.registered
  alone := tracks.alone_finish other outcome
  state := tracks.state
  carried := tracks.carried

theorem cancel_other (tracks : Tracks number c message w) {future : Nat}
    (different : future ≠ c.future) : Tracks number c message (w.cancelFuture future) where
  registered := by
    rw [RpcWorld.cancelFuture_calls]
    exact tracks.registered
  alone := by
    rw [RpcWorld.cancelFuture_calls]
    exact tracks.alone
  state := by
    rw [RpcWorld.cancelFuture_of_ne different]
    exact tracks.state
  carried := by
    rw [RpcWorld.cancelFuture_ready]
    exact tracks.carried

theorem entered_other (tracks : Tracks number c message w) (methodId : MessageId)
    (timeout : String) (native : ω) :
    Tracks number c message { entered methodId timeout w with native := native } where
  registered := by
    rw [entered, List.getElem?_append_left tracks.listed]
    exact tracks.registered
  alone := by
    intro other d found same
    have bound := tracks.inside
    rcases entered_calls found with before | ⟨_, new⟩
    · exact tracks.alone other d before same
    · omega
  state := by
    rw [entered, List.getElem?_append_left tracks.inside]
    exact tracks.state
  carried := tracks.carried

/-- The callback of the call itself sends the one message, that of another call
goes to another future. -/
theorem respond {client : RpcClient ω} {native resp : RpcOutcome} {other : Nat} {d : AsyncCall}
    (tracks : Tracks number c (client.response c.methodId c.session native.returnValues) w)
    (found : w.calls[other]? = some d) (own : other = number → native = resp) :
    Tracks number c (client.response c.methodId c.session native.returnValues)
      (client.onResponse d resp w) where
  registered := tracks.registered
  alone := tracks.alone
  state := tracks.state
  carried := by
    intro entry member same
    rcases List.mem_append.mp member with before | new
    · exact tracks.carried entry before same
    · rw [List.mem_singleton.mp new] at same ⊢
      have itself : other = number := tracks.alone other d found same
      rw [← own itself]
      rw [itself] at found
      cases tracks.registered with
      | inl open_ => cases open_.symm.trans found; rfl
      | inr closed => cases closed.symm.trans found; rfl

theorem turn {future : Nat} {arrived : Message} {rest : List (Nat × Message)}
    (tracks : Tracks number c message w) (head : w.ready = (future, arrived) :: rest)
    (waits : w.futures[future]? = some .pending) :
    Tracks number c message
      { w with ready := rest, futures := w.futures.set future (.done arrived) } where
  registered := tracks.registered
  alone := tracks.alone
  state := by
    by_cases own : future = c.future
    · subst own
      have same : arrived = message := tracks.carried _ (head ▸ List.mem_cons_self) rfl
      rw [same, List.getElem?_set_self tracks.inside]
      exact .inr rfl
    · rw [List.getElem?_set_ne own]
      exact tracks.state
  carried := by
    intro entry member
    exact tracks.carried entry (head ▸ List.mem_cons_of_mem _ member)

/-- The call that awaits under its number is the one that is tracked. -/
theorem itself (tracks : Tracks number c message w) {d : AsyncCall} (awaits : Awaits w number d) :
    d = c := by
  obtain ⟨found, open_⟩ := awaits
  cases tracks.registered with
  | inl same => exact Option.some.inj (found.symm.trans same)
  | inr closed =>
      cases closed.symm.trans found
      cases open_

end Tracks

theorem tracks_step {client : RpcClient ω} {w t : RpcWorld ω} {a : RpcAct} {number : Nat}
    {c : AsyncCall} {native : RpcOutcome}
    (tracks : Tracks number c (client.response c.methodId c.session native.returnValues) w)
    (undisturbed : Undisturbed number (.returned native) a) (success : client.step w a = some t) :
    Tracks number c (client.response c.methodId c.session native.returnValues) t := by
  cases moves_of_step success with
  | stopBroken | stop => exact undisturbed.elim
  | start | call | refused =>
      exact ⟨tracks.registered, tracks.alone, tracks.state, tracks.carried⟩
  | entered methodId payload timeout native => exact tracks.entered_other methodId timeout native
  | broken methodId payload timeout native exc =>
      apply (tracks.entered_other methodId timeout native).finish_other
      have bound := tracks.listed
      omega
  | respond other resp d found =>
      apply tracks.respond found
      intro own
      exact NativeOutcome.returned.inj (undisturbed own)
  | turn future arrived rest head waits => exact tracks.turn head waits
  | turnInvalid future arrived rest head settled =>
      refine ⟨tracks.registered, tracks.alone, tracks.state, ?_⟩
      intro entry member
      exact tracks.carried entry (head ▸ List.mem_cons_of_mem _ member)
  | timeOut other d awaits =>
      have cancelled := tracks.cancel_other (tracks.apart awaits.1 undisturbed)
      apply Tracks.finish_other _ undisturbed
      exact ⟨cancelled.registered, cancelled.alone, cancelled.state, cancelled.carried⟩
  | cancelTask other d awaits =>
      exact (tracks.cancel_other (tracks.apart awaits.1 undisturbed)).finish_other undisturbed _
  | resumeDone other d arrived awaits done =>
      by_cases own : other = number
      · subst own
        obtain rfl := tracks.itself awaits
        cases tracks.state with
        | inl pending => cases pending.symm.trans done
        | inr completed =>
            cases completed.symm.trans done
            exact ⟨.inr (RpcWorld.finish_self awaits.1 _), tracks.alone_finish other _,
              tracks.state, tracks.carried⟩
      · exact tracks.finish_other own _
  | resumeCancelled other d awaits cancelled =>
      by_cases own : other = number
      · subst own
        obtain rfl := tracks.itself awaits
        cases tracks.state with
        | inl pending => cases pending.symm.trans cancelled
        | inr completed => cases completed.symm.trans cancelled
      · exact tracks.finish_other own _

/-- The call a client in state `w` is about to make. -/
def nextCall (w : RpcWorld ω) (methodId : MessageId) (timeout : String) : AsyncCall where
  methodId := methodId
  session := (w.sessionCounter + 1) &&& 0xFFFF
  future := w.futures.length
  timeout := timeout

theorem entered_last (w : RpcWorld ω) (methodId : MessageId) (timeout : String) :
    (entered methodId timeout w).calls[w.calls.length]? = some (nextCall w methodId timeout) := by
  rw [entered, List.getElem?_append_right (Nat.le_refl _), Nat.sub_self, List.getElem?_cons_zero]
  rfl

/-- No response to a new call is on its way. -/
theorem tracks_entered {w : RpcWorld ω} (known : Known w) (methodId : MessageId)
    (timeout : String) (native : ω) (message : Message) :
    Tracks w.calls.length (nextCall w methodId timeout) message
      { entered methodId timeout w with native := native } where
  registered := .inl (entered_last w methodId timeout)
  alone := by
    intro other d found same
    rcases entered_calls found with before | ⟨last, _⟩
    · have bound := known.calls other d before
      simp only [nextCall] at same
      omega
    · exact last
  state := by
    rw [entered, nextCall, List.getElem?_append_right (Nat.le_refl _), Nat.sub_self]
    exact .inl rfl
  carried := by
    intro entry member same
    have bound := known.ready entry member
    simp only [nextCall] at same
    omega

section Outcome

variable {client : RpcClient ω} {cpp : NativeRpcClient ω} {w : RpcWorld ω} {outcome : NativeOutcome}
variable {methodId : MessageId} {payload : Bytes} (timeout : String)

theorem step_callAsync_returned (running : w.running = true) (present : client.cpp = some cpp)
    (returned : (cpp.callMethodAsync methodId.serviceId methodId.methodId payload w.native).1 =
      .ok ()) :
    ∃ native, client.step w (.callAsync methodId payload timeout) =
      some { entered methodId timeout w with native := native } := by
  rw [step, callAsync_eq running present]
  cases ran : cpp.callMethodAsync methodId.serviceId methodId.methodId payload w.native with
  | mk result native =>
      rw [ran] at returned
      cases returned
      exact ⟨native, rfl⟩

theorem step_callAsync_raised {exc : Exn} (running : w.running = true)
    (present : client.cpp = some cpp)
    (raised : (cpp.callMethodAsync methodId.serviceId methodId.methodId payload w.native).1 =
      .error exc) :
    ∃ native, client.step w (.callAsync methodId payload timeout) =
      some ({ entered methodId timeout w with native := native }.finish w.calls.length
        (.error exc)) := by
  rw [step, callAsync_eq running present]
  cases ran : cpp.callMethodAsync methodId.serviceId methodId.methodId payload w.native with
  | mk result native =>
      rw [ran] at raised
      cases raised
      exact ⟨native, rfl⟩

/-- However the outcome reaches the coroutine, the verdict is settled by it. -/
theorem verdict_of_delivered {timeout : String} (known : Known w) (running : w.running = true)
    (present : client.cpp = some cpp)
    (ends : (cpp.callMethodAsync methodId.serviceId methodId.methodId payload w.native).1 =
      outcome.async)
    {acts : List RpcAct} {last : RpcWorld ω} {verdict : Except Exn Message}
    (delivered : Delivered client w methodId payload timeout outcome acts last verdict) :
    verdict = client.asyncVerdict w methodId outcome := by
  obtain ⟨t, first, rest⟩ := Transition.run_cons_eq_some delivered.ran
  obtain ⟨c, found, closed⟩ := delivered.ended
  cases outcome with
  | returned native =>
      obtain ⟨left, entry⟩ := step_callAsync_returned timeout running present ends
      cases first.symm.trans entry
      have tracks : Tracks w.calls.length (nextCall w methodId timeout)
          (client.response methodId ((w.sessionCounter + 1) &&& 0xFFFF) native.returnValues) last :=
        Transition.invariant_among (fun _ _ _ => tracks_step)
          (tracks_entered known methodId timeout left _) delivered.undisturbed rest
      cases tracks.registered with
      | inl open_ =>
          cases open_.symm.trans found
          cases closed
      | inr completed =>
          cases completed.symm.trans found
          exact (Option.some.inj closed).symm
  | raised exc =>
      obtain ⟨left, entry⟩ := step_callAsync_raised timeout running present ends
      have broken : t.calls[w.calls.length]? =
          some { nextCall w methodId timeout with outcome := some (.error exc) } := by
        rw [Option.some.inj (first.symm.trans entry)]
        exact RpcWorld.finish_self (entered_last w methodId timeout) (.error exc)
      have kept := Transition.invariant_run
        (fun _ _ _ ended success => ended_step ended rfl success) broken rest
      cases kept.symm.trans found
      exact (Option.some.inj closed).symm

/-- Where the call still waits, its message is among what the loop will execute. -/
def Coming (c : AsyncCall) (message : Message) (u : RpcWorld ω) : Prop :=
  u.futures[c.future]? = some .pending → (c.future, message) ∈ u.ready

theorem coming_turn (client : RpcClient ω) {number : Nat} {c : AsyncCall} {message : Message} {u : RpcWorld ω}
    {entry : Nat × Message} {rest : List (Nat × Message)} (tracks : Tracks number c message u)
    (coming : Coming c message u) (head : u.ready = entry :: rest) :
    ∃ t, client.step u .turn = some t ∧ t.calls = u.calls ∧ t.ready = rest ∧ Coming c message t := by
  obtain ⟨future, arrived⟩ := entry
  obtain ⟨t, turned⟩ : ∃ t, client.step u .turn = some t :=
    ⟨_, by simp only [step, turn, head]; rfl⟩
  have later (before : u.futures[c.future]? = some .pending) (different : future ≠ c.future) :
      (c.future, message) ∈ rest := by
    have member := coming before
    rw [head] at member
    rcases List.mem_cons.mp member with first | later
    · exact absurd (congrArg Prod.fst first).symm different
    · exact later
  refine ⟨t, turned, ?_⟩
  cases moves_of_step turned with
  | turn _ _ _ same waits =>
      cases head.symm.trans same
      refine ⟨rfl, rfl, ?_⟩
      intro pending
      by_cases own : future = c.future
      · rw [own, List.getElem?_set_self tracks.inside] at pending
        cases pending
      · rw [List.getElem?_set_ne own] at pending
        exact later pending own
  | turnInvalid _ _ _ same settled =>
      cases head.symm.trans same
      refine ⟨rfl, rfl, ?_⟩
      intro pending
      apply later pending
      rintro rfl
      exact settled pending

/-- The loop executes what is ready, and the message reaches its future. -/
theorem drained {number : Nat} {c : AsyncCall} {native : RpcOutcome} {u : RpcWorld ω}
    (tracks : Tracks number c (client.response c.methodId c.session native.returnValues) u)
    (coming : Coming c (client.response c.methodId c.session native.returnValues) u) :
    ∃ count t, Transition.run client.step u (List.replicate count .turn) = some t ∧
      t.calls = u.calls ∧ t.futures[c.future]? =
        some (.done (client.response c.methodId c.session native.returnValues)) := by
  refine ⟨u.ready.length, ?_⟩
  generalize size : u.ready.length = count
  induction count generalizing u with
  | zero =>
      refine ⟨u, rfl, rfl, ?_⟩
      cases tracks.state with
      | inl pending =>
          have member := coming pending
          rw [List.length_eq_zero_iff.mp size] at member
          cases member
      | inr done => exact done
  | succ count ih =>
      cases head : u.ready with
      | nil =>
          rw [head] at size
          cases size
      | cons entry rest =>
          obtain ⟨middle, turned, calls, ready, still⟩ := coming_turn client tracks coming head
          have left : middle.ready.length = count := by
            rw [head, List.length_cons] at size
            rw [ready]
            omega
          have quiet : Undisturbed number (.returned native) .turn := trivial
          obtain ⟨t, ran, same, done⟩ := ih (tracks_step tracks quiet turned) still left
          refine ⟨t, ?_, same.trans calls, done⟩
          rw [List.replicate_succ, Transition.run_cons_of_some turned, ran]

/-- A response that arrives now ends the call once the loop has come to it. -/
theorem answered {number : Nat} {c : AsyncCall} {native : RpcOutcome} {u : RpcWorld ω}
    (tracks : Tracks number c (client.response c.methodId c.session native.returnValues) u)
    (awaits : Awaits u number c) :
    ∃ count last,
      Transition.run client.step u
        (.respond number native :: (List.replicate count .turn ++ [.resume number])) = some last ∧
      Ended last number (.ok (client.response c.methodId c.session native.returnValues)) := by
  have responded : client.step u (.respond number native) =
      some (client.onResponse c native u) := by
    rw [step, awaits.1, Option.map_some]
  have coming : Coming c (client.response c.methodId c.session native.returnValues)
      (client.onResponse c native u) :=
    fun _ => List.mem_append_right _ List.mem_cons_self
  obtain ⟨count, t, ran, calls, done⟩ := drained (tracks.respond awaits.1 fun _ => rfl) coming
  have still : Awaits t number c := by
    refine ⟨?_, awaits.2⟩
    rw [calls]
    exact awaits.1
  have resumed : client.step t (.resume number) =
      some (t.finish number (.ok (client.response c.methodId c.session native.returnValues))) := by
    rw [step, awaiting_eq_some.mpr still, Option.bind_some, resume, done]
  refine ⟨count, _, ?_, _, RpcWorld.finish_self still.1 _, rfl⟩
  rw [Transition.run_cons_of_some responded, Transition.run_append, ran, Option.bind_some,
    Transition.run_cons_of_some resumed]
  rfl

/-- A run that brings the outcome in time exists. -/
theorem exists_delivered (known : Known w) (running : w.running = true)
    (present : client.cpp = some cpp)
    (ends : (cpp.callMethodAsync methodId.serviceId methodId.methodId payload w.native).1 =
      outcome.async) :
    ∃ acts last verdict, Delivered client w methodId payload timeout outcome acts last verdict := by
  cases outcome with
  | returned native =>
      obtain ⟨left, entry⟩ := step_callAsync_returned timeout running present ends
      have tracks : Tracks w.calls.length (nextCall w methodId timeout)
          (client.response methodId ((w.sessionCounter + 1) &&& 0xFFFF) native.returnValues)
          { entered methodId timeout w with native := left } :=
        tracks_entered known methodId timeout left _
      have awaits : Awaits { entered methodId timeout w with native := left } w.calls.length
          (nextCall w methodId timeout) := ⟨entered_last w methodId timeout, rfl⟩
      obtain ⟨count, last, ran, ended⟩ := answered tracks awaits
      have quiet : ∀ a ∈ .respond w.calls.length native ::
          (List.replicate count .turn ++ [.resume w.calls.length]),
          Undisturbed w.calls.length (.returned native) a := by
        intro a member
        rcases List.mem_cons.mp member with rfl | member
        · exact fun _ => rfl
        · rcases List.mem_append.mp member with turns | resumes
          · rw [List.eq_of_mem_replicate turns]
            trivial
          · rw [List.mem_singleton.mp resumes]
            trivial
      exact ⟨_, last, _, quiet, (Transition.run_cons_of_some entry _).trans ran, ended⟩
  | raised exc =>
      obtain ⟨left, entry⟩ := step_callAsync_raised timeout running present ends
      refine ⟨[], _, .error exc, ?_, Transition.run_cons_of_some entry [], ?_⟩
      · intro a member
        cases member
      · exact ⟨_, RpcWorld.finish_self (entered_last w methodId timeout) (.error exc), rfl⟩

/-- What `call` makes of an outcome: the same response where the code is SUCCESS, else an
exception. -/
theorem call_verdict (running : w.running = true) (present : client.cpp = some cpp)
    (zero_iff : ∀ result, cpp.int result = 0 ↔ result = .success)
    (ends : (cpp.callMethodSync methodId.serviceId methodId.methodId payload w.native).1 =
      outcome.sync) :
    (∃ native, outcome = .returned native ∧ native.result = .success ∧
      (client.call methodId payload w).1 = client.asyncVerdict w methodId outcome) ∨
    (∃ native reason, outcome = .returned native ∧ native.result ≠ .success ∧
      (client.call methodId payload w).1 = .error reason ∧ reason.isRpcError = true) ∨
    ∃ exc reason, outcome = .raised exc ∧ (client.call methodId payload w).1 = .error reason ∧
      reason.isRpcError = exc.isException := by
  cases ran : cpp.callMethodSync methodId.serviceId methodId.methodId payload w.native with
  | mk result left =>
      rw [ran] at ends
      cases outcome with
      | returned native =>
          cases ends
          by_cases success : native.result = .success
          · have zero := (zero_iff native.result).mpr success
            refine .inl ⟨native, rfl, success, ?_⟩
            rw [call_of_ok running present (callNative_of_success ran zero)]
            rfl
          · have nonzero := mt (zero_iff native.result).mp success
            obtain ⟨reason, raised, kind⟩ :=
              call_of_error running present (callNative_of_failure ran nonzero)
            refine .inr (.inl ⟨native, reason, rfl, success, ?_, kind⟩)
            rw [raised]
      | raised exc =>
          cases ends
          obtain ⟨reason, raised, kind⟩ :=
            call_of_error running present (callNative_of_raised ran)
          refine .inr (.inr ⟨exc, reason, rfl, ?_, kind⟩)
          rw [raised]

/-- The two verdicts on one outcome agree exactly when it is a plain one. -/
theorem agree_iff (running : w.running = true) (present : client.cpp = some cpp)
    (zero_iff : ∀ result, cpp.int result = 0 ↔ result = .success)
    (ends : (cpp.callMethodSync methodId.serviceId methodId.methodId payload w.native).1 =
      outcome.sync) :
    Agree outcome (client.call methodId payload w).1 (client.asyncVerdict w methodId outcome) ↔
      outcome.Plain := by
  rcases call_verdict running present zero_iff ends with
    ⟨native, rfl, success, same⟩ | ⟨native, reason, rfl, failure, same, kind⟩ |
    ⟨exc, reason, rfl, same, kind⟩
  · have honest (verdict : Except Exn Message) : NoFailureAsOk (.returned native) verdict := by
      intro other outcome failure
      rw [← NativeOutcome.returned.inj outcome] at failure
      exact absurd success failure
    rw [same]
    exact ⟨fun _ => success, fun _ => ⟨⟨rfl, rfl, rfl, rfl, rfl⟩, honest _, honest _⟩⟩
  · rw [same]
    constructor
    · rintro ⟨verdict, _⟩
      exact verdict.elim
    · intro success
      exact absurd success failure
  · rw [same]
    constructor
    · rintro ⟨⟨_, rpc⟩, _⟩
      exact rpc
    · intro rpc
      refine ⟨⟨?_, rpc⟩, ?_, ?_⟩
      · rw [kind]
        exact exc.isException_of_isRpcError rpc
      · intro native outcome
        cases outcome
      · intro native outcome
        cases outcome

/-- From every state a running client can be in, the two calls give the same verdict on
an outcome exactly when it is a SUCCESS result or an `RpcError`. -/
theorem calls_agree_iff (present : client.cpp = some cpp)
    (zero_iff : ∀ result, cpp.int result = 0 ↔ result = .success) {native : ω}
    {history : List RpcAct}
    (reached : Transition.run client.step (fresh native) history = some w)
    (running : w.running = true)
    (syncEnds : (cpp.callMethodSync methodId.serviceId methodId.methodId payload w.native).1 =
      outcome.sync)
    (asyncEnds : (cpp.callMethodAsync methodId.serviceId methodId.methodId payload w.native).1 =
      outcome.async) :
    (∃ acts last verdict, Delivered client w methodId payload timeout outcome acts last verdict) ∧
    ((∀ acts last verdict, Delivered client w methodId payload timeout outcome acts last verdict →
        Agree outcome (client.call methodId payload w).1 verdict) ↔
      outcome.Plain) := by
  have known := known_reached reached
  have delivers := exists_delivered timeout known running present asyncEnds
  have settled {acts : List RpcAct} {last : RpcWorld ω} {verdict : Except Exn Message}
      (delivered : Delivered client w methodId payload timeout outcome acts last verdict) :
      verdict = client.asyncVerdict w methodId outcome :=
    verdict_of_delivered known running present asyncEnds delivered
  have exact_ := agree_iff running present zero_iff syncEnds
  refine ⟨delivers, ?_⟩
  constructor
  · intro agree
    obtain ⟨acts, last, verdict, delivered⟩ := delivers
    have both := agree acts last verdict delivered
    rw [settled delivered] at both
    exact exact_.mp both
  · intro plain acts last verdict delivered
    rw [settled delivered]
    exact exact_.mpr plain

end Outcome

/-- A native client all of whose calls end with one outcome. -/
def answering (outcome : RpcOutcome) : NativeRpcClient Unit where
  int
    | .success => 0
    | .timeout => 1
    | .networkError => 2
    | .invalidParameters => 3
    | .methodNotFound => 4
    | .serviceNotAvailable => 5
    | .wrongInterfaceVersion => 6
    | .internalError => 7
  initializeClient := pure ()
  shutdown := pure ()
  callMethodSync _ _ _ := pure outcome
  callMethodAsync _ _ _ := pure ()

theorem calls_agree_iff_success :
    let client : RpcClient Unit := { cpp := some (answering ⟨.success, [1]⟩) }
    let w : RpcWorld Unit := { fresh () with running := true }
    (∃ acts last verdict,
      Delivered client w ⟨0x1234, 1⟩ [7] "5.0" (.returned ⟨.success, [1]⟩) acts last verdict) ∧
    ((∀ acts last verdict,
        Delivered client w ⟨0x1234, 1⟩ [7] "5.0" (.returned ⟨.success, [1]⟩) acts last verdict →
          Agree (.returned ⟨.success, [1]⟩) (client.call ⟨0x1234, 1⟩ [7] w).1 verdict) ↔
      (NativeOutcome.returned ⟨.success, [1]⟩).Plain) := by
  intro client w
  have zero_iff : ∀ result, (answering ⟨.success, [1]⟩).int result = 0 ↔ result = .success := by
    intro result
    cases result <;> decide
  have reached : Transition.run client.step (fresh ()) [.start] = some w := rfl
  exact calls_agree_iff "5.0" rfl zero_iff reached rfl rfl rfl

/-- A method that the server does not have: `call` raises, `call_async` returns `E_OK`. -/
theorem method_not_found_as_ok :
    let client : RpcClient Unit := { cpp := some (answering ⟨.methodNotFound, []⟩) }
    let w : RpcWorld Unit := { fresh () with running := true }
    (client.call ⟨0x1234, 1⟩ [7] w).1 =
        .error (.rpcError ("RPC call to MessageId(service_id=0x1234, method_id=0x0001) " ++
          "failed with native result code RpcResult.METHOD_NOT_FOUND")) ∧
      ∃ acts last message,
        Delivered client w ⟨0x1234, 1⟩ [7] "5.0" (.returned ⟨.methodNotFound, []⟩) acts last
          (.ok message) ∧
        message.returnCode = .eOk ∧
        ¬ Agree (.returned ⟨.methodNotFound, []⟩) (client.call ⟨0x1234, 1⟩ [7] w).1
          (.ok message) := by
  intro client w
  have raised : (client.call ⟨0x1234, 1⟩ [7] w).1 =
      .error (.rpcError ("RPC call to MessageId(service_id=0x1234, method_id=0x0001) " ++
        "failed with native result code RpcResult.METHOD_NOT_FOUND")) := rfl
  refine ⟨raised, [.respond 0 ⟨.methodNotFound, []⟩, .turn, .resume 0], _, _,
    ⟨?_, rfl, _, rfl, rfl⟩, rfl, ?_⟩
  · intro a member
    simp only [List.mem_cons, List.not_mem_nil, or_false] at member
    rcases member with rfl | rfl | rfl
    · exact fun _ => rfl
    · trivial
    · trivial
  · rw [raised]
    rintro ⟨verdict, _⟩
    exact verdict.elim

end RpcClient

end OpenSomeIp
