import OpenSomeIp.Lib.Transition
import OpenSomeIp.Rpc

set_option autoImplicit false

namespace OpenSomeIp

/-- What happens around a client. The native client calls a callback whenever and as
often as it likes; `number` names the asynchronous call. -/
inductive RpcAct where
  | start
  | stop
  | call (methodId : MessageId) (payload : Bytes)
  | callAsync (methodId : MessageId) (payload : Bytes) (timeout : String)
  | respond (number : Nat) (resp : RpcOutcome)
  | turn
  | timeOut (number : Nat)
  | cancelTask (number : Nat)
  | resume (number : Nat)
  deriving DecidableEq, Repr

namespace RpcClient

variable {ω : Type}

/-- The call awaits its future. -/
def Awaits (w : RpcWorld ω) (number : Nat) (c : AsyncCall) : Prop :=
  w.calls[number]? = some c ∧ c.outcome.isNone = true

/-- The coroutine that stands at its `await`. -/
def awaiting (w : RpcWorld ω) (number : Nat) : Option AsyncCall :=
  w.calls[number]?.filter fun c => c.outcome.isNone

/-- The loop executes the next `set_result`; an `InvalidStateError` stays in the loop. -/
def turn (w : RpcWorld ω) : Option (RpcWorld ω) :=
  match w.ready with
  | [] => none
  | (future, message) :: rest => some (RpcWorld.setResult future message { w with ready := rest }).2

def step (client : RpcClient ω) (w : RpcWorld ω) : RpcAct → Option (RpcWorld ω)
  | .start => some (client.start w).2
  | .stop => some (client.stop w).2
  | .call methodId payload => some (client.call methodId payload w).2
  | .callAsync methodId payload timeout => some (client.callAsync methodId payload timeout w).2
  | .respond number resp => w.calls[number]?.map fun c => client.onResponse c resp w
  | .turn => turn w
  | .timeOut number => (awaiting w number).map fun c => timeOut number c w
  | .cancelTask number => (awaiting w number).map fun c => cancelTask number c w
  | .resume number => (awaiting w number).bind fun c => resume number c w

/-- What each action does. A `BaseException` of the native client may end `start` and `stop`
early. -/
inductive Moves (client : RpcClient ω) (w : RpcWorld ω) : RpcAct → RpcWorld ω → Prop
  | start (native : ω) (running : Bool) :
      Moves client w .start { w with native := native, running := running }
  | stopBroken (native : ω) : Moves client w .stop { w with native := native }
  | stop (native : ω) :
      Moves client w .stop
        { { w with native := native, running := false }.cancelPending with pending := ∅ }
  | call (methodId : MessageId) (payload : Bytes) (native : ω) (counter : Nat)
      (advanced : counter = w.sessionCounter ∨ counter = (w.sessionCounter + 1) &&& 0xFFFF) :
      Moves client w (.call methodId payload)
        { w with native := native, sessionCounter := counter }
  | refused (methodId : MessageId) (payload : Bytes) (timeout : String) :
      Moves client w (.callAsync methodId payload timeout) w
  | entered (methodId : MessageId) (payload : Bytes) (timeout : String) (native : ω) :
      Moves client w (.callAsync methodId payload timeout)
        { entered methodId timeout w with native := native }
  | broken (methodId : MessageId) (payload : Bytes) (timeout : String) (native : ω) (exc : Exn) :
      Moves client w (.callAsync methodId payload timeout)
        ({ entered methodId timeout w with native := native }.finish w.calls.length (.error exc))
  | respond (number : Nat) (resp : RpcOutcome) (c : AsyncCall)
      (known : w.calls[number]? = some c) :
      Moves client w (.respond number resp) (client.onResponse c resp w)
  | turn (future : Nat) (message : Message) (rest : List (Nat × Message))
      (head : w.ready = (future, message) :: rest)
      (waits : w.futures[future]? = some .pending) :
      Moves client w .turn
        { w with ready := rest, futures := w.futures.set future (.done message) }
  | turnInvalid (future : Nat) (message : Message) (rest : List (Nat × Message))
      (head : w.ready = (future, message) :: rest)
      (settled : w.futures[future]? ≠ some .pending) :
      Moves client w .turn { w with ready := rest }
  | timeOut (number : Nat) (c : AsyncCall) (awaits : Awaits w number c) :
      Moves client w (.timeOut number) (timeOut number c w)
  | cancelTask (number : Nat) (c : AsyncCall) (awaits : Awaits w number c) :
      Moves client w (.cancelTask number) (cancelTask number c w)
  | resumeDone (number : Nat) (c : AsyncCall) (message : Message) (awaits : Awaits w number c)
      (done : w.futures[c.future]? = some (.done message)) :
      Moves client w (.resume number) (w.finish number (.ok message))
  | resumeCancelled (number : Nat) (c : AsyncCall) (awaits : Awaits w number c)
      (cancelled : w.futures[c.future]? = some .cancelled) :
      Moves client w (.resume number) (w.finish number (.error .cancelledError))

theorem awaiting_eq_some {w : RpcWorld ω} {number : Nat} {c : AsyncCall} :
    awaiting w number = some c ↔ Awaits w number c := by
  simp only [awaiting, Awaits, Option.filter_eq_some_iff]

/-- A guarded call of the native client touches no attribute but its own. -/
theorem suppress_onNative (body : Method Exn ω Unit) (w : RpcWorld ω) :
    ∃ result native, suppress (onNative body) w = (result, { w with native := native }) := by
  cases ran : body w.native with
  | mk result native =>
      have zoomed : onNative body w = (result, { w with native := native }) := by
        simp only [onNative, Method.zoom_apply, ran]
      cases result with
      | ok value => exact ⟨.ok value, native, Method.tryExcept_of_ok zoomed _⟩
      | error exc =>
          rw [suppress, Method.tryExcept_of_error zoomed]
          by_cases caught : exc.isException = true
          · rw [if_pos caught]
            exact ⟨.ok (), native, rfl⟩
          · rw [if_neg caught]
            exact ⟨.error exc, native, rfl⟩

theorem moves_start (client : RpcClient ω) (w : RpcWorld ω) :
    Moves client w .start (client.start w).2 := by
  cases present : client.cpp with
  | none =>
      have ran : (client.start w).2 = { w with running := true } := by
        simp only [start, present]
        rfl
      rw [ran]
      exact .start w.native true
  | some cpp =>
      obtain ⟨result, native, ran⟩ := suppress_onNative cpp.initializeClient w
      simp only [start, present, Method.bind_apply, ran]
      cases result with
      | ok value => exact .start native true
      | error exc => exact .start native w.running

theorem moves_stop (client : RpcClient ω) (w : RpcWorld ω) :
    Moves client w .stop (client.stop w).2 := by
  cases present : client.cpp with
  | none =>
      have ran : (client.stop w).2 =
          { { w with running := false }.cancelPending with pending := ∅ } := by
        simp only [stop, present]
        rfl
      rw [ran]
      exact .stop w.native
  | some cpp =>
      obtain ⟨result, native, ran⟩ := suppress_onNative cpp.shutdown w
      simp only [stop, present, Method.bind_apply, ran]
      cases result with
      | ok value => exact .stop native
      | error exc => exact .stopBroken native

theorem moves_call (client : RpcClient ω) (w : RpcWorld ω) (methodId : MessageId)
    (payload : Bytes) : Moves client w (.call methodId payload) (client.call methodId payload w).2 := by
  have idle : Moves client w (.call methodId payload) w :=
    .call methodId payload w.native w.sessionCounter (.inl rfl)
  by_cases running : w.running = true
  · cases present : client.cpp with
    | none =>
        rw [call, Method.bind_of_error (available_of_missing running present)]
        exact idle
    | some cpp =>
        cases ran : cpp.callMethodSync methodId.serviceId methodId.methodId payload w.native with
        | mk result native =>
            cases result with
            | ok outcome =>
                by_cases zero : cpp.int outcome.result = 0
                · rw [call_of_ok running present (callNative_of_success ran zero)]
                  exact .call methodId payload native _ (.inr rfl)
                · obtain ⟨_, raised, _⟩ :=
                    call_of_error running present (callNative_of_failure ran zero)
                  rw [raised]
                  exact .call methodId payload native _ (.inl rfl)
            | error exc =>
                obtain ⟨_, raised, _⟩ := call_of_error running present (callNative_of_raised ran)
                rw [raised]
                exact .call methodId payload native _ (.inl rfl)
  · rw [call, Method.bind_of_error (available_of_stopped (Bool.eq_false_iff.mpr running))]
    exact idle

theorem moves_callAsync (client : RpcClient ω) (w : RpcWorld ω) (methodId : MessageId)
    (payload : Bytes) (timeout : String) :
    Moves client w (.callAsync methodId payload timeout)
      (client.callAsync methodId payload timeout w).2 := by
  by_cases running : w.running = true
  · cases present : client.cpp with
    | none =>
        rw [callAsync, Method.bind_of_error (available_of_missing running present)]
        exact .refused methodId payload timeout
    | some cpp =>
        rw [callAsync_eq running present]
        cases cpp.callMethodAsync methodId.serviceId methodId.methodId payload w.native with
        | mk result native =>
            cases result with
            | ok value => exact .entered methodId payload timeout native
            | error exc => exact .broken methodId payload timeout native exc
  · rw [callAsync, Method.bind_of_error (available_of_stopped (Bool.eq_false_iff.mpr running))]
    exact .refused methodId payload timeout

theorem moves_turn {client : RpcClient ω} {w t : RpcWorld ω} (success : turn w = some t) :
    Moves client w .turn t := by
  unfold turn at success
  split at success
  · cases success
  · rename_i future message rest head
    obtain rfl := Option.some.inj success
    by_cases waits : w.futures[future]? = some .pending
    · simp only [RpcWorld.setResult, Method.bind_apply, Method.get_apply, waits, ↓reduceIte,
        Method.modify_apply]
      exact .turn future message rest head waits
    · simp only [RpcWorld.setResult, Method.bind_apply, Method.get_apply, waits, ↓reduceIte,
        Method.raise_apply]
      exact .turnInvalid future message rest head waits

theorem moves_resume {client : RpcClient ω} {w t : RpcWorld ω} {number : Nat} {c : AsyncCall}
    (awaits : Awaits w number c) (success : resume number c w = some t) :
    Moves client w (.resume number) t := by
  unfold resume at success
  split at success
  · rename_i message done
    obtain rfl := Option.some.inj success
    exact .resumeDone number c message awaits done
  · rename_i cancelled
    obtain rfl := Option.some.inj success
    exact .resumeCancelled number c awaits cancelled
  · cases success

/-- The inversion of a step. -/
theorem moves_of_step {client : RpcClient ω} {w t : RpcWorld ω} {a : RpcAct}
    (success : client.step w a = some t) : Moves client w a t := by
  cases a with
  | start =>
      obtain rfl := Option.some.inj success
      exact moves_start client w
  | stop =>
      obtain rfl := Option.some.inj success
      exact moves_stop client w
  | call methodId payload =>
      obtain rfl := Option.some.inj success
      exact moves_call client w methodId payload
  | callAsync methodId payload timeout =>
      obtain rfl := Option.some.inj success
      exact moves_callAsync client w methodId payload timeout
  | respond number resp =>
      obtain ⟨c, known, rfl⟩ := Option.map_eq_some_iff.mp success
      exact .respond number resp c known
  | turn => exact moves_turn success
  | timeOut number =>
      obtain ⟨c, found, rfl⟩ := Option.map_eq_some_iff.mp success
      exact .timeOut number c (awaiting_eq_some.mp found)
  | cancelTask number =>
      obtain ⟨c, found, rfl⟩ := Option.map_eq_some_iff.mp success
      exact .cancelTask number c (awaiting_eq_some.mp found)
  | resume number =>
      obtain ⟨c, found, resumed⟩ := Option.bind_eq_some_iff.mp success
      exact moves_resume (awaiting_eq_some.mp found) resumed

/-- The world of a client before its first call. -/
def fresh (native : ω) : RpcWorld ω := { native := native }

/-- Every future that a call awaits or the loop is about to complete was created. -/
structure Known (w : RpcWorld ω) : Prop where
  calls : ∀ (number : Nat) (c : AsyncCall), w.calls[number]? = some c → c.future < w.futures.length
  ready : ∀ entry ∈ w.ready, entry.1 < w.futures.length

theorem known_fresh (native : ω) : Known (fresh native) where
  calls _ _ found := by cases found
  ready _ member := by cases member

theorem Known.finish {w : RpcWorld ω} (known : Known w) (number : Nat)
    (outcome : Except Exn Message) : Known (w.finish number outcome) where
  calls other c found := by
    obtain ⟨d, before, same⟩ := RpcWorld.finish_known found
    rw [← same]
    exact known.calls other d before
  ready := known.ready

theorem Known.cancelFuture {w : RpcWorld ω} (known : Known w) (future : Nat) :
    Known (w.cancelFuture future) where
  calls other c found := by
    rw [RpcWorld.cancelFuture_calls] at found
    rw [RpcWorld.cancelFuture_length]
    exact known.calls other c found
  ready entry member := by
    rw [RpcWorld.cancelFuture_ready] at member
    rw [RpcWorld.cancelFuture_length]
    exact known.ready entry member

/-- What the table holds after a call was entered: the old calls and the new one. -/
theorem entered_calls {w : RpcWorld ω} {methodId : MessageId} {timeout : String} {number : Nat}
    {c : AsyncCall} (found : (entered methodId timeout w).calls[number]? = some c) :
    w.calls[number]? = some c ∨ number = w.calls.length ∧ c.future = w.futures.length := by
  by_cases old : number < w.calls.length
  · rw [entered, List.getElem?_append_left old] at found
    exact .inl found
  · rw [entered, List.getElem?_append_right (Nat.le_of_not_lt old)] at found
    have bound := (List.getElem?_eq_some_iff.mp found).1
    have last : number = w.calls.length := by
      rw [List.length_singleton] at bound
      omega
    subst last
    rw [Nat.sub_self, List.getElem?_cons_zero] at found
    cases found
    exact .inr ⟨rfl, rfl⟩

theorem entered_length (w : RpcWorld ω) (methodId : MessageId) (timeout : String) :
    (entered methodId timeout w).futures.length = w.futures.length + 1 :=
  List.length_append

theorem Known.entered {w : RpcWorld ω} (known : Known w) (methodId : MessageId) (timeout : String)
    (native : ω) : Known { entered methodId timeout w with native := native } where
  calls number c found := by
    show c.future < (RpcClient.entered methodId timeout w).futures.length
    rw [entered_length]
    rcases entered_calls found with before | ⟨_, same⟩
    · have bound := known.calls number c before
      omega
    · omega
  ready entry member := by
    show entry.1 < (RpcClient.entered methodId timeout w).futures.length
    rw [entered_length]
    have bound := known.ready entry member
    omega

theorem known_step {client : RpcClient ω} {w t : RpcWorld ω} {a : RpcAct} (known : Known w)
    (success : client.step w a = some t) : Known t := by
  cases moves_of_step success with
  | start native running => exact ⟨known.calls, known.ready⟩
  | stopBroken native => exact ⟨known.calls, known.ready⟩
  | stop native =>
      have stopped : Known { w with native := native, running := false } :=
        ⟨known.calls, known.ready⟩
      have kept (v : RpcWorld ω) (future : Nat) (before : Known v) :
          Known (v.cancelFuture future) := before.cancelFuture future
      have cancelled := RpcWorld.cancelPending_keeps kept stopped
      exact ⟨cancelled.calls, cancelled.ready⟩
  | call methodId payload native counter advanced => exact ⟨known.calls, known.ready⟩
  | refused methodId payload timeout => exact known
  | entered methodId payload timeout native => exact known.entered methodId timeout native
  | broken methodId payload timeout native exc =>
      exact (known.entered methodId timeout native).finish _ _
  | respond number resp c found =>
      refine ⟨known.calls, ?_⟩
      intro entry member
      rcases List.mem_append.mp member with before | new
      · exact known.ready entry before
      · rw [List.mem_singleton.mp new]
        exact known.calls number c found
  | turn future message rest head waits =>
      constructor
      · intro number c found
        rw [List.length_set]
        exact known.calls number c found
      · intro entry member
        rw [List.length_set]
        exact known.ready entry (head ▸ List.mem_cons_of_mem _ member)
  | turnInvalid future message rest head settled =>
      refine ⟨known.calls, ?_⟩
      intro entry member
      exact known.ready entry (head ▸ List.mem_cons_of_mem _ member)
  | timeOut number c awaits =>
      apply Known.finish
      exact ⟨(known.cancelFuture c.future).calls, (known.cancelFuture c.future).ready⟩
  | cancelTask number c awaits => exact (known.cancelFuture c.future).finish _ _
  | resumeDone number c message awaits done => exact known.finish _ _
  | resumeCancelled number c awaits cancelled => exact known.finish _ _

theorem known_reached {client : RpcClient ω} {native : ω} {w : RpcWorld ω} {history : List RpcAct}
    (reached : Transition.run client.step (fresh native) history = some w) : Known w :=
  Transition.invariant_run (fun _ _ _ known success => known_step known success)
    (known_fresh native) reached

/-- A call that has ended keeps its outcome. -/
theorem ended_step {client : RpcClient ω} {w t : RpcWorld ω} {a : RpcAct} {number : Nat}
    {c : AsyncCall} (ended : w.calls[number]? = some c) (closed : c.outcome.isNone = false)
    (success : client.step w a = some t) : t.calls[number]? = some c := by
  have other {call : Nat} {d : AsyncCall} (awaits : Awaits w call d) : call ≠ number := by
    rintro rfl
    rw [Awaits, ended] at awaits
    obtain ⟨same, open_⟩ := awaits
    cases same
    rw [closed] at open_
    cases open_
  have inside := (List.getElem?_eq_some_iff.mp ended).1
  cases moves_of_step success with
  | start | stopBroken | call | refused | respond | turn | turnInvalid => exact ended
  | stop native =>
      rw [RpcWorld.cancelPending_calls]
      exact ended
  | entered methodId payload timeout native =>
      rw [entered, List.getElem?_append_left inside]
      exact ended
  | broken methodId payload timeout native exc =>
      rw [RpcWorld.finish_of_ne (by omega), entered, List.getElem?_append_left inside]
      exact ended
  | timeOut call d awaits =>
      rw [timeOut, RpcWorld.finish_of_ne (other awaits), RpcWorld.cancelFuture_calls]
      exact ended
  | cancelTask call d awaits =>
      rw [cancelTask, RpcWorld.finish_of_ne (other awaits), RpcWorld.cancelFuture_calls]
      exact ended
  | resumeDone call d message awaits done =>
      rw [RpcWorld.finish_of_ne (other awaits)]
      exact ended
  | resumeCancelled call d awaits cancelled =>
      rw [RpcWorld.finish_of_ne (other awaits)]
      exact ended

end RpcClient

end OpenSomeIp
