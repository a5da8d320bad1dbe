import OpenSomeIp.RpcAgreement

set_option autoImplicit false

namespace OpenSomeIp

namespace RpcWorld

variable {ω : Type}

theorem cancelFuture_getElem? (w : RpcWorld ω) (future other : Nat) :
    (w.cancelFuture future).futures[other]? =
      if other = future ∧ w.futures[other]? = some .pending then some .cancelled
      else w.futures[other]? := by
  by_cases same : other = future
  · subst same
    by_cases waits : w.futures[other]? = some .pending
    · have inside := (List.getElem?_eq_some_iff.mp waits).1
      simp only [cancelFuture, waits, ↓reduceIte, List.getElem?_set_self inside, and_self]
    · simp only [cancelFuture, waits, ↓reduceIte, and_false]
  · rw [cancelFuture_of_ne (Ne.symm same)]
    simp only [same, false_and, ↓reduceIte]

/-- Cancelling several futures changes those of them that were pending, and no other. -/
theorem cancelFutures_getElem? (futures : List Nat) (w : RpcWorld ω) (other : Nat) :
    (futures.foldl cancelFuture w).futures[other]? =
      if other ∈ futures ∧ w.futures[other]? = some .pending then some .cancelled
      else w.futures[other]? := by
  induction futures generalizing w with
  | nil => simp only [List.foldl_nil, List.not_mem_nil, false_and, ↓reduceIte]
  | cons future futures ih =>
      rw [List.foldl_cons, ih, cancelFuture_getElem?]
      by_cases waits : w.futures[other]? = some .pending
      · by_cases same : other = future
        · subst same
          simp only [waits, and_self, ↓reduceIte, ite_self, List.mem_cons, true_or]
        · simp only [same, waits, ↓reduceIte, and_true, List.mem_cons, false_or]
      · simp only [waits, and_false, ↓reduceIte]

/-- The futures that `stop` goes through. -/
def pendingFutures (w : RpcWorld ω) : List Nat := w.pending.entries.map (·.2)

theorem mem_pendingFutures {w : RpcWorld ω} {session future : Nat}
    (found : w.pending.lookup session = some future) : future ∈ w.pendingFutures :=
  List.mem_map.mpr ⟨⟨session, future⟩, AList.mem_lookup_iff.mp found, rfl⟩

theorem cancelPending_getElem? (w : RpcWorld ω) (other : Nat) :
    w.cancelPending.futures[other]? =
      if other ∈ w.pendingFutures ∧ w.futures[other]? = some .pending then some .cancelled
      else w.futures[other]? :=
  cancelFutures_getElem? w.pendingFutures w other

end RpcWorld

namespace RpcClient

variable {ω : Type}

/-- The native `shutdown` returns or raises an `Exception`. -/
def ShutsDown (client : RpcClient ω) (w : RpcWorld ω) : Prop :=
  ∀ cpp exc, client.cpp = some cpp → (cpp.shutdown w.native).1 = .error exc →
    exc.isException = true

/-- What a guarded native call comes to. -/
theorem suppress_onNative_of_caught {body : Method Exn ω Unit} {w : RpcWorld ω}
    (caught : ∀ exc, (body w.native).1 = .error exc → exc.isException = true) :
    ∃ native, suppress (onNative body) w = (.ok (), { w with native := native }) := by
  cases ran : body w.native with
  | mk result native =>
      have zoomed : onNative body w = (result, { w with native := native }) := by
        simp only [onNative, Method.zoom_apply, ran]
      refine ⟨native, ?_⟩
      cases result with
      | ok value => exact Method.tryExcept_of_ok zoomed _
      | error exc =>
          rw [ran] at caught
          rw [suppress, Method.tryExcept_of_error zoomed, if_pos (caught exc rfl)]
          rfl

theorem stop_of_shutsDown {client : RpcClient ω} {w : RpcWorld ω} (quiet : ShutsDown client w) :
    ∃ native, client.stop w = (.ok (),
      { { w with native := native, running := false }.cancelPending with pending := ∅ }) := by
  cases present : client.cpp with
  | none =>
      refine ⟨w.native, ?_⟩
      simp only [stop, present]
      rfl
  | some cpp =>
      obtain ⟨native, ran⟩ :=
        suppress_onNative_of_caught (w := w) fun exc raised => quiet cpp exc present raised
      refine ⟨native, ?_⟩
      simp only [stop, present]
      rw [Method.bind_of_ok ran]
      rfl

theorem suppress_onNative_of_uncaught {body : Method Exn ω Unit} {w : RpcWorld ω} {exc : Exn}
    (raised : (body w.native).1 = .error exc) (uncaught : ¬ exc.isException = true) :
    ∃ native, suppress (onNative body) w = (.error exc, { w with native := native }) := by
  have zoomed : onNative body w = (.error exc, { w with native := (body w.native).2 }) := by
    rw [onNative, Method.zoom_apply, raised]
  refine ⟨(body w.native).2, ?_⟩
  rw [suppress, Method.tryExcept_of_error zoomed, if_neg uncaught]
  rfl

/-- A stop that a `BaseException` breaks off comes to nothing. -/
theorem stop_of_not_shutsDown {client : RpcClient ω} {w : RpcWorld ω}
    (loud : ¬ ShutsDown client w) :
    ∃ native exc, client.stop w = (.error exc, { w with native := native }) := by
  simp only [ShutsDown, not_forall] at loud
  obtain ⟨cpp, exc, present, raised, uncaught⟩ := loud
  obtain ⟨native, left⟩ := suppress_onNative_of_uncaught raised uncaught
  refine ⟨native, exc, ?_⟩
  simp only [stop, present]
  exact Method.bind_of_error left _

/-- A `call_async` gets past its two checks. -/
def Begins (client : RpcClient ω) (w : RpcWorld ω) : Prop :=
  w.running = true ∧ client.cpp.isSome = true

/-- The native client raises out of a `call_async`. -/
def Breaks (client : RpcClient ω) (w : RpcWorld ω) (methodId : MessageId) (payload : Bytes) : Prop :=
  ∃ cpp exc, client.cpp = some cpp ∧
    (cpp.callMethodAsync methodId.serviceId methodId.methodId payload w.native).1 = .error exc

/-- The session that the next call is given. -/
def nextSessionOf (w : RpcWorld ω) : Nat := (w.sessionCounter + 1) &&& 0xFFFF

/-- What `call_async` comes to at its `await`, or before. -/
theorem step_callAsync_cases {client : RpcClient ω} {w t : RpcWorld ω} {methodId : MessageId}
    {payload : Bytes} {timeout : String}
    (success : client.step w (.callAsync methodId payload timeout) = some t) :
    (¬ Begins client w ∧ t = w) ∨
    (Begins client w ∧ ¬ Breaks client w methodId payload ∧
      ∃ native, t = { entered methodId timeout w with native := native }) ∨
    (Begins client w ∧ Breaks client w methodId payload ∧
      ∃ native exc, t =
        { entered methodId timeout w with native := native }.finish w.calls.length (.error exc)) := by
  obtain rfl := Option.some.inj success
  by_cases running : w.running = true
  · cases present : client.cpp with
    | none =>
        apply Or.inl
        rw [callAsync, Method.bind_of_error (available_of_missing running present)]
        refine ⟨?_, rfl⟩
        intro begins
        rw [Begins, present] at begins
        cases begins.2
    | some cpp =>
        have begins : Begins client w := ⟨running, by rw [present]; rfl⟩
        apply Or.inr
        rw [callAsync_eq running present]
        cases ran : cpp.callMethodAsync methodId.serviceId methodId.methodId payload w.native with
        | mk result native =>
            cases result with
            | ok value =>
                refine .inl ⟨begins, ?_, native, rfl⟩
                rintro ⟨other, exc, same, raised⟩
                obtain rfl := Option.some.inj (present.symm.trans same)
                rw [ran] at raised
                cases raised
            | error exc =>
                refine .inr ⟨begins, ⟨cpp, exc, present, ?_⟩, native, exc, rfl⟩
                rw [ran]
  · apply Or.inl
    rw [callAsync, Method.bind_of_error (available_of_stopped (Bool.eq_false_iff.mpr running))]
    exact ⟨fun begins => running begins.1, rfl⟩

/-- The calls in flight once a call has ended. -/
theorem awaits_finish {w : RpcWorld ω} {ended number : Nat} {outcome : Except Exn Message}
    {c : AsyncCall} :
    Awaits (w.finish ended outcome) number c ↔ Awaits w number c ∧ number ≠ ended := by
  by_cases same : ended = number
  · subst same
    refine ⟨?_, fun both => absurd rfl both.2⟩
    rintro ⟨found, open_⟩
    simp only [RpcWorld.finish, List.getElem?_modify, ↓reduceIte] at found
    obtain ⟨d, -, rfl⟩ := Option.map_eq_some_iff.mp found
    cases open_
  · rw [Awaits, RpcWorld.finish_of_ne same, Awaits]
    exact ⟨fun awaits => ⟨awaits, Ne.symm same⟩, fun both => both.1⟩

/-- The calls in flight once a call has begun. -/
theorem awaits_entered {w : RpcWorld ω} {methodId : MessageId} {timeout : String} {native : ω}
    {number : Nat} {c : AsyncCall} :
    Awaits { entered methodId timeout w with native := native } number c ↔
      Awaits w number c ∨ number = w.calls.length ∧ c = nextCall w methodId timeout := by
  have last := entered_last w methodId timeout
  constructor
  · rintro ⟨found, open_⟩
    rcases entered_calls found with before | ⟨same, _⟩
    · exact .inl ⟨before, open_⟩
    · subst same
      exact .inr ⟨rfl, Option.some.inj (found.symm.trans last)⟩
  · rintro (⟨found, open_⟩ | ⟨rfl, rfl⟩)
    · have inside := (List.getElem?_eq_some_iff.mp found).1
      refine ⟨?_, open_⟩
      rw [entered, List.getElem?_append_left inside]
      exact found
    · exact ⟨last, rfl⟩

/-- A call that the native client refuses was in flight only inside `call_async`. -/
theorem awaits_broken {w : RpcWorld ω} {methodId : MessageId} {timeout : String} {native : ω}
    {exc : Exn} {number : Nat} {c : AsyncCall} :
    Awaits ({ entered methodId timeout w with native := native }.finish w.calls.length (.error exc))
      number c ↔ Awaits w number c := by
  rw [awaits_finish, awaits_entered]
  constructor
  · rintro ⟨before | ⟨same, _⟩, other⟩
    · exact before
    · exact absurd same other
  · intro awaits
    have inside := (List.getElem?_eq_some_iff.mp awaits.1).1
    exact ⟨.inl awaits, by omega⟩

theorem awaits_cancelFuture {w : RpcWorld ω} {future number : Nat} {c : AsyncCall} :
    Awaits (w.cancelFuture future) number c ↔ Awaits w number c := by
  rw [Awaits, RpcWorld.cancelFuture_calls, Awaits]

theorem awaits_unique {w : RpcWorld ω} {number : Nat} {c d : AsyncCall} (first : Awaits w number c)
    (second : Awaits w number d) : c = d :=
  Option.some.inj (first.1.symm.trans second.1)

/-- No two calls have a future in common. -/
def Owns (w : RpcWorld ω) : Prop :=
  ∀ (number other : Nat) (c d : AsyncCall), w.calls[number]? = some c → w.calls[other]? = some d →
    c.future = d.future → number = other

theorem Owns.finish {w : RpcWorld ω} (owns : Owns w) (ended : Nat) (outcome : Except Exn Message) :
    Owns (w.finish ended outcome) := by
  intro number other c d found second same
  obtain ⟨c', known, future⟩ := RpcWorld.finish_known found
  obtain ⟨d', knownToo, futureToo⟩ := RpcWorld.finish_known second
  apply owns number other c' d' known knownToo
  rw [future, futureToo, same]

theorem Owns.entered {w : RpcWorld ω} (owns : Owns w) (known : Known w) (methodId : MessageId)
    (timeout : String) (native : ω) :
    Owns { entered methodId timeout w with native := native } := by
  intro number other c d found second same
  rcases entered_calls found with before | ⟨last, future⟩
  · have bound := known.calls number c before
    rcases entered_calls second with beforeToo | ⟨_, futureToo⟩
    · exact owns number other c d before beforeToo same
    · omega
  · rcases entered_calls second with beforeToo | ⟨lastToo, _⟩
    · have bound := known.calls other d beforeToo
      omega
    · omega

theorem owns_step {client : RpcClient ω} {w t : RpcWorld ω} {a : RpcAct} (known : Known w)
    (owns : Owns w) (success : client.step w a = some t) : Owns t := by
  cases moves_of_step success with
  | start | stopBroken | call | refused | respond | turn | turnInvalid => exact owns
  | stop native =>
      intro number other c d found second
      rw [RpcWorld.cancelPending_calls] at found second
      exact owns number other c d found second
  | entered methodId payload timeout native => exact owns.entered known methodId timeout native
  | broken methodId payload timeout native exc =>
      exact (owns.entered known methodId timeout native).finish _ _
  | timeOut number c awaits =>
      apply Owns.finish
      intro number other c d found second
      rw [RpcWorld.cancelFuture_calls] at found second
      exact owns number other c d found second
  | cancelTask number c awaits =>
      apply Owns.finish
      intro number other c d found second
      rw [RpcWorld.cancelFuture_calls] at found second
      exact owns number other c d found second
  | resumeDone number c message awaits done => exact owns.finish _ _
  | resumeCancelled number c awaits cancelled => exact owns.finish _ _

/-- Every call has a future, and one of its own. -/
def Numbered (w : RpcWorld ω) : Prop := Known w ∧ Owns w

theorem numbered_fresh (native : ω) : Numbered (fresh native) := by
  refine ⟨known_fresh native, ?_⟩
  intro number other c d found
  cases found

theorem numbered_step {client : RpcClient ω} {w t : RpcWorld ω} {a : RpcAct}
    (numbered : Numbered w) (success : client.step w a = some t) : Numbered t :=
  ⟨known_step numbered.1 success, owns_step numbered.1 numbered.2 success⟩

end RpcClient

end OpenSomeIp
