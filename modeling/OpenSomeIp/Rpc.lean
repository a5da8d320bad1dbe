import Mathlib.Data.List.AList
import OpenSomeIp.Lib.Method
import OpenSomeIp.Message

set_option autoImplicit false

namespace OpenSomeIp

/-- The extension's result codes. -/
inductive RpcResult where
  | success
  | timeout
  | networkError
  | invalidParameters
  | methodNotFound
  | serviceNotAvailable
  | wrongInterfaceVersion
  | internalError
  deriving DecidableEq, Repr

/-- The text `str(result)`. -/
def RpcResult.str : RpcResult → String
  | .success => "RpcResult.SUCCESS"
  | .timeout => "RpcResult.TIMEOUT"
  | .networkError => "RpcResult.NETWORK_ERROR"
  | .invalidParameters => "RpcResult.INVALID_PARAMETERS"
  | .methodNotFound => "RpcResult.METHOD_NOT_FOUND"
  | .serviceNotAvailable => "RpcResult.SERVICE_NOT_AVAILABLE"
  | .wrongInterfaceVersion => "RpcResult.WRONG_INTERFACE_VERSION"
  | .internalError => "RpcResult.INTERNAL_ERROR"

/-- What `RpcSyncResult` and `RpcResponse` have in common. -/
structure RpcOutcome where
  result : RpcResult
  returnValues : Bytes := []
  deriving DecidableEq, Repr

/-- The native client. Its asynchronous call keeps the callback it is given; when
that is called is no part of it. -/
structure NativeRpcClient (ω : Type) where
  int : RpcResult → Int
  initializeClient : Method Exn ω Unit
  shutdown : Method Exn ω Unit
  callMethodSync (serviceId methodId : UInt16) (params : Bytes) : Method Exn ω RpcOutcome
  callMethodAsync (serviceId methodId : UInt16) (params : Bytes) : Method Exn ω Unit

inductive FutureState where
  | pending
  | done (message : Message)
  | cancelled
  deriving DecidableEq, Repr

/-- What `_on_response` closes over, the time-out of the await, and how the coroutine
ended. -/
structure AsyncCall where
  methodId : MessageId
  session : Nat
  future : Nat
  timeout : String
  outcome : Option (Except Exn Message) := none

/-- What `__init__` settles; `cpp` is `none` where the extension is missing. -/
structure RpcClient (ω : Type) where
  clientId : UInt16 := 0x0001
  cpp : Option (NativeRpcClient ω)

/-- What calls change: the client's attributes, the futures by their number, the calls
whose callback the native client was given, and the `set_result` calls its loop has yet to run. -/
structure RpcWorld (ω : Type) where
  native : ω
  running : Bool := false
  sessionCounter : Nat := 0
  pending : AList (fun _ : Nat => Nat) := ∅
  futures : List FutureState := []
  calls : List AsyncCall := []
  ready : List (Nat × Message) := []

namespace RpcWorld

variable {ω : Type}

/-- The method `future.cancel()`; it leaves a future alone that is done. -/
def cancelFuture (w : RpcWorld ω) (future : Nat) : RpcWorld ω :=
  if w.futures[future]? = some .pending then
    { w with futures := w.futures.set future .cancelled }
  else w

/-- The method `future.set_result(message)`. -/
def setResult (future : Nat) (message : Message) : Method Exn (RpcWorld ω) Unit := do
  let w ← Method.get
  if w.futures[future]? = some .pending then
    Method.modify fun w => { w with futures := w.futures.set future (.done message) }
  else Method.raise .invalidStateError

/-- The coroutine of a call ends. -/
def finish (w : RpcWorld ω) (call : Nat) (outcome : Except Exn Message) : RpcWorld ω :=
  { w with calls := w.calls.modify call fun c => { c with outcome := some outcome } }

/-- Cancels what `_pending` holds. -/
def cancelPending (w : RpcWorld ω) : RpcWorld ω :=
  (w.pending.entries.map (·.2)).foldl cancelFuture w

@[simp] theorem cancelFuture_calls (w : RpcWorld ω) (future : Nat) :
    (w.cancelFuture future).calls = w.calls := by
  unfold cancelFuture
  split <;> rfl

@[simp] theorem cancelFuture_ready (w : RpcWorld ω) (future : Nat) :
    (w.cancelFuture future).ready = w.ready := by
  unfold cancelFuture
  split <;> rfl

@[simp] theorem cancelFuture_pending (w : RpcWorld ω) (future : Nat) :
    (w.cancelFuture future).pending = w.pending := by
  unfold cancelFuture
  split <;> rfl

@[simp] theorem cancelFuture_length (w : RpcWorld ω) (future : Nat) :
    (w.cancelFuture future).futures.length = w.futures.length := by
  unfold cancelFuture
  split
  · exact List.length_set
  · rfl

/-- Cancelling touches no other future. -/
theorem cancelFuture_of_ne {w : RpcWorld ω} {future other : Nat} (apart : future ≠ other) :
    (w.cancelFuture future).futures[other]? = w.futures[other]? := by
  unfold cancelFuture
  split
  · exact List.getElem?_set_ne apart
  · rfl

/-- What no `cancel` of a future breaks, `cancelPending` does not break. -/
theorem cancelPending_keeps {invariant : RpcWorld ω → Prop}
    (kept : ∀ w future, invariant w → invariant (w.cancelFuture future)) {w : RpcWorld ω}
    (holds : invariant w) : invariant w.cancelPending := by
  unfold cancelPending
  generalize w.pending.entries.map (·.2) = futures
  induction futures generalizing w with
  | nil => exact holds
  | cons future futures ih => exact ih (kept w future holds)

@[simp] theorem cancelPending_calls (w : RpcWorld ω) : w.cancelPending.calls = w.calls := by
  have kept (t : RpcWorld ω) (future : Nat) (same : t.calls = w.calls) :
      (t.cancelFuture future).calls = w.calls := by
    rw [cancelFuture_calls, same]
  exact cancelPending_keeps kept rfl

@[simp] theorem cancelPending_ready (w : RpcWorld ω) : w.cancelPending.ready = w.ready := by
  have kept (t : RpcWorld ω) (future : Nat) (same : t.ready = w.ready) :
      (t.cancelFuture future).ready = w.ready := by
    rw [cancelFuture_ready, same]
  exact cancelPending_keeps kept rfl

theorem finish_self {w : RpcWorld ω} {call : Nat} {c : AsyncCall} (known : w.calls[call]? = some c)
    (outcome : Except Exn Message) :
    (w.finish call outcome).calls[call]? = some { c with outcome := some outcome } := by
  simp only [finish, List.getElem?_modify, known, ↓reduceIte, Option.map_eq_map, Option.map_some]

/-- The end of a call touches no other call. -/
theorem finish_of_ne {w : RpcWorld ω} {call other : Nat} (apart : call ≠ other)
    (outcome : Except Exn Message) :
    (w.finish call outcome).calls[other]? = w.calls[other]? := by
  simp only [finish, List.getElem?_modify, apart, ↓reduceIte, id_map']

/-- What is in the table of calls was there before, but for its outcome. -/
theorem finish_known {w : RpcWorld ω} {call number : Nat} {outcome : Except Exn Message}
    {c : AsyncCall} (known : (w.finish call outcome).calls[number]? = some c) :
    ∃ d, w.calls[number]? = some d ∧ d.future = c.future := by
  by_cases same : call = number
  · simp only [finish, List.getElem?_modify, same, ↓reduceIte] at known
    obtain ⟨d, found, rfl⟩ := Option.map_eq_some_iff.mp known
    exact ⟨d, found, rfl⟩
  · rw [finish_of_ne same] at known
    exact ⟨c, known, rfl⟩

end RpcWorld

namespace RpcClient

variable {ω : Type} (client : RpcClient ω)

def onNative {α : Type} (body : Method Exn ω α) : Method Exn (RpcWorld ω) α :=
  Method.zoom RpcWorld.native (fun native w => { w with native := native }) body

/-- The statement `try: body / except Exception: pass`. -/
def suppress {σ : Type} (body : Method Exn σ Unit) : Method Exn σ Unit :=
  Method.tryExcept body fun exc => if exc.isException then pure () else Method.raise exc

def start : Method Exn (RpcWorld ω) Unit := do
  match client.cpp with
  | none => pure ()
  | some cpp => suppress (onNative cpp.initializeClient)
  Method.modify fun self => { self with running := true }

def stop : Method Exn (RpcWorld ω) Unit := do
  match client.cpp with
  | none => pure ()
  | some cpp => suppress (onNative cpp.shutdown)
  Method.modify fun self => { self with running := false }
  Method.modify RpcWorld.cancelPending
  Method.modify fun self => { self with pending := ∅ }

def nextSession : Method Exn (RpcWorld ω) Nat := do
  Method.modify fun self => { self with sessionCounter := (self.sessionCounter + 1) &&& 0xFFFF }
  let self ← Method.get
  pure self.sessionCounter

def response (methodId : MessageId) (session : Nat) (returnValues : Bytes) : Message where
  messageId := methodId
  requestId := ⟨client.clientId, UInt16.ofNat session⟩
  messageType := .response
  returnCode := .eOk
  payload := returnValues

/-- Refuses a call on a stopped client and one without the extension. -/
def available : Method Exn (RpcWorld ω) (NativeRpcClient ω) := do
  let self ← Method.get
  if self.running = false then Method.raise (.rpcError "RPC client is not running")
  else
    match client.cpp with
    | none =>
        Method.raise (.rpcError ("Cannot perform RPC call: opensomeip C++ extension is not available. " ++
          "See https://github.com/vtz/opensomeip-python#troubleshooting"))
    | some cpp => pure cpp

/-- The `try` block of `call`. -/
def callNative (cpp : NativeRpcClient ω) (methodId : MessageId) (payload : Bytes) :
    Method Exn (RpcWorld ω) Message := do
  let result ← onNative (cpp.callMethodSync methodId.serviceId methodId.methodId payload)
  if cpp.int result.result ≠ 0 then
    Method.raise (.rpcError ("RPC call to " ++ methodId.repr ++ " failed with native result code " ++
      result.result.str))
  else do
    let session ← nextSession
    pure (client.response methodId session result.returnValues)

def call (methodId : MessageId) (payload : Bytes) : Method Exn (RpcWorld ω) Message := do
  let cpp ← client.available
  Method.tryExcept (client.callNative cpp methodId payload) fun exc =>
    if exc.isRpcError then Method.raise exc
    else if exc.isException then
      Method.raise (.rpcError ("Native RPC call to " ++ methodId.repr ++ " failed: " ++ exc.str))
    else Method.raise exc

/-- Creates a future and enters it in `_pending` under a new session. -/
def enter (methodId : MessageId) (timeout : String) : Method Exn (RpcWorld ω) AsyncCall := do
  let self ← Method.get
  let future := self.futures.length
  Method.modify fun self => { self with futures := self.futures ++ [.pending] }
  let session ← nextSession
  Method.modify fun self => { self with pending := self.pending.insert session future }
  pure { methodId := methodId, session := session, future := future, timeout := timeout }

/-- The coroutine `call_async` up to its `await`: the number of the call. An exception of the
native call is not caught, so the call ends with it. -/
def callAsync (methodId : MessageId) (payload : Bytes) (timeout : String) :
    Method Exn (RpcWorld ω) Nat := do
  let cpp ← client.available
  let call ← enter methodId timeout
  let self ← Method.get
  let number := self.calls.length
  Method.modify fun self => { self with calls := self.calls ++ [call] }
  Method.tryExcept
    (onNative (cpp.callMethodAsync methodId.serviceId methodId.methodId payload))
    fun exc => do
      Method.modify fun self => self.finish number (.error exc)
      Method.raise exc
  pure number

/-- The callback `_on_response` of a call, as the native client calls it. -/
def onResponse (call : AsyncCall) (resp : RpcOutcome) (w : RpcWorld ω) : RpcWorld ω :=
  { w with
    ready := w.ready ++ [(call.future, client.response call.methodId call.session resp.returnValues)] }

/-- The await of a call ran into its time-out. -/
def timeOut (number : Nat) (call : AsyncCall) (w : RpcWorld ω) : RpcWorld ω :=
  let cancelled := w.cancelFuture call.future
  { cancelled with pending := cancelled.pending.erase call.session }.finish number
    (.error (.rpcError ("RPC call timed out after " ++ call.timeout ++ "s")))

/-- The task that awaits a call is cancelled. -/
def cancelTask (number : Nat) (call : AsyncCall) (w : RpcWorld ω) : RpcWorld ω :=
  (w.cancelFuture call.future).finish number (.error .cancelledError)

/-- The await of a call goes on once its future is done. -/
def resume (number : Nat) (call : AsyncCall) (w : RpcWorld ω) : Option (RpcWorld ω) :=
  match w.futures[call.future]? with
  | some (.done message) => some (w.finish number (.ok message))
  | some .cancelled => some (w.finish number (.error .cancelledError))
  | _ => none

/-- The world once `enter` has made room for a call whose callback is handed on. -/
def entered (methodId : MessageId) (timeout : String) (w : RpcWorld ω) : RpcWorld ω :=
  { w with
    sessionCounter := (w.sessionCounter + 1) &&& 0xFFFF
    pending := w.pending.insert ((w.sessionCounter + 1) &&& 0xFFFF) w.futures.length
    futures := w.futures ++ [.pending]
    calls := w.calls ++ [{
      methodId := methodId, session := (w.sessionCounter + 1) &&& 0xFFFF,
      future := w.futures.length, timeout := timeout }] }

variable {client}

section Running

variable {cpp : NativeRpcClient ω} {w : RpcWorld ω} {native : ω}
variable {methodId : MessageId} {payload : Bytes}

theorem available_of_running (running : w.running = true) (present : client.cpp = some cpp) :
    client.available w = (.ok cpp, w) := by
  simp only [available, Method.bind_apply, Method.get_apply, running, Bool.true_eq_false,
    ↓reduceIte, present, Method.pure_apply]

theorem available_of_stopped (stopped : w.running = false) :
    client.available w = (.error (.rpcError "RPC client is not running"), w) := by
  simp only [available, Method.bind_apply, Method.get_apply, stopped, ↓reduceIte,
    Method.raise_apply]

theorem available_of_missing (running : w.running = true) (missing : client.cpp = none) :
    client.available w =
      (.error (.rpcError ("Cannot perform RPC call: opensomeip C++ extension is not available. " ++
        "See https://github.com/vtz/opensomeip-python#troubleshooting")), w) := by
  simp only [available, Method.bind_apply, Method.get_apply, running, Bool.true_eq_false,
    ↓reduceIte, missing, Method.raise_apply]

theorem callNative_of_success {outcome : RpcOutcome}
    (returned : cpp.callMethodSync methodId.serviceId methodId.methodId payload w.native =
      (.ok outcome, native)) (zero : cpp.int outcome.result = 0) :
    client.callNative cpp methodId payload w =
      (.ok (client.response methodId ((w.sessionCounter + 1) &&& 0xFFFF) outcome.returnValues),
        { w with native := native, sessionCounter := (w.sessionCounter + 1) &&& 0xFFFF }) := by
  simp only [callNative, onNative, Method.bind_apply, Method.zoom_apply, returned, zero, ne_eq,
    not_true_eq_false, ↓reduceIte, nextSession, Method.modify_apply, Method.get_apply,
    Method.pure_apply]

theorem callNative_of_failure {outcome : RpcOutcome}
    (returned : cpp.callMethodSync methodId.serviceId methodId.methodId payload w.native =
      (.ok outcome, native)) (nonzero : cpp.int outcome.result ≠ 0) :
    client.callNative cpp methodId payload w =
      (.error (.rpcError ("RPC call to " ++ methodId.repr ++ " failed with native result code " ++
        outcome.result.str)), { w with native := native }) := by
  simp only [callNative, onNative, Method.bind_apply, Method.zoom_apply, returned, ne_eq, nonzero,
    not_false_eq_true, ↓reduceIte, Method.raise_apply]

theorem callNative_of_raised {exc : Exn}
    (raised : cpp.callMethodSync methodId.serviceId methodId.methodId payload w.native =
      (.error exc, native)) :
    client.callNative cpp methodId payload w = (.error exc, { w with native := native }) := by
  simp only [callNative, onNative, Method.bind_apply, Method.zoom_apply, raised]

theorem call_of_ok {message : Message} {t : RpcWorld ω} (running : w.running = true)
    (present : client.cpp = some cpp)
    (returned : client.callNative cpp methodId payload w = (.ok message, t)) :
    client.call methodId payload w = (.ok message, t) := by
  rw [call, Method.bind_of_ok (available_of_running running present)]
  exact Method.tryExcept_of_ok returned _

/-- The exception that leaves `call` is an `RpcError` for every `Exception` inside it. -/
theorem call_of_error {exc : Exn} {t : RpcWorld ω} (running : w.running = true)
    (present : client.cpp = some cpp)
    (raised : client.callNative cpp methodId payload w = (.error exc, t)) :
    ∃ reason, client.call methodId payload w = (.error reason, t) ∧
      reason.isRpcError = exc.isException := by
  rw [call, Method.bind_of_ok (available_of_running running present),
    Method.tryExcept_of_error raised]
  by_cases rpc : exc.isRpcError = true
  · rw [if_pos rpc]
    exact ⟨exc, rfl, by rw [rpc, exc.isException_of_isRpcError rpc]⟩
  · rw [if_neg rpc]
    by_cases caught : exc.isException = true
    · rw [if_pos caught]
      exact ⟨_, rfl, caught.symm⟩
    · rw [if_neg caught]
      exact ⟨exc, rfl, by rw [Bool.eq_false_iff.mpr rpc, Bool.eq_false_iff.mpr caught]⟩

/-- The call as far as the native client: it has a future, a session and an entry in the table. -/
theorem callAsync_eq (running : w.running = true) (present : client.cpp = some cpp)
    (timeout : String) :
    client.callAsync methodId payload timeout w =
      match cpp.callMethodAsync methodId.serviceId methodId.methodId payload w.native with
      | (.ok (), native) => (.ok w.calls.length, { entered methodId timeout w with native := native })
      | (.error exc, native) =>
          (.error exc, { entered methodId timeout w with native := native }.finish
            w.calls.length (.error exc)) := by
  rw [callAsync, Method.bind_of_ok (available_of_running running present)]
  simp only [enter, nextSession, Method.bind_apply, Method.get_apply, Method.modify_apply,
    Method.pure_apply, Method.tryExcept, onNative, Method.zoom_apply]
  cases cpp.callMethodAsync methodId.serviceId methodId.methodId payload w.native with
  | mk result native => cases result <;> rfl

end Running

end RpcClient

end OpenSomeIp
