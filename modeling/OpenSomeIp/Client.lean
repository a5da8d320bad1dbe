import OpenSomeIp.E2e
import OpenSomeIp.Rpc

set_option autoImplicit false

namespace OpenSomeIp

structure ClientConfig where
  e2eConfig : Option E2EConfig := none
  e2eProfile : Option E2EProfile := none

/-- A client, with an `E2EProtection` or another object of that interface. -/
structure SomeIpClient (ω : Type) (γ : Type := E2EProtection) where
  e2e : Option γ := none
  rpcClient : RpcWorld ω

namespace SomeIpClient

variable {ω : Type}

/-- The part of `__init__` that concerns E2E and the RPC client. -/
def init (config : ClientConfig) (native : ω) : SomeIpClient ω where
  e2e := config.e2eConfig.map fun e2e => { config := e2e, profile := config.e2eProfile }
  rpcClient := { native := native }

section Calls

variable {γ : Type}

def onE2e {α : Type} (body : Method Exn (Option γ) α) : Method Exn (SomeIpClient ω γ) α :=
  Method.zoom e2e (fun e2e self => { self with e2e := e2e }) body

def onRpcClient {α : Type} (body : Method Exn (RpcWorld ω) α) : Method Exn (SomeIpClient ω γ) α :=
  Method.zoom rpcClient (fun rpcClient self => { self with rpcClient := rpcClient }) body

variable [E2EObject γ]

def call (rpc : RpcClient ω) (methodId : MessageId) (payload : Bytes) :
    Method Exn (SomeIpClient ω γ) Message := do
  let payload ← onE2e (E2EProtection.protectIf payload)
  let response ← onRpcClient (rpc.call methodId payload)
  let status ← onE2e (E2EProtection.checkIf response.payload)
  if status ≠ .ok then
    Method.raise (.e2eError ("E2E check failed on response: " ++ status.name))
  else pure response

/-- The coroutine `call_async` up to its `await`: the number of the call. -/
def callAsync (rpc : RpcClient ω) (methodId : MessageId) (payload : Bytes) (timeout : String) :
    Method Exn (SomeIpClient ω γ) Nat := do
  let payload ← onE2e (E2EProtection.protectIf payload)
  onRpcClient (rpc.callAsync methodId payload timeout)

/-- What follows the `await` of a call that ended in the RPC client; before that, `none`. -/
def resumeAsync (number : Nat) : Method Exn (SomeIpClient ω γ) (Option Message) := do
  let self ← Method.get
  match self.rpcClient.calls[number]?.bind AsyncCall.outcome with
  | none => pure none
  | some (.error exc) => Method.raise exc
  | some (.ok response) => do
      let status ← onE2e (E2EProtection.checkIf response.payload)
      if status ≠ .ok then
        Method.raise (.e2eError ("E2E check failed on response: " ++ status.name))
      else pure (some response)

end Calls

/-- What `call` makes of the status of a response. -/
def verdict (response : Message) : Except Exn E2ECheckStatus → Except Exn Message
  | .error exc => .error exc
  | .ok .ok => .ok response
  | .ok status => .error (.e2eError ("E2E check failed on response: " ++ status.name))

theorem verdict_eq_ok {response message : Message} {status : Except Exn E2ECheckStatus} :
    verdict response status = .ok message ↔ status = .ok .ok ∧ response = message := by
  cases status with
  | error exc => simp only [verdict, reduceCtorEq, false_and]
  | ok status => cases status <;> simp [verdict]

/-- A call whose response is there: the check decides, at the counter which `protect` left. -/
theorem call_of_response {rpc : RpcClient ω} {methodId : MessageId} {payload stamped : Bytes}
    {e2e : Option E2EProtection} {response : Message} {t : RpcWorld ω} {self : SomeIpClient ω}
    (protects : E2EProtection.protectIf payload self.e2e = (.ok stamped, e2e))
    (returned : rpc.call methodId stamped self.rpcClient = (.ok response, t)) :
    call rpc methodId payload self =
      (verdict response (E2EProtection.checkIf response.payload e2e).1,
        { e2e := e2e, rpcClient := t }) := by
  have kept := E2EProtection.checkIf_keeps response.payload e2e
  simp only [call, onE2e, onRpcClient, Method.bind_apply, Method.zoom_apply, protects, returned,
    kept]
  cases (E2EProtection.checkIf response.payload e2e).1 with
  | error exc => rfl
  | ok status => cases status <;> rfl

/-- Whether a call returns or raises, it leaves what its two parts left behind. -/
theorem call_keeps {rpc : RpcClient ω} {methodId : MessageId} {payload stamped : Bytes}
    {e2e : Option E2EProtection} {self : SomeIpClient ω}
    (protects : E2EProtection.protectIf payload self.e2e = (.ok stamped, e2e)) :
    (call rpc methodId payload self).2 =
      { e2e := e2e, rpcClient := (rpc.call methodId stamped self.rpcClient).2 } := by
  cases called : rpc.call methodId stamped self.rpcClient with
  | mk result t =>
      cases result with
      | ok response => rw [call_of_response protects called]
      | error exc =>
          simp only [call, onE2e, onRpcClient, Method.bind_apply, Method.zoom_apply, protects,
            called]

theorem callAsync_keeps {rpc : RpcClient ω} {methodId : MessageId} {payload stamped : Bytes}
    {timeout : String} {e2e : Option E2EProtection} {self : SomeIpClient ω}
    (protects : E2EProtection.protectIf payload self.e2e = (.ok stamped, e2e)) :
    (callAsync rpc methodId payload timeout self).2 =
      { e2e := e2e, rpcClient := (rpc.callAsync methodId stamped timeout self.rpcClient).2 } := by
  simp only [callAsync, onE2e, onRpcClient, Method.bind_apply, Method.zoom_apply, protects]

/-- The rest of an asynchronous call, by how its part in the RPC client ended. -/
theorem resumeAsync_eq (number : Nat) (self : SomeIpClient ω) :
    resumeAsync number self =
      match self.rpcClient.calls[number]?.bind AsyncCall.outcome with
      | none => (.ok none, self)
      | some (.error exc) => (.error exc, self)
      | some (.ok response) =>
          ((verdict response (E2EProtection.checkIf response.payload self.e2e).1).map some,
            self) := by
  simp only [resumeAsync, Method.bind_apply, Method.get_apply]
  cases self.rpcClient.calls[number]?.bind AsyncCall.outcome with
  | none => rfl
  | some ended =>
      cases ended with
      | error exc => rfl
      | ok response =>
          have kept := E2EProtection.checkIf_keeps response.payload self.e2e
          simp only [onE2e, Method.bind_apply, Method.zoom_apply, kept]
          cases (E2EProtection.checkIf response.payload self.e2e).1 with
          | error exc => rfl
          | ok status => cases status <;> rfl

theorem resumeAsync_keeps (number : Nat) (self : SomeIpClient ω) :
    (resumeAsync number self).2 = self := by
  rw [resumeAsync_eq]
  split
  · rfl
  · rfl
  · rfl

/-- One call: the request is stamped at the client's counter, and the response is
checked at the counter which that left behind. -/
theorem call_after (config : E2EConfig) {rpc : RpcClient ω} {methodId : MessageId}
    {payload stamped : Bytes} {profile : E2EProfile} {sent : Nat} {w t : RpcWorld ω}
    {response : Message} (success : profile.protect payload (sent % 256) = .ok stamped)
    (returned : rpc.call methodId stamped w = (.ok response, t)) :
    call rpc methodId payload
        { e2e := some (E2EProtection.after config profile sent), rpcClient := w } =
      (verdict response (profile.check response.payload ((sent + 1) % 256)),
        { e2e := some (E2EProtection.after config profile (sent + 1)), rpcClient := t }) := by
  rw [call_of_response (E2EProtection.protectIf_after success) returned,
    E2EProtection.checkIf_after]

end SomeIpClient

end OpenSomeIp
