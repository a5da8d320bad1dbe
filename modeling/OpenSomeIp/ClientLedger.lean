import OpenSomeIp.E2eLedger
import OpenSomeIp.Recording

set_option autoImplicit false

namespace OpenSomeIp

open E2EProtection

namespace RpcClient

variable {ω : Type}

def recorded (client : RpcClient ω) : RpcClient (ω × List Bytes) where
  clientId := client.clientId
  cpp := client.cpp.map NativeRpcClient.recorded

/-- The client is up, and the native synchronous call returns. -/
def Calls (client : RpcClient ω) (methodId : MessageId) (params : Bytes)
    (w : RpcWorld (ω × List Bytes)) : Prop :=
  w.running = true ∧ ∃ cpp outcome, client.cpp = some cpp ∧
    (cpp.callMethodSync methodId.serviceId methodId.methodId params w.native.1).1 = .ok outcome

/-- The same for the native asynchronous call. -/
def CallsAsync (client : RpcClient ω) (methodId : MessageId) (params : Bytes)
    (w : RpcWorld (ω × List Bytes)) : Prop :=
  w.running = true ∧ ∃ cpp, client.cpp = some cpp ∧
    (cpp.callMethodAsync methodId.serviceId methodId.methodId params w.native.1).1 = .ok ()

variable {client : RpcClient ω} {methodId : MessageId} {params : Bytes}
  {w : RpcWorld (ω × List Bytes)}

theorem recorded_present {cpp : NativeRpcClient ω} (present : client.cpp = some cpp) :
    client.recorded.cpp = some cpp.recorded := by
  rw [recorded, present, Option.map_some]

/-- Also a call that fails with the result code of the native one has handed its payload on. -/
theorem call_log_of_calls (calls : client.Calls methodId params w) :
    (client.recorded.call methodId params w).2.native.2 = w.native.2 ++ [params] := by
  obtain ⟨running, cpp, outcome, present, returned⟩ := calls
  have noted : cpp.recorded.callMethodSync methodId.serviceId methodId.methodId params w.native =
      (.ok outcome, _) := Method.noting_of_ok returned
  by_cases zero : cpp.int outcome.result = 0
  · have answered : client.recorded.callNative cpp.recorded methodId params w = (.ok _, _) :=
      callNative_of_success noted zero
    rw [call_of_ok running (recorded_present present) answered]
  · have raised : client.recorded.callNative cpp.recorded methodId params w = (.error _, _) :=
      callNative_of_failure noted zero
    obtain ⟨reason, ran, -⟩ := call_of_error running (recorded_present present) raised
    rw [ran]

theorem call_log_of_not_calls (fails : ¬ client.Calls methodId params w) :
    (client.recorded.call methodId params w).2.native.2 = w.native.2 := by
  cases running : w.running with
  | false => rw [call, Method.bind_of_error (available_of_stopped running)]
  | true =>
      cases present : client.cpp with
      | none =>
          have missing : client.recorded.cpp = none := by
            rw [recorded, present, Option.map_none]
          rw [call, Method.bind_of_error (available_of_missing running missing)]
      | some cpp =>
          cases returned : (cpp.callMethodSync methodId.serviceId methodId.methodId params
              w.native.1).1 with
          | ok outcome => exact absurd ⟨running, cpp, outcome, present, returned⟩ fails
          | error exc =>
              have noted : cpp.recorded.callMethodSync methodId.serviceId methodId.methodId params
                  w.native = (.error exc, _) := Method.noting_of_error returned
              have raised : client.recorded.callNative cpp.recorded methodId params w =
                  (.error exc, _) := callNative_of_raised noted
              obtain ⟨reason, ran, -⟩ := call_of_error running (recorded_present present) raised
              rw [ran]

theorem callAsync_log_of_calls (timeout : String) (calls : client.CallsAsync methodId params w) :
    (client.recorded.callAsync methodId params timeout w).2.native.2 = w.native.2 ++ [params] := by
  obtain ⟨running, cpp, present, returned⟩ := calls
  have noted : cpp.recorded.callMethodAsync methodId.serviceId methodId.methodId params w.native =
      (.ok (), _) := Method.noting_of_ok returned
  rw [callAsync_eq running (recorded_present present), noted]

theorem callAsync_log_of_not_calls (timeout : String)
    (fails : ¬ client.CallsAsync methodId params w) :
    (client.recorded.callAsync methodId params timeout w).2.native.2 = w.native.2 := by
  cases running : w.running with
  | false => rw [callAsync, Method.bind_of_error (available_of_stopped running)]
  | true =>
      cases present : client.cpp with
      | none =>
          have missing : client.recorded.cpp = none := by
            rw [recorded, present, Option.map_none]
          rw [callAsync, Method.bind_of_error (available_of_missing running missing)]
      | some cpp =>
          cases returned : (cpp.callMethodAsync methodId.serviceId methodId.methodId params
              w.native.1).1 with
          | ok outcome => exact absurd ⟨running, cpp, present, returned⟩ fails
          | error exc =>
              have noted : cpp.recorded.callMethodAsync methodId.serviceId methodId.methodId params
                  w.native = (.error exc, _) := Method.noting_of_error returned
              rw [callAsync_eq running (recorded_present present), noted]
              rfl

end RpcClient

/-- What happens to a client: its application calls and awaits, and anything else that happens
to the RPC client beneath: a start, a stop, a callback, a time-out. -/
inductive ClientAct (ω : Type) where
  | call (methodId : MessageId) (payload : Bytes)
  | callAsync (methodId : MessageId) (payload : Bytes) (timeout : String)
  | resumeAsync (number : Nat)
  | beneath (change : RpcWorld ω → RpcWorld ω)

namespace ClientAct

variable {ω : Type}

/-- The client after an act, whether that returned or raised. -/
def perform (rpc : RpcClient ω) (self : SomeIpClient ω) : ClientAct ω → SomeIpClient ω
  | .call methodId payload => (SomeIpClient.call rpc methodId payload self).2
  | .callAsync methodId payload timeout =>
      (SomeIpClient.callAsync rpc methodId payload timeout self).2
  | .resumeAsync number => (SomeIpClient.resumeAsync number self).2
  | .beneath change => { self with rpcClient := change self.rpcClient }

/-- What the native client took in an act. -/
def taken (rpc : RpcClient ω) (self : SomeIpClient (ω × List Bytes))
    (a : ClientAct (ω × List Bytes)) : List Bytes :=
  (perform rpc.recorded self a).rpcClient.native.2.drop self.rpcClient.native.2.length

/-- The payloads that an act hands on, each behind the one that the application gave. -/
def handedOn (rpc : RpcClient ω) (self : SomeIpClient (ω × List Bytes)) :
    ClientAct (ω × List Bytes) → List (Bytes × Bytes)
  | .call methodId payload => (taken rpc self (.call methodId payload)).map (payload, ·)
  | .callAsync methodId payload timeout =>
      (taken rpc self (.callAsync methodId payload timeout)).map (payload, ·)
  | _ => []

/-- Nothing fails between the stamp and the native call. -/
def HandsOn (rpc : RpcClient ω) (self : SomeIpClient (ω × List Bytes)) :
    ClientAct (ω × List Bytes) → Prop
  | .call methodId payload => ∃ stamped, (protectIf payload self.e2e).1 = .ok stamped ∧
      rpc.Calls methodId stamped self.rpcClient
  | .callAsync methodId payload _ => ∃ stamped, (protectIf payload self.e2e).1 = .ok stamped ∧
      rpc.CallsAsync methodId stamped self.rpcClient
  | _ => True

variable {profile : E2EProfile}

theorem accounted (rpc : RpcClient ω)
    (total : ∀ payload counter, ∃ stamped, profile.protect payload counter = .ok stamped)
    (config : E2EConfig) :
    Ledger.Accounted (perform rpc.recorded) (handedOn rpc) SomeIpClient.e2e config profile
      (HandsOn rpc) := by
  intro self a sent counted
  cases a with
  | call methodId payload =>
      obtain ⟨stamped, success, protects⟩ := Ledger.protectIf_of_total total counted payload
      have kept : (SomeIpClient.call rpc.recorded methodId payload self).2 = _ :=
        SomeIpClient.call_keeps protects
      refine ⟨1, ?_, ?_⟩
      · rw [perform, kept]
      · rw [handedOn, taken, perform, kept]
        apply Ledger.spends_of_log success protects
        · exact RpcClient.call_log_of_calls
        · exact RpcClient.call_log_of_not_calls
  | callAsync methodId payload timeout =>
      obtain ⟨stamped, success, protects⟩ := Ledger.protectIf_of_total total counted payload
      have kept : (SomeIpClient.callAsync rpc.recorded methodId payload timeout self).2 = _ :=
        SomeIpClient.callAsync_keeps protects
      refine ⟨1, ?_, ?_⟩
      · rw [perform, kept]
      · rw [handedOn, taken, perform, kept]
        apply Ledger.spends_of_log success protects
        · exact RpcClient.callAsync_log_of_calls timeout
        · exact RpcClient.callAsync_log_of_not_calls timeout
  | resumeAsync number =>
      refine ⟨0, ?_, .nothing trivial⟩
      rw [perform, SomeIpClient.resumeAsync_keeps]
      exact counted
  | beneath change => exact ⟨0, counted, .nothing trivial⟩

end ClientAct

end OpenSomeIp
