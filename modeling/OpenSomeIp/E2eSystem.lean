import OpenSomeIp.Client
import OpenSomeIp.E2eStream
import OpenSomeIp.Lib.Transition
import OpenSomeIp.Server

set_option autoImplicit false

namespace OpenSomeIp

/-- A native layer with a state of its own that hands every request, framed in some
way, to the registered handler. What it does besides is `base`. -/
structure Network (κ η : Type) where
  base : NativeRpcClient (κ × SomeIpServer η)
  request : κ → MessageId → Bytes → Message × κ
  int_success : base.int .success = 0
  messageId_request : ∀ state methodId params,
    (request state methodId params).1.messageId = methodId
  payload_request : ∀ state methodId params, (request state methodId params).1.payload = params

namespace Network

variable {κ η : Type} (network : Network κ η)

/-- The synchronous call of the extension: the request goes to the handler, and the payload
of the response comes back as it is. -/
def callMethodSync (handler : Message → Method Exn (SomeIpServer η) Nat)
    (serviceId methodId : UInt16) (params : Bytes) : Method Exn (κ × SomeIpServer η) RpcOutcome := do
  let (state, _) ← Method.get
  let framed := network.request state ⟨serviceId, methodId⟩ params
  Method.modify fun world => (framed.2, world.2)
  let reply ← Method.zoom Prod.snd (fun server world => (world.1, server))
    (SomeIpServer.cppHandler handler framed.1)
  pure { result := .success, returnValues := reply.payload }

/-- The RPC client of a `SomeIpClient` that talks to a server through the network. -/
def rpcClient (handler : Message → Method Exn (SomeIpServer η) Nat) :
    RpcClient (κ × SomeIpServer η) where
  cpp := some { network.base with callMethodSync := network.callMethodSync handler }

end Network

/-- A client and a server under E2E protection, and how the calls made so far ended. -/
structure E2ESystem (κ η : Type) where
  client : SomeIpClient (κ × SomeIpServer η)
  results : List (MessageId × Except Exn Message) := []

namespace E2ESystem

variable {κ η : Type}

def server (s : E2ESystem κ η) : SomeIpServer η := s.client.rpcClient.native.2

/-- Both sides after construction and `start`. -/
def start (clientConfig serverConfig : E2EConfig) (profile : E2EProfile) (state : κ)
    (app : App η) : E2ESystem κ η where
  client :=
    { SomeIpClient.init { e2eConfig := some clientConfig, e2eProfile := some profile }
        (state, SomeIpServer.init { e2eConfig := some serverConfig, e2eProfile := some profile } app)
      with
      rpcClient :=
        { native :=
            (state, SomeIpServer.init { e2eConfig := some serverConfig, e2eProfile := some profile } app)
          running := true } }

/-- The application makes one call, whatever became of those before. -/
def step (network : Network κ η) (handler : Handler η) (s : E2ESystem κ η)
    (call : MessageId × Bytes) : Option (E2ESystem κ η) :=
  let rpc := network.rpcClient (s.server.registerMethod handler.raising)
  let ended := SomeIpClient.call rpc call.1 call.2 s.client
  some { client := ended.2, results := s.results ++ [(call.1, ended.1)] }

/-- The call returned the response to its method. -/
def Returned (entry : MessageId × Except Exn Message) : Prop :=
  ∃ response, entry.2 = .ok response ∧ response.messageType = .response ∧
    response.messageId = entry.1

/-- The payload that the application puts into the response to a request with the
payload `stamped`. -/
def answer (network : Network κ η) (handler : Handler η) (s : E2ESystem κ η)
    (methodId : MessageId) (stamped : Bytes) : Bytes :=
  SomeIpServer.answer handler (network.request s.client.rpcClient.native.1 methodId stamped).1
    s.server.app

/-- At the `k`-th call the profile accepts at counter `k + 1` what it stamps at counter
`k` for the payload of the application's response. -/
def Accepts (network : Network κ η) (handler : Handler η) (profile : E2EProfile)
    (s : E2ESystem κ η) (call : MessageId × Bytes) : Prop :=
  ∀ request response, profile.protect call.2 (s.results.length % 256) = .ok request →
    profile.protect (s.answer network handler call.1 request) (s.results.length % 256) =
      .ok response →
    profile.check response ((s.results.length + 1) % 256) = .ok .ok

/-- Both sides have stamped one payload for every call made. -/
structure InStep (clientConfig serverConfig : E2EConfig) (profile : E2EProfile)
    (s : E2ESystem κ η) : Prop where
  client : s.client.e2e = some (.after clientConfig profile s.results.length)
  server : s.server.e2e = some (.after serverConfig profile s.results.length)
  running : s.client.rpcClient.running = true

variable {network : Network κ η} {handler : Handler η} {profile : E2EProfile}
variable {clientConfig serverConfig : E2EConfig} {s t : E2ESystem κ η}

theorem inStep_start (state : κ) (app : App η) :
    InStep clientConfig serverConfig profile
      (start clientConfig serverConfig profile state app) where
  client := rfl
  server := rfl
  running := rfl

/-- The native call of the network brings the application's payload, stamped once. -/
theorem callMethodSync_after (serverConfig : E2EConfig) {state : κ} {methodId : MessageId} {params stamped : Bytes}
    {app : App η} {sent : Nat}
    (success : profile.protect (SomeIpServer.answer handler
      (network.request state methodId params).1 app) (sent % 256) = .ok stamped) :
    network.callMethodSync (SomeIpServer.e2eHandler handler.raising) methodId.serviceId methodId.methodId
        params (state, { e2e := some (.after serverConfig profile sent), app := app }) =
      (.ok { result := .success, returnValues := stamped },
        ((network.request state methodId params).2,
          { e2e := some (.after serverConfig profile (sent + 1)),
            app := SomeIpServer.stamp handler (network.request state methodId params).1 app
              stamped })) := by
  simp only [Network.callMethodSync, Method.bind_apply, Method.get_apply, Method.modify_apply,
    Method.zoom_apply, SomeIpServer.cppHandler_after success, Method.pure_apply,
    Message.wire_payload, SomeIpServer.stamp, SomeIpServer.setPayload_payload]

/-- What the RPC client returns for the response of a protected handler. -/
theorem rpcCall_after {w : RpcWorld (κ × SomeIpServer η)} {sent : Nat} {methodId : MessageId}
    {params stamped : Bytes} (running : w.running = true)
    (counted : w.native.2.e2e = some (.after serverConfig profile sent))
    (success : profile.protect (SomeIpServer.answer handler
      (network.request w.native.1 methodId params).1 w.native.2.app) (sent % 256) = .ok stamped) :
    ∃ response t,
      (network.rpcClient (SomeIpServer.e2eHandler handler.raising)).call methodId params w =
        (.ok response, t) ∧
      response.payload = stamped ∧ response.messageType = .response ∧
      response.messageId = methodId ∧ t.running = true ∧
      t.native.2.e2e = some (.after serverConfig profile (sent + 1)) := by
  have native : w.native =
      (w.native.1, { e2e := some (.after serverConfig profile sent), app := w.native.2.app }) := by
    rw [← counted]
  have called := callMethodSync_after serverConfig success
  rw [← native] at called
  have present : (network.rpcClient (SomeIpServer.e2eHandler handler.raising)).cpp =
      some { network.base with
        callMethodSync := network.callMethodSync (SomeIpServer.e2eHandler handler.raising) } := rfl
  have returned := RpcClient.call_of_ok running present
    (RpcClient.callNative_of_success called network.int_success)
  exact ⟨_, _, returned, rfl, rfl, rfl, running, rfl⟩

variable (network handler)

/-- One call: the counters of both sides advance together, and the response is returned
exactly when the profile accepts it. -/
theorem step_inStep (lawful : profile.Lawful)
    (inStep : InStep clientConfig serverConfig profile s) (call : MessageId × Bytes) :
    ∃ t entry, step network handler s call = some t ∧ t.results = s.results ++ [entry] ∧
      InStep clientConfig serverConfig profile t ∧
      (Returned entry ↔ Accepts network handler profile s call) := by
  obtain ⟨methodId, payload⟩ := call
  obtain ⟨request, stamped, _⟩ := lawful payload (s.results.length % 256)
  obtain ⟨response, protects, _⟩ :=
    lawful (s.answer network handler methodId request) (s.results.length % 256)
  obtain ⟨reply, w, returned, carries, kind, names, up, counted⟩ :=
    rpcCall_after inStep.running inStep.server protects
  have protected_ : s.server.registerMethod handler.raising = SomeIpServer.e2eHandler handler.raising := by
    rw [SomeIpServer.registerMethod, inStep.server]
    rfl
  have client : s.client =
      { e2e := some (.after clientConfig profile s.results.length),
        rpcClient := s.client.rpcClient } := by
    rw [← inStep.client]
  have called := SomeIpClient.call_after clientConfig stamped returned
  rw [← client] at called
  refine ⟨_, _, rfl, rfl, ?_, ?_⟩
  · rw [protected_, called]
    have longer : (s.results ++ [(methodId, SomeIpClient.verdict reply
        (profile.check reply.payload ((s.results.length + 1) % 256)))]).length =
        s.results.length + 1 := by
      rw [List.length_append, List.length_singleton]
    constructor
    · rw [longer]
    · rw [longer]
      exact counted
    · exact up
  · rw [protected_, called, carries]
    constructor
    · rintro ⟨message, same, _⟩ other sent protectsRequest protectsResponse
      obtain rfl := Except.ok.inj (stamped.symm.trans protectsRequest)
      obtain rfl := Except.ok.inj (protects.symm.trans protectsResponse)
      exact (SomeIpClient.verdict_eq_ok.mp same).1
    · intro accepts
      have accepted := accepts request response stamped protects
      exact ⟨reply, SomeIpClient.verdict_eq_ok.mpr ⟨accepted, rfl⟩, kind, names⟩

/-- The run of a sequence of calls from a state in step. -/
theorem run_inStep (lawful : profile.Lawful)
    (inStep : InStep clientConfig serverConfig profile s) (calls : List (MessageId × Bytes)) :
    ∃ last, Transition.run (step network handler) s calls = some last ∧
      InStep clientConfig serverConfig profile last ∧
      ((∀ entry ∈ last.results, Returned entry) ↔
        (∀ entry ∈ s.results, Returned entry) ∧
          Transition.Along (step network handler) (Accepts network handler profile) s calls) := by
  induction calls generalizing s with
  | nil => exact ⟨s, rfl, inStep, fun all => ⟨all, trivial⟩, fun both => both.1⟩
  | cons call calls ih =>
      obtain ⟨t, entry, first, logged, next, returned⟩ :=
        step_inStep network handler lawful inStep call
      obtain ⟨last, ran, end_, all⟩ := ih next
      refine ⟨last, ?_, end_, ?_⟩
      · rw [Transition.run_cons_of_some first, ran]
      · rw [all, logged, Transition.Along, first]
        simp only [List.forall_mem_append, List.forall_mem_singleton, returned, Option.some.injEq,
          forall_eq', and_assoc]

/-- Every call leaves one result, in order. -/
theorem results_run {calls : List (MessageId × Bytes)}
    (ran : Transition.run (step network handler) s calls = some t) :
    t.results.map Prod.fst = s.results.map Prod.fst ++ calls.map Prod.fst := by
  induction calls generalizing s with
  | nil =>
      cases ran
      rw [List.map_nil, List.append_nil]
  | cons call calls ih =>
      obtain ⟨middle, first, rest⟩ := Transition.run_cons_eq_some ran
      cases first
      rw [ih rest, List.map_append, List.append_assoc]
      rfl

/-- Whatever the number of calls, all of them return their responses exactly when at
every call the profile accepts a stamp that is one behind. -/
theorem calls_return_iff (profile : E2EProfile) (lawful : profile.Lawful)
    (clientConfig serverConfig : E2EConfig) (state : κ) (app : App η)
    (calls : List (MessageId × Bytes)) :
    ∃ last,
      Transition.run (step network handler) (start clientConfig serverConfig profile state app)
        calls = some last ∧
      last.results.map Prod.fst = calls.map Prod.fst ∧
      ((∀ entry ∈ last.results, Returned entry) ↔
        Transition.Along (step network handler) (Accepts network handler profile)
          (start clientConfig serverConfig profile state app) calls) := by
  have begins : InStep clientConfig serverConfig profile
      (start clientConfig serverConfig profile state app) := inStep_start state app
  obtain ⟨last, ran, _, all⟩ := run_inStep network handler lawful begins calls
  refine ⟨last, ran, results_run network handler ran, ?_⟩
  rw [all]
  constructor
  · exact fun both => both.2
  · intro along
    refine ⟨?_, along⟩
    intro entry member
    cases member

/-- A network without a state that frames nothing but the ids and the payload. -/
def plainNetwork (η : Type) : Network Unit η where
  base :=
    { int := fun result => if result = .success then 0 else 1
      initializeClient := pure ()
      shutdown := pure ()
      callMethodSync := fun _ _ _ => pure ⟨.success, []⟩
      callMethodAsync := fun _ _ _ => pure () }
  request _ methodId params := ({ messageId := methodId, payload := params }, ())
  int_success := rfl
  messageId_request _ _ _ := rfl
  payload_request _ _ _ := rfl

/-- A handler that answers with a new message each time. -/
def echo : Handler Nat := fun req app =>
  (app.state, { state := app.state + 1
                objects := Function.update app.objects app.state
                  { req with messageType := .response } })

def noObjects : App Nat where
  state := 0
  objects _ := {}

theorem calls_return_iff_echo :
    ∃ last,
      Transition.run (step (plainNetwork Nat) echo)
        (start E2ELink.exampleConfig E2ELink.exampleConfig simpleE2EProfile () noObjects)
        [(⟨0x1234, 1⟩, [1, 2]), (⟨0x1234, 1⟩, [3])] = some last ∧
      last.results.map Prod.fst =
        [((⟨0x1234, 1⟩, [1, 2]) : MessageId × Bytes), (⟨0x1234, 1⟩, [3])].map Prod.fst ∧
      ((∀ entry ∈ last.results, Returned entry) ↔
        Transition.Along (step (plainNetwork Nat) echo) (Accepts (plainNetwork Nat) echo simpleE2EProfile)
          (start E2ELink.exampleConfig E2ELink.exampleConfig simpleE2EProfile () noObjects)
          [(⟨0x1234, 1⟩, [1, 2]), (⟨0x1234, 1⟩, [3])]) :=
  calls_return_iff (plainNetwork Nat) echo simpleE2EProfile simpleE2EProfile_lawful
    E2ELink.exampleConfig E2ELink.exampleConfig () noObjects
    [(⟨0x1234, 1⟩, [1, 2]), (⟨0x1234, 1⟩, [3])]

/-- Already the first call fails: the client checks a stamp of counter 0 at counter 1. -/
theorem first_call_rejected :
    simpleE2EProfile.Lawful ∧
      ∃ last,
        Transition.run (step (plainNetwork Nat) echo)
          (start E2ELink.exampleConfig E2ELink.exampleConfig simpleE2EProfile () noObjects)
          [(⟨0x1234, 1⟩, [1, 2])] = some last ∧
        last.results =
          [(⟨0x1234, 1⟩, .error (.e2eError "E2E check failed on response: WRONG_SEQUENCE"))] ∧
        ¬ ∀ entry ∈ last.results, Returned entry := by
  have outcome : (step (plainNetwork Nat) echo
      (start E2ELink.exampleConfig E2ELink.exampleConfig simpleE2EProfile () noObjects)
      (⟨0x1234, 1⟩, [1, 2])).map results =
      some [(⟨0x1234, 1⟩, .error (.e2eError "E2E check failed on response: WRONG_SEQUENCE"))] := by
    decide +kernel
  obtain ⟨last, stepped, logged⟩ := Option.map_eq_some_iff.mp outcome
  refine ⟨simpleE2EProfile_lawful, last, Transition.run_cons_of_some stepped [], logged, ?_⟩
  intro all
  rw [logged] at all
  obtain ⟨response, same, _⟩ := all _ List.mem_cons_self
  cases same

end E2ESystem

end OpenSomeIp
