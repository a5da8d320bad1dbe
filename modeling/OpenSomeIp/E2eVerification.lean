import OpenSomeIp.Client
import OpenSomeIp.Lib.Keeping
import OpenSomeIp.PublishThreshold
import OpenSomeIp.ServerSystem
import OpenSomeIp.SimpleE2eProfile

set_option autoImplicit false

namespace OpenSomeIp

open E2EProtection Transition

/-! ### Profiles with a state of their own -/

/-- An object of any class derived from `E2EProfile`; its methods may raise, and may change it. -/
structure E2EProfileObject (π : Type) where
  protect : Bytes → Nat → Method Exn π Bytes
  check : Bytes → Nat → Method Exn π E2ECheckStatus

/-- An `E2EProtection` with such an object, and the payloads that its `check` has accepted. -/
structure WatchedProtection (π : Type) where
  config : E2EConfig
  profile : Option (E2EProfileObject π) := none
  counter : Nat := 0
  state : π
  accepted : List Bytes := []

namespace WatchedProtection

variable {π : Type}

def onProfile {α : Type} (body : Method Exn π α) : Method Exn (WatchedProtection π) α :=
  Method.zoom state (fun state self => { self with state := state }) body

def protect (payload : Bytes) : Method Exn (WatchedProtection π) Bytes := do
  let self ← Method.get
  match self.profile with
  | none => pure payload
  | some profile => do
      let result ← onProfile (profile.protect payload self.counter)
      Method.modify fun self => { self with counter := (self.counter + 1) &&& 0xFF }
      pure result

def status (payload : Bytes) : Method Exn (WatchedProtection π) E2ECheckStatus := do
  let self ← Method.get
  match self.profile with
  | none => pure .ok
  | some profile => onProfile (profile.check payload self.counter)

/-- The source's `check`, whose OK is noted. -/
def check (payload : Bytes) : Method Exn (WatchedProtection π) E2ECheckStatus := do
  let status ← status payload
  Method.modify fun self =>
    if status = .ok then { self with accepted := self.accepted ++ [payload] } else self
  pure status

instance : E2EObject (WatchedProtection π) where
  protect := protect
  check := check

/-- The payloads accepted so far. -/
def log (e2e : Option (WatchedProtection π)) : List Bytes := e2e.elim [] accepted

theorem protect_keeps (log : List Bytes) (payload : Bytes) :
    Method.Keeps (fun self : WatchedProtection π => self.accepted = log) (protect payload) := by
  intro self before
  cases present : self.profile with
  | none =>
      simp only [protect, Method.bind_apply, Method.get_apply, present, Method.pure_apply]
      exact before
  | some profile =>
      simp only [protect, Method.bind_apply, Method.get_apply, present, onProfile,
        Method.zoom_apply]
      cases (profile.protect payload self.counter self.state).1 with
      | ok result => exact before
      | error exc => exact before

theorem log_protectIf (payload : Bytes) (e2e : Option (WatchedProtection π)) :
    log (protectIf payload e2e).2 = log e2e := by
  cases e2e with
  | none => rfl
  | some self => exact protect_keeps self.accepted payload self rfl

theorem status_keeps (log : List Bytes) (payload : Bytes) :
    Method.Keeps (fun self : WatchedProtection π => self.accepted = log) (status payload) := by
  intro self before
  simp only [status, Method.bind_apply, Method.get_apply]
  cases self.profile with
  | none => exact before
  | some profile => exact before

/-- A check that comes out OK has accepted the payload. -/
theorem log_checkIf {payload : Bytes} {e2e after : Option (WatchedProtection π)}
    (configured : e2e.isSome) (checked : checkIf payload e2e = (.ok .ok, after)) :
    log after = log e2e ++ [payload] := by
  obtain ⟨self, rfl⟩ := Option.isSome_iff_exists.mp configured
  have accepts : (check payload self).1 = .ok .ok := congrArg Prod.fst checked
  have left : some (check payload self).2 = after := congrArg Prod.snd checked
  have kept := status_keeps self.accepted payload self rfl
  rw [← left]
  change (check payload self).2.accepted = self.accepted ++ [payload]
  cases ran : status payload self with
  | mk result after =>
      rw [ran] at kept
      cases result with
      | error exc =>
          rw [check, Method.bind_of_error ran] at accepts
          cases accepts
      | ok found =>
          rw [check, Method.bind_of_ok ran] at accepts ⊢
          obtain rfl := Except.ok.inj accepts
          exact congrArg (· ++ [payload]) kept

end WatchedProtection

/-! ### Profiles without one -/

/-- A profile that has no state. -/
def E2EProfile.object (profile : E2EProfile) : E2EProfileObject Unit where
  protect data counter := Method.lift (profile.protect data counter)
  check data counter := Method.lift (profile.check data counter)

namespace WatchedProtection

def ofProtection (e2e : E2EProtection) (accepted : List Bytes) : WatchedProtection Unit where
  config := e2e.config
  profile := e2e.profile.map E2EProfile.object
  counter := e2e.counter
  state := ()
  accepted := accepted

/-- With such a profile it does what an `E2EProtection` does. -/
theorem protect_ofProtection (payload : Bytes) (e2e : E2EProtection) (accepted : List Bytes) :
    protect payload (ofProtection e2e accepted) =
      ((E2EProtection.protect payload e2e).1,
        ofProtection (E2EProtection.protect payload e2e).2 accepted) := by
  obtain ⟨config, profile, counter⟩ := e2e
  cases profile with
  | none => rfl
  | some profile =>
      simp only [protect, E2EProtection.protect, ofProtection, onProfile, E2EProfile.object,
        Method.bind_apply, Method.get_apply, Method.zoom_apply, Method.lift_apply, Option.map_some]
      cases profile.protect payload counter with
      | ok result => rfl
      | error exc => rfl

theorem status_ofProtection (payload : Bytes) (e2e : E2EProtection) (accepted : List Bytes) :
    status payload (ofProtection e2e accepted) =
      ((E2EProtection.check payload e2e).1, ofProtection e2e accepted) := by
  obtain ⟨config, profile, counter⟩ := e2e
  cases profile with
  | none => rfl
  | some profile => rfl

theorem check_ofProtection (payload : Bytes) (e2e : E2EProtection) (accepted : List Bytes) :
    check payload (ofProtection e2e accepted) =
      ((E2EProtection.check payload e2e).1,
        ofProtection e2e (if (E2EProtection.check payload e2e).1 = .ok .ok then
          accepted ++ [payload] else accepted)) := by
  have ran := status_ofProtection payload e2e accepted
  cases checked : (E2EProtection.check payload e2e).1 with
  | error exc =>
      rw [checked] at ran
      rw [check, Method.bind_of_error ran, if_neg (by rintro ⟨⟩)]
  | ok found =>
      rw [checked] at ran
      rw [check, Method.bind_of_ok ran]
      cases found <;> rfl

end WatchedProtection

/-! ### The handlers -/

/-- The handler with a log of its own: it notes what it is invoked on before it does anything. -/
def RaisingHandler.logged {η : Type} (handler : RaisingHandler η) :
    RaisingHandler (η × List Message) := fun req => do
  Method.modify fun app => { app with state := (app.state.1, app.state.2 ++ [req]) }
  Method.zoom (fun app => { state := app.state.1, objects := app.objects })
    (fun inner app => { state := (inner.state, app.state.2), objects := inner.objects })
    (handler req)

namespace ServerAct

variable {ω ε κ ς η γ : Type} [E2EObject γ] (config : ServerSettings)
  (ext : Option (ServerExtension ω ε κ ς)) (fuel : Nat)

def logged : ServerAct η → ServerAct (η × List Message)
  | .request handler req => .request handler.logged req
  | .publishEvent eventId payload => .publishEvent eventId payload
  | .setField eventId payload => .setField eventId payload
  | .registerEvent eventId eventgroupId => .registerEvent eventId eventgroupId
  | .start => .start
  | .stop => .stop

/-- The requests that the network delivers with an act. -/
def delivered : ServerAct η → List Message
  | .request _ req => [req]
  | _ => []

def loggedStep (w : ServerWorld ω (η × List Message) γ) (a : ServerAct η) :
    Option (ServerWorld ω (η × List Message) γ) :=
  step config ext fuel w a.logged

/-- The requests that an act invokes handlers on, as their log tells. -/
def invoked (w : ServerWorld ω (η × List Message) γ) (a : ServerAct η) : List Message :=
  (perform config ext fuel w a.logged).core.app.state.2.drop w.core.app.state.2.length

variable {config ext fuel}

/-- Nothing that surrounds the handler touches the log once the handler was entered. -/
theorem registered_log (handler : RaisingHandler η) (req : Message)
    (self : SomeIpServer (η × List Message) γ) :
    (SomeIpServer.registered handler.logged req self).2.app.state.2 =
      self.app.state.2 ++ [req] := by
  have entered : (handler.logged req self.app).2.state.2 = self.app.state.2 ++ [req] := rfl
  rw [SomeIpServer.registered_eq]
  cases ran : handler.logged req self.app with
  | mk result app =>
      rw [ran] at entered
      cases result with
      | error exc => exact entered
      | ok resp =>
          dsimp only
          cases protectIf (app.objects resp).payload self.e2e with
          | mk result e2e =>
              cases result with
              | error exc => exact entered
              | ok payload => exact entered

theorem logged_ne_request {a : ServerAct η} (quiet : a.delivered = [])
    (handler : RaisingHandler (η × List Message)) (req : Message) :
    a.logged ≠ .request handler req := by
  intro same
  cases a with
  | request handler req => cases quiet
  | publishEvent eventId payload => cases same
  | setField eventId payload => cases same
  | registerEvent eventId eventgroupId => cases same
  | start => cases same
  | stop => cases same

theorem invoked_of_quiet {w : ServerWorld ω (η × List Message) γ} {a : ServerAct η}
    (quiet : a.delivered = []) : invoked config ext fuel w a = [] := by
  rw [invoked, perform_app (logged_ne_request quiet)]
  exact List.drop_length

/-- No check stands between the network and the handlers. -/
theorem invoked_eq_delivered (w : ServerWorld ω (η × List Message) γ) (a : ServerAct η) :
    invoked config ext fuel w a = a.delivered := by
  cases a with
  | request handler req =>
      have grown : (perform config ext fuel w (request handler req).logged).core.app.state.2 =
          w.core.app.state.2 ++ [req] := registered_log handler req w.core
      rw [invoked, grown]
      exact List.drop_left
  | publishEvent eventId payload => exact invoked_of_quiet rfl
  | setField eventId payload => exact invoked_of_quiet rfl
  | registerEvent eventId eventgroupId => exact invoked_of_quiet rfl
  | start => exact invoked_of_quiet rfl
  | stop => exact invoked_of_quiet rfl

/-- The object for E2E is used to protect one payload at most, never for a check. -/
theorem perform_e2e (w : ServerWorld ω η γ) (a : ServerAct η) :
    (perform config ext fuel w a).core.e2e = w.core.e2e ∨
      ∃ payload, (perform config ext fuel w a).core.e2e = (protectIf payload w.core.e2e).2 := by
  cases a with
  | request handler req =>
      change (SomeIpServer.registered handler req w.core).2.e2e = _ ∨
        ∃ payload, (SomeIpServer.registered handler req w.core).2.e2e = _
      rw [SomeIpServer.registered_eq]
      cases handler req w.core.app with
      | mk result app =>
          cases result with
          | error exc => exact .inl rfl
          | ok resp =>
              refine .inr ⟨(app.objects resp).payload, ?_⟩
              dsimp only
              cases protectIf (app.objects resp).payload w.core.e2e with
              | mk result e2e => cases result <;> rfl
  | publishEvent eventId payload =>
      exact .inr ⟨payload, congrArg SomeIpServer.e2e
        (SomeIpServer.publishEvent_core config ext fuel eventId payload w)⟩
  | setField eventId payload =>
      exact .inr ⟨payload, congrArg SomeIpServer.e2e
        (SomeIpServer.setField_core ext eventId payload w)⟩
  | registerEvent eventId eventgroupId => exact .inl rfl
  | start =>
      have same := Composite.start_core (SomeIpServer.node_lawful config ext) w
      exact .inl (congrArg SomeIpServer.e2e same)
  | stop =>
      have same := (Composite.stop_frame (SomeIpServer.node_lawful config ext) w).2
      exact .inl (congrArg SomeIpServer.e2e same)

/-- So nothing is ever accepted. -/
theorem perform_log {π : Type} (w : ServerWorld ω η (WatchedProtection π)) (a : ServerAct η) :
    WatchedProtection.log (perform config ext fuel w a).core.e2e =
      WatchedProtection.log w.core.e2e := by
  rcases @perform_e2e _ _ _ _ _ _ _ config ext fuel w a with same | ⟨payload, used⟩
  · rw [same]
  · rw [used, WatchedProtection.log_protectIf]

end ServerAct

namespace SomeIpClient

variable {ω π : Type}

/-- Of the responses, `call` and `call_async` return those that the client's check has just
accepted, and raise an `E2EError` for those with another status. -/
structure Verifies (rpc : RpcClient ω) (self : SomeIpClient ω (WatchedProtection π)) : Prop where
  call : ∀ methodId payload response t, call rpc methodId payload self = (.ok response, t) →
    WatchedProtection.log t.e2e = WatchedProtection.log self.e2e ++ [response.payload]
  callRaises : ∀ methodId payload stamped e2e response t status checked,
    protectIf payload self.e2e = (.ok stamped, e2e) →
    rpc.call methodId stamped self.rpcClient = (.ok response, t) →
    checkIf response.payload e2e = (.ok status, checked) → status ≠ .ok →
    SomeIpClient.call rpc methodId payload self =
      (.error (.e2eError ("E2E check failed on response: " ++ status.name)),
        { e2e := checked, rpcClient := t })
  resume : ∀ number response t, resumeAsync number self = (.ok (some response), t) →
    WatchedProtection.log t.e2e = WatchedProtection.log self.e2e ++ [response.payload]
  resumeRaises : ∀ number call response status checked,
    self.rpcClient.calls[number]? = some call → call.outcome = some (.ok response) →
    checkIf response.payload self.e2e = (.ok status, checked) → status ≠ .ok →
    resumeAsync number self =
      (.error (.e2eError ("E2E check failed on response: " ++ status.name)),
        { self with e2e := checked })

theorem onE2e_of {α : Type} {body : Method Exn (Option (WatchedProtection π)) α}
    {self : SomeIpClient ω (WatchedProtection π)} {result : Except Exn α}
    {e2e : Option (WatchedProtection π)} (ran : body self.e2e = (result, e2e)) :
    onE2e body self = (result, { self with e2e := e2e }) := by
  rw [onE2e, Method.zoom_apply, ran]

theorem onRpcClient_of {α : Type} {body : Method Exn (RpcWorld ω) α}
    {self : SomeIpClient ω (WatchedProtection π)} {result : Except Exn α} {w : RpcWorld ω}
    (ran : body self.rpcClient = (result, w)) :
    onRpcClient body self = (result, { self with rpcClient := w }) := by
  rw [onRpcClient, Method.zoom_apply, ran]

theorem configured_protectIf {payload : Bytes} {e2e after : Option (WatchedProtection π)}
    {result : Except Exn Bytes} (configured : e2e.isSome)
    (protects : protectIf payload e2e = (result, after)) : after.isSome := by
  obtain ⟨self, rfl⟩ := Option.isSome_iff_exists.mp configured
  have left : some (WatchedProtection.protect payload self).2 = after := congrArg Prod.snd protects
  exact left ▸ rfl

/-- What the check of a response decides. -/
theorem checks {α : Type} {self : SomeIpClient ω (WatchedProtection π)} {payload : Bytes}
    {value : α} {t : SomeIpClient ω (WatchedProtection π)} (configured : self.e2e.isSome)
    {given : α}
    (returned : (do
      let status ← onE2e (checkIf payload)
      if status ≠ .ok then
        Method.raise (.e2eError ("E2E check failed on response: " ++ status.name))
      else pure value : Method Exn (SomeIpClient ω (WatchedProtection π)) α) self =
        (.ok given, t)) :
    given = value ∧ WatchedProtection.log t.e2e = WatchedProtection.log self.e2e ++ [payload] := by
  obtain ⟨status, u, checked, ended⟩ := Method.bind_eq_ok returned
  obtain ⟨same, rfl⟩ := Prod.mk.inj checked
  by_cases accepted : status = .ok
  · rw [if_neg (not_not_intro accepted)] at ended
    obtain ⟨gives, rfl⟩ := Prod.mk.inj ended
    refine ⟨(Except.ok.inj gives).symm, ?_⟩
    exact WatchedProtection.log_checkIf configured (Prod.ext (accepted ▸ same) rfl)
  · rw [if_pos accepted] at ended
    cases ended

/-- What becomes of a response with another status. -/
theorem refuses {α : Type} {self : SomeIpClient ω (WatchedProtection π)} {payload : Bytes}
    (value : α) {status : E2ECheckStatus} {after : Option (WatchedProtection π)}
    (checked : checkIf payload self.e2e = (.ok status, after)) (other : status ≠ .ok) :
    (do
      let status ← onE2e (checkIf payload)
      if status ≠ .ok then
        Method.raise (.e2eError ("E2E check failed on response: " ++ status.name))
      else pure value : Method Exn (SomeIpClient ω (WatchedProtection π)) α) self =
      (.error (.e2eError ("E2E check failed on response: " ++ status.name)),
        { self with e2e := after }) := by
  rw [Method.bind_of_ok (onE2e_of checked), if_pos other]
  rfl

theorem verifies (rpc : RpcClient ω) (self : SomeIpClient ω (WatchedProtection π))
    (configured : self.e2e.isSome) : Verifies rpc self where
  call methodId payload response t returned := by
    obtain ⟨stamped, u, protects, rest⟩ := Method.bind_eq_ok returned
    obtain ⟨answer, v, answered, ended⟩ := Method.bind_eq_ok rest
    obtain ⟨stamps, rfl⟩ := Prod.mk.inj protects
    obtain ⟨answers, rfl⟩ := Prod.mk.inj answered
    have left := configured_protectIf configured (Prod.ext stamps rfl)
    obtain ⟨rfl, logged⟩ := checks left ended
    rw [logged]
    exact congrArg (· ++ [response.payload]) (WatchedProtection.log_protectIf payload self.e2e)
  callRaises methodId payload stamped e2e response t status checked protects answered came other := by
    have left : ({ self with e2e := e2e } : SomeIpClient ω (WatchedProtection π)).rpcClient =
        self.rpcClient := rfl
    rw [← left] at answered
    rw [SomeIpClient.call, Method.bind_of_ok (onE2e_of protects),
      Method.bind_of_ok (onRpcClient_of answered)]
    exact refuses response came other
  resume number response t returned := by
    have got : (Method.get : Method Exn _ _) self = (.ok self, self) := rfl
    rw [resumeAsync, Method.bind_of_ok got] at returned
    cases outcome : self.rpcClient.calls[number]?.bind AsyncCall.outcome with
    | none =>
        rw [outcome] at returned
        cases returned
    | some ended =>
        rw [outcome] at returned
        cases ended with
        | error exc => cases returned
        | ok answer =>
            obtain ⟨same, logged⟩ := checks configured returned
            obtain rfl := Option.some.inj same
            exact logged
  resumeRaises number call response status checked known ended came other := by
    have got : (Method.get : Method Exn _ _) self = (.ok self, self) := rfl
    have outcome : self.rpcClient.calls[number]?.bind AsyncCall.outcome = some (.ok response) := by
      rw [known, Option.bind_some, ended]
    rw [resumeAsync, Method.bind_of_ok got, outcome]
    exact refuses (some response) came other

end SomeIpClient

namespace E2EVerification

variable {ω ε κ ς η τ π ρ : Type}

/-- What an act invokes handlers on has been accepted by the server's check, if not before the act
then in it. -/
def InvokesVerified (config : ServerSettings) (ext : Option (ServerExtension ω ε κ ς)) (fuel : Nat)
    (w : ServerWorld ω (η × List Message) (WatchedProtection π)) (a : ServerAct η) : Prop :=
  ∀ req ∈ a.invoked config ext fuel w,
    req.payload ∈ WatchedProtection.log (a.logged.perform config ext fuel w).core.e2e

/-- A server with a profile, as `__init__` leaves it. -/
def create (config : ServerSettings) (e2eConfig : E2EConfig) (profile : E2EProfileObject π)
    (state : π) (native : ω) (app : App η) : ServerWorld ω η (WatchedProtection π) :=
  { SomeIpServer.create config native app with
    core :=
      { e2e := some { config := e2eConfig, profile := some profile, state := state }
        app := app } }

/-- The client keeps its half of the promise by itself; the server keeps it as long as there is
nothing to invoke a handler on. -/
theorem verified_only_iff (config : ServerSettings) (e2eConfig : E2EConfig)
    (profile : E2EProfileObject π) (state : π) (native : ω) (app : App (η × List Message))
    (ext : Option (ServerExtension ω ε κ ς)) (fuel : Nat) (rpc : RpcClient τ)
    (acts : List (ServerAct η)) :
    (Along (ServerAct.loggedStep config ext fuel) (InvokesVerified config ext fuel)
        (create config e2eConfig profile state native app) acts ∧
      ∀ self : SomeIpClient τ (WatchedProtection ρ), self.e2e.isSome →
        SomeIpClient.Verifies rpc self) ↔
      ∀ a ∈ acts, a.delivered = [] := by
  -- the log stays empty
  have quiet_iff (w : ServerWorld ω (η × List Message) (WatchedProtection π)) (a : ServerAct η)
      (empty : WatchedProtection.log w.core.e2e = []) :
      InvokesVerified config ext fuel w a ↔ a.delivered = [] := by
    rw [InvokesVerified, ServerAct.invoked_eq_delivered, ServerAct.perform_log, empty,
      List.eq_nil_iff_forall_not_mem]
    simp only [List.not_mem_nil, imp_false]
  have kept (w : ServerWorld ω (η × List Message) (WatchedProtection π)) (a : ServerAct η)
      (t : ServerWorld ω (η × List Message) (WatchedProtection π))
      (empty : WatchedProtection.log w.core.e2e = []) (_ : a.delivered = [])
      (stepped : ServerAct.loggedStep config ext fuel w a = some t) :
      WatchedProtection.log t.core.e2e = [] := by
    obtain rfl := Option.some.inj stepped
    exact (ServerAct.perform_log w a.logged).trans empty
  have same := along_congr quiet_iff kept
    (s := create config e2eConfig profile state native app) rfl acts
  rw [same, and_iff_left fun self configured => SomeIpClient.verifies rpc self configured]
  constructor
  · intro along a member
    have total (w : ServerWorld ω (η × List Message) (WatchedProtection π)) (a : ServerAct η) :
        ∃ t, ServerAct.loggedStep config ext fuel w a = some t := ⟨_, rfl⟩
    obtain ⟨-, quiet⟩ := exists_allowed_of_mem total along member
    exact quiet
  · intro quiet
    exact along_of_forall fun a member _ => quiet a member

/-- A server with the profile of the example in the repository. -/
def guarded : ServerSettings := { SomeIpServer.tpServer with enableTp := false }

def exampleConfig : E2EConfig := { profileId := .profile01, dataId := 0x1234, dataLength := 5 }

def idle : ServerWorld (List (Int × Bytes)) (Unit × List Message) (WatchedProtection Unit) :=
  create guarded exampleConfig simpleE2EProfile.object () []
    { state := ((), []), objects := fun _ => {} }

/-- A handler that answers each request with the same object. -/
def answering : RaisingHandler Unit := fun _ => pure 0

/-- A request without any stamp reaches the handler of a running server. -/
theorem forged_request_invoked :
    ∃ t, Transition.run (ServerAct.loggedStep guarded (some SomeIpServer.recordingServer) 1) idle
        [(.start : ServerAct Unit)] = some t ∧
      t.running = true ∧
      (checkIf [0xDE, 0xAD] t.core.e2e).1 = .ok .error ∧
      ServerAct.invoked guarded (some SomeIpServer.recordingServer) 1 t
        (.request answering { payload := [0xDE, 0xAD] }) = [{ payload := [0xDE, 0xAD] }] ∧
      ¬ (Along (ServerAct.loggedStep guarded (some SomeIpServer.recordingServer) 1)
          (InvokesVerified guarded (some SomeIpServer.recordingServer) 1) idle
          [.start, .request answering { payload := [0xDE, 0xAD] }] ∧
        ∀ self : SomeIpClient Unit (WatchedProtection Unit), self.e2e.isSome →
          SomeIpClient.Verifies { cpp := none } self) := by
  refine ⟨_, rfl, rfl, rfl, rfl, ?_⟩
  rintro ⟨along, -⟩
  have accepted := (along.2 _ rfl).1 { payload := [0xDE, 0xAD] } List.mem_cons_self
  cases accepted

end E2EVerification

end OpenSomeIp
