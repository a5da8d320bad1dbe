import OpenSomeIp.Lib.Transition
import OpenSomeIp.Publish

set_option autoImplicit false

namespace OpenSomeIp

namespace SomeIpServer

variable {η γ : Type} [E2EObject γ]

/-- What the RPC server makes of a request to a method that is registered with a handler. -/
def registered (handler : RaisingHandler η) (req : Message) :
    Method Exn (SomeIpServer η γ) Message := do
  let self ← Method.get
  cppHandler (self.registerMethod handler) req

theorem setPayload_self (app : App η) (reference : Nat) :
    app.setPayload reference (app.objects reference).payload = app := by
  rw [App.setPayload, Function.update_eq_self]

/-- One request, with E2E or without: the handler, the stamp, the conversion. -/
theorem registered_eq (handler : RaisingHandler η) (req : Message) (self : SomeIpServer η γ) :
    registered handler req self =
      match handler req self.app with
      | (.error exc, app) => (.error exc, { self with app := app })
      | (.ok resp, app) =>
          match E2EProtection.protectIf (app.objects resp).payload self.e2e with
          | (.error exc, e2e) => (.error exc, { e2e := e2e, app := app })
          | (.ok payload, e2e) =>
              (.ok ((app.setPayload resp payload).objects resp).wire,
                { e2e := e2e, app := app.setPayload resp payload }) := by
  cases self with
  | mk e2e app =>
      simp only [registered, registerMethod, cppHandler, Method.bind_apply, Method.get_apply]
      cases ran : handler req app with
      | mk result after =>
          cases result with
          | error exc =>
              cases e2e with
              | none => simp [original, ran]
              | some e2e => simp [original, ran, e2eHandler, Method.bind_apply]
          | ok resp =>
              cases e2e with
              | none =>
                  simp [original, ran, E2EProtection.protectIf, Method.bind_apply, setPayload_self]
              | some e2e =>
                  simp only [Option.isSome_some, ↓reduceIte, e2eHandler, original, Method.bind_apply,
                    Method.zoom_apply, ran, Method.get_apply, Method.modify_apply]
                  cases E2EProtection.protectIf (after.objects resp).payload (some e2e) with
                  | mk result e2e => cases result <;> rfl

end SomeIpServer

/-- What happens to a server: the native layer delivers a request to a registered handler, or
the application calls a method. -/
inductive ServerAct (η : Type) where
  | request (handler : RaisingHandler η) (req : Message)
  | publishEvent (eventId : Int) (payload : Bytes)
  | setField (eventId : Int) (payload : Bytes)
  | registerEvent (eventId eventgroupId : Int)
  | start
  | stop

namespace ServerAct

variable {ω ε κ ς η γ : Type} [E2EObject γ] (config : ServerSettings)
  (ext : Option (ServerExtension ω ε κ ς)) (fuel : Nat)

/-- The server after an act, whether that returned or raised. -/
def perform (w : ServerWorld ω η γ) : ServerAct η → ServerWorld ω η γ
  | .request handler req =>
      (CompositeWorld.onCore (SomeIpServer.registered handler req) w).2
  | .publishEvent eventId payload =>
      (SomeIpServer.publishEvent config ext fuel eventId payload w).2
  | .setField eventId payload => (SomeIpServer.setField ext eventId payload w).2
  | .registerEvent eventId eventgroupId =>
      (CompositeWorld.onEvents
        ((SomeIpServer.eventPublisher ext).registerEvent eventId eventgroupId) w).2
  | .start => (SomeIpServer.start config ext w).2
  | .stop => (SomeIpServer.stop config ext w).2

def step (w : ServerWorld ω η γ) (a : ServerAct η) : Option (ServerWorld ω η γ) :=
  some (perform config ext fuel w a)

variable {config ext fuel}

/-- Only a request reaches the application; the other acts leave its state alone. -/
theorem perform_app {w : ServerWorld ω η γ} {a : ServerAct η}
    (noRequest : ∀ handler req, a ≠ .request handler req) :
    (perform config ext fuel w a).core.app = w.core.app := by
  cases a with
  | request handler req => exact absurd rfl (noRequest handler req)
  | publishEvent eventId payload =>
      rw [perform, SomeIpServer.publishEvent_core]
  | setField eventId payload =>
      rw [perform, SomeIpServer.setField_core]
  | registerEvent eventId eventgroupId => rfl
  | start =>
      have same := Composite.start_core (SomeIpServer.node_lawful config ext) w
      exact congrArg SomeIpServer.app same
  | stop =>
      have same := (Composite.stop_frame (SomeIpServer.node_lawful config ext) w).2
      exact congrArg SomeIpServer.app same

end ServerAct

end OpenSomeIp
