import Mathlib.Logic.Function.Basic
import OpenSomeIp.E2e
import OpenSomeIp.Message

set_option autoImplicit false

namespace OpenSomeIp

/-- The application behind a server: a state of its own and the `Message` objects it
holds, by reference. -/
structure App (η : Type) where
  state : η
  objects : Nat → Message

/-- Assigns to the attribute `payload` of an object. -/
def App.setPayload {η : Type} (app : App η) (reference : Nat) (payload : Bytes) : App η :=
  { app with
    objects := Function.update app.objects reference
      { app.objects reference with payload := payload } }

/-- A handler answers a request with an object, a new one or an old one, or raises. -/
abbrev RaisingHandler (η : Type) := Message → Method Exn (App η) Nat

/-- A handler that never raises. -/
abbrev Handler (η : Type) := Message → App η → Nat × App η

def Handler.raising {η : Type} (handler : Handler η) : RaisingHandler η :=
  fun req app => (.ok (handler req app).1, (handler req app).2)

structure ServerConfig where
  e2eConfig : Option E2EConfig := none
  e2eProfile : Option E2EProfile := none

/-- A server, with an `E2EProtection` or another object of that interface. -/
structure SomeIpServer (η : Type) (γ : Type := E2EProtection) where
  e2e : Option γ := none
  app : App η

namespace SomeIpServer

variable {η : Type}

/-- The part of `__init__` that concerns E2E. -/
def init (config : ServerConfig) (app : App η) : SomeIpServer η where
  e2e := config.e2eConfig.map fun e2e => { config := e2e, profile := config.e2eProfile }
  app := app

section Requests

variable {γ : Type} [E2EObject γ]

/-- The statement `original(req)`. -/
def original (handler : RaisingHandler η) (req : Message) : Method Exn (SomeIpServer η γ) Nat :=
  Method.zoom app (fun app self => { self with app := app }) (handler req)

/-- The closure `e2e_handler`; it does not check the request, and it writes into the
handler's own object. -/
def e2eHandler (handler : RaisingHandler η) (req : Message) :
    Method Exn (SomeIpServer η γ) Nat := do
  let resp ← original handler req
  let self ← Method.get
  let payload ← Method.zoom e2e (fun e2e self => { self with e2e := e2e })
    (E2EProtection.protectIf (self.app.objects resp).payload)
  Method.modify fun self => { self with app := self.app.setPayload resp payload }
  pure resp

/-- What `register_method` hands to the RPC server. -/
def registerMethod (self : SomeIpServer η γ) (handler : RaisingHandler η) :
    Message → Method Exn (SomeIpServer η γ) Nat :=
  if self.e2e.isSome then e2eHandler handler else original handler

/-- The closure `_cpp_handler`, which converts the object it is answered with. -/
def cppHandler (handler : Message → Method Exn (SomeIpServer η γ) Nat) (req : Message) :
    Method Exn (SomeIpServer η γ) Message := do
  let resp ← handler req
  let self ← Method.get
  pure (self.app.objects resp).wire

end Requests

/-- The payload that the application puts into its response. -/
def answer (handler : Handler η) (req : Message) (app : App η) : Bytes :=
  ((handler req app).2.objects (handler req app).1).payload

@[simp] theorem setPayload_payload (app : App η) (reference : Nat) (payload : Bytes) :
    ((app.setPayload reference payload).objects reference).payload = payload := by
  simp only [App.setPayload, Function.update_self]

/-- The application after its response was stamped. -/
def stamp (handler : Handler η) (req : Message) (app : App η) (stamped : Bytes) : App η :=
  (handler req app).2.setPayload (handler req app).1 stamped

/-- One request to a protected handler: the response carries the application's payload
stamped with the server's counter. -/
theorem cppHandler_after {config : E2EConfig} {profile : E2EProfile} {sent : Nat}
    {handler : Handler η} {req : Message} {app : App η} {stamped : Bytes}
    (success : profile.protect (answer handler req app) (sent % 256) = .ok stamped) :
    cppHandler (e2eHandler handler.raising) req
        { e2e := some (E2EProtection.after config profile sent), app := app } =
      (.ok ((stamp handler req app stamped).objects (handler req app).1).wire,
        { e2e := some (E2EProtection.after config profile (sent + 1))
          app := stamp handler req app stamped }) := by
  rw [answer] at success
  simp only [cppHandler, e2eHandler, original, Handler.raising, stamp, Method.bind_apply,
    Method.get_apply, Method.zoom_apply, Method.modify_apply, Method.pure_apply,
    E2EProtection.protectIf_after success]

end SomeIpServer

end OpenSomeIp
