import OpenSomeIp.Lib.Transition
import OpenSomeIp.ServerSystem
import OpenSomeIp.SimpleE2eProfile

set_option autoImplicit false

namespace OpenSomeIp

/-! ### What an application does to its objects -/

/-- The application makes a `Message`, or assigns to the attribute `payload` or to any others. -/
inductive ObjectWrite where
  | create (reference : Nat) (message : Message)
  | assignPayload (reference : Nat) (payload : Bytes)
  | assignOthers (reference : Nat) (message : Message)

/-- Where a payload comes from: what the application put there, and the counter under which the
server has protected it since. -/
structure Origin where
  put : Bytes
  stamped : Option Nat := none
  deriving DecidableEq, Repr

namespace ObjectWrite

def perform (objects : Nat → Message) : ObjectWrite → Nat → Message
  | .create reference message => Function.update objects reference message
  | .assignPayload reference payload =>
      Function.update objects reference { objects reference with payload := payload }
  | .assignOthers reference message =>
      Function.update objects reference { message with payload := (objects reference).payload }

def record (origins : Nat → Origin) : ObjectWrite → Nat → Origin
  | .create reference message => Function.update origins reference { put := message.payload }
  | .assignPayload reference payload => Function.update origins reference { put := payload }
  | .assignOthers _ _ => origins

end ObjectWrite

/-- One run of a handler: what it writes, the state it leaves, and the object it answers with
unless it raises. -/
structure HandlerRun (η : Type) where
  writes : List ObjectWrite := []
  state : η
  answer : Except Exn Nat

/-- A handler that tells what it writes. -/
abbrev WritingHandler (η : Type) := Message → App η → HandlerRun η

def WritingHandler.handler {η : Type} (handler : WritingHandler η) : RaisingHandler η :=
  fun req app =>
    ((handler req app).answer,
      { state := (handler req app).state
        objects := (handler req app).writes.foldl ObjectWrite.perform app.objects })

/-! ### A server and its application -/

/-- The server, and beside it where the payloads of its application's objects come from. -/
structure AnswerWorld (η : Type) where
  server : SomeIpServer η
  origins : Nat → Origin

/-- A request to a registered handler or, between requests, writes of the application or an event
that is protected with the same object. -/
inductive AnswerAct (η : Type) where
  | request (handler : WritingHandler η) (req : Message)
  | write (state : η) (writes : List ObjectWrite)
  | protect (payload : Bytes)

namespace AnswerWorld

variable {η : Type}

/-- Every payload is the application's own. -/
def fresh (config : E2EConfig) (profile : E2EProfile) (counter : Nat) (app : App η) :
    AnswerWorld η where
  server := { e2e := some { config := config, profile := some profile, counter := counter }
              app := app }
  origins := fun reference => { put := (app.objects reference).payload }

/-- What the RPC server gets back. -/
def respond (w : AnswerWorld η) (handler : WritingHandler η) (req : Message) :
    Except Exn Message × SomeIpServer η :=
  SomeIpServer.registered handler.handler req w.server

def counter (w : AnswerWorld η) : Nat := (w.server.e2e.map E2EProtection.counter).getD 0

/-- The origins when the handler has run. -/
def handled (w : AnswerWorld η) (handler : WritingHandler η) (req : Message) : Nat → Origin :=
  (handler req w.server.app).writes.foldl ObjectWrite.record w.origins

/-- The origins when the response, if there is one, has been protected. -/
def answered (w : AnswerWorld η) (handler : WritingHandler η) (req : Message) : Nat → Origin :=
  match (handler req w.server.app).answer, (w.respond handler req).1 with
  | .ok resp, .ok _ =>
      Function.update (w.handled handler req) resp
        { w.handled handler req resp with stamped := some w.counter }
  | _, _ => w.handled handler req

def perform (w : AnswerWorld η) : AnswerAct η → AnswerWorld η
  | .request handler req =>
      { server := (w.respond handler req).2, origins := w.answered handler req }
  | .write state writes =>
      { server := { w.server with
          app := { state := state, objects := writes.foldl ObjectWrite.perform w.server.app.objects } }
        origins := writes.foldl ObjectWrite.record w.origins }
  | .protect payload =>
      { w with server := { w.server with
          e2e := (E2EProtection.protectIf payload w.server.e2e).2 } }

def step (w : AnswerWorld η) (act : AnswerAct η) : Option (AnswerWorld η) := some (w.perform act)

/-- The response carries what the application put into it, protected once under the counter as it
stands; where the profile raises, so does the request. -/
def ProtectedOnce (w : AnswerWorld η) : AnswerAct η → Prop
  | .request handler req =>
      ∀ profile resp, w.server.e2e.bind E2EProtection.profile = some profile →
        (handler req w.server.app).answer = .ok resp →
          (w.respond handler req).1.map Message.payload =
            profile.protect (w.handled handler req resp).put w.counter
  | _ => True

end AnswerWorld

/-- The payload is as the application put it, or what the server made of it is protected as the
payload itself would be. -/
def Origin.Unchanged (profile : E2EProfile) (counter : Nat) (origin : Origin) : Prop :=
  ∀ earlier result, origin.stamped = some earlier →
    profile.protect origin.put earlier = .ok result →
      profile.protect result counter = profile.protect origin.put counter

/-- The handler answers with an object whose payload the application has put there since the last
response that carried it, unless the profile makes no difference between the two. -/
def AnswerWorld.PutAnew {η : Type} (w : AnswerWorld η) : AnswerAct η → Prop
  | .request handler req =>
      ∀ profile resp, w.server.e2e.bind E2EProtection.profile = some profile →
        (handler req w.server.app).answer = .ok resp →
          (w.handled handler req resp).Unchanged profile w.counter
  | _ => True

/-! ### The payloads and where they come from -/

/-- The origin tells the payload. -/
def Origin.Explains (profile : E2EProfile) (origin : Origin) (payload : Bytes) : Prop :=
  match origin.stamped with
  | none => payload = origin.put
  | some counter => profile.protect origin.put counter = .ok payload

theorem Origin.Explains.unchanged_iff {profile : E2EProfile} {origin : Origin} {payload : Bytes}
    (explains : origin.Explains profile payload) (counter : Nat) :
    origin.Unchanged profile counter ↔
      profile.protect payload counter = profile.protect origin.put counter := by
  rw [Explains] at explains
  cases stamped : origin.stamped with
  | none =>
      rw [stamped] at explains
      rw [explains]
      apply iff_of_true _ rfl
      intro earlier result was
      rw [stamped] at was
      cases was
  | some earlier =>
      rw [stamped] at explains
      constructor
      · exact fun unchanged => unchanged earlier payload stamped explains
      · intro same other result was succeeded
        rw [stamped] at was
        obtain rfl := Option.some.inj was
        obtain rfl := Except.ok.inj (explains.symm.trans succeeded)
        exact same

/-- The origins tell the payloads of all objects. -/
def Explained (profile : E2EProfile) (origins : Nat → Origin) (objects : Nat → Message) : Prop :=
  ∀ reference, (origins reference).Explains profile (objects reference).payload

section Explained

variable {profile : E2EProfile} {origins : Nat → Origin} {objects : Nat → Message}

theorem Explained.update (explained : Explained profile origins objects) (reference : Nat)
    {origin : Origin} {message : Message} (explains : origin.Explains profile message.payload) :
    Explained profile (Function.update origins reference origin)
      (Function.update objects reference message) := by
  intro other
  by_cases same : other = reference
  · rw [same, Function.update_self, Function.update_self]
    exact explains
  · rw [Function.update_of_ne same, Function.update_of_ne same]
    exact explained other

theorem Explained.write (explained : Explained profile origins objects) (w : ObjectWrite) :
    Explained profile (w.record origins) (w.perform objects) := by
  cases w with
  | create reference message => exact explained.update reference rfl
  | assignPayload reference payload => exact explained.update reference rfl
  | assignOthers reference message =>
      have same : (origins reference).Explains profile
          { message with payload := (objects reference).payload }.payload := explained reference
      have kept := explained.update reference same
      rw [Function.update_eq_self] at kept
      exact kept

theorem Explained.writes (explained : Explained profile origins objects)
    (writes : List ObjectWrite) :
    Explained profile (writes.foldl ObjectWrite.record origins)
      (writes.foldl ObjectWrite.perform objects) := by
  induction writes generalizing origins objects with
  | nil => exact explained
  | cons w writes ih => exact ih (explained.write w)

end Explained

/-! ### Each act -/

/-- One call with a profile: the profile decides, and the counter advances where it returns. -/
theorem E2EProtection.protectIf_profile (config : E2EConfig) (profile : E2EProfile) (counter : Nat)
    (payload : Bytes) :
    protectIf payload (some (⟨config, some profile, counter⟩ : E2EProtection)) =
      match profile.protect payload counter with
      | .ok result =>
          (.ok result,
            some { config := config, profile := some profile, counter := (counter + 1) &&& 0xFF })
      | .error exc =>
          (.error exc, some { config := config, profile := some profile, counter := counter }) := by
  simp only [protectIf_some, protect, Method.bind_apply, Method.get_apply, Method.lift_apply]
  cases profile.protect payload counter <;> rfl

namespace AnswerWorld

variable {η : Type} {w : AnswerWorld η} {handler : WritingHandler η} {req : Message}

/-- The server protects with this profile, and the origins tell the payloads. -/
structure Tracked (profile : E2EProfile) (w : AnswerWorld η) : Prop where
  protects : ∃ config counter,
    w.server.e2e = some { config := config, profile := some profile, counter := counter }
  explained : Explained profile w.origins w.server.app.objects

theorem fresh_tracked (config : E2EConfig) (profile : E2EProfile) (counter : Nat) (app : App η) :
    (fresh config profile counter app).Tracked profile :=
  ⟨⟨config, counter, rfl⟩, fun _ => rfl⟩

/-- The objects when the handler has run. -/
def objects (w : AnswerWorld η) (handler : WritingHandler η) (req : Message) : Nat → Message :=
  (handler.handler req w.server.app).2.objects

theorem Tracked.handled {profile : E2EProfile} (tracked : w.Tracked profile)
    (handler : WritingHandler η) (req : Message) :
    Explained profile (w.handled handler req) (w.objects handler req) :=
  tracked.explained.writes _

theorem respond_of_error {exc : Exn} (raised : (handler req w.server.app).answer = .error exc) :
    w.respond handler req =
      (.error exc, { w.server with app := (handler.handler req w.server.app).2 }) := by
  rw [respond, SomeIpServer.registered_eq]
  simp only [WritingHandler.handler, raised]

/-- With a profile the response is the object's payload protected, wherever it comes from. -/
theorem respond_of_ok {config : E2EConfig} {profile : E2EProfile} {counter resp : Nat}
    (protects : w.server.e2e =
      some { config := config, profile := some profile, counter := counter })
    (answers : (handler req w.server.app).answer = .ok resp) :
    w.respond handler req =
      match profile.protect (w.objects handler req resp).payload counter with
      | .ok result =>
          (.ok (((handler.handler req w.server.app).2.setPayload resp result).objects resp).wire,
            { e2e := some
                { config := config, profile := some profile, counter := (counter + 1) &&& 0xFF }
              app := (handler.handler req w.server.app).2.setPayload resp result })
      | .error exc =>
          (.error exc, { w.server with app := (handler.handler req w.server.app).2 }) := by
  rw [respond, SomeIpServer.registered_eq]
  simp only [objects, WritingHandler.handler, answers, protects, E2EProtection.protectIf_profile]
  cases profile.protect
      ((handler req w.server.app).writes.foldl ObjectWrite.perform w.server.app.objects resp).payload
      counter with
  | ok result => rfl
  | error exc => rfl

theorem respond_payload {config : E2EConfig} {profile : E2EProfile} {counter resp : Nat}
    (protects : w.server.e2e =
      some { config := config, profile := some profile, counter := counter })
    (answers : (handler req w.server.app).answer = .ok resp) :
    (w.respond handler req).1.map Message.payload =
      profile.protect (w.objects handler req resp).payload counter := by
  rw [respond_of_ok protects answers]
  cases profile.protect (w.objects handler req resp).payload counter with
  | error exc => rfl
  | ok result =>
      simp only [Except.map, Message.wire_payload, SomeIpServer.setPayload_payload]

theorem counter_eq {config : E2EConfig} {profile : E2EProfile} {counter : Nat}
    (protects : w.server.e2e =
      some { config := config, profile := some profile, counter := counter }) :
    w.counter = counter := by
  rw [AnswerWorld.counter, protects]
  rfl

/-- A response is protected once exactly when its object has been put anew. -/
theorem protectedOnce_iff {profile : E2EProfile} (tracked : w.Tracked profile) (act : AnswerAct η) :
    w.ProtectedOnce act ↔ w.PutAnew act := by
  cases act with
  | write state writes => exact Iff.rfl
  | protect payload => exact Iff.rfl
  | request handler req =>
      obtain ⟨config, counter, protects⟩ := tracked.protects
      apply forall_congr'
      intro other
      apply forall_congr'
      intro resp
      apply imp_congr_right
      intro profiled
      rw [protects] at profiled
      obtain rfl := Option.some.inj profiled
      apply imp_congr_right
      intro answers
      rw [respond_payload protects answers, counter_eq protects]
      exact ((tracked.handled handler req resp).unchanged_iff counter).symm

theorem Tracked.perform {profile : E2EProfile} (tracked : w.Tracked profile) (act : AnswerAct η)
    (anew : w.PutAnew act) : (w.perform act).Tracked profile := by
  cases act with
  | write state writes => exact ⟨tracked.protects, tracked.explained.writes writes⟩
  | protect payload =>
      obtain ⟨config, counter, protects⟩ := tracked.protects
      refine ⟨?_, tracked.explained⟩
      rw [AnswerWorld.perform, protects, E2EProtection.protectIf_profile]
      cases profile.protect payload counter with
      | ok result => exact ⟨config, _, rfl⟩
      | error exc => exact ⟨config, counter, rfl⟩
  | request handler req =>
      obtain ⟨config, counter, protects⟩ := tracked.protects
      have handled := tracked.handled handler req
      cases answers : (handler req w.server.app).answer with
      | error exc =>
          rw [AnswerWorld.perform, answered, respond_of_error answers, answers]
          exact ⟨⟨config, counter, protects⟩, handled⟩
      | ok resp =>
          have same := ((handled resp).unchanged_iff counter).mp (by
            have unchanged := anew profile resp (by rw [protects]; rfl) answers
            rwa [counter_eq protects] at unchanged)
          rw [AnswerWorld.perform, answered, respond_of_ok protects answers, answers,
            counter_eq protects]
          cases succeeded : profile.protect (w.objects handler req resp).payload counter with
          | error exc => exact ⟨⟨config, counter, protects⟩, handled⟩
          | ok result =>
              refine ⟨⟨config, _, rfl⟩, handled.update resp ?_⟩
              exact same.symm.trans succeeded

end AnswerWorld

/-- Over a run of requests, each response is what the application put into its object, protected
once, exactly when no request is answered with an object that still holds an earlier response and
that the profile would protect differently. -/
theorem responses_protected_once_iff {η : Type} (config : E2EConfig) (profile : E2EProfile)
    (counter : Nat) (app : App η) (acts : List (AnswerAct η)) :
    Transition.Along AnswerWorld.step AnswerWorld.ProtectedOnce
        (AnswerWorld.fresh config profile counter app) acts ↔
      Transition.Along AnswerWorld.step AnswerWorld.PutAnew
        (AnswerWorld.fresh config profile counter app) acts := by
  have preserved (w : AnswerWorld η) (act : AnswerAct η) (next : AnswerWorld η)
      (tracked : w.Tracked profile) (anew : w.PutAnew act) (stepped : w.step act = some next) :
      next.Tracked profile := by
    obtain rfl := Option.some.inj stepped
    exact tracked.perform act anew
  exact Transition.along_congr (fun w act tracked => AnswerWorld.protectedOnce_iff tracked act)
    preserved (AnswerWorld.fresh_tracked config profile counter app) acts

/-- An application that holds one `Message` and answers every request with it. -/
def oneAnswer : WritingHandler Unit := fun _ _ => { state := (), answer := .ok 0 }

def oneAnswerConfig : E2EConfig := { profileId := .profile01, dataId := 0x0123, dataLength := 4 }

/-- The second response carries the header of the first inside its own. -/
theorem second_response_stamped_twice :
    ¬ Transition.Along AnswerWorld.step AnswerWorld.ProtectedOnce
      (AnswerWorld.fresh oneAnswerConfig simpleE2EProfile 0
        { state := (), objects := fun _ => { payload := [1] } })
      [.request oneAnswer {}, .request oneAnswer {}] := by
  intro along
  have second := (along.2 _ rfl).1 simpleE2EProfile 0 rfl rfl
  have sizes := congrArg (fun payload => payload.toOption.map List.length) second
  exact absurd sizes (by decide +kernel)

end OpenSomeIp
