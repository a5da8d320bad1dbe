import OpenSomeIp.Lib.Method
import OpenSomeIp.Types

set_option autoImplicit false

namespace OpenSomeIp

inductive E2EProfileId where
  | profile01
  | profile02
  | profile04
  | profile05
  | profile06
  | profile07
  | profile11
  | profile22
  deriving DecidableEq, Repr

inductive E2ECheckStatus where
  | ok
  | repeated
  | wrongSequence
  | error
  | notAvailable
  | noNewData
  deriving DecidableEq, Repr

/-- The text `status.name`. -/
def E2ECheckStatus.name : E2ECheckStatus → String
  | .ok => "OK"
  | .repeated => "REPEATED"
  | .wrongSequence => "WRONG_SEQUENCE"
  | .error => "ERROR"
  | .notAvailable => "NOT_AVAILABLE"
  | .noNewData => "NO_NEW_DATA"

structure E2EConfig where
  profileId : E2EProfileId
  dataId : Int
  dataLength : Int
  maxDeltaCounter : Int := 15
  crcOffset : Int := 0
  counterOffset : Int := 0
  deriving DecidableEq, Repr

/-- What a subclass of `E2EProfile` implements. -/
structure E2EProfile where
  protect : Bytes → Nat → Except Exn Bytes
  check : Bytes → Nat → Except Exn E2ECheckStatus

/-- The profile accepts at every counter what it protected at that counter. -/
def E2EProfile.Lawful (profile : E2EProfile) : Prop :=
  ∀ data counter, ∃ result, profile.protect data counter = .ok result ∧
    profile.check result counter = .ok .ok

structure E2EProtection where
  config : E2EConfig
  profile : Option E2EProfile := none
  counter : Nat := 0

/-- What a server and a client call of their `E2EProtection`. -/
class E2EObject (γ : Type) where
  protect : Bytes → Method Exn γ Bytes
  check : Bytes → Method Exn γ E2ECheckStatus

namespace E2EProtection

def protect (payload : Bytes) : Method Exn E2EProtection Bytes := do
  let self ← Method.get
  match self.profile with
  | none => pure payload
  | some profile => do
      let result ← Method.lift (profile.protect payload self.counter)
      Method.modify fun self => { self with counter := (self.counter + 1) &&& 0xFF }
      pure result

/-- The counter is read here and never advanced. -/
def check (payload : Bytes) : Method Exn E2EProtection E2ECheckStatus := do
  let self ← Method.get
  match self.profile with
  | none => pure .ok
  | some profile => Method.lift (profile.check payload self.counter)

instance : E2EObject E2EProtection where
  protect := protect
  check := check

/-- The statement `if e2e is not None: payload = e2e.protect(payload)`. -/
def protectIf {γ : Type} [E2EObject γ] (payload : Bytes) : Method Exn (Option γ) Bytes := do
  match ← Method.get with
  | none => pure payload
  | some e2e => Method.zoom (fun _ => e2e) (fun e2e _ => some e2e) (E2EObject.protect payload)

/-- The status that `if e2e is not None: status = e2e.check(payload)` leaves to look at. -/
def checkIf {γ : Type} [E2EObject γ] (payload : Bytes) :
    Method Exn (Option γ) E2ECheckStatus := do
  match ← Method.get with
  | none => pure .ok
  | some e2e => Method.zoom (fun _ => e2e) (fun e2e _ => some e2e) (E2EObject.check payload)

theorem protectIf_some (payload : Bytes) (self : E2EProtection) :
    protectIf payload (some self) = ((protect payload self).1, some (protect payload self).2) := rfl

theorem checkIf_some (payload : Bytes) (self : E2EProtection) :
    checkIf payload (some self) = ((check payload self).1, some (check payload self).2) := rfl

theorem checkIf_keeps (payload : Bytes) (e2e : Option E2EProtection) :
    (checkIf payload e2e).2 = e2e := by
  cases e2e with
  | none => rfl
  | some self =>
      simp only [checkIf_some, check, Method.bind_apply, Method.get_apply]
      cases self.profile with
      | none => rfl
      | some profile => rfl

/-- The counter after `sent` payloads were protected with a fresh object. -/
def after (config : E2EConfig) (profile : E2EProfile) (sent : Nat) : E2EProtection :=
  { config := config, profile := some profile, counter := sent % 256 }

theorem advance_counter (sent : Nat) : (sent % 256 + 1) &&& 0xFF = (sent + 1) % 256 := by
  rw [show (0xFF : Nat) = 2 ^ 8 - 1 from rfl, Nat.and_two_pow_sub_one_eq_mod]
  omega

theorem protect_after {config : E2EConfig} {profile : E2EProfile} {sent : Nat}
    {payload result : Bytes} (success : profile.protect payload (sent % 256) = .ok result) :
    protect payload (after config profile sent) = (.ok result, after config profile (sent + 1)) := by
  simp only [protect, after, Method.bind_apply, Method.get_apply, Method.lift_apply, success,
    Method.modify_apply, Method.pure_apply, advance_counter]

theorem check_after (config : E2EConfig) (profile : E2EProfile) (sent : Nat) (payload : Bytes) :
    check payload (after config profile sent) =
      (profile.check payload (sent % 256), after config profile sent) := rfl

theorem protectIf_after {config : E2EConfig} {profile : E2EProfile} {sent : Nat}
    {payload result : Bytes} (success : profile.protect payload (sent % 256) = .ok result) :
    protectIf payload (some (after config profile sent)) =
      (.ok result, some (after config profile (sent + 1))) := by
  rw [protectIf_some, protect_after success]

theorem checkIf_after (config : E2EConfig) (profile : E2EProfile) (sent : Nat) (payload : Bytes) :
    checkIf payload (some (after config profile sent)) =
      (profile.check payload (sent % 256), some (after config profile sent)) := by
  rw [checkIf_some, check_after]

end E2EProtection

end OpenSomeIp
