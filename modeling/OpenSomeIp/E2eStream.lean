import OpenSomeIp.SimpleE2eProfile

set_option autoImplicit false

namespace OpenSomeIp

/-- A sender and a receiver joined by an ordered channel without loss. -/
structure E2ELink where
  sender : E2EProtection
  receiver : E2EProtection

namespace E2ELink

/-- One payload goes through `sender.protect` and then through `receiver.check`. -/
def transfer (payload : Bytes) : Method Exn E2ELink E2ECheckStatus := do
  let result ← Method.zoom sender (fun e link => { link with sender := e })
    (E2EProtection.protect payload)
  Method.zoom receiver (fun e link => { link with receiver := e }) (E2EProtection.check result)

def stream (payloads : List Bytes) : Method Exn E2ELink (List E2ECheckStatus) :=
  Method.each transfer payloads

/-- The link after `sent` payloads: the sender counted them, the receiver did not. -/
def after (sending receiving : E2EConfig) (profile : E2EProfile) (sent : Nat) : E2ELink :=
  { sender := .after sending profile sent, receiver := .after receiving profile 0 }

theorem transfer_after {sending receiving : E2EConfig} {profile : E2EProfile} {sent : Nat}
    {payload result : Bytes} (success : profile.protect payload (sent % 256) = .ok result) :
    transfer payload (after sending receiving profile sent) =
      (profile.check result 0, after sending receiving profile (sent + 1)) := by
  simp only [transfer, Method.bind_apply, Method.zoom_apply, after,
    E2EProtection.protect_after success, E2EProtection.check_after, Nat.zero_mod]

/-- Every payload came through with status OK. -/
def Accepts (payloads : List Bytes) (link : E2ELink) : Prop :=
  ∃ statuses last, stream payloads link = (.ok statuses, last) ∧ ∀ status ∈ statuses, status = .ok

theorem accepts_nil (link : E2ELink) : Accepts [] link :=
  ⟨[], link, rfl, fun _ member => absurd member List.not_mem_nil⟩

/-- One step of the stream: the head is checked at counter zero, the rest goes on
with the sender's counter advanced. -/
theorem accepts_cons {sending receiving : E2EConfig} {profile : E2EProfile} {sent : Nat}
    {payload result : Bytes} {payloads : List Bytes}
    (success : profile.protect payload (sent % 256) = .ok result) :
    Accepts (payload :: payloads) (after sending receiving profile sent) ↔
      profile.check result 0 = .ok .ok ∧
        Accepts payloads (after sending receiving profile (sent + 1)) := by
  have head : transfer payload (after sending receiving profile sent) = _ :=
    transfer_after success
  constructor
  · rintro ⟨statuses, last, run, accepted⟩
    obtain ⟨status, link, rest, first, tail, rfl⟩ := Method.each_cons_eq_ok run
    rw [head] at first
    obtain ⟨checked, rfl⟩ := Prod.mk.inj first
    have okHead := accepted status List.mem_cons_self
    refine ⟨by rw [checked, okHead], rest, last, tail, ?_⟩
    exact fun s member => accepted s (List.mem_cons_of_mem _ member)
  · rintro ⟨checked, rest, last, tail, accepted⟩
    rw [checked] at head
    refine ⟨.ok :: rest, last, Method.each_cons_of_ok head tail, ?_⟩
    intro status member
    rcases List.mem_cons.mp member with rfl | member
    · rfl
    · exact accepted status member

theorem accepts_after_iff {profile : E2EProfile} (lawful : profile.Lawful)
    (sending receiving : E2EConfig) (payloads : List Bytes) (sent : Nat) :
    Accepts payloads (after sending receiving profile sent) ↔
      ∀ k (inside : k < payloads.length) result,
        profile.protect payloads[k] ((sent + k) % 256) = .ok result →
          profile.check result 0 = .ok .ok := by
  induction payloads generalizing sent with
  | nil =>
      refine ⟨fun _ k inside => absurd inside (Nat.not_lt_zero k), fun _ => accepts_nil _⟩
  | cons payload payloads ih =>
      obtain ⟨result, success, _⟩ := lawful payload (sent % 256)
      rw [accepts_cons success, ih]
      constructor
      · rintro ⟨checked, rest⟩ k inside other protects
        cases k with
        | zero =>
            obtain rfl : result = other := Except.ok.inj (success.symm.trans protects)
            exact checked
        | succ k =>
            refine rest k (Nat.lt_of_succ_lt_succ inside) other ?_
            rw [Nat.add_assoc, Nat.add_comm 1 k]
            exact protects
      · intro all
        refine ⟨all 0 (Nat.zero_lt_succ _) result success, fun k inside other protects => ?_⟩
        refine all (k + 1) (Nat.succ_lt_succ inside) other ?_
        rw [← Nat.add_assoc, Nat.add_right_comm]
        exact protects

/-- A fresh pair accepts a stream exactly when the profile accepts every stamped
payload at counter zero: the receiver's counter stays where it started. -/
theorem stream_accepted_iff (profile : E2EProfile) (lawful : profile.Lawful)
    (sending receiving : E2EConfig) (payloads : List Bytes) :
    Accepts payloads
        { sender := { config := sending, profile := some profile },
          receiver := { config := receiving, profile := some profile } } ↔
      ∀ k (inside : k < payloads.length) result,
        profile.protect payloads[k] (k % 256) = .ok result →
          profile.check result 0 = .ok .ok := by
  have general := accepts_after_iff lawful sending receiving payloads 0
  simp only [Nat.zero_add] at general
  exact general

/-- The configuration of the repository's E2E example. -/
def exampleConfig : E2EConfig := { profileId := .profile01, dataId := 0x1234, dataLength := 5 }

theorem stream_accepted_iff_example :
    Accepts [[1, 2, 3, 4, 5], [1, 2, 3, 4, 5]]
        { sender := { config := exampleConfig, profile := some simpleE2EProfile },
          receiver := { config := exampleConfig, profile := some simpleE2EProfile } } ↔
      ∀ k (inside : k < ([[1, 2, 3, 4, 5], [1, 2, 3, 4, 5]] : List Bytes).length) result,
        simpleE2EProfile.protect ([[1, 2, 3, 4, 5], [1, 2, 3, 4, 5]] : List Bytes)[k] (k % 256) =
          .ok result → simpleE2EProfile.check result 0 = .ok .ok :=
  stream_accepted_iff simpleE2EProfile simpleE2EProfile_lawful exampleConfig exampleConfig
    [[1, 2, 3, 4, 5], [1, 2, 3, 4, 5]]

/-- The second payload of the example's own stream is out of sequence for a
receiver that nobody advances by hand. -/
theorem example_stream_rejected :
    simpleE2EProfile.Lawful ∧
      ¬ Accepts [[1, 2, 3, 4, 5], [1, 2, 3, 4, 5]]
        { sender := { config := exampleConfig, profile := some simpleE2EProfile },
          receiver := { config := exampleConfig, profile := some simpleE2EProfile } } := by
  refine ⟨simpleE2EProfile_lawful, ?_⟩
  rintro ⟨statuses, last, run, accepted⟩
  have outcome : (stream [[1, 2, 3, 4, 5], [1, 2, 3, 4, 5]]
      { sender := { config := exampleConfig, profile := some simpleE2EProfile },
        receiver := { config := exampleConfig, profile := some simpleE2EProfile } }).1.toOption =
      some [.ok, .wrongSequence] := by decide +kernel
  rw [run] at outcome
  cases outcome
  have second := accepted .wrongSequence (by decide)
  cases second

end E2ELink

end OpenSomeIp
