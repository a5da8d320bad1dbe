import OpenSomeIp.E2e
import OpenSomeIp.Lib.Transition

set_option autoImplicit false

namespace OpenSomeIp

open E2EProtection Transition

/-- A component and the payloads it has handed on, each as the application gave it and as it was
handed on, in order. -/
structure Ledger (σ : Type) where
  world : σ
  handed : List (Bytes × Bytes) := []

namespace Ledger

variable {σ ι : Type} (perform : σ → ι → σ) (handedOn : σ → ι → List (Bytes × Bytes))

def step (ledger : Ledger σ) (a : ι) : Option (Ledger σ) :=
  some { world := perform ledger.world a, handed := ledger.handed ++ handedOn ledger.world a }

/-- The stamps of what was handed on are 0, 1, 2 and so on modulo 256, and the counter has no
other value behind it. -/
structure InSequence (e2e : σ → Option E2EProtection) (config : E2EConfig) (profile : E2EProfile)
    (ledger : Ledger σ) : Prop where
  counter : e2e ledger.world = some (.after config profile ledger.handed.length)
  stamps : ∀ k payload stamped, ledger.handed[k]? = some (payload, stamped) →
    profile.protect payload (k % 256) = .ok stamped

/-- What an act does at a counter: nothing, a stamped payload handed on, or a stamp that is
lost. -/
inductive Spends (profile : E2EProfile) (sent : Nat) :
    List (Bytes × Bytes) → Nat → Prop → Prop where
  | nothing {fine : Prop} (holds : fine) : Spends profile sent [] 0 fine
  | handedOn {fine : Prop} {payload stamped : Bytes}
      (success : profile.protect payload (sent % 256) = .ok stamped) (holds : fine) :
      Spends profile sent [(payload, stamped)] 1 fine
  | lost {fine : Prop} (fails : ¬ fine) : Spends profile sent [] 1 fine

/-- Every act is one of the three. -/
def Accounted (e2e : σ → Option E2EProtection) (config : E2EConfig) (profile : E2EProfile)
    (fine : σ → ι → Prop) : Prop :=
  ∀ w a sent, e2e w = some (.after config profile sent) →
    ∃ spent, e2e (perform w a) = some (.after config profile (sent + spent)) ∧
      Spends profile sent (handedOn w a) spent (fine w a)

variable {perform handedOn} {e2e : σ → Option E2EProtection} {config : E2EConfig}
  {profile : E2EProfile} {fine : σ → ι → Prop}

theorem after_succ_ne (config : E2EConfig) (profile : E2EProfile) (sent : Nat) :
    E2EProtection.after config profile (sent + 1) ≠ .after config profile sent := by
  intro same
  have counters : (sent + 1) % 256 = sent % 256 := congrArg E2EProtection.counter same
  omega

/-- At such a counter the payload is stamped and the counter advanced. -/
theorem protectIf_of_total
    (total : ∀ payload counter, ∃ stamped, profile.protect payload counter = .ok stamped)
    {sent : Nat} {self : Option E2EProtection} (counted : self = some (.after config profile sent))
    (payload : Bytes) :
    ∃ stamped, profile.protect payload (sent % 256) = .ok stamped ∧
      protectIf payload self = (.ok stamped, some (.after config profile (sent + 1))) := by
  obtain ⟨stamped, success⟩ := total payload (sent % 256)
  refine ⟨stamped, success, ?_⟩
  rw [counted]
  exact protectIf_after success

/-- A stamped payload: the log of those who take it tells whether it was handed on. -/
theorem spends_of_log {sent : Nat} {self after : Option E2EProtection} {payload stamped : Bytes}
    {takes : Bytes → Prop} {old new : List Bytes}
    (success : profile.protect payload (sent % 256) = .ok stamped)
    (protects : protectIf payload self = (.ok stamped, after))
    (grows : takes stamped → new = old ++ [stamped]) (stays : ¬ takes stamped → new = old) :
    Spends profile sent ((new.drop old.length).map (payload, ·)) 1
      (∃ stamped, (protectIf payload self).1 = .ok stamped ∧ takes stamped) := by
  by_cases holds : takes stamped
  · rw [grows holds, List.drop_left]
    apply Spends.handedOn success
    exact ⟨stamped, by rw [protects], holds⟩
  · rw [stays holds, List.drop_length]
    apply Spends.lost
    rintro ⟨other, same, taken⟩
    rw [protects] at same
    obtain rfl := Except.ok.inj same
    exact holds taken

/-- One act keeps the stamps in sequence exactly when it loses none. -/
theorem inSequence_step (accounted : Accounted perform handedOn e2e config profile fine)
    {ledger next : Ledger σ} {a : ι} (before : ledger.InSequence e2e config profile)
    (stepped : step perform handedOn ledger a = some next) :
    next.InSequence e2e config profile ↔ fine ledger.world a := by
  obtain rfl := Option.some.inj stepped
  obtain ⟨spent, counted, spends⟩ :=
    accounted ledger.world a ledger.handed.length before.counter
  generalize handedOn ledger.world a = handed at spends
  generalize fine ledger.world a = holds at spends
  cases spends with
  | nothing holds =>
      apply iff_of_true _ holds
      constructor
      · rw [List.append_nil]
        exact counted
      · rw [List.append_nil]
        exact before.stamps
  | @handedOn _ payload stamped success holds =>
      apply iff_of_true _ holds
      constructor
      · rw [List.length_append]
        exact counted
      · intro k other result found
        by_cases old : k < ledger.handed.length
        · rw [List.getElem?_append_left old] at found
          exact before.stamps k other result found
        · have last : k = ledger.handed.length := by
            have bound := (List.getElem?_eq_some_iff.mp found).1
            rw [List.length_append, List.length_singleton] at bound
            omega
          rw [last, List.getElem?_append_right (Nat.le_refl _), Nat.sub_self] at found
          obtain ⟨rfl, rfl⟩ := Prod.mk.inj (Option.some.inj found)
          rw [last]
          exact success
  | lost fails =>
      apply iff_of_false _ fails
      intro after
      have counter := after.counter
      rw [List.append_nil, counted] at counter
      exact after_succ_ne config profile _ (Option.some.inj counter)

/-- Over a run: the stamps stay in sequence exactly as long as no act loses one. -/
theorem inSequence_iff (accounted : Accounted perform handedOn e2e config profile fine) {w : σ}
    (fresh : e2e w = some (.after config profile 0)) (acts : List ι) :
    Along (step perform handedOn) (fun ledger a => fine ledger.world a) { world := w } acts ↔
      ∀ front, front <+: acts → ∀ ledger,
        run (step perform handedOn) { world := w } front = some ledger →
          ledger.InSequence e2e config profile := by
  have starts : InSequence e2e config profile { world := w } :=
    ⟨fresh, fun k payload stamped found => by cases found⟩
  have exact_ (ledger : Ledger σ) (a : ι) (before : ledger.InSequence e2e config profile) :
      InSequence e2e config profile
          { world := perform ledger.world a, handed := ledger.handed ++ handedOn ledger.world a } ↔
        fine ledger.world a :=
    inSequence_step accounted before rfl
  exact along_iff_always_call exact_ starts acts

end Ledger

end OpenSomeIp
