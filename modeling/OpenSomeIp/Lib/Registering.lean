import Mathlib.Data.List.AList
import Mathlib.Logic.Function.Basic
import OpenSomeIp.Lib.Method
import OpenSomeIp.Lib.Transition

set_option autoImplicit false

/-! Objects with a registry that a registration enters before the call that may refuse it. -/

namespace Registering

/-- A dictionary with one more entry, as a function. -/
theorem lookup_insert_update {κ η : Type} [DecidableEq κ] (entries : AList (fun _ : κ => η))
    (key : κ) (value : η) :
    (fun other => (entries.insert key value).lookup other) =
      Function.update (fun other => entries.lookup other) key (some value) := by
  funext other
  by_cases same : other = key
  · rw [same, Function.update_self]
    exact AList.lookup_insert _
  · rw [Function.update_of_ne same]
    exact AList.lookup_insert_ne same

/-- The calls on such an object. `entry` is what a registration adds to the registry, `others`
what any other call makes of it, by how it ended. -/
structure Calls (ε σ ι ρ : Type) where
  call : ι → Method ε σ Unit
  registry : σ → ρ
  entry : ι → Option (ρ → ρ)
  others : ι → Except ε Unit → ρ → ρ

variable {ε σ ι ρ : Type} (m : Calls ε σ ι ρ)

/-- A registration that raises leaves the registry as it was. -/
def Traceless (s : σ) (a : ι) : Prop :=
  ∀ enter, m.entry a = some enter → ∀ reason, (m.call a s).1 = .error reason →
    m.registry (m.call a s).2 = m.registry s

/-- What a call makes of a registry that only accepted registrations enter. -/
def record (a : ι) (result : Except ε Unit) (accepted : ρ) : ρ :=
  match m.entry a, result with
  | none, result => m.others a result accepted
  | some enter, .ok () => enter accepted
  | some _, .error _ => accepted

theorem record_of_other {a : ι} (other : m.entry a = none) (result : Except ε Unit)
    (accepted : ρ) : record m a result accepted = m.others a result accepted := by
  simp only [record, other]

theorem record_of_entry {a : ι} {enter : ρ → ρ} (registers : m.entry a = some enter)
    (result : Except ε Unit) (accepted : ρ) :
    record m a result accepted = (match result with
      | .ok () => enter accepted
      | .error _ => accepted) := by
  cases result <;> simp only [record, registers]

/-- The object goes about with the registry of the accepted registrations. -/
def step (s : σ × ρ) (a : ι) : Option (σ × ρ) :=
  some ((m.call a s.1).2, record m a (m.call a s.1).1 s.2)

/-- Every call of a run from `s` meets `allowed`. -/
def Throughout (allowed : σ → ι → Prop) (s : σ) (acts : List ι) : Prop :=
  Transition.Along (step m) (fun pair a => allowed pair.1 a) (s, m.registry s) acts

/-- A run from `s` leads to `t`. -/
def Leads (s : σ) (acts : List ι) (t : σ × ρ) : Prop :=
  Transition.run (step m) (s, m.registry s) acts = some t

/-- A registration is entered however it ends. -/
structure Laws : Prop where
  entered : ∀ a enter, m.entry a = some enter →
    ∀ s, m.registry (m.call a s).2 = enter (m.registry s)
  other : ∀ a, m.entry a = none →
    ∀ s, m.registry (m.call a s).2 = m.others a (m.call a s).1 (m.registry s)

variable {m}

/-- Only what was there already can be entered without a trace. -/
theorem traceless_iff (laws : Laws m) (s : σ) (a : ι) :
    Traceless m s a ↔ ∀ enter, m.entry a = some enter →
      ∀ reason, (m.call a s).1 = .error reason → enter (m.registry s) = m.registry s := by
  apply forall_congr'
  intro enter
  apply forall_congr'
  intro registers
  rw [laws.entered a enter registers s]

theorem traceless_entry_iff (laws : Laws m) {s : σ} {a : ι} {enter : ρ → ρ}
    (registers : m.entry a = some enter) :
    Traceless m s a ↔ ((∃ reason, (m.call a s).1 = .error reason) →
      enter (m.registry s) = m.registry s) := by
  rw [traceless_iff laws]
  constructor
  · rintro traceless ⟨reason, raised⟩
    exact traceless enter registers reason raised
  · intro permits other found reason raised
    obtain rfl := Option.some.inj (registers.symm.trans found)
    exact permits ⟨reason, raised⟩

theorem traceless_of_other {s : σ} {a : ι} (other : m.entry a = none) : Traceless m s a := by
  intro enter registers
  rw [other] at registers
  cases registers

/-- The registry keeps to the accepted registrations in a call without a trace, and in no other. -/
theorem record_eq_iff (laws : Laws m) (s : σ) (a : ι) :
    m.registry (m.call a s).2 = record m a (m.call a s).1 (m.registry s) ↔
      Traceless m s a := by
  cases registers : m.entry a with
  | none =>
      apply iff_of_true _ (traceless_of_other registers)
      rw [laws.other a registers, record_of_other m registers]
  | some enter =>
      rw [traceless_entry_iff laws registers, laws.entered a enter registers,
        record_of_entry m registers]
      cases ended : (m.call a s).1 with
      | ok value => exact iff_of_true rfl nofun
      | error reason =>
          constructor
          · intro same _
            exact same
          · intro permits
            exact permits ⟨reason, rfl⟩

/-- The runs without a trace are those in which the registry is that of the accepted
registrations throughout. -/
theorem throughout_traceless_iff (laws : Laws m) (s : σ) (acts : List ι) :
    Throughout m (Traceless m) s acts ↔
      ∀ front, front <+: acts → ∀ t, Leads m s front t → m.registry t.1 = t.2 := by
  apply Transition.along_iff_always_call
  · intro pair a same
    rw [← same]
    exact record_eq_iff laws pair.1 a
  · rfl

/-- With what tells whether a registration leaves a trace: the runs of such calls leave none, and
after them the registry is that of the accepted registrations. -/
theorem throughout_iff (laws : Laws m) {permits : σ → ι → Prop}
    (exactly : ∀ s a, Traceless m s a ↔ permits s a) (s : σ) (acts : List ι) :
    (Throughout m (Traceless m) s acts ↔ Throughout m permits s acts) ∧
      (Throughout m permits s acts → ∀ t, Leads m s acts t → m.registry t.1 = t.2) := by
  have same : Throughout m (Traceless m) s acts ↔ Throughout m permits s acts :=
    Transition.along_congr (fun pair a (_ : True) => exactly pair.1 a)
      (fun _ _ _ _ _ _ => trivial) trivial acts
  refine ⟨same, fun permitted t leads => ?_⟩
  exact (throughout_traceless_iff laws s acts).mp (same.mpr permitted) acts List.prefix_rfl t leads

end Registering
