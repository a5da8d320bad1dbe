import OpenSomeIp.Lib.Transition

set_option autoImplicit false

/-! Objects that are started and stopped any number of times, with an outlet that
is closed for good. -/

namespace Lifecycle

inductive Act where
  | start
  | stop
  deriving DecidableEq, Repr

structure Machine (σ : Type) where
  start : σ → σ
  stop : σ → σ
  running : σ → Bool
  closed : σ → Bool

variable {σ : Type} (m : Machine σ)

/-- Either call can be made in every state. -/
def step (s : σ) : Act → Option σ
  | .start => some (m.start s)
  | .stop => some (m.stop s)

/-- While the object runs its outlet is open, and whatever stop ends that closes it. -/
structure Consistent (s : σ) (history : List Act) : Prop where
  isOpen : ∀ front, front <+: history → ∀ t, Transition.run (step m) s front = some t →
    m.running t = true → m.closed t = false
  isClosed : ∀ front, front ++ [.stop] <+: history → ∀ t,
    Transition.run (step m) s front = some t → m.running t = true →
      m.running (m.stop t) = false → m.closed (m.stop t) = true

/-- `wakes` tells where a start makes the object run, `leaks` where a stop ends that without
closing the outlet. -/
def Allowed (wakes leaks : σ → Prop) (s : σ) : Act → Prop
  | .start => m.closed s = true → ¬ wakes s
  | .stop => m.running s = true → ¬ leaks s

/-- What a machine does, as far as the outlet is concerned. -/
structure Laws (wakes leaks : σ → Prop) : Prop where
  start_closed : ∀ s, m.closed (m.start s) = m.closed s
  start_running : ∀ s, m.running (m.start s) = true ↔ m.running s = true ∨ wakes s
  stop_running : ∀ s, m.running (m.stop s) = true →
    m.running s = true ∧ m.closed (m.stop s) = m.closed s
  stop_closed : ∀ s, m.running s = true → m.closed s = false →
    (m.running (m.stop s) = false ∧ m.closed (m.stop s) = false ↔ leaks s)

/-- What is promised of one call. -/
structure Kept (s : σ) (a : Act) : Prop where
  isOpen : ∀ t, step m s a = some t → m.running t = true → m.closed t = false
  isClosed : a = .stop → m.running s = true → m.running (m.stop s) = false →
    m.closed (m.stop s) = true

variable {m} {wakes leaks : σ → Prop}

theorem kept_iff_allowed (laws : Laws m wakes leaks) {s : σ}
    (before : m.running s = true → m.closed s = false) (a : Act) :
    Kept m s a ↔ Allowed m wakes leaks s a := by
  cases a with
  | start =>
      constructor
      · intro kept closed wakes
        have running := (laws.start_running s).mpr (.inr wakes)
        have open_ := kept.isOpen (m.start s) rfl running
        rw [laws.start_closed, closed] at open_
        cases open_
      · intro allowed
        refine ⟨?_, nofun⟩
        intro t reached running
        obtain rfl := Option.some.inj reached
        rw [laws.start_closed]
        rcases (laws.start_running s).mp running with was | wakes
        · exact before was
        · by_cases closed : m.closed s = true
          · exact absurd wakes (allowed closed)
          · exact Bool.eq_false_iff.mpr closed
  | stop =>
      constructor
      · intro kept running leaks
        have both := (laws.stop_closed s running (before running)).mpr leaks
        have closed := kept.isClosed rfl running both.1
        rw [both.2] at closed
        cases closed
      · intro allowed
        constructor
        · intro t reached running
          obtain rfl := Option.some.inj reached
          obtain ⟨was, same⟩ := laws.stop_running s running
          rw [same]
          exact before was
        · intro _ running ended
          by_cases closed : m.closed (m.stop s) = true
          · exact closed
          · apply absurd _ (allowed running)
            apply (laws.stop_closed s running (before running)).mp
            exact ⟨ended, Bool.eq_false_iff.mpr closed⟩

/-- A history is consistent when every call of it keeps what is promised. -/
theorem consistent_iff_kept {s : σ} (before : m.running s = true → m.closed s = false)
    (history : List Act) :
    Consistent m s history ↔ Transition.Along (step m) (Kept m) s history := by
  rw [Transition.along_iff_prefixes]
  constructor
  · intro consistent front a inside t reached
    constructor
    · intro u next
      apply consistent.isOpen (front ++ [a]) inside
      rw [Transition.run_append, reached, Option.bind_some]
      exact Transition.run_cons_of_some next []
    · intro stops
      subst stops
      exact consistent.isClosed front inside t reached
  · intro all
    constructor
    · intro front inside t reached
      rcases List.eq_nil_or_concat front with rfl | ⟨back, a, rfl⟩
      · obtain rfl := Option.some.inj reached
        exact before
      · rw [List.concat_eq_append] at reached inside
        rw [Transition.run_append] at reached
        obtain ⟨u, earlier, last⟩ := Option.bind_eq_some_iff.mp reached
        obtain ⟨v, next, done⟩ := Transition.run_cons_eq_some last
        obtain rfl := Option.some.inj done
        exact (all back a inside u earlier).isOpen v next
    · intro front inside t reached
      exact (all front .stop inside t reached).isClosed rfl

/-- The histories without a broken promise are those in which nothing wakes the object
behind a closed outlet and no stop leaks. -/
theorem consistent_iff_allowed (laws : Laws m wakes leaks) {s : σ}
    (before : m.running s = true → m.closed s = false) (history : List Act) :
    Consistent m s history ↔ Transition.Along (step m) (Allowed m wakes leaks) s history := by
  rw [consistent_iff_kept before]
  induction history generalizing s with
  | nil => exact Iff.rfl
  | cons a rest ih =>
      rw [Transition.Along, Transition.Along, kept_iff_allowed laws before a]
      apply and_congr_right
      intro allowed
      have kept := (kept_iff_allowed laws before a).mpr allowed
      constructor
      · intro tail t next
        exact (ih (kept.isOpen t next)).mp (tail t next)
      · intro tail t next
        exact (ih (kept.isOpen t next)).mpr (tail t next)

end Lifecycle
