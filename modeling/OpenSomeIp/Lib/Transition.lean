set_option autoImplicit false

/-! Runs of a partial step function: `step s a = none` where `a` is not enabled
in `s`. -/

namespace Transition

variable {σ ι : Type}

/-- The state after a sequence of actions, each enabled in its turn. -/
def run (step : σ → ι → Option σ) : σ → List ι → Option σ
  | s, [] => some s
  | s, a :: rest => (step s a).bind fun t => run step t rest

/-- Every action of the run meets `allowed` in the state it is taken in. -/
def Along (step : σ → ι → Option σ) (allowed : σ → ι → Prop) : σ → List ι → Prop
  | _, [] => True
  | s, a :: rest => allowed s a ∧ ∀ t, step s a = some t → Along step allowed t rest

variable {step : σ → ι → Option σ}

instance decidableAlong {allowed : σ → ι → Prop} [∀ s a, Decidable (allowed s a)] :
    ∀ (s : σ) (actions : List ι), Decidable (Along step allowed s actions)
  | _, [] => .isTrue trivial
  | s, a :: rest =>
      have (t : σ) : Decidable (Along step allowed t rest) := decidableAlong t rest
      inferInstanceAs (Decidable (allowed s a ∧ ∀ t ∈ step s a, Along step allowed t rest))

theorem run_cons_of_some {s t : σ} {a : ι} (first : step s a = some t) (rest : List ι) :
    run step s (a :: rest) = run step t rest := by
  rw [run, first]
  rfl

theorem run_cons_eq_some {s u : σ} {a : ι} {rest : List ι}
    (ran : run step s (a :: rest) = some u) :
    ∃ t, step s a = some t ∧ run step t rest = some u :=
  Option.bind_eq_some_iff.mp ran

theorem run_append (s : σ) (front back : List ι) :
    run step s (front ++ back) = (run step s front).bind fun t => run step t back := by
  induction front generalizing s with
  | nil => rfl
  | cons a front ih =>
      simp only [List.cons_append, run]
      cases step s a with
      | none => rfl
      | some t => exact ih t

/-- Where every action is enabled in every state, so is every sequence of them. -/
theorem run_of_total (total : ∀ s a, ∃ t, step s a = some t) (s : σ) (actions : List ι) :
    ∃ t, run step s actions = some t := by
  induction actions generalizing s with
  | nil => exact ⟨s, rfl⟩
  | cons a rest ih =>
      obtain ⟨t, first⟩ := total s a
      rw [run_cons_of_some first]
      exact ih t

/-- An allowed run is one whose every action is allowed where the run before it has led. -/
theorem along_iff_prefixes {allowed : σ → ι → Prop} {s : σ} {actions : List ι} :
    Along step allowed s actions ↔
      ∀ front a, front ++ [a] <+: actions → ∀ t, run step s front = some t → allowed t a := by
  induction actions generalizing s with
  | nil =>
      apply iff_of_true trivial
      intro front a inside
      have empty := List.prefix_nil.mp inside
      exact absurd empty (List.concat_ne_nil a front)
  | cons b rest ih =>
      constructor
      · rintro ⟨head, tail⟩ front a inside t reached
        cases front with
        | nil =>
            obtain ⟨rfl, -⟩ := List.cons_prefix_cons.mp inside
            obtain rfl := Option.some.inj reached
            exact head
        | cons c front =>
            obtain ⟨rfl, within⟩ := List.cons_prefix_cons.mp inside
            obtain ⟨middle, first, reached⟩ := run_cons_eq_some reached
            exact ih.mp (tail middle first) front a within t reached
      · intro all
        refine ⟨all [] b (List.cons_prefix_cons.mpr ⟨rfl, List.nil_prefix⟩) s rfl, ?_⟩
        intro middle first
        apply ih.mpr
        intro front a inside t reached
        apply all (b :: front) a (List.cons_prefix_cons.mpr ⟨rfl, inside⟩) t
        exact (run_cons_of_some first front).trans reached

/-- What every allowed step preserves holds at the end of every allowed run. -/
theorem invariant_along {allowed : σ → ι → Prop} {invariant : σ → Prop}
    (preserved : ∀ s a t, invariant s → allowed s a → step s a = some t → invariant t)
    {s t : σ} {actions : List ι} (along : Along step allowed s actions) (holds : invariant s)
    (ran : run step s actions = some t) : invariant t := by
  induction actions generalizing s with
  | nil =>
      cases ran
      exact holds
  | cons a rest ih =>
      obtain ⟨middle, first, ran⟩ := run_cons_eq_some ran
      exact ih (along.2 middle first) (preserved s a middle holds along.1 first) ran

/-- A run is allowed when an invariant that its actions preserve allows each of them. -/
theorem along_of_invariant {allowed : σ → ι → Prop} {invariant : σ → Prop} {among : ι → Prop}
    (preserved : ∀ s a t, invariant s → among a → step s a = some t → invariant t)
    (gives : ∀ s a, invariant s → among a → allowed s a) {s : σ} {actions : List ι}
    (holds : invariant s) (all : ∀ a ∈ actions, among a) : Along step allowed s actions := by
  induction actions generalizing s with
  | nil => trivial
  | cons a rest ih =>
      have head : among a := all a List.mem_cons_self
      refine ⟨gives s a holds head, fun t success => ?_⟩
      exact ih (preserved s a t holds head success)
        (fun b member => all b (List.mem_cons_of_mem a member))

/-- Actions that are allowed in every state make an allowed run. -/
theorem along_of_forall {allowed : σ → ι → Prop} {s : σ} {actions : List ι}
    (all : ∀ a ∈ actions, ∀ t, allowed t a) : Along step allowed s actions := by
  have gives (t : σ) (a : ι) (_ : True) (among : ∀ t, allowed t a) : allowed t a := among t
  exact along_of_invariant (fun _ _ _ _ _ _ => trivial) gives trivial all

/-- Two demands that come to the same wherever the run stands make the same runs allowed. -/
theorem along_congr {allowed permitted : σ → ι → Prop} {invariant : σ → Prop}
    (same : ∀ s a, invariant s → (allowed s a ↔ permitted s a))
    (preserved : ∀ s a t, invariant s → permitted s a → step s a = some t → invariant t)
    {s : σ} (holds : invariant s) (actions : List ι) :
    Along step allowed s actions ↔ Along step permitted s actions := by
  induction actions generalizing s with
  | nil => exact Iff.rfl
  | cons a rest ih =>
      simp only [Along, same s a holds]
      apply and_congr_right
      intro fine
      apply forall_congr'
      intro t
      apply imp_congr_right
      intro first
      exact ih (preserved s a t holds fine first)

/-- Where every action is enabled in every state, an allowed run reaches each of its actions in
a state that allows it. -/
theorem exists_allowed_of_mem {allowed : σ → ι → Prop} (total : ∀ s a, ∃ t, step s a = some t)
    {s : σ} {actions : List ι} (along : Along step allowed s actions) {a : ι}
    (member : a ∈ actions) : ∃ t, allowed t a := by
  induction actions generalizing s with
  | nil => exact absurd member List.not_mem_nil
  | cons b rest ih =>
      rcases List.mem_cons.mp member with rfl | later
      · exact ⟨s, along.1⟩
      · obtain ⟨t, first⟩ := total s b
        exact ih (along.2 t first) later

/-- What every action of a kind preserves holds after a run of actions of that kind. -/
theorem invariant_among {invariant : σ → Prop} {among : ι → Prop}
    (preserved : ∀ s a t, invariant s → among a → step s a = some t → invariant t)
    {s t : σ} {actions : List ι} (holds : invariant s) (all : ∀ a ∈ actions, among a)
    (ran : run step s actions = some t) : invariant t :=
  invariant_along preserved
    (along_of_invariant preserved (fun _ _ _ allowed => allowed) holds all) holds ran

/-- What every step preserves holds at the end of every run. -/
theorem invariant_run {invariant : σ → Prop}
    (preserved : ∀ s a t, invariant s → step s a = some t → invariant t)
    {s t : σ} {actions : List ι} (holds : invariant s) (ran : run step s actions = some t) :
    invariant t := by
  have kept (s : σ) (a : ι) (t : σ) (before : invariant s) (_ : True)
      (success : step s a = some t) : invariant t := preserved s a t before success
  exact invariant_among kept holds (fun _ _ => trivial) ran

/-- Where an action of a kind keeps `good` exactly when it is allowed, the allowed runs of
such actions are those that stay good in every state they pass through. -/
theorem along_iff_always_among {allowed : σ → ι → Prop} {invariant good : σ → Prop}
    {among : ι → Prop}
    (preserved : ∀ s a t, invariant s → among a → step s a = some t → invariant t)
    (exact_ : ∀ s a t, invariant s → good s → among a → step s a = some t →
      (good t ↔ allowed s a))
    {s u : σ} {actions : List ι} (holds : invariant s) (start : good s)
    (all : ∀ a ∈ actions, among a) (ran : run step s actions = some u) :
    Along step allowed s actions ↔
      ∀ front, front <+: actions → ∀ t, run step s front = some t → good t := by
  induction actions generalizing s with
  | nil =>
      refine ⟨fun _ front nil t success => ?_, fun _ => trivial⟩
      obtain rfl := List.prefix_nil.mp nil
      obtain rfl := Option.some.inj success
      exact start
  | cons a rest ih =>
      obtain ⟨middle, first, ran⟩ := run_cons_eq_some ran
      have head : among a := all a List.mem_cons_self
      have others : ∀ b ∈ rest, among b := fun b member => all b (List.mem_cons_of_mem a member)
      have step_iff := exact_ s a middle holds start head first
      have kept := preserved s a middle holds head first
      constructor
      · rintro ⟨permitted, tail⟩ front inside t success
        cases front with
        | nil =>
            obtain rfl := Option.some.inj success
            exact start
        | cons b front =>
            obtain ⟨rfl, within⟩ := List.cons_prefix_cons.mp inside
            obtain ⟨next, second, success⟩ := run_cons_eq_some success
            obtain rfl : next = middle := Option.some.inj (second.symm.trans first)
            exact (ih kept (step_iff.mpr permitted) others ran).mp (tail next first) front within t
              success
      · intro always
        have reached : good middle :=
          always [a] (List.cons_prefix_cons.mpr ⟨rfl, List.nil_prefix⟩) middle
            (run_cons_of_some first [])
        refine ⟨step_iff.mp reached, fun t success => ?_⟩
        obtain rfl : middle = t := Option.some.inj (first.symm.trans success)
        refine (ih kept reached others ran).mpr fun front inside t success => ?_
        exact always (a :: front) (List.cons_prefix_cons.mpr ⟨rfl, inside⟩) t
          ((run_cons_of_some first front).trans success)

/-- Where an action keeps `good` exactly when it is allowed, the allowed runs are
those that stay good in every state they pass through. -/
theorem along_iff_always {allowed : σ → ι → Prop} {invariant good : σ → Prop}
    (preserved : ∀ s a t, invariant s → step s a = some t → invariant t)
    (exact_ : ∀ s a t, invariant s → good s → step s a = some t → (good t ↔ allowed s a))
    {s u : σ} {actions : List ι} (holds : invariant s) (start : good s)
    (ran : run step s actions = some u) :
    Along step allowed s actions ↔
      ∀ front, front <+: actions → ∀ t, run step s front = some t → good t := by
  have kept (s : σ) (a : ι) (t : σ) (before : invariant s) (_ : True)
      (success : step s a = some t) : invariant t := preserved s a t before success
  have same (s : σ) (a : ι) (t : σ) (before : invariant s) (fine : good s) (_ : True)
      (success : step s a = some t) : good t ↔ allowed s a := exact_ s a t before fine success
  exact along_iff_always_among kept same holds start (fun _ _ => trivial) ran

/-- The same where every action is enabled in every state, so that every sequence of them runs. -/
theorem along_iff_always_call {call : σ → ι → σ} {allowed : σ → ι → Prop} {good : σ → Prop}
    (exact_ : ∀ s a, good s → (good (call s a) ↔ allowed s a)) {s : σ} (start : good s)
    (actions : List ι) :
    Along (fun s a => some (call s a)) allowed s actions ↔
      ∀ front, front <+: actions →
        ∀ t, run (fun s a => some (call s a)) s front = some t → good t := by
  obtain ⟨u, ran⟩ := run_of_total (fun s a => ⟨call s a, rfl⟩) s actions
  have exactly (s : σ) (a : ι) (t : σ) (_ : True) (fine : good s)
      (stepped : some (call s a) = some t) : good t ↔ allowed s a := by
    obtain rfl := Option.some.inj stepped
    exact exact_ s a fine
  exact along_iff_always (fun _ _ _ _ _ => trivial) exactly trivial start ran

end Transition
