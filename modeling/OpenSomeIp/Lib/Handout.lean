import Mathlib.Data.List.Induction
import Mathlib.Data.List.Nodup
import Mathlib.Data.Set.Basic
import OpenSomeIp.Lib.Transition

set_option autoImplicit false

/-! Resources handed out under keys, where only the last one of each key stays in reach. -/

namespace Handout

/-- The resources carry the numbers `0` to `count - 1`, in the order they are handed out. -/
structure State (κ : Type) where
  count : Nat := 0
  released : Set Nat := ∅
  tracked : κ → Option Nat := fun _ => none

inductive Act (κ : Type) where
  | hand (key : κ)
  | release
  | rest

variable {κ σ ι : Type}

namespace State

def hand [DecidableEq κ] (s : State κ) (key : κ) : State κ where
  count := s.count + 1
  released := s.released
  tracked := Function.update s.tracked key (some s.count)

def release (s : State κ) : State κ where
  count := s.count
  released := {n | n ∈ s.released ∨ n < s.count ∧ ∃ key, s.tracked key = some n}
  tracked := fun _ => none

def act [DecidableEq κ] (s : State κ) : Act κ → State κ
  | .hand key => s.hand key
  | .release => s.release
  | .rest => s

def AllReleased (s : State κ) : Prop := ∀ n < s.count, n ∈ s.released

end State

/-- The keys asked for since the last release, the latest first. -/
def asked (kind : ι → Act κ) (actions : List ι) : List κ :=
  actions.foldl (fun keys a =>
    match kind a with
    | .hand key => key :: keys
    | .release => []
    | .rest => keys) []

/-- Where all was released the last time: what is tracked are the unreleased resources of the
keys asked for, and all of them as long as no key was asked for twice. -/
structure Tracks (s : State κ) (keys : List κ) : Prop where
  numbered : ∀ n ∈ s.released, n < s.count
  bounded : ∀ key n, s.tracked key = some n → n < s.count ∧ n ∉ s.released
  separate : ∀ key other n, s.tracked key = some n → s.tracked other = some n → key = other
  keyed : ∀ key, key ∈ keys ↔ ∃ n, s.tracked key = some n
  covered : keys.Nodup ↔ ∀ n < s.count, n ∉ s.released → ∃ key, s.tracked key = some n

theorem tracks_empty : Tracks ({} : State κ) [] where
  numbered := fun n member => absurd member (Set.notMem_empty n)
  bounded := fun _ _ tracked => nomatch tracked
  separate := fun _ _ _ tracked => nomatch tracked
  keyed := fun _ => iff_of_false List.not_mem_nil fun ⟨_, tracked⟩ => nomatch tracked
  covered := iff_of_true List.nodup_nil fun n below => absurd below (Nat.not_lt_zero n)

section Hand

variable [DecidableEq κ] {s : State κ} {keys : List κ}

theorem hand_tracked {key other : κ} {n : Nat} :
    (s.hand key).tracked other = some n ↔
      (other = key ∧ n = s.count) ∨ (other ≠ key ∧ s.tracked other = some n) := by
  by_cases same : other = key
  · subst same
    simp only [State.hand, Function.update_self, Option.some.injEq, true_and, ne_eq,
      not_true_eq_false, false_and, or_false]
    exact eq_comm
  · simp only [State.hand, Function.update_of_ne same, same, false_and, ne_eq, not_false_eq_true,
      true_and, false_or]

theorem hand_covered (tracks : Tracks s keys) (key : κ) :
    (key :: keys).Nodup ↔
      ∀ n < (s.hand key).count, n ∉ (s.hand key).released →
        ∃ other, (s.hand key).tracked other = some n := by
  rw [List.nodup_cons]
  constructor
  · rintro ⟨first, distinct⟩ n below unreleased
    by_cases newest : n = s.count
    · exact ⟨key, hand_tracked.mpr (.inl ⟨rfl, newest⟩)⟩
    · have before : n < s.count := by
        have bound : n < s.count + 1 := below
        omega
      obtain ⟨other, tracked⟩ := tracks.covered.mp distinct n before unreleased
      refine ⟨other, hand_tracked.mpr (.inr ⟨?_, tracked⟩)⟩
      intro same
      apply first
      rw [← same]
      exact (tracks.keyed other).mpr ⟨n, tracked⟩
  · intro all
    have older (n : Nat) (below : n < s.count) (unreleased : n ∉ s.released) :
        ∃ other, other ≠ key ∧ s.tracked other = some n := by
      obtain ⟨other, tracked⟩ := all n (Nat.lt_succ_of_lt below) unreleased
      rcases hand_tracked.mp tracked with ⟨_, newest⟩ | found
      · omega
      · exact ⟨other, found⟩
    constructor
    · intro again
      obtain ⟨n, tracked⟩ := (tracks.keyed key).mp again
      obtain ⟨below, unreleased⟩ := tracks.bounded key n tracked
      obtain ⟨other, different, found⟩ := older n below unreleased
      exact different (tracks.separate other key n found tracked)
    · apply tracks.covered.mpr
      intro n below unreleased
      obtain ⟨other, _, found⟩ := older n below unreleased
      exact ⟨other, found⟩

theorem tracks_hand (tracks : Tracks s keys) (key : κ) : Tracks (s.hand key) (key :: keys) where
  numbered := fun n member => Nat.lt_succ_of_lt (tracks.numbered n member)
  bounded := by
    intro other n tracked
    rcases hand_tracked.mp tracked with ⟨_, newest⟩ | ⟨_, found⟩
    · subst newest
      refine ⟨Nat.lt_succ_self _, fun member => ?_⟩
      exact absurd (tracks.numbered _ member) (Nat.lt_irrefl _)
    · obtain ⟨below, unreleased⟩ := tracks.bounded other n found
      exact ⟨Nat.lt_succ_of_lt below, unreleased⟩
  separate := by
    intro first second n left right
    rcases hand_tracked.mp left with ⟨one, newest⟩ | ⟨_, found⟩
    · rcases hand_tracked.mp right with ⟨two, _⟩ | ⟨_, old⟩
      · rw [one, two]
      · have below := (tracks.bounded second n old).1
        omega
    · rcases hand_tracked.mp right with ⟨_, newest⟩ | ⟨_, old⟩
      · have below := (tracks.bounded first n found).1
        omega
      · exact tracks.separate first second n found old
  keyed := by
    intro other
    rw [List.mem_cons, tracks.keyed]
    by_cases same : other = key
    · apply iff_of_true (.inl same)
      exact ⟨s.count, hand_tracked.mpr (.inl ⟨same, rfl⟩)⟩
    · simp only [hand_tracked, same, false_and, false_or, ne_eq, not_false_eq_true, true_and]
  covered := hand_covered tracks key

end Hand

section Release

variable {s : State κ} {keys : List κ}

/-- A release reaches everything exactly when no key was asked for twice. -/
theorem release_allReleased_iff (tracks : Tracks s keys) :
    s.release.AllReleased ↔ keys.Nodup := by
  rw [tracks.covered]
  constructor
  · intro all n below unreleased
    rcases all n below with before | ⟨_, tracked⟩
    · exact absurd before unreleased
    · exact tracked
  · intro all n below
    by_cases before : n ∈ s.released
    · exact .inl before
    · exact .inr ⟨below, all n below before⟩

theorem tracks_release (tracks : Tracks s keys) (all : s.release.AllReleased) :
    Tracks s.release [] where
  numbered := by
    intro n member
    rcases member with before | ⟨below, _⟩
    · exact tracks.numbered n before
    · exact below
  bounded := fun _ _ tracked => nomatch tracked
  separate := fun _ _ _ tracked => nomatch tracked
  keyed := fun _ => iff_of_false List.not_mem_nil fun ⟨_, tracked⟩ => nomatch tracked
  covered := iff_of_true List.nodup_nil fun n below unreleased => absurd (all n below) unreleased

end Release

theorem asked_concat (kind : ι → Act κ) (front : List ι) (a : ι) :
    asked kind (front ++ [a]) =
      match kind a with
      | .hand key => key :: asked kind front
      | .release => []
      | .rest => asked kind front := by
  rw [asked, List.foldl_append]
  rfl

/-- A property of the last action of a list and of what precedes it, for all prefixes. -/
theorem forall_concat_prefix {property : List ι → ι → Prop} {actions : List ι} {last : ι} :
    (∀ front a, front ++ [a] <+: actions ++ [last] → property front a) ↔
      (∀ front a, front ++ [a] <+: actions → property front a) ∧ property actions last := by
  constructor
  · intro all
    refine ⟨fun front a inside => ?_, all actions last (List.prefix_refl _)⟩
    exact all front a (inside.trans (List.prefix_append _ _))
  · rintro ⟨before, final⟩ front a inside
    rcases List.prefix_concat_iff.mp inside with whole | within
    · obtain ⟨rfl, same⟩ := List.append_inj' whole rfl
      obtain rfl := List.cons.inj same |>.1
      exact final
    · exact before front a within

/-- Every release of the run leaves nothing unreleased. -/
def ReleasesAll (step : σ → ι → Option σ) (view : σ → State κ) (kind : ι → Act κ) (s : σ)
    (actions : List ι) : Prop :=
  ∀ front a, front ++ [a] <+: actions → kind a = .release →
    ∀ t, Transition.run step s (front ++ [a]) = some t → (view t).AllReleased

/-- No key is asked for twice before a release. -/
def AsksOnce (kind : ι → Act κ) (actions : List ι) : Prop :=
  ∀ front a, front ++ [a] <+: actions → kind a = .release → (asked kind front).Nodup

section System

variable {step : σ → ι → Option σ} {view : σ → State κ} {kind : ι → Act κ}

theorem releasesAll_concat {s middle t : σ} {front : List ι} {a : ι}
    (ran : Transition.run step s front = some middle) (stepped : step middle a = some t) :
    ReleasesAll step view kind s (front ++ [a]) ↔
      ReleasesAll step view kind s front ∧ (kind a = .release → (view t).AllReleased) := by
  have final : Transition.run step s (front ++ [a]) = some t := by
    rw [Transition.run_append, ran]
    exact Transition.run_cons_of_some stepped []
  rw [ReleasesAll, forall_concat_prefix, final]
  simp only [Option.some.injEq, forall_eq']
  rfl

variable [DecidableEq κ]

/-- One action more: the resources stay tracked by the keys asked for. -/
theorem tracks_act {s : State κ} {front : List ι} {a : ι} (tracks : Tracks s (asked kind front))
    (all : kind a = .release → (s.act (kind a)).AllReleased) :
    Tracks (s.act (kind a)) (asked kind (front ++ [a])) := by
  rw [asked_concat]
  cases is_ : kind a with
  | hand key => exact tracks_hand tracks key
  | release =>
      rw [is_] at all
      exact tracks_release tracks (all rfl)
  | rest => exact tracks

/-- In a system that hands out and releases, every release of a run leaves nothing unreleased
exactly when no key is asked for twice between two releases. -/
theorem releasesAll_iff (total : ∀ s a, ∃ t, step s a = some t)
    (refines : ∀ s a t, step s a = some t → view t = (view s).act (kind a))
    {s : σ} (empty : view s = {}) (actions : List ι) :
    ReleasesAll step view kind s actions ↔ AsksOnce kind actions := by
  -- The induction needs to know what a run without a failed release tracks.
  have both : (ReleasesAll step view kind s actions ↔ AsksOnce kind actions) ∧
      (ReleasesAll step view kind s actions → ∀ t, Transition.run step s actions = some t →
        Tracks (view t) (asked kind actions)) := by
    induction actions using List.reverseRecOn with
    | nil =>
        have nothing (front : List ι) (a : ι) : ¬ front ++ [a] <+: [] := by
          intro inside
          exact List.concat_ne_nil a front (List.prefix_nil.mp inside)
        constructor
        · apply iff_of_true
          · exact fun front a inside => absurd inside (nothing front a)
          · exact fun front a inside => absurd inside (nothing front a)
        · intro _ t ran
          obtain rfl := Option.some.inj ran
          rw [empty]
          exact tracks_empty
    | append_singleton front a ih =>
        obtain ⟨same, tracks⟩ := ih
        obtain ⟨middle, ran⟩ := Transition.run_of_total total s front
        obtain ⟨t, stepped⟩ := total middle a
        have reached := refines middle a t stepped
        rw [releasesAll_concat ran stepped]
        constructor
        · rw [AsksOnce, forall_concat_prefix]
          change _ ↔ AsksOnce kind front ∧ _
          rw [← same]
          apply and_congr_right
          intro clean
          apply imp_congr_right
          intro releases
          rw [reached, releases]
          exact release_allReleased_iff (tracks clean middle ran)
        · rintro ⟨clean, all⟩ u final
          rw [Transition.run_append, ran] at final
          obtain rfl : t = u :=
            Option.some.inj ((Transition.run_cons_of_some stepped []).symm.trans final)
          rw [reached] at all ⊢
          exact tracks_act (tracks clean middle ran) all
  exact both.1

end System

end Handout
