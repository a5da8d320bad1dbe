import OpenSomeIp.Composite
import OpenSomeIp.Lib.Lifecycle

set_option autoImplicit false

namespace OpenSomeIp

namespace Composite

open CompositeWorld

variable {ω ε κ σ ρ ν τ γ : Type}

structure AllRunning (node : Composite ω ε κ σ ρ ν τ) (w : CompositeWorld ω σ ρ ν τ γ) : Prop where
  transport : w.transport.running = true
  sd : node.sd.running w.sd = true
  rpc : node.rpc.running w.rpc = true
  events : node.events.running w.events = true
  tpManager : ∀ tpManager, w.tpManager = some tpManager → node.tpManager.running tpManager = true

structure AllStopped (node : Composite ω ε κ σ ρ ν τ) (w : CompositeWorld ω σ ρ ν τ γ) : Prop where
  running : w.running = false
  transport : node.transport.Stopped w.transport
  sd : node.sd.running w.sd = false
  rpc : node.rpc.running w.rpc = false
  events : node.events.running w.events = false
  tpManager : ∀ tpManager, w.tpManager = some tpManager → node.tpManager.running tpManager = false

/-- What all components are made of obeys its laws, and the offers leave the SD component
running or not, as it was. -/
structure Lawful (node : Composite ω ε κ σ ρ ν τ) : Prop where
  sd : node.sd.Lawful
  rpc : node.rpc.Lawful
  events : node.events.Lawful
  tpManager : node.tpManager.Lawful
  offers : ∀ offer ∈ node.offers, ∀ s, node.sd.running (offer s).2 = node.sd.running s
  stopOffers : ∀ stopOffer ∈ node.stopOffers, ∀ s,
    node.sd.running (stopOffer s).2 = node.sd.running s

/-- No component but the transport raises. -/
structure Returns (node : Composite ω ε κ σ ρ ν τ) : Prop where
  sd : node.sd.Returns
  rpc : node.rpc.Returns
  events : node.events.Returns
  tpManager : node.tpManager.Returns
  offers : ∀ offer ∈ node.offers, ∀ s, ∃ t, offer s = (.ok (), t)
  stopOffers : ∀ stopOffer ∈ node.stopOffers, ∀ s, ∃ t, stopOffer s = (.ok (), t)

/-- From `w` to `u` no component was stopped, and the flag and the core of the node are as they
were. -/
structure StaysUp (node : Composite ω ε κ σ ρ ν τ) (w u : CompositeWorld ω σ ρ ν τ γ) : Prop where
  running : u.running = w.running
  core : u.core = w.core
  transport : w.transport.running = true → u.transport.running = true
  sd : node.sd.running w.sd = true → node.sd.running u.sd = true
  rpc : node.rpc.running w.rpc = true → node.rpc.running u.rpc = true
  events : node.events.running w.events = true → node.events.running u.events = true
  tpManager : (∀ tpManager, w.tpManager = some tpManager →
      node.tpManager.running tpManager = true) →
    ∀ tpManager, u.tpManager = some tpManager → node.tpManager.running tpManager = true

/-- From `w` to `u` no component behind the transport was started. -/
structure StaysDown (node : Composite ω ε κ σ ρ ν τ) (w u : CompositeWorld ω σ ρ ν τ γ) :
    Prop where
  running : u.running = w.running
  core : u.core = w.core
  sd : node.sd.running w.sd = false → node.sd.running u.sd = false
  rpc : node.rpc.running w.rpc = false → node.rpc.running u.rpc = false
  events : node.events.running w.events = false → node.events.running u.events = false
  tpManager : (∀ tpManager, w.tpManager = some tpManager →
      node.tpManager.running tpManager = false) →
    ∀ tpManager, u.tpManager = some tpManager → node.tpManager.running tpManager = false

variable {node : Composite ω ε κ σ ρ ν τ}

theorem StaysUp.refl (w : CompositeWorld ω σ ρ ν τ γ) : node.StaysUp w w where
  running := rfl
  core := rfl
  transport up := up
  sd up := up
  rpc up := up
  events up := up
  tpManager up := up

theorem StaysUp.trans {w u v : CompositeWorld ω σ ρ ν τ γ} (first : node.StaysUp w u)
    (second : node.StaysUp u v) : node.StaysUp w v where
  running := second.running.trans first.running
  core := second.core.trans first.core
  transport up := second.transport (first.transport up)
  sd up := second.sd (first.sd up)
  rpc up := second.rpc (first.rpc up)
  events up := second.events (first.events up)
  tpManager up := second.tpManager (first.tpManager up)

theorem StaysUp.allRunning {w u : CompositeWorld ω σ ρ ν τ γ} (stays : node.StaysUp w u)
    (all : node.AllRunning w) : node.AllRunning u where
  transport := stays.transport all.transport
  sd := stays.sd all.sd
  rpc := stays.rpc all.rpc
  events := stays.events all.events
  tpManager := stays.tpManager all.tpManager

theorem StaysDown.refl (w : CompositeWorld ω σ ρ ν τ γ) : node.StaysDown w w where
  running := rfl
  core := rfl
  sd down := down
  rpc down := down
  events down := down
  tpManager down := down

/-- The statement on the TP manager runs its method where there is a manager. -/
theorem onTpManager_of_some {body : Method Exn τ Unit} {w : CompositeWorld ω σ ρ ν τ γ} {m : τ}
    (enabled : w.tpManager = some m) :
    onTpManager body w = ((body m).1, { w with tpManager := some (body m).2 }) := by
  simp only [onTpManager, Method.bind_apply, Method.get_apply, enabled, Method.zoom_apply]

theorem onTpManager_of_none {body : Method Exn τ Unit} {w : CompositeWorld ω σ ρ ν τ γ}
    (disabled : w.tpManager = none) : onTpManager body w = (.ok (), w) := by
  simp only [onTpManager, Method.bind_apply, Method.get_apply, disabled, Method.pure_apply]

theorem onTpManager_returns {body : Method Exn τ Unit} (returns : ∀ m, ∃ n, body m = (.ok (), n))
    (w : CompositeWorld ω σ ρ ν τ γ) : ∃ u, onTpManager body w = (.ok (), u) := by
  cases enabled : w.tpManager with
  | none => exact ⟨w, onTpManager_of_none enabled⟩
  | some m =>
      obtain ⟨n, returned⟩ := returns m
      rw [onTpManager_of_some enabled, returned]
      exact ⟨_, rfl⟩

theorem onTpManager_world (body : Method Exn τ Unit) (w : CompositeWorld ω σ ρ ν τ γ) :
    (onTpManager body w).2 = { w with tpManager := w.tpManager.map fun m => (body m).2 } := by
  cases enabled : w.tpManager with
  | none =>
      rw [onTpManager_of_none enabled, Option.map_none, ← enabled]
  | some m => rw [onTpManager_of_some enabled, Option.map_some]

/-- What the body keeps of every manager, it keeps of the one that is there. -/
theorem map_keeps {body : Method Exn τ Unit} {holds : τ → Prop}
    (keeps : ∀ m, holds m → holds (body m).2) {manager : Option τ}
    (before : ∀ m, manager = some m → holds m) :
    ∀ m, manager.map (fun m => (body m).2) = some m → holds m := by
  intro n same
  obtain ⟨m, enabled, rfl⟩ := Option.map_eq_some_iff.mp same
  exact keeps m (before m enabled)

/-- What the body establishes when it returns, the statement establishes. -/
theorem onTpManager_establishes {body : Method Exn τ Unit} {holds : τ → Prop}
    (establishes : ∀ m n, body m = (.ok (), n) → holds n) {w u : CompositeWorld ω σ ρ ν τ γ}
    (returned : onTpManager body w = (.ok (), u)) : ∀ m, u.tpManager = some m → holds m := by
  cases enabled : w.tpManager with
  | none =>
      rw [onTpManager_of_none enabled] at returned
      cases returned
      intro m same
      rw [enabled] at same
      cases same
  | some m =>
      rw [onTpManager_of_some enabled] at returned
      obtain ⟨result, rfl⟩ := Prod.mk.inj returned
      intro n same
      obtain rfl := Option.some.inj same
      exact establishes m _ (Prod.ext result rfl)

section Start

/-- The statements of `start` up to the offers, each with what it establishes. -/
def starting (node : Composite ω ε κ σ ρ ν τ) :
    List (Method Exn (CompositeWorld ω σ ρ ν τ γ) Unit × (CompositeWorld ω σ ρ ν τ γ → Prop)) := [
  (onTransport node.transport.start, fun w => w.transport.running = true),
  (onSd node.sd.start, fun w => node.sd.running w.sd = true),
  (onRpc node.rpc.start, fun w => node.rpc.running w.rpc = true),
  (onEvents node.events.start, fun w => node.events.running w.events = true),
  (onTpManager node.tpManager.start,
    fun w => ∀ m, w.tpManager = some m → node.tpManager.running m = true)]

theorem starting_establishes (lawful : node.Lawful) :
    ∀ step ∈ node.starting (γ := γ), ∀ w u, step.1 w = (.ok (), u) → step.2 u := by
  simp only [starting, List.forall_mem_cons, List.not_mem_nil, false_imp_iff, implies_true, and_true]
  refine ⟨?_, ?_, ?_, ?_, ?_⟩
  · intro w u returned
    obtain ⟨result, rfl⟩ := Prod.mk.inj returned
    exact AnyTransport.start_running_of_ok result
  · intro w u returned
    exact Method.zoom_establishes lawful.sd.started (fun _ _ => rfl) returned
  · intro w u returned
    exact Method.zoom_establishes lawful.rpc.started (fun _ _ => rfl) returned
  · intro w u returned
    exact Method.zoom_establishes lawful.events.started (fun _ _ => rfl) returned
  · intro w u returned
    exact onTpManager_establishes lawful.tpManager.started returned

theorem starting_staysUp (lawful : node.Lawful) :
    ∀ step ∈ node.starting (γ := γ), ∀ w, node.StaysUp w (step.1 w).2 := by
  simp only [starting, List.forall_mem_cons, List.not_mem_nil, false_imp_iff, implies_true, and_true]
  refine ⟨?_, ?_, ?_, ?_, ?_⟩
  · intro w
    exact { StaysUp.refl w with transport := fun up => AnyTransport.start_frame.2.mpr (.inl up) }
  · intro w
    exact { StaysUp.refl w with sd := lawful.sd.keepsRunning w.sd }
  · intro w
    exact { StaysUp.refl w with rpc := lawful.rpc.keepsRunning w.rpc }
  · intro w
    exact { StaysUp.refl w with events := lawful.events.keepsRunning w.events }
  · intro w
    rw [onTpManager_world]
    exact { StaysUp.refl w with tpManager := map_keeps lawful.tpManager.keepsRunning }

theorem offers_staysUp (lawful : node.Lawful) :
    ∀ body ∈ node.offers.map (onSd (ω := ω) (ρ := ρ) (ν := ν) (τ := τ) (γ := γ)),
      ∀ w, node.StaysUp w (body w).2 := by
  intro body member w
  obtain ⟨offer, offered, rfl⟩ := List.mem_map.mp member
  exact { StaysUp.refl w with sd := fun up => (lawful.offers offer offered w.sd).trans up }

theorem starting_kept {w u : CompositeWorld ω σ ρ ν τ γ} (stays : node.StaysUp w u) :
    ∀ step ∈ node.starting, step.2 w → step.2 u := by
  simp only [starting, List.forall_mem_cons, List.not_mem_nil, false_imp_iff, implies_true, and_true]
  exact ⟨stays.transport, stays.sd, stays.rpc, stays.events, stays.tpManager⟩

theorem allRunning_of_starting {w : CompositeWorld ω σ ρ ν τ γ}
    (all : ∀ step ∈ node.starting, step.2 w) : node.AllRunning w := by
  simp only [starting, List.forall_mem_cons, List.not_mem_nil, false_imp_iff, implies_true,
    and_true] at all
  exact ⟨all.1, all.2.1, all.2.2.1, all.2.2.2.1, all.2.2.2.2⟩

/-- A start that returns leaves all running; one that raises has stopped nothing. -/
theorem start_cases (lawful : node.Lawful) (w : CompositeWorld ω σ ρ ν τ γ) :
    (∃ u, node.start w = (.ok (), { u with running := true }) ∧ node.AllRunning u ∧
        u.core = w.core) ∨
      ∃ exc u, node.start w = (.error exc, u) ∧ node.StaysUp w u := by
  have shape : node.start (γ := γ) = (do
      Method.inOrder (node.starting.map (·.1))
      Method.inOrder (node.offers.map onSd)
      Method.modify fun self => { self with running := true }) := rfl
  have bodies : ∀ body ∈ node.starting.map (·.1), ∀ v, node.StaysUp w v →
      node.StaysUp w (body v).2 := by
    intro body member v stays
    obtain ⟨step, inside, rfl⟩ := List.mem_map.mp member
    exact stays.trans (starting_staysUp lawful step inside v)
  have front := Method.inOrder_keeps bodies (StaysUp.refl w)
  cases ran : Method.inOrder (node.starting.map (·.1)) w with
  | mk result u =>
      rw [ran] at front
      cases result with
      | error exc =>
          right
          refine ⟨exc, u, ?_, front⟩
          rw [shape, Method.bind_of_error ran]
      | ok value =>
          have all : node.AllRunning u := by
            apply allRunning_of_starting
            apply Method.inOrder_establishes (starting_establishes lawful) _ ran
            intro step member other inside v
            exact starting_kept (starting_staysUp lawful step member v) other inside
          have offering : ∀ body ∈ node.offers.map onSd, ∀ v, node.StaysUp u v →
              node.StaysUp u (body v).2 :=
            fun body member v stays => stays.trans (offers_staysUp lawful body member v)
          have back := Method.inOrder_keeps offering (StaysUp.refl u)
          cases offered : Method.inOrder (node.offers.map onSd) u with
          | mk result v =>
              rw [offered] at back
              cases result with
              | error exc =>
                  right
                  refine ⟨exc, v, ?_, front.trans back⟩
                  rw [shape, Method.bind_of_ok ran, Method.bind_of_error offered]
              | ok value =>
                  left
                  refine ⟨v, ?_, back.allRunning all, back.core.trans front.core⟩
                  rw [shape, Method.bind_of_ok ran, Method.bind_of_ok offered, Method.modify_apply]

/-- Only the transport makes a start raise. -/
theorem start_of_transport (returns : node.Returns) {w : CompositeWorld ω σ ρ ν τ γ}
    (up : (node.transport.start w.transport).1 = .ok ()) : ∃ u, node.start w = (.ok (), u) := by
  have shape : node.start (γ := γ) = (do
      Method.inOrder (onTransport node.transport.start :: [
        onSd node.sd.start,
        onRpc node.rpc.start,
        onEvents node.events.start,
        onTpManager node.tpManager.start])
      Method.inOrder (node.offers.map onSd)
      Method.modify fun self => { self with running := true }) := rfl
  have first : onTransport (σ := σ) (ρ := ρ) (ν := ν) (τ := τ) (γ := γ) node.transport.start w =
      (.ok (), { w with transport := (node.transport.start w.transport).2 }) := by
    rw [onTransport, Method.zoom_apply, up]
  have others : ∀ body ∈ [
      onSd (ω := ω) (ρ := ρ) (ν := ν) (τ := τ) (γ := γ) node.sd.start,
      onRpc node.rpc.start,
      onEvents node.events.start,
      onTpManager node.tpManager.start], ∀ v, ∃ u, body v = (.ok (), u) := by
    simp only [List.forall_mem_cons, List.not_mem_nil, false_imp_iff, implies_true, and_true]
    refine ⟨?_, ?_, ?_, ?_⟩
    · exact Method.zoom_returns returns.sd.start _ _
    · exact Method.zoom_returns returns.rpc.start _ _
    · exact Method.zoom_returns returns.events.start _ _
    · exact onTpManager_returns returns.tpManager.start
  have offering : ∀ body ∈ node.offers.map (onSd (ω := ω) (ρ := ρ) (ν := ν) (τ := τ) (γ := γ)),
      ∀ v, ∃ u, body v = (.ok (), u) := by
    intro body member
    obtain ⟨offer, offered, rfl⟩ := List.mem_map.mp member
    exact Method.zoom_returns (returns.offers offer offered) _ _
  obtain ⟨v, ran⟩ := Method.inOrder_returns others
    { w with transport := (node.transport.start w.transport).2 }
  obtain ⟨u, offered⟩ := Method.inOrder_returns offering v
  refine ⟨{ u with running := true }, ?_⟩
  have front := (Method.inOrder_cons_of_ok first _).trans ran
  rw [shape, Method.bind_of_ok front, Method.bind_of_ok offered, Method.modify_apply]

/-- A transport that raises ends the start at once. -/
theorem start_of_transport_raised {w : CompositeWorld ω σ ρ ν τ γ} {exc : Exn}
    (raised : (node.transport.start w.transport).1 = .error exc) :
    node.start w = (.error exc, { w with transport := (node.transport.start w.transport).2 }) := by
  have first : onTransport (σ := σ) (ρ := ρ) (ν := ν) (τ := τ) (γ := γ) node.transport.start w =
      (.error exc, { w with transport := (node.transport.start w.transport).2 }) := by
    rw [onTransport, Method.zoom_apply, raised]
  rw [start, Method.bind_of_error (Method.inOrder_cons_of_error first _)]

end Start

section Stop

/-- The statements of `stop` between the withdrawals and the transport, each with what it
establishes. -/
def stopping (node : Composite ω ε κ σ ρ ν τ) :
    List (Method Exn (CompositeWorld ω σ ρ ν τ γ) Unit × (CompositeWorld ω σ ρ ν τ γ → Prop)) := [
  (onTpManager node.tpManager.stop,
    fun w => ∀ m, w.tpManager = some m → node.tpManager.running m = false),
  (onEvents node.events.stop, fun w => node.events.running w.events = false),
  (onRpc node.rpc.stop, fun w => node.rpc.running w.rpc = false),
  (onSd node.sd.stop, fun w => node.sd.running w.sd = false)]

/-- The statements of `stop` behind the first. -/
def stopAll (node : Composite ω ε κ σ ρ ν τ) : Method Exn (CompositeWorld ω σ ρ ν τ γ) Unit := do
  Method.inOrder (node.stopOffers.map onSd)
  Method.inOrder (node.stopping.map (·.1))
  onTransport node.transport.stop

theorem stop_eq_stopAll (w : CompositeWorld ω σ ρ ν τ γ) :
    node.stop w = node.stopAll { w with running := false } := rfl

theorem stopping_establishes (lawful : node.Lawful) :
    ∀ step ∈ node.stopping (γ := γ), ∀ w u, step.1 w = (.ok (), u) → step.2 u := by
  simp only [stopping, List.forall_mem_cons, List.not_mem_nil, false_imp_iff, implies_true, and_true]
  refine ⟨?_, ?_, ?_, ?_⟩
  · intro w u returned
    exact onTpManager_establishes lawful.tpManager.stopped returned
  · intro w u returned
    exact Method.zoom_establishes lawful.events.stopped (fun _ _ => rfl) returned
  · intro w u returned
    exact Method.zoom_establishes lawful.rpc.stopped (fun _ _ => rfl) returned
  · intro w u returned
    exact Method.zoom_establishes lawful.sd.stopped (fun _ _ => rfl) returned

theorem stopping_staysDown (lawful : node.Lawful) :
    ∀ step ∈ node.stopping (γ := γ), ∀ w, node.StaysDown w (step.1 w).2 := by
  simp only [stopping, List.forall_mem_cons, List.not_mem_nil, false_imp_iff, implies_true, and_true]
  refine ⟨?_, ?_, ?_, ?_⟩
  · intro w
    rw [onTpManager_world]
    exact { StaysDown.refl w with tpManager := map_keeps lawful.tpManager.keepsStopped }
  · intro w
    exact { StaysDown.refl w with events := lawful.events.keepsStopped w.events }
  · intro w
    exact { StaysDown.refl w with rpc := lawful.rpc.keepsStopped w.rpc }
  · intro w
    exact { StaysDown.refl w with sd := lawful.sd.keepsStopped w.sd }

theorem stopping_kept {w u : CompositeWorld ω σ ρ ν τ γ} (stays : node.StaysDown w u) :
    ∀ step ∈ node.stopping, step.2 w → step.2 u := by
  simp only [stopping, List.forall_mem_cons, List.not_mem_nil, false_imp_iff, implies_true, and_true]
  exact ⟨stays.tpManager, stays.events, stays.rpc, stays.sd⟩

theorem stopping_returns (returns : node.Returns) :
    ∀ body ∈ node.stopping (γ := γ).map (·.1), ∀ w, ∃ u, body w = (.ok (), u) := by
  simp only [stopping, List.map_cons, List.map_nil, List.forall_mem_cons, List.not_mem_nil,
    false_imp_iff, implies_true, and_true]
  refine ⟨?_, ?_, ?_, ?_⟩
  · exact onTpManager_returns returns.tpManager.stop
  · exact Method.zoom_returns returns.events.stop _ _
  · exact Method.zoom_returns returns.rpc.stop _ _
  · exact Method.zoom_returns returns.sd.stop _ _

theorem stopOffers_staysDown (lawful : node.Lawful) :
    ∀ body ∈ node.stopOffers.map (onSd (ω := ω) (ρ := ρ) (ν := ν) (τ := τ) (γ := γ)),
      ∀ w, node.StaysDown w (body w).2 := by
  intro body member w
  obtain ⟨stopOffer, withdrawn, rfl⟩ := List.mem_map.mp member
  exact { StaysDown.refl w with
    sd := fun down => (lawful.stopOffers stopOffer withdrawn w.sd).trans down }

theorem stopOffers_returns (returns : node.Returns) :
    ∀ body ∈ node.stopOffers.map (onSd (ω := ω) (ρ := ρ) (ν := ν) (τ := τ) (γ := γ)),
      ∀ w, ∃ u, body w = (.ok (), u) := by
  intro body member
  obtain ⟨stopOffer, withdrawn, rfl⟩ := List.mem_map.mp member
  exact Method.zoom_returns (returns.stopOffers stopOffer withdrawn) _ _

/-- A start leaves the core alone. -/
theorem start_core (lawful : node.Lawful) (w : CompositeWorld ω σ ρ ν τ γ) :
    (node.start w).2.core = w.core := by
  rcases start_cases lawful w with ⟨u, ran, -, same⟩ | ⟨exc, u, ran, stays⟩
  · rw [ran]
    exact same
  · rw [ran]
    exact stays.core

/-- The node is not running after a stop, even after one that was broken off, and its core is as
it was. -/
theorem stop_frame (lawful : node.Lawful) (w : CompositeWorld ω σ ρ ν τ γ) :
    (node.stop w).2.running = false ∧ (node.stop w).2.core = w.core := by
  have withdrawals : ∀ body ∈ node.stopOffers.map onSd, ∀ v : CompositeWorld ω σ ρ ν τ γ,
      v.running = false ∧ v.core = w.core →
        (body v).2.running = false ∧ (body v).2.core = w.core := by
    intro body member v before
    have stays := stopOffers_staysDown lawful body member v
    exact ⟨stays.running.trans before.1, stays.core.trans before.2⟩
  have bodies : ∀ body ∈ (node.stopping (γ := γ)).map (·.1), ∀ v,
      v.running = false ∧ v.core = w.core →
        (body v).2.running = false ∧ (body v).2.core = w.core := by
    intro body member v before
    obtain ⟨step, inside, rfl⟩ := List.mem_map.mp member
    have stays := stopping_staysDown lawful step inside v
    exact ⟨stays.running.trans before.1, stays.core.trans before.2⟩
  rw [stop_eq_stopAll]
  apply @Method.bind_keeps _ _ _ _ fun v : CompositeWorld ω σ ρ ν τ γ =>
    v.running = false ∧ v.core = w.core
  · intro v before
    exact Method.inOrder_keeps withdrawals before
  · intro _ v before
    apply @Method.bind_keeps _ _ _ _ fun v : CompositeWorld ω σ ρ ν τ γ =>
      v.running = false ∧ v.core = w.core
    · intro u holds
      exact Method.inOrder_keeps bodies holds
    · intro _ u holds
      exact holds
    · exact before
  · exact ⟨rfl, rfl⟩

/-- When the components return, a stop reaches the transport and leaves all stopped, also
where the transport raises. -/
theorem stop_allStopped (lawful : node.Lawful) (returns : node.Returns)
    (disconnects : ∀ v, node.transport.Disconnects v) (w : CompositeWorld ω σ ρ ν τ γ) :
    node.AllStopped (node.stop w).2 := by
  obtain ⟨v, withdrawn⟩ := Method.inOrder_returns (stopOffers_returns returns)
    { w with running := false }
  obtain ⟨u, ran⟩ := Method.inOrder_returns (stopping_returns returns) v
  have all : ∀ step ∈ node.stopping, step.2 u := by
    apply Method.inOrder_establishes (stopping_establishes lawful) _ ran
    intro step member other inside v
    exact stopping_kept (stopping_staysDown lawful step member v) other inside
  simp only [stopping, List.forall_mem_cons, List.not_mem_nil, false_imp_iff, implies_true,
    and_true] at all
  have ended := (stop_frame lawful w).1
  rw [stop_eq_stopAll, stopAll, Method.bind_of_ok withdrawn, Method.bind_of_ok ran] at ended ⊢
  exact {
    running := ended
    transport := AnyTransport.stop_stopped (disconnects u.transport)
    sd := all.2.2.2
    rpc := all.2.2.1
    events := all.2.1
    tpManager := all.1 }

end Stop

section Runs

/-- A start or stop of the node, whether it returns or raises. -/
def act (node : Composite ω ε κ σ ρ ν τ) (w : CompositeWorld ω σ ρ ν τ γ) :
    Lifecycle.Act → Option (CompositeWorld ω σ ρ ν τ γ)
  | .start => some (node.start w).2
  | .stop => some (node.stop w).2

theorem act_allRunning (lawful : node.Lawful) {w u : CompositeWorld ω σ ρ ν τ γ}
    {a : Lifecycle.Act} (before : w.running = true → node.AllRunning w)
    (success : node.act w a = some u) : u.running = true → node.AllRunning u := by
  intro running
  cases a with
  | start =>
      obtain rfl := Option.some.inj success
      rcases start_cases lawful w with ⟨u, ran, all, -⟩ | ⟨exc, u, ran, stays⟩
      · rw [ran]
        exact ⟨all.transport, all.sd, all.rpc, all.events, all.tpManager⟩
      · rw [ran] at running ⊢
        exact stays.allRunning (before (stays.running.symm.trans running))
  | stop =>
      obtain rfl := Option.some.inj success
      rw [(stop_frame lawful w).1] at running
      cases running

/-- Whatever was called and however it ended: a node that runs has all its components running. -/
theorem run_allRunning (lawful : node.Lawful) {w u : CompositeWorld ω σ ρ ν τ γ}
    {history : List Lifecycle.Act} (before : w.running = false)
    (ran : Transition.run node.act w history = some u) :
    u.running = true → node.AllRunning u := by
  apply Transition.invariant_run _ _ ran
  · intro s a t holds success
    exact act_allRunning lawful holds success
  · intro running
    rw [before] at running
    cases running

/-- The state behind a stop that ends a history. -/
theorem run_allStopped (lawful : node.Lawful) (returns : node.Returns)
    (disconnects : ∀ v, node.transport.Disconnects v) {w u : CompositeWorld ω σ ρ ν τ γ}
    {history : List Lifecycle.Act}
    (ran : Transition.run node.act w (history ++ [.stop]) = some u) : node.AllStopped u := by
  rw [Transition.run_append] at ran
  obtain ⟨v, -, last⟩ := Option.bind_eq_some_iff.mp ran
  obtain ⟨x, next, done⟩ := Transition.run_cons_eq_some last
  obtain rfl := Option.some.inj done
  obtain rfl := Option.some.inj next
  exact stop_allStopped lawful returns disconnects v

/-- From a stopped node on, a start that raises leaves the node stopped, unless the transport
is what fails, and late. -/
theorem start_allStopped_iff (returns : node.Returns) {w : CompositeWorld ω σ ρ ν τ γ}
    (stopped : node.AllStopped w) :
    (∀ exc, (node.start w).1 = .error exc → node.AllStopped (node.start w).2) ↔
      ¬ node.transport.FailsLate w.transport.native := by
  have down := AnyTransport.running_of_stopped stopped.transport
  constructor
  · intro fine late
    obtain ⟨⟨exc, raised⟩, up⟩ := AnyTransport.start_of_late down late
    have ran := start_of_transport_raised raised
    have after := fine exc (by rw [ran])
    rw [ran] at after
    have ended := AnyTransport.running_of_stopped after.transport
    cases ended.symm.trans up
  · intro fine exc raised
    by_cases up : node.transport.ComesUp w.transport.native
    · obtain ⟨u, ran⟩ := start_of_transport returns (AnyTransport.start_of_fine down up fine)
      rw [ran] at raised
      cases raised
    · obtain ⟨native, reason, failed⟩ := AnyTransport.start_of_down down up
      have first : (node.transport.start w.transport).1 = .error reason := by rw [failed]
      rw [start_of_transport_raised first, failed]
      exact { stopped with transport := AnyTransport.stopped_of_native stopped.transport }

end Runs

end Composite

end OpenSomeIp
