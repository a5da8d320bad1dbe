import OpenSomeIp.Lib.Sequence
import OpenSomeIp.TransportKinds

set_option autoImplicit false

namespace OpenSomeIp

/-- What a client or server does with one of its components. -/
structure Part (σ : Type) where
  start : Method Exn σ Unit
  stop : Method Exn σ Unit
  running : σ → Bool

/-- A start that returns leaves the part running, a stop that returns leaves it stopped; a
start that raises stops nothing, a stop that raises starts nothing. -/
structure Part.Lawful {σ : Type} (part : Part σ) : Prop where
  started : ∀ s t, part.start s = (.ok (), t) → part.running t = true
  stopped : ∀ s t, part.stop s = (.ok (), t) → part.running t = false
  keepsRunning : ∀ s, part.running s = true → part.running (part.start s).2 = true
  keepsStopped : ∀ s, part.running s = false → part.running (part.stop s).2 = false

/-- Neither call raises. -/
structure Part.Returns {σ : Type} (part : Part σ) : Prop where
  start : ∀ s, ∃ t, part.start s = (.ok (), t)
  stop : ∀ s, ∃ t, part.stop s = (.ok (), t)

namespace Component

variable {ω β : Type} (initializeNative shutdown : Option (Method Exn ω Unit)) (clear : β → β)

def part : Part (Component ω β) where
  start := start initializeNative
  stop := stop shutdown clear
  running := running

theorem part_lawful : (part initializeNative shutdown clear).Lawful where
  started w u returned := by
    obtain ⟨result, rfl⟩ := Prod.mk.inj returned
    exact start_running_of_ok result
  stopped w u returned := by
    by_cases caught : Caught shutdown w.native
    · obtain ⟨native, ran⟩ := @stop_of_caught ω β shutdown clear w caught
      obtain ⟨-, rfl⟩ := Prod.mk.inj (ran.symm.trans returned)
      rfl
    · obtain ⟨native, exc, ran⟩ := @stop_of_uncaught ω β shutdown clear w caught
      cases ran.symm.trans returned
  keepsRunning w := start_keeps
  keepsStopped w stopped := by
    by_cases caught : Caught shutdown w.native
    · obtain ⟨native, ran⟩ := @stop_of_caught ω β shutdown clear w caught
      simp only [part, ran]
    · obtain ⟨native, exc, ran⟩ := @stop_of_uncaught ω β shutdown clear w caught
      simp only [part, ran]
      exact stopped

variable {initializeNative shutdown}

theorem part_returns (starts : ∀ body, initializeNative = some body → Translated body)
    (stops : ∀ body, shutdown = some body → Translated body) :
    (part initializeNative shutdown clear).Returns where
  start w := by
    obtain ⟨native, ran⟩ := start_of_caught (Translated.caught starts w.native)
    exact ⟨_, ran⟩
  stop w := by
    obtain ⟨native, ran⟩ := @stop_of_caught ω β shutdown clear w (Translated.caught stops w.native)
    exact ⟨_, ran⟩

end Component

/-- What a client and a server have in common: a transport and the components that they start
behind it and stop before it. A server offers its services last and withdraws them first. -/
structure Composite (ω ε κ σ ρ ν τ : Type) where
  transport : AnyTransport ω ε κ
  sd : Part σ
  rpc : Part ρ
  events : Part ν
  tpManager : Part τ
  offers : List (Method Exn σ Unit) := []
  stopOffers : List (Method Exn σ Unit) := []

/-- The attributes; `tpManager` is `none` where TP is not enabled, and `core` is what the
lifecycle does not touch. -/
structure CompositeWorld (ω σ ρ ν τ γ : Type) where
  transport : TransportWorld ω
  sd : σ
  rpc : ρ
  events : ν
  tpManager : Option τ
  core : γ
  running : Bool := false

namespace CompositeWorld

variable {ω σ ρ ν τ γ α : Type}

def onTransport (body : Method Exn (TransportWorld ω) α) :
    Method Exn (CompositeWorld ω σ ρ ν τ γ) α :=
  Method.zoom transport (fun transport self => { self with transport := transport }) body

def onSd (body : Method Exn σ α) : Method Exn (CompositeWorld ω σ ρ ν τ γ) α :=
  Method.zoom sd (fun sd self => { self with sd := sd }) body

def onRpc (body : Method Exn ρ α) : Method Exn (CompositeWorld ω σ ρ ν τ γ) α :=
  Method.zoom rpc (fun rpc self => { self with rpc := rpc }) body

def onEvents (body : Method Exn ν α) : Method Exn (CompositeWorld ω σ ρ ν τ γ) α :=
  Method.zoom events (fun events self => { self with events := events }) body

def onCore (body : Method Exn γ α) : Method Exn (CompositeWorld ω σ ρ ν τ γ) α :=
  Method.zoom core (fun core self => { self with core := core }) body

/-- The statement `if self._tp_manager is not None: body`. -/
def onTpManager (body : Method Exn τ Unit) : Method Exn (CompositeWorld ω σ ρ ν τ γ) Unit := do
  let self ← Method.get
  match self.tpManager with
  | none => pure ()
  | some tpManager =>
      Method.zoom (fun _ => tpManager)
        (fun tpManager self => { self with tpManager := some tpManager }) body

end CompositeWorld

namespace Composite

open CompositeWorld

variable {ω ε κ σ ρ ν τ γ : Type} (node : Composite ω ε κ σ ρ ν τ)

def start : Method Exn (CompositeWorld ω σ ρ ν τ γ) Unit := do
  Method.inOrder [
    onTransport node.transport.start,
    onSd node.sd.start,
    onRpc node.rpc.start,
    onEvents node.events.start,
    onTpManager node.tpManager.start]
  Method.inOrder (node.offers.map onSd)
  Method.modify fun self => { self with running := true }

def stop : Method Exn (CompositeWorld ω σ ρ ν τ γ) Unit := do
  Method.modify fun self => { self with running := false }
  Method.inOrder (node.stopOffers.map onSd)
  Method.inOrder [
    onTpManager node.tpManager.stop,
    onEvents node.events.stop,
    onRpc node.rpc.stop,
    onSd node.sd.stop]
  onTransport node.transport.stop

end Composite

end OpenSomeIp
