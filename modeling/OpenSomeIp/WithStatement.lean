import OpenSomeIp.Lib.Context
import OpenSomeIp.NodeLifecycle

set_option autoImplicit false

namespace OpenSomeIp

namespace Composite

variable {ω ε κ σ ρ ν τ γ χ α : Type}

/-- A method of a node in a program that has other variables `χ`. -/
def onNode (body : Method Exn (CompositeWorld ω σ ρ ν τ γ) α) :
    Method Exn (CompositeWorld ω σ ρ ν τ γ × χ) α :=
  Method.zoom Prod.fst (fun node program => (node, program.2)) body

/-- The methods `__enter__` and `__aenter__`. -/
def enter (node : Composite ω ε κ σ ρ ν τ) : Method Exn (CompositeWorld ω σ ρ ν τ γ × χ) Unit :=
  onNode node.start

/-- The methods `__exit__` and `__aexit__`, which return `None` and so suppress nothing. -/
def exit (node : Composite ω ε κ σ ρ ν τ) : Method Exn (CompositeWorld ω σ ρ ν τ γ × χ) Unit :=
  onNode node.stop

/-- The statement `with node: body`, where the body may call and change what it likes. -/
def block (node : Composite ω ε κ σ ρ ν τ)
    (body : Method Exn (CompositeWorld ω σ ρ ν τ γ × χ) α) :
    Method Exn (CompositeWorld ω σ ρ ν τ γ × χ) α :=
  Method.within node.enter node.exit body

/-- One `with` statement of a program that survives the exceptions that leave it. -/
def stepBlock (node : Composite ω ε κ σ ρ ν τ) (program : CompositeWorld ω σ ρ ν τ γ × χ)
    (body : Method Exn (CompositeWorld ω σ ρ ν τ γ × χ) α) :
    Option (CompositeWorld ω σ ρ ν τ γ × χ) :=
  some (node.block body program).2

/-- The block is not entered: `start` raised, and nothing but the node knows of it. -/
structure Refused (node : Composite ω ε κ σ ρ ν τ)
    (body : Method Exn (CompositeWorld ω σ ρ ν τ γ × χ) α)
    (program : CompositeWorld ω σ ρ ν τ γ × χ) : Prop where
  raised : ∃ exc, (node.start program.1).1 = .error exc ∧ (node.block body program).1 = .error exc
  left : (node.block body program).2 = ((node.start program.1).2, program.2)
  core : (node.block body program).2.1.core = program.1.core

/-- The block is entered with all components up, runs its body there, and stops the node that
the body left; an exception of `stop` hides how the body ended. -/
structure Entered (node : Composite ω ε κ σ ρ ν τ)
    (body : Method Exn (CompositeWorld ω σ ρ ν τ γ × χ) α)
    (program inside : CompositeWorld ω σ ρ ν τ γ × χ) : Prop where
  started : node.start program.1 = (.ok (), inside.1) ∧ inside.2 = program.2
  running : inside.1.running = true
  all : node.AllRunning inside.1
  result : (node.block body program).1 =
    ((node.stop (body inside).2.1).1.bind fun _ => (body inside).1)
  left : (node.block body program).2 =
    ((node.stop (body inside).2.1).2, (body inside).2.2)
  core : (node.block body program).2.1.core = (body inside).2.1.core

variable {node : Composite ω ε κ σ ρ ν τ}
  {body : Method Exn (CompositeWorld ω σ ρ ν τ γ × χ) α}
  {program : CompositeWorld ω σ ρ ν τ γ × χ}

theorem block_of_error {exc : Exn} {w : CompositeWorld ω σ ρ ν τ γ}
    (raised : node.start program.1 = (.error exc, w)) :
    node.block body program = (.error exc, (w, program.2)) := by
  apply Method.within_of_error
  rw [enter, onNode, Method.zoom_apply, raised]

theorem block_of_ok {w : CompositeWorld ω σ ρ ν τ γ} (started : node.start program.1 = (.ok (), w)) :
    node.block body program =
      ((node.stop (body (w, program.2)).2.1).1.bind fun _ => (body (w, program.2)).1,
        (node.stop (body (w, program.2)).2.1).2, (body (w, program.2)).2.2) := by
  have entered : node.enter program = (.ok (), (w, program.2)) := by
    rw [enter, onNode, Method.zoom_apply, started]
  rw [block, Method.within_of_ok entered]
  cases stopped : node.stop (body (w, program.2)).2.1 with
  | mk result v =>
      have last : node.exit (body (w, program.2)).2 = (result, (v, (body (w, program.2)).2.2)) := by
        rw [exit, onNode, Method.zoom_apply, stopped]
      cases result with
      | ok value => exact Method.tryFinally_of_ok last
      | error exc => exact Method.tryFinally_of_error last

/-- There is no third way through a block. -/
theorem block_cases (lawful : node.Lawful)
    (body : Method Exn (CompositeWorld ω σ ρ ν τ γ × χ) α)
    (program : CompositeWorld ω σ ρ ν τ γ × χ) :
    node.Refused body program ∨ ∃ inside, node.Entered body program inside := by
  rcases start_cases lawful program.1 with ⟨w, started, all, -⟩ | ⟨exc, w, raised, stays⟩
  · right
    have ran : node.block body program = _ := block_of_ok started
    refine ⟨({ w with running := true }, program.2), ?_⟩
    exact {
      started := ⟨started, rfl⟩
      running := rfl
      all := ⟨all.transport, all.sd, all.rpc, all.events, all.tpManager⟩
      result := congrArg Prod.fst ran
      left := congrArg Prod.snd ran
      core := by
        rw [ran]
        exact (stop_frame lawful _).2 }
  · left
    have ran : node.block body program = _ := block_of_error raised
    exact {
      raised := ⟨exc, by rw [raised], by rw [ran]⟩
      left := by rw [ran, raised]
      core := by
        rw [ran]
        exact stays.core }

/-- Whatever its body does, a block that begins with all stopped ends so, unless the transport
fails late. -/
theorem block_allStopped_iff (lawful : node.Lawful) (returns : node.Returns)
    (disconnects : ∀ v, node.transport.Disconnects v) (stopped : node.AllStopped program.1)
    (body : Method Exn (CompositeWorld ω σ ρ ν τ γ × χ) α) :
    node.AllStopped (node.block body program).2.1 ↔
      ¬ node.transport.FailsLate program.1.transport.native := by
  rw [← start_allStopped_iff returns stopped]
  rcases block_cases lawful body program with refused | ⟨inside, entered⟩
  · obtain ⟨exc, raised, -⟩ := refused.raised
    rw [refused.left]
    exact ⟨fun after _ _ => after, fun whole => whole exc raised⟩
  · rw [entered.left]
    apply iff_of_true
    · exact stop_allStopped lawful returns disconnects _
    · intro exc raised
      rw [entered.started.1] at raised
      cases raised

/-- The blocks of a program leave the node stopped, each of them, exactly as long as none meets
a transport that fails late; and each is refused or entered and left. -/
def EndsBlocks (node : Composite ω ε κ σ ρ ν τ) (program : CompositeWorld ω σ ρ ν τ γ × χ)
    (bodies : List (Method Exn (CompositeWorld ω σ ρ ν τ γ × χ) α)) : Prop :=
  (Transition.Along node.stepBlock (fun p _ => ¬ node.transport.FailsLate p.1.transport.native)
      program bodies ↔
    ∀ front, front <+: bodies → ∀ p, Transition.run node.stepBlock program front = some p →
      node.AllStopped p.1) ∧
  ∀ front body, front ++ [body] <+: bodies →
    ∀ p, Transition.run node.stepBlock program front = some p →
      node.Refused body p ∨ ∃ inside, node.Entered body p inside

theorem endsBlocks (lawful : node.Lawful) (returns : node.Returns)
    (disconnects : ∀ v, node.transport.Disconnects v) (stopped : node.AllStopped program.1)
    (bodies : List (Method Exn (CompositeWorld ω σ ρ ν τ γ × χ) α)) :
    node.EndsBlocks program bodies := by
  constructor
  · apply @Transition.along_iff_always_call _ _ (fun p body => (node.block body p).2)
      (fun p _ => ¬ node.transport.FailsLate p.1.transport.native) (fun p => node.AllStopped p.1)
    · intro p body before
      exact block_allStopped_iff lawful returns disconnects before body
    · exact stopped
  · intro front body inside p reached
    exact block_cases lawful body p

end Composite

section Nodes

variable {ω ε κ ς η χ α : Type} (server : ServerSettings)
  (serverExt : Option (ServerExtension ω ε κ ς)) (client : ClientSettings)
  (clientExt : Option (ClientExtension ω ε κ))

/-- A server or client that a program uses in `with` statements only is stopped after each of
them, whatever the bodies call and however they end, as long as its transport does not fail
late; the bodies run with all components up, or not at all. -/
theorem with_statements
    (serverTranslated : ∀ native, serverExt = some native → native.Translated)
    (clientTranslated : ∀ native, clientExt = some native → native.Translated) :
    (∀ (program : ServerWorld ω η × χ) (bodies : List (Method Exn (ServerWorld ω η × χ) α)),
      (SomeIpServer.node server serverExt).AllStopped program.1 →
        (SomeIpServer.node server serverExt).EndsBlocks program bodies) ∧
    ∀ (program : ClientWorld ω × χ) (bodies : List (Method Exn (ClientWorld ω × χ) α)),
      (SomeIpClient.node client clientExt).AllStopped program.1 →
        (SomeIpClient.node client clientExt).EndsBlocks program bodies := by
  constructor
  · intro program bodies stopped
    exact Composite.endsBlocks (SomeIpServer.node_lawful server serverExt)
      (SomeIpServer.node_returns server serverTranslated)
      (SomeIpServer.node_disconnects server serverTranslated) stopped bodies
  · intro program bodies stopped
    exact Composite.endsBlocks (SomeIpClient.node_lawful client clientExt)
      (SomeIpClient.node_returns client clientTranslated)
      (SomeIpClient.node_disconnects client clientTranslated) stopped bodies

/-- The extension of a server whose native transport runs, until its `stop` raises. -/
def joiningServer : ServerExtension Unit Unit Unit Unit :=
  { faultyServer with
    udpTransport := { faultyUdp with joinMulticastGroup := fun _ => pure () } }

theorem joiningServer_translated : joiningServer.Translated := { faultyServer_translated with }

/-- A body that raises, and one that counts. -/
def raisingThenCounting : List (Method Exn (ServerWorld Unit Unit × Nat) Unit) :=
  [Method.raise (.runtimeError "body"), Method.modify fun program => (program.1, program.2 + 1)]

/-- Both blocks are left with the exception of the native `stop`, and yet with all stopped. -/
theorem with_statements_raised :
    let node := SomeIpServer.node multicastServer (some joiningServer)
    ∃ p, Transition.run node.stepBlock (SomeIpServer.create multicastServer () emptyApp, 0)
        raisingThenCounting = some p ∧
      p.2 = 1 ∧ node.AllStopped p.1 := by
  intro node
  refine ⟨_, rfl, rfl, ?_⟩
  have ends := (with_statements (η := Unit) (χ := Nat) (α := Unit) multicastServer
    (some joiningServer) plainClient (none : Option (ClientExtension Unit Unit Unit))
    (by
      intro native same
      obtain rfl := Option.some.inj same
      exact joiningServer_translated)
    (by
      intro native same
      cases same)).1 (SomeIpServer.create multicastServer () emptyApp, 0) raisingThenCounting
      (SomeIpServer.create_allStopped multicastServer () emptyApp)
  refine ends.1.mp ?_ raisingThenCounting List.prefix_rfl _ rfl
  refine ⟨?_, fun p _ => ⟨?_, fun _ _ => trivial⟩⟩
  · rintro ⟨-, exc, raised⟩
    cases raised
  · rintro ⟨-, exc, raised⟩
    cases raised

end Nodes

end OpenSomeIp
