import OpenSomeIp.Lib.Keeping
import OpenSomeIp.Lib.Lifecycle
import OpenSomeIp.TransportKinds

set_option autoImplicit false

namespace OpenSomeIp

open Method

/-! ### Native transports with a log of the calls on them -/

inductive NativeCall where
  | toCppEndpoint
  | toCppMessage
  | start
  | stop
  | sendMessage
  | joinMulticastGroup
  | initializeTransport
  | connect
  | disconnect
  deriving DecidableEq, Repr

variable {ω ε κ : Type}

def NativeTransport.logged (cpp : NativeTransport ω ε κ) :
    NativeTransport (ω × List NativeCall) ε κ where
  toCppEndpoint endpoint := logging .toCppEndpoint (cpp.toCppEndpoint endpoint)
  toCppMessage message := logging .toCppMessage (cpp.toCppMessage message)
  start := logging .start cpp.start
  stop := logging .stop cpp.stop
  sendMessage cppMsg cppEp := logging .sendMessage (cpp.sendMessage cppMsg cppEp)

def NativeUdpTransport.logged (cpp : NativeUdpTransport ω ε κ) :
    NativeUdpTransport (ω × List NativeCall) ε κ where
  toNativeTransport := cpp.toNativeTransport.logged
  joinMulticastGroup group := logging .joinMulticastGroup (cpp.joinMulticastGroup group)

def NativeTcpTransport.logged (cpp : NativeTcpTransport ω ε κ) :
    NativeTcpTransport (ω × List NativeCall) ε κ where
  toNativeTransport := cpp.toNativeTransport.logged
  initializeTransport cppEp := logging .initializeTransport (cpp.initializeTransport cppEp)
  connect cppEp := logging .connect (cpp.connect cppEp)
  disconnect := logging .disconnect cpp.disconnect

def UdpTransport.logged (transport : UdpTransport ω ε κ) :
    UdpTransport (ω × List NativeCall) ε κ where
  localEndpoint := transport.localEndpoint
  remoteEndpoint := transport.remoteEndpoint
  multicastGroup := transport.multicastGroup
  cpp := transport.cpp.map NativeUdpTransport.logged

def TcpTransport.logged (transport : TcpTransport ω ε κ) :
    TcpTransport (ω × List NativeCall) ε κ where
  localEndpoint := transport.localEndpoint
  remoteEndpoint := transport.remoteEndpoint
  cpp := transport.cpp.map NativeTcpTransport.logged

abbrev LoggedWorld (ω : Type) := TransportWorld (ω × List NativeCall)

theorem suppress_keeps {σ : Type} {holds : σ → Prop} {body : Method Exn σ Unit}
    (keeps : Keeps holds body) : Keeps holds (RpcClient.suppress body) := by
  apply keeps.tryExcept
  intro exc
  split
  · exact Keeps.pure ()
  · exact Keeps.raise exc

/-! ### A second start -/

namespace UdpTransport

variable {transport : UdpTransport ω ε κ} {w : LoggedWorld ω}

/-- Its `start` has a native call to make behind `super().start()`. -/
def Repeats (transport : UdpTransport ω ε κ) : Prop :=
  transport.cpp.isSome ∧ transport.multicastGroup.isSome

theorem joinNative_of_repeats (repeats : transport.Repeats) (pair : ω × List NativeCall) :
    (transport.logged.joinNative pair).2.2 = pair.2 ++ [.joinMulticastGroup] := by
  obtain ⟨native, configured⟩ := repeats
  obtain ⟨cpp, present⟩ := Option.isSome_iff_exists.mp native
  obtain ⟨group, joins⟩ := Option.isSome_iff_exists.mp configured
  simp only [joinNative, logged, present, joins, Option.map_some, NativeUdpTransport.logged,
    logging_apply]

theorem joinNative_of_quiet (quiet : ¬ transport.Repeats) (pair : ω × List NativeCall) :
    transport.logged.joinNative pair = (.ok (), pair) := by
  rw [Repeats, not_and_or, Option.not_isSome_iff_eq_none, Option.not_isSome_iff_eq_none] at quiet
  rcases quiet with absent | none_
  · simp only [joinNative, logged, absent, Option.map_none]
    rfl
  · simp only [joinNative, logged, none_]
    cases transport.cpp <;> rfl

theorem start_idle_iff (running : w.running = true) :
    transport.logged.start w = (.ok (), w) ↔ ¬ transport.Repeats := by
  rw [start_of_running running]
  constructor
  · intro idle repeats
    have longer := joinNative_of_repeats repeats w.native
    have same : (transport.logged.joinNative w.native).2 = w.native :=
      congrArg (fun outcome => outcome.2.native) idle
    rw [same, List.self_eq_append_right] at longer
    cases longer
  · intro quiet
    rw [joinNative_of_quiet quiet]

end UdpTransport

namespace TcpTransport

variable {transport : TcpTransport ω ε κ} {w : LoggedWorld ω}

theorem prepareNative_of_absent (absent : transport.cpp = none) (pair : ω × List NativeCall) :
    transport.logged.prepareNative pair = (.ok (), pair) := by
  simp only [prepareNative, logged, absent, Option.map_none, pure_apply]

theorem connectIf_of_absent (absent : transport.cpp = none) :
    transport.logged.connectIf w =
      (.ok (), { w with connected := transport.remoteEndpoint.isSome || w.connected }) := by
  cases configured : transport.remoteEndpoint with
  | none =>
      simp only [connectIf, logged, configured, Option.isSome_none, Bool.false_eq_true, ↓reduceIte,
        pure_apply, Bool.false_or]
  | some remote =>
      simp only [connectIf, connect, connectNative, logged, absent, configured, Option.isSome_some,
        ↓reduceIte, Option.map_none, bind_apply, Transport.onNative_apply, pure_apply,
        modify_apply, Bool.true_or]

/-- Without a native transport nothing is left to do but to set the flag of the connection. -/
theorem start_of_absent (absent : transport.cpp = none) :
    transport.logged.start w = (.ok (), { w with
      running := true, connected := transport.remoteEndpoint.isSome || w.connected }) := by
  have prepared := prepareNative_of_absent absent w.native
  have same : { w with native := (transport.logged.prepareNative w.native).2 } = w := by
    rw [prepared]
  rw [start_of_prepared (by rw [prepared]), same]
  cases running : w.running with
  | true =>
      rw [bind_of_ok (Transport.start_of_running running), connectIf_of_absent absent, ← running]
  | false =>
      have up : transport.logged.super.ComesUp w.native := by
        intro cpp present
        simp only [super, logged, absent, Option.map_none, reduceCtorEq] at present
      rw [bind_of_ok (Transport.start_of_up running up), connectIf_of_absent absent]
      simp only [Transport.started, super, logged, absent, Option.map_none]

theorem stop_of_absent (absent : transport.cpp = none) :
    (transport.logged.stop w).2.running = false ∧
      (transport.logged.stop w).2.connected = false := by
  have quiet : transport.logged.Disconnects w := by
    intro cpp exc present
    simp only [logged, absent, Option.map_none, reduceCtorEq] at present
  rw [stop_of_disconnected (disconnectNative_of_disconnects quiet)]
  exact ⟨Transport.stop_running, Transport.stop_connected⟩

section Present

variable {cpp : NativeTcpTransport ω ε κ}

theorem connectNative_keeps (front : List NativeCall) (present : transport.cpp = some cpp)
    (remote : Endpoint) :
    Keeps (fun pair : ω × List NativeCall => front <+: pair.2)
      (transport.logged.connectNative remote) := by
  simp only [connectNative, logged, present, Option.map_some]
  apply Keeps.bind (logging_keeps front _ _)
  intro cppEp
  exact suppress_keeps (logging_keeps front _ _)

theorem connectIf_keeps (front : List NativeCall) (present : transport.cpp = some cpp) :
    Keeps (fun u : LoggedWorld ω => u.running = true ∧ front <+: u.native.2)
      transport.logged.connectIf := by
  rw [connectIf]
  split
  · rw [connect]
    split
    · exact Keeps.raise _
    · rename_i remote configured
      have connects : Keeps (fun u : LoggedWorld ω => u.running = true ∧ front <+: u.native.2)
          (Transport.onNative (transport.logged.connectNative remote)) :=
        Keeps.zoom (connectNative_keeps front present remote) (fun _ before => before.2)
          fun _ _ before after => ⟨before.1, after⟩
      apply connects.bind
      intro value u before
      exact before
  · exact Keeps.pure ()

theorem prepareNative_log (present : transport.cpp = some cpp) (pair : ω × List NativeCall) :
    pair.2 ++ [.toCppEndpoint] <+: (transport.logged.prepareNative pair).2.2 := by
  have initializes (cppLocal : ε) :
      Keeps (fun other : ω × List NativeCall => pair.2 ++ [.toCppEndpoint] <+: other.2)
        (RpcClient.suppress (cpp.logged.initializeTransport cppLocal)) :=
    suppress_keeps (logging_keeps _ _ _)
  simp only [prepareNative, logged, present, Option.map_some]
  exact Keeps.after initializes List.prefix_rfl

/-- A start has the extension make an endpoint, and nothing that follows takes that back. -/
theorem start_log (present : transport.cpp = some cpp) (running : w.running = true) :
    w.native.2 ++ [.toCppEndpoint] <+: (transport.logged.start w).2.native.2 := by
  have kept : Keeps (fun u : LoggedWorld ω =>
      u.running = true ∧ w.native.2 ++ [.toCppEndpoint] <+: u.native.2)
      (transport.logged.super.start >>= fun _ => transport.logged.connectIf) := by
    apply Keeps.bind
    · intro u before
      rw [Transport.start_of_running before.1]
      exact before
    · intro value
      exact connectIf_keeps _ present
  have prepared := prepareNative_log present w.native
  exact (Keeps.after (fun _ => kept) ⟨running, prepared⟩).2

end Present

/-- Its `start` has a native call to make before `super().start()`. -/
def Repeats (transport : TcpTransport ω ε κ) : Prop := transport.cpp.isSome

/-- Without a native transport a running transport counts as connected, if it can be. -/
def Settled (transport : TcpTransport ω ε κ) (w : LoggedWorld ω) : Prop :=
  transport.cpp = none → w.running = true → transport.remoteEndpoint.isSome = true →
    w.connected = true

theorem start_idle_iff (settled : transport.Settled w) (running : w.running = true) :
    transport.logged.start w = (.ok (), w) ↔ ¬ transport.Repeats := by
  cases present : transport.cpp with
  | none =>
      apply iff_of_true
      · have connected : (transport.remoteEndpoint.isSome || w.connected) = w.connected := by
          cases remote : transport.remoteEndpoint.isSome with
          | false => exact Bool.false_or _
          | true => rw [settled present running remote, Bool.or_true]
        rw [start_of_absent present, connected, ← running]
      · rw [Repeats, present]
        exact Bool.false_ne_true
  | some cpp =>
      apply iff_of_false
      · intro idle
        have longer := start_log present running
        rw [idle] at longer
        have length : (w.native.2 ++ [NativeCall.toCppEndpoint]).length ≤ w.native.2.length :=
          longer.length_le
        rw [List.length_append, List.length_singleton] at length
        omega
      · rw [Repeats, present]
        exact not_not_intro rfl

theorem settled_start (transport : TcpTransport ω ε κ) (w : LoggedWorld ω) :
    transport.Settled (transport.logged.start w).2 := by
  intro absent _ remote
  rw [start_of_absent absent, remote]
  rfl

theorem settled_stop (transport : TcpTransport ω ε κ) (w : LoggedWorld ω) :
    transport.Settled (transport.logged.stop w).2 := by
  intro absent running
  rw [(stop_of_absent absent).1] at running
  cases running

theorem stop_idle (stopped : w.running = false) (disconnected : w.connected = false) :
    transport.logged.stop w = (.ok (), w) := by
  have quiet : transport.logged.disconnectNative w.connected w.native = (.ok (), w.native) := by
    rw [disconnected]
    cases cpp : transport.logged.cpp with
    | none =>
        simp only [disconnectNative, cpp]
        rfl
    | some native =>
        simp only [disconnectNative, cpp]
        rfl
  rw [stop_of_disconnected (by rw [quiet]), quiet, ← disconnected]
  exact Transport.stop_of_stopped stopped

theorem stop_stopped_of_ok (returned : (transport.logged.stop w).1 = .ok ()) :
    (transport.logged.stop w).2.running = false ∧
      (transport.logged.stop w).2.connected = false := by
  cases disconnects : (transport.logged.disconnectNative w.connected w.native).1 with
  | ok value =>
      rw [stop_of_disconnected disconnects]
      exact ⟨Transport.stop_running, Transport.stop_connected⟩
  | error exc =>
      rw [stop_of_broken disconnects] at returned
      cases returned

end TcpTransport

/-! ### Runs of starts and stops -/

namespace AnyTransport

def logged : AnyTransport ω ε κ → AnyTransport (ω × List NativeCall) ε κ
  | .udp transport => .udp transport.logged
  | .tcp transport => .tcp transport.logged

def Repeats : AnyTransport ω ε κ → Prop
  | .udp transport => transport.Repeats
  | .tcp transport => transport.Repeats

def Settled : AnyTransport ω ε κ → LoggedWorld ω → Prop
  | .udp _, _ => True
  | .tcp transport, w => transport.Settled w

variable (transport : AnyTransport ω ε κ)

def step (w : LoggedWorld ω) : Lifecycle.Act → Option (LoggedWorld ω)
  | .start => some (transport.logged.start w).2
  | .stop => some (transport.logged.stop w).2

theorem step_start (w : LoggedWorld ω) :
    transport.step w .start = some (transport.logged.start w).2 := rfl

/-- A start of a running transport and a stop of a stopped one return, with nothing changed and
no native call made. -/
def Effectless (w : LoggedWorld ω) : Lifecycle.Act → Prop
  | .start => w.running = true → transport.logged.start w = (.ok (), w)
  | .stop => w.running = false → w.connected = false → transport.logged.stop w = (.ok (), w)

/-- No running transport is started that has native calls to make outside `super().start()`. -/
def Spared (w : LoggedWorld ω) (act : Lifecycle.Act) : Prop :=
  act = .start → w.running = true → ¬ transport.Repeats

variable {transport} {w : LoggedWorld ω}

theorem start_idle_iff (settled : transport.Settled w) (running : w.running = true) :
    transport.logged.start w = (.ok (), w) ↔ ¬ transport.Repeats := by
  cases transport with
  | udp transport => exact UdpTransport.start_idle_iff running
  | tcp transport => exact TcpTransport.start_idle_iff settled running

theorem stop_idle (stopped : w.running = false) (disconnected : w.connected = false) :
    transport.logged.stop w = (.ok (), w) := by
  cases transport with
  | udp transport => exact Transport.stop_of_stopped stopped
  | tcp transport => exact TcpTransport.stop_idle stopped disconnected

theorem effectless_iff_spared (settled : transport.Settled w) (act : Lifecycle.Act) :
    transport.Effectless w act ↔ transport.Spared w act := by
  cases act with
  | start =>
      constructor
      · intro idle _ running
        exact (start_idle_iff settled running).mp (idle running)
      · intro spared running
        exact (start_idle_iff settled running).mpr (spared rfl running)
  | stop => exact iff_of_true stop_idle nofun

theorem settled_step {u : LoggedWorld ω} {act : Lifecycle.Act}
    (stepped : transport.step w act = some u) : transport.Settled u := by
  cases transport with
  | udp transport => trivial
  | tcp transport =>
      cases act with
      | start =>
          obtain rfl := Option.some.inj stepped
          exact TcpTransport.settled_start transport w
      | stop =>
          obtain rfl := Option.some.inj stepped
          exact TcpTransport.settled_stop transport w

theorem settled_fresh (transport : AnyTransport ω ε κ) (pair : ω × List NativeCall) :
    transport.Settled { native := pair } := by
  cases transport with
  | udp transport => trivial
  | tcp transport => exact fun _ running => nomatch running

theorem start_start_iff (settled : transport.Settled (transport.logged.start w).2) :
    (transport.logged.start >>= fun _ => transport.logged.start) w = transport.logged.start w ↔
      ((transport.logged.start w).1 = .ok () → ¬ transport.Repeats) := by
  cases ran : transport.logged.start w with
  | mk result u =>
      rw [ran] at settled
      cases result with
      | error exc =>
          rw [bind_of_error ran]
          exact iff_of_true rfl nofun
      | ok value =>
          have running : u.running = true := by
            have started := start_running_of_ok (congrArg Prod.fst ran)
            rw [ran] at started
            exact started
          rw [bind_of_ok ran, start_idle_iff settled running]
          exact ⟨fun quiet _ => quiet, fun quiet => quiet rfl⟩

/-- A stop that returned has left nothing to stop. -/
theorem stop_idle_of_stopped {u : LoggedWorld ω} (stopped : transport.logged.stop w = (.ok (), u)) :
    transport.logged.stop u = (.ok (), u) := by
  cases transport with
  | udp transport =>
      have still : (transport.logged.super.stop w).2.running = false := Transport.stop_running
      rw [show transport.logged.super.stop w = (.ok (), u) from stopped] at still
      exact Transport.stop_of_stopped still
  | tcp transport =>
      have same : transport.logged.stop w = (.ok (), u) := stopped
      have still := TcpTransport.stop_stopped_of_ok (congrArg Prod.fst same)
      rw [same] at still
      exact TcpTransport.stop_idle still.1 still.2

theorem stop_stop (transport : AnyTransport ω ε κ) (w : LoggedWorld ω) :
    (transport.logged.stop >>= fun _ => transport.logged.stop) w = transport.logged.stop w := by
  cases ran : transport.logged.stop w with
  | mk result u =>
      cases result with
      | error exc => rw [bind_of_error ran]
      | ok value => rw [bind_of_ok ran, stop_idle_of_stopped ran]

/-- The starts and stops of a run are without effect where there is nothing to start or to stop,
exactly if none of the starts repeats native calls. A second start, right behind one that
returned, is no different; a second stop never has an effect. -/
theorem start_stop_effectless_iff (transport : AnyTransport ω ε κ) (s : ω)
    (acts : List Lifecycle.Act) :
    (Transition.Along transport.step transport.Effectless { native := (s, []) } acts ↔
      Transition.Along transport.step transport.Spared { native := (s, []) } acts) ∧
    ∀ w : LoggedWorld ω,
      ((transport.logged.start >>= fun _ => transport.logged.start) w = transport.logged.start w ↔
        ((transport.logged.start w).1 = .ok () → ¬ transport.Repeats)) ∧
      (transport.logged.stop >>= fun _ => transport.logged.stop) w = transport.logged.stop w := by
  constructor
  · apply Transition.along_congr
    · intro w act settled
      exact effectless_iff_spared settled act
    · intro w act u _ _ stepped
      exact settled_step stepped
    · exact settled_fresh transport (s, [])
  · intro w
    have settled : transport.Settled (transport.logged.start w).2 :=
      settled_step (transport.step_start w)
    exact ⟨start_start_iff settled, stop_stop transport w⟩

/-- A native UDP transport whose calls return. -/
def plainUdp : NativeUdpTransport Unit Unit Unit where
  toCppEndpoint _ := pure ()
  toCppMessage _ := pure ()
  start := pure (some "SUCCESS")
  stop := pure ()
  sendMessage _ _ := pure ()
  joinMulticastGroup _ := pure ()

def plainTcp : NativeTcpTransport Unit Unit Unit where
  toNativeTransport := plainUdp.toNativeTransport
  initializeTransport _ := pure ()
  connect _ := pure ()
  disconnect := pure ()

/-- Two starts join the multicast group twice, or initialize and connect the socket twice. -/
theorem second_start_repeats_native_calls :
    let udp : AnyTransport Unit Unit Unit := .udp
      { localEndpoint := ⟨"0.0.0.0", 30490⟩, multicastGroup := some "239.1.1.1", cpp := some plainUdp }
    let tcp : AnyTransport Unit Unit Unit := .tcp
      { localEndpoint := ⟨"0.0.0.0", 0⟩, remoteEndpoint := some ⟨"192.168.1.1", 30490⟩,
        cpp := some plainTcp }
    (∃ w, Transition.run udp.step { native := ((), []) } [.start, .start] = some w ∧
      w.native.2 = [.start, .joinMulticastGroup, .joinMulticastGroup]) ∧
    (∃ w, Transition.run tcp.step { native := ((), []) } [.start, .start] = some w ∧
      w.native.2 = [.toCppEndpoint, .initializeTransport, .start, .toCppEndpoint, .connect,
        .toCppEndpoint, .initializeTransport, .toCppEndpoint, .connect]) ∧
    ¬ Transition.Along tcp.step tcp.Effectless { native := ((), []) } [.start, .start] := by
  intro udp tcp
  refine ⟨⟨_, rfl, rfl⟩, ⟨_, rfl, rfl⟩, ?_⟩
  intro effectless
  have second := (effectless.2 _ rfl).1 rfl
  exact absurd (congrArg (fun outcome => outcome.2.native.2.length) second) (by decide)

end AnyTransport

end OpenSomeIp
