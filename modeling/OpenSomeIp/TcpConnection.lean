import OpenSomeIp.Lib.Keeping
import OpenSomeIp.Lib.Transition
import OpenSomeIp.TransportKinds

set_option autoImplicit false

namespace OpenSomeIp

open Method

/-- The native TCP transport with the result of `connect`, by its `name`, or `none` where that
has no such attribute. -/
structure NativeTcpLink (ω ε κ : Type) extends NativeTransport ω ε κ where
  initializeTransport : ε → Method Exn ω Unit
  connect : ε → Method Exn ω (Option String)
  disconnect : Method Exn ω Unit

/-- What tells on the connection to the remote endpoint. -/
inductive LinkEvent where
  | connected (succeeded : Bool)
  | disconnected
  | stopped
  | lost
  | established
  deriving DecidableEq, Repr

namespace LinkEvent

/-- Whether the connection is up after the event. The listener hears of an established
connection beside the result of `connect`, which alone counts here. -/
def after (linked : Bool) : LinkEvent → Bool
  | .connected succeeded => succeeded
  | .disconnected => false
  | .stopped => false
  | .lost => false
  | .established => linked

/-- The last native connect succeeded, and since then nothing ended the connection. -/
def linked (log : List LinkEvent) : Bool := log.foldl after false

@[simp] theorem linked_snoc (log : List LinkEvent) (event : LinkEvent) :
    linked (log ++ [event]) = after (linked log) event := by
  simp only [linked, List.foldl_append, List.foldl_cons, List.foldl_nil]

end LinkEvent

variable {ω ε κ : Type}

namespace NativeTcpLink

/-- Neither an exception nor a result other than SUCCESS. -/
def succeeded : Except Exn (Option String) → Bool
  | .ok none => true
  | .ok (some name) => name == "SUCCESS"
  | .error _ => false

variable (cpp : NativeTcpLink ω ε κ)

def connectWatched (cppEp : ε) : Method Exn (ω × List LinkEvent) Unit := fun pair =>
  ((cpp.connect cppEp pair.1).1.map fun _ => (),
    ((cpp.connect cppEp pair.1).2,
      pair.2 ++ [.connected (succeeded (cpp.connect cppEp pair.1).1)]))

def disconnectWatched : Method Exn (ω × List LinkEvent) Unit := fun pair =>
  ((cpp.disconnect pair.1).1, ((cpp.disconnect pair.1).2, pair.2 ++ [.disconnected]))

/-- The native transport as `TcpTransport` uses it, with a log beside it. -/
def watched : NativeTcpTransport (ω × List LinkEvent) ε κ where
  toCppEndpoint endpoint := beside (cpp.toCppEndpoint endpoint)
  toCppMessage message := beside (cpp.toCppMessage message)
  start := beside cpp.start
  stop := beside cpp.stop
  sendMessage cppMsg cppEp := beside (cpp.sendMessage cppMsg cppEp)
  initializeTransport cppEp := beside (cpp.initializeTransport cppEp)
  connect := cpp.connectWatched
  disconnect := cpp.disconnectWatched

end NativeTcpLink

/-! ### The transport under its calls and its listener -/

inductive TcpAction where
  | start
  | connect
  | stop
  | onConnectionLost
  | onConnectionEstablished
  deriving DecidableEq, Repr

abbrev LinkWorld (ω : Type) := TransportWorld (ω × List LinkEvent)

namespace TcpConnection

def note (event : LinkEvent) (w : LinkWorld ω) : LinkWorld ω :=
  { w with native := (w.native.1, w.native.2 ++ [event]) }

variable (cpp : NativeTcpLink ω ε κ) (localEndpoint : Endpoint) (remoteEndpoint : Option Endpoint)

def transport : TcpTransport (ω × List LinkEvent) ε κ where
  localEndpoint := localEndpoint
  remoteEndpoint := remoteEndpoint
  cpp := some cpp.watched

/-- The listener methods for the connection are `pass`. -/
def call : TcpAction → LinkWorld ω → LinkWorld ω
  | .start, w => ((transport cpp localEndpoint remoteEndpoint).start w).2
  | .connect, w => ((transport cpp localEndpoint remoteEndpoint).connect w).2
  | .stop, w => ((transport cpp localEndpoint remoteEndpoint).stop (note .stopped w)).2
  | .onConnectionLost, w => note .lost w
  | .onConnectionEstablished, w => note .established w

def step (w : LinkWorld ω) (action : TcpAction) : Option (LinkWorld ω) :=
  some (call cpp localEndpoint remoteEndpoint action w)

/-- `is_connected` is true of a connection that is up only. -/
def Truthful (w : LinkWorld ω) : Prop := w.connected = true → LinkEvent.linked w.native.2 = true

/-- What `start` does before it connects. -/
def beginStart : Method Exn (LinkWorld ω) Unit := do
  Transport.onNative (transport cpp localEndpoint remoteEndpoint).prepareNative
  (transport cpp localEndpoint remoteEndpoint).super.start

/-- The world in which the action starts to connect, if it gets there. -/
def beforeConnect (w : LinkWorld ω) : TcpAction → Option (LinkWorld ω)
  | .start =>
      match beginStart cpp localEndpoint remoteEndpoint w with
      | (.ok _, t) => some t
      | (.error _, _) => none
  | .connect => some w
  | _ => none

/-- A native connect that is reached succeeds, or breaks the call off with a `BaseException`
while the transport does not count as connected. -/
def Connects (remote : Endpoint) (w : LinkWorld ω) : Prop :=
  ∀ cppEp s, cpp.toCppEndpoint remote w.native.1 = (.ok cppEp, s) →
    NativeTcpLink.succeeded (cpp.connect cppEp s).1 = true ∨
      w.connected = false ∧ ∃ exc, (cpp.connect cppEp s).1 = .error exc ∧ exc.isException = false

/-- The connection is not lost while the transport counts as connected, and every connect that
an action reaches succeeds. -/
def Allowed (w : LinkWorld ω) (action : TcpAction) : Prop :=
  (action = .onConnectionLost → w.connected = false) ∧
    ∀ t, beforeConnect cpp localEndpoint remoteEndpoint w action = some t →
      ∀ remote, remoteEndpoint = some remote → Connects cpp remote t

variable {cpp} {w : LinkWorld ω}

/-! ### Connecting -/

/-- The call of the native connect, with its outcome in the log. -/
theorem connectNative_reached {remote : Endpoint} {cppEp : ε} {s : ω}
    (reached : cpp.toCppEndpoint remote w.native.1 = (.ok cppEp, s)) :
    ∃ result, (transport cpp localEndpoint remoteEndpoint).connectNative remote w.native =
        (result, ((cpp.connect cppEp s).2,
          w.native.2 ++ [.connected (NativeTcpLink.succeeded (cpp.connect cppEp s).1)])) ∧
      ((∃ exc, result = .error exc) ↔
        ∃ exc, (cpp.connect cppEp s).1 = .error exc ∧ exc.isException = false) := by
  have converted : cpp.watched.toCppEndpoint remote w.native = (.ok cppEp, (s, w.native.2)) := by
    simp only [NativeTcpLink.watched, beside, zoom_apply, reached]
  simp only [transport, TcpTransport.connectNative]
  rw [bind_of_ok converted]
  cases ran : cpp.connect cppEp s with
  | mk outcome after =>
      cases outcome with
      | ok name =>
          have returned : cpp.watched.connect cppEp (s, w.native.2) =
              (.ok (), (after, w.native.2 ++ [.connected (NativeTcpLink.succeeded (.ok name))])) := by
            simp only [NativeTcpLink.watched, NativeTcpLink.connectWatched, ran, Except.map]
          refine ⟨.ok (), ?_, by simp⟩
          rw [RpcClient.suppress, tryExcept_of_ok returned]
      | error exc =>
          have raised : cpp.watched.connect cppEp (s, w.native.2) =
              (.error exc, (after, w.native.2 ++ [.connected false])) := by
            simp only [NativeTcpLink.watched, NativeTcpLink.connectWatched, ran, Except.map,
              NativeTcpLink.succeeded]
          rw [RpcClient.suppress, tryExcept_of_error raised]
          cases caught : exc.isException with
          | true => exact ⟨.ok (), by simp [NativeTcpLink.succeeded], by simp [caught]⟩
          | false => exact ⟨.error exc, by simp [NativeTcpLink.succeeded], by simp [caught]⟩

theorem connectNative_unreached {remote : Endpoint} {exc : Exn}
    (raised : (cpp.toCppEndpoint remote w.native.1).1 = .error exc) :
    ∃ s, (transport cpp localEndpoint remoteEndpoint).connectNative remote w.native =
      (.error exc, (s, w.native.2)) := by
  have unconverted : cpp.watched.toCppEndpoint remote w.native =
      (.error exc, ((cpp.toCppEndpoint remote w.native.1).2, w.native.2)) := by
    simp only [NativeTcpLink.watched, beside, zoom_apply, raised]
  refine ⟨(cpp.toCppEndpoint remote w.native.1).2, ?_⟩
  simp only [transport, TcpTransport.connectNative]
  rw [bind_of_error unconverted]

variable {remoteEndpoint}

/-- Connecting from a truthful world leads to a truthful one exactly when a native connect that
it reaches succeeds. -/
theorem connect_truthful_iff {remote : Endpoint} (configured : remoteEndpoint = some remote)
    (truthful : Truthful w) :
    Truthful ((transport cpp localEndpoint remoteEndpoint).connect w).2 ↔ Connects cpp remote w := by
  have opened : (transport cpp localEndpoint remoteEndpoint).connect w =
      (Transport.onNative ((transport cpp localEndpoint remoteEndpoint).connectNative remote) >>=
        fun _ => Method.modify fun self => { self with connected := true }) w := by
    simp only [TcpTransport.connect, transport, configured]
  cases converted : cpp.toCppEndpoint remote w.native.1 with
  | mk conversion s =>
      cases conversion with
      | error exc =>
          have raised : (cpp.toCppEndpoint remote w.native.1).1 = .error exc := by rw [converted]
          obtain ⟨after, ran⟩ := connectNative_unreached localEndpoint remoteEndpoint raised
          have broken : Transport.onNative
              ((transport cpp localEndpoint remoteEndpoint).connectNative remote) w =
                (.error exc, { w with native := (after, w.native.2) }) := by
            rw [Transport.onNative_apply, ran]
          rw [opened, bind_of_error broken]
          apply iff_of_true truthful
          intro cppEp t reached
          rw [converted] at reached
          cases reached
      | ok cppEp =>
          obtain ⟨result, ran, escaped⟩ := connectNative_reached localEndpoint remoteEndpoint
            converted
          have connects : Connects cpp remote w ↔
              NativeTcpLink.succeeded (cpp.connect cppEp s).1 = true ∨
                w.connected = false ∧ ∃ exc, result = .error exc := by
            rw [escaped]
            constructor
            · intro all
              exact all cppEp s converted
            · intro one other t reached
              rw [converted] at reached
              cases reached
              exact one
          cases result with
          | ok value =>
              have passed : Transport.onNative
                  ((transport cpp localEndpoint remoteEndpoint).connectNative remote) w =
                    (.ok value, { w with native := ((cpp.connect cppEp s).2, w.native.2 ++
                      [.connected (NativeTcpLink.succeeded (cpp.connect cppEp s).1)]) }) := by
                rw [Transport.onNative_apply, ran]
              rw [opened, bind_of_ok passed, modify_apply, connects, Truthful,
                LinkEvent.linked_snoc]
              simp [LinkEvent.after]
          | error exc =>
              have broken : Transport.onNative
                  ((transport cpp localEndpoint remoteEndpoint).connectNative remote) w =
                    (.error exc, { w with native := ((cpp.connect cppEp s).2, w.native.2 ++
                      [.connected (NativeTcpLink.succeeded (cpp.connect cppEp s).1)]) }) := by
                rw [Transport.onNative_apply, ran]
              rw [opened, bind_of_error broken, connects, Truthful, LinkEvent.linked_snoc]
              cases w.connected <;> simp [LinkEvent.after]

/-- Without a remote endpoint `connect` raises, and `start` does not call it. -/
theorem connect_of_none (w : LinkWorld ω) :
    ((transport cpp localEndpoint none).connect w).2 = w := rfl

theorem connected_iff (truthful : Truthful w) :
    Truthful ((transport cpp localEndpoint remoteEndpoint).connect w).2 ↔
      ∀ remote, remoteEndpoint = some remote → Connects cpp remote w := by
  cases remoteEndpoint with
  | none =>
      rw [connect_of_none]
      exact iff_of_true truthful fun remote absent => nomatch absent
  | some remote =>
      rw [connect_truthful_iff localEndpoint rfl truthful]
      simp only [Option.some.injEq, forall_eq']

/-! ### The other actions -/

variable {localEndpoint}

/-- Neither the flag nor the log of the connection is touched. -/
def Unlinked (connected : Bool) (log : List LinkEvent) (w : LinkWorld ω) : Prop :=
  w.connected = connected ∧ w.native.2 = log

theorem onNative_unlinked {α : Type} {connected : Bool} {log : List LinkEvent}
    {body : Method Exn (ω × List LinkEvent) α} (keeps : Keeps (fun pair => pair.2 = log) body) :
    Keeps (Unlinked connected log) (Transport.onNative body) := by
  intro w before
  exact ⟨before.1, keeps w.native before.2⟩

theorem prepareNative_keeps (log : List LinkEvent) :
    Keeps (fun pair => pair.2 = log)
      (transport cpp localEndpoint remoteEndpoint).prepareNative := by
  apply Keeps.bind (beside_keeps (cpp.toCppEndpoint localEndpoint) log)
  intro cppLocal
  apply Keeps.tryExcept (beside_keeps (cpp.initializeTransport cppLocal) log)
  intro exc
  split
  · exact Keeps.pure ()
  · exact Keeps.raise exc

theorem startNative_keeps (log : List LinkEvent) :
    Keeps (fun pair => pair.2 = log)
      (Transport.startNative cpp.watched.toNativeTransport) := by
  apply Keeps.tryExcept
  · exact (beside_keeps cpp.start log).bind fun result => Keeps.lift _
  · intro exc
    split
    · exact Keeps.raise exc
    · split
      · exact Keeps.pure ()
      · exact Keeps.raise exc

theorem beginStart_keeps (connected : Bool) (log : List LinkEvent) :
    Keeps (Unlinked connected log) (beginStart cpp localEndpoint remoteEndpoint) := by
  apply (onNative_unlinked (prepareNative_keeps log)).bind
  intro prepared w before
  cases running : w.running with
  | true =>
      rw [Transport.start_of_running running]
      exact before
  | false =>
      have started : Keeps (Unlinked connected log)
          (Transport.onNative (Transport.startNative cpp.watched.toNativeTransport) >>= fun _ =>
            Method.modify fun self => { self with running := true }) :=
        (onNative_unlinked (startNative_keeps log)).bind fun _ _ before => before
      have same : (transport cpp localEndpoint remoteEndpoint).super.start w =
          (Transport.onNative (Transport.startNative cpp.watched.toNativeTransport) >>= fun _ =>
            Method.modify fun self => { self with running := true }) w := by
        simp only [Transport.start, bind_apply, get_apply, running, Bool.false_eq_true, ↓reduceIte,
          TcpTransport.super, transport, Option.map_some]
      rw [same]
      exact started w before

/-- A start begins, and then connects where a remote endpoint is configured. -/
theorem start_eq (w : LinkWorld ω) :
    (transport cpp localEndpoint remoteEndpoint).start w =
      (beginStart cpp localEndpoint remoteEndpoint >>= fun _ =>
        if remoteEndpoint.isSome then (transport cpp localEndpoint remoteEndpoint).connect
        else pure ()) w := by
  rw [TcpTransport.start, beginStart, Method.bind_assoc]
  rfl

theorem stop_connected (w : LinkWorld ω) :
    ((transport cpp localEndpoint remoteEndpoint).stop w).2.connected = false := by
  cases disconnected : ((transport cpp localEndpoint remoteEndpoint).disconnectNative w.connected
      w.native).1 with
  | ok value =>
      have stopped : (transport cpp localEndpoint remoteEndpoint).stop w =
          (transport cpp localEndpoint remoteEndpoint).super.stop { w with
            native := ((transport cpp localEndpoint remoteEndpoint).disconnectNative w.connected
              w.native).2
            connected := false } := TcpTransport.stop_of_disconnected disconnected
      rw [stopped, Transport.stop_connected]
  | error exc => rw [TcpTransport.stop_of_broken disconnected]

variable (cpp localEndpoint remoteEndpoint)

theorem start_truthful_iff (truthful : Truthful w) :
    Truthful ((transport cpp localEndpoint remoteEndpoint).start w).2 ↔
      ∀ t, beforeConnect cpp localEndpoint remoteEndpoint w .start = some t →
        ∀ remote, remoteEndpoint = some remote → Connects cpp remote t := by
  have keeps : Keeps (Unlinked w.connected w.native.2)
      (beginStart cpp localEndpoint remoteEndpoint) := beginStart_keeps w.connected w.native.2
  obtain ⟨flag, log⟩ := keeps w ⟨rfl, rfl⟩
  rw [start_eq]
  cases began : beginStart cpp localEndpoint remoteEndpoint w with
  | mk result t =>
      rw [began] at flag log
      have still : Truthful t := by
        rw [Truthful, flag, log]
        exact truthful
      cases result with
      | error exc =>
          rw [bind_of_error began]
          apply iff_of_true still
          intro u reached
          simp only [beforeConnect, began, reduceCtorEq] at reached
      | ok value =>
          have reached : beforeConnect cpp localEndpoint remoteEndpoint w .start = some t := by
            simp only [beforeConnect, began]
          rw [bind_of_ok began]
          simp only [reached, Option.some.injEq, forall_eq']
          rw [← connected_iff localEndpoint still]
          cases remoteEndpoint with
          | none => exact Iff.rfl
          | some remote => exact Iff.rfl

/-- What an action does to a truthful flag. -/
theorem call_truthful_iff (truthful : Truthful w) (action : TcpAction) :
    Truthful (call cpp localEndpoint remoteEndpoint action w) ↔
      Allowed cpp localEndpoint remoteEndpoint w action := by
  cases action with
  | start =>
      rw [call, start_truthful_iff cpp localEndpoint remoteEndpoint truthful, Allowed]
      exact (and_iff_right fun other => nomatch other).symm
  | connect =>
      rw [call, connected_iff localEndpoint truthful]
      simp only [Allowed, reduceCtorEq, false_implies, true_and, beforeConnect, Option.some.injEq,
        forall_eq']
  | stop =>
      rw [call, Truthful, stop_connected]
      simp only [Bool.false_eq_true, false_implies, Allowed, reduceCtorEq, beforeConnect,
        implies_true, and_self]
  | onConnectionLost =>
      simp only [call, note, Truthful, LinkEvent.linked_snoc, LinkEvent.after, Allowed,
        beforeConnect, Bool.false_eq_true, imp_false, Bool.not_eq_true, forall_const,
        reduceCtorEq, false_implies, implies_true, and_true]
  | onConnectionEstablished =>
      have same : LinkEvent.linked (note .established w).native.2 =
          LinkEvent.linked w.native.2 := LinkEvent.linked_snoc _ _
      apply iff_of_true
      · rw [call, Truthful, same]
        exact truthful
      · exact ⟨fun other => (nomatch other), fun t reached => (nomatch reached)⟩

/-- In a run of calls and of listener callbacks, `is_connected` tells the truth in every state
passed through exactly when no connection is lost under the flag and no connect fails. -/
theorem is_connected_truthful_iff (native : ω) (receiver : UnboundedReceiver Message)
    (actions : List TcpAction) :
    Transition.Along (step cpp localEndpoint remoteEndpoint)
        (Allowed cpp localEndpoint remoteEndpoint)
        { native := (native, []), receiver := receiver } actions ↔
      ∀ front, front <+: actions →
        ∀ t, Transition.run (step cpp localEndpoint remoteEndpoint)
            { native := (native, []), receiver := receiver } front = some t →
          t.connected = true → LinkEvent.linked t.native.2 = true := by
  have fresh : Truthful ({ native := (native, []), receiver := receiver } : LinkWorld ω) :=
    fun connected => absurd connected Bool.false_ne_true
  have exactly (w : LinkWorld ω) (action : TcpAction) (truthful : Truthful w) :
      Truthful (call cpp localEndpoint remoteEndpoint action w) ↔
        Allowed cpp localEndpoint remoteEndpoint w action :=
    call_truthful_iff cpp localEndpoint remoteEndpoint truthful action
  exact Transition.along_iff_always_call exactly fresh actions

end TcpConnection

/-- A native transport that comes up and cannot connect. -/
def refusingTcp : NativeTcpLink Unit Unit Unit where
  toCppEndpoint _ := pure ()
  toCppMessage _ := pure ()
  start := pure none
  stop := pure ()
  sendMessage _ _ := pure ()
  initializeTransport _ := pure ()
  connect _ := pure (some "CONNECTION_FAILED")
  disconnect := pure ()

theorem TcpConnection.refused_connect_counts :
    ∃ t, Transition.run
        (step refusingTcp { ip := "127.0.0.1", port := 1 } (some { ip := "127.0.0.1", port := 2 }))
        { native := ((), []) } [.start] = some t ∧
      t.connected = true ∧ LinkEvent.linked t.native.2 = false :=
  ⟨_, rfl, rfl, rfl⟩

end OpenSomeIp
