import OpenSomeIp.Transport

set_option autoImplicit false

namespace OpenSomeIp

namespace UdpTransport

variable {ω ε κ : Type} {transport : UdpTransport ω ε κ} {w : TransportWorld ω}

theorem start_of_running (running : w.running = true) :
    transport.start w = ((transport.joinNative w.native).1,
      { w with native := (transport.joinNative w.native).2 }) := by
  rw [start, Method.bind_of_ok (Transport.start_of_running running), Transport.onNative_apply]

/-- The group is joined when the transport counts as running already. -/
theorem start_of_up (stopped : w.running = false) (up : transport.super.ComesUp w.native) :
    transport.start w = ((transport.joinNative (transport.super.started w.native)).1,
      { w with
        native := (transport.joinNative (transport.super.started w.native)).2
        running := true }) := by
  rw [start, Method.bind_of_ok (Transport.start_of_up stopped up), Transport.onNative_apply]

theorem start_of_down (stopped : w.running = false) (down : ¬ transport.super.ComesUp w.native) :
    ∃ native exc, transport.start w = (.error exc, { w with native := native }) := by
  obtain ⟨exc, raised⟩ := Transport.start_of_down stopped down
  refine ⟨transport.super.started w.native, exc, ?_⟩
  rw [start, Method.bind_of_error raised]

end UdpTransport

namespace TcpTransport

variable {ω ε κ : Type} {transport : TcpTransport ω ε κ} {w : TransportWorld ω}

/-- What `start` does behind `super().start()`. -/
def connectIf (transport : TcpTransport ω ε κ) : Method Exn (TransportWorld ω) Unit :=
  if transport.remoteEndpoint.isSome then transport.connect else pure ()

/-- The native calls that `start` makes behind `super().start()` raise. -/
def ConnectRaises (transport : TcpTransport ω ε κ) (s : ω) : Prop :=
  ∃ remote exc, transport.remoteEndpoint = some remote ∧
    (transport.connectNative remote s).1 = .error exc

theorem connectIf_of_raised (raises : transport.ConnectRaises w.native) :
    ∃ native exc, transport.connectIf w = (.error exc, { w with native := native }) := by
  obtain ⟨remote, exc, configured, raised⟩ := raises
  refine ⟨(transport.connectNative remote w.native).2, exc, ?_⟩
  have zoomed : Transport.onNative (transport.connectNative remote) w =
      (.error exc, { w with native := (transport.connectNative remote w.native).2 }) := by
    rw [Transport.onNative_apply, raised]
  simp only [connectIf, connect, configured, Option.isSome_some, ↓reduceIte]
  rw [Method.bind_of_error zoomed]

theorem connectIf_of_fine (fine : ¬ transport.ConnectRaises w.native) :
    ∃ native, transport.connectIf w = (.ok (), { w with
      native := native, connected := transport.remoteEndpoint.isSome || w.connected }) := by
  cases configured : transport.remoteEndpoint with
  | none =>
      refine ⟨w.native, ?_⟩
      simp only [connectIf, configured, Option.isSome_none, Bool.false_eq_true, ↓reduceIte,
        Bool.false_or]
      rfl
  | some remote =>
      cases ran : transport.connectNative remote w.native with
      | mk result native =>
          cases result with
          | error exc =>
              apply absurd _ fine
              exact ⟨remote, exc, configured, by rw [ran]⟩
          | ok value =>
              refine ⟨native, ?_⟩
              simp only [connectIf, connect, configured, Option.isSome_some, ↓reduceIte,
                Method.bind_apply, Transport.onNative_apply, ran, Method.modify_apply, Bool.true_or]

theorem connectIf_frame :
    (transport.connectIf w).2.receiver = w.receiver ∧
      (transport.connectIf w).2.running = w.running := by
  by_cases raises : transport.ConnectRaises w.native
  · obtain ⟨native, exc, ran⟩ := connectIf_of_raised raises
    rw [ran]
    exact ⟨rfl, rfl⟩
  · obtain ⟨native, ran⟩ := connectIf_of_fine raises
    rw [ran]
    exact ⟨rfl, rfl⟩

/-- The native transport comes up behind the native calls made before it. -/
def ComesUp (transport : TcpTransport ω ε κ) (s : ω) : Prop :=
  (transport.prepareNative s).1 = .ok () ∧
    transport.super.ComesUp (transport.prepareNative s).2

/-- The native transport when it has come up. -/
def started (transport : TcpTransport ω ε κ) (s : ω) : ω :=
  transport.super.started (transport.prepareNative s).2

theorem start_of_prepared (prepared : (transport.prepareNative w.native).1 = .ok ()) :
    transport.start w = (transport.super.start >>= fun _ => transport.connectIf)
      { w with native := (transport.prepareNative w.native).2 } := by
  have zoomed : Transport.onNative transport.prepareNative w =
      (.ok (), { w with native := (transport.prepareNative w.native).2 }) := by
    rw [Transport.onNative_apply, prepared]
  rw [start, Method.bind_of_ok zoomed]
  rfl

theorem start_of_unprepared {exc : Exn}
    (raised : (transport.prepareNative w.native).1 = .error exc) :
    transport.start w = (.error exc, { w with native := (transport.prepareNative w.native).2 }) := by
  have zoomed : Transport.onNative transport.prepareNative w =
      (.error exc, { w with native := (transport.prepareNative w.native).2 }) := by
    rw [Transport.onNative_apply, raised]
  rw [start, Method.bind_of_error zoomed]

theorem start_of_up (stopped : w.running = false) (up : transport.ComesUp w.native) :
    transport.start w = transport.connectIf
      { w with native := transport.started w.native, running := true } := by
  have base := Transport.start_of_up
    (w := { w with native := (transport.prepareNative w.native).2 }) stopped up.2
  rw [start_of_prepared up.1, Method.bind_of_ok base]
  rfl

theorem start_of_down (stopped : w.running = false) (down : ¬ transport.ComesUp w.native) :
    ∃ native exc, transport.start w = (.error exc, { w with native := native }) := by
  cases prepared : (transport.prepareNative w.native).1 with
  | error exc => exact ⟨_, exc, start_of_unprepared prepared⟩
  | ok value =>
      have base : ¬ transport.super.ComesUp (transport.prepareNative w.native).2 :=
        fun up => down ⟨prepared, up⟩
      obtain ⟨exc, raised⟩ := Transport.start_of_down
        (w := { w with native := (transport.prepareNative w.native).2 }) stopped base
      refine ⟨transport.started w.native, exc, ?_⟩
      rw [start_of_prepared prepared, Method.bind_of_error raised]
      rfl

/-- A second start goes through the native calls again, but for the native `start`. -/
theorem start_of_running (running : w.running = true) :
    (∃ native exc, transport.start w = (.error exc, { w with native := native })) ∨
      ∃ native, transport.start w = transport.connectIf { w with native := native } := by
  cases prepared : (transport.prepareNative w.native).1 with
  | error exc => exact .inl ⟨_, exc, start_of_unprepared prepared⟩
  | ok value =>
      refine .inr ⟨(transport.prepareNative w.native).2, ?_⟩
      have base : transport.super.start
          { w with native := (transport.prepareNative w.native).2 } = (.ok (), _) :=
        Transport.start_of_running running
      rw [start_of_prepared prepared, Method.bind_of_ok base]

/-- The native `disconnect`, when `stop` calls it, returns or raises an `Exception`. -/
def Disconnects (transport : TcpTransport ω ε κ) (w : TransportWorld ω) : Prop :=
  ∀ cpp exc, transport.cpp = some cpp → w.connected = true →
    (cpp.disconnect w.native).1 = .error exc → exc.isException = true

theorem disconnectNative_of_disconnects (quiet : transport.Disconnects w) :
    (transport.disconnectNative w.connected w.native).1 = .ok () := by
  cases present : transport.cpp with
  | none =>
      simp only [disconnectNative, present]
      rfl
  | some cpp =>
      cases connected : w.connected with
      | false =>
          simp only [disconnectNative, present]
          rfl
      | true =>
          simp only [disconnectNative, present]
          cases ran : cpp.disconnect w.native with
          | mk result native =>
              cases result with
              | ok value => rw [RpcClient.suppress, Method.tryExcept_of_ok ran]
              | error exc =>
                  have caught := quiet cpp exc present connected (by rw [ran])
                  rw [RpcClient.suppress, Method.tryExcept_of_error ran, if_pos caught]
                  rfl

theorem stop_of_disconnected
    (quiet : (transport.disconnectNative w.connected w.native).1 = .ok ()) :
    transport.stop w = transport.super.stop { w with
      native := (transport.disconnectNative w.connected w.native).2, connected := false } := by
  simp only [stop, Method.bind_apply, Method.get_apply, Method.modify_apply,
    Transport.onNative_apply, quiet]

theorem stop_of_broken {exc : Exn}
    (raised : (transport.disconnectNative w.connected w.native).1 = .error exc) :
    transport.stop w = (.error exc, { w with
      native := (transport.disconnectNative w.connected w.native).2, connected := false }) := by
  simp only [stop, Method.bind_apply, Method.get_apply, Method.modify_apply,
    Transport.onNative_apply, raised]

end TcpTransport

/-- The transport of a client or server. -/
inductive AnyTransport (ω ε κ : Type) where
  | udp (transport : UdpTransport ω ε κ)
  | tcp (transport : TcpTransport ω ε κ)

namespace AnyTransport

variable {ω ε κ : Type}

def start : AnyTransport ω ε κ → Method Exn (TransportWorld ω) Unit
  | .udp transport => transport.start
  | .tcp transport => transport.start

def stop : AnyTransport ω ε κ → Method Exn (TransportWorld ω) Unit
  | .udp transport => transport.stop
  | .tcp transport => transport.stop

/-- What the two inherit, their `send` among it. -/
def super : AnyTransport ω ε κ → Transport ω ε κ
  | .udp transport => transport.super
  | .tcp transport => transport.super

/-- Not running, and a TCP transport not connected. -/
def Stopped : AnyTransport ω ε κ → TransportWorld ω → Prop
  | .udp _, w => w.running = false
  | .tcp _, w => w.running = false ∧ w.connected = false

def ComesUp : AnyTransport ω ε κ → ω → Prop
  | .udp transport => transport.super.ComesUp
  | .tcp transport => transport.ComesUp

/-- What follows `super().start()` raises when that has made the transport run. -/
def FailsLate : AnyTransport ω ε κ → ω → Prop
  | .udp transport => fun s =>
      transport.super.ComesUp s ∧
        ∃ exc, (transport.joinNative (transport.super.started s)).1 = .error exc
  | .tcp transport => fun s =>
      transport.ComesUp s ∧ transport.ConnectRaises (transport.started s)

/-- The native `disconnect` raises nothing but `Exception`s. -/
def Disconnects : AnyTransport ω ε κ → TransportWorld ω → Prop
  | .udp _, _ => True
  | .tcp transport, w => transport.Disconnects w

variable {transport : AnyTransport ω ε κ} {w : TransportWorld ω}

/-- A start that raises with nothing but the native transport changed. -/
theorem frame_of_failed {up : Prop} {ran : Except Exn Unit × TransportWorld ω} {exc : Exn}
    {native : ω} (stopped : w.running = false) (down : ¬ up)
    (failed : ran = (.error exc, { w with native := native })) :
    ran.2.receiver = w.receiver ∧ (ran.2.running = true ↔ w.running = true ∨ up) := by
  rw [failed]
  refine ⟨rfl, iff_of_false ?_ ?_⟩
  · rw [stopped]
    exact Bool.false_ne_true
  · rintro (running | comesUp)
    · cases stopped.symm.trans running
    · exact down comesUp

/-- A start changes no receiver, and takes no transport out of the running state. -/
theorem start_frame :
    (transport.start w).2.receiver = w.receiver ∧
      ((transport.start w).2.running = true ↔ w.running = true ∨ transport.ComesUp w.native) := by
  cases transport with
  | udp transport =>
      cases running : w.running with
      | true =>
          rw [start, UdpTransport.start_of_running running]
          exact ⟨rfl, iff_of_true running (.inl rfl)⟩
      | false =>
          by_cases up : transport.super.ComesUp w.native
          · rw [start, UdpTransport.start_of_up running up]
            exact ⟨rfl, iff_of_true rfl (.inr up)⟩
          · obtain ⟨native, exc, ran⟩ := UdpTransport.start_of_down running up
            rw [← running]
            exact frame_of_failed running up ran
  | tcp transport =>
      cases running : w.running with
      | true =>
          have again : (∃ native exc, transport.start w = (.error exc, { w with native := native })) ∨
              ∃ native, transport.start w = transport.connectIf { w with native := native } :=
            TcpTransport.start_of_running running
          rcases again with ⟨native, exc, ran⟩ | ⟨native, ran⟩
          · rw [start, ran]
            exact ⟨rfl, iff_of_true running (.inl rfl)⟩
          · rw [start, ran, TcpTransport.connectIf_frame.1, TcpTransport.connectIf_frame.2]
            exact ⟨rfl, iff_of_true running (.inl rfl)⟩
      | false =>
          by_cases up : transport.ComesUp w.native
          · rw [start, TcpTransport.start_of_up running up, TcpTransport.connectIf_frame.1,
              TcpTransport.connectIf_frame.2]
            exact ⟨rfl, iff_of_true rfl (.inr up)⟩
          · obtain ⟨native, exc, ran⟩ := TcpTransport.start_of_down running up
            rw [← running]
            exact frame_of_failed running up ran

/-- A start that fails early has changed nothing but the native transport. -/
theorem start_of_down (stopped : w.running = false) (down : ¬ transport.ComesUp w.native) :
    ∃ native exc, transport.start w = (.error exc, { w with native := native }) := by
  cases transport with
  | udp transport => exact UdpTransport.start_of_down stopped down
  | tcp transport => exact TcpTransport.start_of_down stopped down

/-- A start that fails late leaves the transport running. -/
theorem start_of_late (stopped : w.running = false) (late : transport.FailsLate w.native) :
    (∃ exc, (transport.start w).1 = .error exc) ∧ (transport.start w).2.running = true := by
  cases transport with
  | udp transport =>
      obtain ⟨up, exc, raised⟩ := late
      rw [start, UdpTransport.start_of_up stopped up]
      exact ⟨⟨exc, raised⟩, rfl⟩
  | tcp transport =>
      obtain ⟨up, raises⟩ := late
      rw [start, TcpTransport.start_of_up stopped up]
      have raised : ∃ native exc, transport.connectIf
          { w with native := transport.started w.native, running := true } =
            (.error exc, { w with native := native, running := true }) :=
        TcpTransport.connectIf_of_raised raises
      obtain ⟨native, exc, ran⟩ := raised
      rw [ran]
      exact ⟨⟨exc, rfl⟩, rfl⟩

theorem start_of_fine (stopped : w.running = false) (up : transport.ComesUp w.native)
    (fine : ¬ transport.FailsLate w.native) : (transport.start w).1 = .ok () := by
  cases transport with
  | udp transport =>
      rw [start, UdpTransport.start_of_up stopped up]
      cases joined : (transport.joinNative (transport.super.started w.native)).1 with
      | ok value => rfl
      | error exc => exact absurd ⟨up, exc, joined⟩ fine
  | tcp transport =>
      rw [start, TcpTransport.start_of_up stopped up]
      have quiet : ¬ transport.ConnectRaises (transport.started w.native) :=
        fun raises => fine ⟨up, raises⟩
      have connects : ∃ native, transport.connectIf
          { w with native := transport.started w.native, running := true } = (.ok (), { w with
            native := native, running := true
            connected := transport.remoteEndpoint.isSome || w.connected }) :=
        TcpTransport.connectIf_of_fine quiet
      obtain ⟨native, ran⟩ := connects
      rw [ran]

theorem start_running_of_ok (returned : (transport.start w).1 = .ok ()) :
    (transport.start w).2.running = true := by
  apply start_frame.2.mpr
  by_cases running : w.running = true
  · exact .inl running
  · by_cases up : transport.ComesUp w.native
    · exact .inr up
    · obtain ⟨native, exc, ran⟩ := start_of_down (Bool.eq_false_iff.mpr running) up
      rw [ran] at returned
      cases returned

/-- Whether the native `stop` returns or raises, the transport is stopped afterwards. -/
theorem stop_stopped (disconnects : transport.Disconnects w) :
    transport.Stopped (transport.stop w).2 := by
  cases transport with
  | udp transport => exact Transport.stop_running
  | tcp transport =>
      have quiet := TcpTransport.disconnectNative_of_disconnects disconnects
      rw [stop, TcpTransport.stop_of_disconnected quiet]
      exact ⟨Transport.stop_running, Transport.stop_connected⟩

theorem running_of_stopped (stopped : transport.Stopped w) : w.running = false := by
  cases transport with
  | udp transport => exact stopped
  | tcp transport => exact stopped.1

theorem stopped_of_native {native : ω} (stopped : transport.Stopped w) :
    transport.Stopped { w with native := native } := by
  cases transport with
  | udp transport => exact stopped
  | tcp transport => exact stopped

end AnyTransport

end OpenSomeIp
