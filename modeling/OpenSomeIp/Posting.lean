import OpenSomeIp.Conversions
import OpenSomeIp.TransportIdempotence

set_option autoImplicit false

namespace OpenSomeIp

open Method

/-! ### What a native transport puts on the network -/

/-- Posts nothing, however it ends. -/
def Quiet {ω μ α : Type} (outbox : ω → List μ) (body : Method Exn ω α) : Prop :=
  ∀ posted, Keeps (fun s => outbox s = posted) body

/-- A message for the network and where it goes. -/
abbrev Parcel := CppMessage × CppEndpoint

variable {ω : Type}

/-- The extension with its bindings: `send_message` posts the message, or raises or returns a
result that nobody looks at and posts nothing; no other call posts anything. -/
structure NativeTransport.Posts (cpp : NativeTransport ω CppEndpoint CppMessage)
    (outbox : ω → List Parcel) : Prop where
  toCppEndpoint : ∀ ep, cpp.toCppEndpoint ep = pure (OpenSomeIp.toCppEndpoint ep)
  toCppMessage : ∀ msg, cpp.toCppMessage msg = pure (OpenSomeIp.toCppMessage msg)
  start : Quiet outbox cpp.start
  stop : Quiet outbox cpp.stop
  sendMessage : ∀ cppMsg cppEp s,
    outbox (cpp.sendMessage cppMsg cppEp s).2 = outbox s ∨
      (cpp.sendMessage cppMsg cppEp s).1 = .ok () ∧
        outbox (cpp.sendMessage cppMsg cppEp s).2 = outbox s ++ [(cppMsg, cppEp)]

structure NativeUdpTransport.Posts (cpp : NativeUdpTransport ω CppEndpoint CppMessage)
    (outbox : ω → List Parcel) : Prop where
  super : cpp.toNativeTransport.Posts outbox
  joinMulticastGroup : ∀ group, Quiet outbox (cpp.joinMulticastGroup group)

structure NativeTcpTransport.Posts (cpp : NativeTcpTransport ω CppEndpoint CppMessage)
    (outbox : ω → List Parcel) : Prop where
  super : cpp.toNativeTransport.Posts outbox
  initializeTransport : ∀ cppEp, Quiet outbox (cpp.initializeTransport cppEp)
  connect : ∀ cppEp, Quiet outbox (cpp.connect cppEp)
  disconnect : Quiet outbox cpp.disconnect

def AnyTransport.Posts (outbox : ω → List Parcel) :
    AnyTransport ω CppEndpoint CppMessage → Prop
  | .udp transport => ∀ cpp, transport.cpp = some cpp → cpp.Posts outbox
  | .tcp transport => ∀ cpp, transport.cpp = some cpp → cpp.Posts outbox

section Quiet

variable {outbox : ω → List Parcel}

theorem quiet_suppress {body : Method Exn ω Unit} (quiet : Quiet outbox body) :
    Quiet outbox (RpcClient.suppress body) := fun posted => suppress_keeps (quiet posted)

/-- What is quiet on the native transport is quiet as a method of the Python one. -/
theorem quiet_onNative {α : Type} {body : Method Exn ω α} (quiet : Quiet outbox body) :
    Quiet (fun w : TransportWorld ω => outbox w.native) (Transport.onNative body) := by
  intro posted
  exact Keeps.zoom (quiet posted) (fun _ before => before) fun _ _ _ after => after

theorem Transport.quiet_start {transport : Transport ω CppEndpoint CppMessage}
    (posts : ∀ cpp, transport.cpp = some cpp → cpp.Posts outbox) :
    Quiet (fun w : TransportWorld ω => outbox w.native) transport.start := by
  intro posted
  have flag : Keeps (fun w : TransportWorld ω => outbox w.native = posted)
      (modify fun self => { self with running := true } : Method Exn (TransportWorld ω) Unit) :=
    fun _ before => before
  rw [Transport.start]
  refine Keeps.bind (fun _ before => before) ?_
  intro self
  split
  · exact Keeps.pure ()
  · cases present : transport.cpp with
    | none => exact Keeps.bind (Keeps.pure ()) fun _ => flag
    | some cpp =>
        refine Keeps.bind (quiet_onNative ?_ posted) fun _ => flag
        intro posted
        apply Keeps.tryExcept
        · exact ((posts cpp present).start posted).bind fun _ => Keeps.lift _
        · intro exc
          split
          · exact Keeps.raise exc
          · split
            · exact Keeps.pure ()
            · exact Keeps.raise exc

theorem Transport.quiet_stop {transport : Transport ω CppEndpoint CppMessage}
    (posts : ∀ cpp, transport.cpp = some cpp → cpp.Posts outbox) :
    Quiet (fun w : TransportWorld ω => outbox w.native) transport.stop := by
  intro posted
  have closes : Keeps (fun w : TransportWorld ω => outbox w.native = posted)
      (modify fun self => { self with receiver := self.receiver.close } :
        Method Exn (TransportWorld ω) Unit) := fun _ before => before
  rw [Transport.stop]
  refine Keeps.bind (fun _ before => before) ?_
  intro self
  split
  · exact Keeps.pure ()
  · refine Keeps.bind (fun _ before => before) ?_
    intro _
    cases present : transport.cpp with
    | none => exact Keeps.bind (Keeps.pure ()) fun _ => closes
    | some cpp => exact (quiet_onNative (posts cpp present).stop posted).bind fun _ => closes

theorem UdpTransport.super_posts {transport : UdpTransport ω CppEndpoint CppMessage}
    (posts : ∀ cpp, transport.cpp = some cpp → cpp.Posts outbox) :
    ∀ cpp, transport.super.cpp = some cpp → cpp.Posts outbox := by
  intro cpp present
  obtain ⟨native, found, rfl⟩ := Option.map_eq_some_iff.mp present
  exact (posts native found).super

theorem TcpTransport.super_posts {transport : TcpTransport ω CppEndpoint CppMessage}
    (posts : ∀ cpp, transport.cpp = some cpp → cpp.Posts outbox) :
    ∀ cpp, transport.super.cpp = some cpp → cpp.Posts outbox := by
  intro cpp present
  obtain ⟨native, found, rfl⟩ := Option.map_eq_some_iff.mp present
  exact (posts native found).super

theorem UdpTransport.quiet_joinNative {transport : UdpTransport ω CppEndpoint CppMessage}
    (posts : ∀ cpp, transport.cpp = some cpp → cpp.Posts outbox) :
    Quiet outbox transport.joinNative := by
  intro posted
  rw [UdpTransport.joinNative]
  split
  · rename_i cpp group present configured
    exact (posts cpp present).joinMulticastGroup group posted
  · exact Keeps.pure ()

theorem TcpTransport.quiet_prepareNative {transport : TcpTransport ω CppEndpoint CppMessage}
    (posts : ∀ cpp, transport.cpp = some cpp → cpp.Posts outbox) :
    Quiet outbox transport.prepareNative := by
  intro posted
  rw [TcpTransport.prepareNative]
  cases present : transport.cpp with
  | none => exact Keeps.pure ()
  | some cpp =>
      have native := posts cpp present
      simp only [native.super.toCppEndpoint]
      refine Keeps.bind (Keeps.pure _) ?_
      intro cppLocal
      exact quiet_suppress (native.initializeTransport cppLocal) posted

theorem TcpTransport.quiet_connect {transport : TcpTransport ω CppEndpoint CppMessage}
    (posts : ∀ cpp, transport.cpp = some cpp → cpp.Posts outbox) :
    Quiet (fun w : TransportWorld ω => outbox w.native) transport.connect := by
  intro posted
  rw [TcpTransport.connect]
  split
  · exact Keeps.raise _
  · rename_i remote configured
    refine Keeps.bind (quiet_onNative ?_ posted) fun _ _ before => before
    intro posted
    rw [TcpTransport.connectNative]
    cases present : transport.cpp with
    | none => exact Keeps.pure ()
    | some cpp =>
        have native := posts cpp present
        simp only [native.super.toCppEndpoint]
        refine Keeps.bind (Keeps.pure _) ?_
        intro cppEp
        exact quiet_suppress (native.connect cppEp) posted

theorem TcpTransport.quiet_disconnectNative {transport : TcpTransport ω CppEndpoint CppMessage}
    (posts : ∀ cpp, transport.cpp = some cpp → cpp.Posts outbox) (wasConnected : Bool) :
    Quiet outbox (transport.disconnectNative wasConnected) := by
  intro posted
  cases present : transport.cpp with
  | none =>
      simp only [TcpTransport.disconnectNative, present]
      exact Keeps.pure ()
  | some cpp =>
      cases wasConnected with
      | true =>
          simp only [TcpTransport.disconnectNative, present]
          exact quiet_suppress (posts cpp present).disconnect posted
      | false =>
          simp only [TcpTransport.disconnectNative, present]
          exact Keeps.pure ()

end Quiet

namespace AnyTransport

variable {outbox : ω → List Parcel} {transport : AnyTransport ω CppEndpoint CppMessage}
  {w : TransportWorld ω}

theorem super_posts (posts : transport.Posts outbox) :
    ∀ cpp, transport.super.cpp = some cpp → cpp.Posts outbox := by
  cases transport with
  | udp transport => exact UdpTransport.super_posts posts
  | tcp transport => exact TcpTransport.super_posts posts

theorem start_outbox (posts : transport.Posts outbox) :
    outbox (transport.start w).2.native = outbox w.native := by
  cases transport with
  | udp transport =>
      have starts := Transport.quiet_start (UdpTransport.super_posts posts) (outbox w.native)
      have joins := quiet_onNative (UdpTransport.quiet_joinNative posts) (outbox w.native)
      exact (starts.bind fun _ => joins) w rfl
  | tcp transport =>
      have prepares := quiet_onNative (TcpTransport.quiet_prepareNative posts) (outbox w.native)
      have starts := Transport.quiet_start (TcpTransport.super_posts posts) (outbox w.native)
      have connects : Keeps (fun u : TransportWorld ω => outbox u.native = outbox w.native)
          (if transport.remoteEndpoint.isSome then transport.connect else pure ()) := by
        split
        · exact TcpTransport.quiet_connect posts (outbox w.native)
        · exact Keeps.pure ()
      exact (prepares.bind fun _ => starts.bind fun _ => connects) w rfl

theorem stop_outbox (posts : transport.Posts outbox) :
    outbox (transport.stop w).2.native = outbox w.native := by
  cases transport with
  | udp transport =>
      exact Transport.quiet_stop (UdpTransport.super_posts posts) (outbox w.native) w rfl
  | tcp transport =>
      have stops := Transport.quiet_stop (TcpTransport.super_posts posts) (outbox w.native)
      have disconnects (wasConnected : Bool) :=
        quiet_onNative (TcpTransport.quiet_disconnectNative posts wasConnected) (outbox w.native)
      have whole : Keeps (fun u : TransportWorld ω => outbox u.native = outbox w.native)
          transport.stop := by
        rw [TcpTransport.stop]
        refine Keeps.bind (fun _ before => before) ?_
        intro self
        refine Keeps.bind (fun _ before => before) ?_
        intro _
        exact (disconnects self.connected).bind fun _ => stops
      exact whole w rfl

end AnyTransport

/-! ### What a `send` does -/

/-- A `send` raises and leaves everything as it was, or is one native call. -/
theorem Transport.send_cases {outbox : ω → List Parcel}
    {transport : Transport ω CppEndpoint CppMessage}
    (posts : ∀ cpp, transport.cpp = some cpp → cpp.Posts outbox) (message : Message)
    (endpoint : Option Endpoint) (w : TransportWorld ω) :
    (∃ exc, transport.send message endpoint w = (.error exc, w)) ∨
      ∃ cpp target, transport.cpp = some cpp ∧ transport.target message endpoint = some target ∧
        transport.send message endpoint w = Transport.onNative
          (cpp.sendMessage (OpenSomeIp.toCppMessage message) (OpenSomeIp.toCppEndpoint target)) w := by
  cases running : w.running with
  | false =>
      apply Or.inl
      apply Exists.intro
      rw [Transport.send, Method.bind_apply]
      simp only [Method.get_apply, running, ↓reduceIte]
      rfl
  | true =>
      cases present : transport.cpp with
      | none =>
          apply Or.inl
          apply Exists.intro
          rw [Transport.send, Method.bind_apply]
          simp only [Method.get_apply, running, Bool.true_eq_false, ↓reduceIte, present]
          rfl
      | some cpp =>
          have native := posts cpp present
          cases aimed : transport.target message endpoint with
          | none =>
              apply Or.inl
              apply Exists.intro
              rw [Transport.send, Method.bind_apply]
              simp only [Method.get_apply, running, Bool.true_eq_false, ↓reduceIte, present,
                native.toCppMessage, aimed]
              rfl
          | some target =>
              refine .inr ⟨cpp, target, rfl, rfl, ?_⟩
              rw [Transport.send, Method.bind_apply]
              simp only [Method.get_apply, running, Bool.true_eq_false, ↓reduceIte, present,
                native.toCppMessage, native.toCppEndpoint, aimed]
              rfl

end OpenSomeIp
