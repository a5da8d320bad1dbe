import OpenSomeIp.Bridge

set_option autoImplicit false

namespace OpenSomeIp

/-! ### Outgoing -/

def toCppEndpoint (ep : Endpoint) : CppEndpoint where
  address := ep.ip.toUTF8.data.toList
  port := ep.port

/-- What is set of the native message, which has no source endpoint. -/
def toCppMessage (msg : Message) : CppMessage where
  serviceId := msg.messageId.serviceId
  methodId := msg.messageId.methodId
  clientId := msg.requestId.clientId
  sessionId := msg.requestId.sessionId
  messageType := msg.messageType.code
  returnCode := msg.returnCode.code
  interfaceVersion := msg.interfaceVersion
  payload := msg.payload

/-! ### There and back -/

theorem MessageType.code_injective : Function.Injective MessageType.code := by
  intro a b same
  cases a <;> cases b <;> first | rfl | exact absurd same (by decide)

theorem ReturnCode.code_injective : Function.Injective ReturnCode.code := by
  intro a b same
  cases a <;> cases b <;> first | rfl | exact absurd same (by decide)

/-- An enumeration finds the member a value belongs to, and no other. -/
theorem enumOfValue_code {τ : Type} {members : List τ} {code : τ → UInt8} (name : String)
    (all : ∀ member, member ∈ members) (injective : Function.Injective code) (member : τ) :
    enumOfValue name members code (code member) = .ok member := by
  obtain ⟨found, ran, coded⟩ := enumOfValue_of_known name all ⟨member, rfl⟩
  rw [ran, injective coded]

theorem enumOfValue_eq_ok {τ : Type} {members : List τ} {code : τ → UInt8} {name : String}
    {value : UInt8} {member : τ} (ran : enumOfValue name members code value = .ok member) :
    code member = value := by
  rw [enumOfValue] at ran
  split at ran
  · rename_i found present
    obtain rfl := Except.ok.inj ran
    have hit := List.find?_some (p := fun member => code member == value) present
    exact beq_iff_eq.mp hit
  · cases ran

theorem fromCppMessage_toCppMessage (msg : Message) :
    fromCppMessage (toCppMessage msg) = .ok msg.wire := by
  have typed : MessageType.ofValue msg.messageType.code = .ok msg.messageType :=
    enumOfValue_code "MessageType" MessageType.mem_members MessageType.code_injective _
  have coded : ReturnCode.ofValue msg.returnCode.code = .ok msg.returnCode :=
    enumOfValue_code "ReturnCode" ReturnCode.mem_members ReturnCode.code_injective _
  simp only [fromCppMessage, toCppMessage, MessageId.ofInts_of_words, RequestId.ofInts_of_words,
    typed, coded, Message.ofInterfaceVersion_of_byte, bind, Except.bind, Message.wire]

/-- What the fields of a message converted from a native one are. -/
theorem fromCppMessage_eq_ok {cppMsg : CppMessage} {msg : Message}
    (ran : fromCppMessage cppMsg = .ok msg) :
    toCppMessage msg = cppMsg ∧ msg.sourceEndpoint = none := by
  simp only [fromCppMessage, MessageId.ofInts_of_words, RequestId.ofInts_of_words,
    bind, Except.bind] at ran
  split at ran
  · cases ran
  · rename_i messageType typed
    split at ran
    · cases ran
    · rename_i returnCode coded
      rw [Message.ofInterfaceVersion_of_byte] at ran
      obtain rfl := Except.ok.inj ran
      have sameType : messageType.code = cppMsg.messageType := enumOfValue_eq_ok typed
      have sameCode : returnCode.code = cppMsg.returnCode := enumOfValue_eq_ok coded
      refine ⟨?_, rfl⟩
      rw [toCppMessage, sameType, sameCode]

theorem fromUTF8_toUTF8 (text : String) :
    String.fromUTF8? ⟨text.toUTF8.data.toList.toArray⟩ = some text := by
  have valid : (⟨text.toUTF8.data.toList.toArray⟩ : ByteArray).IsValidUTF8 := text.isValidUTF8
  rw [String.fromUTF8?, dif_pos valid]
  rfl

theorem port_fits (port : UInt16) : 0 ≤ (port.toNat : Int) ∧ (port.toNat : Int) ≤ 65535 :=
  word_fits port

theorem fromCppEndpoint_toCppEndpoint (ep : Endpoint) :
    fromCppEndpoint (toCppEndpoint ep) = .ok ep := by
  rw [fromCppEndpoint, toCppEndpoint, fromUTF8_toUTF8]
  simp only [Endpoint.ofInts, not_not_intro (port_fits ep.port), ↓reduceIte, Int.toNat_natCast,
    UInt16.ofNat_toNat]

theorem fromCppEndpoint_eq_ok {cppEp : CppEndpoint} {ep : Endpoint}
    (ran : fromCppEndpoint cppEp = .ok ep) : toCppEndpoint ep = cppEp := by
  rw [fromCppEndpoint] at ran
  split at ran
  · cases ran
  · rename_i ip decoded
    simp only [Endpoint.ofInts, not_not_intro (port_fits cppEp.port), ↓reduceIte,
      Int.toNat_natCast, UInt16.ofNat_toNat] at ran
    obtain rfl := Except.ok.inj ran
    rw [String.fromUTF8?] at decoded
    split at decoded
    · obtain rfl := Option.some.inj decoded
      rfl
    · cases decoded

theorem toCppEndpoint_injective : Function.Injective toCppEndpoint := by
  intro a b same
  have there := fromCppEndpoint_toCppEndpoint a
  rw [same, fromCppEndpoint_toCppEndpoint] at there
  exact (Except.ok.inj there).symm

/-! ### All of a native object -/

inductive TransportProtocol where
  | udp
  | tcp
  | multicastUdp
  deriving DecidableEq, Repr

structure NativeEndpoint where
  read : CppEndpoint
  protocol : TransportProtocol := .udp
  deriving DecidableEq, Repr

structure NativeE2EHeader where
  crc : UInt32
  counter : UInt32
  dataId : UInt16
  freshnessValue : UInt16
  deriving DecidableEq, Repr

structure NativeMessage where
  read : CppMessage
  protocolVersion : UInt8
  length : UInt32
  e2eHeader : Option NativeE2EHeader
  deriving DecidableEq, Repr

/-- The constructor's default protocol stays. -/
def toNativeEndpoint (ep : Endpoint) : NativeEndpoint where
  read := toCppEndpoint ep

def fromNativeEndpoint (native : NativeEndpoint) : Except Exn Endpoint :=
  fromCppEndpoint native.read

/-- What the conversion does not set is left to the native constructor. -/
def NativeMessage.MadeOf (msg : Message) (native : NativeMessage) : Prop :=
  native.read = toCppMessage msg

def fromNativeMessage (native : NativeMessage) : Except Exn Message := fromCppMessage native.read

/-- The message comes from the native ones that the conversion may make of it, and there is one for
every native message with values that the enumerations know. -/
theorem fromNativeMessage_iff (native : NativeMessage) :
    (native.read.Known ↔ ∃ msg, fromNativeMessage native = .ok msg) ∧
      ∀ msg, fromNativeMessage native = .ok msg ↔
        NativeMessage.MadeOf msg native ∧ msg.sourceEndpoint = none := by
  constructor
  · constructor
    · intro known
      obtain ⟨msg, ran, _⟩ := fromCppMessage_of_known known
      exact ⟨msg, ran⟩
    · rintro ⟨msg, ran⟩
      obtain ⟨same, _⟩ := fromCppMessage_eq_ok ran
      rw [← same]
      exact ⟨⟨msg.messageType, rfl⟩, msg.returnCode, rfl⟩
  · intro msg
    constructor
    · intro ran
      obtain ⟨same, local_⟩ := fromCppMessage_eq_ok ran
      exact ⟨same.symm, local_⟩
    · rintro ⟨made, local_⟩
      rw [fromNativeMessage, made, fromCppMessage_toCppMessage, Message.wire, ← local_]

theorem fromNativeEndpoint_iff (native : NativeEndpoint) (ep : Endpoint) :
    fromNativeEndpoint native = .ok ep ↔ native = { toNativeEndpoint ep with
      protocol := native.protocol } := by
  constructor
  · intro ran
    rw [toNativeEndpoint, fromCppEndpoint_eq_ok ran]
  · intro same
    rw [same]
    exact fromCppEndpoint_toCppEndpoint ep

/-- The conversions are inverse to each other as far as they read and write: every message comes
back as itself but for its source endpoint and every endpoint as itself; a native message or
endpoint that converts is one that its conversion makes, but for what these leave out. -/
theorem conversions_inverse :
    (∀ msg protocolVersion length e2eHeader, fromNativeMessage
      ⟨toCppMessage msg, protocolVersion, length, e2eHeader⟩ = .ok msg.wire) ∧
    (∀ ep, fromNativeEndpoint (toNativeEndpoint ep) = .ok ep) ∧
    (∀ native : NativeMessage,
      (native.read.Known ↔ ∃ msg, fromNativeMessage native = .ok msg) ∧
      ∀ msg, fromNativeMessage native = .ok msg ↔
        NativeMessage.MadeOf msg native ∧ msg.sourceEndpoint = none) ∧
    (∀ native ep, fromNativeEndpoint native = .ok ep ↔
      native = { toNativeEndpoint ep with protocol := native.protocol }) := by
  refine ⟨fun msg _ _ _ => fromCppMessage_toCppMessage msg, fun ep => ?_, fromNativeMessage_iff,
    fromNativeEndpoint_iff⟩
  exact (fromNativeEndpoint_iff (toNativeEndpoint ep) ep).mpr rfl

end OpenSomeIp
