import Mathlib.Data.List.Forall2
import OpenSomeIp.Message
import OpenSomeIp.ReceiverAtomicity

set_option autoImplicit false

namespace OpenSomeIp

/-! ### Closed enumerations -/

/-- The call `E(value)` of an `IntEnum` of that name. -/
def enumOfValue {τ : Type} (name : String) (members : List τ) (code : τ → UInt8) (value : UInt8) :
    Except Exn τ :=
  match members.find? fun member => code member == value with
  | some member => .ok member
  | none => .error (.valueError (toString value.toNat ++ " is not a valid " ++ name))

section Enumerations

variable {τ : Type} {members : List τ} {code : τ → UInt8} {value : UInt8}

theorem enumOfValue_of_known (name : String) (all : ∀ member, member ∈ members)
    (known : ∃ member, code member = value) :
    ∃ member, enumOfValue name members code value = .ok member ∧ code member = value := by
  obtain ⟨member, coded⟩ := known
  cases found : members.find? fun member => code member == value with
  | none =>
      have other := List.find?_eq_none.mp found member (all member)
      exact absurd (beq_iff_eq.mpr coded) other
  | some first =>
      have coded : (code first == value) = true :=
        List.find?_some (p := fun member => code member == value) found
      refine ⟨first, ?_, beq_iff_eq.mp coded⟩
      simp only [enumOfValue, found]

theorem enumOfValue_of_unknown (name : String) (unknown : ¬ ∃ member, code member = value) :
    ∃ text, enumOfValue name members code value = .error (.valueError text) := by
  have none_ : (members.find? fun member => code member == value) = none := by
    apply List.find?_eq_none.mpr
    intro member _ coded
    exact unknown ⟨member, beq_iff_eq.mp coded⟩
  refine ⟨toString value.toNat ++ " is not a valid " ++ name, ?_⟩
  simp only [enumOfValue, none_]

end Enumerations

namespace MessageType

def code : MessageType → UInt8
  | .request => 0x00
  | .requestNoReturn => 0x01
  | .notification => 0x02
  | .requestAck => 0x40
  | .response => 0x80
  | .error => 0x81
  | .responseAck => 0xC0
  | .errorAck => 0xC1
  | .tpRequest => 0x20
  | .tpRequestNoReturn => 0x21
  | .tpNotification => 0x22

def members : List MessageType :=
  [.request, .requestNoReturn, .notification, .requestAck, .response, .error, .responseAck,
    .errorAck, .tpRequest, .tpRequestNoReturn, .tpNotification]

theorem mem_members (member : MessageType) : member ∈ members := by
  cases member <;> decide

def ofValue : UInt8 → Except Exn MessageType := enumOfValue "MessageType" members code

theorem ofValue_of_known {value : UInt8} (known : ∃ member, code member = value) :
    ∃ member, ofValue value = .ok member ∧ member.code = value :=
  enumOfValue_of_known "MessageType" mem_members known

end MessageType

namespace ReturnCode

def code : ReturnCode → UInt8
  | .eOk => 0x00
  | .eNotOk => 0x01
  | .eUnknownService => 0x02
  | .eUnknownMethod => 0x03
  | .eNotReady => 0x04
  | .eNotReachable => 0x05
  | .eTimeout => 0x06
  | .eWrongProtocolVersion => 0x07
  | .eWrongInterfaceVersion => 0x08
  | .eMalformedMessage => 0x09
  | .eWrongMessageType => 0x0A
  | .eE2eRepeated => 0x0B
  | .eE2eWrongSequence => 0x0C
  | .eE2e => 0x0D
  | .eE2eNotAvailable => 0x0E
  | .eE2eNoNewData => 0x0F

def members : List ReturnCode :=
  [.eOk, .eNotOk, .eUnknownService, .eUnknownMethod, .eNotReady, .eNotReachable, .eTimeout,
    .eWrongProtocolVersion, .eWrongInterfaceVersion, .eMalformedMessage, .eWrongMessageType,
    .eE2eRepeated, .eE2eWrongSequence, .eE2e, .eE2eNotAvailable, .eE2eNoNewData]

theorem mem_members (member : ReturnCode) : member ∈ members := by
  cases member <;> decide

def ofValue : UInt8 → Except Exn ReturnCode := enumOfValue "ReturnCode" members code

theorem ofValue_of_known {value : UInt8} (known : ∃ member, code member = value) :
    ∃ member, ofValue value = .ok member ∧ member.code = value :=
  enumOfValue_of_known "ReturnCode" mem_members known

end ReturnCode

/-! ### Validating constructors -/

/-- The call `RequestId(client_id=.., session_id=..)` on any two integers. -/
def RequestId.ofInts (clientId sessionId : Int) : Except Exn RequestId :=
  if ¬ (0 ≤ clientId ∧ clientId ≤ 0xFFFF) then
    .error (.valueError ("client_id must be 0..0xFFFF, got " ++ hexOfInt 0 clientId))
  else if ¬ (0 ≤ sessionId ∧ sessionId ≤ 0xFFFF) then
    .error (.valueError ("session_id must be 0..0xFFFF, got " ++ hexOfInt 0 sessionId))
  else .ok ⟨UInt16.ofNat clientId.toNat, UInt16.ofNat sessionId.toNat⟩

/-- The call `Message(.., interface_version=..)` on any integer, the other fields given. -/
def Message.ofInterfaceVersion (message : Message) (interfaceVersion : Int) : Except Exn Message :=
  if ¬ (0 ≤ interfaceVersion ∧ interfaceVersion ≤ 0xFF) then
    .error (.valueError
      ("interface_version must be 0..0xFF, got " ++ hexOfInt 0 interfaceVersion))
  else .ok { message with interfaceVersion := UInt8.ofNat interfaceVersion.toNat }

/-- The call `Endpoint(ip=.., port=..)` on any integer. -/
def Endpoint.ofInts (ip : String) (port : Int) : Except Exn Endpoint :=
  if ¬ (0 ≤ port ∧ port ≤ 65535) then
    .error (.valueError ("port must be 0..65535, got " ++ toString port))
  else .ok ⟨ip, UInt16.ofNat port.toNat⟩

theorem word_fits (n : UInt16) : 0 ≤ (n.toNat : Int) ∧ (n.toNat : Int) ≤ 0xFFFF := by
  have bound : n.toNat < 2 ^ 16 := n.toNat_lt
  omega

theorem MessageId.ofInts_of_words (serviceId methodId : UInt16) :
    MessageId.ofInts serviceId.toNat methodId.toNat = .ok ⟨serviceId, methodId⟩ := by
  rw [ofInts, if_neg (not_not_intro (word_fits serviceId)),
    if_neg (not_not_intro (word_fits methodId))]
  simp only [Int.toNat_natCast, UInt16.ofNat_toNat]

theorem RequestId.ofInts_of_words (clientId sessionId : UInt16) :
    RequestId.ofInts clientId.toNat sessionId.toNat = .ok ⟨clientId, sessionId⟩ := by
  rw [ofInts, if_neg (not_not_intro (word_fits clientId)),
    if_neg (not_not_intro (word_fits sessionId))]
  simp only [Int.toNat_natCast, UInt16.ofNat_toNat]

theorem Message.ofInterfaceVersion_of_byte (message : Message) (interfaceVersion : UInt8) :
    message.ofInterfaceVersion interfaceVersion.toNat =
      .ok { message with interfaceVersion := interfaceVersion } := by
  have fits : 0 ≤ (interfaceVersion.toNat : Int) ∧ (interfaceVersion.toNat : Int) ≤ 0xFF := by
    have bound : interfaceVersion.toNat < 2 ^ 8 := interfaceVersion.toNat_lt
    omega
  rw [ofInterfaceVersion, if_neg (not_not_intro fits)]
  simp only [Int.toNat_natCast, UInt8.ofNat_toNat]

/-! ### What the native layer delivers -/

/-- The properties of a native message that the conversions read, with the underlying values of its
two enumerations. -/
structure CppMessage where
  serviceId : UInt16
  methodId : UInt16
  clientId : UInt16
  sessionId : UInt16
  messageType : UInt8
  returnCode : UInt8
  interfaceVersion : UInt8
  payload : Bytes
  deriving DecidableEq, Repr

/-- The properties of a native endpoint that they read; its address is text if it is UTF-8. -/
structure CppEndpoint where
  address : Bytes
  port : UInt16
  deriving DecidableEq, Repr

def fromCppEndpoint (cppEp : CppEndpoint) : Except Exn Endpoint :=
  match String.fromUTF8? ⟨cppEp.address.toArray⟩ with
  | none => .error (.unicodeError "invalid utf-8")
  | some ip => Endpoint.ofInts ip cppEp.port.toNat

def fromCppMessage (cppMsg : CppMessage) : Except Exn Message := do
  let messageId ← MessageId.ofInts cppMsg.serviceId.toNat cppMsg.methodId.toNat
  let requestId ← RequestId.ofInts cppMsg.clientId.toNat cppMsg.sessionId.toNat
  let messageType ← MessageType.ofValue cppMsg.messageType
  let returnCode ← ReturnCode.ofValue cppMsg.returnCode
  Message.ofInterfaceVersion
    { messageId := messageId
      requestId := requestId
      messageType := messageType
      returnCode := returnCode
      payload := cppMsg.payload } cppMsg.interfaceVersion.toNat

/-- The `try` statement of the listener. -/
def withSource (pyMsg : Message) (sender : CppEndpoint) : Except Exn Message :=
  match fromCppEndpoint sender with
  | .ok endpoint => .ok { pyMsg with sourceEndpoint := some endpoint }
  | .error exc => if exc.isException then .ok pyMsg else .error exc

/-- The method of the `_Listener` that a `_NativeTransportListener` registers. -/
def onMessageReceived (message : CppMessage) (sender : CppEndpoint) :
    Method Exn (ReceiverWorld Message) Unit := do
  let pyMsg ← Method.lift (fromCppMessage message)
  let pyMsg ← Method.lift (withSource pyMsg sender)
  ReceiverWorld.put pyMsg

/-- The two enumerations know the values of the message. -/
def CppMessage.Known (cppMsg : CppMessage) : Prop :=
  (∃ member : MessageType, member.code = cppMsg.messageType) ∧
    ∃ member : ReturnCode, member.code = cppMsg.returnCode

/-- A message with all of the native one that Python can express. -/
structure Faithful (cppMsg : CppMessage) (message : Message) : Prop where
  messageId : message.messageId = ⟨cppMsg.serviceId, cppMsg.methodId⟩
  requestId : message.requestId = ⟨cppMsg.clientId, cppMsg.sessionId⟩
  messageType : (∃ member : MessageType, member.code = cppMsg.messageType) →
    message.messageType.code = cppMsg.messageType
  returnCode : (∃ member : ReturnCode, member.code = cppMsg.returnCode) →
    message.returnCode.code = cppMsg.returnCode
  interfaceVersion : message.interfaceVersion = cppMsg.interfaceVersion
  payload : message.payload = cppMsg.payload

section Conversion

variable {cppMsg : CppMessage}

theorem fromCppMessage_of_known (known : cppMsg.Known) :
    ∃ message, fromCppMessage cppMsg = .ok message ∧ Faithful cppMsg message := by
  obtain ⟨messageType, named, sameType⟩ := MessageType.ofValue_of_known known.1
  obtain ⟨returnCode, returned, sameCode⟩ := ReturnCode.ofValue_of_known known.2
  refine ⟨{
    messageId := ⟨cppMsg.serviceId, cppMsg.methodId⟩
    requestId := ⟨cppMsg.clientId, cppMsg.sessionId⟩
    messageType := messageType
    returnCode := returnCode
    interfaceVersion := cppMsg.interfaceVersion
    payload := cppMsg.payload }, ?_, ⟨rfl, rfl, fun _ => sameType, fun _ => sameCode, rfl, rfl⟩⟩
  simp only [fromCppMessage, MessageId.ofInts_of_words, RequestId.ofInts_of_words, named, returned,
    Message.ofInterfaceVersion_of_byte, bind, Except.bind]

/-- One value that an enumeration does not know is enough for an exception. -/
theorem fromCppMessage_of_unknown (unknown : ¬ cppMsg.Known) :
    ∃ text, fromCppMessage cppMsg = .error (.valueError text) := by
  by_cases typed : ∃ member : MessageType, member.code = cppMsg.messageType
  · have other : ¬ ∃ member : ReturnCode, member.code = cppMsg.returnCode :=
      fun coded => unknown ⟨typed, coded⟩
    obtain ⟨messageType, named, _⟩ := MessageType.ofValue_of_known typed
    obtain ⟨text, refused⟩ : ∃ text, ReturnCode.ofValue cppMsg.returnCode =
        .error (.valueError text) := enumOfValue_of_unknown "ReturnCode" other
    refine ⟨text, ?_⟩
    simp only [fromCppMessage, MessageId.ofInts_of_words, RequestId.ofInts_of_words, named, refused,
      bind, Except.bind]
  · obtain ⟨text, refused⟩ : ∃ text, MessageType.ofValue cppMsg.messageType =
        .error (.valueError text) := enumOfValue_of_unknown "MessageType" typed
    refine ⟨text, ?_⟩
    simp only [fromCppMessage, MessageId.ofInts_of_words, RequestId.ofInts_of_words, refused,
      bind, Except.bind]

theorem fromCppEndpoint_raises {sender : CppEndpoint} {exc : Exn}
    (raised : fromCppEndpoint sender = .error exc) : exc.isException = true := by
  rw [fromCppEndpoint] at raised
  split at raised
  · obtain rfl := Except.error.inj raised
    rfl
  · rw [Endpoint.ofInts] at raised
    split at raised
    · obtain rfl := Except.error.inj raised
      rfl
    · cases raised

/-- The sender is set or left out; neither is an exception. -/
theorem withSource_returns (message : Message) (sender : CppEndpoint) :
    ∃ source, withSource message sender = .ok { message with sourceEndpoint := source } := by
  cases converted : fromCppEndpoint sender with
  | ok endpoint =>
      refine ⟨some endpoint, ?_⟩
      simp only [withSource, converted]
  | error exc =>
      refine ⟨message.sourceEndpoint, ?_⟩
      simp only [withSource, converted, fromCppEndpoint_raises converted, ↓reduceIte]

theorem Faithful.withSource {message : Message} (faithful : Faithful cppMsg message)
    (source : Option Endpoint) : Faithful cppMsg { message with sourceEndpoint := source } :=
  { faithful with }

end Conversion

/-! ### Deliveries -/

/-- The native layer delivers a message; a consumer of the receiver or its event loop acts. -/
inductive BridgeAct where
  | deliver (message : CppMessage) (sender : CppEndpoint)
  | consume (act : ReceiverAct Message)
  deriving DecidableEq, Repr

/-- The messages that a run delivers, in their order. -/
def deliveries (acts : List BridgeAct) : List CppMessage :=
  acts.filterMap fun
    | .deliver message _ => some message
    | .consume _ => none

namespace Bridge

/-- The receiver after a delivery; it has accepted what came into its sync queue. -/
def deliver (s : ReceiverSystem Message) (message : CppMessage) (sender : CppEndpoint) :
    ReceiverSystem Message :=
  let w := (onMessageReceived message sender s.world).2
  { s with
    world := w
    accepted := s.accepted ++ w.receiver.syncQueue.items.drop s.syncItems.length }

def step (s : ReceiverSystem Message) : BridgeAct → Option (ReceiverSystem Message)
  | .deliver message sender => some (deliver s message sender)
  | .consume act => if ReceiverSystem.isConsumer act then s.step act else none

/-- No exception reaches the native thread, and one message more is enqueued, the one that was
delivered. -/
def Lossless (s : ReceiverSystem Message) : BridgeAct → Prop
  | .deliver message sender =>
      (onMessageReceived message sender s.world).1 = .ok () ∧
        ∃ pyMsg, Faithful message pyMsg ∧
          s.world.Enqueued (.message pyMsg) (onMessageReceived message sender s.world).2
  | .consume _ => True

/-- The enumerations know what is delivered. -/
def Known (_ : ReceiverSystem Message) : BridgeAct → Prop
  | .deliver message _ => message.Known
  | .consume _ => True

/-- The receiver is open, and what its consumers do keeps it sound. -/
structure Open (s : ReceiverSystem Message) : Prop where
  sound : s.Sound
  open_ : s.closed = false

variable {s t : ReceiverSystem Message} {message : CppMessage}

theorem onMessageReceived_of_known (opened : Open s) (known : message.Known)
    (sender : CppEndpoint) :
    ∃ pyMsg, Faithful message pyMsg ∧ onMessageReceived message sender s.world =
      (.ok (), s.world.deliver false (.message pyMsg)) := by
  obtain ⟨plain, converted, faithful⟩ := fromCppMessage_of_known known
  obtain ⟨source, located⟩ := withSource_returns plain sender
  refine ⟨_, faithful.withSource source, ?_⟩
  simp only [onMessageReceived, Method.bind_apply, Method.lift_apply, converted, located]
  exact ReceiverWorld.put_of_open opened.open_ opened.sound.unbounded _

theorem onMessageReceived_of_unknown (unknown : ¬ message.Known) (sender : CppEndpoint)
    (w : ReceiverWorld Message) :
    ∃ text, onMessageReceived message sender w = (.error (.valueError text), w) := by
  obtain ⟨text, refused⟩ := fromCppMessage_of_unknown unknown
  refine ⟨text, ?_⟩
  simp only [onMessageReceived, Method.bind_apply, Method.lift_apply, refused]

theorem deliver_of_known (opened : Open s) (known : message.Known) (sender : CppEndpoint) :
    ∃ pyMsg, Faithful message pyMsg ∧
      deliver s message sender = s.offer false (.message pyMsg) := by
  obtain ⟨pyMsg, faithful, ran⟩ := onMessageReceived_of_known opened known sender
  refine ⟨pyMsg, faithful, ?_⟩
  have queued := (ReceiverWorld.deliver_frame s.world false (.message pyMsg)).1
  simp only [deliver, ran, queued, ReceiverSystem.offer, SyncQueue.push, ReceiverSystem.syncItems,
    List.drop_left]

theorem lossless_iff_known (opened : Open s) (act : BridgeAct) : Lossless s act ↔ Known s act := by
  cases act with
  | consume act => exact Iff.rfl
  | deliver message sender =>
      constructor
      · intro lossless
        by_cases known : message.Known
        · exact known
        · obtain ⟨text, raised⟩ := onMessageReceived_of_unknown known sender s.world
          have returned := lossless.1
          rw [raised] at returned
          cases returned
      · intro known
        obtain ⟨pyMsg, faithful, ran⟩ := onMessageReceived_of_known opened known sender
        rw [Lossless, ran]
        exact ⟨rfl, pyMsg, faithful, ReceiverWorld.enqueued_deliver s.world false _⟩

theorem open_step {act : BridgeAct} (opened : Open s) (known : Known s act)
    (stepped : step s act = some t) : Open t := by
  cases act with
  | deliver message sender =>
      obtain rfl := Option.some.inj stepped
      obtain ⟨pyMsg, _, same⟩ := deliver_of_known opened known sender
      rw [same]
      refine ⟨ReceiverSystem.sound_offer opened.sound (.inr ⟨opened.open_, rfl, nofun⟩), ?_⟩
      exact (ReceiverWorld.deliver_frame _ _ _).2.1
  | consume act =>
      rw [step] at stepped
      split at stepped
      · rename_i consumer
        refine ⟨ReceiverSystem.sound_step s act t opened.sound stepped, ?_⟩
        rw [(ReceiverSystem.consumer_frame consumer stepped).1]
        exact opened.open_
      · cases stepped

/-- A step adds what it delivers to the accepted messages. -/
theorem accepted_step {act : BridgeAct} (opened : Open s) (known : Known s act)
    (stepped : step s act = some t) :
    ∃ more, messagesOf t.accepted = messagesOf s.accepted ++ more ∧
      List.Forall₂ Faithful (deliveries [act]) more := by
  cases act with
  | deliver message sender =>
      obtain rfl := Option.some.inj stepped
      obtain ⟨pyMsg, faithful, same⟩ := deliver_of_known opened known sender
      refine ⟨[pyMsg], ?_, .cons faithful .nil⟩
      rw [same, ReceiverSystem.offer, messagesOf_append]
      rfl
  | consume act =>
      rw [step] at stepped
      split at stepped
      · rename_i consumer
        refine ⟨[], ?_, .nil⟩
        rw [(ReceiverSystem.consumer_frame consumer stepped).2, List.append_nil]
      · cases stepped

theorem open_fresh : Open {} where
  sound := ReceiverSystem.sound_init
  open_ := rfl

/-- What a run delivers is accepted message by message. -/
theorem accepted_run {acts : List BridgeAct} (opened : Open s)
    (known : Transition.Along step Known s acts) (ran : Transition.run step s acts = some t) :
    Open t ∧ ∃ more, messagesOf t.accepted = messagesOf s.accepted ++ more ∧
      List.Forall₂ Faithful (deliveries acts) more := by
  induction acts generalizing s with
  | nil =>
      obtain rfl := Option.some.inj ran
      exact ⟨opened, [], (List.append_nil _).symm, .nil⟩
  | cons act rest ih =>
      obtain ⟨middle, first, ran⟩ := Transition.run_cons_eq_some ran
      obtain ⟨ended, more, later, others⟩ :=
        ih (open_step opened known.1 first) (known.2 middle first) ran
      obtain ⟨head, now, one⟩ := accepted_step opened known.1 first
      refine ⟨ended, head ++ more, ?_, ?_⟩
      · rw [later, now, List.append_assoc]
      · have split_ : deliveries (act :: rest) = deliveries [act] ++ deliveries rest :=
          List.filterMap_append (l := [act])
        rw [split_]
        exact List.rel_append one others

/-- On an open receiver, no delivery of a run is lost exactly when the enumerations know what each
of them carries. Then the sync consumer gets the delivered messages, in delivery order. -/
theorem deliveries_lossless_iff (acts : List BridgeAct) :
    (Transition.Along step Lossless {} acts ↔ Transition.Along step Known {} acts) ∧
      ∀ t, Transition.Along step Known {} acts → Transition.run step {} acts = some t →
        List.Forall₂ Faithful (deliveries acts) t.syncLine := by
  constructor
  · apply Transition.along_congr
    · intro s act opened
      exact lossless_iff_known opened act
    · intro s act t opened known stepped
      exact open_step opened known stepped
    · exact open_fresh
  · intro t known ran
    obtain ⟨opened, more, accepted, faithful⟩ := accepted_run open_fresh known ran
    rw [ReceiverSystem.syncLine_of_open opened.sound opened.open_, accepted]
    exact faithful

/-- A response with an application-defined return code raises `ValueError` into the native thread,
and nothing is enqueued. -/
theorem application_return_code_lost :
    let message : CppMessage :=
      { serviceId := 0x1234, methodId := 1, clientId := 1, sessionId := 1, messageType := 0x80
        returnCode := 0x20, interfaceVersion := 1, payload := [] }
    let sender : CppEndpoint := ⟨"192.168.1.1".toUTF8.data.toList, 30490⟩
    onMessageReceived message sender {} =
        (.error (.valueError "32 is not a valid ReturnCode"), {}) ∧
      ¬ Transition.Along step Lossless {} [.deliver message sender] := by
  intro message sender
  have raised : onMessageReceived message sender {} =
      (.error (.valueError "32 is not a valid ReturnCode"), {}) := by decide +kernel
  refine ⟨raised, fun lossless => ?_⟩
  have returned := lossless.1.1
  rw [raised] at returned
  cases returned

end Bridge

end OpenSomeIp
