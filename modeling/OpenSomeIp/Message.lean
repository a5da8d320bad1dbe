import OpenSomeIp.Types

set_option autoImplicit false

namespace OpenSomeIp

/-- Its `__post_init__` admits ports 0..65535. -/
structure Endpoint where
  ip : String
  port : UInt16
  deriving DecidableEq, Repr

/-- Its `__post_init__` admits interface versions 0..0xFF. -/
structure Message where
  messageId : MessageId := ⟨0, 0⟩
  requestId : RequestId := ⟨0, 0⟩
  messageType : MessageType := .request
  returnCode : ReturnCode := .eOk
  protocolVersion : ProtocolVersion := .version1
  interfaceVersion : UInt8 := 1
  payload : Bytes := []
  sourceEndpoint : Option Endpoint := none
  deriving DecidableEq, Repr

/-- As `Message.__eq__`: compares every field but `source_endpoint`. -/
def Message.eq (a b : Message) : Bool :=
  a.messageId == b.messageId && a.requestId == b.requestId &&
  a.messageType == b.messageType && a.returnCode == b.returnCode &&
  a.protocolVersion == b.protocolVersion && a.interfaceVersion == b.interfaceVersion &&
  a.payload == b.payload

/-- What `Message.__eq__` looks at. -/
def Message.wire (m : Message) : Message := { m with sourceEndpoint := none }

theorem Message.eq_iff_wire (a b : Message) : a.eq b = true ↔ a.wire = b.wire := by
  cases a
  cases b
  simp [Message.eq, Message.wire, and_assoc]

@[simp] theorem Message.wire_payload (m : Message) : m.wire.payload = m.payload := rfl

/-- The test `xs == ys` on lists of messages. -/
def Message.eqs (xs ys : List Message) : Bool :=
  xs.length == ys.length && (xs.zip ys).all fun pair => pair.1.eq pair.2

theorem Message.eqs_iff_wire (xs ys : List Message) :
    Message.eqs xs ys = true ↔ xs.map Message.wire = ys.map Message.wire := by
  induction xs generalizing ys with
  | nil => cases ys <;> simp [Message.eqs]
  | cons x xs ih =>
      cases ys with
      | nil => simp [Message.eqs]
      | cons y ys =>
          have tail := ih ys
          simp only [Message.eqs, Bool.and_eq_true, beq_iff_eq] at tail
          simp only [Message.eqs, List.length_cons, List.zip_cons_cons, List.all_cons,
            Bool.and_eq_true, beq_iff_eq, List.map_cons, List.cons.injEq,
            Message.eq_iff_wire, ← tail, Nat.add_right_cancel_iff]
          constructor
          · rintro ⟨size, head, rest⟩
            exact ⟨head, size, rest⟩
          · rintro ⟨head, size, rest⟩
            exact ⟨size, head, rest⟩

end OpenSomeIp
