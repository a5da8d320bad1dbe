set_option autoImplicit false

namespace OpenSomeIp

abbrev Bytes := List UInt8

/-- A Python `str`: code points, lone surrogates included. -/
abbrev PyStr := List (Fin 0x110000)

-- A code point can be written as a number.
instance PyStr.codePoints : @NeZero Nat Zero.ofOfNat0 0x110000 := ⟨by decide⟩

/-- The exceptions the code raises, catches or lets through. `native` is a class
that only the extension defines; the last two are no `Exception` in Python. -/
inductive Exn where
  | transportError (text : String)
  | rpcError (text : String)
  | e2eError (text : String)
  | configurationError (text : String)
  | valueError (text : String)
  | unicodeError (text : String)
  | runtimeError (text : String)
  | structError (text : String)
  | indexError
  | zeroDivisionError
  | queueFull
  | invalidStateError
  | stopIteration
  | stopAsyncIteration
  | native (name text : String)
  | cancelledError
  | keyboardInterrupt
  deriving DecidableEq, Repr

/-- Whether `except Exception` catches it. -/
def Exn.isException : Exn → Bool
  | .cancelledError => false
  | .keyboardInterrupt => false
  | _ => true

/-- Whether `except ValueError` catches it. -/
def Exn.isValueError : Exn → Bool
  | .valueError _ => true
  | .unicodeError _ => true
  | _ => false

/-- Whether `except RpcError` catches it. -/
def Exn.isRpcError : Exn → Bool
  | .rpcError _ => true
  | _ => false

theorem Exn.isException_of_isRpcError (exc : Exn) (rpc : exc.isRpcError = true) :
    exc.isException = true := by
  cases exc with
  | rpcError text => rfl
  | _ => cases rpc

/-- The text `str(exc)`. -/
def Exn.str : Exn → String
  | .transportError text => text
  | .rpcError text => text
  | .e2eError text => text
  | .configurationError text => text
  | .valueError text => text
  | .unicodeError text => text
  | .runtimeError text => text
  | .structError text => text
  | .native _ text => text
  | _ => ""

inductive MessageType where
  | request
  | requestNoReturn
  | notification
  | requestAck
  | response
  | error
  | responseAck
  | errorAck
  | tpRequest
  | tpRequestNoReturn
  | tpNotification
  deriving DecidableEq, Repr

inductive ReturnCode where
  | eOk
  | eNotOk
  | eUnknownService
  | eUnknownMethod
  | eNotReady
  | eNotReachable
  | eTimeout
  | eWrongProtocolVersion
  | eWrongInterfaceVersion
  | eMalformedMessage
  | eWrongMessageType
  | eE2eRepeated
  | eE2eWrongSequence
  | eE2e
  | eE2eNotAvailable
  | eE2eNoNewData
  deriving DecidableEq, Repr

inductive ProtocolVersion where
  | version1
  deriving DecidableEq, Repr

/-- Its `__post_init__` admits 0..0xFFFF for either half. -/
structure MessageId where
  serviceId : UInt16
  methodId : UInt16
  deriving DecidableEq, Repr

/-- The combined 32-bit message id. -/
def MessageId.value (id : MessageId) : Nat := (id.serviceId.toNat <<< 16) ||| id.methodId.toNat

/-- The text `format(n, "#06x")` of a 16-bit number. -/
def hex06 (n : UInt16) : String :=
  let digits := Nat.toDigits 16 n.toNat
  "0x" ++ String.ofList (List.replicate (4 - digits.length) '0' ++ digits)

def MessageId.repr (id : MessageId) : String :=
  "MessageId(service_id=" ++ hex06 id.serviceId ++ ", method_id=" ++ hex06 id.methodId ++ ")"

/-- The text of `format(n, "#x")`, or with zeros in front that make the sign and the digits
`width` characters. -/
def hexOfInt (width : Nat) (n : Int) : String :=
  let digits := Nat.toDigits 16 n.natAbs
  let sign := if n < 0 then "-" else ""
  sign ++ "0x" ++ String.ofList (List.replicate (width - sign.length - digits.length) '0' ++ digits)

/-- The call `MessageId(service_id=.., method_id=..)` on any two integers. -/
def MessageId.ofInts (serviceId methodId : Int) : Except Exn MessageId :=
  if ¬ (0 ≤ serviceId ∧ serviceId ≤ 0xFFFF) then
    .error (.valueError ("service_id must be 0..0xFFFF, got " ++ hexOfInt 0 serviceId))
  else if ¬ (0 ≤ methodId ∧ methodId ≤ 0xFFFF) then
    .error (.valueError ("method_id must be 0..0xFFFF, got " ++ hexOfInt 0 methodId))
  else .ok ⟨UInt16.ofNat serviceId.toNat, UInt16.ofNat methodId.toNat⟩

structure RequestId where
  clientId : UInt16
  sessionId : UInt16
  deriving DecidableEq, Repr

end OpenSomeIp
