import OpenSomeIp.ResponderSystem
import OpenSomeIp.Serialization

set_option autoImplicit false

namespace OpenSomeIp

open Method

/-! ### The calculator's script -/

/-- The globals of the script. -/
structure CalculatorGlobals where
  totalCalls : Nat := 0
  deriving DecidableEq, Repr

namespace Calculator

def serviceId : UInt16 := 0x2000
def addMethodId : UInt16 := 0x0001
def multiplyMethodId : UInt16 := 0x0002
def getStatsMethodId : UInt16 := 0x0003

/-- As `struct.unpack("!ii", ..)`. -/
def unpackPair (bytes : Bytes) : Except Exn (Int × Int) :=
  if bytes.length = 8 then
    .ok (BigEndian.decodeSigned (bytes.take 4), BigEndian.decodeSigned (bytes.drop 4))
  else .error (.structError "unpack requires a buffer of 8 bytes")

/-- The handler of an operation on two numbers. -/
def handleOperation (operation : Int → Int → Int) (payload : Bytes) :
    Method Exn CalculatorGlobals Bytes :=
  if payload.length < 8 then pure []
  else do
    let operands ← Method.lift (unpackPair (payload.take 8))
    let result := operation operands.1 operands.2
    Method.modify fun self => { self with totalCalls := self.totalCalls + 1 }
    Method.lift (IntFormat.i.pack result)

def handleAdd : Bytes → Method Exn CalculatorGlobals Bytes := handleOperation (· + ·)

def handleMultiply : Bytes → Method Exn CalculatorGlobals Bytes := handleOperation (· * ·)

def handleGetStats (_payload : Bytes) : Method Exn CalculatorGlobals Bytes := do
  let self ← Method.get
  Method.lift (IntFormat.I.pack self.totalCalls)

def handlers (methodId : UInt16) : Option (Bytes → Method Exn CalculatorGlobals Bytes) :=
  if methodId = addMethodId then some handleAdd
  else if methodId = multiplyMethodId then some handleMultiply
  else if methodId = getStatsMethodId then some handleGetStats
  else none

def script : Responder CalculatorGlobals where
  handler msg :=
    if msg.messageId.serviceId = serviceId ∧ msg.messageType = .request then
      handlers msg.messageId.methodId
    else none

/-! ### What it is for -/

/-- What a message asks the calculator for. -/
inductive Request where
  | result (n : Int)
  | short
  | stats
  deriving DecidableEq, Repr

/-- An operation on the two numbers that a payload starts with. -/
def operand (operation : Int → Int → Int) (payload : Bytes) : Request :=
  if payload.length < 8 then .short
  else .result (operation (BigEndian.decodeSigned (payload.take 4))
    (BigEndian.decodeSigned ((payload.drop 4).take 4)))

def request (msg : Message) : Option Request :=
  if msg.messageId.serviceId = serviceId ∧ msg.messageType = .request then
    if msg.messageId.methodId = addMethodId then some (operand (· + ·) msg.payload)
    else if msg.messageId.methodId = multiplyMethodId then some (operand (· * ·) msg.payload)
    else if msg.messageId.methodId = getStatsMethodId then some .stats
    else none
  else none

/-- The calls that the statistics count. -/
def counted : Option Request → Nat
  | some (.result _) => 1
  | _ => 0

/-- The calculator has an answer of four bytes. -/
def Fits (count : Nat) : Option Request → Prop
  | some (.result n) => IntFormat.i.Holds n
  | some .stats => IntFormat.I.Holds count
  | _ => True

def answerPayload (count : Nat) : Request → Bytes
  | .result n => BigEndian.encodeSigned 4 n
  | .short => []
  | .stats => BigEndian.encode 4 count

/-- The answers to a list of messages, that many calls into the statistics. -/
def answers (count : Nat) : List Message → List (Message × Message)
  | [] => []
  | msg :: rest =>
      ((request msg).map fun asked =>
        (msg, Responder.response msg (answerPayload count asked))).toList ++
      answers (count + counted (request msg)) rest

def total (count : Nat) : List Message → Nat
  | [] => count
  | msg :: rest => total (count + counted (request msg)) rest

/-- Every message of the list fits where it stands. -/
def AllFit (count : Nat) : List Message → Prop
  | [] => True
  | msg :: rest => Fits count (request msg) ∧ AllFit (count + counted (request msg)) rest

/-! ### One request -/

theorem handleOperation_short {operation : Int → Int → Int} {payload : Bytes}
    (short : payload.length < 8) (count : Nat) :
    handleOperation operation payload ⟨count⟩ = (.ok [], ⟨count⟩) := by
  rw [handleOperation, if_pos short]
  rfl

theorem handleOperation_long {operation : Int → Int → Int} {payload : Bytes}
    (long : ¬ payload.length < 8) (count : Nat) :
    handleOperation operation payload ⟨count⟩ =
      (IntFormat.i.pack (operation (BigEndian.decodeSigned (payload.take 4))
        (BigEndian.decodeSigned ((payload.drop 4).take 4))), ⟨count + 1⟩) := by
  have size : (payload.take 8).length = 8 := by
    rw [List.length_take]
    omega
  have first : (payload.take 8).take 4 = payload.take 4 := by
    rw [List.take_take]
    rfl
  have second : (payload.take 8).drop 4 = (payload.drop 4).take 4 := by
    rw [List.drop_take]
  rw [handleOperation, if_neg long]
  simp only [unpackPair, size, ↓reduceIte, first, second, Method.bind_apply, Method.lift_apply,
    Method.modify_apply]

theorem pack_operation {n : Int} (fits : IntFormat.i.Holds n) :
    IntFormat.i.pack n = .ok (BigEndian.encodeSigned 4 n) := if_pos fits

theorem pack_stats {count : Nat} (fits : IntFormat.I.Holds count) :
    IntFormat.I.pack count = .ok (BigEndian.encode 4 count) := if_pos fits

theorem pack_of_unfit {f : IntFormat} {v : Int} (unfit : ¬ f.Holds v) :
    f.pack v = .error (.structError "argument out of range") := if_neg unfit

/-- What a handler that answers `asked` does. -/
structure Handles (handler : Bytes → Method Exn CalculatorGlobals Bytes) (payload : Bytes)
    (asked : Request) : Prop where
  fits : ∀ count, Fits count (some asked) → handler payload ⟨count⟩ =
    (.ok (answerPayload count asked), ⟨count + counted (some asked)⟩)
  unfit : ∀ count, ¬ Fits count (some asked) →
    ∃ exc, handler payload ⟨count⟩ = (.error exc, ⟨count + counted (some asked)⟩)

theorem handles_operation (operation : Int → Int → Int) (payload : Bytes) :
    Handles (handleOperation operation) payload (operand operation payload) := by
  by_cases short : payload.length < 8
  · rw [operand, if_pos short]
    refine ⟨fun count _ => handleOperation_short short count, ?_⟩
    exact fun count unfit => absurd trivial unfit
  · rw [operand, if_neg short]
    constructor
    · intro count fits
      rw [handleOperation_long short, pack_operation fits]
      rfl
    · intro count unfit
      have large : ¬ IntFormat.i.Holds _ := unfit
      rw [handleOperation_long short, pack_of_unfit large]
      exact ⟨_, rfl⟩

theorem handles_getStats (payload : Bytes) : Handles handleGetStats payload .stats := by
  constructor
  · intro count fits
    simp only [handleGetStats, Method.bind_apply, Method.get_apply, Method.lift_apply]
    rw [pack_stats fits]
    rfl
  · intro count unfit
    simp only [handleGetStats, Method.bind_apply, Method.get_apply, Method.lift_apply]
    have large : ¬ IntFormat.I.Holds count := unfit
    rw [pack_of_unfit large]
    exact ⟨_, rfl⟩

theorem script_handler (msg : Message) : script.handler msg =
    if msg.messageId.serviceId = serviceId ∧ msg.messageType = .request then
      handlers msg.messageId.methodId
    else none := rfl

/-- The script knows a handler for what a message asks for, and for nothing else. -/
theorem handler_of_request (msg : Message) :
    (request msg = none ∧ script.handler msg = none) ∨
      ∃ asked handler, request msg = some asked ∧ script.handler msg = some handler ∧
        Handles handler msg.payload asked := by
  by_cases asks : msg.messageId.serviceId = serviceId ∧ msg.messageType = .request
  · by_cases add : msg.messageId.methodId = addMethodId
    · refine .inr ⟨operand (· + ·) msg.payload, handleAdd, ?_, ?_, handles_operation _ _⟩
      · rw [request, if_pos asks, if_pos add]
      · rw [script_handler, if_pos asks, handlers, if_pos add]
    · by_cases multiply : msg.messageId.methodId = multiplyMethodId
      · refine .inr ⟨operand (· * ·) msg.payload, handleMultiply, ?_, ?_, handles_operation _ _⟩
        · rw [request, if_pos asks, if_neg add, if_pos multiply]
        · rw [script_handler, if_pos asks, handlers, if_neg add, if_pos multiply]
      · by_cases stats : msg.messageId.methodId = getStatsMethodId
        · refine .inr ⟨.stats, handleGetStats, ?_, ?_, handles_getStats _⟩
          · rw [request, if_pos asks, if_neg add, if_neg multiply, if_pos stats]
          · rw [script_handler, if_pos asks, handlers, if_neg add, if_neg multiply, if_pos stats]
        · refine .inl ⟨?_, ?_⟩
          · rw [request, if_pos asks, if_neg add, if_neg multiply, if_neg stats]
          · rw [script_handler, if_pos asks, handlers, if_neg add, if_neg multiply, if_neg stats]
  · refine .inl ⟨?_, ?_⟩
    · rw [request, if_neg asks]
    · rw [script_handler, if_neg asks]

theorem answer_of_fits {msg : Message} {count : Nat} (fits : Fits count (request msg)) :
    script.answer msg ⟨count⟩ =
      (.ok ((request msg).map fun asked => Responder.response msg (answerPayload count asked)),
        ⟨count + counted (request msg)⟩) := by
  rcases handler_of_request msg with ⟨nothing, unknown⟩ | ⟨asked, handler, asks, known, handles⟩
  · rw [Responder.answer_of_unknown unknown, nothing]
    rfl
  · rw [asks] at fits ⊢
    rw [Responder.answer_of_known known, Method.bind_of_ok (handles.fits count fits)]
    rfl

/-- The count goes up before the result is packed. -/
theorem answer_of_unfit {msg : Message} {count : Nat} (unfit : ¬ Fits count (request msg)) :
    ∃ exc, script.answer msg ⟨count⟩ = (.error exc, ⟨count + counted (request msg)⟩) := by
  rcases handler_of_request msg with ⟨nothing, unknown⟩ | ⟨asked, handler, asks, known, handles⟩
  · rw [nothing] at unfit
    exact absurd trivial unfit
  · rw [asks] at unfit ⊢
    obtain ⟨exc, raised⟩ := handles.unfit count unfit
    refine ⟨exc, ?_⟩
    rw [Responder.answer_of_known known, Method.bind_of_error raised]

/-- Answered or not, a message is counted if it asks for an operation. -/
theorem answer_globals (msg : Message) (count : Nat) :
    (script.answer msg ⟨count⟩).2 = ⟨count + counted (request msg)⟩ := by
  by_cases fits : Fits count (request msg)
  · rw [answer_of_fits fits]
  · obtain ⟨exc, raised⟩ := answer_of_unfit fits
    rw [raised]

/-! ### A list of requests -/

theorem serve_of_allFit {msgs : List Message} {count : Nat} (fits : AllFit count msgs) :
    script.serve msgs ⟨count⟩ = (.ok (answers count msgs), ⟨total count msgs⟩) := by
  induction msgs generalizing count with
  | nil => rfl
  | cons msg rest ih =>
      rw [Responder.serve_cons_of_ok (answer_of_fits fits.1) (ih fits.2), Option.map_map]
      rfl

theorem allFit_of_serve {msgs : List Message} {count : Nat} {pairs : List (Message × Message)}
    {after : CalculatorGlobals} (ran : script.serve msgs ⟨count⟩ = (.ok pairs, after)) :
    AllFit count msgs := by
  induction msgs generalizing count pairs with
  | nil => trivial
  | cons msg rest ih =>
      obtain ⟨result, middle, others, head, tail, _⟩ := Responder.serve_cons_eq_ok ran
      by_cases fits : Fits count (request msg)
      · rw [answer_of_fits fits] at head
        obtain ⟨_, rfl⟩ := Prod.mk.inj head
        exact ⟨fits, ih tail⟩
      · obtain ⟨exc, raised⟩ := answer_of_unfit fits
        rw [raised] at head
        cases head

theorem total_snoc (count : Nat) (msgs : List Message) (msg : Message) :
    total count (msgs ++ [msg]) = total count msgs + counted (request msg) := by
  induction msgs generalizing count with
  | nil => rfl
  | cons first rest ih => exact ih _

/-! ### The calculator on a network -/

section Run

variable {ι ω : Type} [DecidableEq ι] {transport : ι → AnyTransport ω CppEndpoint CppMessage}
  {address : ι → Endpoint} {outbox : ω → List Parcel} {server : ι}
  {t : Serving ι ω CalculatorGlobals} {acts : List (ServingAct ι)}

/-- In every run of the calculator on any network, the requests that it has got through are those
whose results fit into four bytes, it has sent the right response to each of them in their order,
and the statistics count the operations among them. While its loop is at a request, these are all
that its receiver has yielded but this one; when it has ended they may be all but the last, which
then is counted too. -/
theorem serves_in_order (posts : ∀ i, (transport i).Posts outbox) (native : ι → ω)
    (ran : Transition.run (Serving.step transport address outbox server script)
      (Serving.new native {}) acts = some t) :
    ∃ done, done <+: t.link.taken server ∧ AllFit 0 done ∧
      List.Forall₂ (Serving.Sends transport server) (answers 0 done) (t.link.callsBy server) ∧
      (t.loop = .waiting →
        done = t.link.taken server ∧ t.globals.totalCalls = total 0 done) ∧
      (∀ msg, t.loop = .handling msg →
        done ++ [msg] = t.link.taken server ∧ t.globals.totalCalls = total 0 done) ∧
      (t.loop = .ended →
        (done = t.link.taken server ∨ ∃ msg, done ++ [msg] = t.link.taken server) ∧
          t.globals.totalCalls = total 0 (t.link.taken server)) := by
  have preserved (s : Serving ι ω CalculatorGlobals) (act : ServingAct ι)
      (t : Serving ι ω CalculatorGlobals) (before : s.Served transport server script {})
      (stepped : s.step transport address outbox server script act = some t) :
      t.Served transport server script {} := Serving.served_step posts before stepped
  obtain ⟨done, pairs, globals, progress⟩ :=
    Transition.invariant_run preserved (Serving.served_new native) ran
  have fits : AllFit 0 done := allFit_of_serve progress.ran
  obtain ⟨same, count⟩ := Prod.mk.inj (progress.ran.symm.trans (serve_of_allFit fits))
  obtain rfl := Except.ok.inj same
  have counts : globals.totalCalls = total 0 done := congrArg CalculatorGlobals.totalCalls count
  refine ⟨done, progress.front, fits, progress.sent, fun at_ => ?_, fun msg at_ => ?_,
    fun at_ => ?_⟩
  · obtain ⟨all, held⟩ := progress.waiting at_
    exact ⟨all, held ▸ counts⟩
  · obtain ⟨all, held⟩ := progress.handling msg at_
    exact ⟨all, held ▸ counts⟩
  · rcases progress.ended at_ with ⟨all, held⟩ | ⟨msg, all, handled⟩
    · exact ⟨.inl all, all ▸ held ▸ counts⟩
    · refine ⟨.inr ⟨msg, all⟩, ?_⟩
      rw [count, answer_globals] at handled
      rw [← handled, ← all, total_snoc]

/-- Two plus forty. -/
def addition : Message where
  messageId := ⟨serviceId, addMethodId⟩
  payload := [0, 0, 0, 2, 0, 0, 0, 40]

theorem serves_in_order_addition :
    ∃ t, Transition.run (Serving.step Link.pair Link.pairAddress id true script)
        (Serving.new (fun _ => []) {}) (Serving.roundTrip addition) = some t ∧
      (t.link.taken false).map Message.payload = [[0, 0, 0, 42]] ∧
      ∃ done, done <+: t.link.taken true ∧ AllFit 0 done ∧
        List.Forall₂ (Serving.Sends Link.pair true) (answers 0 done) (t.link.callsBy true) ∧
        (t.loop = .waiting →
          done = t.link.taken true ∧ t.globals.totalCalls = total 0 done) ∧
        (∀ msg, t.loop = .handling msg →
          done ++ [msg] = t.link.taken true ∧ t.globals.totalCalls = total 0 done) ∧
        (t.loop = .ended →
          (done = t.link.taken true ∨ ∃ msg, done ++ [msg] = t.link.taken true) ∧
            t.globals.totalCalls = total 0 (t.link.taken true)) := by
  have reached : (Transition.run (Serving.step Link.pair Link.pairAddress id true script)
      (Serving.new (fun _ => []) {}) (Serving.roundTrip addition)).map
        (fun t => (t.link.taken false).map Message.payload) = some [[0, 0, 0, 42]] := by
    decide +kernel
  obtain ⟨t, ran, returned⟩ := Option.map_eq_some_iff.mp reached
  exact ⟨t, ran, returned, serves_in_order Link.pair_posts (fun _ => []) ran⟩

end Run

end Calculator

end OpenSomeIp
