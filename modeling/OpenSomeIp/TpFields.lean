import OpenSomeIp.Lib.Keeping
import OpenSomeIp.TpNative
import OpenSomeIp.Transport

set_option autoImplicit false

namespace OpenSomeIp

/-- A call of `Transport.send`. -/
abbrev SendCall := Message × Option Endpoint

namespace TpManager

variable {τ ω κ : Type}

/-- A transport beside the list of the calls of its `send`, made before it accepts or raises. -/
def logging (transportSend : Message → Option Endpoint → Method Exn τ Unit) (message : Message)
    (endpoint : Option Endpoint) : Method Exn (τ × List SendCall) Unit := do
  Method.modify fun pair => (pair.1, pair.2 ++ [(message, endpoint)])
  Method.beside (transportSend message endpoint)

/-- The manager over the transport with the list. -/
def logged (manager : TpManager τ ω κ) : TpManager (τ × List SendCall) ω κ where
  mtu := manager.mtu
  transportSend := logging manager.transportSend
  cpp := manager.cpp

/-- The calls that one call of `send` makes. -/
def sendCalls (manager : TpManager τ ω κ) (fuel : Nat) (message : Message)
    (endpoint : Option Endpoint) (w : TpWorld τ ω) : List SendCall :=
  (manager.logged.send fuel message endpoint
    { transport := (w.transport, []), native := w.native }).2.transport.2

/-- All fields but the payload are those of the original. -/
def Agrees (message sent : Message) : Prop := { sent with payload := message.payload } = message

instance (message sent : Message) : Decidable (Agrees message sent) :=
  inferInstanceAs (Decidable (_ = _))

/-- The fields that a segment does not take over have their defaults already. -/
def Plain (message : Message) : Prop :=
  message.interfaceVersion = 1 ∧ message.sourceEndpoint = none

/-- The native layer leaves the message to the pure-Python path: one of its calls raises before
it has returned a segment, or it wants the message sent whole and the transport raises. -/
def FallsBack (manager : TpManager τ ω κ) (attempt : NativeAttempt) (message : Message)
    (endpoint : Option Endpoint) (w : TpWorld τ ω) : Prop :=
  (∃ exc, attempt.ending = .raised exc ∧ exc.isException = true) ∨
    attempt.ending = .whole ∧ ∃ exc,
      (manager.transportSend message endpoint w.transport).1 = .error exc ∧ exc.isException = true

/-- At least one segment is built: the native layer returns one, or the payload is too large for
the pure-Python path and this path is taken. -/
def Segments (manager : TpManager τ ω κ) (mtu : Nat) (message : Message)
    (endpoint : Option Endpoint) (w : TpWorld τ ω) : Prop :=
  match manager.cpp with
  | none => mtu < message.payload.length
  | some native =>
      (native.attemptFor mtu message w.native).segments ≠ [] ∨
        mtu < message.payload.length ∧
          manager.FallsBack (native.attemptFor mtu message w.native) message endpoint w

theorem agrees_self (message : Message) : Agrees message message := rfl

/-- A segment agrees with its message exactly if the fields it lacks have their defaults. -/
theorem agrees_segment_iff (message : Message) (payload : Bytes) :
    Agrees message (segment message payload) ↔ Plain message := by
  cases message with
  | mk messageId requestId messageType returnCode protocolVersion interfaceVersion body source =>
      cases protocolVersion with
      | version1 =>
          simp only [Agrees, segment, Plain, Message.mk.injEq, true_and]
          exact ⟨fun same => ⟨same.1.symm, same.2.symm⟩, fun same => ⟨same.1.symm, same.2.symm⟩⟩

section Target

variable {ν ε χ : Type} (transport : Transport ν ε χ)

/-- A segment goes where its message goes exactly if somebody else than the message says where,
or nobody does. -/
theorem target_segment_iff (message : Message) (endpoint : Option Endpoint) (payload : Bytes) :
    transport.target (segment message payload) endpoint = transport.target message endpoint ↔
      (endpoint.or transport.remoteEndpoint).isSome = true ∨ message.sourceEndpoint = none := by
  cases known : endpoint.or transport.remoteEndpoint with
  | some target => simp [Transport.target, known]
  | none =>
      simp only [Transport.target, known, segment, Option.none_or, Option.isSome_none,
        Bool.false_eq_true, false_or]
      exact eq_comm

end Target

/-! ### The native branch over any transport -/

section Native

variable {manager : TpManager τ ω κ} {native : NativeTp ω κ} {message : Message}
variable {endpoint : Option Endpoint} {mtu : Nat} {w : TpWorld τ ω}

/-- The loop without a first segment hands nothing over. -/
theorem sendSegments_of_nil (zero_iff : ∀ result, native.int result = 0 ↔ result = .success)
    {transferId count : Nat} (nothing : (native.pull transferId (count + 1) w.native).1.1 = []) :
    ∃ t, manager.sendSegments native message endpoint transferId (count + 1) w =
      (match (native.pull transferId (count + 1) w.native).1.2 with
        | .raised exc => .error exc
        | _ => .ok (), { w with native := t }) := by
  obtain ⟨t, how⟩ := sendSegments_cases manager zero_iff message endpoint transferId count w
  refine ⟨t, ?_⟩
  rcases how with ⟨exc, pulled, ran⟩ | ⟨result, pulled, ran⟩ | ⟨payload, pulled, -⟩
  · rw [ran, pulled]
  · rw [ran, pulled]
  · rw [pulled] at nothing
    cases nothing

/-- The loop with a first segment hands it over and goes on. -/
theorem sendSegments_of_cons (zero_iff : ∀ result, native.int result = 0 ↔ result = .success)
    {transferId count : Nat} {payload : Bytes} {rest : List Bytes}
    (some_segment : (native.pull transferId (count + 1) w.native).1.1 = payload :: rest) :
    ∃ t, manager.sendSegments native message endpoint transferId (count + 1) w =
      (manager.handOver endpoint (segment message payload) >>= fun _ =>
        manager.sendSegments native message endpoint transferId count) { w with native := t } := by
  obtain ⟨t, how⟩ := sendSegments_cases manager zero_iff message endpoint transferId count w
  refine ⟨t, ?_⟩
  rcases how with ⟨exc, pulled, -⟩ | ⟨result, pulled, -⟩ | ⟨piece, pulled, ran⟩
  · rw [pulled] at some_segment
    cases some_segment
  · rw [pulled] at some_segment
    cases some_segment
  · rw [pulled] at some_segment
    obtain ⟨rfl, -⟩ := List.cons.inj some_segment
    exact ran

end Native

/-! ### The calls that are made -/

section Kept

variable {manager : TpManager τ ω κ} {message : Message} {endpoint : Option Endpoint}
variable {holds : List SendCall → Prop}

/-- What holds of the calls of the transport before holds of them after. -/
def KeepsCalls (holds : List SendCall → Prop) {α : Type}
    (body : Method Exn (TpWorld (τ × List SendCall) ω) α) : Prop :=
  Method.Keeps (fun w => holds w.transport.2) body

theorem KeepsCalls.after {α β : Type} {first : Method Exn (TpWorld (τ × List SendCall) ω) α}
    {next : α → Method Exn (TpWorld (τ × List SendCall) ω) β}
    (tail : ∀ value, KeepsCalls holds (next value)) {w : TpWorld (τ × List SendCall) ω}
    (reached : holds (first w).2.transport.2) : holds ((first >>= next) w).2.transport.2 :=
  @Method.Keeps.after _ _ _ _ (fun w : TpWorld (τ × List SendCall) ω => holds w.transport.2)
    first next tail w reached

theorem onNative_keepsCalls {α : Type} (body : Method Exn ω α) :
    KeepsCalls holds (onNative body : Method Exn (TpWorld (τ × List SendCall) ω) α) := by
  intro w before
  exact before

theorem handOver_calls (manager : TpManager τ ω κ) (message : Message)
    (endpoint : Option Endpoint) (w : TpWorld (τ × List SendCall) ω) :
    (manager.logged.handOver endpoint message w).2.transport.2 =
      w.transport.2 ++ [(message, endpoint)] := rfl

/-- The transport beneath the list decides the outcome. -/
theorem handOver_outcome (manager : TpManager τ ω κ) (message : Message)
    (endpoint : Option Endpoint) (w : TpWorld (τ × List SendCall) ω) :
    (manager.logged.handOver endpoint message w).1 =
      (manager.transportSend message endpoint w.transport.1).1 := rfl

theorem handOver_keepsCalls (whole : ∀ log, holds log → holds (log ++ [(message, endpoint)])) :
    KeepsCalls holds (manager.logged.handOver endpoint message) := by
  intro w before
  rw [handOver_calls]
  exact whole _ before

/-- The pure-Python path sends a message that fits, and nothing else. -/
theorem sendPython_keepsCalls_of_le (fuel : Nat) (small : (message.payload.length : Int) ≤ manager.mtu)
    (whole : ∀ log, holds log → holds (log ++ [(message, endpoint)])) :
    KeepsCalls holds (manager.logged.sendPython fuel message endpoint) := by
  have fits : (message.payload.length : Int) ≤ manager.logged.mtu := small
  rw [sendPython, if_pos fits]
  exact (handOver_keepsCalls whole).bind fun _ => Method.Keeps.pure _

section Segmenting

variable (whole : ∀ log, holds log → holds (log ++ [(message, endpoint)]))
variable (piece : ∀ payload log, holds log → holds (log ++ [(segment message payload, endpoint)]))

include piece

theorem sendSegments_keepsCalls (native : NativeTp ω κ) (transferId count : Nat) :
    KeepsCalls holds
      (manager.logged.sendSegments native message endpoint transferId count) := by
  induction count with
  | zero => exact Method.Keeps.pure ()
  | succ count ih =>
      rw [sendSegments]
      apply (onNative_keepsCalls _).bind
      intro pair
      dsimp only
      split
      · exact Method.Keeps.pure ()
      · exact (handOver_keepsCalls (piece pair.2)).bind fun _ => ih

include whole

theorem sendPython_keepsCalls (fuel : Nat) :
    KeepsCalls holds (manager.logged.sendPython fuel message endpoint) := by
  unfold sendPython
  split
  · exact (handOver_keepsCalls whole).bind fun _ => Method.Keeps.pure _
  · have turn (offset : Int) :
        KeepsCalls holds (manager.logged.sendChunk message endpoint offset) := by
      rw [sendChunk]
      exact (handOver_keepsCalls (piece _)).bind fun _ => Method.Keeps.pure _
    have loop : KeepsCalls holds (manager.logged.sendChunks message endpoint fuel 0) :=
      Method.Keeps.whileLoop turn fuel 0
    exact loop.bind fun _ => Method.Keeps.pure _

theorem sendNative_keepsCalls (native : NativeTp ω κ) :
    KeepsCalls holds (manager.logged.sendNative native message endpoint) := by
  unfold sendNative
  apply (onNative_keepsCalls _).bind
  intro cppMsg
  apply (onNative_keepsCalls _).bind
  intro needed
  split
  · apply (onNative_keepsCalls _).bind
    intro pair
    exact (Method.Keeps.lift _).bind fun quotient =>
      sendSegments_keepsCalls piece native pair.2 _
  · exact handOver_keepsCalls whole

theorem send_keepsCalls (fuel : Nat) :
    KeepsCalls holds (manager.logged.send fuel message endpoint) := by
  unfold send
  split
  · exact sendPython_keepsCalls whole piece fuel
  · apply Method.Keeps.tryExcept
    · exact (sendNative_keepsCalls whole piece _).bind fun _ => Method.Keeps.pure _
    · intro exc
      split
      · exact sendPython_keepsCalls whole piece fuel
      · exact Method.Keeps.raise exc

end Segmenting

end Kept

/-! ### Whether a segment is among them -/

section Among

variable {manager : TpManager τ ω κ} {message : Message} {endpoint : Option Endpoint}
variable {w : TpWorld (τ × List SendCall) ω} {fuel : Nat}

/-- All calls are good ones. -/
def AllCalls (good : SendCall → Prop) (log : List SendCall) : Prop := ∀ call ∈ log, good call

theorem AllCalls.nil {good : SendCall → Prop} : AllCalls good [] := by
  intro call member
  exact absurd member List.not_mem_nil

theorem AllCalls.snoc {good : SendCall → Prop} {call : SendCall} (fine : good call) (log : List SendCall)
    (all : AllCalls good log) : AllCalls good (log ++ [call]) := by
  intro other member
  rcases List.mem_append.mp member with earlier | last
  · exact all other earlier
  · rw [List.mem_singleton.mp last]
    exact fine

/-- A segment of the message was handed over. -/
def SegmentSent (message : Message) (endpoint : Option Endpoint) (log : List SendCall) : Prop :=
  ∃ payload, (segment message payload, endpoint) ∈ log

theorem SegmentSent.snoc {log : List SendCall} (sent : SegmentSent message endpoint log)
    (call : SendCall) : SegmentSent message endpoint (log ++ [call]) := by
  obtain ⟨payload, member⟩ := sent
  exact ⟨payload, List.mem_append_left _ member⟩

/-- A segment that was handed over stays among the calls. -/
theorem segmentSent_kept (message : Message) (endpoint : Option Endpoint) (call : SendCall) :
    ∀ log, SegmentSent message endpoint log → SegmentSent message endpoint (log ++ [call]) :=
  fun _ sent => sent.snoc call

theorem handOver_segmentSent (payload : Bytes) :
    SegmentSent message endpoint
      (manager.logged.handOver endpoint (segment message payload) w).2.transport.2 := by
  refine ⟨payload, ?_⟩
  rw [handOver_calls]
  exact List.mem_append_right _ (List.mem_singleton.mpr rfl)

theorem sendPython_keepsSegmentSent :
    KeepsCalls (SegmentSent message endpoint) (manager.logged.sendPython fuel message endpoint) :=
  sendPython_keepsCalls (segmentSent_kept message endpoint _)
    (fun _ => segmentSent_kept message endpoint _) fuel

/-- The pure-Python path begins with a segment if the message is too large. -/
theorem sendPython_segmentSent (large : ¬ (message.payload.length : Int) ≤ manager.mtu)
    (filled : 0 < message.payload.length) :
    SegmentSent message endpoint
      (manager.logged.sendPython (fuel + 1) message endpoint w).2.transport.2 := by
  have unfit : ¬ (message.payload.length : Int) ≤ manager.logged.mtu := large
  have kept (payload : Bytes) := segmentSent_kept message endpoint (segment message payload, endpoint)
  have turns (offset : Int) : KeepsCalls (SegmentSent message endpoint)
      (manager.logged.sendChunk message endpoint offset) := by
    rw [sendChunk]
    exact (handOver_keepsCalls (kept _)).bind fun _ => Method.Keeps.pure _
  have first : SegmentSent message endpoint
      (manager.logged.sendChunk message endpoint 0 w).2.transport.2 := by
    rw [sendChunk]
    exact KeepsCalls.after (fun _ => Method.Keeps.pure _) (handOver_segmentSent _)
  have loop : SegmentSent message endpoint
      (manager.logged.sendChunks message endpoint (fuel + 1) (0 : Nat) w).2.transport.2 := by
    rw [sendChunks_succ filled]
    exact KeepsCalls.after (Method.Keeps.whileLoop turns fuel) first
  rw [sendPython, if_neg unfit]
  exact KeepsCalls.after (fun _ => Method.Keeps.pure _) loop

end Among

section Sent

variable {manager : TpManager τ ω κ} {native : NativeTp ω κ} {message : Message}
variable {endpoint : Option Endpoint} {mtu : Nat} {w : TpWorld τ ω}

/-- The world with an empty list beside its transport. -/
def unlogged (w : TpWorld τ ω) : TpWorld (τ × List SendCall) ω :=
  { transport := (w.transport, []), native := w.native }

/-- Without a segment, the `try` block hands over nothing but the message, and it ends with an
`Exception` exactly where the message is left to the pure-Python path. -/
theorem sendNative_of_nil (zero_iff : ∀ result, native.int result = 0 ↔ result = .success)
    (positive : 0 < mtu) (size : manager.mtu = mtu)
    (nothing : (native.attemptFor mtu message w.native).segments = []) :
    AllCalls (fun call => call = (message, endpoint))
        (manager.logged.sendNative native message endpoint (unlogged w)).2.transport.2 ∧
      ((∃ exc, (manager.logged.sendNative native message endpoint (unlogged w)).1 = .error exc ∧
          exc.isException = true) ↔
        manager.FallsBack (native.attemptFor mtu message w.native) message endpoint w) := by
  obtain ⟨t, how⟩ := sendNative_cases manager.logged native message endpoint (unlogged w)
  rcases how with ⟨exc, prepared, ran⟩ | ⟨prepared, ran⟩ | ⟨result, transferId, prepared, ran⟩
  · have tried : native.attemptFor mtu message w.native = { ending := .raised exc } :=
      congrArg Prod.fst (prepared _)
    rw [ran, tried]
    refine ⟨AllCalls.nil, ?_⟩
    simp [FallsBack]
  · have tried : native.attemptFor mtu message w.native = { ending := .whole } :=
      congrArg Prod.fst (prepared _)
    rw [ran, tried, handOver_calls, handOver_outcome]
    constructor
    · apply AllCalls.snoc
      · rfl
      · exact AllCalls.nil
    · simp [FallsBack, unlogged]
  · have tried : native.attemptFor mtu message w.native = _ := congrArg Prod.fst (prepared _)
    rw [tried] at nothing
    obtain ⟨u, looped⟩ := @sendSegments_of_nil _ _ _ manager.logged native message endpoint
      { unlogged w with native := t } zero_iff transferId (message.payload.length / mtu + 1) nothing
    have regular := native.pull_ne_whole transferId (message.payload.length / mtu + 2) t
    have sized : manager.logged.mtu = mtu := size
    rw [ran, boundedSegments_eq positive sized, looped]
    refine ⟨AllCalls.nil, ?_⟩
    unfold FallsBack
    rw [tried]
    dsimp only
    cases last : (native.pull transferId (message.payload.length / mtu + 2) t).1.2 with
    | raised exc => simp
    | whole => exact absurd last regular
    | refused result => simp
    | exhausted => simp

/-- With a segment, the `try` block hands it over. -/
theorem sendNative_of_ne_nil (zero_iff : ∀ result, native.int result = 0 ↔ result = .success)
    (positive : 0 < mtu) (size : manager.mtu = mtu)
    (something : (native.attemptFor mtu message w.native).segments ≠ []) :
    SegmentSent message endpoint
      (manager.logged.sendNative native message endpoint (unlogged w)).2.transport.2 := by
  obtain ⟨t, how⟩ := sendNative_cases manager.logged native message endpoint (unlogged w)
  rcases how with ⟨exc, prepared, -⟩ | ⟨prepared, -⟩ | ⟨result, transferId, prepared, ran⟩
  · have tried : native.attemptFor mtu message w.native = { ending := .raised exc } :=
      congrArg Prod.fst (prepared _)
    rw [tried] at something
    exact absurd rfl something
  · have tried : native.attemptFor mtu message w.native = { ending := .whole } :=
      congrArg Prod.fst (prepared _)
    rw [tried] at something
    exact absurd rfl something
  · have tried : native.attemptFor mtu message w.native = _ := congrArg Prod.fst (prepared _)
    rw [tried] at something
    obtain ⟨payload, rest, first⟩ := List.exists_cons_of_ne_nil something
    obtain ⟨u, looped⟩ := @sendSegments_of_cons _ _ _ manager.logged native message endpoint
      { unlogged w with native := t } zero_iff transferId (message.payload.length / mtu + 1)
      payload rest first
    have sized : manager.logged.mtu = mtu := size
    rw [ran, boundedSegments_eq positive sized, looped]
    apply KeepsCalls.after _ (handOver_segmentSent payload)
    intro value
    exact sendSegments_keepsCalls (fun _ => segmentSent_kept message endpoint _) native _ _

variable {fuel : Nat}

/-- What holds of the calls behind the `try` block holds in the end, if the pure-Python path keeps
it where that path is taken. -/
theorem send_keeps_native {holds : List SendCall → Prop} (present : manager.cpp = some native)
    (python : ∀ exc,
      (manager.logged.sendNative native message endpoint (unlogged w)).1 = .error exc →
      exc.isException = true →
      KeepsCalls holds (manager.logged.sendPython fuel message endpoint))
    (reached : holds
      (manager.logged.sendNative native message endpoint (unlogged w)).2.transport.2) :
    holds (manager.sendCalls fuel message endpoint w) := by
  have there : manager.logged.cpp = some native := present
  rw [sendCalls, ← unlogged, send_eq_native there]
  cases ran : manager.logged.sendNative native message endpoint (unlogged w) with
  | mk result u =>
      rw [ran] at python reached
      cases result with
      | ok value => exact reached
      | error exc =>
          by_cases caught : exc.isException = true
          · simp only [if_pos caught]
            exact python exc rfl caught u reached
          · simp only [if_neg caught]
            exact reached

/-- Behind an `Exception` of the `try` block the pure-Python path has the last word. -/
theorem send_of_fallsBack (present : manager.cpp = some native) {exc : Exn}
    (raised : (manager.logged.sendNative native message endpoint (unlogged w)).1 = .error exc)
    (caught : exc.isException = true) :
    ∃ u, manager.sendCalls fuel message endpoint w =
      (manager.logged.sendPython fuel message endpoint u).2.transport.2 := by
  have there : manager.logged.cpp = some native := present
  rw [sendCalls, ← unlogged, send_eq_native there]
  cases ran : manager.logged.sendNative native message endpoint (unlogged w) with
  | mk result u =>
      rw [ran] at raised
      have failed : result = .error exc := raised
      rw [failed]
      simp only [if_pos caught]
      exact ⟨u, rfl⟩

theorem sendCalls_segmentSent
    (zero_iff : ∀ native, manager.cpp = some native → ∀ result,
      native.int result = 0 ↔ result = .success)
    (positive : 0 < mtu) (size : manager.mtu = mtu) (enough : message.payload.length < fuel)
    (segments : manager.Segments mtu message endpoint w) :
    SegmentSent message endpoint (manager.sendCalls fuel message endpoint w) := by
  obtain ⟨turns, rfl⟩ : ∃ turns, fuel = turns + 1 := ⟨fuel - 1, by omega⟩
  cases present : manager.cpp with
  | none =>
      have absent : manager.logged.cpp = none := present
      simp only [Segments, present] at segments
      simp only [sendCalls, send, absent]
      exact sendPython_segmentSent (by omega) (by omega)
  | some native =>
      simp only [Segments, present] at segments
      by_cases nothing : (native.attemptFor mtu message w.native).segments = []
      · rcases segments with something | ⟨large, fallsBack⟩
        · exact absurd nothing something
        · obtain ⟨exc, raised, caught⟩ :=
            (sendNative_of_nil (zero_iff native present) positive size nothing).2.mpr fallsBack
          obtain ⟨u, same⟩ :=
            @send_of_fallsBack _ _ _ _ _ _ _ _ (turns + 1) present exc raised caught
          rw [same]
          exact sendPython_segmentSent (by omega) (by omega)
      · exact send_keeps_native present (fun _ _ _ => sendPython_keepsSegmentSent)
          (sendNative_of_ne_nil (zero_iff native present) positive size nothing)

/-- Where no segment is built, the message itself is all that is handed over. -/
theorem sendCalls_of_whole
    (zero_iff : ∀ native, manager.cpp = some native → ∀ result,
      native.int result = 0 ↔ result = .success)
    (positive : 0 < mtu) (size : manager.mtu = mtu)
    (whole : ¬ manager.Segments mtu message endpoint w) :
    AllCalls (fun call => call = (message, endpoint))
      (manager.sendCalls fuel message endpoint w) := by
  have python (small : message.payload.length ≤ mtu) :
      KeepsCalls (AllCalls fun call => call = (message, endpoint))
        (manager.logged.sendPython fuel message endpoint) :=
    sendPython_keepsCalls_of_le fuel (by omega) (AllCalls.snoc rfl)
  cases present : manager.cpp with
  | none =>
      have absent : manager.logged.cpp = none := present
      simp only [Segments, present, Nat.not_lt] at whole
      simp only [sendCalls, send, absent]
      exact python whole _ AllCalls.nil
  | some native =>
      simp only [Segments, present, not_or, not_not, not_and] at whole
      obtain ⟨nothing, fits⟩ := whole
      obtain ⟨only, ended⟩ :=
        @sendNative_of_nil _ _ _ _ _ message endpoint _ w (zero_iff native present) positive size
          nothing
      apply send_keeps_native present _ only
      intro exc raised caught
      apply python
      by_cases small : message.payload.length ≤ mtu
      · exact small
      · exact absurd (ended.mp ⟨exc, raised, caught⟩) (fits (Nat.lt_of_not_le small))

/-- Every call hands over the message or a segment of it, with the endpoint given. -/
theorem sendCalls_among :
    AllCalls (fun call => call = (message, endpoint) ∨
        ∃ payload, call = (segment message payload, endpoint))
      (manager.sendCalls fuel message endpoint w) :=
  send_keepsCalls (AllCalls.snoc (.inl rfl)) (fun payload => AllCalls.snoc (.inr ⟨payload, rfl⟩))
    fuel (unlogged w) AllCalls.nil

/-- What the message meets, and a segment of it under a condition, all calls meet exactly if no
segment is built or the condition holds. -/
theorem sendCalls_all_iff
    (zero_iff : ∀ native, manager.cpp = some native → ∀ result,
      native.int result = 0 ↔ result = .success)
    (positive : 0 < mtu) (size : manager.mtu = mtu) (enough : message.payload.length < fuel)
    {good : SendCall → Prop} {condition : Prop} (whole : good (message, endpoint))
    (piece : ∀ payload, good (segment message payload, endpoint) ↔ condition) :
    (∀ call ∈ manager.sendCalls fuel message endpoint w, good call) ↔
      ¬ manager.Segments mtu message endpoint w ∨ condition := by
  by_cases segments : manager.Segments mtu message endpoint w
  · obtain ⟨payload, sent⟩ := sendCalls_segmentSent zero_iff positive size enough segments
    constructor
    · intro all
      exact .inr ((piece payload).mp (all _ sent))
    · intro either
      have holds : condition := either.resolve_left (not_not_intro segments)
      intro call member
      rcases sendCalls_among call member with rfl | ⟨other, rfl⟩
      · exact whole
      · exact (piece other).mpr holds
  · apply iff_of_true _ (.inl segments)
    intro call member
    rw [sendCalls_of_whole zero_iff positive size segments call member]
    exact whole

end Sent

/-- Every message handed to the transport agrees with the original in all fields but the payload,
and goes where that goes, exactly if no segment is built or the original has the defaults of the
fields that a segment lacks. Where it goes alone depends on the source endpoint. -/
theorem send_fields_iff {ν ε χ : Type} (manager : TpManager τ ω κ)
    (zero_iff : ∀ native, manager.cpp = some native → ∀ result,
      native.int result = 0 ↔ result = .success)
    (mtu : Nat) (positive : 1 ≤ mtu) (size : manager.mtu = mtu) (message : Message)
    (endpoint : Option Endpoint) (w : TpWorld τ ω) (fuel : Nat)
    (enough : message.payload.length < fuel) :
    ((∀ call ∈ manager.sendCalls fuel message endpoint w, Agrees message call.1 ∧
        ∀ transport : Transport ν ε χ,
          transport.target call.1 call.2 = transport.target message endpoint) ↔
      ¬ manager.Segments mtu message endpoint w ∨ Plain message) ∧
    ∀ transport : Transport ν ε χ,
      (∀ call ∈ manager.sendCalls fuel message endpoint w,
          transport.target call.1 call.2 = transport.target message endpoint) ↔
        ¬ manager.Segments mtu message endpoint w ∨
          (endpoint.or transport.remoteEndpoint).isSome = true ∨ message.sourceEndpoint = none := by
  constructor
  · apply sendCalls_all_iff zero_iff positive size enough
    · exact ⟨agrees_self message, fun _ => rfl⟩
    · intro payload
      rw [agrees_segment_iff]
      constructor
      · exact fun fine => fine.1
      · intro plain
        refine ⟨plain, fun transport => ?_⟩
        exact (target_segment_iff transport message endpoint payload).mpr (.inr plain.2)
  · intro transport
    apply sendCalls_all_iff zero_iff positive size enough
    · rfl
    · intro payload
      exact target_segment_iff transport message endpoint payload

/-- A manager without its native part, over a transport that takes every message. -/
def takingManager (mtu : Int) : TpManager Unit Unit Unit where
  mtu := mtu
  transportSend := fun _ _ => pure ()

/-- A transport without a peer. -/
def unaddressedTransport : Transport Unit Unit Unit where
  localEndpoint := ⟨"10.0.0.1", 30490⟩

/-- A large message with the default fields. -/
theorem send_fields_iff_plain :
    ∃ call ∈ (takingManager (2 : Nat)).sendCalls 4 { payload := [1, 2, 3] } none
        { transport := (), native := () },
      Agrees { payload := [1, 2, 3] } call.1 ∧
        unaddressedTransport.target call.1 call.2 =
          unaddressedTransport.target { payload := [1, 2, 3] } none := by
  have fields := @send_fields_iff _ _ _ Unit Unit Unit (takingManager (2 : Nat)) nofun 2 (by decide)
    rfl { payload := [1, 2, 3] } none { transport := (), native := () } 4 (by decide)
  have all := fields.1.mpr (.inr ⟨rfl, rfl⟩)
  have sent : (({ payload := [1, 2] }, none) : SendCall) ∈ (takingManager (2 : Nat)).sendCalls 4
      { payload := [1, 2, 3] } none { transport := (), native := () } := by decide
  exact ⟨_, sent, (all _ sent).1, (all _ sent).2 unaddressedTransport⟩

/-- The answer to a request of `10.0.0.9`, at the second version of the interface. -/
def versionedReply : Message where
  interfaceVersion := 2
  payload := [1, 2, 3]
  sourceEndpoint := some ⟨"10.0.0.9", 30509⟩

/-- Its segments have the first version, and no target. -/
theorem segments_lose_fields :
    ∃ call ∈ (takingManager (2 : Nat)).sendCalls 4 versionedReply none
        { transport := (), native := () },
      ¬ Agrees versionedReply call.1 ∧ call.1.interfaceVersion = 1 ∧
        unaddressedTransport.target versionedReply none = some ⟨"10.0.0.9", 30509⟩ ∧
        unaddressedTransport.target call.1 call.2 = none := by
  have sent : (segment versionedReply [1, 2], none) ∈ (takingManager (2 : Nat)).sendCalls 4
      versionedReply none { transport := (), native := () } := by decide
  exact ⟨_, sent, by decide, rfl, rfl, rfl⟩

end TpManager

end OpenSomeIp
