import OpenSomeIp.Tp

set_option autoImplicit false

namespace OpenSomeIp

/-- How the native calls made for one message come to their end: a call raises, the message
needs no segmentation, `get_next_segment` returns a result other than `SUCCESS`, or as many
calls were made as the loop allows. -/
inductive NativeEnding where
  | raised (exc : Exn)
  | whole
  | refused (result : TpResult)
  | exhausted
  deriving DecidableEq, Repr

/-- What the native calls made for one message return: the result of `segment_message`, when
that call is made and returns, and the payloads that came with `SUCCESS`. -/
structure NativeAttempt where
  result : Option TpResult := none
  segments : List Bytes := []
  ending : NativeEnding
  deriving DecidableEq, Repr

namespace NativeTp

variable {ω κ : Type}

/-- At most `count` calls of `get_next_segment`. -/
def pull (native : NativeTp ω κ) (transferId : Nat) : Nat → ω → (List Bytes × NativeEnding) × ω
  | 0, s => (([], .exhausted), s)
  | count + 1, s =>
      match native.getNextSegment transferId s with
      | (.error exc, t) => (([], .raised exc), t)
      | (.ok (result, payload), t) =>
          if result = .success then
            ((payload :: (native.pull transferId count t).1.1,
              (native.pull transferId count t).1.2), (native.pull transferId count t).2)
          else (([], .refused result), t)

theorem pull_of_error {native : NativeTp ω κ} {transferId : Nat} {s t : ω} {exc : Exn}
    (call : native.getNextSegment transferId s = (.error exc, t)) (count : Nat) :
    native.pull transferId (count + 1) s = (([], .raised exc), t) := by
  simp only [pull, call]

theorem pull_of_success {native : NativeTp ω κ} {transferId : Nat} {s t : ω} {payload : Bytes}
    (call : native.getNextSegment transferId s = (.ok (.success, payload), t)) (count : Nat) :
    native.pull transferId (count + 1) s =
      ((payload :: (native.pull transferId count t).1.1, (native.pull transferId count t).1.2),
        (native.pull transferId count t).2) := by
  simp only [pull, call, ↓reduceIte]

theorem pull_of_refused {native : NativeTp ω κ} {transferId : Nat} {s t : ω} {payload : Bytes}
    {result : TpResult} (call : native.getNextSegment transferId s = (.ok (result, payload), t))
    (refused : result ≠ .success) (count : Nat) :
    native.pull transferId (count + 1) s = (([], .refused result), t) := by
  simp only [pull, call, refused, ↓reduceIte]

theorem pull_ne_whole (native : NativeTp ω κ) (transferId : Nat) :
    ∀ (count : Nat) (s : ω), (native.pull transferId count s).1.2 ≠ .whole := by
  intro count
  induction count with
  | zero =>
      intro s
      exact nofun
  | succ count ih =>
      intro s
      unfold pull
      split
      · exact nofun
      · split
        · exact ih _
        · exact nofun

/-- The native calls for one message, none of whose segments is refused by the transport. -/
def attempt (native : NativeTp ω κ) (message : Message) (maxSegments : Nat) (s : ω) :
    NativeAttempt × ω :=
  match native.toCppMessage message s with
  | (.error exc, t) => ({ ending := .raised exc }, t)
  | (.ok cppMsg, t) =>
      match native.needsSegmentation cppMsg t with
      | (.error exc, u) => ({ ending := .raised exc }, u)
      | (.ok false, u) => ({ ending := .whole }, u)
      | (.ok true, u) =>
          match native.segmentMessage cppMsg u with
          | (.error exc, v) => ({ ending := .raised exc }, v)
          | (.ok (result, transferId), v) =>
              ({ result := some result
                 segments := (native.pull transferId maxSegments v).1.1
                 ending := (native.pull transferId maxSegments v).1.2 },
                (native.pull transferId maxSegments v).2)

/-- What the native calls return within the loop bound of `send`. -/
def attemptFor (native : NativeTp ω κ) (mtu : Nat) (message : Message) (s : ω) : NativeAttempt :=
  (native.attempt message (message.payload.length / mtu + 2) s).1

/-- A message that needs no segmentation is not segmented. -/
theorem result_of_whole {native : NativeTp ω κ} {message : Message} {count : Nat} {s : ω}
    (whole : (native.attempt message count s).1.ending = .whole) :
    (native.attempt message count s).1.result = none := by
  cases converted : native.toCppMessage message s with
  | mk first t =>
      cases first with
      | error exc => simp only [attempt, converted]
      | ok cppMsg =>
          cases asked : native.needsSegmentation cppMsg t with
          | mk second u =>
              cases second with
              | error exc => simp only [attempt, converted, asked]
              | ok needed =>
                  cases needed with
                  | false => simp only [attempt, converted, asked]
                  | true =>
                      cases segmented : native.segmentMessage cppMsg u with
                      | mk third v =>
                          cases third with
                          | error exc => simp only [attempt, converted, asked, segmented]
                          | ok pair =>
                              simp only [attempt, converted, asked, segmented] at whole
                              exact absurd whole (native.pull_ne_whole _ _ _)

end NativeTp

namespace NativeAttempt

/-- The segmentation is refused, or it breaks off before all of the payload was produced. -/
def Fails (a : NativeAttempt) (payload : Bytes) : Prop :=
  (∃ result, a.result = some result ∧ result ≠ .success) ∨
    ∃ result, a.ending = .refused result ∧ a.segments.flatten ≠ payload

def Raises (a : NativeAttempt) : Prop := ∃ exc, a.ending = .raised exc

/-- The segments make up the whole payload. -/
def Covers (a : NativeAttempt) (payload : Bytes) : Prop :=
  a.segments ≠ [] ∧ a.segments.flatten = payload

/-- The outcome of the `try` block. -/
def outcome (a : NativeAttempt) : Except Exn Unit :=
  match a.ending with
  | .raised exc => .error exc
  | _ => .ok ()

/-- The messages that the `try` block hands over. -/
def messages (a : NativeAttempt) (message : Message) : List Message :=
  match a.ending with
  | .whole => [message]
  | _ => a.segments.map (TpManager.segment message)

theorem messages_of_ne_whole {a : NativeAttempt} (regular : a.ending ≠ .whole)
    (message : Message) : a.messages message = a.segments.map (TpManager.segment message) := by
  unfold messages
  split
  · rename_i ended
    exact absurd ended regular
  · rfl

end NativeAttempt

namespace TpManager

variable {ω κ : Type} {manager : TpManager (List (Message × Option Endpoint)) ω κ}
variable {native : NativeTp ω κ} {message : Message} {endpoint : Option Endpoint}

/-- The call of a native method in the world of the manager. -/
theorem onNative_of_eq {τ α : Type} {call : Method Exn ω α} {result : Except Exn α} {after : ω}
    {w : TpWorld τ ω} (ran : call w.native = (result, after)) :
    onNative call w = (result, { w with native := after }) := by
  rw [onNative, Method.zoom_apply, ran]

/-- One turn of the loop over the segments: the native call raises or refuses and the loop ends, or
it returns a segment, which is handed over. -/
theorem sendSegments_cases {τ : Type} (manager : TpManager τ ω κ)
    (zero_iff : ∀ result, native.int result = 0 ↔ result = .success) (message : Message)
    (endpoint : Option Endpoint) (transferId count : Nat) (w : TpWorld τ ω) :
    ∃ t,
      (∃ exc, native.pull transferId (count + 1) w.native = (([], .raised exc), t) ∧
        manager.sendSegments native message endpoint transferId (count + 1) w =
          (.error exc, { w with native := t })) ∨
      (∃ result, native.pull transferId (count + 1) w.native = (([], .refused result), t) ∧
        manager.sendSegments native message endpoint transferId (count + 1) w =
          (.ok (), { w with native := t })) ∨
      ∃ payload,
        native.pull transferId (count + 1) w.native =
          ((payload :: (native.pull transferId count t).1.1, (native.pull transferId count t).1.2),
            (native.pull transferId count t).2) ∧
        manager.sendSegments native message endpoint transferId (count + 1) w =
          (manager.handOver endpoint (segment message payload) >>= fun _ =>
            manager.sendSegments native message endpoint transferId count)
              { w with native := t } := by
  cases call : native.getNextSegment transferId w.native with
  | mk result after =>
      have next := onNative_of_eq call
      refine ⟨after, ?_⟩
      cases result with
      | error exc =>
          rw [sendSegments, Method.bind_of_error next]
          exact .inl ⟨exc, NativeTp.pull_of_error call count, rfl⟩
      | ok pair =>
          cases pair with
          | mk segResult payload =>
              rw [sendSegments, Method.bind_of_ok next]
              by_cases more : segResult = .success
              · have zero : ¬ native.int segResult ≠ 0 := by
                  rw [not_not]
                  exact (zero_iff segResult).mpr more
                rw [more] at call
                simp only [if_neg zero]
                exact .inr (.inr ⟨payload, NativeTp.pull_of_success call count, rfl⟩)
              · have nonzero : native.int segResult ≠ 0 := by
                  intro zero
                  exact more ((zero_iff segResult).mp zero)
                simp only [if_pos nonzero]
                exact .inr (.inl ⟨segResult, NativeTp.pull_of_refused call more count, rfl⟩)

/-- The loop over the segments hands over what the native layer produces. -/
theorem sendSegments_accept (accepts : manager.transportSend = accept)
    (zero_iff : ∀ result, native.int result = 0 ↔ result = .success) (transferId : Nat) :
    ∀ (count : Nat) (w : TpWorld (List (Message × Option Endpoint)) ω),
      manager.sendSegments native message endpoint transferId count w =
        ((match (native.pull transferId count w.native).1.2 with
          | .raised exc => .error exc
          | _ => .ok ()),
          handed endpoint ((native.pull transferId count w.native).1.1.map (segment message))
            { w with native := (native.pull transferId count w.native).2 }) := by
  intro count
  induction count with
  | zero =>
      intro w
      rw [sendSegments, NativeTp.pull, List.map_nil, handed_nil]
      rfl
  | succ count ih =>
      intro w
      obtain ⟨t, how⟩ := sendSegments_cases manager zero_iff message endpoint transferId count w
      rcases how with ⟨exc, pulled, ran⟩ | ⟨result, pulled, ran⟩ | ⟨payload, pulled, ran⟩
      · rw [ran, pulled, List.map_nil, handed_nil]
      · rw [ran, pulled, List.map_nil, handed_nil]
      · rw [ran, pulled, Method.bind_of_ok (handOver_accept accepts (segment message payload)), ih]
        show _ = (_, handed endpoint ([segment message payload] ++ _) _)
        rw [← handed_handed]
        rfl

/-- With its native part, `send` ends with the `try` block unless that raises an `Exception`;
behind one it is the pure-Python path. -/
theorem send_eq_native {τ : Type} {manager : TpManager τ ω κ} (present : manager.cpp = some native)
    (message : Message) (endpoint : Option Endpoint) (fuel : Nat) (w : TpWorld τ ω) :
    manager.send fuel message endpoint w =
      match manager.sendNative native message endpoint w with
      | (.ok (), u) => (.ok (some ()), u)
      | (.error exc, u) =>
          if exc.isException then manager.sendPython fuel message endpoint u
          else (.error exc, u) := by
  simp only [send, present]
  cases ran : manager.sendNative native message endpoint w with
  | mk result u =>
      cases result with
      | ok value =>
          have returned := Method.bind_of_ok ran fun _ =>
            (pure (some ()) : Method Exn (TpWorld τ ω) (Option Unit))
          rw [Method.tryExcept_of_ok returned]
      | error exc =>
          have raised := Method.bind_of_error ran fun _ =>
            (pure (some ()) : Method Exn (TpWorld τ ω) (Option Unit))
          rw [Method.tryExcept_of_error raised]
          by_cases caught : exc.isException = true
          · simp only [if_pos caught]
          · simp only [if_neg caught, Method.raise_apply]

/-- How the `try` block goes on behind the calls that prepare the segments: one of them raised,
the message goes out whole, or the loop over the segments is reached. -/
theorem sendNative_cases {τ : Type} (manager : TpManager τ ω κ) (native : NativeTp ω κ)
    (message : Message) (endpoint : Option Endpoint) (w : TpWorld τ ω) :
    ∃ t,
      (∃ exc, (∀ count, native.attempt message count w.native = ({ ending := .raised exc }, t)) ∧
        manager.sendNative native message endpoint w = (.error exc, { w with native := t })) ∨
      ((∀ count, native.attempt message count w.native = ({ ending := .whole }, t)) ∧
        manager.sendNative native message endpoint w =
          manager.handOver endpoint message { w with native := t }) ∨
      ∃ result transferId,
        (∀ count, native.attempt message count w.native =
          ({ result := some result
             segments := (native.pull transferId count t).1.1
             ending := (native.pull transferId count t).1.2 },
            (native.pull transferId count t).2)) ∧
        manager.sendNative native message endpoint w =
          (do
            let quotient ← Method.lift (floorDiv message.payload.length manager.mtu)
            manager.sendSegments native message endpoint transferId (quotient + 2).toNat)
              { w with native := t } := by
  unfold sendNative NativeTp.attempt
  cases converted : native.toCppMessage message w.native with
  | mk result t =>
      have first := onNative_of_eq converted
      cases result with
      | error exc =>
          rw [Method.bind_of_error first]
          exact ⟨t, .inl ⟨exc, fun _ => rfl, rfl⟩⟩
      | ok cppMsg =>
          rw [Method.bind_of_ok first]
          cases asked : native.needsSegmentation cppMsg t with
          | mk result u =>
              have second : onNative (native.needsSegmentation cppMsg) { w with native := t } = _ :=
                onNative_of_eq asked
              cases result with
              | error exc =>
                  rw [Method.bind_of_error second]
                  simp only [asked]
                  exact ⟨u, .inl ⟨exc, fun _ => rfl, rfl⟩⟩
              | ok needed =>
                  rw [Method.bind_of_ok second]
                  cases needed with
                  | false =>
                      simp only [asked]
                      exact ⟨u, .inr (.inl ⟨fun _ => rfl, rfl⟩)⟩
                  | true =>
                      simp only [asked, ↓reduceIte]
                      cases segmented : native.segmentMessage cppMsg u with
                      | mk result v =>
                          have third : onNative (native.segmentMessage cppMsg)
                              { w with native := u } = _ := onNative_of_eq segmented
                          refine ⟨v, ?_⟩
                          cases result with
                          | error exc =>
                              rw [Method.bind_of_error third]
                              exact .inl ⟨exc, fun _ => rfl, rfl⟩
                          | ok pair =>
                              rw [Method.bind_of_ok third]
                              exact .inr (.inr ⟨pair.1, pair.2, fun _ => rfl, rfl⟩)

theorem maxSegments_eq {τ : Type} {manager : TpManager τ ω κ} {mtu : Nat} (positive : 0 < mtu)
    (size : manager.mtu = mtu) :
    ∃ quotient, floorDiv message.payload.length manager.mtu = .ok quotient ∧
      (quotient + 2).toNat = message.payload.length / mtu + 2 := by
  have nonzero : ¬ manager.mtu = 0 := by omega
  refine ⟨((message.payload.length / mtu : Nat) : Int), ?_, ?_⟩
  · rw [floorDiv, if_neg nonzero, size, Int.fdiv_eq_ediv_of_nonneg _ (by omega), Int.natCast_ediv]
  · generalize message.payload.length / mtu = quotient
    omega

/-- Above zero, the division that bounds the loop does not raise. -/
theorem boundedSegments_eq {τ : Type} {manager : TpManager τ ω κ} {mtu : Nat} (positive : 0 < mtu)
    (size : manager.mtu = mtu) (transferId : Nat) (w : TpWorld τ ω) :
    (do
      let quotient ← Method.lift (floorDiv message.payload.length manager.mtu)
      manager.sendSegments native message endpoint transferId (quotient + 2).toNat) w =
      manager.sendSegments native message endpoint transferId (message.payload.length / mtu + 2)
        w := by
  obtain ⟨quotient, divided, bound⟩ :
      ∃ quotient, floorDiv message.payload.length manager.mtu = .ok quotient ∧
        (quotient + 2).toNat = message.payload.length / mtu + 2 := maxSegments_eq positive size
  have lifted : (Method.lift (floorDiv message.payload.length manager.mtu) :
      Method Exn (TpWorld τ ω) Int) w = (.ok quotient, w) := by
    rw [Method.lift_apply, divided]
  rw [Method.bind_of_ok lifted, bound]

/-- The `try` block does what the native calls return. -/
theorem sendNative_accept (accepts : manager.transportSend = accept)
    (zero_iff : ∀ result, native.int result = 0 ↔ result = .success) {mtu : Nat}
    (positive : 0 < mtu) (size : manager.mtu = mtu)
    {w : TpWorld (List (Message × Option Endpoint)) ω} {a : NativeAttempt} {after : ω}
    (tried : native.attempt message (message.payload.length / mtu + 2) w.native = (a, after)) :
    manager.sendNative native message endpoint w =
      (a.outcome, handed endpoint (a.messages message) { w with native := after }) := by
  obtain ⟨t, how⟩ := sendNative_cases manager native message endpoint w
  rcases how with ⟨exc, prepared, ran⟩ | ⟨prepared, ran⟩ | ⟨result, transferId, prepared, ran⟩
  · cases tried.symm.trans (prepared _)
    rw [ran]
    simp only [NativeAttempt.outcome, NativeAttempt.messages, List.map_nil, handed_nil]
  · cases tried.symm.trans (prepared _)
    rw [ran]
    exact handOver_accept accepts message
  · cases tried.symm.trans (prepared _)
    rw [ran, boundedSegments_eq positive size, sendSegments_accept accepts zero_iff,
      NativeAttempt.messages_of_ne_whole (native.pull_ne_whole _ _ _)]
    rfl

/-- With its native part and turns enough, `send` falls back to the pure-Python path when a
native call raises, and returns otherwise. -/
theorem send_accept (cpp : manager.cpp = some native) (accepts : manager.transportSend = accept)
    (zero_iff : ∀ result, native.int result = 0 ↔ result = .success) {mtu : Nat}
    (positive : 0 < mtu) (size : manager.mtu = mtu) {fuel : Nat}
    (enough : message.payload.length < fuel)
    {w : TpWorld (List (Message × Option Endpoint)) ω} {a : NativeAttempt} {after : ω}
    (tried : native.attempt message (message.payload.length / mtu + 2) w.native = (a, after)) :
    manager.send fuel message endpoint w =
      match a.outcome with
      | .ok () => (.ok (some ()), handed endpoint (a.messages message) { w with native := after })
      | .error exc =>
          if exc.isException then
            (.ok (some ()),
              handed endpoint (a.messages message ++ pieces mtu message) { w with native := after })
          else (.error exc, handed endpoint (a.messages message) { w with native := after }) := by
  have body : manager.sendNative native message endpoint w = _ :=
    sendNative_accept accepts zero_iff positive size tried
  rw [send_eq_native cpp, body]
  cases ended : a.outcome with
  | ok done => rfl
  | error exc =>
      dsimp only
      rw [sendPython_accept accepts positive size enough, handed_handed]

/-- The transport was handed messages that together carry the whole payload. -/
def HandedOver (message : Message) (before after : List (Message × Option Endpoint)) : Prop :=
  ∃ earlier whole, after = before ++ (earlier ++ whole) ∧ whole ≠ [] ∧
    (whole.map fun sent => sent.1.payload).flatten = message.payload

/-- A call of `send` that comes to its end raises or hands over the whole payload. -/
def Reports (manager : TpManager (List (Message × Option Endpoint)) ω κ) (message : Message)
    (endpoint : Option Endpoint) (w : TpWorld (List (Message × Option Endpoint)) ω) : Prop :=
  ∀ fuel result last, manager.send fuel message endpoint w = (result, last) → result ≠ .ok none →
    (∃ exc, result = .error exc) ∨ HandedOver message w.transport last.transport

theorem handedOver_pieces {mtu : Nat} (positive : 0 < mtu) (earlier : List Message)
    (w : TpWorld (List (Message × Option Endpoint)) ω) :
    HandedOver message w.transport (handed endpoint (earlier ++ pieces mtu message) w).transport := by
  refine ⟨earlier.map fun m => (m, endpoint), (pieces mtu message).map fun m => (m, endpoint),
    ?_, ?_, ?_⟩
  · rw [handed, List.map_append]
  · rw [Ne, List.map_eq_nil_iff]
    exact pieces_ne_nil positive message
  · rw [List.map_map]
    exact flatten_pieces positive message

/-- What was handed over without an exception is the whole payload only if the segments make
it up. -/
theorem covers_of_handedOver {a : NativeAttempt}
    {w : TpWorld (List (Message × Option Endpoint)) ω}
    (slices : a.segments.flatten <+: message.payload)
    (arrived : HandedOver message w.transport
      (handed endpoint (a.segments.map (segment message)) w).transport) :
    a.Covers message.payload := by
  rcases arrived with ⟨earlier, whole, same, nonempty, complete⟩
  have parts : (a.segments.map (segment message)).map (fun m => (m, endpoint)) =
      earlier ++ whole := List.append_cancel_left same
  have payloads : a.segments = (earlier.map fun sent => sent.1.payload) ++
      whole.map fun sent => sent.1.payload := by
    rw [← List.map_append, ← parts, List.map_map, List.map_map]
    exact (List.map_id a.segments).symm
  have total : a.segments.flatten =
      (earlier.map fun sent => sent.1.payload).flatten ++ message.payload := by
    rw [payloads, List.flatten_append, complete]
  constructor
  · intro empty
    rw [empty] at payloads
    have none_whole := (List.append_eq_nil_iff.mp payloads.symm).2
    exact nonempty (List.map_eq_nil_iff.mp none_whole)
  · apply slices.eq_of_length
    have bound := slices.length_le
    rw [total, List.length_append] at bound ⊢
    omega

theorem handedOver_of_covers {a : NativeAttempt}
    {w : TpWorld (List (Message × Option Endpoint)) ω} (covers : a.Covers message.payload) :
    HandedOver message w.transport
      (handed endpoint (a.segments.map (segment message)) w).transport := by
  refine ⟨[], (a.segments.map (segment message)).map fun m => (m, endpoint), rfl, ?_, ?_⟩
  · rw [Ne, List.map_eq_nil_iff, List.map_eq_nil_iff]
    exact covers.1
  · rw [List.map_map, List.map_map]
    show (a.segments.map id).flatten = _
    rw [List.map_id, covers.2]

/-- The manager that `__init__` builds with the extension present, over a transport that
accepts every message. -/
def nativeManager (mtu : Int) (native : NativeTp ω κ) :
    TpManager (List (Message × Option Endpoint)) ω κ :=
  { mtu := mtu, transportSend := accept, cpp := some native }

section Attempted

variable {mtu : Nat} {w : TpWorld (List (Message × Option Endpoint)) ω} {a : NativeAttempt}
variable {after : ω}

/-- A call of `send` that came to its end came to the end it comes to with turns enough. -/
theorem send_ended (zero_iff : ∀ result, native.int result = 0 ↔ result = .success)
    (positive : 0 < mtu)
    (tried : native.attempt message (message.payload.length / mtu + 2) w.native = (a, after))
    {fuel : Nat} {result : Except Exn (Option Unit)}
    {last : TpWorld (List (Message × Option Endpoint)) ω}
    (ran : (nativeManager mtu native).send fuel message endpoint w = (result, last))
    (finishes : result ≠ .ok none) :
    (result, last) =
      match a.outcome with
      | .ok () => (.ok (some ()), handed endpoint (a.messages message) { w with native := after })
      | .error exc =>
          if exc.isException then
            (.ok (some ()),
              handed endpoint (a.messages message ++ pieces mtu message) { w with native := after })
          else (.error exc, handed endpoint (a.messages message) { w with native := after }) := by
  have longer := send_add (message.payload.length + 1) ran finishes
  have direct : (nativeManager mtu native).send (fuel + (message.payload.length + 1)) message
      endpoint w = _ := send_accept rfl rfl zero_iff positive rfl (by omega) tried
  exact longer.symm.trans direct

theorem reports_of_raises (zero_iff : ∀ result, native.int result = 0 ↔ result = .success)
    (positive : 0 < mtu)
    (tried : native.attempt message (message.payload.length / mtu + 2) w.native = (a, after))
    (raises : a.Raises) : (nativeManager mtu native).Reports message endpoint w := by
  intro fuel result last ran finishes
  have ended := send_ended zero_iff positive tried ran finishes
  rcases raises with ⟨exc, raised⟩
  have outcome : a.outcome = .error exc := by
    rw [NativeAttempt.outcome, raised]
  simp only [outcome] at ended
  by_cases caught : exc.isException = true
  · rw [if_pos caught] at ended
    cases ended
    exact .inr (handedOver_pieces positive _ { w with native := after })
  · rw [if_neg caught] at ended
    cases ended
    exact .inl ⟨exc, rfl⟩

/-- Without an exception and with a segmentation, `send` returns after the segments. -/
theorem send_of_segments (zero_iff : ∀ result, native.int result = 0 ↔ result = .success)
    (positive : 0 < mtu)
    (tried : native.attempt message (message.payload.length / mtu + 2) w.native = (a, after))
    (calm : ¬ a.Raises) (segmented : a.ending ≠ .whole) {fuel : Nat}
    {result : Except Exn (Option Unit)} {last : TpWorld (List (Message × Option Endpoint)) ω}
    (ran : (nativeManager mtu native).send fuel message endpoint w = (result, last))
    (finishes : result ≠ .ok none) :
    result = .ok (some ()) ∧
      last = handed endpoint (a.segments.map (segment message)) { w with native := after } := by
  have ended := send_ended zero_iff positive tried ran finishes
  have outcome : a.outcome = .ok () := by
    unfold NativeAttempt.outcome
    split
    · rename_i exc raised
      exact absurd ⟨exc, raised⟩ calm
    · rfl
  simp only [outcome, NativeAttempt.messages_of_ne_whole segmented] at ended
  exact Prod.mk.inj ended

theorem exists_ended (zero_iff : ∀ result, native.int result = 0 ↔ result = .success)
    (positive : 0 < mtu)
    (tried : native.attempt message (message.payload.length / mtu + 2) w.native = (a, after)) :
    ∃ fuel result last, (nativeManager mtu native).send fuel message endpoint w = (result, last) ∧
      result ≠ .ok none := by
  have direct : (nativeManager mtu native).send (message.payload.length + 1) message endpoint w =
      _ := send_accept rfl rfl zero_iff positive rfl (Nat.lt_succ_self _) tried
  refine ⟨_, _, _, direct, ?_⟩
  split
  · exact nofun
  · split <;> exact nofun

end Attempted

/-- A failed segmentation is reported, by an exception or by handing over the whole payload
in another way, exactly when a native call raises, or the segments returned within the bound
of the loop make up the whole payload in spite of the failure. -/
theorem send_reports_failure_iff (native : NativeTp ω κ)
    (zero_iff : ∀ result, native.int result = 0 ↔ result = .success) (mtu : Nat)
    (positive : 1 ≤ mtu) (message : Message) (endpoint : Option Endpoint)
    (w : TpWorld (List (Message × Option Endpoint)) ω)
    (slices : (native.attemptFor mtu message w.native).segments.flatten <+: message.payload) :
    (∃ fuel result last, (nativeManager mtu native).send fuel message endpoint w =
        (result, last) ∧ result ≠ .ok none) ∧
      (((native.attemptFor mtu message w.native).Fails message.payload →
          (nativeManager mtu native).Reports message endpoint w) ↔
        ((native.attemptFor mtu message w.native).Fails message.payload →
          (native.attemptFor mtu message w.native).Raises ∨
            (native.attemptFor mtu message w.native).Covers message.payload)) := by
  cases tried : native.attempt message (message.payload.length / mtu + 2) w.native with
  | mk a after =>
      have same : native.attemptFor mtu message w.native = a := by
        rw [NativeTp.attemptFor, tried]
      have unsegmented : a.ending = .whole → a.result = none := by
        have general := @NativeTp.result_of_whole _ _ native message
          (message.payload.length / mtu + 2) w.native
        rw [tried] at general
        exact general
      rw [same] at slices ⊢
      refine ⟨exists_ended zero_iff positive tried, ?_⟩
      have segmented (fails : a.Fails message.payload) : a.ending ≠ .whole := by
        intro whole
        rcases fails with ⟨result, returned, _⟩ | ⟨result, refused, _⟩
        · rw [unsegmented whole] at returned
          cases returned
        · rw [whole] at refused
          cases refused
      constructor
      · intro reports fails
        by_cases raises : a.Raises
        · exact .inl raises
        · right
          rcases exists_ended zero_iff positive tried with ⟨fuel, result, last, ran, finishes⟩
          rcases send_of_segments zero_iff positive tried raises (segmented fails) ran finishes with
            ⟨rfl, rfl⟩
          rcases reports fails fuel _ _ ran finishes with ⟨exc, raised⟩ | handed_over
          · cases raised
          · exact covers_of_handedOver slices handed_over
      · intro covered fails
        by_cases raises : a.Raises
        · exact reports_of_raises zero_iff positive tried raises
        · intro fuel result last ran finishes
          rcases send_of_segments zero_iff positive tried raises (segmented fails) ran finishes with
            ⟨_, rfl⟩
          rcases covered fails with raised | covers
          · exact absurd raised raises
          · exact .inr (handedOver_of_covers covers)

/-- A native layer that hands out one segment of two bytes and then reports a network error;
its state counts the calls of `get_next_segment`. -/
def breakingTp : NativeTp Nat Message where
  int := fun result => if result = .success then 0 else 6
  toCppMessage := fun message => pure message
  needsSegmentation := fun message => pure (decide (2 < message.payload.length))
  segmentMessage := fun _ => pure (.success, 1)
  getNextSegment := fun _ => do
    let calls ← Method.get
    Method.modify fun calls => calls + 1
    if calls = 0 then pure (.success, [1, 2]) else pure (.networkError, [])

theorem send_reports_failure_iff_breaking :
    (∃ fuel result last, (nativeManager (2 : Nat) breakingTp).send fuel { payload := [1, 2, 3] }
        none { transport := [], native := 0 } = (result, last) ∧ result ≠ .ok none) ∧
      (((breakingTp.attemptFor 2 { payload := [1, 2, 3] } 0).Fails [1, 2, 3] →
          (nativeManager (2 : Nat) breakingTp).Reports { payload := [1, 2, 3] } none
            { transport := [], native := 0 }) ↔
        ((breakingTp.attemptFor 2 { payload := [1, 2, 3] } 0).Fails [1, 2, 3] →
          (breakingTp.attemptFor 2 { payload := [1, 2, 3] } 0).Raises ∨
            (breakingTp.attemptFor 2 { payload := [1, 2, 3] } 0).Covers [1, 2, 3])) :=
  send_reports_failure_iff breakingTp (by intro result; cases result <;> decide) 2 (by decide)
    { payload := [1, 2, 3] } none { transport := [], native := 0 } (by decide)

/-- The network error is taken for the end of the segments: the third byte is not sent, and
`send` returns. -/
theorem broken_off_unreported :
    (breakingTp.attemptFor 2 { payload := [1, 2, 3] } 0).Fails [1, 2, 3] ∧
      ¬ (nativeManager (2 : Nat) breakingTp).Reports { payload := [1, 2, 3] } none
        { transport := [], native := 0 } := by
  constructor
  · exact .inr ⟨.networkError, by decide, by decide⟩
  · intro reports
    have ran : (nativeManager (2 : Nat) breakingTp).send 1 { payload := [1, 2, 3] } none
        { transport := [], native := 0 } =
          (.ok (some ()), { transport := [({ payload := [1, 2] }, none)], native := 2 }) := rfl
    rcases reports _ _ _ ran nofun with ⟨exc, raised⟩ | arrived
    · cases raised
    · have slices : (breakingTp.attemptFor 2 { payload := [1, 2, 3] } 0).segments.flatten <+:
          [1, 2, 3] := by decide
      have covers := @covers_of_handedOver Nat { payload := [1, 2, 3] } none _
        { transport := [], native := 2 } slices arrived
      exact absurd covers.2 (by decide)

end TpManager

end OpenSomeIp
