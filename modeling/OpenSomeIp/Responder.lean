import OpenSomeIp.Lib.Pairing
import OpenSomeIp.LinkDelivery

set_option autoImplicit false

namespace OpenSomeIp

open Method

/-! ### What a server script does with a message -/

/-- The handlers that a server script looks a message up in, if it looks at all; `σ` are the
globals that they change. -/
structure Responder (σ : Type) where
  handler : Message → Option (Bytes → Method Exn σ Bytes)

namespace Responder

variable {σ : Type} (responder : Responder σ)

/-- The response to a request with what its handler returned. -/
def response (msg : Message) (resultPayload : Bytes) : Message where
  messageId := msg.messageId
  requestId := msg.requestId
  messageType := .response
  returnCode := .eOk
  payload := resultPayload

/-- One round of the loop, up to the `send`: the response to send, if there is one. -/
def answer (msg : Message) : Method Exn σ (Option Message) :=
  match responder.handler msg with
  | none => pure none
  | some handler => do
      let resultPayload ← handler msg.payload
      pure (some (response msg resultPayload))

/-- The rounds for a list of messages, with the requests that get a response and these. -/
def serve : List Message → Method Exn σ (List (Message × Message))
  | [] => pure []
  | msg :: rest => do
      let answered ← responder.answer msg
      let others ← serve rest
      pure ((answered.map fun result => (msg, result)).toList ++ others)

/-- The second message answers the first with what its handler returned for its payload. -/
def Answers (msg result : Message) : Prop :=
  ∃ handler globals resultPayload, responder.handler msg = some handler ∧
    (handler msg.payload globals).1 = .ok resultPayload ∧ result = response msg resultPayload

variable {responder}

theorem answer_of_unknown {msg : Message} (unknown : responder.handler msg = none) :
    responder.answer msg = pure none := by
  rw [answer, unknown]

theorem answer_of_known {msg : Message} {handler : Bytes → Method Exn σ Bytes}
    (known : responder.handler msg = some handler) :
    responder.answer msg =
      handler msg.payload >>= fun resultPayload => pure (some (response msg resultPayload)) := by
  rw [answer, known]

theorem answers_of_answer {msg result : Message} {globals after : σ}
    (ran : responder.answer msg globals = (.ok (some result), after)) :
    responder.Answers msg result := by
  cases known : responder.handler msg with
  | none =>
      rw [answer_of_unknown known] at ran
      cases ran
  | some handler =>
      rw [answer_of_known known] at ran
      cases handled : handler msg.payload globals with
      | mk outcome middle =>
          cases outcome with
          | error exc =>
              rw [Method.bind_of_error handled] at ran
              cases ran
          | ok resultPayload =>
              rw [Method.bind_of_ok handled] at ran
              obtain ⟨rfl⟩ := ran
              exact ⟨handler, globals, resultPayload, known, by rw [handled], rfl⟩

theorem serve_cons_of_ok {msg : Message} {rest : List Message} {result : Option Message}
    {pairs : List (Message × Message)} {globals middle after : σ}
    (head : responder.answer msg globals = (.ok result, middle))
    (tail : responder.serve rest middle = (.ok pairs, after)) :
    responder.serve (msg :: rest) globals =
      (.ok ((result.map fun result => (msg, result)).toList ++ pairs), after) := by
  rw [serve, Method.bind_of_ok head, Method.bind_of_ok tail]
  rfl

theorem serve_cons_eq_ok {msg : Message} {rest : List Message}
    {pairs : List (Message × Message)} {globals after : σ}
    (ran : responder.serve (msg :: rest) globals = (.ok pairs, after)) :
    ∃ result middle others, responder.answer msg globals = (.ok result, middle) ∧
      responder.serve rest middle = (.ok others, after) ∧
      pairs = (result.map fun result => (msg, result)).toList ++ others := by
  rw [serve] at ran
  cases head : responder.answer msg globals with
  | mk outcome middle =>
      cases outcome with
      | error exc =>
          rw [Method.bind_of_error head] at ran
          cases ran
      | ok result =>
          rw [Method.bind_of_ok head] at ran
          cases tail : responder.serve rest middle with
          | mk outcome last =>
              cases outcome with
              | error exc =>
                  rw [Method.bind_of_error tail] at ran
                  cases ran
              | ok others =>
                  rw [Method.bind_of_ok tail] at ran
                  obtain ⟨rfl⟩ := ran
                  exact ⟨result, middle, others, rfl, tail, rfl⟩

theorem serve_snoc {front : List Message} {globals middle : σ} {pairs : List (Message × Message)}
    (ran : responder.serve front globals = (.ok pairs, middle)) {msg : Message}
    {result : Option Message} {after : σ}
    (answered : responder.answer msg middle = (.ok result, after)) :
    responder.serve (front ++ [msg]) globals =
      (.ok (pairs ++ (result.map fun result => (msg, result)).toList), after) := by
  induction front generalizing globals pairs with
  | nil =>
      obtain ⟨rfl⟩ := ran
      rw [List.nil_append, serve_cons_of_ok answered rfl, List.append_nil, List.nil_append]
  | cons first rest ih =>
      obtain ⟨firstResult, next, others, head, tail, rfl⟩ := serve_cons_eq_ok ran
      rw [List.cons_append, serve_cons_of_ok head (ih tail), List.append_assoc]

/-- Only requests get a response, in their order. -/
theorem serve_answers {msgs : List Message} {globals after : σ}
    {pairs : List (Message × Message)} (ran : responder.serve msgs globals = (.ok pairs, after)) :
    (pairs.map Prod.fst).Sublist msgs ∧ ∀ pair ∈ pairs, responder.Answers pair.1 pair.2 := by
  induction msgs generalizing globals pairs with
  | nil =>
      obtain ⟨rfl⟩ := ran
      exact ⟨.slnil, fun _ member => absurd member List.not_mem_nil⟩
  | cons msg rest ih =>
      obtain ⟨result, next, others, head, tail, rfl⟩ := serve_cons_eq_ok ran
      obtain ⟨inside, answered⟩ := ih tail
      cases result with
      | none => exact ⟨inside.cons msg, answered⟩
      | some result =>
          refine ⟨inside.cons_cons msg, fun pair member => ?_⟩
          rcases List.mem_cons.mp member with rfl | later
          · exact answers_of_answer head
          · exact answered pair later

/-- Of the messages that have handlers, every one gets a response. -/
theorem serve_known {among : Message → Bool} {msgs : List Message} {globals after : σ}
    {pairs : List (Message × Message)} (ran : responder.serve msgs globals = (.ok pairs, after))
    (known : ∀ msg ∈ msgs, among msg = true → (responder.handler msg).isSome = true) :
    (pairs.map Prod.fst).filter among = msgs.filter among := by
  induction msgs generalizing globals pairs with
  | nil =>
      obtain ⟨rfl⟩ := ran
      rfl
  | cons msg rest ih =>
      obtain ⟨result, next, others, head, tail, rfl⟩ := serve_cons_eq_ok ran
      have later := ih tail fun other member => known other (List.mem_cons_of_mem msg member)
      cases result with
      | some result =>
          simp only [Option.map_some, Option.toList_some, List.singleton_append, List.map_cons,
            List.filter_cons, later]
      | none =>
          have aside : ¬ among msg = true := by
            intro inside
            obtain ⟨handler, found⟩ :=
              Option.isSome_iff_exists.mp (known msg List.mem_cons_self inside)
            rw [answer_of_known found] at head
            obtain ⟨resultPayload, middle, handled, last⟩ := Method.bind_eq_ok head
            cases last
          rw [List.filter_cons_of_neg aside, ← later]
          rfl

end Responder

end OpenSomeIp
