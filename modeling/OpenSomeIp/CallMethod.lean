import OpenSomeIp.ResponderSystem

set_option autoImplicit false

namespace OpenSomeIp

open Method

/-! ### A client script's `call_method` -/

/-- The constants of a client script, and its test of what it takes for the response. -/
structure Caller where
  serviceId : UInt16
  clientId : UInt16
  accepts : UInt16 → Message → Bool

namespace Caller

def calculator : Caller where
  serviceId := 0x2000
  clientId := 0xABCD
  accepts methodId response :=
    response.messageId.serviceId = 0x2000 ∧ response.messageId.methodId = methodId ∧
      response.messageType = .response

def complexTypes : Caller where
  serviceId := 0x4000
  clientId := 0xABCD
  accepts _ response := response.messageType = .response

/-- What `next_session` returns with the counter at that value. -/
def session (sessionCounter : Nat) : UInt16 := UInt16.ofNat (sessionCounter &&& 0xFFFF)

def request (caller : Caller) (sessionCounter : Nat) (methodId : UInt16) (payload : Bytes) :
    Message where
  messageId := ⟨caller.serviceId, methodId⟩
  requestId := ⟨caller.clientId, session sessionCounter⟩
  messageType := .request
  returnCode := .eOk
  payload := payload

/-- What `call_method` returns for a request and what `get` returned; `none` if that raised
`queue.Empty`. -/
def result (caller : Caller) (request : Message) : Option Message → Option Bytes
  | some response =>
      if caller.accepts request.messageId.methodId response then some response.payload else none
  | none => none

end Caller

/-- Where the client script is. -/
inductive CallPhase where
  | idle
  | waiting (request : Message)
  | ended
  deriving DecidableEq, Repr

namespace CallPhase

def pending : CallPhase → List Message
  | .waiting request => [request]
  | _ => []

/-- The script ends with the exception of a `send`. -/
def afterSend (request : Message) : Except Exn Unit → CallPhase
  | .ok () => .waiting request
  | .error _ => .ended

/-- A sentinel has no `message_type`: the script ends with an AttributeError. -/
def afterGet : Item Message → CallPhase
  | .message _ => .idle
  | .sentinel => .ended

end CallPhase

/-- A server script, and the client script that calls it: its calls so far that have got beyond
the `get`, with what that returned. -/
structure Calling (ι ω σ : Type) where
  serving : Serving ι ω σ
  sessionCounter : Nat := 0
  phase : CallPhase := .idle
  log : List (Message × Option (Item Message)) := []

/-- A call has two halves: up to the `send`, and the `get` that returns or is timed out. -/
inductive CallingAct (ι : Type) where
  | other (act : ServingAct ι)
  | call (methodId : UInt16) (payload : Bytes)
  | get
  | timeout
  deriving DecidableEq, Repr

variable {ι ω σ : Type} [DecidableEq ι]

/-- What the act does on the network by itself. -/
def CallingAct.transit : CallingAct ι → Option (Medium.Act (Letter ι))
  | .other act => act.transit
  | _ => none

namespace Calling

/-- The network keeps to a rule. -/
def Obeys (rule : Medium (Letter ι) → Medium.Act (Letter ι) → Prop) (s : Calling ι ω σ)
    (act : CallingAct ι) : Prop := ∀ a, act.transit = some a → rule s.serving.link.net a

/-- The requests that have been sent. -/
def requests (s : Calling ι ω σ) : List Message := s.log.map Prod.fst ++ s.phase.pending

def new (native : ι → ω) (start : σ) : Calling ι ω σ := { serving := Serving.new native start }

section Step

variable (transport : ι → AnyTransport ω CppEndpoint CppMessage) (address : ι → Endpoint)
  (outbox : ω → List Parcel) (server : ι) (responder : Responder σ) (client : ι) (caller : Caller)

def step (s : Calling ι ω σ) : CallingAct ι → Option (Calling ι ω σ)
  | .other act =>
      if act.uses client then none
      else (s.serving.step transport address outbox server responder act).map fun serving =>
        { s with serving := serving }
  | .call methodId payload =>
      match s.phase with
      | .idle =>
          let request := caller.request (s.sessionCounter + 1) methodId payload
          (s.serving.step transport address outbox server responder
            (.other (.send client request (some (address server))))).map fun serving =>
              { s with
                serving := serving
                sessionCounter := s.sessionCounter + 1
                phase := .afterSend request
                  ((transport client).super.send request (some (address server))
                    (s.serving.link.stations client).world).1 }
      | _ => none
  | .get =>
      match s.phase, (s.serving.link.stations client).inbox.syncItems with
      | .waiting request, item :: _ =>
          (s.serving.step transport address outbox server responder
            (.other (.consume client .next))).map fun serving =>
              { s with
                serving := serving
                phase := .afterGet item
                log := s.log ++ [(request, some item)] }
      | _, _ => none
  | .timeout =>
      match s.phase, (s.serving.link.stations client).inbox.syncItems with
      | .waiting request, [] => some { s with phase := .idle, log := s.log ++ [(request, none)] }
      | _, _ => none

end Step

end Calling

theorem Link.returned_of_get {transport : ι → AnyTransport ω CppEndpoint CppMessage}
    {address : ι → Endpoint} {outbox : ω → List Parcel} {s t : Link ι ω} {i : ι}
    {item : Item Message} {rest : List (Item Message)}
    (queued : (s.stations i).inbox.syncItems = item :: rest)
    (stepped : s.step transport address outbox (.consume i .next) = some t) :
    t.callsBy i = s.callsBy i ∧
      (t.stations i).inbox.returned = (s.stations i).inbox.returned ++ [item] := by
  obtain ⟨station, consumed, rfl⟩ := Option.map_eq_some_iff.mp stepped
  obtain ⟨inbox, sound, moved, rfl⟩ := Option.pmap_eq_some_iff.mp consumed
  refine ⟨rfl, ?_⟩
  rw [tend_self]
  cases ReceiverSystem.moves_of_step (s.stations i).sound.unbounded moved with
  | nextItem other others head =>
      obtain ⟨rfl, -⟩ := List.cons.inj (queued.symm.trans head)
      rfl
  | nextIdle empty open_ => cases queued.symm.trans empty
  | nextStop empty closed => cases queued.symm.trans empty

namespace Calling

/-- What the client script has sent and taken is what the log says. -/
structure Kept (address : ι → Endpoint) (server client : ι) (caller : Caller)
    (s : Calling ι ω σ) : Prop where
  calls : s.serving.link.callsBy client =
    s.requests.map fun request => ⟨client, request, address server⟩
  taken : s.serving.link.taken client = messagesOf (s.log.filterMap Prod.snd)
  counting : s.phase ≠ .ended → s.sessionCounter = s.requests.length
  numbered : ∀ k request, s.requests[k]? = some request →
    ∃ methodId payload, request = caller.request (k + 1) methodId payload

section Run

variable {transport : ι → AnyTransport ω CppEndpoint CppMessage} {address : ι → Endpoint}
  {outbox : ω → List Parcel} {server client : ι} {responder : Responder σ} {caller : Caller}
  {start : σ} {s t : Calling ι ω σ} {acts : List (CallingAct ι)}

theorem kept_other (posts : ∀ i, (transport i).Posts outbox) (apart : client ≠ server)
    {act : ServingAct ι} (kept : s.Kept address server client caller)
    (stepped : s.step transport address outbox server responder client caller (.other act) = some t) :
    t.Kept address server client caller := by
  rw [step] at stepped
  split at stepped
  · cases stepped
  · rename_i foreign
    obtain ⟨serving, moved, rfl⟩ := Option.map_eq_some_iff.mp stepped
    have frame : serving.link.callsBy client = s.serving.link.callsBy client ∧
        serving.link.taken client = s.serving.link.taken client := by
      rcases Serving.link_step moved with same | ⟨a, _, uses, moved⟩
      · rw [same]
        exact ⟨rfl, rfl⟩
      · have aside : a.uses client = false :=
          (uses client apart).trans (Bool.eq_false_iff.mpr foreign)
        exact Link.frame_of_other posts aside moved
    exact ⟨frame.1.trans kept.calls, frame.2.trans kept.taken, kept.counting, kept.numbered⟩

theorem kept_call (posts : ∀ i, (transport i).Posts outbox) {methodId : UInt16} {payload : Bytes}
    (kept : s.Kept address server client caller)
    (stepped : s.step transport address outbox server responder client caller
      (.call methodId payload) = some t) : t.Kept address server client caller := by
  cases at_ : s.phase with
  | waiting request =>
      simp only [step, at_] at stepped
      cases stepped
  | ended =>
      simp only [step, at_] at stepped
      cases stepped
  | idle =>
      simp only [step, at_] at stepped
      obtain ⟨serving, moved, rfl⟩ := Option.map_eq_some_iff.mp stepped
      have earlier : s.requests = s.log.map Prod.fst := by
        rw [requests, at_]
        exact List.append_nil _
      rw [Serving.step] at moved
      split at moved
      · cases moved
      · obtain ⟨link, sent, rfl⟩ := Option.map_eq_some_iff.mp moved
        obtain ⟨taken, sends⟩ := Link.callsBy_of_send posts sent
        rcases sends with ⟨exc, raised, calls⟩ | ⟨target, returned, aimed, calls⟩
        · rw [raised]
          have same : s.requests = s.log.map Prod.fst ++ [] := earlier.trans (List.append_nil _).symm
          refine ⟨?_, taken.trans kept.taken, fun ended => absurd rfl ended, ?_⟩
          · exact (calls.trans kept.calls).trans (congrArg _ same)
          · intro k request found
            apply kept.numbered k request
            rw [same]
            exact found
        · rw [returned]
          have here : target = address server := (Option.some.inj aimed).symm
          have count : s.sessionCounter = s.requests.length :=
            kept.counting fun ended => by cases at_.symm.trans ended
          refine ⟨?_, taken.trans kept.taken, fun _ => ?_, fun k request found => ?_⟩
          · rw [calls, kept.calls, earlier, here]
            change _ = (s.log.map Prod.fst ++ [_]).map _
            rw [List.map_append]
            rfl
          · change s.sessionCounter + 1 = (s.log.map Prod.fst ++ [_]).length
            rw [count, earlier, List.length_append, List.length_singleton]
          · have found : (s.requests ++ [caller.request (s.sessionCounter + 1) methodId
                payload])[k]? = some request := by
              rw [earlier]
              exact found
            rw [List.getElem?_append] at found
            split at found
            · exact kept.numbered k request found
            · rename_i beyond
              obtain ⟨bound, is_⟩ := List.getElem?_eq_some_iff.mp found
              have last : k = s.requests.length := by
                rw [List.length_singleton] at bound
                omega
              refine ⟨methodId, payload, ?_⟩
              rw [← is_, List.getElem_singleton, last, count]

/-- The call that waits is over, with what its `get` returned. -/
theorem kept_over {request : Message} {got : Option (Item Message)} {serving : Serving ι ω σ}
    {phase : CallPhase} (kept : s.Kept address server client caller)
    (at_ : s.phase = .waiting request) (quiet : phase.pending = [])
    (calls : serving.link.callsBy client = s.serving.link.callsBy client)
    (taken : serving.link.taken client =
      s.serving.link.taken client ++ messagesOf got.toList) :
    Kept address server client caller
      { s with serving := serving, phase := phase, log := s.log ++ [(request, got)] } := by
  have same : (s.log ++ [(request, got)]).map Prod.fst ++ phase.pending = s.requests := by
    rw [requests, at_, quiet, List.append_nil, List.map_append]
    rfl
  have going : s.phase ≠ .ended := fun ended => by cases at_.symm.trans ended
  refine ⟨?_, ?_, fun _ => ?_, ?_⟩
  · exact (calls.trans kept.calls).trans (congrArg _ same.symm)
  · rw [taken, kept.taken, List.filterMap_append, messagesOf_append]
    cases got <;> rfl
  · exact (kept.counting going).trans (congrArg List.length same.symm)
  · intro k other found
    apply kept.numbered k other
    rw [← same]
    exact found

theorem kept_step (posts : ∀ i, (transport i).Posts outbox) (apart : client ≠ server)
    {act : CallingAct ι} (kept : s.Kept address server client caller)
    (stepped : s.step transport address outbox server responder client caller act = some t) :
    t.Kept address server client caller := by
  cases act with
  | other act => exact kept_other posts apart kept stepped
  | call methodId payload => exact kept_call posts kept stepped
  | get =>
      rw [step] at stepped
      split at stepped
      · rename_i request item rest at_ queued
        obtain ⟨serving, moved, rfl⟩ := Option.map_eq_some_iff.mp stepped
        rw [Serving.step] at moved
        split at moved
        · cases moved
        · obtain ⟨link, sent, rfl⟩ := Option.map_eq_some_iff.mp moved
          obtain ⟨calls, returned⟩ := Link.returned_of_get queued sent
          refine kept_over kept at_ ?_ calls ?_
          · cases item <;> rfl
          · rw [Link.taken, returned, messagesOf_append]
            rfl
      · cases stepped
  | timeout =>
      rw [step] at stepped
      split at stepped
      · rename_i request at_ empty
        obtain rfl := Option.some.inj stepped
        exact kept_over kept at_ rfl rfl (List.append_nil _).symm
      · cases stepped

/-- A step is one of the serving, or none. -/
theorem serving_step {act : CallingAct ι}
    (stepped : s.step transport address outbox server responder client caller act = some t) :
    t.serving = s.serving ∨ ∃ a : ServingAct ι, a.transit = act.transit ∧
      s.serving.step transport address outbox server responder a = some t.serving := by
  cases act with
  | other act =>
      rw [step] at stepped
      split at stepped
      · cases stepped
      · obtain ⟨serving, moved, rfl⟩ := Option.map_eq_some_iff.mp stepped
        exact .inr ⟨act, rfl, moved⟩
  | call methodId payload =>
      rw [step] at stepped
      split at stepped
      · obtain ⟨serving, moved, rfl⟩ := Option.map_eq_some_iff.mp stepped
        exact .inr ⟨_, rfl, moved⟩
      · cases stepped
  | get =>
      rw [step] at stepped
      split at stepped
      · obtain ⟨serving, moved, rfl⟩ := Option.map_eq_some_iff.mp stepped
        exact .inr ⟨_, rfl, moved⟩
      · cases stepped
  | timeout =>
      rw [step] at stepped
      split at stepped
      · obtain rfl := Option.some.inj stepped
        exact .inl rfl
      · cases stepped

theorem invariants_run (posts : ∀ i, (transport i).Posts outbox)
    (distinct : Function.Injective address) (dependable : Link.Dependable transport outbox)
    (apart : client ≠ server) (native : ι → ω)
    (along : Transition.Along (step transport address outbox server responder client caller)
      (Obeys (Medium.Reliable Letter.channel)) (new native start) acts)
    (ran : Transition.run (step transport address outbox server responder client caller)
      (new native start) acts = some t) :
    t.Kept address server client caller ∧ t.serving.link.Traced address ∧
      t.serving.Served transport server responder start ∧ t.serving.link.Written ∧
      t.serving.link.net.Complete Letter.channel := by
  have preserved (s : Calling ι ω σ) (act : CallingAct ι) (t : Calling ι ω σ)
      (before : s.Kept address server client caller ∧ s.serving.link.Traced address ∧
        s.serving.Served transport server responder start ∧ s.serving.link.Written ∧
        s.serving.link.net.Complete Letter.channel)
      (reliable : s.Obeys (Medium.Reliable Letter.channel) act)
      (stepped : s.step transport address outbox server responder client caller act = some t) :
      t.Kept address server client caller ∧ t.serving.link.Traced address ∧
        t.serving.Served transport server responder start ∧ t.serving.link.Written ∧
        t.serving.link.net.Complete Letter.channel := by
    obtain ⟨kept, traced, served, written, complete⟩ := before
    refine ⟨kept_step posts apart kept stepped, ?_⟩
    rcases serving_step stepped with same | ⟨a, transit, moved⟩
    · rw [same]
      exact ⟨traced, served, written, complete⟩
    · refine ⟨Serving.traced_step posts distinct traced moved, Serving.served_step posts served moved,
        Serving.written_step posts dependable written moved, ?_⟩
      exact Serving.net_step (Medium.lasting_complete Letter.channel) posts complete
        (fun b one => reliable b (transit ▸ one)) moved
  have kept : (new native start : Calling ι ω σ).Kept address server client caller :=
    ⟨rfl, rfl, fun _ => rfl, fun k request found => by cases found⟩
  exact Transition.invariant_along preserved along
    ⟨kept, Link.traced_new address native, Serving.served_new native, rfl, fun _ => rfl⟩ ran

end Run

/-! ### Which request a response answers -/

section Results

variable {transport : ι → AnyTransport ω CppEndpoint CppMessage} {address : ι → Endpoint}
  {outbox : ω → List Parcel} {server client : ι} {responder : Responder σ} {caller : Caller}
  {start : σ} {t : Calling ι ω σ} {acts : List (CallingAct ι)}

/-- A request as the server gets it. -/
def received (source : Endpoint) (request : Message) : Message :=
  { request with sourceEndpoint := some source }

theorem addressed_requests (kept : t.Kept address server client caller) :
    (t.serving.link.callsBy client).filterMap (Call.addressed address server) =
      t.requests.map (received (address client)) := by
  rw [kept.calls, List.filterMap_map, ← List.filterMap_eq_map]
  apply List.filterMap_congr
  intro request _
  exact if_pos rfl

/-- What the client script has taken answers the first of its requests, in their order. -/
theorem answered_taken (distinct : Function.Injective address)
    (kept : t.Kept address server client caller) (traced : t.serving.link.Traced address)
    (served : t.serving.Served transport server responder start) (written : t.serving.link.Written)
    (complete : t.serving.link.net.Complete Letter.channel)
    (only : ∀ call ∈ t.serving.link.calls, call.target = address client → call.sender = server)
    (known : ∀ request ∈ t.requests,
      (responder.handler (received (address client) request)).isSome = true) :
    ∃ asked, asked <+: t.requests.map (received (address client)) ∧
      List.Forall₂ (Serving.Answered responder (address server)) asked
        (messagesOf (t.log.filterMap Prod.snd)) := by
  have asks : sentBy (address client) (t.serving.link.taken server) <+:
      t.requests.map (received (address client)) := by
    rw [← addressed_requests kept, ← Link.sentBy_addressed distinct]
    exact Link.returned_of_complete distinct traced written complete server client
  have handled : ∀ msg ∈ sentBy (address client) (t.serving.link.taken server),
      (responder.handler msg).isSome = true := by
    intro msg member
    obtain ⟨request, sent, rfl⟩ := List.mem_map.mp (asks.sublist.mem member)
    exact known request sent
  have gets : sentBy (address server) (t.serving.link.taken client) <+:
      (t.serving.link.callsBy server).filterMap (Call.addressed address client) := by
    rw [← Link.sentBy_addressed distinct]
    exact Link.returned_of_complete distinct traced written complete client server
  have all : sentBy (address server) (t.serving.link.taken client) =
      t.serving.link.taken client := by
    apply List.filter_eq_self.mpr
    intro msg member
    have yields : msg ∈ (t.serving.link.stations client).inbox.yielded := by
      rw [ReceiverSystem.yielded, messagesOf_append]
      exact List.mem_append_left _ member
    obtain ⟨call, made, addressed⟩ := List.mem_filterMap.mp (Link.addressed_of_yielded traced yields)
    rw [Call.addressed] at addressed
    split at addressed
    · rename_i aimed
      rw [← Option.some.inj addressed, only call made aimed]
      exact decide_eq_true rfl
    · cases addressed
  obtain ⟨asked, front, answered⟩ := Serving.answered_front traced served client handled
  rw [all] at gets
  obtain ⟨first, inside, related⟩ := Pairing.exists_of_prefix answered gets
  exact ⟨first, inside.trans (front.trans asks), kept.taken ▸ related⟩

theorem length_messages (log : List (Message × Option (Item Message))) :
    (messagesOf (log.filterMap Prod.snd)).length ≤ log.length ∧
      ((messagesOf (log.filterMap Prod.snd)).length = log.length ↔
        ∀ call ∈ log, ∃ msg, call.2 = some (.message msg)) := by
  induction log with
  | nil => exact ⟨Nat.le_refl 0, iff_of_true rfl fun _ member => absurd member List.not_mem_nil⟩
  | cons call log ih =>
      obtain ⟨least, all⟩ := ih
      have without (none_ : ∀ msg, call.2 ≠ some (.message msg))
          (same : messagesOf ((call :: log).filterMap Prod.snd) =
            messagesOf (log.filterMap Prod.snd)) :
          (messagesOf ((call :: log).filterMap Prod.snd)).length ≤ (call :: log).length ∧
            ((messagesOf ((call :: log).filterMap Prod.snd)).length = (call :: log).length ↔
              ∀ other ∈ call :: log, ∃ msg, other.2 = some (.message msg)) := by
        rw [same, List.length_cons]
        refine ⟨Nat.le_succ_of_le least, iff_of_false (by omega) fun every => ?_⟩
        obtain ⟨msg, is_⟩ := every call List.mem_cons_self
        exact none_ msg is_
      obtain ⟨request, got⟩ := call
      rcases got with _ | msg | _
      · exact without (fun msg is_ => by cases is_) rfl
      · change (messagesOf (log.filterMap Prod.snd)).length + 1 ≤ log.length + 1 ∧
          ((messagesOf (log.filterMap Prod.snd)).length + 1 = log.length + 1 ↔ _)
        rw [Nat.add_right_cancel_iff, all, List.forall_mem_cons]
        exact ⟨Nat.succ_le_succ least, (and_iff_right ⟨msg, rfl⟩).symm⟩
      · exact without (fun msg is_ => by cases is_) rfl

theorem session_inj {i j : Nat} (smallI : i < 0x10000) (smallJ : j < 0x10000) :
    Caller.session (i + 1) = Caller.session (j + 1) ↔ i = j := by
  constructor
  · intro same
    have mod (n : Nat) : n &&& 0xFFFF = n % 0x10000 := Nat.and_two_pow_sub_one_eq_mod n 16
    have numbers := congrArg UInt16.toNat same
    simp only [Caller.session, mod, UInt16.toNat_ofNat'] at numbers
    omega
  · rintro rfl
    rfl

/-- Over a reliable network, with a server script that has a handler for every request of the
client script and alone sends to it: the response that a call of `call_method` takes answers the
request whose number is the number of responses taken before it. That is its own request exactly
as long as every call before it has taken a response; after one that was timed out, no call takes
its own. -/
theorem call_method_answers (posts : ∀ i, (transport i).Posts outbox)
    (distinct : Function.Injective address) (dependable : Link.Dependable transport outbox)
    (apart : client ≠ server) (native : ι → ω)
    (along : Transition.Along (step transport address outbox server responder client caller)
      (Obeys (Medium.Reliable Letter.channel)) (new native start) acts)
    (ran : Transition.run (step transport address outbox server responder client caller)
      (new native start) acts = some t)
    (only : ∀ call ∈ t.serving.link.calls, call.target = address client → call.sender = server)
    (known : ∀ request ∈ t.requests,
      (responder.handler (received (address client) request)).isSome = true)
    {front back : List (Message × Option (Item Message))} {request msg : Message}
    (took : t.log = front ++ (request, some (.message msg)) :: back) :
    ∃ asked, t.requests[(messagesOf (front.filterMap Prod.snd)).length]? = some asked ∧
      Serving.Answered responder (address server) (received (address client) asked) msg ∧
      (∀ payload, caller.result request (some msg) = some payload →
        ∃ handler globals, responder.handler (received (address client) asked) = some handler ∧
          (handler asked.payload globals).1 = .ok payload) ∧
      (front.length < 0x10000 →
        (msg.requestId = request.requestId ↔
          ∀ call ∈ front, ∃ other, call.2 = some (.message other))) := by
  obtain ⟨kept, traced, served, written, complete⟩ :=
    invariants_run posts distinct dependable apart native along ran
  obtain ⟨all, ⟨later, parted⟩, answered⟩ :=
    answered_taken distinct kept traced served written complete only known
  obtain ⟨fewer, exactly⟩ := length_messages front
  have there : (messagesOf (t.log.filterMap Prod.snd))[(messagesOf
      (front.filterMap Prod.snd)).length]? = some msg := by
    rw [took, List.filterMap_append, messagesOf_append, List.getElem?_append_right (Nat.le_refl _),
      Nat.sub_self]
    rfl
  obtain ⟨one, found, answers⟩ := Pairing.exists_of_getElem? answered there
  have sent : (t.requests.map (received (address client)))[(messagesOf
      (front.filterMap Prod.snd)).length]? = some one := by
    rw [← parted, List.getElem?_append_left (List.getElem?_eq_some_iff.mp found).1]
    exact found
  rw [List.getElem?_map] at sent
  obtain ⟨asked, place, rfl⟩ := Option.map_eq_some_iff.mp sent
  have own : t.requests[front.length]? = some request := by
    rw [requests, took, List.map_append, List.append_assoc, List.getElem?_append_right
      (Nat.le_of_eq (List.length_map ..)), List.length_map, Nat.sub_self]
    rfl
  obtain ⟨result, ⟨handler, globals, resultPayload, handles, ran, rfl⟩, rfl⟩ := answers
  refine ⟨asked, place, ⟨_, ⟨handler, globals, resultPayload, handles, ran, rfl⟩, rfl⟩, ?_, ?_⟩
  · intro payload returned
    rw [Caller.result] at returned
    split at returned
    · obtain rfl := Option.some.inj returned
      exact ⟨handler, globals, handles, ran⟩
    · cases returned
  · intro small
    obtain ⟨methodId, payload, rfl⟩ := kept.numbered _ _ place
    obtain ⟨ownMethod, ownPayload, rfl⟩ := kept.numbered _ _ own
    rw [← exactly, ← session_inj (by omega) small]
    exact ⟨fun same => congrArg RequestId.sessionId same, fun same => congrArg (RequestId.mk _) same⟩

/-- The first call is timed out, the second takes its response. -/
def belated : List (CallingAct Bool) :=
  [.other (.other (.start false)), .other (.other (.start true)), .call 1 [1], .timeout,
    .other (.other (.arrive true 0)), .other .take, .other .handle,
    .other (.other (.arrive false 0)), .call 1 [2], .get]

theorem belated_reliable (s : Calling Bool (List Parcel) Unit) :
    Transition.Along (step Link.pair Link.pairAddress id true Serving.echo false
      Caller.complexTypes) (Obeys (Medium.Reliable Letter.channel)) s belated := by
  apply Transition.along_of_forall
  intro act member t a one
  have only : a = .arrive 0 := by
    simp only [belated, List.mem_cons, List.not_mem_nil, or_false] at member
    rcases member with rfl | rfl | rfl | rfl | rfl | rfl | rfl | rfl | rfl | rfl <;> cases one <;> rfl
  rw [only]
  exact Medium.reliable_first Letter.channel t.serving.link.net

theorem call_method_answers_belated :
    ∃ t msg, Transition.run (step Link.pair Link.pairAddress id true Serving.echo false
        Caller.complexTypes) (new (fun _ => []) ()) belated = some t ∧
      t.log = [(Caller.complexTypes.request 1 1 [1], none)] ++
        (Caller.complexTypes.request 2 1 [2], some (.message msg)) :: [] ∧
      Caller.complexTypes.result (Caller.complexTypes.request 2 1 [2]) (some msg) = some [1] ∧
      ∃ asked, t.requests[0]? = some asked ∧
        Serving.Answered Serving.echo (Link.pairAddress true)
          (received (Link.pairAddress false) asked) msg := by
  have reached : (Transition.run (step Link.pair Link.pairAddress id true Serving.echo false
      Caller.complexTypes) (new (fun _ => []) ()) belated).map (fun t =>
        (t.log, t.requests, t.serving.link.calls.map fun call => (call.sender, call.target))) =
      some ([(Caller.complexTypes.request 1 1 [1], none),
        (Caller.complexTypes.request 2 1 [2], some (.message
          { Responder.response (Caller.complexTypes.request 1 1 [1]) [1] with
            sourceEndpoint := some (Link.pairAddress true) }))],
        [Caller.complexTypes.request 1 1 [1], Caller.complexTypes.request 2 1 [2]],
        [(false, Link.pairAddress true), (true, Link.pairAddress false),
          (false, Link.pairAddress true)]) := by
    decide +kernel
  obtain ⟨t, ran, shape⟩ := Option.map_eq_some_iff.mp reached
  obtain ⟨log, rest⟩ := Prod.mk.inj shape
  obtain ⟨requests, calls⟩ := Prod.mk.inj rest
  have only : ∀ call ∈ t.serving.link.calls, call.target = Link.pairAddress false →
      call.sender = true := by
    intro call member aimed
    have listed := List.mem_map_of_mem (f := fun call => (call.sender, call.target)) member
    rw [calls, aimed] at listed
    revert listed
    cases call.sender <;> decide
  have known : ∀ request ∈ t.requests,
      (Serving.echo.handler (received (Link.pairAddress false) request)).isSome = true := by
    rw [requests]
    decide
  have took : t.log = [(Caller.complexTypes.request 1 1 [1], none)] ++
      (Caller.complexTypes.request 2 1 [2], some (.message
        { Responder.response (Caller.complexTypes.request 1 1 [1]) [1] with
          sourceEndpoint := some (Link.pairAddress true) })) :: [] := log
  obtain ⟨asked, place, answered, -⟩ := call_method_answers Link.pair_posts Link.pairAddress_injective
    Link.pair_dependable (by decide) (fun _ => []) (belated_reliable _) ran only known took
  exact ⟨t, _, ran, took, by decide, asked, place, answered⟩

end Results

end Calling

end OpenSomeIp
