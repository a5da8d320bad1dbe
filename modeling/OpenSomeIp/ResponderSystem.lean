import OpenSomeIp.Responder

set_option autoImplicit false

namespace OpenSomeIp

open Method

variable {ι ω σ : Type} [DecidableEq ι]

/-- Whether it sends with the transport of `i` or iterates over its receiver. -/
def LinkAct.uses (i : ι) : LinkAct ι → Bool
  | .send j _ _ => j = i
  | .consume j _ => j = i
  | _ => false

namespace Link

def callsBy (i : ι) (s : Link ι ω) : List (Call ι) := s.calls.filter fun call => call.sender = i

/-- The messages that the sync iteration over a receiver has yielded. -/
def taken (i : ι) (s : Link ι ω) : List Message := messagesOf (s.stations i).inbox.returned

variable {transport : ι → AnyTransport ω CppEndpoint CppMessage} {address : ι → Endpoint}
  {outbox : ω → List Parcel} {s t : Link ι ω} {i : ι}

theorem tend_returned {j : ι} {station : Station ω}
    (same : station.inbox.returned = (s.stations j).inbox.returned) :
    (s.tend j station).taken i = s.taken i := by
  let keeps (k : ι) (other : Station ω) : Prop :=
    other.inbox.returned = (s.stations k).inbox.returned
  have others (k : ι) : keeps k (s.stations k) := rfl
  have every : keeps i ((s.tend j station).stations i) := tend_all others same i
  rw [taken, taken, every]

/-- What others do leaves the calls and the yielded messages of `i` as they are. -/
theorem frame_of_other (posts : ∀ i, (transport i).Posts outbox) {act : LinkAct ι}
    (other : act.uses i = false) (stepped : s.step transport address outbox act = some t) :
    t.callsBy i = s.callsBy i ∧ t.taken i = s.taken i := by
  cases moves_of_step posts stepped with
  | tended act still j w tends => exact ⟨rfl, tend_returned rfl⟩
  | sent j message endpoint target w tends net posted =>
      have foreign : ¬ j = i := of_decide_eq_false other
      refine ⟨?_, tend_returned rfl⟩
      rw [callsBy, callsBy, List.filter_append, List.filter_cons_of_neg, List.filter_nil,
        List.append_nil]
      simpa only [decide_eq_true_eq] using foreign
  | arrive j place letter found aimed => exact ⟨rfl, tend_returned rfl⟩
  | transit act a moves faulty net moved => exact ⟨rfl, rfl⟩
  | consume j act station consumed =>
      have foreign : i ≠ j := fun same => of_decide_eq_false other same.symm
      refine ⟨rfl, ?_⟩
      rw [taken, taken, tend_of_ne foreign]

theorem callsBy_append (i : ι) (s : Link ι ω) (call : Call ι) (mine : call.sender = i) :
    (s.calls ++ [call]).filter (fun call => call.sender = i) = s.callsBy i ++ [call] := by
  have kept : [call].filter (fun call => call.sender = i) = [call] :=
    List.filter_cons_of_pos (p := fun call : Call ι => decide (call.sender = i)) (decide_eq_true mine)
  rw [List.filter_append, kept]
  rfl

/-- A `send` that returns is one call more; one that raises is none. -/
theorem callsBy_of_send (posts : ∀ i, (transport i).Posts outbox) {message : Message}
    {endpoint : Option Endpoint}
    (stepped : s.step transport address outbox (.send i message endpoint) = some t) :
    t.taken i = s.taken i ∧
      ((∃ exc, ((transport i).super.send message endpoint (s.stations i).world).1 = .error exc ∧
          t.callsBy i = s.callsBy i) ∨
        ∃ target, ((transport i).super.send message endpoint (s.stations i).world).1 = .ok () ∧
          (transport i).super.target message endpoint = some target ∧
          t.callsBy i = s.callsBy i ++ [⟨i, message, target⟩]) := by
  obtain rfl := Option.some.inj stepped
  refine ⟨tend_returned rfl, ?_⟩
  have native := AnyTransport.super_posts (posts i)
  cases ran : ((transport i).super.send message endpoint (s.stations i).world).1 with
  | error exc =>
      refine .inl ⟨exc, rfl, ?_⟩
      simp only [callsBy, sent]
      rw [Call.made, List.append_nil]
      intro _ returned
      cases returned
  | ok value =>
      rcases Transport.send_cases native message endpoint (s.stations i).world with
        ⟨exc, raised⟩ | ⟨cpp, target, present, aimed, called⟩
      · rw [raised] at ran
        cases ran
      · refine .inr ⟨target, rfl, aimed, ?_⟩
        simp only [callsBy, sent, aimed]
        exact callsBy_append i s ⟨i, message, target⟩ rfl

/-- A `__next__` yields a message, ends the iteration, or waits. -/
theorem returned_of_next
    (stepped : s.step transport address outbox (.consume i .next) = some t) :
    t.callsBy i = s.callsBy i ∧
      ∃ items, (t.stations i).inbox.returned = (s.stations i).inbox.returned ++ items ∧
        (items = [] ∨ ∃ item, items = [item]) := by
  obtain ⟨station, consumed, rfl⟩ := Option.map_eq_some_iff.mp stepped
  obtain ⟨inbox, sound, moved, rfl⟩ := Option.pmap_eq_some_iff.mp consumed
  refine ⟨rfl, ?_⟩
  rw [tend_self]
  cases ReceiverSystem.moves_of_step (s.stations i).sound.unbounded moved with
  | nextItem item rest head => exact ⟨[item], rfl, .inr ⟨item, rfl⟩⟩
  | nextIdle empty open_ => exact ⟨[], (List.append_nil _).symm, .inl rfl⟩
  | nextStop empty closed => exact ⟨[.sentinel], rfl, .inr ⟨.sentinel, rfl⟩⟩

end Link

/-! ### A server script at work -/

/-- Where the loop over the receiver is. -/
inductive ServingLoop where
  | waiting
  | handling (msg : Message)
  | ended
  deriving DecidableEq, Repr

/-- What `__next__` returned or raised. -/
def ServingLoop.next : List (Item Message) → ServingLoop
  | [] => .waiting
  | .message msg :: _ => .handling msg
  | .sentinel :: _ => .ended

/-- A link, one transport of which a server script runs on. -/
structure Serving (ι ω σ : Type) where
  link : Link ι ω
  globals : σ
  loop : ServingLoop := .waiting

/-- A round of the loop has two halves. Everything else, a signal handler's `stop` too, can happen
between any two of them. -/
inductive ServingAct (ι : Type) where
  | other (act : LinkAct ι)
  | take
  | handle
  deriving DecidableEq, Repr

/-- What the act does on the network by itself. -/
def ServingAct.transit : ServingAct ι → Option (Medium.Act (Letter ι))
  | .other act => act.transit
  | _ => none

/-- Whether it uses the transport of a station that the script does not run on. -/
def ServingAct.uses (i : ι) : ServingAct ι → Bool
  | .other act => act.uses i
  | _ => false

namespace Serving

/-- The network keeps to a rule. -/
def Obeys (rule : Medium (Letter ι) → Medium.Act (Letter ι) → Prop) (s : Serving ι ω σ)
    (act : ServingAct ι) : Prop := ∀ a, act.transit = some a → rule s.link.net a

/-- The loop goes on behind a `send` that returned. -/
def loopAfter : Except Exn Unit → ServingLoop
  | .ok () => .waiting
  | .error _ => .ended

section Step

variable (transport : ι → AnyTransport ω CppEndpoint CppMessage) (address : ι → Endpoint)
  (outbox : ω → List Parcel) (server : ι) (responder : Responder σ)

def step (s : Serving ι ω σ) : ServingAct ι → Option (Serving ι ω σ)
  | .other act =>
      if act.uses server then none
      else (s.link.step transport address outbox act).map fun link => { s with link := link }
  | .take =>
      match s.loop with
      | .waiting =>
          (s.link.step transport address outbox (.consume server .next)).map fun link => { s with
            link := link
            loop := .next ((link.stations server).inbox.returned.drop
              (s.link.stations server).inbox.returned.length) }
      | _ => none
  | .handle =>
      match s.loop with
      | .handling msg =>
          match responder.answer msg s.globals with
          | (.error _, globals) => some { s with globals := globals, loop := .ended }
          | (.ok none, globals) => some { s with globals := globals, loop := .waiting }
          | (.ok (some result), globals) =>
              (s.link.step transport address outbox
                (.send server result msg.sourceEndpoint)).map fun link =>
                  { link := link
                    globals := globals
                    loop := loopAfter ((transport server).super.send result msg.sourceEndpoint
                      (s.link.stations server).world).1 }
      | _ => none

end Step

/-- A call sends the response of a pair back to where the request came from. -/
def Sends (transport : ι → AnyTransport ω CppEndpoint CppMessage) (server : ι)
    (pair : Message × Message) (call : Call ι) : Prop :=
  call.sender = server ∧ call.message = pair.2 ∧
    (transport server).super.target pair.2 pair.1.sourceEndpoint = some call.target

/-- The loop has ended behind `done`, or at one more message, which its handler has had. -/
def Ended (responder : Responder σ) (done taken : List Message) (globals after : σ) : Prop :=
  done = taken ∧ globals = after ∨
    ∃ msg, done ++ [msg] = taken ∧ (responder.answer msg globals).2 = after

/-- The script has served `done` of what its receiver yielded, with these answers. -/
structure Progress (transport : ι → AnyTransport ω CppEndpoint CppMessage) (server : ι)
    (responder : Responder σ) (start : σ) (s : Serving ι ω σ) (done : List Message)
    (pairs : List (Message × Message)) (globals : σ) : Prop where
  ran : responder.serve done start = (.ok pairs, globals)
  sent : List.Forall₂ (Sends transport server) pairs (s.link.callsBy server)
  waiting : s.loop = .waiting → done = s.link.taken server ∧ globals = s.globals
  handling : ∀ msg, s.loop = .handling msg →
    done ++ [msg] = s.link.taken server ∧ globals = s.globals
  ended : s.loop = .ended → Ended responder done (s.link.taken server) globals s.globals

section Progress

variable {transport : ι → AnyTransport ω CppEndpoint CppMessage} {server : ι}
  {responder : Responder σ} {start globals : σ} {s : Serving ι ω σ} {done : List Message}
  {pairs : List (Message × Message)}

theorem progress_of_waiting (ran : responder.serve done start = (.ok pairs, globals))
    (sent : List.Forall₂ (Sends transport server) pairs (s.link.callsBy server))
    (at_ : s.loop = .waiting) (all : done = s.link.taken server) (same : globals = s.globals) :
    Progress transport server responder start s done pairs globals where
  ran := ran
  sent := sent
  waiting _ := ⟨all, same⟩
  handling msg other := by cases at_.symm.trans other
  ended other := by cases at_.symm.trans other

theorem progress_of_handling (ran : responder.serve done start = (.ok pairs, globals))
    (sent : List.Forall₂ (Sends transport server) pairs (s.link.callsBy server)) {msg : Message}
    (at_ : s.loop = .handling msg) (all : done ++ [msg] = s.link.taken server)
    (same : globals = s.globals) : Progress transport server responder start s done pairs globals where
  ran := ran
  sent := sent
  waiting other := by cases at_.symm.trans other
  handling other here := by
    cases at_.symm.trans here
    exact ⟨all, same⟩
  ended other := by cases at_.symm.trans other

theorem progress_of_ended (ran : responder.serve done start = (.ok pairs, globals))
    (sent : List.Forall₂ (Sends transport server) pairs (s.link.callsBy server))
    (at_ : s.loop = .ended) (ended : Ended responder done (s.link.taken server) globals s.globals) :
    Progress transport server responder start s done pairs globals where
  ran := ran
  sent := sent
  waiting other := by cases at_.symm.trans other
  handling msg other := by cases at_.symm.trans other
  ended _ := ended

end Progress

theorem Progress.front {transport : ι → AnyTransport ω CppEndpoint CppMessage} {server : ι}
    {responder : Responder σ} {start globals : σ} {s : Serving ι ω σ} {done : List Message}
    {pairs : List (Message × Message)}
    (progress : Progress transport server responder start s done pairs globals) :
    done <+: s.link.taken server := by
  cases at_ : s.loop with
  | waiting => exact (progress.waiting at_).1 ▸ List.prefix_refl done
  | handling msg => exact (progress.handling msg at_).1 ▸ List.prefix_append done [msg]
  | ended =>
      rcases progress.ended at_ with ⟨all, -⟩ | ⟨msg, all, -⟩
      · exact all ▸ List.prefix_refl done
      · exact all ▸ List.prefix_append done [msg]

/-- The script has answered what it took, in its order, up to where its loop is. -/
def Served (transport : ι → AnyTransport ω CppEndpoint CppMessage) (server : ι)
    (responder : Responder σ) (start : σ) (s : Serving ι ω σ) : Prop :=
  ∃ done pairs globals, Progress transport server responder start s done pairs globals

section Run

variable {transport : ι → AnyTransport ω CppEndpoint CppMessage} {address : ι → Endpoint}
  {outbox : ω → List Parcel} {server : ι} {responder : Responder σ} {start : σ}
  {s t : Serving ι ω σ}

theorem served_other (posts : ∀ i, (transport i).Posts outbox) {act : LinkAct ι}
    (served : s.Served transport server responder start)
    (stepped : s.step transport address outbox server responder (.other act) = some t) :
    t.Served transport server responder start := by
  obtain ⟨done, pairs, globals, progress⟩ := served
  rw [step] at stepped
  split at stepped
  · cases stepped
  · rename_i foreign
    obtain ⟨link, moved, rfl⟩ := Option.map_eq_some_iff.mp stepped
    have frame := Link.frame_of_other posts (Bool.eq_false_iff.mpr foreign) moved
    refine ⟨done, pairs, globals, progress.ran, ?_, ?_, ?_, ?_⟩
    · exact frame.1.symm ▸ progress.sent
    · exact frame.2.symm ▸ progress.waiting
    · exact frame.2.symm ▸ progress.handling
    · exact frame.2.symm ▸ progress.ended

theorem served_take (served : s.Served transport server responder start)
    (stepped : s.step transport address outbox server responder .take = some t) :
    t.Served transport server responder start := by
  obtain ⟨done, pairs, globals, progress⟩ := served
  cases at_ : s.loop with
  | handling msg =>
      rw [step, at_] at stepped
      cases stepped
  | ended =>
      rw [step, at_] at stepped
      cases stepped
  | waiting =>
      simp only [step, at_] at stepped
      obtain ⟨link, moved, rfl⟩ := Option.map_eq_some_iff.mp stepped
      obtain ⟨calls, items, returned, one⟩ := Link.returned_of_next moved
      obtain ⟨all, same⟩ := progress.waiting at_
      have taken : link.taken server = done ++ messagesOf items := by
        rw [Link.taken, returned, messagesOf_append, all]
        rfl
      have sent := calls.symm ▸ progress.sent
      rw [returned, List.drop_left]
      rcases one with rfl | ⟨item, rfl⟩
      · have yet : done = link.taken server := (taken.trans (List.append_nil _)).symm
        exact ⟨done, pairs, globals, progress_of_waiting progress.ran sent rfl yet same⟩
      · cases item with
        | sentinel =>
            have whole : done = link.taken server := (taken.trans (List.append_nil _)).symm
            exact ⟨done, pairs, globals,
              progress_of_ended progress.ran sent rfl (.inl ⟨whole, same⟩)⟩
        | message msg =>
            exact ⟨done, pairs, globals,
              progress_of_handling progress.ran sent rfl taken.symm same⟩

theorem served_handle (posts : ∀ i, (transport i).Posts outbox)
    (served : s.Served transport server responder start)
    (stepped : s.step transport address outbox server responder .handle = some t) :
    t.Served transport server responder start := by
  obtain ⟨done, pairs, globals, progress⟩ := served
  cases at_ : s.loop with
  | waiting =>
      rw [step, at_] at stepped
      cases stepped
  | ended =>
      rw [step, at_] at stepped
      cases stepped
  | handling msg =>
      obtain ⟨all, rfl⟩ := progress.handling msg at_
      cases answered : responder.answer msg s.globals with
      | mk outcome after =>
          simp only [step, at_, answered] at stepped
          cases outcome with
          | error exc =>
              obtain rfl := Option.some.inj stepped
              have raised : (responder.answer msg s.globals).2 = after := by rw [answered]
              exact ⟨done, pairs, _,
                progress_of_ended progress.ran progress.sent rfl (.inr ⟨msg, all, raised⟩)⟩
          | ok result =>
              have ran := Responder.serve_snoc progress.ran answered
              cases result with
              | none =>
                  obtain rfl := Option.some.inj stepped
                  have sent := (List.append_nil pairs).symm ▸ progress.sent
                  exact ⟨_, _, after, progress_of_waiting ran sent rfl all rfl⟩
              | some result =>
                  obtain ⟨link, moved, rfl⟩ := Option.map_eq_some_iff.mp stepped
                  obtain ⟨taken, sends⟩ := Link.callsBy_of_send posts moved
                  rcases sends with ⟨exc, raised, calls⟩ | ⟨target, returned, aimed, calls⟩
                  · rw [raised]
                    have sent := calls.symm ▸ progress.sent
                    have handled : (responder.answer msg s.globals).2 = after := by rw [answered]
                    exact ⟨done, pairs, _, progress_of_ended progress.ran sent rfl
                      (.inr ⟨msg, all.trans taken.symm, handled⟩)⟩
                  · rw [returned]
                    have one : List.Forall₂ (Sends transport server) [(msg, result)]
                        [⟨server, result, target⟩] := .cons ⟨rfl, rfl, aimed⟩ .nil
                    have sent : List.Forall₂ (Sends transport server) (pairs ++ [(msg, result)])
                        (link.callsBy server) := by
                      rw [calls]
                      exact List.rel_append progress.sent one
                    exact ⟨_, _, after, progress_of_waiting ran sent rfl (all.trans taken.symm) rfl⟩

theorem served_step (posts : ∀ i, (transport i).Posts outbox) {act : ServingAct ι}
    (served : s.Served transport server responder start)
    (stepped : s.step transport address outbox server responder act = some t) :
    t.Served transport server responder start := by
  cases act with
  | other act => exact served_other posts served stepped
  | take => exact served_take served stepped
  | handle => exact served_handle posts served stepped

/-- A step is one of the link, or none. -/
theorem link_step {act : ServingAct ι}
    (stepped : s.step transport address outbox server responder act = some t) :
    t.link = s.link ∨ ∃ a : LinkAct ι, a.transit = act.transit ∧
      (∀ i, i ≠ server → a.uses i = act.uses i) ∧
      s.link.step transport address outbox a = some t.link := by
  cases act with
  | other act =>
      rw [step] at stepped
      split at stepped
      · cases stepped
      · obtain ⟨link, moved, rfl⟩ := Option.map_eq_some_iff.mp stepped
        exact .inr ⟨act, rfl, fun _ _ => rfl, moved⟩
  | take =>
      rw [step] at stepped
      split at stepped
      · obtain ⟨link, moved, rfl⟩ := Option.map_eq_some_iff.mp stepped
        refine .inr ⟨_, rfl, ?_, moved⟩
        exact fun _ other => decide_eq_false other.symm
      · cases stepped
  | handle =>
      rw [step] at stepped
      split at stepped
      · split at stepped
        · obtain rfl := Option.some.inj stepped
          exact .inl rfl
        · obtain rfl := Option.some.inj stepped
          exact .inl rfl
        · obtain ⟨link, moved, rfl⟩ := Option.map_eq_some_iff.mp stepped
          refine .inr ⟨_, rfl, ?_, moved⟩
          exact fun _ other => decide_eq_false other.symm
      · cases stepped

theorem traced_step (posts : ∀ i, (transport i).Posts outbox)
    (distinct : Function.Injective address) {act : ServingAct ι} (traced : s.link.Traced address)
    (stepped : s.step transport address outbox server responder act = some t) :
    t.link.Traced address := by
  rcases link_step stepped with same | ⟨a, _, _, moved⟩
  · rw [same]
    exact traced
  · exact Link.traced_step posts distinct traced moved

theorem written_step (posts : ∀ i, (transport i).Posts outbox)
    (dependable : Link.Dependable transport outbox) {act : ServingAct ι}
    (written : s.link.Written)
    (stepped : s.step transport address outbox server responder act = some t) :
    t.link.Written := by
  rcases link_step stepped with same | ⟨a, _, _, moved⟩
  · rw [same]
    exact written
  · exact Link.written_step posts dependable written moved

theorem net_step {rule : Medium (Letter ι) → Medium.Act (Letter ι) → Prop}
    {holds : Medium (Letter ι) → Prop} (lasting : Medium.Lasting rule holds)
    (posts : ∀ i, (transport i).Posts outbox) {act : ServingAct ι} (before : holds s.link.net)
    (obeys : s.Obeys rule act)
    (stepped : s.step transport address outbox server responder act = some t) :
    holds t.link.net := by
  rcases link_step stepped with same | ⟨a, transit, _, moved⟩
  · rw [same]
    exact before
  · exact Link.net_step lasting posts before (fun b one => obeys b (transit ▸ one)) moved

end Run

end Serving

/-! ### From a client's request to the response it gets -/

namespace Link

variable {address : ι → Endpoint} {s : Link ι ω}

/-- What comes from a transport's address to another's is what it sent there. -/
theorem sentBy_addressed (distinct : Function.Injective address) (i j : ι) :
    sentBy (address j) (s.calls.filterMap (Call.addressed address i)) =
      (s.callsBy j).filterMap (Call.addressed address i) := by
  rw [callsBy]
  induction s.calls with
  | nil => rfl
  | cons call calls ih =>
      rw [List.filter_cons]
      by_cases aimed : call.target = address i
      · have got : call.addressed address i =
            some { call.message with sourceEndpoint := some (address call.sender) } := if_pos aimed
        rw [List.filterMap_cons_some got, sentBy, List.filter_cons]
        by_cases mine : call.sender = j
        · simp only [mine, decide_true, ↓reduceIte]
          rw [List.filterMap_cons_some got, mine, ← ih]
          rfl
        · have other : ¬ some (address call.sender) = some (address j) :=
            fun same => mine (distinct (Option.some.inj same))
          simp only [mine, other, decide_false, Bool.false_eq_true, ↓reduceIte]
          exact ih
      · have nothing : call.addressed address i = none := if_neg aimed
        rw [List.filterMap_cons_none nothing, ih]
        split
        · rw [List.filterMap_cons_none nothing]
        · rfl

end Link

namespace Serving

/-- As a station gets the answer to a request from the server. -/
def Answered (responder : Responder σ) (server : Endpoint) (request msg : Message) : Prop :=
  ∃ result, responder.Answers request result ∧
    msg = { result with sourceEndpoint := some server }

section Results

variable {transport : ι → AnyTransport ω CppEndpoint CppMessage} {address : ι → Endpoint}
  {outbox : ω → List Parcel} {server : ι} {responder : Responder σ} {start : σ}
  {s t : Serving ι ω σ} {acts : List (ServingAct ι)}

/-- What the script has sent to a station answers what came from there among the requests it has
got through. -/
theorem answered_pairs (traced : s.link.Traced address) {done : List Message}
    {pairs : List (Message × Message)} {globals : σ}
    (progress : Progress transport server responder start s done pairs globals) (i : ι) :
    List.Forall₂ (Answered responder (address server)) (sentBy (address i) (pairs.map Prod.fst))
      ((s.link.callsBy server).filterMap (Call.addressed address i)) := by
  have front := progress.front.sublist
  obtain ⟨inside, answers⟩ := Responder.serve_answers progress.ran
  have known (pair : Message × Message) (member : pair ∈ pairs) :
      responder.Answers pair.1 pair.2 ∧ pair.1.sourceEndpoint.isSome = true := by
    refine ⟨answers pair member, ?_⟩
    have request := front.mem (inside.mem (List.mem_map_of_mem member))
    have yields : pair.1 ∈ (s.link.stations server).inbox.yielded := by
      rw [ReceiverSystem.yielded, messagesOf_append]
      exact List.mem_append_left _ request
    obtain ⟨call, _, addressed⟩ := List.mem_filterMap.mp (Link.addressed_of_yielded traced yields)
    rw [Call.addressed] at addressed
    split at addressed
    · rw [← Option.some.inj addressed]
      rfl
    · cases addressed
  let from_ (msg : Message) : Bool := msg.sourceEndpoint = some (address i)
  have paired := (List.forall₂_and_left pairs _).mpr ⟨known, progress.sent⟩
  have same : sentBy (address i) (pairs.map Prod.fst) =
      pairs.filterMap (Option.guard from_ ∘ Prod.fst) := by
    rw [← List.filterMap_map, List.filterMap_eq_filter]
    rfl
  rw [same]
  refine List.rel_filterMap ?_ paired
  rintro ⟨request, result⟩ call ⟨⟨answer, located⟩, mine, same, aimed⟩
  change request.sourceEndpoint.isSome = true at located
  obtain ⟨source, came⟩ := Option.isSome_iff_exists.mp located
  have back : call.target = source := by
    simp only [Transport.target, came, Option.some_or, Option.some.injEq] at aimed
    exact aimed.symm
  rw [Function.comp_apply, Option.guard, Call.addressed, back]
  by_cases here : source = address i
  · have mine_ : from_ request = true := by
      simp only [from_, came, here, decide_true]
    rw [if_pos mine_, if_pos here, same, mine]
    exact .some ⟨result, answer, rfl⟩
  · have aside : ¬ from_ request = true := by
      simp only [from_, came, Option.some.injEq, here, decide_false, Bool.false_eq_true,
        not_false_eq_true]
    rw [if_neg aside, if_neg here]
    exact .none

/-- These are requests that its receiver yielded, each once and in their order. -/
theorem answered_calls (traced : s.link.Traced address)
    (served : s.Served transport server responder start) (i : ι) :
    ∃ requests, requests.Sublist (sentBy (address i) (s.link.taken server)) ∧
      List.Forall₂ (Answered responder (address server)) requests
        ((s.link.callsBy server).filterMap (Call.addressed address i)) := by
  obtain ⟨done, pairs, globals, progress⟩ := served
  have inside := (Responder.serve_answers progress.ran).1
  exact ⟨_, (inside.trans progress.front.sublist).filter _, answered_pairs traced progress i⟩

/-- And where the script has handlers for all that comes from there, they are the first of them. -/
theorem answered_front (traced : s.link.Traced address)
    (served : s.Served transport server responder start) (i : ι)
    (known : ∀ msg ∈ sentBy (address i) (s.link.taken server),
      (responder.handler msg).isSome = true) :
    ∃ requests, requests <+: sentBy (address i) (s.link.taken server) ∧
      List.Forall₂ (Answered responder (address server)) requests
        ((s.link.callsBy server).filterMap (Call.addressed address i)) := by
  obtain ⟨done, pairs, globals, progress⟩ := served
  refine ⟨_, ?_, answered_pairs traced progress i⟩
  have all : (pairs.map Prod.fst).filter (fun msg => msg.sourceEndpoint = some (address i)) =
      done.filter fun msg => msg.sourceEndpoint = some (address i) := by
    apply Responder.serve_known progress.ran
    intro msg member here
    exact known msg (List.mem_filter.mpr ⟨progress.front.sublist.mem member, here⟩)
  rw [sentBy, all]
  exact progress.front.filter _

/-- No message yet, and the globals as the script sets them. -/
def new (native : ι → ω) (start : σ) : Serving ι ω σ := { link := Link.new native, globals := start }

theorem served_new (native : ι → ω) : (new native start).Served transport server responder start :=
  ⟨[], [], start, progress_of_waiting rfl .nil rfl rfl rfl⟩

theorem invariants_run (posts : ∀ i, (transport i).Posts outbox)
    (distinct : Function.Injective address) (native : ι → ω)
    (ran : Transition.run (step transport address outbox server responder) (new native start) acts =
      some t) : t.link.Traced address ∧ t.Served transport server responder start := by
  have preserved (s : Serving ι ω σ) (act : ServingAct ι) (t : Serving ι ω σ)
      (before : s.link.Traced address ∧ s.Served transport server responder start)
      (stepped : s.step transport address outbox server responder act = some t) :
      t.link.Traced address ∧ t.Served transport server responder start :=
    ⟨traced_step posts distinct before.1 stepped, served_step posts before.2 stepped⟩
  exact Transition.invariant_run preserved ⟨Link.traced_new address native, served_new native⟩ ran

theorem net_run {rule : Medium (Letter ι) → Medium.Act (Letter ι) → Prop}
    {holds : Medium (Letter ι) → Prop} (lasting : Medium.Lasting rule holds)
    (posts : ∀ i, (transport i).Posts outbox) (before : holds s.link.net)
    (along : Transition.Along (step transport address outbox server responder) (Obeys rule) s acts)
    (ran : Transition.run (step transport address outbox server responder) s acts = some t) :
    holds t.link.net := by
  have preserved (s : Serving ι ω σ) (act : ServingAct ι) (t : Serving ι ω σ)
      (before : holds s.link.net) (obeys : s.Obeys rule act)
      (stepped : s.step transport address outbox server responder act = some t) :
      holds t.link.net := net_step lasting posts before obeys stepped
  exact Transition.invariant_along preserved along before ran

theorem sentBy_subperm {xs ys : List Message} (within : xs.Subperm ys) (ep : Endpoint) :
    (sentBy ep xs).Subperm (sentBy ep ys) := within.filter _

/-- A script that returns what it is sent. -/
def echo : Responder Unit where
  handler msg := if msg.messageType = .request then some pure else none

/-- A request goes there, and its response comes back. -/
def roundTrip (request : Message) : List (ServingAct Bool) :=
  [.other (.start false), .other (.start true), .other (.send false request none),
    .other (.arrive true 0), .take, .handle, .other (.arrive false 0), .other (.consume false .next)]

theorem roundTrip_obeys {rule : Medium (Letter Bool) → Medium.Act (Letter Bool) → Prop}
    (first : ∀ net, rule net (.arrive 0)) {σ : Type} (script : Responder σ) (request : Message)
    (s : Serving Bool (List Parcel) σ) :
    Transition.Along (step Link.pair Link.pairAddress id true script) (Obeys rule) s
      (roundTrip request) := by
  apply Transition.along_of_forall
  intro act member t a one
  have only : a = .arrive 0 := by
    simp only [roundTrip, List.mem_cons, List.not_mem_nil, or_false] at member
    rcases member with rfl | rfl | rfl | rfl | rfl | rfl | rfl | rfl <;> cases one <;> rfl
  rw [only]
  exact first t.link.net

/-- On any network, whoever gets a message from the server's address gets the answer to a request
that it sent there. From a network that repeats nothing no request gets more answers than it was
sent, and from one that keeps to the order of each channel the answers come in the order of the
requests. -/
theorem responses_answer_requests (posts : ∀ i, (transport i).Posts outbox)
    (distinct : Function.Injective address) (native : ι → ω)
    (ran : Transition.run (step transport address outbox server responder) (new native start) acts =
      some t) (i : ι) :
    (∀ msg ∈ (t.link.stations i).inbox.yielded, msg.sourceEndpoint = some (address server) →
      ∃ request ∈ sentBy (address i) (t.link.calls.filterMap (Call.addressed address server)),
        Answered responder (address server) request msg) ∧
    (Transition.Along (step transport address outbox server responder) (Obeys Medium.Single)
        (new native start) acts →
      ∃ requests,
        requests.Subperm
          (sentBy (address i) (t.link.calls.filterMap (Call.addressed address server))) ∧
        List.Forall₂ (Answered responder (address server)) requests
          (sentBy (address server) (t.link.taken i))) ∧
    (Transition.Along (step transport address outbox server responder)
        (Obeys (Medium.Orderly Letter.channel)) (new native start) acts →
      ∃ requests,
        requests.Sublist
          (sentBy (address i) (t.link.calls.filterMap (Call.addressed address server))) ∧
        List.Forall₂ (Answered responder (address server)) requests
          (sentBy (address server) (t.link.taken i))) := by
  obtain ⟨traced, served⟩ := invariants_run posts distinct native ran
  obtain ⟨requests, taken, answered⟩ := answered_calls traced served i
  rw [← Link.sentBy_addressed distinct] at answered
  refine ⟨fun msg yields came => ?_, fun along => ?_, fun along => ?_⟩
  · have addressed := Link.addressed_of_yielded traced yields
    have sent : msg ∈ sentBy (address server) (t.link.calls.filterMap (Call.addressed address i)) :=
      List.mem_filter.mpr ⟨addressed, decide_eq_true came⟩
    obtain ⟨one, inside, related⟩ :=
      Pairing.exists_of_sublist answered (List.singleton_sublist.mpr sent)
    obtain ⟨request, rest, answers, _, rfl⟩ := List.forall₂_cons_right_iff.mp related
    have request_taken := taken.mem (inside.mem List.mem_cons_self)
    obtain ⟨mine, here⟩ := List.mem_filter.mp request_taken
    have request_yields : request ∈ (t.link.stations server).inbox.yielded := by
      rw [ReceiverSystem.yielded, messagesOf_append]
      exact List.mem_append_left _ mine
    refine ⟨request, List.mem_filter.mpr ⟨?_, here⟩, answers⟩
    exact Link.addressed_of_yielded traced request_yields
  · have start : (new native start).link.net.Once := List.Subperm.refl []
    have once : t.link.net.Once := net_run Medium.lasting_once posts start along ran
    have got := sentBy_subperm (Link.returned_of_once traced once i) (address server)
    obtain ⟨some_, inside, related⟩ := Pairing.exists_of_subperm answered got
    have asked := sentBy_subperm (Link.returned_of_once traced once server) (address i)
    exact ⟨some_, (inside.trans taken.subperm).trans asked, related⟩
  · have start : (new native start).link.net.Ordered Letter.channel := fun _ => List.Sublist.refl []
    have ordered : t.link.net.Ordered Letter.channel :=
      net_run (Medium.lasting_ordered Letter.channel) posts start along ran
    have got := Link.returned_of_ordered distinct traced ordered i server
    obtain ⟨some_, inside, related⟩ := Pairing.exists_of_sublist answered got
    have asked := Link.returned_of_ordered distinct traced ordered server i
    exact ⟨some_, (inside.trans taken).trans asked, related⟩

theorem responses_answer_requests_echo :
    ∃ t, Transition.run (step Link.pair Link.pairAddress id true echo)
        (new (fun _ => []) ()) (roundTrip { payload := [1, 2, 3] }) = some t ∧
      (t.link.taken false).map Message.payload = [[1, 2, 3]] ∧
      (∀ msg ∈ (t.link.stations false).inbox.yielded,
        msg.sourceEndpoint = some (Link.pairAddress true) →
        ∃ request ∈ sentBy (Link.pairAddress false)
            (t.link.calls.filterMap (Call.addressed Link.pairAddress true)),
          Answered echo (Link.pairAddress true) request msg) ∧
      (∃ requests,
        requests.Subperm (sentBy (Link.pairAddress false)
          (t.link.calls.filterMap (Call.addressed Link.pairAddress true))) ∧
        List.Forall₂ (Answered echo (Link.pairAddress true)) requests
          (sentBy (Link.pairAddress true) (t.link.taken false))) ∧
      ∃ requests,
        requests.Sublist (sentBy (Link.pairAddress false)
          (t.link.calls.filterMap (Call.addressed Link.pairAddress true))) ∧
        List.Forall₂ (Answered echo (Link.pairAddress true)) requests
          (sentBy (Link.pairAddress true) (t.link.taken false)) := by
  have reached : (Transition.run (step Link.pair Link.pairAddress id true echo)
      (new (fun _ => []) ()) (roundTrip { payload := [1, 2, 3] })).map
        (fun t => (t.link.taken false).map Message.payload) = some [[1, 2, 3]] := by
    decide +kernel
  obtain ⟨t, ran, returned⟩ := Option.map_eq_some_iff.mp reached
  obtain ⟨answered, once, ordered⟩ :=
    responses_answer_requests Link.pair_posts Link.pairAddress_injective (fun _ => []) ran false
  have orderly (net : Medium (Letter Bool)) : net.Orderly Letter.channel (.arrive 0) :=
    (Medium.reliable_first Letter.channel net).1
  refine ⟨t, ran, returned, answered, once ?_, ordered ?_⟩
  · exact roundTrip_obeys (fun net => (orderly net).1) echo _ (new (fun _ => []) ())
  · exact roundTrip_obeys orderly echo _ (new (fun _ => []) ())

end Results

end Serving

end OpenSomeIp
