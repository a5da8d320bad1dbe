import OpenSomeIp.Link

set_option autoImplicit false

namespace OpenSomeIp

open Method

variable {ι ω : Type}

/-! ### What has been sent and what a receiver makes of it -/

theorem subperm_filterMap {α β : Type} (f : α → Option β) {xs ys : List α}
    (within : xs.Subperm ys) : (xs.filterMap f).Subperm (ys.filterMap f) := by
  obtain ⟨zs, permuted, inside⟩ := within
  exact ⟨zs.filterMap f, permuted.filterMap f, inside.filterMap f⟩

/-- What a listener makes of a letter. -/
def Letter.listened (address : ι → Endpoint) (letter : Letter ι) : Option Message :=
  (Bridge.listened letter.message (toCppEndpoint (address letter.sender))).toOption

/-- What a letter becomes in the receiver of a station. -/
def Letter.heard (address : ι → Endpoint) (i : ι) (letter : Letter ι) : Option Message :=
  if letter.target = toCppEndpoint (address i) then letter.listened address else none

/-- What comes to a station of all that comes to any. -/
def landedAt [DecidableEq ι] (i : ι) (arrivals : List (ι × Letter ι)) : List (Letter ι) :=
  arrivals.filterMap fun c => if c.1 = i then some c.2 else none

theorem landedAt_append [DecidableEq ι] (i : ι) (front back : List (ι × Letter ι)) :
    landedAt i (front ++ back) = landedAt i front ++ landedAt i back := List.filterMap_append

theorem landedAt_self [DecidableEq ι] (i : ι) (letter : Letter ι) :
    landedAt i [(i, letter)] = [letter] := by
  simp only [landedAt, List.filterMap_cons, List.filterMap_nil, ↓reduceIte]

theorem landedAt_of_ne [DecidableEq ι] {i j : ι} (other : j ≠ i) (letter : Letter ι) :
    landedAt i [(j, letter)] = [] := by
  simp only [landedAt, List.filterMap_cons, List.filterMap_nil, if_neg other]

/-- The message of a call as the station it is addressed to should get it. -/
def Call.addressed (address : ι → Endpoint) (i : ι) (call : Call ι) : Option Message :=
  if call.target = address i then
    some { call.message with sourceEndpoint := some (address call.sender) }
  else none

theorem Call.heard_letter (address : ι → Endpoint) (i : ι) (call : Call ι) :
    call.letter.heard address i = call.addressed address i := by
  by_cases aimed : call.target = address i
  · rw [Letter.heard, Call.addressed, Call.letter, if_pos aimed, if_pos (congrArg _ aimed),
      Letter.listened, Bridge.listened_toCpp]
    rfl
  · rw [Letter.heard, Call.addressed, if_neg aimed, if_neg]
    exact fun same => aimed (toCppEndpoint_injective same)

namespace Station

variable {s : Station ω}

/-- The receiver has accepted the first of what it was to hear, and all of it while it is open. -/
structure Attends (heard : List Message) (s : Station ω) : Prop where
  some_ : messagesOf s.inbox.accepted <+: heard
  all : s.closed = false → messagesOf s.inbox.accepted = heard

theorem attends_of_eq {heard : List Message} (same : messagesOf s.inbox.accepted = heard) :
    s.Attends heard := by
  exact ⟨same ▸ List.prefix_refl heard, fun _ => same⟩

theorem Attends.after {heard : List Message} (attends : s.Attends heard) (w : TransportWorld ω)
    (tends : s.Tends w) : (s.after w tends).Attends heard := by
  have inbox : (s.after w tends).inbox = s.inboxAfter w := rfl
  rcases inboxAfter_cases tends with same | closes
  · rw [same] at inbox
    have unchanged : (s.after w tends).closed = s.closed := congrArg ReceiverSystem.closed inbox
    exact ⟨inbox ▸ attends.some_, fun open_ => inbox ▸ attends.all (unchanged ▸ open_)⟩
  · rw [closes] at inbox
    refine ⟨?_, fun open_ => ?_⟩
    · rw [inbox, ReceiverSystem.offer, messagesOf_append]
      exact (List.append_nil _).symm ▸ attends.some_
    · have shut : (s.inbox.offer true .sentinel).closed = true :=
        (ReceiverWorld.deliver_frame _ _ _).2.1
      rw [closed, inbox, shut] at open_
      cases open_

theorem Attends.deliver {heard : List Message} (attends : s.Attends heard)
    (message : CppMessage) (sender : CppEndpoint) :
    (s.deliver message sender).Attends
      (heard ++ (Bridge.listened message sender).toOption.toList) := by
  cases open_ : s.closed with
  | true =>
      have inbox : (s.deliver message sender).inbox = s.inbox := Bridge.deliver_of_closed open_
      refine ⟨?_, fun opened => ?_⟩
      · rw [inbox]
        exact attends.some_.trans (List.prefix_append heard _)
      · rw [closed, inbox] at opened
        cases open_.symm.trans opened
  | false =>
      have all := attends.all open_
      cases listened : Bridge.listened message sender with
      | error exc =>
          have inbox : (s.deliver message sender).inbox = s.inbox :=
            Bridge.deliver_of_unheard listened
          have same : messagesOf (s.deliver message sender).inbox.accepted = heard ++ [] := by
            rw [inbox, List.append_nil, all]
          exact attends_of_eq same
      | ok pyMsg =>
          have inbox : (s.deliver message sender).inbox = s.inbox.offer false (.message pyMsg) :=
            Bridge.deliver_of_open s.sound open_ listened
          have same : messagesOf (s.deliver message sender).inbox.accepted = heard ++ [pyMsg] := by
            rw [inbox, ReceiverSystem.offer, messagesOf_append, all]
            rfl
          exact attends_of_eq same

theorem Attends.consume {heard : List Message} {t : Station ω} {act : ReceiverAct Message}
    (attends : s.Attends heard) (consumed : s.consume act = some t) : t.Attends heard := by
  rw [Station.consume] at consumed
  split at consumed
  · rename_i consumer
    obtain ⟨inbox, sound, stepped, rfl⟩ := Option.pmap_eq_some_iff.mp consumed
    have frame := ReceiverSystem.consumer_frame consumer stepped
    exact ⟨frame.2 ▸ attends.some_, fun open_ => frame.2 ▸ attends.all (frame.1.symm.trans open_)⟩
  · cases consumed

end Station

namespace Link

/-- The network keeps to a rule. -/
def Obeys (rule : Medium (Letter ι) → Medium.Act (Letter ι) → Prop) (s : Link ι ω)
    (act : LinkAct ι) : Prop := ∀ a, act.transit = some a → rule s.net a

/-- What an act brings to a station. -/
def landed (net : Medium (Letter ι)) : LinkAct ι → List (ι × Letter ι)
  | .arrive i place => net.inFlight[place]?.toList.map fun letter => (i, letter)
  | _ => []

theorem landed_of_still {act : LinkAct ι} (still : act.transit = none) (net : Medium (Letter ι)) :
    landed net act = [] := by
  cases act with
  | arrive i place => cases still
  | _ => rfl

theorem landed_of_faulty {act : LinkAct ι} {a : Medium.Act (Letter ι)} (moves : act.transit = some a)
    (faulty : a.loses = true ∨ a.repeats = true) (net : Medium (Letter ι)) :
    landed net act = [] := by
  cases act with
  | arrive i place =>
      obtain rfl := Option.some.inj moves
      rcases faulty with lost | copied <;> contradiction
  | _ => rfl

theorem landed_of_found {net : Medium (Letter ι)} {place : Nat} {letter : Letter ι}
    (found : net.inFlight[place]? = some letter) (i : ι) :
    landed net (.arrive i place) = [(i, letter)] := by
  rw [landed, found]
  rfl

theorem filterMap_heard (address : ι → Endpoint) (i : ι) (letters : List (Letter ι)) :
    letters.filterMap (Letter.heard address i) =
      (letters.filter fun letter => letter.target = toCppEndpoint (address i)).filterMap
        (Letter.listened address) := by
  rw [List.filterMap_filter]
  refine List.filterMap_congr fun letter _ => ?_
  simp only [Letter.heard, decide_eq_true_eq]

/-- What is on the network stems from calls. -/
structure Sourced (s : Link ι ω) : Prop where
  genuine : s.net.Genuine
  sent : s.net.sent.Sublist (s.calls.map Call.letter)

/-- And so does what is in the receivers. -/
structure Traced (address : ι → Endpoint) (s : Link ι ω) : Prop extends Sourced s where
  attends : ∀ i, (s.stations i).Attends (s.net.arrived.filterMap (Letter.heard address i))

section Run

variable {transport : ι → AnyTransport ω CppEndpoint CppMessage} {address : ι → Endpoint}
  {outbox : ω → List Parcel} {s t : Link ι ω} {act : LinkAct ι} [DecidableEq ι]

/-- Only calls of `send` put something on the network. -/
theorem sourced_step (posts : ∀ i, (transport i).Posts outbox) (sourced : s.Sourced)
    (stepped : s.step transport address outbox act = some t) : t.Sourced := by
  cases moves_of_step posts stepped with
  | tended act still i w tends => exact ⟨sourced.genuine, sourced.sent⟩
  | sent i message endpoint target w tends net posted =>
      have mapped : (s.calls ++ [Call.mk i message target]).map Call.letter =
          s.calls.map Call.letter ++ [Call.letter ⟨i, message, target⟩] := List.map_append
      rcases posted with ⟨rfl, _⟩ | rfl
      · refine ⟨sourced.genuine, ?_⟩
        rw [mapped]
        exact sourced.sent.trans (List.sublist_append_left _ _)
      · refine ⟨Medium.genuine_post sourced.genuine _, ?_⟩
        rw [mapped]
        exact sourced.sent.append_right _
  | arrive i place letter found aimed =>
      have stepped : s.net.step (.arrive place) = some (s.net.arrive place letter) := by
        rw [Medium.step, found]
        rfl
      exact ⟨Medium.genuine_step sourced.genuine stepped, sourced.sent⟩
  | transit act a moves faulty net moved =>
      refine ⟨Medium.genuine_step sourced.genuine moved, ?_⟩
      exact (Medium.frame_of_faulty faulty moved).1.symm ▸ sourced.sent
  | consume i act station consumed => exact ⟨sourced.genuine, sourced.sent⟩

/-- What has been sent stays so. -/
theorem sent_step (posts : ∀ i, (transport i).Posts outbox)
    (stepped : s.step transport address outbox act = some t) :
    ∃ posted, t.net.sent = s.net.sent ++ posted := by
  cases moves_of_step posts stepped with
  | tended act still i w tends => exact ⟨[], (List.append_nil _).symm⟩
  | sent i message endpoint target w tends net posted =>
      rcases posted with ⟨rfl, _⟩ | rfl
      · exact ⟨[], (List.append_nil _).symm⟩
      · exact ⟨_, rfl⟩
  | arrive i place letter found aimed => exact ⟨[], (List.append_nil _).symm⟩
  | transit act a moves faulty net moved =>
      exact ⟨[], (Medium.frame_of_faulty faulty moved).1.trans (List.append_nil _).symm⟩
  | consume i act station consumed => exact ⟨[], (List.append_nil _).symm⟩

/-- What an act brings arrives on the network, each letter at the station it is addressed to. -/
theorem arrived_step (posts : ∀ i, (transport i).Posts outbox)
    (stepped : s.step transport address outbox act = some t) :
    t.net.arrived = s.net.arrived ++ (landed s.net act).map Prod.snd ∧
      ∀ c ∈ landed s.net act, c.2.target = toCppEndpoint (address c.1) := by
  have nothing (none_ : landed s.net act = []) (same : t.net.arrived = s.net.arrived) :
      t.net.arrived = s.net.arrived ++ (landed s.net act).map Prod.snd ∧
        ∀ c ∈ landed s.net act, c.2.target = toCppEndpoint (address c.1) := by
    rw [none_, same]
    exact ⟨(List.append_nil _).symm, fun _ member => absurd member List.not_mem_nil⟩
  cases moves_of_step posts stepped with
  | tended act still i w tends => exact nothing (landed_of_still still s.net) rfl
  | sent i message endpoint target w tends net posted =>
      refine nothing rfl ?_
      rcases posted with ⟨rfl, _⟩ | rfl
      · rfl
      · rfl
  | arrive i place letter found aimed =>
      rw [landed_of_found found i]
      refine ⟨rfl, fun c member => ?_⟩
      obtain rfl := List.mem_singleton.mp member
      exact aimed
  | transit act a moves faulty net moved =>
      exact nothing (landed_of_faulty moves faulty s.net) (Medium.frame_of_faulty faulty moved).2
  | consume i act station consumed => exact nothing rfl rfl

/-- A station hears what is delivered to it, and the others do not. -/
theorem attends_deliver {heard : ι → List Message}
    (attends : ∀ i, (s.stations i).Attends (heard i)) (j : ι) (letter : Letter ι) (i : ι) :
    ((s.tend j ((s.stations j).deliver letter.message
        (toCppEndpoint (address letter.sender)))).stations i).Attends
      (heard i ++ (landedAt i [(j, letter)]).filterMap (Letter.listened address)) := by
  by_cases same : i = j
  · subst same
    have gets := (attends i).deliver letter.message (toCppEndpoint (address letter.sender))
    have one : [letter].filterMap (Letter.listened address) =
        (letter.listened address).toList := by
      cases heard : letter.listened address with
      | none => exact List.filterMap_cons_none heard
      | some msg => exact List.filterMap_cons_some heard
    rw [landedAt_self, one]
    exact (tend_self s i _).symm ▸ gets
  · rw [landedAt_of_ne (Ne.symm same), List.filterMap_nil, List.append_nil]
    exact (tend_of_ne same s _).symm ▸ attends i

/-- A station hears what an act brings to it, and nothing else comes of the act. -/
theorem attends_step (posts : ∀ i, (transport i).Posts outbox) {heard : ι → List Message}
    (attends : ∀ i, (s.stations i).Attends (heard i))
    (stepped : s.step transport address outbox act = some t) (i : ι) :
    (t.stations i).Attends
      (heard i ++ (landedAt i (landed s.net act)).filterMap (Letter.listened address)) := by
  have nothing (none_ : landed s.net act = []) (same : (t.stations i).Attends (heard i)) :
      (t.stations i).Attends
        (heard i ++ (landedAt i (landed s.net act)).filterMap (Letter.listened address)) := by
    rw [none_]
    exact (List.append_nil (heard i)).symm ▸ same
  cases moves_of_step posts stepped with
  | tended act still j w tends =>
      apply nothing (landed_of_still still s.net)
      exact tend_all attends ((attends j).after w tends) i
  | sent j message endpoint target w tends net posted =>
      exact nothing rfl (tend_all attends ((attends j).after w tends) i)
  | arrive j place letter found aimed =>
      rw [landed_of_found found j]
      exact attends_deliver attends j letter i
  | transit act a moves faulty net moved =>
      exact nothing (landed_of_faulty moves faulty s.net) (attends i)
  | consume j act station consumed =>
      exact nothing rfl (tend_all attends ((attends j).consume consumed) i)

/-- With distinct addresses, what comes to the stations they are addressed to. -/
theorem landedAt_of_aimed (distinct : Function.Injective address) (i : ι)
    {arrivals : List (ι × Letter ι)}
    (aimed : ∀ c ∈ arrivals, c.2.target = toCppEndpoint (address c.1)) :
    landedAt i arrivals =
      (arrivals.map Prod.snd).filter fun letter => letter.target = toCppEndpoint (address i) := by
  rw [List.filter_map, ← List.filterMap_eq_map, ← List.filterMap_eq_filter, List.filterMap_filterMap]
  refine List.filterMap_congr fun c member => ?_
  have here : c.1 = i ↔ c.2.target = toCppEndpoint (address i) := by
    rw [aimed c member, toCppEndpoint_injective.eq_iff, distinct.eq_iff]
  by_cases same : c.1 = i
  · simp only [Option.guard, here.mp same, same, decide_true, ↓reduceIte, Option.bind_some,
      Function.comp_apply]
  · simp only [Option.guard, Function.comp_apply, mt here.mpr same, same, decide_false,
      Bool.false_eq_true, ↓reduceIte, Option.bind_none]

theorem traced_step (posts : ∀ i, (transport i).Posts outbox)
    (distinct : Function.Injective address) (traced : s.Traced address)
    (stepped : s.step transport address outbox act = some t) : t.Traced address := by
  refine ⟨sourced_step posts traced.toSourced stepped, fun i => ?_⟩
  obtain ⟨arrived, aimed⟩ := arrived_step posts stepped
  rw [arrived, List.filterMap_append, filterMap_heard address i ((landed s.net act).map Prod.snd),
    ← landedAt_of_aimed distinct i aimed]
  exact attends_step posts traced.attends stepped i

/-- What posts keep, and what the acts that obey a rule keep. -/
theorem net_step {rule : Medium (Letter ι) → Medium.Act (Letter ι) → Prop}
    {holds : Medium (Letter ι) → Prop} (lasting : Medium.Lasting rule holds)
    (posts : ∀ i, (transport i).Posts outbox) (before : holds s.net) (obeys : s.Obeys rule act)
    (stepped : s.step transport address outbox act = some t) : holds t.net := by
  cases moves_of_step posts stepped with
  | tended act still i w tends => exact before
  | sent i message endpoint target w tends net posted =>
      rcases posted with ⟨rfl, _⟩ | rfl
      · exact before
      · exact lasting.post s.net _ before
  | arrive i place letter found aimed =>
      apply lasting.step s.net (.arrive place) _ before (obeys _ rfl)
      rw [Medium.step, found]
      rfl
  | transit act a one faulty net moved => exact lasting.step s.net a net before (obeys a one) moved
  | consume i act station consumed => exact before

/-- Where no returned call goes unposted, the network has been sent every call. -/
def Written (s : Link ι ω) : Prop := s.net.sent = s.calls.map Call.letter

theorem written_step (posts : ∀ i, (transport i).Posts outbox)
    (dependable : Dependable transport outbox) (written : s.Written)
    (stepped : s.step transport address outbox act = some t) : t.Written := by
  cases moves_of_step posts stepped with
  | tended act still i w tends => exact written
  | sent i message endpoint target w tends net posted =>
      rcases posted with ⟨_, unsure⟩ | rfl
      · exact absurd dependable unsure
      · rw [Written, List.map_append, ← written]
        rfl
  | arrive i place letter found aimed => exact written
  | transit act a moves faulty net moved =>
      exact (Medium.frame_of_faulty faulty moved).1.trans written
  | consume i act station consumed => exact written

end Run

/-- As every transport's `__init__` leaves it. -/
def new (native : ι → ω) : Link ι ω where
  stations := fun i => Station.new (native i)

theorem sourced_new (native : ι → ω) : (new native).Sourced where
  genuine := fun _ member => absurd member List.not_mem_nil
  sent := List.Sublist.refl []

theorem traced_new (address : ι → Endpoint) (native : ι → ω) : (new native).Traced address where
  toSourced := sourced_new native
  attends := fun _ => Station.attends_of_eq rfl

end Link

/-! ### What a receiver yields -/

theorem ReceiverSystem.messagesOf_returned {α : Type} {s : ReceiverSystem α} (sound : s.Sound) :
    messagesOf s.returned <+: messagesOf s.accepted := by
  obtain ⟨dequeued, stops, returned, queued, _⟩ := sound.sync
  have silent : messagesOf (List.replicate stops (Item.sentinel : Item α)) = [] := by
    apply List.filterMap_eq_nil_iff.mpr
    intro item member
    rw [List.eq_of_mem_replicate member]
  refine ⟨messagesOf s.syncItems, ?_⟩
  rw [returned, messagesOf_append, silent, List.append_nil, ← messagesOf_append, queued]

/-- The messages from an endpoint. -/
def sentBy (ep : Endpoint) (messages : List Message) : List Message :=
  messages.filter fun msg => msg.sourceEndpoint = some ep

theorem Letter.listened_source {address : ι → Endpoint} {letter : Letter ι} {msg : Message}
    (listened : letter.listened address = some msg) :
    msg.sourceEndpoint = some (address letter.sender) := by
  rw [Letter.listened] at listened
  cases converted : fromCppMessage letter.message with
  | error exc =>
      simp only [Bridge.listened, converted, bind, Except.bind, Except.toOption,
        reduceCtorEq] at listened
  | ok plain =>
      simp only [Bridge.listened, converted, bind, Except.bind, withSource,
        fromCppEndpoint_toCppEndpoint, Except.toOption, Option.some.injEq] at listened
      rw [← listened]

theorem heard_source {address : ι → Endpoint} {i : ι} {letter : Letter ι} {msg : Message}
    (heard : letter.heard address i = some msg) :
    letter.target = toCppEndpoint (address i) ∧
      msg.sourceEndpoint = some (address letter.sender) := by
  rw [Letter.heard] at heard
  split at heard
  · rename_i aimed
    exact ⟨aimed, Letter.listened_source heard⟩
  · cases heard

section Channel

variable [DecidableEq ι]

def Letter.channel (letter : Letter ι) : ι × CppEndpoint := (letter.sender, letter.target)

/-- The messages from a station are those over its channel. -/
theorem sentBy_heard {address : ι → Endpoint} (distinct : Function.Injective address) (i j : ι)
    (letters : List (Letter ι)) :
    sentBy (address j) (letters.filterMap (Letter.heard address i)) =
      (Medium.carried Letter.channel (j, toCppEndpoint (address i)) letters).filterMap
        (Letter.heard address i) := by
  induction letters with
  | nil => rfl
  | cons letter letters ih =>
      rw [Medium.carried] at ih ⊢
      rw [List.filter_cons]
      cases heard : letter.heard address i with
      | none =>
          rw [List.filterMap_cons_none heard, ih]
          split
          · rw [List.filterMap_cons_none heard]
          · rfl
      | some msg =>
          obtain ⟨aimed, source⟩ := heard_source heard
          rw [List.filterMap_cons_some heard, sentBy, List.filter_cons]
          by_cases sender : letter.sender = j
          · have via : Letter.channel letter = (j, toCppEndpoint (address i)) := by
              rw [Letter.channel, sender, aimed]
            rw [sender] at source
            simp only [source, via, decide_true, ↓reduceIte]
            rw [List.filterMap_cons_some heard, ← ih]
            rfl
          · have other : ¬ Letter.channel letter = (j, toCppEndpoint (address i)) :=
              fun same => sender (congrArg Prod.fst same)
            have foreign : ¬ msg.sourceEndpoint = some (address j) := by
              rw [source]
              exact fun same => sender (distinct (Option.some.inj same))
            simp only [foreign, other, decide_false, Bool.false_eq_true, ↓reduceIte]
            exact ih

end Channel

theorem filterMap_letter (address : ι → Endpoint) (i : ι) (calls : List (Call ι)) :
    (calls.map Call.letter).filterMap (Letter.heard address i) =
      calls.filterMap (Call.addressed address i) := by
  rw [List.filterMap_map]
  exact List.filterMap_congr fun call _ => call.heard_letter address i

namespace Link

section Results

variable {transport : ι → AnyTransport ω CppEndpoint CppMessage}
  {address : ι → Endpoint} {outbox : ω → List Parcel} {s t : Link ι ω} {acts : List (LinkAct ι)}

theorem accepted_of_returned (s : Link ι ω) (i : ι) :
    (messagesOf (s.stations i).inbox.returned).Sublist
      (messagesOf (s.stations i).inbox.accepted) :=
  (ReceiverSystem.messagesOf_returned (s.stations i).sound).sublist

theorem accepted_of_yielded {i : ι} {msg : Message} (yields : msg ∈ (s.stations i).inbox.yielded) :
    msg ∈ messagesOf (s.stations i).inbox.accepted := by
  rw [ReceiverSystem.yielded, messagesOf_append, List.mem_append] at yields
  rcases yields with sync | async
  · exact (accepted_of_returned s i).mem sync
  · apply ReceiverSystem.mem_of_asyncLine (s.stations i).sound
    rw [ReceiverSystem.asyncLine, messagesOf_append]
    exact List.mem_append_left _ async

theorem addressed_of_yielded (traced : s.Traced address) {i : ι} {msg : Message}
    (yields : msg ∈ (s.stations i).inbox.yielded) :
    msg ∈ s.calls.filterMap (Call.addressed address i) := by
  have arrives := (traced.attends i).some_.sublist.mem (accepted_of_yielded yields)
  obtain ⟨letter, arrived, heard⟩ := List.mem_filterMap.mp arrives
  have sent := traced.sent.mem (traced.genuine letter (List.mem_append_left _ arrived))
  rw [← filterMap_letter]
  exact List.mem_filterMap.mpr ⟨letter, sent, heard⟩

theorem returned_of_once (traced : s.Traced address) (once : s.net.Once) (i : ι) :
    (messagesOf (s.stations i).inbox.returned).Subperm
      (s.calls.filterMap (Call.addressed address i)) := by
  have arrived : s.net.arrived.Subperm (s.calls.map Call.letter) :=
    ((List.sublist_append_left _ _).subperm.trans once).trans traced.sent.subperm
  have heard : (s.net.arrived.filterMap (Letter.heard address i)).Subperm
      (s.calls.filterMap (Call.addressed address i)) := by
    rw [← filterMap_letter]
    exact subperm_filterMap _ arrived
  exact ((accepted_of_returned s i).trans (traced.attends i).some_.sublist).subperm.trans heard

variable [DecidableEq ι]

theorem returned_of_ordered (distinct : Function.Injective address) (traced : s.Traced address)
    (ordered : s.net.Ordered Letter.channel) (i j : ι) :
    (sentBy (address j) (messagesOf (s.stations i).inbox.returned)).Sublist
      (sentBy (address j) (s.calls.filterMap (Call.addressed address i))) := by
  have arrived : (Medium.carried Letter.channel (j, toCppEndpoint (address i)) s.net.arrived).Sublist
      (Medium.carried Letter.channel (j, toCppEndpoint (address i)) (s.calls.map Call.letter)) :=
    (((List.sublist_append_left _ _).filter _).trans (ordered _)).trans (traced.sent.filter _)
  have heard := ((accepted_of_returned s i).trans (traced.attends i).some_.sublist).filter
    fun msg => msg.sourceEndpoint = some (address j)
  refine heard.trans ?_
  change (sentBy (address j) (s.net.arrived.filterMap (Letter.heard address i))).Sublist _
  rw [← filterMap_letter, sentBy_heard distinct, sentBy_heard distinct]
  exact arrived.filterMap _

/-- Where nothing is lost either, a receiver yields the first of what a station sent there. -/
theorem returned_of_complete (distinct : Function.Injective address) (traced : s.Traced address)
    (written : s.Written) (complete : s.net.Complete Letter.channel) (i j : ι) :
    sentBy (address j) (messagesOf (s.stations i).inbox.returned) <+:
      sentBy (address j) (s.calls.filterMap (Call.addressed address i)) := by
  have taken := (ReceiverSystem.messagesOf_returned (s.stations i).sound).trans
    (traced.attends i).some_
  have arrived : Medium.carried Letter.channel (j, toCppEndpoint (address i)) s.net.arrived <+:
      Medium.carried Letter.channel (j, toCppEndpoint (address i)) (s.calls.map Call.letter) := by
    rw [← written, ← complete, Medium.traced, Medium.carried_append]
    exact List.prefix_append _ _
  have heard := taken.filter fun msg => msg.sourceEndpoint = some (address j)
  refine heard.trans ?_
  change sentBy (address j) (s.net.arrived.filterMap (Letter.heard address i)) <+: _
  rw [← filterMap_letter, sentBy_heard distinct, sentBy_heard distinct]
  exact arrived.filterMap _

/-- And while it is open, what it has yet to yield and what is in flight to it are the rest. -/
theorem line_of_complete (distinct : Function.Injective address) (traced : s.Traced address)
    (written : s.Written) (complete : s.net.Complete Letter.channel) (i : ι)
    (open_ : (s.stations i).closed = false) (j : ι) :
    sentBy (address j) (s.stations i).inbox.syncLine ++
        sentBy (address j) (s.net.inFlight.filterMap (Letter.heard address i)) =
      sentBy (address j) (s.calls.filterMap (Call.addressed address i)) := by
  rw [ReceiverSystem.syncLine_of_open (s.stations i).sound open_, (traced.attends i).all open_,
    ← filterMap_letter, ← written, sentBy_heard distinct, sentBy_heard distinct,
    sentBy_heard distinct, ← complete, Medium.traced, Medium.carried_append, List.filterMap_append]

/-- A native transport that posts whatever it is given. -/
def boxed : NativeUdpTransport (List Parcel) CppEndpoint CppMessage where
  toCppEndpoint ep := pure (OpenSomeIp.toCppEndpoint ep)
  toCppMessage msg := pure (OpenSomeIp.toCppMessage msg)
  start := pure (some "SUCCESS")
  stop := pure ()
  sendMessage cppMsg cppEp := Method.modify fun posted => posted ++ [(cppMsg, cppEp)]
  joinMulticastGroup _ := pure ()

/-- Two transports, each the other's remote. -/
def pairAddress (i : Bool) : Endpoint := ⟨"127.0.0.1", if i then 30501 else 30502⟩

def pair (i : Bool) : AnyTransport (List Parcel) CppEndpoint CppMessage :=
  .udp {
    localEndpoint := pairAddress i
    remoteEndpoint := some (pairAddress !i)
    cpp := some boxed }

theorem pair_posts (i : Bool) : (pair i).Posts id := by
  intro cpp present
  obtain rfl := Option.some.inj present
  refine ⟨⟨fun _ => rfl, fun _ => rfl, ?_, ?_, ?_⟩, fun _ posted => Keeps.pure ()⟩
  · exact fun posted => Keeps.pure _
  · exact fun posted => Keeps.pure ()
  · exact fun cppMsg cppEp s => .inr ⟨rfl, rfl⟩

theorem pair_dependable : Dependable pair id := by
  intro i cpp present cppMsg cppEp s _
  obtain rfl := Option.some.inj present
  rfl

theorem pairAddress_injective : Function.Injective pairAddress := by
  intro i j same
  revert i j
  decide

end Results

end Link

end OpenSomeIp
