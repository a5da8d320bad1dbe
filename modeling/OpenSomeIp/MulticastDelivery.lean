import OpenSomeIp.Multicast

set_option autoImplicit false

namespace OpenSomeIp

open Method

variable {ι ω : Type}

/-! ### Messages and the endpoints they were sent to -/

/-- The message of a call as it should come to the endpoint that the call names. -/
def Call.delivery (address : ι → Endpoint) (call : Call ι) : Endpoint × Message :=
  (call.target, { call.message with sourceEndpoint := some (address call.sender) })

def Letter.delivery (address : ι → Endpoint) (letter : Letter ι) : Option (Endpoint × Message) :=
  match fromCppEndpoint letter.target, letter.listened address with
  | .ok target, some msg => some (target, msg)
  | _, _ => none

/-- The messages that one endpoint sent to another. -/
def between (source target : Endpoint) (deliveries : List (Endpoint × Message)) :
    List (Endpoint × Message) :=
  deliveries.filter fun d => d.1 = target ∧ d.2.sourceEndpoint = some source

theorem Call.delivery_letter (address : ι → Endpoint) (call : Call ι) :
    call.letter.delivery address = some (call.delivery address) := by
  have listened : call.letter.listened address =
      some { call.message with sourceEndpoint := some (address call.sender) } := by
    rw [Letter.listened, Call.letter, Bridge.listened_toCpp]
    rfl
  rw [Letter.delivery, listened, Call.letter, fromCppEndpoint_toCppEndpoint]
  rfl

theorem delivery_eq_some {address : ι → Endpoint} {letter : Letter ι} {d : Endpoint × Message}
    (delivered : letter.delivery address = some d) :
    letter.target = toCppEndpoint d.1 ∧ letter.listened address = some d.2 := by
  rw [Letter.delivery] at delivered
  split at delivered
  · rename_i target msg converted listened
    obtain rfl := Option.some.inj delivered
    exact ⟨(fromCppEndpoint_eq_ok converted).symm, listened⟩
  · cases delivered

theorem filterMap_delivery (address : ι → Endpoint) (calls : List (Call ι)) :
    (calls.map Call.letter).filterMap (Letter.delivery address) =
      calls.map (Call.delivery address) := by
  rw [List.filterMap_map, ← List.filterMap_eq_map]
  exact List.filterMap_congr fun call _ => call.delivery_letter address

section Channels

variable [DecidableEq ι]

/-- What one endpoint sent to another is what went over their channel. -/
theorem between_delivery {address : ι → Endpoint} (distinct : Function.Injective address) (j : ι)
    (target : Endpoint) (letters : List (Letter ι)) :
    between (address j) target (letters.filterMap (Letter.delivery address)) =
      (Medium.carried Letter.channel (j, toCppEndpoint target) letters).filterMap
        (Letter.delivery address) := by
  induction letters with
  | nil => rfl
  | cons letter letters ih =>
      rw [Medium.carried] at ih ⊢
      rw [List.filter_cons]
      cases delivered : letter.delivery address with
      | none =>
          rw [List.filterMap_cons_none delivered, ih]
          split
          · rw [List.filterMap_cons_none delivered]
          · rfl
      | some d =>
          obtain ⟨aimed, listened⟩ := delivery_eq_some delivered
          have source := Letter.listened_source listened
          have here : Letter.channel letter = (j, toCppEndpoint target) ↔
              d.1 = target ∧ d.2.sourceEndpoint = some (address j) := by
            rw [Letter.channel, aimed, source, Prod.mk.injEq, toCppEndpoint_injective.eq_iff,
              Option.some.injEq, distinct.eq_iff]
            exact and_comm
          rw [List.filterMap_cons_some delivered, between, List.filter_cons]
          by_cases via : Letter.channel letter = (j, toCppEndpoint target)
          · rw [if_pos (decide_eq_true via), if_pos (decide_eq_true (here.mp via)),
              List.filterMap_cons_some delivered, ← ih]
            rfl
          · have foreign := mt here.mpr via
            simp only [via, foreign, decide_false, Bool.false_eq_true, ↓reduceIte]
            exact ih

/-- To choose among what comes to one station is to choose among what comes to all. -/
theorem landedAt_filter (i : ι) (arrivals : List (ι × Letter ι)) {p : ι × Letter ι → Bool}
    {q : Letter ι → Bool} (agree : ∀ letter, p (i, letter) = q letter) :
    landedAt i (arrivals.filter p) = (landedAt i arrivals).filter q := by
  rw [landedAt, landedAt, List.filterMap_filter, List.filter_filterMap]
  refine List.filterMap_congr fun c _ => ?_
  obtain ⟨j, letter⟩ := c
  by_cases here : j = i
  · subst here
    simp only [agree, ↓reduceIte, Option.filter]
  · simp only [here, ↓reduceIte, ite_self, Option.filter_none]

theorem carried_landedAt (i : ι) (k : ι × CppEndpoint) (arrivals : List (ι × Letter ι)) :
    Medium.carried Letter.channel k (landedAt i arrivals) =
      landedAt i (Medium.carried copyChannel (i, k) arrivals) := by
  refine (landedAt_filter i arrivals fun letter => ?_).symm
  simp only [copyChannel, Prod.mk.injEq, true_and]

end Channels

namespace Multicast

section Results

variable [DecidableEq ι] {transport : ι → AnyTransport ω CppEndpoint CppMessage}
  {address : ι → Endpoint} {outbox : ω → List Parcel} {s t : Multicast ι ω}
  {acts : List (MulticastAct ι)}

/-! ### The two ways to one station -/

/-- What has come to a station's own address. -/
theorem landedAt_own (distinct : Function.Injective address) (traced : s.Traced transport address)
    (i : ι) :
    (landedAt i s.arrivals).filter (fun letter => letter.target = toCppEndpoint (address i)) =
      s.link.net.arrived.filter fun letter => letter.target = toCppEndpoint (address i) := by
  rw [← traced.own, ← Link.landedAt_of_aimed distinct i]
  · symm
    apply landedAt_filter
    exact fun letter => rfl
  · intro c member
    exact of_decide_eq_true (List.mem_filter.mp member).2

/-- What has come to it through its group. -/
theorem landedAt_shared (traced : s.Traced transport address) (i : ι) :
    (landedAt i s.arrivals).filter (fun letter => ¬ letter.target = toCppEndpoint (address i)) =
      landedAt i s.copies.arrived := by
  rw [← traced.shared]
  symm
  apply landedAt_filter
  exact fun letter => rfl

theorem carried_own (distinct : Function.Injective address) (traced : s.Traced transport address)
    (i j : ι) :
    Medium.carried Letter.channel (j, toCppEndpoint (address i)) (landedAt i s.arrivals) =
      Medium.carried Letter.channel (j, toCppEndpoint (address i)) s.link.net.arrived := by
  have inside (letters : List (Letter ι)) :
      Medium.carried Letter.channel (j, toCppEndpoint (address i)) letters =
        Medium.carried Letter.channel (j, toCppEndpoint (address i))
          (letters.filter fun letter => letter.target = toCppEndpoint (address i)) := by
    rw [Medium.carried, Medium.carried, List.filter_filter]
    refine List.filter_congr fun letter _ => ?_
    simp only [Letter.channel, Prod.mk.injEq, Bool.decide_and]
    rw [Bool.and_assoc, Bool.and_self]
  rw [inside, landedAt_own distinct traced, ← inside]

theorem carried_shared (traced : s.Traced transport address) {i : ι} {target : Endpoint}
    (other : target ≠ address i) (j : ι) :
    Medium.carried Letter.channel (j, toCppEndpoint target) (landedAt i s.arrivals) =
      Medium.carried Letter.channel (j, toCppEndpoint target) (landedAt i s.copies.arrived) := by
  rw [← landedAt_shared traced, Medium.carried, Medium.carried, List.filter_filter]
  refine List.filter_congr fun letter _ => ?_
  by_cases via : Letter.channel letter = (j, toCppEndpoint target)
  · have aside : ¬ letter.target = toCppEndpoint (address i) := by
      rw [show letter.target = toCppEndpoint target from congrArg Prod.snd via]
      exact fun same => other (toCppEndpoint_injective same)
    simp only [via, aside, not_false_eq_true, decide_true, Bool.and_self]
  · simp only [via, decide_false, Bool.false_and]

/-- Whatever came to a station had been sent, to its address or to its group. -/
theorem source_of_landed (distinct : Function.Injective address)
    (traced : s.Traced transport address) {i : ι} {letter : Letter ι}
    (landed : letter ∈ landedAt i s.arrivals) :
    ∃ call ∈ s.link.calls, call.letter = letter ∧ Listens transport address i call.target := by
  have called (sent : letter ∈ s.link.net.sent) :
      ∃ call ∈ s.link.calls, call.letter = letter :=
    List.mem_map.mp (traced.sourced.sent.mem sent)
  by_cases direct : letter.target = toCppEndpoint (address i)
  · have arrived : letter ∈ s.link.net.arrived := by
      apply List.mem_of_mem_filter
      rw [← landedAt_own distinct traced]
      exact List.mem_filter.mpr ⟨landed, decide_eq_true direct⟩
    obtain ⟨call, made, rfl⟩ :=
      called (traced.sourced.genuine letter (List.mem_append_left _ arrived))
    exact ⟨call, made, rfl, .inl (toCppEndpoint_injective direct)⟩
  · have copied : letter ∈ landedAt i s.copies.arrived := by
      rw [← landedAt_shared traced]
      exact List.mem_filter.mpr ⟨landed, decide_eq_true direct⟩
    obtain ⟨⟨k, copy⟩, there, same⟩ := List.mem_filterMap.mp copied
    obtain ⟨rfl, rfl⟩ : k = i ∧ copy = letter := by
      split at same
      · rename_i here
        exact ⟨here, Option.some.inj same⟩
      · cases same
    have sent : (k, copy) ∈ s.copies.sent := traced.genuine _ (List.mem_append_left _ there)
    have inside : copy ∈ landedAt k s.copies.sent :=
      List.mem_filterMap.mpr ⟨(k, copy), sent, if_pos rfl⟩
    obtain ⟨call, made, rfl⟩ := called ((traced.copied k).mem inside)
    obtain ⟨target, joined, equal⟩ := Option.map_eq_some_iff.mp (traced.aimed _ sent)
    obtain rfl := toCppEndpoint_injective equal
    exact ⟨call, made, rfl, .inr joined⟩

/-- What the station should have got of all that came to it. -/
def gets (address : ι → Endpoint) (i : ι) (s : Multicast ι ω) : List (Endpoint × Message) :=
  (landedAt i s.arrivals).filterMap (Letter.delivery address)

theorem gets_source (distinct : Function.Injective address) (traced : s.Traced transport address)
    {i : ι} {d : Endpoint × Message} (got : d ∈ s.gets address i) :
    Listens transport address i d.1 ∧ d ∈ s.link.calls.map (Call.delivery address) := by
  obtain ⟨letter, landed, delivered⟩ := List.mem_filterMap.mp got
  obtain ⟨call, made, rfl, listens⟩ := source_of_landed distinct traced landed
  obtain rfl := Option.some.inj ((call.delivery_letter address).symm.trans delivered)
  exact ⟨listens, List.mem_map_of_mem made⟩

/-- All of it can be converted. -/
theorem map_gets (distinct : Function.Injective address) (traced : s.Traced transport address)
    (i : ι) :
    (s.gets address i).map Prod.snd =
      (landedAt i s.arrivals).filterMap (Letter.listened address) := by
  rw [gets, List.map_filterMap]
  refine List.filterMap_congr fun letter landed => ?_
  obtain ⟨call, -, rfl, -⟩ := source_of_landed distinct traced landed
  obtain ⟨-, listened⟩ := delivery_eq_some (call.delivery_letter address)
  rw [call.delivery_letter address, listened]
  rfl

/-! ### What the disciplines of the network leave true of it -/

theorem gets_of_once (distinct : Function.Injective address) (traced : s.Traced transport address)
    (once : s.link.net.Once) (copiesOnce : s.copies.Once) (i : ι) :
    (s.gets address i).Subperm (s.link.calls.map (Call.delivery address)) := by
  have arrived : s.link.net.arrived.Subperm s.link.net.sent :=
    (List.sublist_append_left _ _).subperm.trans once
  have copied : (landedAt i s.copies.arrived).Subperm s.link.net.sent :=
    (subperm_filterMap _ ((List.sublist_append_left _ _).subperm.trans copiesOnce)).trans
      (traced.copied i).subperm
  have own := arrived.filter fun letter => decide (letter.target = toCppEndpoint (address i))
  rw [← landedAt_own distinct traced] at own
  have shared := copied.filter fun letter => !decide (letter.target = toCppEndpoint (address i))
  rw [← landedAt_shared traced, List.filter_filter] at shared
  simp only [decide_not, Bool.and_self] at shared
  have whole : (landedAt i s.arrivals).Subperm s.link.net.sent :=
    ((List.filter_append_perm _ _).symm.subperm.trans (own.append shared)).trans
      (List.filter_append_perm _ _).subperm
  rw [← filterMap_delivery]
  exact subperm_filterMap _ (whole.trans traced.sourced.sent.subperm)

theorem copies_channel (traced : s.Traced transport address) (i j : ι) (target : Endpoint) :
    (Medium.carried Letter.channel (j, toCppEndpoint target) (landedAt i s.copies.sent)).Sublist
      (Medium.carried Letter.channel (j, toCppEndpoint target) (s.link.calls.map Call.letter)) :=
  ((traced.copied i).trans traced.sourced.sent).filter _

theorem gets_of_ordered (distinct : Function.Injective address)
    (traced : s.Traced transport address) (ordered : s.link.net.Ordered Letter.channel)
    (copiesOrdered : s.copies.Ordered copyChannel) (i j : ι) (target : Endpoint) :
    (between (address j) target (s.gets address i)).Sublist
      (between (address j) target (s.link.calls.map (Call.delivery address))) := by
  rw [gets, between_delivery distinct, ← filterMap_delivery, between_delivery distinct]
  apply List.Sublist.filterMap
  by_cases own : target = address i
  · subst own
    rw [carried_own distinct traced]
    exact (((List.sublist_append_left _ _).filter _).trans (ordered _)).trans
      (traced.sourced.sent.filter _)
  · rw [carried_shared traced own]
    refine List.Sublist.trans ?_ (copies_channel traced i j target)
    rw [carried_landedAt, carried_landedAt]
    exact (((List.sublist_append_left _ _).filter _).trans (copiesOrdered _)).filterMap _

theorem gets_own_of_complete (distinct : Function.Injective address)
    (traced : s.Traced transport address) (written : s.link.Written)
    (complete : s.link.net.Complete Letter.channel) (i j : ι) :
    between (address j) (address i) (s.gets address i) ++
        between (address j) (address i)
          (s.link.net.inFlight.filterMap (Letter.delivery address)) =
      between (address j) (address i) (s.link.calls.map (Call.delivery address)) := by
  rw [gets, between_delivery distinct, between_delivery distinct, ← filterMap_delivery,
    between_delivery distinct, carried_own distinct traced, ← List.filterMap_append,
    ← Medium.carried_append, ← written]
  exact congrArg _ (complete _)

theorem gets_shared_of_complete (distinct : Function.Injective address)
    (traced : s.Traced transport address) (complete : s.copies.Complete copyChannel) {i : ι}
    {target : Endpoint} (other : target ≠ address i) (j : ι) :
    between (address j) target (s.gets address i) ++
        between (address j) target
          ((landedAt i s.copies.inFlight).filterMap (Letter.delivery address)) =
      between (address j) target
        ((landedAt i s.copies.sent).filterMap (Letter.delivery address)) := by
  rw [gets, between_delivery distinct, between_delivery distinct, between_delivery distinct,
    carried_shared traced other, ← List.filterMap_append, carried_landedAt, carried_landedAt,
    carried_landedAt, ← landedAt_append, ← Medium.carried_append]
  exact congrArg (fun cs => (landedAt i cs).filterMap (Letter.delivery address)) (complete _)

/-- Two transports, each the other's remote, one of them in a group. -/
def members (i : Bool) : AnyTransport (List Parcel) CppEndpoint CppMessage :=
  .udp {
    localEndpoint := Link.pairAddress i
    remoteEndpoint := some (Link.pairAddress !i)
    multicastGroup := if i then some "239.1.1.1" else none
    cpp := some Link.boxed }

theorem members_posts (i : Bool) : (members i).Posts id := Link.pair_posts i

theorem members_dependable : Link.Dependable members id := Link.pair_dependable

theorem members_apart (i : Bool) :
    groupEndpoint members Link.pairAddress i ≠ some (Link.pairAddress i) := by
  revert i
  decide

/-- Two messages, to the station and to its group, of which the second has been received. -/
def overtaking : List (MulticastAct Bool) :=
  let msg (n : UInt16) : Message := { messageId := ⟨0x1234, n⟩ }
  [.link (.start false) [], .link (.start true) [], .link (.send false (msg 1) none) [true],
    .link (.send false (msg 2) (some ⟨"239.1.1.1", 30501⟩)) [true], .hear 0,
    .link (.consume true .next) []]

theorem overtaking_obeys {rule : Medium (Letter Bool) → Medium.Act (Letter Bool) → Prop}
    {copyRule : Medium (Bool × Letter Bool) → Medium.Act (Bool × Letter Bool) → Prop}
    (first : ∀ copies, copyRule copies (.arrive 0)) (s : Multicast Bool (List Parcel)) :
    Transition.Along (step members Link.pairAddress id) (Obeys rule copyRule) s overtaking := by
  apply Transition.along_of_forall
  intro act member t
  simp only [overtaking, List.mem_cons, List.not_mem_nil, or_false] at member
  constructor
  · rintro inner reached rfl a one
    rcases member with same | same | same | same | same | same <;> cases same <;> cases one
  · intro a one
    have only : a = .arrive 0 := by
      rcases member with rfl | rfl | rfl | rfl | rfl | rfl <;> cases one
      rfl
    rw [only]
    exact first t.copies

/-- A receiver yields only messages that some transport's `send` was called with for an endpoint at
which the station listens, its address or its group, each as it was sent and with that transport's
address as its source. From a network that repeats nothing the sync iteration gets none more often
than it was sent, and from one that also keeps to the order of each channel what comes from a
transport to either endpoint comes in the order of its calls. -/
theorem yields_only_sent (posts : ∀ i, (transport i).Posts outbox)
    (distinct : Function.Injective address)
    (apart : ∀ i, groupEndpoint transport address i ≠ some (address i)) (native : ι → ω)
    (ran : Transition.run (step transport address outbox) (new native) acts = some t) (i : ι) :
    (∀ msg ∈ (t.link.stations i).inbox.yielded, ∃ target, Listens transport address i target ∧
      (target, msg) ∈ t.link.calls.map (Call.delivery address)) ∧
    ∃ got : List (Endpoint × Message),
      got.map Prod.snd = messagesOf (t.link.stations i).inbox.returned ∧
      (∀ d ∈ got, Listens transport address i d.1 ∧
        d ∈ t.link.calls.map (Call.delivery address)) ∧
      (Transition.Along (step transport address outbox) (Obeys Medium.Single Medium.Single)
          (new native) acts →
        got.Subperm (t.link.calls.map (Call.delivery address))) ∧
      (Transition.Along (step transport address outbox)
          (Obeys (Medium.Orderly Letter.channel) (Medium.Orderly copyChannel)) (new native) acts →
        ∀ j target, (between (address j) target got).Sublist
          (between (address j) target (t.link.calls.map (Call.delivery address)))) := by
  have traced := traced_run posts apart (traced_new transport address native) ran
  have attends := attended_run posts (attended_new address native) ran i
  rw [← map_gets distinct traced] at attends
  have accepted := attends.some_
  have returned := (ReceiverSystem.messagesOf_returned (t.link.stations i).sound).trans accepted
  refine ⟨fun msg yields => ?_, ?_⟩
  · have inside := accepted.sublist.mem (Link.accepted_of_yielded yields)
    obtain ⟨⟨target, msg⟩, got, rfl⟩ := List.mem_map.mp inside
    exact ⟨target, gets_source distinct traced got⟩
  · obtain ⟨got, front, same⟩ := List.prefix_map_iff.mp returned
    refine ⟨got, same.symm, fun d member => ?_, fun along => ?_, fun along j target => ?_⟩
    · exact gets_source distinct traced (front.sublist.mem member)
    · have start : (new native : Multicast ι ω).link.net.Once ∧ (new native).copies.Once :=
        ⟨List.Subperm.refl [], List.Subperm.refl []⟩
      obtain ⟨once, copiesOnce⟩ :=
        media_run Medium.lasting_once Medium.lasting_once posts start along ran
      exact front.sublist.subperm.trans (gets_of_once distinct traced once copiesOnce i)
    · have start : (new native : Multicast ι ω).link.net.Ordered Letter.channel ∧
          (new native).copies.Ordered copyChannel :=
        ⟨fun _ => List.Sublist.refl [], fun _ => List.Sublist.refl []⟩
      obtain ⟨ordered, copiesOrdered⟩ := media_run (Medium.lasting_ordered Letter.channel)
        (Medium.lasting_ordered copyChannel) posts start along ran
      exact (front.sublist.filter _).trans
        (gets_of_ordered distinct traced ordered copiesOrdered i j target)

theorem yields_only_sent_overtaking :
    ∃ t, Transition.run (step members Link.pairAddress id) (new fun _ => []) overtaking = some t ∧
      (messagesOf (t.link.stations true).inbox.returned).map Message.messageId =
        [⟨0x1234, 2⟩] ∧
      ∃ got : List (Endpoint × Message),
        got.map Prod.snd = messagesOf (t.link.stations true).inbox.returned ∧
        got.Subperm (t.link.calls.map (Call.delivery Link.pairAddress)) ∧
        (between (Link.pairAddress false) ⟨"239.1.1.1", 30501⟩ got).Sublist
          (between (Link.pairAddress false) ⟨"239.1.1.1", 30501⟩
            (t.link.calls.map (Call.delivery Link.pairAddress))) := by
  have reached : (Transition.run (step members Link.pairAddress id) (new fun _ => [])
      overtaking).map (fun t => (messagesOf (t.link.stations true).inbox.returned).map
        Message.messageId) = some [⟨0x1234, 2⟩] := by
    decide +kernel
  obtain ⟨t, ran, returned⟩ := Option.map_eq_some_iff.mp reached
  obtain ⟨-, got, yields, -, once, ordered⟩ := yields_only_sent members_posts
    Link.pairAddress_injective members_apart (fun _ => []) ran true
  refine ⟨t, ran, returned, got, yields, once ?_, ordered ?_ false _⟩
  · exact overtaking_obeys (fun copies => (Medium.reliable_first copyChannel copies).1.1) _
  · exact overtaking_obeys (fun copies => (Medium.reliable_first copyChannel copies).1) _

/-- Over a reliable network, with a native `send_message` that posts when it returns: what an open
receiver's sync iteration has yielded and what waits in its queue is, as far as it came to the
station's own address, with what is in flight every message sent to that address, in the order of
each sender's calls, and as far as it came to its group, with the copies in flight, all that was
sent to the group while the station was reached. -/
theorem reliable_complete (posts : ∀ i, (transport i).Posts outbox)
    (distinct : Function.Injective address)
    (apart : ∀ i, groupEndpoint transport address i ≠ some (address i))
    (dependable : Link.Dependable transport outbox) (native : ι → ω)
    (along : Transition.Along (step transport address outbox)
      (Obeys (Medium.Reliable Letter.channel) (Medium.Reliable copyChannel)) (new native) acts)
    (ran : Transition.run (step transport address outbox) (new native) acts = some t) (i : ι)
    (open_ : (t.link.stations i).closed = false) :
    ∃ got : List (Endpoint × Message),
      got.map Prod.snd = (t.link.stations i).inbox.syncLine ∧
      (∀ d ∈ got, Listens transport address i d.1) ∧
      ∀ j,
        between (address j) (address i) got ++
            between (address j) (address i)
              (t.link.net.inFlight.filterMap (Letter.delivery address)) =
          between (address j) (address i) (t.link.calls.map (Call.delivery address)) ∧
        ∀ group, groupEndpoint transport address i = some group →
          between (address j) group got ++
              between (address j) group
                ((landedAt i t.copies.inFlight).filterMap (Letter.delivery address)) =
            between (address j) group
              ((landedAt i t.copies.sent).filterMap (Letter.delivery address)) ∧
          (between (address j) group
              ((landedAt i t.copies.sent).filterMap (Letter.delivery address))).Sublist
            (between (address j) group (t.link.calls.map (Call.delivery address))) := by
  have traced := traced_run posts apart (traced_new transport address native) ran
  have attends := attended_run posts (attended_new address native) ran i
  have unwritten : (new native : Multicast ι ω).link.Written := rfl
  have written := written_run posts dependable unwritten ran
  have start : (new native : Multicast ι ω).link.net.Complete Letter.channel ∧
      (new native).copies.Complete copyChannel := ⟨fun _ => rfl, fun _ => rfl⟩
  obtain ⟨complete, copiesComplete⟩ := media_run (Medium.lasting_complete Letter.channel)
    (Medium.lasting_complete copyChannel) posts start along ran
  refine ⟨t.gets address i, ?_, fun d got => (gets_source distinct traced got).1, fun j => ⟨?_, ?_⟩⟩
  · rw [ReceiverSystem.syncLine_of_open (t.link.stations i).sound open_, attends.all open_,
      map_gets distinct traced]
  · exact gets_own_of_complete distinct traced written complete i j
  · intro group joined
    have other : group ≠ address i := by
      rintro rfl
      exact apart i joined
    refine ⟨gets_shared_of_complete distinct traced copiesComplete other j, ?_⟩
    rw [between_delivery distinct, ← filterMap_delivery, between_delivery distinct]
    exact (copies_channel traced i j group).filterMap _

theorem reliable_complete_overtaking :
    ∃ t, Transition.run (step members Link.pairAddress id) (new fun _ => []) overtaking = some t ∧
      t.link.net.arrived = [] ∧
      ∃ got : List (Endpoint × Message),
        got.map Prod.snd = (t.link.stations true).inbox.syncLine ∧
        between (Link.pairAddress false) (Link.pairAddress true) got ++
            between (Link.pairAddress false) (Link.pairAddress true)
              (t.link.net.inFlight.filterMap (Letter.delivery Link.pairAddress)) =
          between (Link.pairAddress false) (Link.pairAddress true)
            (t.link.calls.map (Call.delivery Link.pairAddress)) ∧
        between (Link.pairAddress false) ⟨"239.1.1.1", 30501⟩ got ++
            between (Link.pairAddress false) ⟨"239.1.1.1", 30501⟩
              ((landedAt true t.copies.inFlight).filterMap (Letter.delivery Link.pairAddress)) =
          between (Link.pairAddress false) ⟨"239.1.1.1", 30501⟩
            ((landedAt true t.copies.sent).filterMap (Letter.delivery Link.pairAddress)) := by
  have reached : (Transition.run (step members Link.pairAddress id) (new fun _ => [])
      overtaking).map (fun t => (t.link.net.arrived, (t.link.stations true).closed)) =
        some ([], false) := by
    decide +kernel
  obtain ⟨t, ran, shape⟩ := Option.map_eq_some_iff.mp reached
  obtain ⟨nothing, open_⟩ := Prod.mk.inj shape
  obtain ⟨got, line, -, parts⟩ := reliable_complete members_posts Link.pairAddress_injective
    members_apart members_dependable (fun _ => [])
    (overtaking_obeys (Medium.reliable_first copyChannel) _) ran true open_
  exact ⟨t, ran, nothing, got, line, (parts false).1, ((parts false).2 _ rfl).1⟩

end Results

end Multicast

end OpenSomeIp
