import Mathlib.Data.List.Dedup
import OpenSomeIp.LinkDelivery

set_option autoImplicit false

namespace OpenSomeIp

open Method

variable {ι ω : Type}

/-! ### Stations in multicast groups -/

/-- The group that `start` joins. -/
def AnyTransport.group : AnyTransport ω CppEndpoint CppMessage → Option String
  | .udp transport => transport.multicastGroup
  | .tcp _ => none

section Members

variable (transport : ι → AnyTransport ω CppEndpoint CppMessage) (address : ι → Endpoint)

/-- Where a station hears its group: at the group's address, on the port it is bound to. -/
def groupEndpoint (i : ι) : Option Endpoint :=
  (transport i).group.map fun group => ⟨group, (address i).port⟩

/-- The endpoints at which a station hears. -/
def Listens (i : ι) (target : Endpoint) : Prop :=
  target = address i ∨ groupEndpoint transport address i = some target

/-- What comes to a station by its own address. -/
def Direct (c : ι × Letter ι) : Prop := c.2.target = toCppEndpoint (address c.1)

/-- What comes to a station through its group. -/
def Shared (c : ι × Letter ι) : Prop :=
  (groupEndpoint transport address c.1).map toCppEndpoint = some c.2.target

instance (c : ι × Letter ι) : Decidable (Direct address c) :=
  inferInstanceAs (Decidable (_ = _))

instance (c : ι × Letter ι) : Decidable (Shared transport address c) :=
  inferInstanceAs (Decidable (_ = _))

/-- A copy of the letter for each of these stations that is in the group it is addressed to. -/
def Letter.copies [DecidableEq ι] (reached : List ι) (letter : Letter ι) : List (ι × Letter ι) :=
  (reached.dedup.map fun i => (i, letter)).filter fun c => Shared transport address c

end Members

theorem not_direct_of_shared {transport : ι → AnyTransport ω CppEndpoint CppMessage}
    {address : ι → Endpoint} (apart : ∀ i, groupEndpoint transport address i ≠ some (address i))
    {c : ι × Letter ι} (shared : Shared transport address c) : ¬ Direct address c := by
  intro direct
  obtain ⟨target, joined, same⟩ := Option.map_eq_some_iff.mp shared
  rw [direct] at same
  obtain rfl := toCppEndpoint_injective same
  exact apart c.1 joined

/-- A link whose network also carries what is sent to a multicast group, in a copy for each member
that it reaches, and what has come to the stations in either way, in order. -/
structure Multicast (ι ω : Type) where
  link : Link ι ω
  copies : Medium (ι × Letter ι) := {}
  arrivals : List (ι × Letter ι) := []

/-- An act of the link comes with the stations that what is sent in it reaches through their group.
Which of the members these are is the network's: only those that have joined by then. -/
inductive MulticastAct (ι : Type) where
  | link (act : LinkAct ι) (reached : List ι)
  | hear (place : Nat)
  | lose (place : Nat)
  | again (place : Nat)
  deriving DecidableEq, Repr

/-- What the act does to the copies by itself. -/
def MulticastAct.transit : MulticastAct ι → Option (Medium.Act (ι × Letter ι))
  | .link _ _ => none
  | .hear place => some (.arrive place)
  | .lose place => some (.lose place)
  | .again place => some (.again place)

/-- A copy keeps its turn among those that its sender sent there for the same station. -/
def copyChannel (c : ι × Letter ι) : ι × ι × CppEndpoint := (c.1, c.2.channel)

namespace Multicast

/-- As every transport's `__init__` leaves it. -/
def new (native : ι → ω) : Multicast ι ω where
  link := Link.new native

/-- Both ways through the network keep to their rules. -/
def Obeys (rule : Medium (Letter ι) → Medium.Act (Letter ι) → Prop)
    (copyRule : Medium (ι × Letter ι) → Medium.Act (ι × Letter ι) → Prop) (s : Multicast ι ω)
    (act : MulticastAct ι) : Prop :=
  (∀ inner reached, act = .link inner reached → s.link.Obeys rule inner) ∧
    ∀ a, act.transit = some a → copyRule s.copies a

/-- The arrival of a copy is a step of what carries the copies. -/
theorem copies_of_found {s : Multicast ι ω} {place : Nat} {c : ι × Letter ι}
    (found : s.copies.inFlight[place]? = some c) :
    s.copies.step (.arrive place) = some (s.copies.arrive place c) := by
  rw [Medium.step, found]
  rfl

variable [DecidableEq ι] (transport : ι → AnyTransport ω CppEndpoint CppMessage)
  (address : ι → Endpoint) (outbox : ω → List Parcel)

/-- After an act of the link; what it sent to a group goes on its way to the members. -/
def linked (act : LinkAct ι) (reached : List ι) (s : Multicast ι ω) (link : Link ι ω) :
    Multicast ι ω where
  link := link
  copies := s.copies.postAll
    ((link.net.sent.drop s.link.net.sent.length).flatMap (Letter.copies transport address reached))
  arrivals := s.arrivals ++ Link.landed s.link.net act

/-- After a copy has come to its station. -/
def heard (place : Nat) (i : ι) (letter : Letter ι) (s : Multicast ι ω) : Multicast ι ω where
  link := s.link.tend i
    ((s.link.stations i).deliver letter.message (toCppEndpoint (address letter.sender)))
  copies := s.copies.arrive place (i, letter)
  arrivals := s.arrivals ++ [(i, letter)]

def step (s : Multicast ι ω) : MulticastAct ι → Option (Multicast ι ω)
  | .link act reached =>
      (s.link.step transport address outbox act).map (s.linked transport address act reached)
  | .hear place => s.copies.inFlight[place]?.map fun c => s.heard address place c.1 c.2
  | .lose place => (s.copies.step (.lose place)).map fun copies => { s with copies := copies }
  | .again place => (s.copies.step (.again place)).map fun copies => { s with copies := copies }

/-- What a step is: one of the link, the arrival of a copy, or a fault among the copies. -/
inductive Moves (s : Multicast ι ω) : MulticastAct ι → Multicast ι ω → Prop
  | link (act : LinkAct ι) (reached : List ι) (link : Link ι ω)
      (stepped : s.link.step transport address outbox act = some link) :
      Moves s (.link act reached) (s.linked transport address act reached link)
  | hear (place : Nat) (i : ι) (letter : Letter ι)
      (found : s.copies.inFlight[place]? = some (i, letter)) :
      Moves s (.hear place) (s.heard address place i letter)
  | fault (act : MulticastAct ι) (a : Medium.Act (ι × Letter ι)) (moves : act.transit = some a)
      (faulty : a.loses = true ∨ a.repeats = true) (copies : Medium (ι × Letter ι))
      (stepped : s.copies.step a = some copies) : Moves s act { s with copies := copies }

variable {transport address outbox} {s t : Multicast ι ω} {act : MulticastAct ι}

theorem moves_of_step (stepped : s.step transport address outbox act = some t) :
    Moves transport address outbox s act t := by
  cases act with
  | link act reached =>
      obtain ⟨link, moved, rfl⟩ := Option.map_eq_some_iff.mp stepped
      exact .link act reached link moved
  | hear place =>
      obtain ⟨⟨i, letter⟩, found, rfl⟩ := Option.map_eq_some_iff.mp stepped
      exact .hear place i letter found
  | lose place =>
      obtain ⟨copies, lost, rfl⟩ := Option.map_eq_some_iff.mp stepped
      exact .fault _ (.lose place) rfl (.inl rfl) copies lost
  | again place =>
      obtain ⟨copies, copied, rfl⟩ := Option.map_eq_some_iff.mp stepped
      exact .fault _ (.again place) rfl (.inr rfl) copies copied

/-- To the network of the link a step is one of the link, or nothing. -/
theorem link_step (stepped : s.step transport address outbox act = some t) :
    t.link.net = s.link.net ∧ t.link.calls = s.link.calls ∨
      ∃ inner reached, act = .link inner reached ∧
        s.link.step transport address outbox inner = some t.link := by
  cases moves_of_step stepped with
  | link act reached link moved => exact .inr ⟨act, reached, rfl, moved⟩
  | hear place i letter found => exact .inl ⟨rfl, rfl⟩
  | fault act a moves faulty copies moved => exact .inl ⟨rfl, rfl⟩

/-! ### What comes to a station -/

theorem landedAt_map_of_not_mem {i : ι} {members : List ι} (absent : i ∉ members)
    (letter : Letter ι) : landedAt i (members.map fun j => (j, letter)) = [] := by
  rw [landedAt, List.filterMap_eq_nil_iff]
  intro c inside
  obtain ⟨j, there, rfl⟩ := List.mem_map.mp inside
  apply if_neg
  rintro rfl
  exact absent there

theorem landedAt_map_of_nodup (i : ι) {members : List ι} (once : members.Nodup)
    (letter : Letter ι) : (landedAt i (members.map fun j => (j, letter))).Sublist [letter] := by
  induction members with
  | nil => exact List.nil_sublist _
  | cons j members ih =>
      obtain ⟨absent, rest⟩ := List.nodup_cons.mp once
      have parted := landedAt_append i [(j, letter)] (members.map fun k => (k, letter))
      rw [List.map_cons, ← List.singleton_append, parted]
      by_cases here : j = i
      · subst here
        rw [landedAt_map_of_not_mem absent, landedAt_self, List.append_nil]
      · rw [landedAt_of_ne here, List.nil_append]
        exact ih rest

/-- There is at most one copy for a station. -/
theorem landedAt_copies (i : ι) (reached : List ι) (letter : Letter ι) :
    (landedAt i (letter.copies transport address reached)).Sublist [letter] :=
  (List.filter_sublist.filterMap _).trans
    (landedAt_map_of_nodup i (List.nodup_dedup reached) letter)

theorem landedAt_flatMap (i : ι) (reached : List ι) (letters : List (Letter ι)) :
    (landedAt i (letters.flatMap (Letter.copies transport address reached))).Sublist letters := by
  induction letters with
  | nil => exact List.nil_sublist _
  | cons letter letters ih =>
      rw [List.flatMap_cons, landedAt_append, ← List.singleton_append]
      exact (landedAt_copies i reached letter).append ih

/-- A station takes in what comes to it in either way. -/
def Attended (address : ι → Endpoint) (s : Multicast ι ω) : Prop :=
  ∀ i, (s.link.stations i).Attends ((landedAt i s.arrivals).filterMap (Letter.listened address))

theorem attended_step (posts : ∀ i, (transport i).Posts outbox) (attended : s.Attended address)
    (stepped : s.step transport address outbox act = some t) : t.Attended address := by
  intro i
  cases moves_of_step stepped with
  | link act reached link moved =>
      rw [linked, landedAt_append, List.filterMap_append]
      exact Link.attends_step posts attended moved i
  | hear place j letter found =>
      rw [heard, landedAt_append, List.filterMap_append]
      exact Link.attends_deliver attended j letter i
  | fault act a moves faulty copies moved => exact attended i

theorem attended_new (address : ι → Endpoint) (native : ι → ω) : (new native).Attended address :=
  fun _ => Station.attends_of_eq rfl

theorem attended_run (posts : ∀ i, (transport i).Posts outbox) {acts : List (MulticastAct ι)}
    (attended : s.Attended address)
    (ran : Transition.run (step transport address outbox) s acts = some t) :
    t.Attended address := by
  have preserved (s : Multicast ι ω) (act : MulticastAct ι) (t : Multicast ι ω)
      (attended : s.Attended address)
      (stepped : s.step transport address outbox act = some t) : t.Attended address :=
    attended_step posts attended stepped
  exact Transition.invariant_run preserved attended ran

/-- Every letter stems from a call, every copy from a letter to its group, and what has come to the
stations has come in one of the two ways. -/
structure Traced (transport : ι → AnyTransport ω CppEndpoint CppMessage) (address : ι → Endpoint)
    (s : Multicast ι ω) : Prop where
  sourced : s.link.Sourced
  genuine : s.copies.Genuine
  aimed : ∀ c ∈ s.copies.sent, Shared transport address c
  copied : ∀ i, (landedAt i s.copies.sent).Sublist s.link.net.sent
  own : (s.arrivals.filter fun c => Direct address c).map Prod.snd = s.link.net.arrived
  shared : (s.arrivals.filter fun c => ¬ Direct address c) = s.copies.arrived

theorem traced_linked (posts : ∀ i, (transport i).Posts outbox)
    (traced : s.Traced transport address) {inner : LinkAct ι} {link : Link ι ω}
    (stepped : s.link.step transport address outbox inner = some link) (reached : List ι) :
    (s.linked transport address inner reached link).Traced transport address := by
  obtain ⟨arrived, aimed⟩ := Link.arrived_step posts stepped
  obtain ⟨posted, sent⟩ := Link.sent_step posts stepped
  have new_ : link.net.sent.drop s.link.net.sent.length = posted := by
    rw [sent, List.drop_left]
  have direct : (Link.landed s.link.net inner).filter (fun c => Direct address c) =
      Link.landed s.link.net inner := List.filter_eq_self.mpr fun c member =>
    decide_eq_true (aimed c member)
  have shared : (Link.landed s.link.net inner).filter (fun c => ¬ Direct address c) = [] :=
    List.filter_eq_nil_iff.mpr fun c member => by
      rw [decide_eq_true_eq, not_not]
      exact aimed c member
  refine ⟨Link.sourced_step posts traced.sourced stepped, ?_, ?_, fun i => ?_, ?_, ?_⟩
  · exact Medium.genuine_postAll traced.genuine _
  · intro c member
    rw [linked, Medium.postAll_sent, List.mem_append] at member
    rcases member with old | fresh
    · exact traced.aimed c old
    · obtain ⟨letter, _, inside⟩ := List.mem_flatMap.mp fresh
      exact of_decide_eq_true (List.mem_filter.mp inside).2
  · rw [linked, Medium.postAll_sent, landedAt_append, new_]
    change List.Sublist _ link.net.sent
    rw [sent]
    exact (traced.copied i).append (landedAt_flatMap i reached posted)
  · rw [linked, List.filter_append, List.map_append, traced.own, direct, ← arrived]
  · rw [linked, List.filter_append, traced.shared, shared, List.append_nil, Medium.postAll_arrived]

theorem traced_heard (apart : ∀ i, groupEndpoint transport address i ≠ some (address i))
    (traced : s.Traced transport address) {place : Nat} {i : ι} {letter : Letter ι}
    (found : s.copies.inFlight[place]? = some (i, letter)) :
    (s.heard address place i letter).Traced transport address := by
  have sent : (i, letter) ∈ s.copies.sent :=
    traced.genuine _ (List.mem_append_right _ (List.mem_of_getElem? found))
  have shared := not_direct_of_shared apart (traced.aimed _ sent)
  refine ⟨⟨traced.sourced.genuine, traced.sourced.sent⟩, ?_, traced.aimed, traced.copied, ?_, ?_⟩
  · exact Medium.genuine_step traced.genuine (copies_of_found found)
  · rw [heard, List.filter_append, List.filter_singleton, decide_eq_false shared]
    exact (congrArg _ (List.append_nil _)).trans traced.own
  · rw [heard, List.filter_append, traced.shared, List.filter_singleton, decide_eq_true shared]
    rfl

theorem traced_step (posts : ∀ i, (transport i).Posts outbox)
    (apart : ∀ i, groupEndpoint transport address i ≠ some (address i))
    (traced : s.Traced transport address)
    (stepped : s.step transport address outbox act = some t) : t.Traced transport address := by
  cases moves_of_step stepped with
  | link act reached link moved => exact traced_linked posts traced moved reached
  | hear place i letter found => exact traced_heard apart traced found
  | fault act a moves faulty copies moved =>
      obtain ⟨sent, arrived⟩ := Medium.frame_of_faulty faulty moved
      refine ⟨traced.sourced, Medium.genuine_step traced.genuine moved, ?_, ?_, traced.own, ?_⟩
      · exact sent.symm ▸ traced.aimed
      · exact sent.symm ▸ traced.copied
      · exact arrived.symm ▸ traced.shared

theorem traced_new (transport : ι → AnyTransport ω CppEndpoint CppMessage) (address : ι → Endpoint)
    (native : ι → ω) : (new native).Traced transport address where
  sourced := Link.sourced_new native
  genuine := fun _ member => absurd member List.not_mem_nil
  aimed := fun _ member => absurd member List.not_mem_nil
  copied := fun _ => List.Sublist.refl []
  own := rfl
  shared := rfl

theorem traced_run (posts : ∀ i, (transport i).Posts outbox)
    (apart : ∀ i, groupEndpoint transport address i ≠ some (address i))
    {acts : List (MulticastAct ι)} (traced : s.Traced transport address)
    (ran : Transition.run (step transport address outbox) s acts = some t) :
    t.Traced transport address := by
  have preserved (s : Multicast ι ω) (act : MulticastAct ι) (t : Multicast ι ω)
      (traced : s.Traced transport address)
      (stepped : s.step transport address outbox act = some t) : t.Traced transport address :=
    traced_step posts apart traced stepped
  exact Transition.invariant_run preserved traced ran

/-! ### What the two ways through the network keep -/

section Media

variable {rule : Medium (Letter ι) → Medium.Act (Letter ι) → Prop}
  {copyRule : Medium (ι × Letter ι) → Medium.Act (ι × Letter ι) → Prop}
  {holds : Medium (Letter ι) → Prop} {copiesHold : Medium (ι × Letter ι) → Prop}

theorem media_step (lasting : Medium.Lasting rule holds)
    (copiesLasting : Medium.Lasting copyRule copiesHold) (posts : ∀ i, (transport i).Posts outbox)
    (before : holds s.link.net ∧ copiesHold s.copies) (obeys : s.Obeys rule copyRule act)
    (stepped : s.step transport address outbox act = some t) :
    holds t.link.net ∧ copiesHold t.copies := by
  obtain ⟨net, copies⟩ := before
  cases moves_of_step stepped with
  | link act reached link moved =>
      refine ⟨Link.net_step lasting posts net (obeys.1 act reached rfl) moved, ?_⟩
      exact Medium.postAll_keeps copiesLasting.post _ copies
  | hear place i letter found =>
      exact ⟨net, copiesLasting.step _ _ _ copies (obeys.2 _ rfl) (copies_of_found found)⟩
  | fault act a moves faulty after moved =>
      exact ⟨net, copiesLasting.step _ _ _ copies (obeys.2 a moves) moved⟩

theorem media_run (lasting : Medium.Lasting rule holds)
    (copiesLasting : Medium.Lasting copyRule copiesHold) (posts : ∀ i, (transport i).Posts outbox)
    {acts : List (MulticastAct ι)} (before : holds s.link.net ∧ copiesHold s.copies)
    (along : Transition.Along (step transport address outbox) (Obeys rule copyRule) s acts)
    (ran : Transition.run (step transport address outbox) s acts = some t) :
    holds t.link.net ∧ copiesHold t.copies := by
  have preserved (s : Multicast ι ω) (act : MulticastAct ι) (t : Multicast ι ω)
      (before : holds s.link.net ∧ copiesHold s.copies) (obeys : s.Obeys rule copyRule act)
      (stepped : s.step transport address outbox act = some t) :
      holds t.link.net ∧ copiesHold t.copies :=
    media_step lasting copiesLasting posts before obeys stepped
  exact Transition.invariant_along preserved along before ran

theorem written_run (posts : ∀ i, (transport i).Posts outbox)
    (dependable : Link.Dependable transport outbox) {acts : List (MulticastAct ι)}
    (written : s.link.Written)
    (ran : Transition.run (step transport address outbox) s acts = some t) : t.link.Written := by
  have preserved (s : Multicast ι ω) (act : MulticastAct ι) (t : Multicast ι ω)
      (written : s.link.Written) (stepped : s.step transport address outbox act = some t) :
      t.link.Written := by
    rcases link_step stepped with ⟨net, calls⟩ | ⟨inner, reached, -, moved⟩
    · rw [Link.Written, net, calls]
      exact written
    · exact Link.written_step posts dependable written moved
  exact Transition.invariant_run preserved written ran

end Media

end Multicast

end OpenSomeIp
