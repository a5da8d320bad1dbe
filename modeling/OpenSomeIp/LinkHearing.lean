import OpenSomeIp.MulticastDelivery

set_option autoImplicit false

namespace OpenSomeIp

variable {ι ω : Type}

/-- The transport runs, and `stop` returns. -/
def AnyTransport.Ends (transport : AnyTransport ω CppEndpoint CppMessage) (w : TransportWorld ω) :
    Prop :=
  w.running = true ∧ (transport.stop w).1 = .ok ()

section Stop

theorem Transport.stop_ends (transport : Transport ω CppEndpoint CppMessage)
    (w : TransportWorld ω) :
    ((w.running = true ∧ (transport.stop w).1 = .ok ()) ∧
        (transport.stop w).2.receiver = w.receiver.close) ∨
      (¬ (w.running = true ∧ (transport.stop w).1 = .ok ()) ∧
        (transport.stop w).2.receiver = w.receiver) := by
  cases running : w.running with
  | false =>
      right
      rw [Transport.stop_of_stopped running]
      exact ⟨fun ends => Bool.false_ne_true ends.1, rfl⟩
  | true =>
      by_cases clean : transport.StopsClean w.native
      · left
        obtain ⟨native, ran⟩ := Transport.stop_of_clean running clean
        rw [ran]
        exact ⟨⟨rfl, rfl⟩, rfl⟩
      · right
        obtain ⟨native, exc, ran⟩ := Transport.stop_of_raised running clean
        rw [ran]
        refine ⟨?_, rfl⟩
        rintro ⟨-, returned⟩
        cases returned

/-- A `stop` closes the receiver when it ends the transport, and leaves it alone otherwise. -/
theorem AnyTransport.stop_ends (transport : AnyTransport ω CppEndpoint CppMessage)
    (w : TransportWorld ω) :
    (transport.Ends w ∧ (transport.stop w).2.receiver = w.receiver.close) ∨
      (¬ transport.Ends w ∧ (transport.stop w).2.receiver = w.receiver) := by
  cases transport with
  | udp transport => exact Transport.stop_ends transport.super w
  | tcp transport =>
      cases disconnected : (transport.disconnectNative w.connected w.native).1 with
      | ok value =>
          have ran : (AnyTransport.tcp transport).stop w = _ :=
            TcpTransport.stop_of_disconnected disconnected
          have ends := Transport.stop_ends transport.super { w with
            native := (transport.disconnectNative w.connected w.native).2, connected := false }
          rw [Ends, ran]
          exact ends
      | error exc =>
          right
          have ran : (AnyTransport.tcp transport).stop w = _ :=
            TcpTransport.stop_of_broken disconnected
          rw [Ends, ran]
          refine ⟨?_, rfl⟩
          rintro ⟨-, returned⟩
          cases returned

end Stop

namespace Station

variable {s : Station ω} {w : TransportWorld ω}

theorem after_of_same (tends : s.Tends w) (same : w.receiver = s.world.receiver) :
    (s.after w tends).inbox = s.inbox := by
  change s.inboxAfter w = s.inbox
  rw [inboxAfter, same]
  simp only [world, UnboundedReceiver.items, ReceiverSystem.syncItems, List.drop_length,
    List.append_nil]

theorem after_of_closes (tends : s.Tends w) (closes : w.receiver = s.world.receiver.close) :
    (s.after w tends).closed = true := by
  change w.receiver.closed = true
  rw [closes]
  exact UnboundedReceiver.close_closed _

theorem deliver_closed (message : CppMessage) (sender : CppEndpoint) :
    (s.deliver message sender).closed = s.closed := by
  cases open_ : s.closed with
  | true => exact (congrArg ReceiverSystem.closed (Bridge.deliver_of_closed open_)).trans open_
  | false =>
      cases listened : Bridge.listened message sender with
      | error exc =>
          exact (congrArg ReceiverSystem.closed (Bridge.deliver_of_unheard listened)).trans open_
      | ok pyMsg =>
          have inbox : (s.deliver message sender).inbox = s.inbox.offer false (.message pyMsg) :=
            Bridge.deliver_of_open s.sound open_ listened
          rw [closed, inbox]
          exact (ReceiverWorld.deliver_frame _ _ _).2.1

/-- What the receiver has taken in, and whether it is open. -/
def intake (s : Station ω) : List Message × Bool := (messagesOf s.inbox.accepted, s.closed)

theorem intake_consume {t : Station ω} {act : ReceiverAct Message}
    (consumed : s.consume act = some t) : t.intake = s.intake := by
  rw [Station.consume] at consumed
  split at consumed
  · rename_i consumer
    obtain ⟨inbox, sound, stepped, rfl⟩ := Option.pmap_eq_some_iff.mp consumed
    have frame := ReceiverSystem.consumer_frame consumer stepped
    exact Prod.ext (congrArg messagesOf frame.2) frame.1
  · cases consumed

/-- No method of the transport puts a message into its receiver. -/
theorem messages_after (tends : s.Tends w) :
    messagesOf (s.after w tends).inbox.accepted = messagesOf s.inbox.accepted := by
  change messagesOf (s.inboxAfter w).accepted = _
  rcases inboxAfter_cases tends with same | offered
  · rw [same]
  · rw [offered, ReceiverSystem.offer, messagesOf_append]
    exact List.append_nil _

theorem intake_after_of_closed (tends : s.Tends w) (closed : s.closed = true) :
    (s.after w tends).intake = s.intake := by
  refine Prod.ext (messages_after tends) ?_
  rcases tends with same | closes
  · exact congrArg ReceiverSystem.closed (after_of_same (.inl same) same)
  · exact (after_of_closes (.inr closes) closes).trans closed.symm

theorem intake_deliver_of_closed (message : CppMessage) (sender : CppEndpoint)
    (closed : s.closed = true) : (s.deliver message sender).intake = s.intake := by
  have inbox : (s.deliver message sender).inbox = s.inbox := Bridge.deliver_of_closed closed
  exact Prod.ext (congrArg (fun r : ReceiverSystem Message => messagesOf r.accepted) inbox)
    (congrArg ReceiverSystem.closed inbox)

end Station

namespace Link

/-- The act is a `stop` of station `i` that returns while the transport runs. -/
def EndsAt (transport : ι → AnyTransport ω CppEndpoint CppMessage) (i : ι) (s : Link ι ω)
    (act : LinkAct ι) : Prop :=
  act = .stop i ∧ (transport i).Ends (s.stations i).world

section Steps

variable {transport : ι → AnyTransport ω CppEndpoint CppMessage} {address : ι → Endpoint}
  {outbox : ω → List Parcel} {s t : Link ι ω} {act : LinkAct ι} [DecidableEq ι]

theorem tend_closed {i j : ι} {station : Station ω} (same : i = j → station.closed =
    (s.stations i).closed) : ((s.tend j station).stations i).closed = (s.stations i).closed := by
  by_cases own : i = j
  · subst own
    rw [tend_self]
    exact same rfl
  · rw [tend_of_ne own]

theorem tend_intake {i j : ι} {station : Station ω}
    (same : i = j → station.intake = (s.stations i).intake) :
    ((s.tend j station).stations i).intake = (s.stations i).intake := by
  by_cases own : i = j
  · subst own
    rw [tend_self]
    exact same rfl
  · rw [tend_of_ne own]

/-- Only such a `stop` closes a receiver. -/
theorem closed_step (stepped : s.step transport address outbox act = some t) (i : ι) :
    (t.stations i).closed = true ↔ (s.stations i).closed = true ∨ EndsAt transport i s act := by
  have aside (other : act ≠ .stop i)
      (same : (t.stations i).closed = (s.stations i).closed) :
      (t.stations i).closed = true ↔ (s.stations i).closed = true ∨ EndsAt transport i s act := by
    rw [same]
    exact (or_iff_left fun ends => other ends.1).symm
  cases act with
  | start j =>
      obtain rfl := Option.some.inj stepped
      apply aside (by rintro ⟨⟩)
      apply tend_closed
      rintro rfl
      exact congrArg ReceiverSystem.closed (Station.after_of_same _ AnyTransport.start_frame.1)
  | send j message endpoint =>
      obtain rfl := Option.some.inj stepped
      apply aside (by rintro ⟨⟩)
      apply tend_closed
      rintro rfl
      exact congrArg ReceiverSystem.closed
        (Station.after_of_same _ (Transport.send_receiver message endpoint _))
  | arrive j place =>
      apply aside (by rintro ⟨⟩)
      simp only [step] at stepped
      split at stepped
      · cases stepped
      · split at stepped
        · obtain rfl := Option.some.inj stepped
          apply tend_closed
          rintro rfl
          exact Station.deliver_closed _ _
        · cases stepped
  | lose place =>
      obtain ⟨net, lost, rfl⟩ := Option.map_eq_some_iff.mp stepped
      exact aside (by rintro ⟨⟩) rfl
  | again place =>
      obtain ⟨net, copied, rfl⟩ := Option.map_eq_some_iff.mp stepped
      exact aside (by rintro ⟨⟩) rfl
  | consume j act =>
      obtain ⟨station, consumed, rfl⟩ := Option.map_eq_some_iff.mp stepped
      apply aside (by rintro ⟨⟩)
      apply tend_closed
      rintro rfl
      exact congrArg Prod.snd (Station.intake_consume consumed)
  | stop j =>
      obtain rfl := Option.some.inj stepped
      by_cases own : i = j
      · subst own
        change ((s.tend i _).stations i).closed = true ↔ _
        rw [tend_self]
        rcases AnyTransport.stop_ends (transport i) (s.stations i).world with
          ⟨ends, closes⟩ | ⟨goesOn, same⟩
        · exact iff_of_true (Station.after_of_closes _ closes) (.inr ⟨rfl, ends⟩)
        · have inbox := Station.after_of_same (Station.tends_stop (transport i) (s.stations i)) same
          rw [show (Station.after _ _ _).closed = (s.stations i).closed from
            congrArg ReceiverSystem.closed inbox]
          exact (or_iff_left fun ends => goesOn ends.2).symm
      · apply aside
        · rintro ⟨⟩
          exact own rfl
        · exact tend_closed fun same => absurd same own

/-- Once closed, a receiver takes in nothing. -/
theorem intake_step (posts : ∀ i, (transport i).Posts outbox) {i : ι}
    (closed : (s.stations i).closed = true)
    (stepped : s.step transport address outbox act = some t) :
    (t.stations i).intake = (s.stations i).intake := by
  cases moves_of_step posts stepped with
  | tended act still j w cared =>
      apply tend_intake
      rintro rfl
      exact Station.intake_after_of_closed cared closed
  | sent j message endpoint target w cared net posted =>
      apply tend_intake
      rintro rfl
      exact Station.intake_after_of_closed cared closed
  | arrive j place letter found aimed =>
      apply tend_intake
      rintro rfl
      exact Station.intake_deliver_of_closed _ _ closed
  | transit act a moves faulty net moved => rfl
  | consume j act station consumed =>
      apply tend_intake
      rintro rfl
      exact Station.intake_consume consumed

end Steps

end Link

namespace Multicast

/-- The act is a `stop` of station `i` that returns while the transport runs. -/
def EndsAt (transport : ι → AnyTransport ω CppEndpoint CppMessage) (i : ι) (s : Multicast ι ω)
    (act : MulticastAct ι) : Prop :=
  ∃ inner reached, act = .link inner reached ∧ Link.EndsAt transport i s.link inner

section Runs

variable {transport : ι → AnyTransport ω CppEndpoint CppMessage} {address : ι → Endpoint}
  {outbox : ω → List Parcel} {s t : Multicast ι ω} {act : MulticastAct ι}
  {acts : List (MulticastAct ι)} [DecidableEq ι]

theorem closed_step (stepped : s.step transport address outbox act = some t) (i : ι) :
    (t.link.stations i).closed = true ↔
      (s.link.stations i).closed = true ∨ EndsAt transport i s act := by
  have aside (other : ∀ inner reached, act ≠ .link inner reached)
      (same : (t.link.stations i).closed = (s.link.stations i).closed) :
      (t.link.stations i).closed = true ↔
        (s.link.stations i).closed = true ∨ EndsAt transport i s act := by
    rw [same]
    refine (or_iff_left ?_).symm
    rintro ⟨inner, reached, here, -⟩
    exact other inner reached here
  cases moves_of_step stepped with
  | link inner reached link moved =>
      refine (Link.closed_step moved i).trans (or_congr_right ?_)
      constructor
      · exact fun ends => ⟨inner, reached, rfl, ends⟩
      · rintro ⟨_, _, same, ends⟩
        cases same
        exact ends
  | hear place j letter found =>
      refine aside (fun _ _ same => by cases same) ?_
      rw [heard]
      apply Link.tend_closed
      rintro rfl
      exact Station.deliver_closed _ _
  | fault act a moves faulty copies moved =>
      refine aside ?_ rfl
      rintro inner reached rfl
      cases moves

theorem intake_step (posts : ∀ i, (transport i).Posts outbox) {i : ι}
    (closed : (s.link.stations i).closed = true)
    (stepped : s.step transport address outbox act = some t) :
    (t.link.stations i).intake = (s.link.stations i).intake := by
  cases moves_of_step stepped with
  | link inner reached link moved => exact Link.intake_step posts closed moved
  | hear place j letter found =>
      rw [heard]
      apply Link.tend_intake
      rintro rfl
      exact Station.intake_deliver_of_closed _ _ closed
  | fault act a moves faulty copies moved => rfl

/-- A receiver takes in exactly what comes to its station, at its address or through its group, as
far as it can be converted, up to the first `stop` of its transport that returns while the
transport runs, and nothing after it, also when the transport is started again. -/
theorem hears_until_stop (posts : ∀ i, (transport i).Posts outbox) (native : ι → ω)
    (ran : Transition.run (step transport address outbox) (new native) acts = some t) (i : ι) :
    (Transition.Along (step transport address outbox) (fun s act => ¬ EndsAt transport i s act)
        (new native) acts →
      (t.link.stations i).intake =
        ((landedAt i t.arrivals).filterMap (Letter.listened address), false)) ∧
    ∀ front reached back s, acts = front ++ .link (.stop i) reached :: back →
      Transition.run (step transport address outbox) (new native) front = some s →
      Transition.Along (step transport address outbox) (fun s act => ¬ EndsAt transport i s act)
        (new native) front →
      (transport i).Ends (s.link.stations i).world →
        (t.link.stations i).intake =
          ((landedAt i s.arrivals).filterMap (Letter.listened address), true) := by
  have open_ {front : List (MulticastAct ι)} {s : Multicast ι ω}
      (along : Transition.Along (step transport address outbox)
        (fun s act => ¬ EndsAt transport i s act) (new native) front)
      (ran : Transition.run (step transport address outbox) (new native) front = some s) :
      (s.link.stations i).closed = false := by
    have kept (u : Multicast ι ω) (act : MulticastAct ι) (v : Multicast ι ω)
        (before : (u.link.stations i).closed = false) (goesOn : ¬ EndsAt transport i u act)
        (stepped : u.step transport address outbox act = some v) :
        (v.link.stations i).closed = false := by
      apply Bool.eq_false_iff.mpr
      intro shut
      rcases (closed_step stepped i).mp shut with closed | ends
      · cases before.symm.trans closed
      · exact goesOn ends
    exact Transition.invariant_along kept along rfl ran
  have heard {front : List (MulticastAct ι)} {s : Multicast ι ω}
      (along : Transition.Along (step transport address outbox)
        (fun s act => ¬ EndsAt transport i s act) (new native) front)
      (ran : Transition.run (step transport address outbox) (new native) front = some s) :
      messagesOf (s.link.stations i).inbox.accepted =
        (landedAt i s.arrivals).filterMap (Letter.listened address) :=
    (attended_run posts (attended_new address native) ran i).all (open_ along ran)
  constructor
  · intro along
    exact Prod.ext (heard along ran) (open_ along ran)
  · rintro front reached back s rfl before along ends
    rw [Transition.run_append, before, Option.bind_some] at ran
    obtain ⟨u, stepped, rest⟩ := Transition.run_cons_eq_some ran
    have shut : (u.link.stations i).closed = true :=
      (closed_step stepped i).mpr (.inr ⟨_, reached, rfl, rfl, ends⟩)
    have first : (u.link.stations i).intake =
        (messagesOf (s.link.stations i).inbox.accepted, true) := by
      refine Prod.ext ?_ shut
      cases moves_of_step stepped with
      | link act reached link stopped =>
          obtain rfl := Option.some.inj stopped
          change messagesOf ((s.link.tend i _).stations i).inbox.accepted = _
          rw [Link.tend_self]
          exact Station.messages_after _
      | fault act a moves faulty copies moved => cases moves
    have kept (v : Multicast ι ω) (act : MulticastAct ι) (w : Multicast ι ω)
        (before : (v.link.stations i).intake =
          (messagesOf (s.link.stations i).inbox.accepted, true))
        (step_ : v.step transport address outbox act = some w) :
        (w.link.stations i).intake = (messagesOf (s.link.stations i).inbox.accepted, true) :=
      (intake_step posts (congrArg Prod.snd before) step_).trans before
    rw [← heard along before]
    exact Transition.invariant_run kept first rest

/-- The station has received a message through its group when it is stopped; it is started again
for another. -/
def beforeStop : List (MulticastAct Bool) :=
  [.link (.start false) [], .link (.start true) [],
    .link (.send false { messageId := ⟨0x1234, 1⟩ } (some ⟨"239.1.1.1", 30501⟩)) [true], .hear 0]

def afterStop : List (MulticastAct Bool) :=
  [.link (.start true) [],
    .link (.send false { messageId := ⟨0x1234, 2⟩ } (some ⟨"239.1.1.1", 30501⟩)) [true], .hear 0]

theorem hears_until_stop_restart :
    ∃ s t : Multicast Bool (List Parcel),
      Transition.run (step members Link.pairAddress id) (new fun _ => [])
        (beforeStop ++ .link (.stop true) [] :: afterStop) = some t ∧
      (t.link.stations true).running = true ∧ t.arrivals.length = 2 ∧ s.arrivals.length = 1 ∧
      (t.link.stations true).intake =
        ((landedAt true s.arrivals).filterMap (Letter.listened Link.pairAddress), true) := by
  have before : (Transition.run (step members Link.pairAddress id) (new fun _ => [])
      beforeStop).map (fun s => (s.arrivals.length, (s.link.stations true).running,
        ((members true).stop (s.link.stations true).world).1.toBool)) = some (1, true, true) := by
    decide +kernel
  have whole : (Transition.run (step members Link.pairAddress id) (new fun _ => [])
      (beforeStop ++ .link (.stop true) [] :: afterStop)).map
        (fun t => ((t.link.stations true).running, t.arrivals.length)) = some (true, 2) := by
    decide +kernel
  obtain ⟨s, reached, shape⟩ := Option.map_eq_some_iff.mp before
  obtain ⟨t, ran, last⟩ := Option.map_eq_some_iff.mp whole
  obtain ⟨one, rest⟩ := Prod.mk.inj shape
  obtain ⟨running, returned⟩ := Prod.mk.inj rest
  obtain ⟨again, two⟩ := Prod.mk.inj last
  have ends : (members true).Ends (s.link.stations true).world := by
    refine ⟨running, ?_⟩
    cases result : ((members true).stop (s.link.stations true).world).1 with
    | ok value => rfl
    | error exc =>
        rw [result] at returned
        cases returned
  have spared : Transition.Along (step members Link.pairAddress id)
      (fun s act => ¬ EndsAt members true s act) (new fun _ => []) beforeStop := by
    apply Transition.along_of_forall
    rintro act member u ⟨inner, there, rfl, rfl, -⟩
    simp only [beforeStop, List.mem_cons, List.not_mem_nil, or_false] at member
    rcases member with same | same | same | same <;> cases same
  refine ⟨s, t, ran, again, two, one, ?_⟩
  exact (hears_until_stop members_posts (fun _ => []) ran true).2 beforeStop [] afterStop s rfl
    reached spared ends

end Runs

end Multicast

end OpenSomeIp
