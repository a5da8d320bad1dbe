import OpenSomeIp.TpScript

set_option autoImplicit false

namespace OpenSomeIp

namespace TpManager

variable {ω κ : Type} {native : NativeTp ω κ} {message : Message} {mtu : Nat} {s : ω}
variable {outcomes : Nat → Option Exn}

/-- The native layer yields segments whose payloads are successive slices of the message, and
no call of it raises. -/
structure Yields (native : NativeTp ω κ) (mtu : Nat) (message : Message) (s : ω) : Prop where
  calm : ¬ (native.attemptFor mtu message s).Raises
  slices : (native.attemptFor mtu message s).segments.flatten <+: message.payload

/-- The transport accepts native segments that are not all empty, then raises an `Exception`
for the next one and accepts the call after that. -/
def BreaksOff (native : NativeTp ω κ) (mtu : Nat) (message : Message) (s : ω)
    (outcomes : Nat → Option Exn) : Prop :=
  ∃ count exc, count < (nativePayloads native mtu message s).length ∧
    (∀ i, i < count → outcomes i = none) ∧
    outcomes count = some exc ∧ exc.isException = true ∧ outcomes (count + 1) = none ∧
    ∃ payload ∈ (nativePayloads native mtu message s).take count, payload ≠ []

/-- Behind the first byte of a native segment, the pure-Python path starts with that byte
again. -/
theorem exists_first_piece {count : Nat} (fuel : Nat) (yields : Yields native mtu message s)
    (bound : count < (nativePayloads native mtu message s).length)
    (filled : ∃ payload ∈ (nativePayloads native mtu message s).take count, payload ≠ []) :
    ∃ piece pieces, pythonPayloads mtu message fuel = piece :: pieces ∧ piece ≠ [] := by
  obtain ⟨payload, member, nonempty⟩ := filled
  have inside : payload ∈ nativePayloads native mtu message s := List.mem_of_mem_take member
  have whole : message.payload ≠ [] := by
    intro empty
    have short := nativePayloads_within yields.slices
    rw [empty, List.drop_nil] at short
    have flat := List.flatten_eq_nil_iff.mp (List.prefix_nil.mp short)
    exact nonempty (flat payload inside)
  have positive : ¬ mtu = 0 := by
    intro zero
    unfold nativePayloads at bound member
    simp only [zero, ↓reduceIte] at bound member
    split at bound
    · rename_i ended
      rw [List.length_singleton] at bound
      obtain rfl : count = 0 := by omega
      rw [List.take_zero] at member
      cases member
    · rw [List.length_nil] at bound
      omega
  unfold pythonPayloads
  split
  · exact ⟨message.payload, [], rfl, whole⟩
  · rw [Chunks.chunks_of_ne_nil (Nat.pos_of_ne_zero positive) whole]
    refine ⟨_, _, rfl, ?_⟩
    apply List.ne_nil_of_length_pos
    have some_left := List.length_pos_of_ne_nil whole
    rw [List.length_take]
    omega

/-- Where no call of the native layer raises, only an `mtu` of zero ends the native branch with
an exception of its own, before anything was handed over. -/
theorem nativePayloads_of_nativeError {exc : Exn} (yields : Yields native mtu message s)
    (ended : nativeError native mtu message s = some exc) :
    nativePayloads native mtu message s = [] := by
  unfold nativeError at ended
  dsimp only at ended
  split at ended
  · rename_i divided
    have unsegmented : (native.attemptFor mtu message s).ending ≠ .whole := by
      intro whole
      have result := NativeTp.result_of_whole whole
      rw [NativeTp.attemptFor] at divided
      rw [result] at divided
      cases divided.2
    unfold nativePayloads
    simp only [if_neg unsegmented, if_pos divided.1]
  · cases ending : (native.attemptFor mtu message s).ending with
    | raised other => exact absurd ⟨other, ending⟩ yields.calm
    | whole =>
        rw [ending] at ended
        cases ended
    | refused result =>
        rw [ending] at ended
        cases ended
    | exhausted =>
        rw [ending] at ended
        cases ended

theorem taken_tile_pairwise (call : Nat) (pieces : List Bytes) :
    (Script.taken outcomes call (Slice.tile 0 pieces)).Pairwise Slice.Apart :=
  (Slice.tile_pairwise 0 pieces).sublist (Script.taken_sublist call _)

theorem accepted_apart_of_no_refusal (fuel : Nat) (yields : Yields native mtu message s)
    (quiet : Script.refusal outcomes 0 (Slice.tile 0 (nativePayloads native mtu message s)) = none) :
    (acceptedSlices native mtu message s outcomes fuel).Pairwise Slice.Apart := by
  cases ended : nativeError native mtu message s with
  | none =>
      simp only [acceptedSlices, quiet, ended, Option.or_none]
      exact taken_tile_pairwise 0 _
  | some exc =>
      have nothing := nativePayloads_of_nativeError yields ended
      simp only [acceptedSlices, ended, nothing, Slice.tile, Script.refusal, Option.none_or,
        Script.taken, List.nil_append]
      split
      · exact taken_tile_pairwise _ _
      · exact List.Pairwise.nil

/-- A refusal that is no `Exception` ends `send`. -/
theorem accepted_apart_of_uncaught (fuel : Nat) {exc : Exn}
    (refused : Script.refusal outcomes 0 (Slice.tile 0 (nativePayloads native mtu message s)) =
      some exc) (uncaught : ¬ exc.isException = true) :
    (acceptedSlices native mtu message s outcomes fuel).Pairwise Slice.Apart := by
  simp only [acceptedSlices, refused, Option.some_or, uncaught]
  exact taken_tile_pairwise 0 _

/-- The refusal of a native segment, and what was accepted before it. -/
theorem refusal_of_segment {count : Nat} {exc : Exn}
    (bound : count < (nativePayloads native mtu message s).length)
    (before : ∀ i, i < count → outcomes i = none) (outcome : outcomes count = some exc) :
    Script.refusal outcomes 0 (Slice.tile 0 (nativePayloads native mtu message s)) = some exc ∧
      Script.taken outcomes 0 (Slice.tile 0 (nativePayloads native mtu message s)) =
        (Slice.tile 0 (nativePayloads native mtu message s)).take count ∧
      Script.next outcomes 0 (Slice.tile 0 (nativePayloads native mtu message s)) = count + 1 := by
  have tiled : count < (Slice.tile 0 (nativePayloads native mtu message s)).length := by
    rw [Slice.tile_length]
    exact bound
  have earlier : ∀ i, i < count → outcomes (0 + i) = none := by
    intro i smaller
    rw [Nat.zero_add]
    exact before i smaller
  have there : outcomes (0 + count) = some exc := by
    rw [Nat.zero_add]
    exact outcome
  obtain ⟨refused, front, after⟩ := Script.refusal_of_first tiled earlier there
  rw [Nat.zero_add] at after
  exact ⟨refused, front, after⟩

/-- Behind a refused segment the slices stay apart exactly when the next call is refused too
or nothing but empty segments was accepted before. -/
theorem accepted_apart_iff_of_caught (fuel : Nat) (yields : Yields native mtu message s) {exc : Exn}
    {count : Nat} (bound : count < (nativePayloads native mtu message s).length)
    (before : ∀ i, i < count → outcomes i = none) (refused : outcomes count = some exc)
    (caught : exc.isException = true) :
    (acceptedSlices native mtu message s outcomes fuel).Pairwise Slice.Apart ↔
      ¬ (outcomes (count + 1) = none ∧
        ∃ payload ∈ (nativePayloads native mtu message s).take count, payload ≠ []) := by
  obtain ⟨refusal, front, after⟩ := refusal_of_segment bound before refused
  simp only [acceptedSlices, refusal, Option.some_or, caught, ↓reduceIte, front, after]
  have head : ((Slice.tile 0 (nativePayloads native mtu message s)).take count).Pairwise
      Slice.Apart := (Slice.tile_pairwise 0 _).sublist (List.take_sublist _ _)
  cases again : outcomes (count + 1) with
  | some other =>
      rw [Script.taken_of_some again, List.append_nil]
      apply iff_of_true head
      rintro ⟨accepted, -⟩
      cases accepted
  | none =>
      rw [List.pairwise_append]
      by_cases filled : ∃ payload ∈ (nativePayloads native mtu message s).take count, payload ≠ []
      · apply iff_of_false _ (not_not_intro ⟨rfl, filled⟩)
        rintro ⟨-, -, cross⟩
        obtain ⟨piece, pieces, python, nonempty⟩ := exists_first_piece fuel yields bound filled
        have starts : ∃ slice ∈ (Slice.tile 0 (nativePayloads native mtu message s)).take count,
            slice.Contains 0 := Slice.exists_contains_start filled
        obtain ⟨slice, accepted, contains⟩ := starts
        rw [python, Slice.tile, Script.taken_cons_of_none again] at cross
        apply cross slice accepted _ List.mem_cons_self 0
        refine ⟨contains, Nat.le_refl 0, ?_⟩
        rw [Nat.zero_add]
        exact List.length_pos_of_ne_nil nonempty
      · have empty : ∀ payload ∈ (nativePayloads native mtu message s).take count,
            payload = [] := by
          intro payload member
          by_cases blank : payload = []
          · exact blank
          · exact absurd ⟨payload, member, blank⟩ filled
        apply iff_of_true _ (fun both => filled both.2)
        refine ⟨head, taken_tile_pairwise _ _, ?_⟩
        intro slice member other _ place both
        exact Slice.not_contains_of_empty empty slice member place both.1

/-- Nothing is sent twice exactly when the native branch is not broken off behind accepted bytes
by a transport that accepts again. -/
theorem sends_once_iff (native : NativeTp ω κ)
    (zero_iff : ∀ result, native.int result = 0 ↔ result = .success) (mtu : Nat)
    (message : Message) (endpoint : Option Endpoint) (s : ω)
    (yields : Yields native mtu message s) (outcomes : Nat → Option Exn) (fuel : Nat)
    (enough : message.payload.length < fuel) :
    ((({ mtu := mtu, transportSend := scripted outcomes, cpp := some native } :
        TpManager ScriptedTransport ω κ).send fuel message endpoint
          { transport := {}, native := s }).2.transport.accepted.map Message.payload =
        (acceptedSlices native mtu message s outcomes fuel).map (Slice.cut message.payload)) ∧
      ((acceptedSlices native mtu message s outcomes fuel).Pairwise Slice.Apart ↔
        ¬ BreaksOff native mtu message s outcomes) := by
  refine ⟨send_accepted zero_iff enough yields.slices rfl rfl rfl, ?_⟩
  cases refused : Script.refusal outcomes 0 (Slice.tile 0 (nativePayloads native mtu message s)) with
  | none =>
      apply iff_of_true (accepted_apart_of_no_refusal fuel yields refused)
      rintro ⟨count, exc, bound, before, outcome, -⟩
      cases refused.symm.trans (refusal_of_segment bound before outcome).1
  | some exc =>
      obtain ⟨count, tiled, before, outcome, -, after⟩ := Script.refusal_eq_some refused
      rw [Slice.tile_length] at tiled
      simp only [Nat.zero_add] at before outcome after
      by_cases caught : exc.isException = true
      · rw [accepted_apart_iff_of_caught fuel yields tiled before outcome caught]
        apply not_congr
        constructor
        · rintro ⟨again, filled⟩
          exact ⟨count, exc, tiled, before, outcome, caught, again, filled⟩
        · rintro ⟨other, reason, bound, earlier, there, -, again, filled⟩
          have same := after.symm.trans (refusal_of_segment bound earlier there).2.2
          obtain rfl : count = other := by omega
          exact ⟨again, filled⟩
      · apply iff_of_true (accepted_apart_of_uncaught fuel refused caught)
        rintro ⟨other, reason, bound, earlier, there, exception, -⟩
        obtain rfl := Option.some.inj (refused.symm.trans (refusal_of_segment bound earlier there).1)
        exact caught exception

/-- A native layer that hands out three bytes in two segments; its state is what is left. -/
def twoSegments : NativeTp (List Bytes) Message where
  int := fun result => if result = .success then 0 else 5
  toCppMessage := fun message => pure message
  needsSegmentation := fun message => pure (decide (2 < message.payload.length))
  segmentMessage := fun _ => do
    Method.modify fun _ => [[1, 2], [3]]
    pure (.success, 1)
  getNextSegment := fun _ => do
    let left ← Method.get
    match left with
    | [] => pure (.sequenceError, [])
    | payload :: rest => do
        Method.modify fun _ => rest
        pure (.success, payload)

theorem twoSegments_yields : Yields twoSegments 2 { payload := [1, 2, 3] } [] where
  calm := by
    rintro ⟨exc, raised⟩
    cases raised
  slices := by decide

/-- The peer has closed the connection. -/
def connectionLost : Exn := .transportError "connection lost"

/-- Nothing is sent twice over a transport that has failed for good. -/
theorem sends_once_iff_failed :
    (acceptedSlices twoSegments 2 { payload := [1, 2, 3] } []
      (fun call => if call = 0 then none else some connectionLost) 4).Pairwise Slice.Apart := by
  have once := sends_once_iff twoSegments (by intro result; cases result <;> decide) 2
    { payload := [1, 2, 3] } none [] twoSegments_yields
    (fun call => if call = 0 then none else some connectionLost) 4 (by decide)
  apply once.2.mpr
  rintro ⟨count, exc, -, -, -, -, again, -⟩
  have refused : (if count + 1 = 0 then none else some connectionLost) = some connectionLost :=
    if_neg (Nat.succ_ne_zero count)
  cases again.symm.trans refused

/-- The second segment is refused once, and the first is sent again. -/
theorem first_segment_sent_twice :
    let outcomes : Nat → Option Exn := fun call => if call = 1 then some connectionLost else none
    let manager : TpManager ScriptedTransport (List Bytes) Message :=
      { mtu := (2 : Nat), transportSend := scripted outcomes, cpp := some twoSegments }
    (manager.send 4 { payload := [1, 2, 3] } none { transport := {}, native := [] }).1 =
        .ok (some ()) ∧
      (manager.send 4 { payload := [1, 2, 3] } none
        { transport := {}, native := [] }).2.transport.accepted.map Message.payload =
          [[1, 2], [1, 2], [3]] ∧
      ¬ (acceptedSlices twoSegments 2 { payload := [1, 2, 3] } [] outcomes 4).Pairwise
        Slice.Apart := by
  intro outcomes manager
  refine ⟨rfl, rfl, ?_⟩
  have payloads : nativePayloads twoSegments 2 { payload := [1, 2, 3] } [] = [[1, 2], [3]] := by
    decide
  have first : ∀ i, i < 1 → outcomes i = none := by
    intro i smaller
    obtain rfl : i = 0 := Nat.lt_one_iff.mp smaller
    rfl
  have bound : 1 < (nativePayloads twoSegments 2 { payload := [1, 2, 3] } []).length := by
    rw [payloads]
    decide
  have lost : outcomes 1 = some connectionLost := rfl
  have apart := accepted_apart_iff_of_caught 4 twoSegments_yields bound first lost rfl
  rw [apart, not_not, payloads]
  exact ⟨rfl, [1, 2], List.mem_cons_self, by decide⟩

end TpManager

end OpenSomeIp
