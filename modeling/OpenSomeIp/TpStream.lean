import OpenSomeIp.Tp

set_option autoImplicit false

namespace OpenSomeIp

namespace TpManager

/-- A manager without its native part, over a transport that accepts every message. -/
def pythonManager (mtu : Int) : TpManager (List (Message × Option Endpoint)) Unit Unit :=
  { mtu := mtu, transportSend := accept }

/-- The calls of `send`, one message after another, all return, and `out` is what the
transport was handed in them. -/
def Hands (mtu : Int) (endpoint : Option Endpoint) (messages out : List Message) : Prop :=
  ∃ fuel results last,
    Method.each (fun m => (pythonManager mtu).send fuel m endpoint) messages
      { transport := [], native := () } = (.ok results, last) ∧
    (∀ result ∈ results, result = some ()) ∧ last.transport.map Prod.fst = out

/-- Two neighbours that are not to be told from the first two segments of one message. -/
def LooksSegmented (mtu : Nat) (a b : Message) : Prop :=
  a.payload.length = mtu ∧ b.payload ≠ [] ∧ a.messageId = b.messageId ∧
    a.requestId = b.requestId ∧ a.messageType = b.messageType ∧ a.returnCode = b.returnCode ∧
    a.interfaceVersion = 1 ∧ b.interfaceVersion = 1

def Mergeable (mtu : Nat) (messages : List Message) : Prop :=
  ∃ front a b back, messages = front ++ a :: b :: back ∧ LooksSegmented mtu a b

variable {mtu : Nat} {endpoint : Option Endpoint}

theorem send_eq {message : Message} (positive : 0 < mtu) {fuel : Nat}
    {w last : TpWorld (List (Message × Option Endpoint)) Unit}
    (ran : (pythonManager mtu).send fuel message endpoint w = (.ok (some ()), last)) :
    last = handed endpoint (pieces mtu message) w := by
  have longer := send_add (message.payload.length + 1) ran (by simp)
  have direct : (pythonManager mtu).send (fuel + (message.payload.length + 1)) message endpoint w =
      (.ok (some ()), handed endpoint (pieces mtu message) w) :=
    sendPython_accept rfl positive rfl (by omega)
  exact (Prod.mk.inj (longer.symm.trans direct)).2

theorem each_send_eq (positive : 0 < mtu) {fuel : Nat} (messages : List Message) :
    ∀ {w last : TpWorld (List (Message × Option Endpoint)) Unit} {results},
      Method.each (fun m => (pythonManager mtu).send fuel m endpoint) messages w =
        (.ok results, last) → (∀ result ∈ results, result = some ()) →
      last = handed endpoint (messages.flatMap (pieces mtu)) w := by
  induction messages with
  | nil =>
      intro w last results ran _
      cases ran
      rw [List.flatMap_nil, handed_nil]
  | cons message messages ih =>
      intro w last results ran all
      rcases Method.each_cons_eq_ok ran with ⟨first, middle, rest, head, tail, rfl⟩
      rw [all first List.mem_cons_self] at head
      have later := ih tail fun result member => all result (List.mem_cons_of_mem _ member)
      rw [later, send_eq positive head, handed_handed, List.flatMap_cons]

/-- Every call comes to its end when there are turns enough for the longest message. -/
theorem each_send_returns (positive : 0 < mtu) {fuel : Nat} (messages : List Message)
    (enough : ∀ m ∈ messages, m.payload.length < fuel) :
    ∀ w : TpWorld (List (Message × Option Endpoint)) Unit,
      Method.each (fun m => (pythonManager mtu).send fuel m endpoint) messages w =
        (.ok (messages.map fun _ => some ()), handed endpoint (messages.flatMap (pieces mtu)) w) := by
  induction messages with
  | nil =>
      intro w
      rw [List.flatMap_nil, handed_nil]
      rfl
  | cons message messages ih =>
      intro w
      have head : (pythonManager mtu).send fuel message endpoint w =
          (.ok (some ()), handed endpoint (pieces mtu message) w) :=
        sendPython_accept rfl positive rfl (enough message List.mem_cons_self)
      have tail := ih (fun m member => enough m (List.mem_cons_of_mem _ member))
        (handed endpoint (pieces mtu message) w)
      rw [handed_handed, ← List.flatMap_cons] at tail
      exact Method.each_cons_of_ok head tail

theorem exists_longer (messages : List Message) :
    ∃ bound, ∀ m ∈ messages, m.payload.length < bound := by
  induction messages with
  | nil => exact ⟨0, fun m member => absurd member List.not_mem_nil⟩
  | cons message messages ih =>
      rcases ih with ⟨bound, all⟩
      refine ⟨bound + message.payload.length + 1, ?_⟩
      intro m member
      rcases List.mem_cons.mp member with rfl | later
      · omega
      · have shorter := all m later
        omega

theorem hands_iff (positive : 0 < mtu) (messages out : List Message) :
    Hands mtu endpoint messages out ↔ out = messages.flatMap (pieces mtu) := by
  have sent (w : TpWorld (List (Message × Option Endpoint)) Unit) (empty : w.transport = [])
      (all : List Message) : (handed endpoint all w).transport.map Prod.fst = all := by
    rw [handed, empty, List.nil_append, List.map_map]
    exact List.map_id all
  constructor
  · intro hands
    rcases hands with ⟨fuel, results, last, ran, all, rfl⟩
    rw [each_send_eq positive messages ran all]
    exact sent _ rfl _
  · intro same
    rcases exists_longer messages with ⟨fuel, enough⟩
    refine ⟨fuel, _, _, each_send_returns positive messages enough _, ?_, ?_⟩
    · intro result member
      rcases List.mem_map.mp member with ⟨_, _, rfl⟩
      rfl
    · rw [same]
      exact sent _ rfl _

theorem pieces_of_le {message : Message} (small : message.payload.length ≤ mtu) :
    pieces mtu message = [message] := if_pos small

theorem flatMap_pieces_of_le {messages : List Message}
    (small : ∀ m ∈ messages, m.payload.length ≤ mtu) :
    messages.flatMap (pieces mtu) = messages := by
  induction messages with
  | nil => rfl
  | cons message messages ih =>
      rw [List.flatMap_cons, pieces_of_le (small message List.mem_cons_self),
        ih fun m member => small m (List.mem_cons_of_mem _ member)]
      rfl

/-- The pieces of a message fit into the MTU themselves. -/
theorem length_le_of_mem_pieces (positive : 0 < mtu) {message piece : Message}
    (member : piece ∈ pieces mtu message) : piece.payload.length ≤ mtu := by
  unfold pieces at member
  split at member
  · rename_i small
    rw [List.mem_singleton.mp member]
    exact small
  · rcases List.mem_map.mp member with ⟨chunk, inside, rfl⟩
    exact Chunks.length_le_of_mem positive inside

/-- A large message begins with a full segment and goes on with a nonempty one. -/
theorem pieces_of_lt (positive : 0 < mtu) {message : Message}
    (large : mtu < message.payload.length) :
    ∃ a b rest, pieces mtu message = a :: b :: rest ∧ LooksSegmented mtu a b := by
  have more : ¬ message.payload.length ≤ mtu := Nat.not_le_of_lt large
  rw [pieces, if_neg more, Chunks.chunks_of_lt positive large]
  refine ⟨_, _, _, rfl, ?_, ?_, rfl, rfl, rfl, rfl, rfl, rfl⟩
  · show (message.payload.take mtu).length = mtu
    rw [List.length_take]
    omega
  · apply List.ne_nil_of_length_pos
    show 0 < ((message.payload.drop mtu).take mtu).length
    rw [List.length_take, List.length_drop]
    omega

/-- Two neighbours that look like segments are what `send` makes of one message. -/
theorem pieces_merged {a b : Message} (alike : LooksSegmented mtu a b)
    (bounded : b.payload.length ≤ mtu) :
    (pieces mtu (segment a (a.payload ++ b.payload))).map Message.wire = [a.wire, b.wire] := by
  rcases alike with ⟨full, nonempty, messageId, requestId, messageType, returnCode, one, other⟩
  have size : 0 < b.payload.length := List.length_pos_of_ne_nil nonempty
  have positive : 0 < mtu := by omega
  have large : ¬ (segment a (a.payload ++ b.payload)).payload.length ≤ mtu := by
    show ¬ (a.payload ++ b.payload).length ≤ mtu
    rw [List.length_append]
    omega
  have cut : Chunks.chunks mtu (a.payload ++ b.payload) = [a.payload, b.payload] := by
    have first : a.payload ++ b.payload ≠ [] := by
      apply List.ne_nil_of_length_pos
      rw [List.length_append]
      omega
    rw [Chunks.chunks_of_ne_nil positive first, List.take_left' full, List.drop_left' full,
      Chunks.chunks_of_length_le positive nonempty bounded]
  rw [pieces, if_neg large]
  show ((Chunks.chunks mtu (a.payload ++ b.payload)).map _).map Message.wire = _
  rw [cut]
  simp only [List.map_cons, List.map_nil, segment, Message.wire, one, other, messageId, requestId,
    messageType, returnCode]

/-- A stream that `send` can also make of other messages. -/
def Ambiguous (mtu : Nat) (messages : List Message) : Prop :=
  ∃ others : List Message, (messages.flatMap (pieces mtu)).map Message.wire =
      (others.flatMap (pieces mtu)).map Message.wire ∧
    messages.map Message.wire ≠ others.map Message.wire

/-- The segments of a large message could as well have been sent one by one. -/
theorem ambiguous_of_large (positive : 0 < mtu) {messages : List Message} {large : Message}
    (member : large ∈ messages) (long : mtu < large.payload.length) : Ambiguous mtu messages := by
  rcases List.append_of_mem member with ⟨front, back, rfl⟩
  refine ⟨front ++ (pieces mtu large ++ back), ?_, ?_⟩
  · have again : (pieces mtu large).flatMap (pieces mtu) = pieces mtu large :=
      flatMap_pieces_of_le fun piece inside => length_le_of_mem_pieces positive inside
    simp only [List.flatMap_append, List.flatMap_cons, again]
  · rcases pieces_of_lt positive long with ⟨a, b, rest, cut, _⟩
    intro same
    have lengths := congrArg List.length same
    rw [cut] at lengths
    simp only [List.length_map, List.length_append, List.length_cons] at lengths
    omega

/-- Two neighbours that look like segments could as well have been one message. -/
theorem ambiguous_of_mergeable {messages : List Message}
    (small : ∀ m ∈ messages, m.payload.length ≤ mtu) (mergeable : Mergeable mtu messages) :
    Ambiguous mtu messages := by
  rcases mergeable with ⟨front, a, b, back, rfl, alike⟩
  have first : a.payload.length ≤ mtu := small a (by simp)
  have second : b.payload.length ≤ mtu := small b (by simp)
  refine ⟨front ++ segment a (a.payload ++ b.payload) :: back, ?_, ?_⟩
  · simp only [List.flatMap_append, List.flatMap_cons, List.map_append,
      pieces_merged alike second, pieces_of_le first, pieces_of_le second]
    simp only [List.map_cons, List.map_nil, List.cons_append, List.nil_append]
  · intro same
    have lengths := congrArg List.length same
    simp only [List.length_map, List.length_append, List.length_cons] at lengths
    omega

/-- If a stream of small messages was also made of other messages, one of these was large,
and its first two segments stand side by side in the stream. -/
theorem mergeable_of_ambiguous (positive : 0 < mtu) {messages : List Message}
    (small : ∀ m ∈ messages, m.payload.length ≤ mtu) (ambiguous : Ambiguous mtu messages) :
    Mergeable mtu messages := by
  rcases ambiguous with ⟨others, same, different⟩
  rw [flatMap_pieces_of_le small] at same
  by_cases all : ∀ m ∈ others, m.payload.length ≤ mtu
  · rw [flatMap_pieces_of_le all] at same
    exact absurd same different
  · simp only [not_forall] at all
    rcases all with ⟨large, member, long⟩
    rcases List.append_of_mem member with ⟨front, back, rfl⟩
    rcases pieces_of_lt positive (Nat.lt_of_not_le long) with ⟨a, b, rest, cut, alike⟩
    rw [List.flatMap_append, List.flatMap_cons, cut] at same
    simp only [List.map_append, List.map_cons, List.cons_append] at same
    rcases List.map_eq_append_iff.mp same with ⟨start, tail, rfl, _, same⟩
    rcases List.map_eq_cons_iff.mp same with ⟨x, tail, rfl, first, same⟩
    rcases List.map_eq_cons_iff.mp same with ⟨y, tail, rfl, second, _⟩
    have wires : LooksSegmented mtu x.wire y.wire := by
      rw [first, second]
      exact alike
    exact ⟨start, x, y, tail, rfl, wires⟩

/-- A sequence of messages can be recovered from what `send` hands to the transport exactly
when none of them is segmented and no two neighbours look like segments of one message. -/
theorem send_reversible_iff (mtu : Nat) (positive : 1 ≤ mtu) (endpoint : Option Endpoint)
    (messages : List Message) :
    (∃ out, Hands mtu endpoint messages out) ∧
      ((∀ others out out', Hands mtu endpoint messages out → Hands mtu endpoint others out' →
          Message.eqs out out' = true → Message.eqs messages others = true) ↔
        (∀ m ∈ messages, m.payload.length ≤ mtu) ∧ ¬ Mergeable mtu messages) := by
  refine ⟨⟨_, (hands_iff positive messages _).mpr rfl⟩, ?_⟩
  have reversible : (∀ others out out', Hands mtu endpoint messages out →
      Hands mtu endpoint others out' → Message.eqs out out' = true →
      Message.eqs messages others = true) ↔ ¬ Ambiguous mtu messages := by
    simp only [hands_iff positive, Message.eqs_iff_wire]
    constructor
    · intro recovers ambiguous
      rcases ambiguous with ⟨others, same, different⟩
      exact different (recovers others _ _ rfl rfl same)
    · intro unambiguous others out out' sent sent' same
      by_contra different
      rw [sent, sent'] at same
      exact unambiguous ⟨others, same, different⟩
  rw [reversible]
  constructor
  · intro unambiguous
    have small : ∀ m ∈ messages, m.payload.length ≤ mtu := by
      intro m member
      by_contra long
      exact unambiguous (ambiguous_of_large positive member (Nat.lt_of_not_le long))
    exact ⟨small, fun mergeable => unambiguous (ambiguous_of_mergeable small mergeable)⟩
  · intro separate ambiguous
    exact separate.2 (mergeable_of_ambiguous positive separate.1 ambiguous)

theorem send_reversible_iff_two :
    (∃ out, Hands (2 : Nat) none [{ payload := [1, 2] }, { payload := [] }] out) ∧
      ((∀ others out out', Hands (2 : Nat) none [{ payload := [1, 2] }, { payload := [] }] out →
          Hands (2 : Nat) none others out' → Message.eqs out out' = true →
          Message.eqs [{ payload := [1, 2] }, { payload := [] }] others = true) ↔
        (∀ m ∈ ([{ payload := [1, 2] }, { payload := [] }] : List Message),
          m.payload.length ≤ 2) ∧ ¬ Mergeable 2 [{ payload := [1, 2] }, { payload := [] }]) :=
  send_reversible_iff 2 (by decide) none [{ payload := [1, 2] }, { payload := [] }]

/-- One message of three bytes and two messages of two bytes and one are sent alike. -/
theorem segments_indistinguishable :
    ∃ out, Hands 2 none [{ payload := [1, 2, 3] }] out ∧
      Hands 2 none [{ payload := [1, 2] }, { payload := [3] }] out ∧
      Message.eqs [{ payload := [1, 2, 3] }] [{ payload := [1, 2] }, { payload := [3] }] = false := by
  refine ⟨[{ payload := [1, 2] }, { payload := [3] }], ?_, ?_, by decide⟩
  · exact ⟨3, _, _, rfl, by simp, rfl⟩
  · exact ⟨3, _, _, rfl, by simp, rfl⟩

end TpManager

end OpenSomeIp
