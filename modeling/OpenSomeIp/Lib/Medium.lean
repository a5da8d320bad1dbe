import Mathlib.Data.List.Perm.Subperm
import OpenSomeIp.Lib.Transition

set_option autoImplicit false

/-! A network that may overtake, lose and repeat what is in flight, and what its disciplines
leave true of what arrives. Messages keep their turn only within a channel. -/

/-- What was sent, what of it is in flight, oldest first, and what has arrived. -/
structure Medium (μ : Type) where
  sent : List μ := []
  inFlight : List μ := []
  arrived : List μ := []
  deriving DecidableEq, Repr

namespace Medium

variable {μ κ : Type}

/-- A place counts from the oldest in flight. -/
inductive Act (μ : Type) where
  | post (m : μ)
  | arrive (place : Nat)
  | lose (place : Nat)
  | again (place : Nat)
  deriving DecidableEq, Repr

def post (m : μ) (n : Medium μ) : Medium μ :=
  { n with sent := n.sent ++ [m], inFlight := n.inFlight ++ [m] }

def arrive (place : Nat) (m : μ) (n : Medium μ) : Medium μ :=
  { n with inFlight := n.inFlight.eraseIdx place, arrived := n.arrived ++ [m] }

def step (n : Medium μ) : Act μ → Option (Medium μ)
  | .post m => some (n.post m)
  | .arrive place => n.inFlight[place]?.map fun m => n.arrive place m
  | .lose place =>
      n.inFlight[place]?.map fun _ => { n with inFlight := n.inFlight.eraseIdx place }
  | .again place => n.inFlight[place]?.map fun m => { n with inFlight := n.inFlight ++ [m] }

/-- What has arrived and what still can. -/
def traced (n : Medium μ) : List μ := n.arrived ++ n.inFlight

def Act.repeats : Act μ → Bool
  | .again _ => true
  | _ => false

def Act.loses : Act μ → Bool
  | .lose _ => true
  | _ => false

/-- Nothing of the same channel is overtaken. -/
def InTurn (channel : μ → κ) (n : Medium μ) : Act μ → Prop
  | .arrive place => ∀ m, n.inFlight[place]? = some m →
      ∀ other ∈ n.inFlight.take place, channel other ≠ channel m
  | _ => True

/-- A network that repeats nothing. -/
def Single (_ : Medium μ) (a : Act μ) : Prop := a.repeats = false

/-- And keeps to the order of each channel. -/
def Orderly (channel : μ → κ) (n : Medium μ) (a : Act μ) : Prop :=
  n.Single a ∧ n.InTurn channel a

/-- And loses nothing. -/
def Reliable (channel : μ → κ) (n : Medium μ) (a : Act μ) : Prop :=
  n.Orderly channel a ∧ a.loses = false

theorem reliable_first (channel : μ → κ) (n : Medium μ) : n.Reliable channel (.arrive 0) := by
  refine ⟨⟨rfl, ?_⟩, rfl⟩
  intro m found other ahead
  cases ahead

variable [DecidableEq κ]

/-- What goes over a channel. -/
def carried (channel : μ → κ) (c : κ) (ms : List μ) : List μ := ms.filter fun m => channel m = c

/-- Nothing is made up. -/
def Genuine (n : Medium μ) : Prop := ∀ m ∈ n.traced, m ∈ n.sent

/-- Nothing comes twice. -/
def Once (n : Medium μ) : Prop := n.traced.Subperm n.sent

/-- Nothing comes twice, and nothing out of its channel's order. -/
def Ordered (channel : μ → κ) (n : Medium μ) : Prop :=
  ∀ c, (carried channel c n.traced).Sublist (carried channel c n.sent)

/-- Everything comes once and in its channel's order. -/
def Complete (channel : μ → κ) (n : Medium μ) : Prop :=
  ∀ c, carried channel c n.traced = carried channel c n.sent

theorem carried_append (channel : μ → κ) (c : κ) (xs ys : List μ) :
    carried channel c (xs ++ ys) = carried channel c xs ++ carried channel c ys :=
  List.filter_append xs ys

section Post

variable {channel : μ → κ} {n : Medium μ}

theorem traced_post (m : μ) (n : Medium μ) : (n.post m).traced = n.traced ++ [m] :=
  (List.append_assoc _ _ _).symm

theorem genuine_post (genuine : n.Genuine) (m : μ) : (n.post m).Genuine := by
  intro other member
  rw [traced_post, List.mem_append] at member
  apply List.mem_append.mpr
  rcases member with old | new
  · exact .inl (genuine other old)
  · exact .inr new

theorem once_post (once : n.Once) (m : μ) : (n.post m).Once := by
  rw [Once, traced_post]
  exact (List.subperm_append_right [m]).mpr once

theorem ordered_post (ordered : n.Ordered channel) (m : μ) : (n.post m).Ordered channel := by
  intro c
  rw [traced_post, carried_append, post, carried_append]
  exact (ordered c).append_right (carried channel c [m])

theorem complete_post (complete : n.Complete channel) (m : μ) : (n.post m).Complete channel := by
  intro c
  rw [traced_post, carried_append, post, carried_append, complete c]

/-- What goes on the network at once. -/
def postAll (ms : List μ) (n : Medium μ) : Medium μ := ms.foldl (fun n m => n.post m) n

@[simp] theorem postAll_sent (ms : List μ) (n : Medium μ) : (n.postAll ms).sent = n.sent ++ ms := by
  induction ms generalizing n with
  | nil => exact (List.append_nil _).symm
  | cons m ms ih => exact (ih (n.post m)).trans (List.append_assoc _ _ _)

@[simp] theorem postAll_arrived (ms : List μ) (n : Medium μ) :
    (n.postAll ms).arrived = n.arrived := by
  induction ms generalizing n with
  | nil => rfl
  | cons m ms ih => exact ih (n.post m)

theorem postAll_keeps {holds : Medium μ → Prop} (post : ∀ n m, holds n → holds (n.post m))
    (ms : List μ) (before : holds n) : holds (n.postAll ms) := by
  induction ms generalizing n with
  | nil => exact before
  | cons m ms ih => exact ih (post n m before)

theorem genuine_postAll (genuine : n.Genuine) (ms : List μ) : (n.postAll ms).Genuine := by
  have post (n : Medium μ) (m : μ) (before : n.Genuine) : (n.post m).Genuine :=
    genuine_post before m
  exact postAll_keeps post ms genuine

end Post

section Arrive

variable {channel : μ → κ} {n : Medium μ} {place : Nat} {m : μ}

/-- An arrival moves what is in flight, out of its order if it overtakes. -/
theorem traced_arrive (found : n.inFlight[place]? = some m) :
    (n.arrive place m).traced.Perm n.traced := by
  obtain ⟨bound, rfl⟩ := List.getElem?_eq_some_iff.mp found
  have moved := List.getElem_cons_eraseIdx_perm bound
  have joined : (n.arrive place n.inFlight[place]).traced =
      n.arrived ++ (n.inFlight[place] :: n.inFlight.eraseIdx place) :=
    List.append_assoc _ _ _
  rw [joined]
  exact moved.append_left n.arrived

/-- An arrival in its turn changes nothing in what comes over each channel. -/
theorem carried_traced_arrive (found : n.inFlight[place]? = some m)
    (inTurn : n.InTurn channel (.arrive place)) (c : κ) :
    carried channel c (n.arrive place m).traced = carried channel c n.traced := by
  obtain ⟨bound, rfl⟩ := List.getElem?_eq_some_iff.mp found
  have parted : n.inFlight =
      n.inFlight.take place ++ n.inFlight[place] :: n.inFlight.drop (place + 1) := by
    rw [List.getElem_cons_drop, List.take_append_drop]
  have left : (n.arrive place n.inFlight[place]).traced = n.arrived ++ [n.inFlight[place]] ++
      (n.inFlight.take place ++ n.inFlight.drop (place + 1)) := by
    rw [traced, arrive, List.eraseIdx_eq_take_drop_succ]
  rw [left, traced]
  conv_rhs => rw [parted]
  simp only [carried_append, List.append_assoc]
  by_cases same : channel n.inFlight[place] = c
  · -- nothing of its channel is ahead of it
    have ahead : carried channel c (n.inFlight.take place) = [] := by
      apply List.filter_eq_nil_iff.mpr
      intro other member equal
      exact inTurn _ found other member ((of_decide_eq_true equal).trans same.symm)
    rw [ahead, List.nil_append]
    change _ = _ ++ carried channel c ([n.inFlight[place]] ++ n.inFlight.drop (place + 1))
    rw [carried_append]
  · have skipped : carried channel c [n.inFlight[place]] = [] := by
      apply List.filter_eq_nil_iff.mpr
      intro other member equal
      obtain rfl := List.mem_singleton.mp member
      exact same (of_decide_eq_true equal)
    change _ = _ ++ (_ ++ carried channel c ([n.inFlight[place]] ++ n.inFlight.drop (place + 1)))
    rw [carried_append, skipped, List.nil_append, List.nil_append]

end Arrive

/-- What a step does to what has arrived and still can. -/
inductive Traces (channel : μ → κ) (n t : Medium μ) : Act μ → Prop
  | post (m : μ) (same : t = n.post m) : Traces channel n t (.post m)
  | arrive (place : Nat) (sent : t.sent = n.sent) (moved : t.traced.Perm n.traced)
      (still : n.InTurn channel (.arrive place) →
        ∀ c, carried channel c t.traced = carried channel c n.traced) :
      Traces channel n t (.arrive place)
  | lose (place : Nat) (sent : t.sent = n.sent) (less : t.traced.Sublist n.traced) :
      Traces channel n t (.lose place)
  | again (place : Nat) (sent : t.sent = n.sent) (m : μ) (copied : m ∈ n.traced)
      (more : t.traced = n.traced ++ [m]) : Traces channel n t (.again place)

section Step

variable {channel : μ → κ} {n t : Medium μ} {a : Act μ}

theorem traces_of_step (channel : μ → κ) (stepped : n.step a = some t) :
    Traces channel n t a := by
  cases a with
  | post m =>
      obtain rfl := Option.some.inj stepped
      exact .post m rfl
  | arrive place =>
      obtain ⟨m, found, rfl⟩ := Option.map_eq_some_iff.mp stepped
      exact .arrive place rfl (traced_arrive found) (carried_traced_arrive found)
  | lose place =>
      obtain ⟨m, found, rfl⟩ := Option.map_eq_some_iff.mp stepped
      exact .lose place rfl ((List.eraseIdx_sublist n.inFlight place).append_left n.arrived)
  | again place =>
      obtain ⟨m, found, rfl⟩ := Option.map_eq_some_iff.mp stepped
      refine .again place rfl m ?_ (List.append_assoc _ _ _).symm
      exact List.mem_append_right _ (List.mem_of_getElem? found)

/-- A fault neither sends nor delivers. -/
theorem frame_of_faulty (faulty : a.loses = true ∨ a.repeats = true)
    (stepped : n.step a = some t) : t.sent = n.sent ∧ t.arrived = n.arrived := by
  cases a with
  | post m => rcases faulty with lost | copied <;> contradiction
  | arrive place => rcases faulty with lost | copied <;> contradiction
  | lose place =>
      obtain ⟨m, found, rfl⟩ := Option.map_eq_some_iff.mp stepped
      exact ⟨rfl, rfl⟩
  | again place =>
      obtain ⟨m, found, rfl⟩ := Option.map_eq_some_iff.mp stepped
      exact ⟨rfl, rfl⟩

theorem genuine_step (genuine : n.Genuine) (stepped : n.step a = some t) : t.Genuine := by
  cases traces_of_step (fun _ => ()) stepped with
  | post m same =>
      rw [same]
      exact genuine_post genuine m
  | arrive place sent moved still =>
      intro m member
      rw [sent]
      exact genuine m (moved.mem_iff.mp member)
  | lose place sent less =>
      intro m member
      rw [sent]
      exact genuine m (less.mem member)
  | again place sent m copied more =>
      intro other member
      rw [more, List.mem_append, List.mem_singleton] at member
      rw [sent]
      rcases member with old | rfl
      · exact genuine other old
      · exact genuine other copied

theorem once_step (once : n.Once) (single : n.Single a) (stepped : n.step a = some t) :
    t.Once := by
  cases traces_of_step (fun _ => ()) stepped with
  | post m same =>
      rw [same]
      exact once_post once m
  | arrive place sent moved still =>
      rw [Once, sent]
      exact moved.subperm.trans once
  | lose place sent less =>
      rw [Once, sent]
      exact less.subperm.trans once
  | again place sent m copied more => cases single

theorem ordered_step (ordered : n.Ordered channel) (orderly : n.Orderly channel a)
    (stepped : n.step a = some t) : t.Ordered channel := by
  obtain ⟨single, inTurn⟩ := orderly
  cases traces_of_step channel stepped with
  | post m same =>
      rw [same]
      exact ordered_post ordered m
  | arrive place sent moved still =>
      intro c
      rw [sent, still inTurn c]
      exact ordered c
  | lose place sent less =>
      intro c
      rw [sent]
      exact (less.filter _).trans (ordered c)
  | again place sent m copied more => cases single

theorem complete_step (complete : n.Complete channel) (reliable : n.Reliable channel a)
    (stepped : n.step a = some t) : t.Complete channel := by
  obtain ⟨⟨single, inTurn⟩, safe⟩ := reliable
  cases traces_of_step channel stepped with
  | post m same =>
      rw [same]
      exact complete_post complete m
  | arrive place sent moved still =>
      intro c
      rw [sent, still inTurn c]
      exact complete c
  | lose place sent less => cases safe
  | again place sent m copied more => cases single

end Step

/-- What posting keeps, and what every step that obeys a rule keeps. -/
structure Lasting (rule : Medium μ → Act μ → Prop) (holds : Medium μ → Prop) : Prop where
  post : ∀ n m, holds n → holds (n.post m)
  step : ∀ n a t, holds n → rule n a → n.step a = some t → holds t

theorem lasting_once : Lasting (μ := μ) Single Once where
  post := fun _ m once => once_post once m
  step := fun _ _ _ once single stepped => once_step once single stepped

theorem lasting_ordered (channel : μ → κ) : Lasting (Orderly channel) (Ordered channel) where
  post := fun _ m ordered => ordered_post ordered m
  step := fun _ _ _ ordered orderly stepped => ordered_step ordered orderly stepped

theorem lasting_complete (channel : μ → κ) : Lasting (Reliable channel) (Complete channel) where
  post := fun _ m complete => complete_post complete m
  step := fun _ _ _ complete reliable stepped => complete_step complete reliable stepped

end Medium
