import Mathlib.Data.List.Induction
import OpenSomeIp.Component
import OpenSomeIp.Lib.Transition

set_option autoImplicit false

namespace OpenSomeIp

/-! ### What was registered -/

section Registrations

variable {ι κ η : Type} [DecidableEq κ] (key : ι → κ)

/-- What was registered last under a key. -/
def latest (registrations : List (ι × η)) (k : κ) : Option η :=
  ((registrations.filter fun entry => key entry.1 = k).getLast?).map (·.2)

/-- What was registered first under a key. -/
def earliest (registrations : List (ι × η)) (k : κ) : Option η :=
  ((registrations.filter fun entry => key entry.1 = k).head?).map (·.2)

theorem latest_snoc (front : List (ι × η)) (about : ι) (value : η) (k : κ) :
    latest key (front ++ [(about, value)]) k =
      if key about = k then some value else latest key front k := by
  rw [latest, List.filter_append]
  by_cases same : key about = k
  · simp [same]
  · simp [same, latest]

theorem earliest_snoc (front : List (ι × η)) (about : ι) (value : η) (k : κ) :
    earliest key (front ++ [(about, value)]) k =
      if key about = k then some ((earliest key front k).getD value)
      else earliest key front k := by
  rw [earliest, List.filter_append, List.head?_append]
  by_cases same : key about = k
  · cases before : (front.filter fun entry => key entry.1 = k).head? with
    | none => simp [same, earliest, before]
    | some entry => simp [same, earliest, before]
  · simp [same, earliest]

end Registrations

theorem MessageId.value_eq (id : MessageId) :
    id.value = id.serviceId.toNat * 65536 + id.methodId.toNat := by
  have low : id.methodId.toNat < 2 ^ 16 := id.methodId.toNat_lt
  rw [value, ← Nat.shiftLeft_add_eq_or_of_lt low, Nat.shiftLeft_eq]

theorem MessageId.value_injective : Function.Injective MessageId.value := by
  intro first second same
  rw [value_eq, value_eq] at same
  have left : first.methodId.toNat < 2 ^ 16 := first.methodId.toNat_lt
  have right : second.methodId.toNat < 2 ^ 16 := second.methodId.toNat_lt
  have services : first.serviceId = second.serviceId := UInt16.toNat_inj.mp (by omega)
  have methods : first.methodId = second.methodId := UInt16.toNat_inj.mp (by omega)
  cases first
  cases second
  rw [MessageId.mk.injEq]
  exact ⟨services, methods⟩

/-- The closure `_cpp_handler`, which runs `handler` between the two conversions of messages. -/
structure CppHandler (η : Type) where
  handler : η

/-- The native server with its map from method ids to callbacks. -/
structure NativeRpcRegistry (ω η : Type) where
  registerMethod : UInt16 → CppHandler η → Method Exn ω Unit
  registered : ω → UInt16 → Option (CppHandler η)

/-- Which registration of a method id stands. -/
inductive Precedence where
  | first
  | last
  deriving DecidableEq, Repr

/-- `register_method` fills the map. -/
structure NativeRpcRegistry.Lawful {ω η : Type} (cpp : NativeRpcRegistry ω η)
    (precedence : Precedence) : Prop where
  returns : ∀ id callback s, (cpp.registerMethod id callback s).1 = .ok ()
  registered_self : ∀ id callback s, cpp.registered (cpp.registerMethod id callback s).2 id =
    match precedence with
    | .first => some ((cpp.registered s id).getD callback)
    | .last => some callback
  registered_of_ne : ∀ id callback s other, other ≠ id →
    cpp.registered (cpp.registerMethod id callback s).2 other = cpp.registered s other

/-- The handlers of a `RpcServer` by the value of the message id. -/
structure RpcHandlers (η : Type) where
  handlers : AList (fun _ : Nat => η) := ∅

namespace RpcServer

variable {ω η : Type}

def registerHandler (cpp : Option (NativeRpcRegistry ω η)) (methodId : MessageId) (handler : η) :
    Method Exn (Component ω (RpcHandlers η)) Unit := do
  Method.modify fun self =>
    { self with attributes :=
        { handlers := self.attributes.handlers.insert methodId.value handler } }
  match cpp with
  | none => pure ()
  | some cpp => Component.onNative (cpp.registerMethod methodId.methodId ⟨handler⟩)

/-- The native server invokes the callback of the request's method id, whatever the service. -/
def executed (cpp : NativeRpcRegistry ω η) (w : Component ω (RpcHandlers η))
    (request : MessageId) : Option η :=
  (cpp.registered w.native request.methodId).map CppHandler.handler

def register (cpp : NativeRpcRegistry ω η) (w : Component ω (RpcHandlers η))
    (entry : MessageId × η) : Option (Component ω (RpcHandlers η)) :=
  some (registerHandler (some cpp) entry.1 entry.2 w).2

end RpcServer

/-- The handler whose registration of a method id stands. -/
def Precedence.winner {η : Type} (precedence : Precedence) (registrations : List (MessageId × η))
    (id : UInt16) : Option η :=
  match precedence with
  | .first => earliest MessageId.methodId registrations id
  | .last => latest MessageId.methodId registrations id

namespace RpcServer

variable {ω η : Type} {cpp : NativeRpcRegistry ω η} {precedence : Precedence}

/-- One registration leaves its handler in the dictionary and its closure with the native
server. -/
theorem registerHandler_state (w : Component ω (RpcHandlers η)) (methodId : MessageId)
    (handler : η) :
    (registerHandler (some cpp) methodId handler w).2 =
      { w with
        native := (cpp.registerMethod methodId.methodId ⟨handler⟩ w.native).2
        attributes := { handlers := w.attributes.handlers.insert methodId.value handler } } := by
  simp only [registerHandler, Method.bind_apply, Method.modify_apply, Component.onNative,
    Method.zoom_apply]

/-- What both sides hold after a sequence of registrations. -/
structure Holds (cpp : NativeRpcRegistry ω η) (precedence : Precedence)
    (registrations : List (MessageId × η)) (w : Component ω (RpcHandlers η)) : Prop where
  python : ∀ methodId : MessageId,
    w.attributes.handlers.lookup methodId.value = latest id registrations methodId
  native : ∀ id, (cpp.registered w.native id).map CppHandler.handler =
    precedence.winner registrations id

theorem holds_register (lawful : cpp.Lawful precedence) {registrations : List (MessageId × η)}
    {w : Component ω (RpcHandlers η)} (holds : Holds cpp precedence registrations w)
    (methodId : MessageId) (handler : η) :
    Holds cpp precedence (registrations ++ [(methodId, handler)])
      (registerHandler (some cpp) methodId handler w).2 := by
  rw [registerHandler_state]
  constructor
  · intro other
    rw [latest_snoc, id_eq]
    by_cases same : methodId = other
    · rw [← same, if_pos rfl]
      exact AList.lookup_insert _
    · have apart : other.value ≠ methodId.value := by
        intro equal
        exact same (MessageId.value_injective equal).symm
      rw [if_neg same, ← holds.python]
      exact AList.lookup_insert_ne apart
  · intro other
    have before := holds.native other
    by_cases same : methodId.methodId = other
    · subst same
      rw [lawful.registered_self]
      cases precedence with
      | first =>
          simp only [Precedence.winner] at before ⊢
          rw [earliest_snoc, if_pos rfl, ← before]
          cases cpp.registered w.native methodId.methodId with
          | none => rfl
          | some callback => rfl
      | last =>
          simp only [Precedence.winner]
          rw [latest_snoc, if_pos rfl]
          rfl
    · rw [lawful.registered_of_ne _ _ _ _ (Ne.symm same), before]
      cases precedence with
      | first => simp only [Precedence.winner, earliest_snoc, if_neg same]
      | last => simp only [Precedence.winner, latest_snoc, if_neg same]

theorem holds_run (lawful : cpp.Lawful precedence) {registrations : List (MessageId × η)}
    {native : ω} (empty : ∀ id, cpp.registered native id = none)
    {w : Component ω (RpcHandlers η)}
    (ran : Transition.run (register cpp) { native := native, attributes := {} } registrations =
      some w) :
    Holds cpp precedence registrations w := by
  induction registrations using List.reverseRecOn generalizing w with
  | nil =>
      obtain rfl := Option.some.inj ran
      constructor
      · intro methodId
        exact AList.lookup_empty methodId.value
      · intro id
        rw [empty]
        cases precedence with
        | first => rfl
        | last => rfl
  | append_singleton front entry ih =>
      rw [Transition.run_append, Option.bind_eq_some_iff] at ran
      obtain ⟨middle, before, stepped⟩ := ran
      obtain rfl := Option.some.inj stepped
      exact holds_register lawful (ih before) entry.1 entry.2

/-- A request is dispatched to the entry of its message id exactly when the handler registered
last for that id is the one that stands for its method id. -/
theorem dispatch_agrees_iff (lawful : cpp.Lawful precedence) {native : ω}
    (empty : ∀ id, cpp.registered native id = none) (registrations : List (MessageId × η))
    (w : Component ω (RpcHandlers η))
    (ran : Transition.run (register cpp) { native := native, attributes := {} } registrations =
      some w) (request : MessageId) :
    w.attributes.handlers.lookup request.value = latest id registrations request ∧
      ∀ handler, w.attributes.handlers.lookup request.value = some handler →
        (executed cpp w request = some handler ↔
          latest id registrations request =
            precedence.winner registrations request.methodId) := by
  have holds := holds_run lawful empty ran
  refine ⟨holds.python request, fun handler entry => ?_⟩
  have newest := (holds.python request).symm.trans entry
  rw [executed, holds.native, newest]
  exact eq_comm

/-- A native server that is its map. -/
def plainRegistry (precedence : Precedence) :
    NativeRpcRegistry (UInt16 → Option (CppHandler String)) String where
  registerMethod id callback := Method.modify fun registered =>
    Function.update registered id
      (match precedence with
      | .first => some ((registered id).getD callback)
      | .last => some callback)
  registered s := s

theorem plainRegistry_lawful (precedence : Precedence) :
    (plainRegistry precedence).Lawful precedence where
  returns _ _ _ := rfl
  registered_self _ _ _ := Function.update_self ..
  registered_of_ne _ _ _ _ different := Function.update_of_ne different ..

theorem dispatch_agrees_iff_one_service :
    ∃ w, Transition.run (register (plainRegistry .last))
        { native := fun _ => none, attributes := {} }
        [(⟨0x1234, 1⟩, "old"), (⟨0x1234, 2⟩, "other"), (⟨0x1234, 1⟩, "new")] = some w ∧
      executed (plainRegistry .last) w ⟨0x1234, 1⟩ = some "new" := by
  have agrees := dispatch_agrees_iff (plainRegistry_lawful .last) (fun _ => rfl)
    [(⟨0x1234, 1⟩, "old"), (⟨0x1234, 2⟩, "other"), (⟨0x1234, 1⟩, "new")] _ rfl ⟨0x1234, 1⟩
  exact ⟨_, rfl, (agrees.2 "new" (agrees.1.trans (by decide))).mpr (by decide)⟩

/-- Two services with a method of one number: either request may reach the other's handler. -/
theorem services_share_a_method_id :
    (∃ w, Transition.run (register (plainRegistry .last))
        { native := fun _ => none, attributes := {} }
        [(⟨0x1111, 1⟩, "one"), (⟨0x2222, 1⟩, "two")] = some w ∧
      w.attributes.handlers.lookup (MessageId.value ⟨0x1111, 1⟩) = some "one" ∧
      executed (plainRegistry .last) w ⟨0x1111, 1⟩ = some "two") ∧
    ∃ w, Transition.run (register (plainRegistry .first))
        { native := fun _ => none, attributes := {} }
        [(⟨0x1111, 1⟩, "one"), (⟨0x2222, 1⟩, "two")] = some w ∧
      w.attributes.handlers.lookup (MessageId.value ⟨0x2222, 1⟩) = some "two" ∧
      executed (plainRegistry .first) w ⟨0x2222, 1⟩ = some "one" :=
  ⟨⟨_, rfl, rfl, rfl⟩, ⟨_, rfl, rfl, rfl⟩⟩

end RpcServer

end OpenSomeIp
