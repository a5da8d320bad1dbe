import OpenSomeIp.Lib.Raising
import OpenSomeIp.Receiver
import OpenSomeIp.Rpc

set_option autoImplicit false

namespace OpenSomeIp

/-- A component with a part in the extension. -/
structure Component (ω β : Type) where
  native : ω
  running : Bool := false
  attributes : β

/-- A native method, if the extension is there, returns or raises an `Exception`. -/
def Caught {ω : Type} (method : Option (Method Exn ω Unit)) (s : ω) : Prop :=
  ∀ body exc, method = some body → (body s).1 = .error exc → exc.isException = true

/-- A native method raises nothing but `Exception`s: the bindings translate every C++ exception
into one. -/
def Translated {ω α : Type} (method : Method Exn ω α) : Prop :=
  method.RaisesOnly fun exc => exc.isException = true

theorem Translated.bind {ω α β : Type} {first : Method Exn ω α} {next : α → Method Exn ω β}
    (head : Translated first) (tail : ∀ value, Translated (next value)) :
    Translated (first >>= next) :=
  Method.RaisesOnly.bind head tail

/-- A method of a part of the extension, where there is an extension. -/
theorem Translated.map_map {δ μ ω : Type} {ext : Option δ} {part : δ → μ}
    {method : μ → Method Exn ω Unit}
    (translated : ∀ native, ext = some native → Translated (method (part native))) :
    ∀ body, (ext.map part).map method = some body → Translated body := by
  intro body present
  rw [Option.map_map] at present
  obtain ⟨native, found, rfl⟩ := Option.map_eq_some_iff.mp present
  exact translated native found

theorem Translated.caught {ω : Type} {method : Option (Method Exn ω Unit)}
    (translated : ∀ body, method = some body → Translated body) (s : ω) : Caught method s := by
  intro body exc present raised
  exact translated body present s exc raised

namespace Component

variable {ω β α : Type}

def onNative (body : Method Exn ω α) : Method Exn (Component ω β) α :=
  Method.zoom native (fun native self => { self with native := native }) body

/-- The statement `if self._cpp is not None: try: body() except Exception: pass`. -/
def tryNative (method : Option (Method Exn ω Unit)) : Method Exn (Component ω β) Unit :=
  match method with
  | none => pure ()
  | some body => RpcClient.suppress (onNative body)

/-- What the `start` methods have in common. -/
def start (initializeNative : Option (Method Exn ω Unit)) : Method Exn (Component ω β) Unit := do
  tryNative initializeNative
  Method.modify fun self => { self with running := true }

/-- What the `stop` methods have in common; they differ in the attributes they clear. -/
def stop (shutdown : Option (Method Exn ω Unit)) (clear : β → β) :
    Method Exn (Component ω β) Unit := do
  tryNative shutdown
  Method.modify fun self => { self with running := false, attributes := clear self.attributes }

/-- What the statement makes of the native call: an `Exception` is gone, the native state stays. -/
theorem tryNative_some (body : Method Exn ω Unit) (w : Component ω β) :
    tryNative (some body) w =
      (match (body w.native).1 with
        | .ok () => .ok ()
        | .error exc => if exc.isException then .ok () else .error exc,
        { w with native := (body w.native).2 }) := by
  cases ran : body w.native with
  | mk result native =>
      have zoomed : onNative body w = (result, { w with native := native }) := by
        simp only [onNative, Method.zoom_apply, ran]
      cases result with
      | ok value => exact Method.tryExcept_of_ok zoomed _
      | error exc =>
          rw [tryNative, RpcClient.suppress, Method.tryExcept_of_error zoomed]
          by_cases kind : exc.isException = true
          · simp only [if_pos kind]
            rfl
          · simp only [if_neg kind]
            rfl

theorem tryNative_of_caught {method : Option (Method Exn ω Unit)} {w : Component ω β}
    (caught : Caught method w.native) :
    ∃ native, tryNative method w = (.ok (), { w with native := native }) := by
  cases method with
  | none => exact ⟨w.native, rfl⟩
  | some body =>
      refine ⟨(body w.native).2, ?_⟩
      rw [tryNative_some]
      cases outcome : (body w.native).1 with
      | ok value => rfl
      | error exc =>
          have kind := caught body exc rfl outcome
          simp only [if_pos kind]

theorem tryNative_of_uncaught {method : Option (Method Exn ω Unit)} {w : Component ω β}
    (uncaught : ¬ Caught method w.native) :
    ∃ native exc, tryNative method w = (.error exc, { w with native := native }) := by
  simp only [Caught, not_forall] at uncaught
  obtain ⟨body, exc, rfl, raised, kind⟩ := uncaught
  refine ⟨(body w.native).2, exc, ?_⟩
  rw [tryNative_some, raised]
  simp only [if_neg kind]

/-- Caught or not, the guarded call leaves the native state of the call. -/
theorem tryNative_native (body : Method Exn ω Unit) (w : Component ω β) :
    (tryNative (some body) w).2.native = (body w.native).2 := by
  rw [tryNative_some]

theorem tryNative_then_native (body : Method Exn ω Unit) (next : Component ω β → Component ω β)
    (same : ∀ u, (next u).native = u.native) (w : Component ω β) :
    ((do
      tryNative (some body)
      Method.modify next : Method Exn (Component ω β) Unit) w).2.native = (body w.native).2 := by
  have left := tryNative_native body w
  cases tried : tryNative (some body) w with
  | mk result u =>
      rw [tried] at left
      cases result with
      | ok value =>
          rw [Method.bind_of_ok tried, Method.modify_apply, same]
          exact left
      | error exc =>
          rw [Method.bind_of_error tried]
          exact left

/-- A guarded native call and an update of the attributes behind it change no running flag. -/
theorem tryNative_then_running (method : Option (Method Exn ω Unit)) (update : β → β)
    (w : Component ω β) :
    ((do
      tryNative method
      Method.modify fun self => { self with attributes := update self.attributes } :
        Method Exn (Component ω β) Unit) w).2.running = w.running := by
  by_cases caught : Caught method w.native
  · obtain ⟨native, tried⟩ := tryNative_of_caught caught
    rw [Method.bind_of_ok tried, Method.modify_apply]
  · obtain ⟨native, exc, tried⟩ := tryNative_of_uncaught caught
    rw [Method.bind_of_error tried]

theorem tryNative_then_returns {method : Option (Method Exn ω Unit)}
    (translated : ∀ body, method = some body → Translated body) (update : β → β)
    (w : Component ω β) :
    ∃ u, (do
      tryNative method
      Method.modify fun self => { self with attributes := update self.attributes } :
        Method Exn (Component ω β) Unit) w = (.ok (), u) := by
  obtain ⟨native, tried⟩ := tryNative_of_caught (Translated.caught translated w.native)
  rw [Method.bind_of_ok tried, Method.modify_apply]
  exact ⟨_, rfl⟩

section Start

variable {initializeNative : Option (Method Exn ω Unit)} {w : Component ω β}

theorem start_of_caught (caught : Caught initializeNative w.native) :
    ∃ native, start initializeNative w = (.ok (), { w with native := native, running := true }) := by
  obtain ⟨native, tried⟩ := tryNative_of_caught caught
  refine ⟨native, ?_⟩
  rw [start, Method.bind_of_ok tried, Method.modify_apply]

/-- A `BaseException` of the native method leaves the component as it was. -/
theorem start_of_uncaught (uncaught : ¬ Caught initializeNative w.native) :
    ∃ native exc, start initializeNative w = (.error exc, { w with native := native }) := by
  obtain ⟨native, exc, tried⟩ := tryNative_of_uncaught uncaught
  refine ⟨native, exc, ?_⟩
  rw [start, Method.bind_of_error tried]

theorem start_running_of_ok (returned : (start initializeNative w).1 = .ok ()) :
    (start initializeNative w).2.running = true := by
  by_cases caught : Caught initializeNative w.native
  · obtain ⟨native, ran⟩ := start_of_caught caught
    rw [ran]
  · obtain ⟨native, exc, ran⟩ := start_of_uncaught caught
    rw [ran] at returned
    cases returned

/-- No start takes a component out of the running state. -/
theorem start_keeps (running : w.running = true) :
    (start initializeNative w).2.running = true := by
  by_cases caught : Caught initializeNative w.native
  · obtain ⟨native, ran⟩ := start_of_caught caught
    rw [ran]
  · obtain ⟨native, exc, ran⟩ := start_of_uncaught caught
    rw [ran]
    exact running

theorem start_attributes : (start initializeNative w).2.attributes = w.attributes := by
  by_cases caught : Caught initializeNative w.native
  · obtain ⟨native, ran⟩ := start_of_caught caught
    rw [ran]
  · obtain ⟨native, exc, ran⟩ := start_of_uncaught caught
    rw [ran]

theorem start_native (body : Method Exn ω Unit) :
    (start (some body) w).2.native = (body w.native).2 :=
  tryNative_then_native body (fun self => { self with running := true }) (fun _ => rfl) w

/-- A stopped component runs after a start that nothing broke off. -/
theorem start_running_iff (stopped : w.running = false) :
    (start initializeNative w).2.running = true ↔ Caught initializeNative w.native := by
  by_cases caught : Caught initializeNative w.native
  · obtain ⟨native, ran⟩ := start_of_caught caught
    rw [ran]
    exact iff_of_true rfl caught
  · obtain ⟨native, exc, ran⟩ := start_of_uncaught caught
    rw [ran]
    apply iff_of_false _ caught
    rw [stopped]
    exact Bool.false_ne_true

end Start

section Stop

variable {shutdown : Option (Method Exn ω Unit)} {clear : β → β} {w : Component ω β}

theorem stop_of_caught (caught : Caught shutdown w.native) :
    ∃ native, stop shutdown clear w =
      (.ok (), { native := native, running := false, attributes := clear w.attributes }) := by
  obtain ⟨native, tried⟩ := tryNative_of_caught caught
  refine ⟨native, ?_⟩
  rw [stop, Method.bind_of_ok tried, Method.modify_apply]

theorem stop_of_uncaught (uncaught : ¬ Caught shutdown w.native) :
    ∃ native exc, stop shutdown clear w = (.error exc, { w with native := native }) := by
  obtain ⟨native, exc, tried⟩ := tryNative_of_uncaught uncaught
  refine ⟨native, exc, ?_⟩
  rw [stop, Method.bind_of_error tried]

theorem stop_native (body : Method Exn ω Unit) :
    (stop (some body) clear w).2.native = (body w.native).2 :=
  tryNative_then_native body
    (fun self => { self with running := false, attributes := clear self.attributes })
    (fun _ => rfl) w

end Stop

end Component

end OpenSomeIp
