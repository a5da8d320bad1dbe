import OpenSomeIp.Identifiers
import OpenSomeIp.Lib.Sequence
import OpenSomeIp.ReceiverHandout

set_option autoImplicit false

namespace OpenSomeIp

/-! ### What a discovery report says -/

/-- What the code reads of the native `ServiceInstance`. -/
structure CppServiceInstance where
  serviceId : UInt16
  instanceId : UInt16
  majorVersion : UInt8
  minorVersion : UInt32
  deriving DecidableEq, Repr

def fromCppServiceInstance (cppSvc : CppServiceInstance) : ServiceInstance where
  serviceId := cppSvc.serviceId.toNat
  instanceId := cppSvc.instanceId.toNat
  majorVersion := cppSvc.majorVersion.toNat
  minorVersion := cppSvc.minorVersion.toNat

/-- What the native client passes to the callback of a `find_service`. -/
inductive Found where
  | services (found : List CppServiceInstance)
  | single (found : CppServiceInstance)
  deriving DecidableEq, Repr

/-- The list `found if isinstance(found, (list, tuple)) else [found]`. -/
def Found.list : Found → List CppServiceInstance
  | .services found => found
  | .single found => [found]

namespace ServiceInstance

def repr (service : ServiceInstance) : String :=
  "ServiceInstance(service=" ++ hexOfInt 4 service.serviceId ++ ", instance=" ++
    hexOfInt 4 service.instanceId ++ ", v" ++ toString service.majorVersion ++ "." ++
    toString service.minorVersion ++ ")"

/-- The message `Message(payload=repr(py_svc).encode())`. -/
def message (service : ServiceInstance) : Message where
  payload := service.repr.toUTF8.data.toList

/-- A text with four fields, the first two of which end in a comma and the third in a dot. -/
theorem fields_injective {front second third dot back : String} {second' third' : List Char}
    (comma : second.toList = ',' :: second') (comma' : third.toList = ',' :: third')
    (point : dot.toList = ['.']) {a b c d a' b' c' d' : String}
    (cleanA : ',' ∉ a.toList) (cleanA' : ',' ∉ a'.toList) (cleanB : ',' ∉ b.toList)
    (cleanB' : ',' ∉ b'.toList) (cleanC : '.' ∉ c.toList) (cleanC' : '.' ∉ c'.toList)
    (same : front ++ a ++ second ++ b ++ third ++ c ++ dot ++ d ++ back =
      front ++ a' ++ second ++ b' ++ third ++ c' ++ dot ++ d' ++ back) :
    a = a' ∧ b = b' ∧ c = c' ∧ d = d' := by
  have texts := congrArg String.toList same
  simp only [String.toList_append, comma, comma', point, List.append_assoc, List.cons_append,
    List.nil_append] at texts
  obtain ⟨one, texts⟩ := Numerals.field_injective cleanA cleanA' (List.append_cancel_left texts)
  obtain ⟨two, texts⟩ := Numerals.field_injective cleanB cleanB' (List.append_cancel_left texts)
  obtain ⟨three, texts⟩ := Numerals.field_injective cleanC cleanC' (List.append_cancel_left texts)
  have four := List.append_cancel_right texts
  exact ⟨String.toList_injective one, String.toList_injective two, String.toList_injective three,
    String.toList_injective four⟩

theorem repr_injective : Function.Injective ServiceInstance.repr := by
  intro a b same
  obtain ⟨service, instance_, major, minor⟩ := fields_injective rfl rfl rfl comma_notMem_hexOfInt
    comma_notMem_hexOfInt comma_notMem_hexOfInt comma_notMem_hexOfInt (notMem_decimal (by decide) (by decide))
    (notMem_decimal (by decide) (by decide)) same
  cases a
  cases b
  rw [ServiceInstance.mk.injEq]
  exact ⟨hexOfInt_injective 4 service, hexOfInt_injective 4 instance_, decimal_injective major,
    decimal_injective minor⟩

/-- What a consumer reads says which service was found. -/
theorem message_injective : Function.Injective ServiceInstance.message := by
  intro a b same
  apply repr_injective
  have payloads : a.repr.toUTF8.data.toList = b.repr.toUTF8.data.toList :=
    congrArg Message.payload same
  apply String.toByteArray_inj.mp
  exact ByteArray.ext (Array.toList_inj.mp payloads)

end ServiceInstance

/-! ### A program with an SD client -/

/-- A callback of the application; it may raise. -/
abbrev OnService (χ : Type) : Type := ServiceInstance → Method Exn χ Unit

/-- The client, the callbacks passed to `find` in the order of its receivers, the variables of
the application, and, for each `put` of a report so far, the receiver and the service. -/
structure SdProgram (ω χ : Type) where
  component : Component ω SdClientAttributes
  callbacks : List (Option (OnService χ)) := []
  app : χ
  reports : List (Nat × ServiceInstance) := []

inductive SdProgramAct (χ : Type) where
  | start
  | stop
  | find (service : ServiceInstance) (callback : Option (OnService χ))
  | report (number : Nat) (found : Found)

theorem UnboundedReceiver.close_items {α : Type} (r : UnboundedReceiver α) :
    r.close.items = r.items ++ [.sentinel] := by
  rw [items, close_world, (ReceiverWorld.deliver_frame _ _ _).1]
  rfl

/-- However the native call ends, there is a new receiver, and it is in the slot. -/
theorem SdClient.find_attributes {ω : Type} (client : SdClient ω) (service : ServiceInstance)
    (w : Component ω SdClientAttributes) : (client.find service w).2.attributes =
      { receivers := w.attributes.receivers ++ [.new]
        findReceiver := some w.attributes.receivers.length } := by
  have kept (v : Component ω SdClientAttributes) :
      (Component.tryNative (client.cpp.map fun cpp => cpp.findService service.serviceId)
        v).2.attributes = v.attributes := by
    cases client.cpp with
    | none => rfl
    | some cpp =>
        rw [Option.map_some, Component.tryNative_some]
  rw [find, Method.bind_of_ok (Method.get_apply w), Method.bind_of_ok (Method.modify_apply _ w),
    Method.bind_pure_state, kept]

namespace SdProgram

variable {ω χ : Type}

def receivers (s : SdProgram ω χ) : List (UnboundedReceiver Message) :=
  s.component.attributes.receivers

def setReceivers (receivers : List (UnboundedReceiver Message)) (s : SdProgram ω χ) :
    SdProgram ω χ :=
  { s with component := { s.component with
      attributes := { s.component.attributes with receivers := receivers } } }

/-- The statement `receiver.put(msg)` of the receiver of that number. -/
def put (number : Nat) (service : ServiceInstance) (s : SdProgram ω χ) : SdProgram ω χ :=
  { s.setReceivers (s.receivers.modify number (UnboundedReceiver.put service.message)) with
    reports := s.reports ++ [(number, service)] }

/-- The statement `if callback is not None: callback(py_svc)`. -/
def call (callback : Option (OnService χ)) (service : ServiceInstance) :
    Method Exn (SdProgram ω χ) Unit :=
  match callback with
  | none => pure ()
  | some body => Method.zoom app (fun app s => { s with app := app }) (body service)

/-- One turn of the loop of `_on_found`. -/
def tell (number : Nat) (callback : Option (OnService χ)) (cppSvc : CppServiceInstance) :
    Method Exn (SdProgram ω χ) Unit := do
  Method.modify (put number (fromCppServiceInstance cppSvc))
  call callback (fromCppServiceInstance cppSvc)

/-- The closure `_on_found` over its `receiver`, by number, and its `callback`. -/
def onFound (number : Nat) (callback : Option (OnService χ)) (found : Found) :
    Method Exn (SdProgram ω χ) Unit :=
  Method.inOrder (found.list.map (tell number callback))

/-- The native client may call any `_on_found` that it was passed, at any time. -/
def step (client : SdClient ω) (s : SdProgram ω χ) : SdProgramAct χ → Option (SdProgram ω χ)
  | .start => some { s with component := (client.start s.component).2 }
  | .stop => some { s with component := (client.stop s.component).2 }
  | .find service callback => some { s with
      component := (client.find service s.component).2
      callbacks := s.callbacks ++ [callback] }
  | .report number found =>
      if client.cpp.isSome then
        s.callbacks[number]?.map fun callback => (onFound number callback found s).2
      else none

def new (native : ω) (app : χ) : SdProgram ω χ where
  component := { native := native, attributes := {} }
  app := app

/-- The services reported to the receiver of that number. -/
def reportedTo (number : Nat) (s : SdProgram ω χ) : List ServiceInstance :=
  (s.reports.filter fun report => report.1 = number).map Prod.snd

/-- The receiver is open and holds all that was reported to it. -/
def Listens (number : Nat) (s : SdProgram ω χ) : Prop :=
  ∃ receiver, s.receivers[number]? = some receiver ∧ receiver.closed = false ∧
    messagesOf receiver.items = (s.reportedTo number).map ServiceInstance.message

/-- The receiver is closed and holds these messages. -/
def Ended (number : Nat) (kept : List Message) (s : SdProgram ω χ) : Prop :=
  ∃ receiver, s.receivers[number]? = some receiver ∧ receiver.closed = true ∧
    messagesOf receiver.items = kept

/-- A receiver for each callback, the last of them in the slot, and no report to any other. -/
structure Aligned (s : SdProgram ω χ) : Prop where
  count : s.receivers.length = s.callbacks.length
  slot : ∀ number, s.component.attributes.findReceiver = some number ↔
    number + 1 = s.callbacks.length
  beyond : ∀ number, s.callbacks.length ≤ number → s.reportedTo number = []

section Reports

variable {s : SdProgram ω χ} {number n : Nat} {service : ServiceInstance} {kept : List Message}

theorem put_getElem? : (s.put number service).receivers[n]? =
    (fun r => if number = n then UnboundedReceiver.put service.message r else r) <$>
      s.receivers[n]? :=
  List.getElem?_modify ..

theorem put_reportedTo : (s.put number service).reportedTo n =
    s.reportedTo n ++ if number = n then [service] else [] := by
  rw [reportedTo, put, List.filter_append, List.map_append, reportedTo]
  by_cases same : number = n
  · simp only [same, List.filter_singleton, decide_true, Bool.cond_true, if_pos,
      List.map_cons, List.map_nil]
  · simp only [same, List.filter_singleton, decide_false, Bool.cond_false, if_false,
      List.map_nil]

theorem put_listens (listens : s.Listens n) : (s.put number service).Listens n := by
  obtain ⟨receiver, found, open_, same⟩ := listens
  rw [Listens, put_getElem?, put_reportedTo, found]
  by_cases here : number = n
  · refine ⟨UnboundedReceiver.put service.message receiver, ?_, ?_, ?_⟩
    · simp only [here, if_pos, Option.map_eq_map, Option.map_some]
    · rw [UnboundedReceiver.closed, UnboundedReceiver.put_world_of_open open_]
      exact (ReceiverWorld.deliver_frame _ _ _).2.1
    · rw [UnboundedReceiver.put_items_of_open open_, messagesOf_append, same, if_pos here,
        List.map_append]
      rfl
  · refine ⟨receiver, ?_, open_, ?_⟩
    · simp only [here, if_false, Option.map_eq_map, Option.map_some]
    · rw [same, if_neg here, List.append_nil]

theorem put_ended (ended : s.Ended n kept) : (s.put number service).Ended n kept := by
  obtain ⟨receiver, found, closed, same⟩ := ended
  rw [Ended, put_getElem?, found]
  by_cases here : number = n
  · have world := UnboundedReceiver.put_world_of_closed closed service.message
    refine ⟨UnboundedReceiver.put service.message receiver, ?_, ?_, ?_⟩
    · simp only [here, if_pos, Option.map_eq_map, Option.map_some]
    · rw [UnboundedReceiver.closed, world]
      exact closed
    · rw [UnboundedReceiver.items, world]
      exact same
  · refine ⟨receiver, ?_, closed, same⟩
    simp only [here, if_false, Option.map_eq_map, Option.map_some]

theorem put_aligned (inside : number < s.callbacks.length) (aligned : s.Aligned) :
    (s.put number service).Aligned where
  count := (List.length_modify ..).trans aligned.count
  slot := aligned.slot
  beyond n out := by
    have other : number ≠ n := by
      intro same
      change s.callbacks.length ≤ n at out
      omega
    rw [put_reportedTo, if_neg other, List.append_nil]
    exact aligned.beyond n out

/-- The calls of a callback, in their order. -/
def calls (callback : Option (OnService χ)) (services : List ServiceInstance) : Method Exn χ Unit :=
  Method.inOrder (services.map (callback.getD fun _ => pure ()))

/-- What a report comes to: all its services are put into the receiver and then shown to the
callback, one after the other, up to and including the first that the callback raises on. -/
inductive Told (number : Nat) (callback : Option (OnService χ)) (services : List ServiceInstance)
    (s u : SdProgram ω χ) : Prop
  | all (returned : calls callback services s.app = (.ok (), u.app))
      (reports : u.reports = s.reports ++ services.map (number, ·))
  | broken (front back : List ServiceInstance) (last : ServiceInstance) (app : χ) (exc : Exn)
      (split : services = front ++ last :: back)
      (returned : calls callback front s.app = (.ok (), app))
      (raised : calls callback [last] app = (.error exc, u.app))
      (reports : u.reports = s.reports ++ (front ++ [last]).map (number, ·))

theorem call_apply (callback : Option (OnService χ)) (s : SdProgram ω χ) :
    call callback service s =
      (((callback.getD fun _ => pure ()) service s.app).1,
        { s with app := ((callback.getD fun _ => pure ()) service s.app).2 }) := by
  cases callback with
  | none => rfl
  | some body => rfl

theorem tell_apply (number : Nat) (callback : Option (OnService χ)) (cppSvc : CppServiceInstance)
    (s : SdProgram ω χ) : tell number callback cppSvc s =
      call callback (fromCppServiceInstance cppSvc) (s.put number (fromCppServiceInstance cppSvc)) :=
  rfl

/-- By induction on what is left of the report. -/
theorem told (number : Nat) (callback : Option (OnService χ)) (found : List CppServiceInstance)
    (s : SdProgram ω χ) : Told number callback (found.map fromCppServiceInstance) s
      (Method.inOrder (found.map (tell number callback)) s).2 := by
  induction found generalizing s with
  | nil => exact .all rfl (List.append_nil _).symm
  | cons cppSvc rest ih =>
      have turn := (tell_apply number callback cppSvc s).trans (call_apply callback _)
      cases ran : (callback.getD fun _ => pure ()) (fromCppServiceInstance cppSvc) s.app with
      | mk result app =>
          have same : (s.put number (fromCppServiceInstance cppSvc)).app = s.app := rfl
          rw [same, ran] at turn
          cases result with
          | error exc =>
              rw [List.map_cons, List.map_cons, Method.inOrder_cons_of_error turn]
              refine .broken [] (rest.map fromCppServiceInstance) (fromCppServiceInstance cppSvc)
                s.app exc rfl rfl ?_ rfl
              exact Method.inOrder_cons_of_error ran []
          | ok value =>
              rw [List.map_cons, List.map_cons, Method.inOrder_cons_of_ok turn]
              cases ih { s.put number (fromCppServiceInstance cppSvc) with app := app } with
              | all returned reports =>
                  refine .all ?_ ?_
                  · exact (Method.inOrder_cons_of_ok ran _).trans returned
                  · exact reports.trans (List.append_assoc ..)
              | broken front back last middle exc split returned raised reports =>
                  refine .broken (fromCppServiceInstance cppSvc :: front) back last middle exc ?_ ?_
                    raised ?_
                  · rw [split]
                    rfl
                  · exact (Method.inOrder_cons_of_ok ran _).trans returned
                  · exact reports.trans (List.append_assoc ..)

/-- What every `put` of a report keeps, and what does not look at the application. -/
theorem onFound_keeps {holds : SdProgram ω χ → Prop} {callback : Option (OnService χ)}
    (puts : ∀ service v, holds v → holds (v.put number service))
    (blind : ∀ v app, holds v → holds { v with app := app }) (found : Found) {s : SdProgram ω χ}
    (before : holds s) : holds (onFound number callback found s).2 := by
  refine Method.inOrder_keeps ?_ before
  intro body member v holds_
  obtain ⟨cppSvc, -, rfl⟩ := List.mem_map.mp member
  rw [tell_apply, call_apply]
  exact blind _ _ (puts _ v holds_)

end Reports

section Steps

variable {client : SdClient ω} {s t : SdProgram ω χ}

/-- What an act does to the component, the callbacks and the reports. -/
inductive Moves (client : SdClient ω) (s : SdProgram ω χ) : SdProgramAct χ → SdProgram ω χ → Prop
  | start (component : Component ω SdClientAttributes)
      (same : component.attributes = s.component.attributes) :
      Moves client s .start { s with component := component }
  | stop (component : Component ω SdClientAttributes)
      (closes : component.attributes = SdClient.closeFind s.component.attributes) :
      Moves client s .stop { s with component := component }
  | find (service : ServiceInstance) (callback : Option (OnService χ))
      (component : Component ω SdClientAttributes)
      (handed : component.attributes =
        { receivers := s.receivers ++ [.new], findReceiver := some s.receivers.length }) :
      Moves client s (.find service callback)
        { s with component := component, callbacks := s.callbacks ++ [callback] }
  | report (number : Nat) (found : Found) (callback : Option (OnService χ))
      (passed : s.callbacks[number]? = some callback) :
      Moves client s (.report number found) (onFound number callback found s).2

theorem moves_of_step (stops : ∀ body, client.cpp.map (·.shutdown) = some body → Translated body)
    {act : SdProgramAct χ} (stepped : s.step client act = some t) : Moves client s act t := by
  cases act with
  | start =>
      obtain rfl := Option.some.inj stepped
      exact .start _ Component.start_attributes
  | stop =>
      obtain rfl := Option.some.inj stepped
      obtain ⟨native, ran⟩ : ∃ native, client.stop s.component = (.ok (),
          { native := native, running := false
            attributes := SdClient.closeFind s.component.attributes }) :=
        Component.stop_of_caught (Translated.caught stops s.component.native)
      rw [ran]
      exact .stop _ rfl
  | find service callback =>
      obtain rfl := Option.some.inj stepped
      exact .find service callback _ (SdClient.find_attributes client service s.component)
  | report number found =>
      simp only [step] at stepped
      split at stepped
      · obtain ⟨callback, passed, rfl⟩ := Option.map_eq_some_iff.mp stepped
        exact .report number found callback passed
      · cases stepped

theorem closeFind_receivers (self : SdClientAttributes) (n : Nat) :
    (SdClient.closeFind self).receivers[n]? =
      (fun r => if self.findReceiver = some n then UnboundedReceiver.close r else r) <$>
        self.receivers[n]? := by
  cases slot : self.findReceiver with
  | none =>
      simp only [SdClient.closeFind, slot, reduceCtorEq, if_false, Option.map_eq_map,
        Option.map_id_fun', id_eq]
  | some number =>
      simp only [SdClient.closeFind, slot, Option.some.injEq]
      exact List.getElem?_modify ..

theorem closeFind_frame (self : SdClientAttributes) :
    (SdClient.closeFind self).findReceiver = self.findReceiver ∧
      (SdClient.closeFind self).receivers.length = self.receivers.length := by
  cases slot : self.findReceiver with
  | none =>
      simp only [SdClient.closeFind, slot]
      exact ⟨trivial, trivial⟩
  | some number =>
      simp only [SdClient.closeFind, slot, List.length_modify]
      exact ⟨trivial, trivial⟩

theorem aligned_moves {act : SdProgramAct χ} (aligned : s.Aligned) (moves : Moves client s act t) :
    t.Aligned := by
  cases moves with
  | start component same =>
      refine ⟨?_, ?_, aligned.beyond⟩
      · simp only [receivers, same]
        exact aligned.count
      · simp only [same]
        exact aligned.slot
  | stop component closes =>
      obtain ⟨slot, count⟩ := closeFind_frame s.component.attributes
      refine ⟨?_, ?_, aligned.beyond⟩
      · simp only [receivers, closes, count]
        exact aligned.count
      · simp only [closes, slot]
        exact aligned.slot
  | find service callback component handed =>
      refine ⟨?_, ?_, ?_⟩
      · simp only [receivers, handed, List.length_append, List.length_singleton]
        exact congrArg (· + 1) aligned.count
      · intro number
        have count := aligned.count
        simp only [handed, Option.some.injEq, List.length_append, List.length_singleton]
        omega
      · intro number out
        rw [List.length_append, List.length_singleton] at out
        exact aligned.beyond number (Nat.le_of_succ_le out)
  | report number found callback passed =>
      have inside := (List.getElem?_eq_some_iff.mp passed).1
      have both : (onFound number callback found s).2.Aligned ∧
          (onFound number callback found s).2.callbacks = s.callbacks := by
        refine @onFound_keeps ω χ number (fun v => v.Aligned ∧ v.callbacks = s.callbacks) callback
          ?_ ?_ found s ⟨aligned, rfl⟩
        · rintro service v ⟨before, same⟩
          exact ⟨put_aligned (same ▸ inside) before, same⟩
        · rintro v app ⟨before, same⟩
          exact ⟨⟨before.count, before.slot, before.beyond⟩, same⟩
      exact both.1

/-- Nothing is reopened, and nothing is put into a receiver that is closed. -/
theorem ended_moves {act : SdProgramAct χ} {number : Nat} {kept : List Message}
    (ended : s.Ended number kept) (moves : Moves client s act t) : t.Ended number kept := by
  cases moves with
  | start component same =>
      simp only [Ended, receivers, same]
      exact ended
  | stop component closes =>
      obtain ⟨receiver, found, closed, same⟩ := ended
      simp only [Ended, receivers, closes, closeFind_receivers]
      rw [receivers] at found
      rw [found]
      by_cases slot : s.component.attributes.findReceiver = some number
      · refine ⟨receiver.close, ?_, UnboundedReceiver.close_closed receiver, ?_⟩
        · simp only [slot, if_true, Option.map_eq_map, Option.map_some]
        · rw [UnboundedReceiver.close_items, messagesOf_append, same]
          exact List.append_nil kept
      · refine ⟨receiver, ?_, closed, same⟩
        simp only [slot, if_false, Option.map_eq_map, Option.map_some]
  | find service callback component handed =>
      obtain ⟨receiver, found, closed, same⟩ := ended
      refine ⟨receiver, ?_, closed, same⟩
      simp only [receivers, handed]
      exact (List.getElem?_append_left (List.getElem?_eq_some_iff.mp found).1).trans found
  | report other found callback passed =>
      exact onFound_keeps (fun _ _ => put_ended) (fun _ _ before => before) found ended

/-- Every act but the `stop` that finds it in the slot leaves a receiver listening. -/
theorem listens_moves {act : SdProgramAct χ} {number : Nat} (aligned : s.Aligned)
    (listens : s.Listens number) (other : act = .stop → s.callbacks.length ≠ number + 1)
    (moves : Moves client s act t) : t.Listens number := by
  cases moves with
  | start component same =>
      simp only [Listens, receivers, same]
      exact listens
  | stop component closes =>
      obtain ⟨receiver, found, open_, same⟩ := listens
      refine ⟨receiver, ?_, open_, same⟩
      have slot : s.component.attributes.findReceiver ≠ some number :=
        fun here => other rfl ((aligned.slot number).mp here).symm
      simp only [receivers, closes, closeFind_receivers, slot, if_false]
      rw [receivers] at found
      rw [found]
      rfl
  | find service callback component handed =>
      obtain ⟨receiver, found, open_, same⟩ := listens
      refine ⟨receiver, ?_, open_, same⟩
      simp only [receivers, handed]
      exact (List.getElem?_append_left (List.getElem?_eq_some_iff.mp found).1).trans found
  | report other found callback passed =>
      exact onFound_keeps (fun _ _ => put_listens) (fun _ _ before => before) found listens

/-- The receiver that is handed out listens. -/
theorem listens_of_find {act : SdProgramAct χ} (aligned : s.Aligned)
    (moves : Moves client s act t) {number : Nat} (out : s.callbacks.length ≤ number)
    (inside : number < t.callbacks.length) : t.Listens number := by
  cases moves with
  | start component same => exact absurd inside (Nat.not_lt.mpr out)
  | stop component closes => exact absurd inside (Nat.not_lt.mpr out)
  | report other found callback passed =>
      have same : (onFound other callback found s).2.callbacks = s.callbacks :=
        @onFound_keeps ω χ other (fun v => v.callbacks = s.callbacks) callback
          (fun _ _ before => before) (fun _ _ before => before) found s rfl
      rw [same] at inside
      exact absurd inside (Nat.not_lt.mpr out)
  | find service callback component handed =>
      rw [List.length_append, List.length_singleton] at inside
      have count := aligned.count
      obtain rfl : number = s.receivers.length := by omega
      refine ⟨.new, ?_, UnboundedReceiver.new_closed, ?_⟩
      · simp only [receivers, handed, List.getElem?_concat_length]
      · have nothing : reportedTo s.receivers.length
            { s with component := component, callbacks := s.callbacks ++ [callback] } = [] :=
          aligned.beyond _ out
        rw [nothing]
        rfl

end Steps

/-- As long as no `stop` finds it in the slot, a receiver listens. -/
def Spares (number : Nat) (s : SdProgram ω χ) (act : SdProgramAct χ) : Prop :=
  match act with
  | .stop => s.callbacks.length ≠ number + 1
  | _ => True

section Runs

variable {client : SdClient ω} {native : ω} {app : χ} {acts : List (SdProgramAct χ)}
  {t : SdProgram ω χ}

theorem aligned_new (native : ω) (app : χ) : (new native app).Aligned := by
  refine ⟨rfl, fun number => ?_, fun _ _ => rfl⟩
  exact iff_of_false (Option.some_ne_none number ∘ Eq.symm) (Nat.succ_ne_zero number)

theorem aligned_run (stops : ∀ body, client.cpp.map (·.shutdown) = some body → Translated body)
    (ran : Transition.run (step client) (new native app) acts = some t) : t.Aligned := by
  have kept (s : SdProgram ω χ) (act : SdProgramAct χ) (u : SdProgram ω χ) (aligned : s.Aligned)
      (stepped : s.step client act = some u) : u.Aligned :=
    aligned_moves aligned (moves_of_step stops stepped)
  exact Transition.invariant_run kept (aligned_new native app) ran

theorem listens_run (stops : ∀ body, client.cpp.map (·.shutdown) = some body → Translated body)
    {number : Nat} (spared : Transition.Along (step client) (Spares number) (new native app) acts)
    (ran : Transition.run (step client) (new native app) acts = some t)
    (handed : number < t.callbacks.length) : t.Listens number := by
  have kept (s : SdProgram ω χ) (act : SdProgramAct χ) (u : SdProgram ω χ)
      (before : s.Aligned ∧ (number < s.callbacks.length → s.Listens number))
      (spares : Spares number s act) (stepped : s.step client act = some u) :
      u.Aligned ∧ (number < u.callbacks.length → u.Listens number) := by
    have moves := moves_of_step stops stepped
    refine ⟨aligned_moves before.1 moves, fun inside => ?_⟩
    by_cases out : s.callbacks.length ≤ number
    · exact listens_of_find before.1 moves out inside
    · refine listens_moves before.1 (before.2 (Nat.lt_of_not_le out)) ?_ moves
      rintro rfl
      exact spares
  have first : (new native app : SdProgram ω χ).Aligned ∧
      (number < (new native app : SdProgram ω χ).callbacks.length →
        (new native app : SdProgram ω χ).Listens number) :=
    ⟨aligned_new native app, fun inside => absurd inside (Nat.not_lt_zero number)⟩
  exact (Transition.invariant_along kept spared first ran).2 handed

/-- The `stop` that finds it in the slot ends it with what it holds then. -/
theorem ended_of_stop (stops : ∀ body, client.cpp.map (·.shutdown) = some body → Translated body)
    {s u : SdProgram ω χ} (aligned : s.Aligned) {number : Nat} (listens : s.Listens number)
    (last : s.callbacks.length = number + 1) (stepped : s.step client .stop = some u) :
    u.Ended number ((s.reportedTo number).map ServiceInstance.message) := by
  obtain ⟨receiver, found, -, same⟩ := listens
  have slot := (aligned.slot number).mpr last.symm
  cases moves_of_step stops stepped with
  | stop component closes =>
      refine ⟨receiver.close, ?_, UnboundedReceiver.close_closed receiver, ?_⟩
      · simp only [receivers, closes, closeFind_receivers, slot, if_true]
        rw [receivers] at found
        rw [found]
        rfl
      · rw [UnboundedReceiver.close_items, messagesOf_append, same]
        exact List.append_nil _

/-- Every receiver that `find` hands out gets what is reported to it, each service as a message
that no other service has, until the first `stop` that comes while it is the last one handed
out; that `stop` closes it, and it gets nothing more. A report reaches a receiver, and the
callback of its `find`, service by service up to the first that the callback raises on, and goes
to the callback still when the receiver is closed. -/
theorem finding_sessions (stops : ∀ body, client.cpp.map (·.shutdown) = some body → Translated body)
    (ran : Transition.run (step client) (new native app) acts = some t) :
    Function.Injective ServiceInstance.message ∧
    (∀ number, Transition.Along (step client) (Spares number) (new native app) acts →
      number < t.callbacks.length → t.Listens number) ∧
    (∀ front back s number, acts = front ++ .stop :: back →
      Transition.run (step client) (new native app) front = some s →
      Transition.Along (step client) (Spares number) (new native app) front →
      s.callbacks.length = number + 1 →
        t.Ended number ((s.reportedTo number).map ServiceInstance.message)) ∧
    ∀ front back s number found, acts = front ++ .report number found :: back →
      Transition.run (step client) (new native app) front = some s →
        ∃ callback u, s.callbacks[number]? = some callback ∧
          s.step client (.report number found) = some u ∧
          Told number callback (found.list.map fromCppServiceInstance) s u := by
  refine ⟨ServiceInstance.message_injective, ?_, ?_, ?_⟩
  · intro number spared handed
    exact listens_run stops spared ran handed
  · rintro front back s number rfl before spared last
    rw [Transition.run_append, before, Option.bind_some] at ran
    obtain ⟨u, stepped, rest⟩ := Transition.run_cons_eq_some ran
    have listens := listens_run stops spared before (last ▸ Nat.lt_succ_self number)
    have ended := ended_of_stop stops (aligned_run stops before) listens last stepped
    have kept (v : SdProgram ω χ) (act : SdProgramAct χ) (w : SdProgram ω χ)
        (holds : v.Ended number ((s.reportedTo number).map ServiceInstance.message))
        (step_ : v.step client act = some w) :
        w.Ended number ((s.reportedTo number).map ServiceInstance.message) :=
      ended_moves holds (moves_of_step stops step_)
    exact Transition.invariant_run kept ended rest
  · rintro front back s number found rfl before
    rw [Transition.run_append, before, Option.bind_some] at ran
    obtain ⟨u, stepped, -⟩ := Transition.run_cons_eq_some ran
    cases moves_of_step stops stepped with
    | report _ _ callback passed => exact ⟨callback, _, passed, stepped, told number callback _ s⟩

/-- A callback that counts, and raises on the second service. -/
def wary : OnService Nat := fun _ count =>
  (if count = 1 then .error (.runtimeError "enough") else .ok (), count + 1)

/-- Three services are reported, and one again after the `stop`. -/
def wariness : List (SdProgramAct Nat) :=
  [.start, .find ⟨1, 1, 1, 0⟩ (some wary),
    .report 0 (.services [⟨1, 1, 1, 0⟩, ⟨1, 2, 1, 0⟩, ⟨1, 3, 1, 0⟩]), .stop,
    .report 0 (.single ⟨1, 4, 1, 0⟩)]

theorem finding_sessions_wary :
    ∃ t, Transition.run (step quietClient) (new () 0) wariness = some t ∧ t.app = 3 ∧
      t.Ended 0 [ServiceInstance.message ⟨1, 1, 1, 0⟩, ServiceInstance.message ⟨1, 2, 1, 0⟩] := by
  have returns (body : Method Exn Unit Unit) (is_ : some (pure ()) = some body) :
      Translated body := by
    obtain rfl := Option.some.inj is_
    exact Method.RaisesOnly.pure ()
  refine ⟨_, rfl, rfl, ?_⟩
  have sessions := @finding_sessions Unit Nat quietClient () 0 wariness _ returns rfl
  refine sessions.2.2.1 (wariness.take 3) (wariness.drop 4) _ 0 rfl rfl ?_ rfl
  exact ⟨trivial, fun _ _ => ⟨trivial, fun _ _ => ⟨trivial, fun _ _ => trivial⟩⟩⟩

end Runs

end SdProgram

end OpenSomeIp
