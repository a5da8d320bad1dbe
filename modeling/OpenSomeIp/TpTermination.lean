import OpenSomeIp.TpNative

set_option autoImplicit false

namespace OpenSomeIp

/-- With the loop bound that `send` computes, a native call for the message raises an
`Exception`; at an `mtu` of zero it is enough that the loop is reached, for the bound is a
division. -/
def NativeTp.Diverts {ω κ : Type} (native : NativeTp ω κ) (mtu : Int) (message : Message)
    (s : ω) : Prop :=
  let attempt := (native.attempt message (Int.fdiv message.payload.length mtu + 2).toNat s).1
  (mtu = 0 ∧ attempt.result.isSome = true) ∨
    ∃ exc, attempt.ending = .raised exc ∧ exc.isException = true

namespace TpManager

variable {τ ω κ : Type} {manager : TpManager τ ω κ} {message : Message}
variable {endpoint : Option Endpoint}

/-- The transport accepts every send. -/
def Accepts (manager : TpManager τ ω κ) : Prop :=
  ∀ message endpoint t, (manager.transportSend message endpoint t).1 = .ok ()

/-- The call comes to its end: it returns or raises. -/
def Ends (manager : TpManager τ ω κ) (message : Message) (endpoint : Option Endpoint)
    (w : TpWorld τ ω) : Prop :=
  ∃ fuel, (manager.send fuel message endpoint w).1 ≠ .ok none

theorem handOver_of_accepts (accepts : manager.Accepts) (message : Message) (w : TpWorld τ ω) :
    ∃ t, manager.handOver endpoint message w = (.ok (), { w with transport := t }) := by
  refine ⟨(manager.transportSend message endpoint w.transport).2, ?_⟩
  rw [handOver, onTransport, Method.zoom_apply, accepts]

/-- A turn of the loop over an accepting transport moves the offset, and nothing stops it. -/
theorem sendChunk_of_accepts (accepts : manager.Accepts) (offset : Int) (w : TpWorld τ ω) :
    ∃ u, manager.sendChunk message endpoint offset w = (.ok (offset + manager.mtu), u) := by
  obtain ⟨t, handed⟩ := @handOver_of_accepts _ _ _ _ endpoint accepts
    (segment message (pySlice message.payload offset (offset + manager.mtu))) w
  refine ⟨{ w with transport := t }, ?_⟩
  rw [sendChunk, Method.bind_of_ok handed, Method.pure_apply]

theorem sendChunks_of_turn {offset next : Int} (more : offset < message.payload.length)
    {w u : TpWorld τ ω} (turn : manager.sendChunk message endpoint offset w = (.ok next, u))
    (fuel : Nat) :
    manager.sendChunks message endpoint (fuel + 1) offset w =
      manager.sendChunks message endpoint fuel next u := by
  apply Method.whileLoop_of_ok _ turn
  rw [decide_eq_true_eq]
  exact more

/-- With an `mtu` that is not positive the offset never reaches the end of a payload. -/
theorem sendChunks_endless (accepts : manager.Accepts) (stuck : manager.mtu ≤ 0)
    (filled : 0 < message.payload.length) (fuel : Nat) {offset : Int} (behind : offset ≤ 0)
    (w : TpWorld τ ω) : (manager.sendChunks message endpoint fuel offset w).1 = .ok none := by
  induction fuel generalizing offset w with
  | zero => rfl
  | succ fuel ih =>
      obtain ⟨u, turn⟩ := @sendChunk_of_accepts _ _ _ _ message endpoint accepts offset w
      rw [sendChunks_of_turn (by omega) turn]
      exact ih (by omega) u

theorem sendPython_endless (accepts : manager.Accepts) (stuck : manager.mtu ≤ 0)
    (filled : message.payload ≠ []) (fuel : Nat) (w : TpWorld τ ω) :
    (manager.sendPython fuel message endpoint w).1 = .ok none := by
  have positive := List.length_pos_of_ne_nil filled
  have large : ¬ (message.payload.length : Int) ≤ manager.mtu := by omega
  have endless := @sendChunks_endless _ _ _ _ message endpoint accepts stuck positive fuel 0
    (Int.le_refl 0) w
  rw [sendPython, if_neg large, Method.bind_apply]
  cases looped : manager.sendChunks message endpoint fuel 0 w with
  | mk result u =>
      rw [looped] at endless
      have running : result = .ok none := endless
      rw [running]
      rfl

/-- With a positive `mtu`, or nothing to send, the path ends. -/
theorem sendPython_ends (fine : 1 ≤ manager.mtu ∨ message.payload = []) (w : TpWorld τ ω) :
    (manager.sendPython (message.payload.length + 1) message endpoint w).1 ≠ .ok none := by
  by_cases positive : 1 ≤ manager.mtu
  · have size : manager.mtu = (manager.mtu.toNat : Int) := by omega
    rw [sendPython_eq_sendAll (by omega) size message endpoint (Nat.lt_succ_self _)]
    intro endless
    cases ended : (manager.sendAll endpoint (pieces manager.mtu.toNat message) w).1 with
    | ok done =>
        rw [ended] at endless
        cases endless
    | error exc =>
        rw [ended] at endless
        cases endless
  · have empty : message.payload = [] := fine.resolve_left positive
    have nothing : message.payload.length = 0 := by rw [empty, List.length_nil]
    by_cases fits : (message.payload.length : Int) ≤ manager.mtu
    · rw [sendPython, if_pos fits, Method.bind_apply]
      split
      · intro endless
        cases endless
      · intro endless
        cases endless
    · have stopped : manager.sendChunks message endpoint (message.payload.length + 1) (0 : Nat) w =
          (.ok (some ((0 : Nat) : Int)), w) := sendChunks_of_le (by omega) endpoint _ w
      rw [Int.natCast_zero] at stopped
      rw [sendPython, if_neg fits, Method.bind_of_ok stopped]
      intro endless
      cases endless

section Native

variable {native : NativeTp ω κ}

/-- The loop over the segments raises what a native call raises, and nothing else. -/
theorem sendSegments_of_accepts (accepts : manager.Accepts)
    (zero_iff : ∀ result, native.int result = 0 ↔ result = .success) (transferId count : Nat)
    (w : TpWorld τ ω) :
    (manager.sendSegments native message endpoint transferId count w).1 =
      match (native.pull transferId count w.native).1.2 with
      | .raised exc => .error exc
      | _ => .ok () := by
  induction count generalizing w with
  | zero => rfl
  | succ count ih =>
      obtain ⟨t, how⟩ := sendSegments_cases manager zero_iff message endpoint transferId count w
      rcases how with ⟨exc, pulled, ran⟩ | ⟨result, pulled, ran⟩ | ⟨payload, pulled, ran⟩
      · rw [ran, pulled]
      · rw [ran, pulled]
      · obtain ⟨u, handed⟩ := @handOver_of_accepts _ _ _ _ endpoint accepts
          (segment message payload) { w with native := t }
        rw [ran, pulled, Method.bind_of_ok handed, ih]

/-- An `Exception` ends the `try` block exactly where the native layer diverts from it. -/
theorem sendNative_diverts_iff (accepts : manager.Accepts)
    (zero_iff : ∀ result, native.int result = 0 ↔ result = .success) (w : TpWorld τ ω) :
    (∃ exc, (manager.sendNative native message endpoint w).1 = .error exc ∧
        exc.isException = true) ↔
      native.Diverts manager.mtu message w.native := by
  obtain ⟨t, how⟩ := sendNative_cases manager native message endpoint w
  rcases how with ⟨exc, prepared, ran⟩ | ⟨prepared, ran⟩ | ⟨result, transferId, prepared, ran⟩
  · rw [ran, NativeTp.Diverts, prepared]
    simp
  · obtain ⟨u, handed⟩ := @handOver_of_accepts _ _ _ _ endpoint accepts message
      { w with native := t }
    rw [ran, handed, NativeTp.Diverts, prepared]
    simp
  · rw [ran, NativeTp.Diverts, prepared]
    by_cases zero : manager.mtu = 0
    · have undivided : floorDiv message.payload.length manager.mtu = .error .zeroDivisionError := by
        rw [floorDiv, if_pos zero]
      apply iff_of_true
      · refine ⟨.zeroDivisionError, ?_, rfl⟩
        rw [Method.bind_apply, Method.lift_apply, undivided]
      · exact .inl ⟨zero, rfl⟩
    · have divided : (Method.lift (floorDiv message.payload.length manager.mtu) :
          Method Exn (TpWorld τ ω) Int) { w with native := t } =
            (.ok (Int.fdiv message.payload.length manager.mtu), { w with native := t }) := by
        rw [Method.lift_apply, floorDiv, if_neg zero]
      rw [Method.bind_of_ok divided, sendSegments_of_accepts accepts zero_iff]
      dsimp only
      cases (native.pull transferId (Int.fdiv message.payload.length manager.mtu + 2).toNat
        t).1.2 with
      | raised exc => simp [zero]
      | whole => simp [zero]
      | refused result => simp [zero]
      | exhausted => simp [zero]

end Native

/-- Behind an `Exception` of the `try` block, `send` is its pure-Python path. -/
theorem send_of_raised {native : NativeTp ω κ} (present : manager.cpp = some native)
    {w u : TpWorld τ ω} {exc : Exn}
    (raised : manager.sendNative native message endpoint w = (.error exc, u))
    (caught : exc.isException = true) (fuel : Nat) :
    manager.send fuel message endpoint w = manager.sendPython fuel message endpoint u := by
  rw [send_eq_native present, raised]
  simp only [if_pos caught]

/-- Otherwise it ends with the `try` block. -/
theorem send_of_native {native : NativeTp ω κ} (present : manager.cpp = some native)
    {w : TpWorld τ ω}
    (calm : ¬ ∃ exc, (manager.sendNative native message endpoint w).1 = .error exc ∧
      exc.isException = true) (fuel : Nat) :
    (manager.send fuel message endpoint w).1 ≠ .ok none := by
  rw [send_eq_native present]
  cases ran : manager.sendNative native message endpoint w with
  | mk result u =>
      cases result with
      | ok value => exact nofun
      | error exc =>
          have uncaught : ¬ exc.isException = true := by
            intro caught
            exact calm ⟨exc, congrArg Prod.fst ran, caught⟩
          simp only [if_neg uncaught]
          exact nofun

/-- Over a transport that accepts every send, `send` comes to its end exactly if the `mtu` is
positive, the payload is empty, or the native part is there and does not divert into the loop. -/
theorem send_ends_iff (manager : TpManager τ ω κ) (accepts : manager.Accepts)
    (zero_iff : ∀ native, manager.cpp = some native → ∀ result,
      native.int result = 0 ↔ result = .success)
    (message : Message) (endpoint : Option Endpoint) (w : TpWorld τ ω) :
    manager.Ends message endpoint w ↔
      1 ≤ manager.mtu ∨ message.payload = [] ∨
        ∃ native, manager.cpp = some native ∧ ¬ native.Diverts manager.mtu message w.native := by
  have python (u : TpWorld τ ω) :
      (∃ fuel, (manager.sendPython fuel message endpoint u).1 ≠ .ok none) ↔
        1 ≤ manager.mtu ∨ message.payload = [] := by
    constructor
    · rintro ⟨fuel, ended⟩
      by_cases positive : 1 ≤ manager.mtu
      · exact .inl positive
      · by_cases empty : message.payload = []
        · exact .inr empty
        · exact absurd (sendPython_endless accepts (by omega) empty fuel u) ended
    · intro fine
      exact ⟨_, sendPython_ends fine u⟩
  cases present : manager.cpp with
  | none =>
      have path : ∀ fuel, manager.send fuel message endpoint w =
          manager.sendPython fuel message endpoint w := by
        intro fuel
        simp only [send, present]
      simp only [Ends, path, python, reduceCtorEq, false_and, exists_false, or_false]
  | some native =>
      have exactly := @sendNative_diverts_iff _ _ _ _ message endpoint native accepts
        (zero_iff native present) w
      by_cases diverts : native.Diverts manager.mtu message w.native
      · obtain ⟨exc, raised, caught⟩ := exactly.mpr diverts
        have path : ∀ fuel, manager.send fuel message endpoint w =
            manager.sendPython fuel message endpoint
              (manager.sendNative native message endpoint w).2 :=
          send_of_raised present (Prod.ext raised rfl) caught
        have stays : ¬ ∃ other, some native = some other ∧
            ¬ other.Diverts manager.mtu message w.native := by
          rintro ⟨other, same, calm⟩
          obtain rfl := Option.some.inj same
          exact calm diverts
        simp only [Ends, path, python, stays, or_false]
      · apply iff_of_true
        · exact ⟨0, send_of_native present (fun raised => diverts (exactly.mp raised)) 0⟩
        · exact .inr (.inr ⟨native, rfl, diverts⟩)

theorem takesAll_accepts (mtu : Int) (cpp : Option (NativeTp ω κ)) :
    ({ mtu := mtu, transportSend := accept, cpp := cpp } :
      TpManager (List (Message × Option Endpoint)) ω κ).Accepts := by
  intro message endpoint t
  rfl

/-- At a negative `mtu` the native path ends with the first segment, and so does `send`. -/
theorem send_ends_iff_segment :
    (nativeManager (-3) breakingTp).Ends { payload := [1, 2, 3] } none
      { transport := [], native := 0 } := by
  apply (send_ends_iff (nativeManager (-3) breakingTp) (takesAll_accepts (-3) (some breakingTp))
    ?_ { payload := [1, 2, 3] } none { transport := [], native := 0 }).mpr
  · refine .inr (.inr ⟨breakingTp, rfl, ?_⟩)
    rintro (⟨zero, -⟩ | ⟨exc, raised, -⟩)
    · cases zero
    · cases raised
  · intro native same
    obtain rfl : breakingTp = native := Option.some.inj same
    intro result
    cases result <;> decide

/-- One byte at an `mtu` of zero is sent in empty segments without an end. -/
theorem send_endless :
    ¬ ({ mtu := 0, transportSend := accept } :
      TpManager (List (Message × Option Endpoint)) Unit Unit).Ends { payload := [1] } none
        { transport := [], native := () } := by
  rintro ⟨fuel, ended⟩
  exact ended (sendPython_endless (takesAll_accepts 0 none) (Int.le_refl 0) (by decide) fuel _)

end TpManager

end OpenSomeIp
