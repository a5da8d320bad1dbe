import OpenSomeIp.Lib.Transition
import OpenSomeIp.Receiver

set_option autoImplicit false

namespace OpenSomeIp

/-- A receiver at work: the items its `put` and `close` calls handed in, in call
order, and how its `__next__` and `__anext__` calls ended, a message or
end-of-stream. -/
structure ReceiverSystem (α : Type) where
  world : ReceiverWorld α := {}
  accepted : List (Item α) := []
  returned : List (Item α) := []
  obtained : List (Item α) := []
  deriving DecidableEq, Repr

/-- What happens around a receiver, one call at a time. A call of `__anext__` has two
halves; `task` names the call. -/
inductive ReceiverAct (α : Type) where
  | put (m : α)
  | close
  | next
  | aiter (inLoop : Bool)
  | anext (task : Nat)
  | resume (task : Nat)
  | tick
  | stopLoop
  | runLoop
  deriving DecidableEq, Repr

namespace ReceiverSystem

variable {α : Type}

/-- The sync queue's contents. -/
def syncItems (s : ReceiverSystem α) : List (Item α) := s.world.receiver.syncQueue.items

def closed (s : ReceiverSystem α) : Bool := s.world.receiver.closed

def running (s : ReceiverSystem α) : Bool := s.world.eventLoop.running

def ready (s : ReceiverSystem α) : List (Item α) := s.world.eventLoop.ready

/-- Coroutines run on the loop only while it runs. -/
def step (s : ReceiverSystem α) : ReceiverAct α → Option (ReceiverSystem α)
  | .put m =>
      match s.world.put m with
      | (.ok (), w) =>
          some { s with world := w, accepted := s.accepted ++ if s.closed then [] else [.message m] }
      | (.error _, w) => some { s with world := w }
  | .close =>
      match s.world.close with
      | (.ok (), w) => some { s with world := w, accepted := s.accepted ++ [.sentinel] }
      | (.error _, w) => some { s with world := w }
  | .next =>
      match s.world.nextTurn with
      | (.ok (some m), w) => some { s with world := w, returned := s.returned ++ [.message m] }
      | (.ok none, w) => some { s with world := w }
      | (.error _, w) => some { s with world := w, returned := s.returned ++ [.sentinel] }
  | .aiter inLoop =>
      if inLoop && !s.running then none
      else some { s with world := s.world.ensureAsyncQueue inLoop }
  | .anext task => if s.running then some { s with world := s.world.anext task true } else none
  | .resume task =>
      match s.world.receiver.asyncQueue with
      | none => none
      | some aq =>
          match aq.items with
          | [] => none
          | item :: rest =>
              if s.running && aq.getters.contains task then
                match s.world.resume aq task item rest with
                | (.ok m, w) => some { s with world := w, obtained := s.obtained ++ [.message m] }
                | (.error _, w) => some { s with world := w, obtained := s.obtained ++ [.sentinel] }
              else none
  | .tick => s.world.tick.map fun w => { s with world := w }
  | .stopLoop =>
      some { s with world := { s.world with eventLoop := { s.world.eventLoop with running := false } } }
  | .runLoop =>
      some { s with world := { s.world with eventLoop := { s.world.eventLoop with running := true } } }

def Unbounded (s : ReceiverSystem α) : Prop := s.world.receiver.syncQueue.maxsize = 0

/-- The items a sequence of actions hands to a receiver that is `closed` at its start. -/
def offered : Bool → List (ReceiverAct α) → List (Item α)
  | _, [] => []
  | false, .put m :: acts => .message m :: offered false acts
  | _, .close :: acts => .sentinel :: offered true acts
  | closed, _ :: acts => offered closed acts

/-- An item goes into both queues. -/
def offer (closed : Bool) (item : Item α) (s : ReceiverSystem α) : ReceiverSystem α :=
  { s with world := s.world.deliver closed item, accepted := s.accepted ++ [item] }

/-- The system after the async queue was asked for. -/
def ensured (inLoop : Bool) (s : ReceiverSystem α) : ReceiverSystem α :=
  { s with world := s.world.ensureAsyncQueue inLoop }

/-- What each action does to a receiver whose sync queue is unbounded. -/
inductive Moves (s : ReceiverSystem α) : ReceiverAct α → ReceiverSystem α → Prop
  | putClosed (m : α) (closed : s.closed = true) : Moves s (.put m) s
  | putOpen (m : α) (open_ : s.closed = false) : Moves s (.put m) (s.offer false (.message m))
  | close : Moves s .close (s.offer true .sentinel)
  | nextItem (item : Item α) (rest : List (Item α)) (head : s.syncItems = item :: rest) :
      Moves s .next { s with
        world := s.world.setReceiver { s.world.receiver with
          syncQueue := { s.world.receiver.syncQueue with items := rest } }
        returned := s.returned ++ [item] }
  | nextIdle (empty : s.syncItems = []) (open_ : s.closed = false) : Moves s .next s
  | nextStop (empty : s.syncItems = []) (closed : s.closed = true) :
      Moves s .next { s with returned := s.returned ++ [.sentinel] }
  | aiter (inLoop : Bool) (inside : inLoop = true → s.running = true) :
      Moves s (.aiter inLoop) (s.ensured inLoop)
  | anext (task : Nat) (inside : s.running = true) :
      Moves s (.anext task) { s with world := s.world.anext task true }
  | resume (task : Nat) (aq : AsyncQueue (Item α)) (item : Item α) (rest : List (Item α))
      (inside : s.running = true) (created : s.world.receiver.asyncQueue = some aq)
      (waits : task ∈ aq.getters) (head : aq.items = item :: rest) :
      Moves s (.resume task) { s with
        world := s.world.setAsyncQueue { items := rest, getters := aq.getters.erase task }
        obtained := s.obtained ++ [item] }
  | tick (aq : AsyncQueue (Item α)) (item : Item α) (rest : List (Item α))
      (inside : s.running = true) (created : s.world.receiver.asyncQueue = some aq)
      (head : s.ready = item :: rest) :
      Moves s .tick { s with
        world := { s.world with eventLoop := { s.world.eventLoop with ready := rest } }.setAsyncQueue
          (aq.putNowait item) }
  | stopLoop :
      Moves s .stopLoop { s with
        world := { s.world with eventLoop := { s.world.eventLoop with running := false } } }
  | runLoop :
      Moves s .runLoop { s with
        world := { s.world with eventLoop := { s.world.eventLoop with running := true } } }

theorem step_put {s : ReceiverSystem α} (unbounded : s.Unbounded) (m : α) :
    s.step (.put m) = some (if s.closed then s else s.offer false (.message m)) := by
  cases open_ : s.closed with
  | true =>
      have same := ReceiverWorld.put_of_closed open_ m
      simp only [step, same, open_, ↓reduceIte, List.append_nil]
  | false =>
      have delivered := ReceiverWorld.put_of_open open_ unbounded m
      simp only [step, delivered, open_, Bool.false_eq_true, ↓reduceIte, offer]

theorem step_close {s : ReceiverSystem α} (unbounded : s.Unbounded) :
    s.step .close = some (s.offer true .sentinel) := by
  have delivered := ReceiverWorld.close_unbounded unbounded
  simp only [step, delivered, offer]

theorem step_next_cons {s : ReceiverSystem α} {item : Item α} {rest : List (Item α)}
    (head : s.syncItems = item :: rest) :
    s.step .next = some { s with
      world := s.world.setReceiver { s.world.receiver with
        syncQueue := { s.world.receiver.syncQueue with items := rest } }
      returned := s.returned ++ [item] } := by
  unfold syncItems at head
  cases item <;>
    simp only [step, ReceiverWorld.nextTurn, Method.bind_apply, Method.get_apply, head,
      Method.modify_apply, Method.raise_apply, Method.pure_apply]

theorem step_next_nil {s : ReceiverSystem α} (empty : s.syncItems = []) :
    s.step .next =
      some (if s.closed then { s with returned := s.returned ++ [.sentinel] } else s) := by
  unfold syncItems at empty
  unfold closed
  cases open_ : s.world.receiver.closed <;>
    simp only [step, ReceiverWorld.nextTurn, Method.bind_apply, Method.get_apply, empty, open_,
      Method.raise_apply, Method.pure_apply, Bool.false_eq_true, ↓reduceIte]

theorem step_resume {s : ReceiverSystem α} {task : Nat} {aq : AsyncQueue (Item α)}
    {item : Item α} {rest : List (Item α)} (inside : s.running = true)
    (created : s.world.receiver.asyncQueue = some aq) (waits : task ∈ aq.getters)
    (head : aq.items = item :: rest) :
    s.step (.resume task) = some { s with
      world := s.world.setAsyncQueue { items := rest, getters := aq.getters.erase task }
      obtained := s.obtained ++ [item] } := by
  have listed : aq.getters.contains task = true := List.contains_iff_mem.mpr waits
  cases item <;>
    simp only [step, created, head, inside, listed, Bool.and_self, ↓reduceIte,
      ReceiverWorld.resume, Method.bind_apply, Method.modify_apply, Method.raise_apply,
      Method.pure_apply]

theorem step_tick {s : ReceiverSystem α} {aq : AsyncQueue (Item α)} {item : Item α}
    {rest : List (Item α)} (inside : s.running = true)
    (created : s.world.receiver.asyncQueue = some aq) (head : s.ready = item :: rest) :
    s.step .tick = some { s with
      world := { s.world with eventLoop := { s.world.eventLoop with ready := rest } }.setAsyncQueue
        (aq.putNowait item) } := by
  unfold ready at head
  unfold running at inside
  simp only [step, ReceiverWorld.tick, head, created, inside, ↓reduceIte, Option.map_some]

/-- The inversion of a step of a consumer or of the event loop, whatever the bound of the queue. -/
theorem moves_of_consumer {s t : ReceiverSystem α} {a : ReceiverAct α}
    (puts : ∀ m, a ≠ .put m) (closes : a ≠ .close) (success : s.step a = some t) :
    Moves s a t := by
  cases a with
  | put m => exact absurd rfl (puts m)
  | close => exact absurd rfl closes
  | next =>
      cases queue : s.syncItems with
      | nil =>
          rw [step_next_nil queue] at success
          obtain rfl := Option.some.inj success
          split
          · rename_i closed
            exact .nextStop queue closed
          · rename_i open_
            exact .nextIdle queue (Bool.eq_false_iff.mpr open_)
      | cons item rest =>
          rw [step_next_cons queue] at success
          obtain rfl := Option.some.inj success
          exact .nextItem item rest queue
  | aiter inLoop =>
      simp only [step] at success
      split at success
      · cases success
      · rename_i allowed
        obtain rfl := Option.some.inj success
        refine .aiter inLoop fun within => ?_
        simpa [within] using allowed
  | anext task =>
      simp only [step] at success
      split at success
      · rename_i inside
        obtain rfl := Option.some.inj success
        exact .anext task inside
      · cases success
  | resume task =>
      cases created : s.world.receiver.asyncQueue with
      | none => simp only [step, created, reduceCtorEq] at success
      | some aq =>
          cases head : aq.items with
          | nil => simp only [step, created, head, reduceCtorEq] at success
          | cons item rest =>
              by_cases enabled : s.running = true ∧ task ∈ aq.getters
              · rw [step_resume enabled.1 created enabled.2 head] at success
                obtain rfl := Option.some.inj success
                exact .resume task aq item rest enabled.1 created enabled.2 head
              · have blocked : ¬ (s.running && aq.getters.contains task) = true := by
                  rw [Bool.and_eq_true, List.contains_iff_mem]
                  exact enabled
                simp only [step, created, head, blocked, Bool.false_eq_true, ↓reduceIte,
                  reduceCtorEq] at success
  | tick =>
      have ticked := success
      simp only [step, ReceiverWorld.tick] at ticked
      split at ticked
      · rename_i item rest aq head created
        split at ticked
        · rename_i inside
          rw [step_tick inside created head] at success
          obtain rfl := Option.some.inj success
          exact .tick aq item rest inside created head
        · cases ticked
      · cases ticked
  | stopLoop =>
      obtain rfl := Option.some.inj success
      exact .stopLoop
  | runLoop =>
      obtain rfl := Option.some.inj success
      exact .runLoop

/-- The inversion of a step. -/
theorem moves_of_step {s t : ReceiverSystem α} {a : ReceiverAct α} (unbounded : s.Unbounded)
    (success : s.step a = some t) : Moves s a t := by
  cases a with
  | put m =>
      rw [step_put unbounded] at success
      obtain rfl := Option.some.inj success
      split
      · rename_i closed
        exact .putClosed m closed
      · rename_i open_
        exact .putOpen m (Bool.eq_false_iff.mpr open_)
  | close =>
      rw [step_close unbounded] at success
      obtain rfl := Option.some.inj success
      exact .close
  | _ => exact moves_of_consumer nofun nofun success

end ReceiverSystem

end OpenSomeIp
