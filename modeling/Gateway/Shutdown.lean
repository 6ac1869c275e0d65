import Gateway.Broadcast

/-! Shutdown. Handles of one coordinator trigger the shutdown and subscribe to it. They send on one channel, and a waiter
    receives from it once: whatever it finds there releases it, a trigger, the news that it has missed some, or that no
    handle is left. -/

namespace Gateway

/-- A coordinator with its handles and waiters, which are known by number. -/
structure Shutdown where
  channel : Broadcast
  /-- The handles that there have been, and which of them are still held. -/
  handles : List Bool
  /-- The waiters that there have been; for one that still waits, how many messages its subscription came behind. -/
  waiters : List (Option Nat)
deriving DecidableEq, Repr

namespace Shutdown

/-- What is done with a coordinator, by the number of a handle or waiter. -/
inductive Operation
  | subscribe (handle : Nat)
  | trigger (handle : Nat)
  | clone (handle : Nat)
  | drop (handle : Nat)
  | poll (waiter : Nat)
deriving DecidableEq, Repr

inductive Answer
  | done
  /-- The number of a new handle or waiter. -/
  | number (n : Nat)
  | pending
  | ready
  /-- The handle or waiter is none, or none any more. -/
  | gone
deriving DecidableEq, Repr

/-- A fresh coordinator has one handle. -/
def fresh : Shutdown := ⟨.fresh, [true], []⟩

def holds (s : Shutdown) (handle : Nat) : Bool := s.handles[handle]?.getD false

def subscribe (s : Shutdown) : Shutdown :=
  let (channel, before) := s.channel.subscribe
  { s with channel, waiters := s.waiters ++ [some before] }

def trigger (s : Shutdown) : Shutdown := { s with channel := s.channel.send }

def clone (s : Shutdown) : Shutdown := { s with channel := s.channel.addSender, handles := s.handles ++ [true] }

def drop (s : Shutdown) (handle : Nat) : Shutdown :=
  { s with channel := s.channel.dropSender, handles := s.handles.set handle false }

/-- A waiter that is released waits no more. -/
def release (s : Shutdown) (waiter : Nat) : Shutdown :=
  { s with channel := s.channel.unsubscribe, waiters := s.waiters.set waiter none }

def step (s : Shutdown) : Operation → Shutdown × Answer
  | .subscribe h => if s.holds h then (s.subscribe, .number s.waiters.length) else (s, .gone)
  | .trigger h => if s.holds h then (s.trigger, .done) else (s, .gone)
  | .clone h => if s.holds h then (s.clone, .number s.handles.length) else (s, .gone)
  | .drop h => if s.holds h then (s.drop h, .done) else (s, .gone)
  | .poll w =>
    match s.waiters[w]?.join with
    | none => (s, .gone)
    | some before =>
      match s.channel.receive before with
      | .nothing => (s, .pending)
      | _ => (s.release w, .ready)

/-- The answers to operations, one after the other. -/
def answers (s : Shutdown) : List Operation → List Answer
  | [] => []
  | o :: rest => (s.step o).2 :: answers (s.step o).1 rest

end Shutdown
end Gateway
