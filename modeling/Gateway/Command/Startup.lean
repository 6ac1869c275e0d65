import Gateway.Shutdown

/-! Starting to serve. Two tasks share a coordinator then. One waits for the signal to stop; it triggers the shutdown through
    a handle of its own and is done. The other builds the server, subscribes for it and serves until the waiter of this
    subscription is released. Each does its work turn by turn, and nothing but the system says whose turn it is. -/

namespace Gateway.Command

open Shutdown

inductive Task
  | signal
  | server
deriving DecidableEq, Repr

/-- The coordinator, and what each task has still to do. What does not concern the coordinator is `none`: to wait for the
    signal, and to build the server. -/
structure Startup where
  shutdown : Shutdown
  signal : List (Option Operation)
  server : List (Option Operation)
deriving DecidableEq, Repr

namespace Startup

/-- The tasks part when the one that waits for the signal has its handle. -/
def begun : Startup where
  shutdown := (fresh.step (.clone 0)).1
  signal := [none, some (.trigger 1), some (.drop 1)]
  server := [none, some (.subscribe 0)]

/-- What a task does to the coordinator in its next turn. To serve is to poll the waiter again and again. -/
def operation? (s : Startup) : Task → Option Operation
  | .signal => s.signal.head?.join
  | .server => s.server.head?.getD (some (.poll 0))

/-- What the coordinator answers to that. -/
def answer? (s : Startup) (t : Task) : Option Answer := (s.operation? t).map fun o => (s.shutdown.step o).2

def turn (s : Startup) (t : Task) : Startup where
  shutdown := ((s.operation? t).map fun o => (s.shutdown.step o).1).getD s.shutdown
  signal := if t = .signal then s.signal.tail else s.signal
  server := if t = .server then s.server.tail else s.server

end Startup
end Gateway.Command
