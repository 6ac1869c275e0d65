import Gateway.Http.Wire.Arrival
import Std.Async

/-! Connections as they are read: heads line by line, bodies part by part. What bytes mean is decided by the modules of
    the wire; here they are only waited for. -/

namespace Gateway.Daemon

open Http Http.Wire Std.Async

/-- A connection, and the bytes that have arrived on it and are not used yet. -/
structure Connection where
  socket : TCP.Socket.Client
  unread : IO.Ref ByteArray

/-- What happens while a connection is watched. -/
inductive Watched
  | received (bytes : ByteArray)
  | closed
  | late

/-- Waits for bytes, but not longer than until a moment. -/
def Connection.watch (c : Connection) (due : Option Nat) : Async Watched := do
  try
    let receiving := Selectable.case (c.socket.recvSelector 65536) fun bytes =>
      return (match bytes with | some bytes => Watched.received bytes | none => .closed)
    match due with
    | none => Selectable.one #[receiving]
    | some due =>
      let rest : Nat := due - (← IO.monoMsNow)
      Selectable.one #[receiving, .case (← Selector.sleep (.ofNat rest)) fun _ => return .late]
  catch _ => return .closed

/-- The lines of the next head; nothing if no byte of one comes. -/
def Connection.lines (c : Connection) : Async (Except (Option Fault) (List Line)) := do
  repeat
    let unread ← c.unread.get
    match lines? unread.toList with
    | some (lines, rest) =>
      c.unread.set rest.toByteArray
      return .ok lines
    | none =>
      if 400 * 1024 < unread.size then return .error (some .tooLong)
      match ← c.watch none with
      | .received bytes => c.unread.set (unread ++ bytes)
      | _ => return .error (if unread.isEmpty then none else some .cutShort)
  return .error none

/-! ### Bodies -/

/-- A body that arrives on a connection. -/
structure Incoming where
  connection : Connection
  arrival : Arrival

def Connection.incoming (c : Connection) (framing : Framing) : Async Incoming := do
  return ⟨c, framing, ← c.unread.get⟩

/-- The next part of a body and what is left of it; no part when `due` comes first. -/
def Incoming.next (i : Incoming) (due : Option Nat) : Async (Option (List Event × Bool) × Incoming) := do
  let mut arrival := i.arrival
  repeat
    let taken := arrival.take
    arrival := taken.rest
    i.connection.unread.set arrival.unread
    if taken.ended ∨ taken.events.length ≠ 0 then return (some (taken.events, taken.ended), { i with arrival })
    match ← i.connection.watch due with
    | .received bytes => arrival := arrival.receive bytes
    | .closed => return (some (arrival.close, true), { i with arrival })
    | .late => return (none, { i with arrival })
  return (none, i)

/-- All of a body. -/
def Incoming.all (i : Incoming) : Async (List Event) := do
  let mut i := i
  let mut events := #[]
  repeat
    let (part, rest) ← i.next none
    i := rest
    match part with
    | some (more, ended) =>
      events := events ++ more
      if ended then break
    | none => break
  return events.toList

end Gateway.Daemon
