/-! Broadcast channels. A message goes to all who receive at the time, and to nobody if there are none. The channel has
    room for one message: a later one takes its place, and a receiver that has not had the earlier one by then is told
    how many it has missed. A message says nothing but that it was sent. -/

namespace Gateway

/-- A channel with room for one message. -/
structure Broadcast where
  senders : Nat
  receivers : Nat
  /-- How many messages the channel has taken. The last of them is the one that it keeps. -/
  taken : Nat
deriving DecidableEq, Repr

namespace Broadcast

/-- What a receiver finds. -/
inductive Found
  | message
  /-- The message that it waits for is gone, and so are later ones: as many in all. -/
  | missed (messages : Nat)
  | nothing
  /-- There is nothing, and no sender is left. -/
  | closed
deriving DecidableEq, Repr

/-- A channel with a sender, which nobody listens to yet. -/
def fresh : Broadcast := ⟨1, 0, 0⟩

/-- A message that nobody receives is not taken. -/
def send (c : Broadcast) : Broadcast := if c.receivers = 0 then c else { c with taken := c.taken + 1 }

/-- A new receiver waits for the message that is taken next. It is known by how many were taken before. -/
def subscribe (c : Broadcast) : Broadcast × Nat := ({ c with receivers := c.receivers + 1 }, c.taken)

def unsubscribe (c : Broadcast) : Broadcast := { c with receivers := c.receivers - 1 }

def addSender (c : Broadcast) : Broadcast := { c with senders := c.senders + 1 }

def dropSender (c : Broadcast) : Broadcast := { c with senders := c.senders - 1 }

/-- What the receiver finds that waits for the message behind so many others. -/
def receive (c : Broadcast) (before : Nat) : Found :=
  if c.taken ≤ before then if c.senders = 0 then .closed else .nothing
  else if c.taken = before + 1 then .message
  else .missed (c.taken - (before + 1))

end Broadcast
end Gateway
