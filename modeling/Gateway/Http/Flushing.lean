import Gateway.Http.Body

/-! Flushing. Bytes of a body are gathered into larger parts, but none waits longer than an interval: when the
    first byte comes into the empty buffer a deadline is set, and what has been gathered is given out when it
    passes, when the buffer is full, or when the body ends or gives its trailers. Without an interval every part
    passes at once. A failure passes at once too, and what has been gathered waits on. -/

namespace Gateway.Http

/-- The moment by which gathered bytes have to be given out. -/
structure Deadline where
  due : Nat
  /-- Somebody waits for the moment. -/
  watched : Bool
deriving DecidableEq, Repr

structure Flushing where
  interval : Nat
  inner : Body
  buffer : ByteArray := .empty
  deadline : Option Deadline := none
  trailers : Option Headers := none
  /-- The inner body has ended or given its trailers. -/
  done : Bool := false

namespace Flushing

/-- A buffer of this size is given out without waiting. -/
def fullSize : Nat := 65536

/-! ### Asking for the next part -/

/-- Gives out the gathered bytes. -/
def flush (f : Flushing) : Poll × Flushing := (.data f.buffer, { f with buffer := .empty, deadline := none })

/-- What is left when the inner body is done: the gathered bytes, the trailers, the end. -/
def drain (f : Flushing) : Poll × Flushing :=
  if ¬ f.buffer.isEmpty then f.flush
  else
    match f.trailers with
    | some headers => (.trailers headers, { f with trailers := none })
    | none => (.ended, f)

/-- Gathers bytes. The first of them set the deadline. -/
def gather (f : Flushing) (now : Nat) (bytes : ByteArray) : Flushing :=
  let deadline := if f.buffer.isEmpty then some ⟨now + f.interval, false⟩ else f.deadline
  { f with buffer := f.buffer ++ bytes, deadline }

/-- Somebody waited for the deadline and it has passed. -/
def isOverdue (f : Flushing) (now : Nat) : Bool := f.deadline.any fun d => d.watched && d.due ≤ now

/-- Nothing comes for now: the gathered bytes go if their deadline has passed and otherwise wait for it. -/
def idle (f : Flushing) (now : Nat) : Poll × Flushing :=
  match f.deadline with
  | none => (.pending, f)
  | some d => if d.due ≤ now then f.flush else (.pending, { f with deadline := some { d with watched := true } })

/-- The next part with an interval: takes from the inner body until there is something to give out. -/
def pollGathering (now : Nat) (f : Flushing) : Poll × Flushing :=
  if f.done then f.drain
  else
    match _h : f.inner.poll now with
    | (.data bytes, inner) =>
      if bytes.isEmpty then pollGathering now { f with inner }
      else
        let g := { f with inner }.gather now bytes
        if fullSize ≤ g.buffer.size ∨ g.isOverdue now then g.flush else pollGathering now g
    | (.trailers headers, inner) => { f with inner, trailers := some headers, done := true }.drain
    | (.failure reason, inner) => (.failure reason, { f with inner })
    | (.ended, inner) => { f with inner, done := true }.drain
    | (.pending, inner) => { f with inner }.idle now
termination_by f.inner.events.length
decreasing_by
  all_goals
    have := @Body.length_poll now f.inner (by simp [_h]) (by simp [_h])
    simp only [_h] at this
    simpa [gather] using this

def poll (now : Nat) (f : Flushing) : Poll × Flushing :=
  if f.interval = 0 then
    let (answer, inner) := f.inner.poll now
    (answer, { f with inner })
  else pollGathering now f

/-! ### What is left -/

/-- Nothing comes any more, when the inner body has said whether it says so. -/
def saysEndWith (f : Flushing) (inner : Bool) : Bool :=
  if f.interval = 0 then inner
  else f.buffer.isEmpty && f.trailers.isNone && (f.done || inner)

def saysEnd (f : Flushing) : Bool := f.saysEndWith f.inner.saysEnd

/-- The bounds of what is left, when the inner body has given its own. The held bytes are added in words of 64 bits,
    where a sum may come round to zero; an upper bound that has come below the lower one is no answer. -/
def hintWith (f : Flushing) (inner : Body.Hint) : Option Body.Hint :=
  let lower := (inner.lower + f.buffer.size) % UInt64.size
  match inner.upper with
  | none => some ⟨lower, none⟩
  | some upper =>
    let upper := (upper + f.buffer.size) % UInt64.size
    if upper < lower then none else some ⟨lower, some upper⟩

/-- A body knows all that it has left, or nothing of it, so that its bounds come round together. -/
theorem isSome_hintWith (f : Flushing) : (f.hintWith f.inner.hint).isSome = true := by
  unfold Body.hint hintWith
  split
  · simp
  · rfl

def hint (f : Flushing) : Body.Hint := (f.hintWith f.inner.hint).get f.isSome_hintWith

/-! ### Reading with a clock -/

/-- The next moment at which something may happen. -/
def wake (f : Flushing) : Option Nat :=
  match f.inner.busyUntil, f.deadline.map (·.due) with
  | some a, some b => some (min a b)
  | a, b => a.or b

/-- Asks, and asks again when something may have happened, until a part comes. A part needs no more
    questions than there are events, and one for the deadline. -/
def await : Nat → Nat → Flushing → Nat × Poll × Flushing
  | 0, now, f => (now, f.poll now)
  | fuel + 1, now, f =>
    match f.poll now with
    | (.pending, f) => await fuel (f.wake.getD now) f
    | other => (now, other)

/-- A part, when it came, and what was said before it about what was left. -/
structure Reading where
  saidEnd : Bool
  hint : Body.Hint
  time : Nat
  part : Poll

/-- Reads part by part, at most so many, until the end. -/
def readings : Nat → Nat → Flushing → List Reading
  | 0, _, _ => []
  | limit + 1, now, f =>
    let (time, part, g) := await (f.inner.events.length + 2) now f
    let reading : Reading := ⟨f.saysEnd, f.hint, time, part⟩
    match part with
    | .ended => [reading]
    | _ => reading :: readings limit time g

/-- What a reader gets who stops at the end or at the first failure. -/
def content (f : Flushing) : Body.Content :=
  Body.contentOf ((readings (3 * f.inner.events.length + 3) 0 f).filterMap (·.part.event?))

end Flushing
end Gateway.Http
