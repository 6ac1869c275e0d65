import Gateway.Http.Headers

/-! Bodies as they arrive: data, then perhaps trailers, and in between waits and failures. A body is a list of
    what happens to it, and `poll` asks for the next part at a moment of time, in milliseconds. A wait begins
    when it is come upon. Only data is a body's content; `content` gives all of it. -/

namespace Gateway.Http

/-- What happens to a body. -/
inductive Event
  | data (bytes : ByteArray)
  | trailers (headers : Headers)
  | failure (reason : String)
  | wait (time : Nat)

/-- The number of bytes that an event brings. -/
def Event.size : Event → Nat
  | .data bytes => bytes.size
  | _ => 0

structure Body where
  events : List Event
  /-- Until when the wait lasts that has begun. -/
  busyUntil : Option Nat := none
  /-- The length of the data is known from the start. -/
  sized : Bool := true

/-- What asking a body for its next part gives. -/
inductive Poll
  | pending
  | data (bytes : ByteArray)
  | trailers (headers : Headers)
  | failure (reason : String)
  | ended

/-- The event that a part passes on. -/
def Poll.event? : Poll → Option Event
  | data bytes => some (.data bytes)
  | trailers headers => some (.trailers headers)
  | failure reason => some (.failure reason)
  | pending => none
  | ended => none

namespace Body

def ofBytes (bytes : ByteArray) : Body := { events := if bytes.isEmpty then [] else [.data bytes] }

def ofText (text : String) : Body := ofBytes text.toUTF8

/-! ### Asking -/

/-- The next part of a body that is in no wait. A wait of no time is over at once. -/
def pollEvents (now : Nat) : List Event → Poll × List Event × Option Nat
  | [] => (.ended, [], none)
  | .data bytes :: rest => (.data bytes, rest, none)
  | .trailers headers :: rest => (.trailers headers, rest, none)
  | .failure reason :: rest => (.failure reason, rest, none)
  | .wait time :: rest => if time = 0 then pollEvents now rest else (.pending, rest, some (now + time))

def poll (now : Nat) (b : Body) : Poll × Body :=
  if b.busyUntil.any (now < ·) then (.pending, b)
  else
    let (answer, events, busyUntil) := pollEvents now b.events
    (answer, { b with events, busyUntil })

theorem length_pollEvents (now : Nat) (events : List Event) :
    (pollEvents now events).2.1.length ≤ events.length ∧
      (events ≠ [] → (pollEvents now events).2.1.length < events.length) := by
  fun_induction pollEvents now events <;> grind

/-- A part that is there comes out of the list of events. -/
theorem length_poll {now : Nat} {b : Body} (h : (b.poll now).1 ≠ .pending) (he : (b.poll now).1 ≠ .ended) :
    (b.poll now).2.events.length < b.events.length := by
  unfold poll at h he ⊢
  split at h
  · simp at h
  · rename_i hb
    simp only [hb] at h he ⊢
    cases hv : b.events with
    | nil => simp [hv, pollEvents] at he
    | cons => exact hv ▸ (length_pollEvents now b.events).2 (by simp [hv])

/-! ### Bodies that are still arriving -/

/-- A time that nobody waits for. -/
def horizon : Nat := 1000000000000000

/-- A body of which nothing has arrived. -/
def awaited : Body := { events := [.wait horizon], sized := false }

/-- More has arrived of a body that has nothing left but to wait. -/
def arrive (b : Body) (events : List Event) (ended : Bool) : Body :=
  { b with events := events ++ (if ended then [] else [.wait horizon]), busyUntil := none }

/-! ### What is left -/

/-- The number of bytes that are left. -/
def left (b : Body) : Nat := b.events.foldr (fun e n => e.size + n) 0

/-- Fewest and, if that is known, most bytes that may be left: words of 64 bits. -/
structure Hint where
  lower : Nat
  upper : Option Nat
deriving DecidableEq, Repr

def hint (b : Body) : Hint := if b.sized then ⟨b.left, some b.left⟩ else ⟨0, none⟩

/-- The body says that nothing comes any more. -/
def saysEnd (b : Body) : Bool := b.sized && b.events.isEmpty && b.busyUntil.isNone

/-! ### Reading all of it -/

/-- The parts of a body up to its end or its first failure. -/
structure Content where
  data : ByteArray
  trailers : Option Headers
  failure : Option String

/-- The content of some events; trailers that come later take the place of earlier ones. -/
def contentOf : List Event → Content
  | [] => ⟨.empty, none, none⟩
  | .data bytes :: rest => let c := contentOf rest; { c with data := bytes ++ c.data }
  | .trailers headers :: rest => let c := contentOf rest; { c with trailers := c.trailers.or (some headers) }
  | .failure reason :: _ => ⟨.empty, none, some reason⟩
  | .wait _ :: rest => contentOf rest

def content (b : Body) : Content := contentOf b.events

end Body
end Gateway.Http
