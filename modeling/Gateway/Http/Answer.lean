import Gateway.Http.Flushing
import Gateway.Http.Response

/-! Answers, as clients get them. The bytes of a backend's response are gathered and flushed on their way; those of the
    gateway's own responses pass as they are. A finished answer tells its length where that is known, and
    brings no body where its request asks for none. -/

namespace Gateway.Http

structure Answer where
  status : Nat
  headers : Headers
  body : Flushing
  /-- The words behind the status, if they are not the usual ones. -/
  reason : Option String := none

namespace Answer

/-- A response whose bytes may wait for an interval, in milliseconds. -/
def flushed (interval : Nat) (r : Response) : Answer :=
  { status := r.status, headers := r.headers, body := { interval, inner := r.body }, reason := r.reason }

/-- A response whose bytes pass as they are. -/
def ofResponse (r : Response) : Answer := flushed 0 r

def withoutBody (a : Answer) : Answer := { a with body := { interval := 0, inner := .ofBytes .empty } }

/-- The length of the body, if it is known. -/
def length? (a : Answer) : Option Nat := a.body.hint.upper.filter (· == a.body.hint.lower)

/-- States the length of the body, unless something is said about that. -/
def stated (a : Answer) : Answer :=
  match a.length? with
  | some n =>
    if a.headers.contains "content-length" then a
    else { a with headers := a.headers.add "content-length" (toString n).toUTF8 }
  | none => a

/-- The answer to a request of some method. What opens a tunnel has no body and says nothing of one. -/
def finished (a : Answer) (method : String) : Answer :=
  if method = "CONNECT" ∧ 200 ≤ a.status ∧ a.status < 300 then
    if a.headers.contains "content-length" ∨ a.headers.contains "transfer-encoding" ∨ 0 < a.body.hint.lower then
      a.withoutBody
    else a
  else if method = "HEAD" then a.stated.withoutBody
  else a.stated

end Answer
end Gateway.Http
