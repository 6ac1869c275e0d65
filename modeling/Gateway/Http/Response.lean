import Gateway.Directory.Resolution
import Gateway.Http.Body

/-! Responses, and those that the gateway makes itself: pages of plain text that say what went wrong. -/

namespace Gateway.Http

structure Response where
  status : Nat
  headers : Headers
  body : Body
  /-- The words behind the status, if they are not the usual ones. -/
  reason : Option String := none

/-- A response that says no more than its status. -/
def Response.ofStatus (status : Nat) : Response := { status, headers := .empty, body := .ofBytes .empty }

/-- What answers a request for something that can only be read. -/
def Response.notAllowed : Response :=
  { Response.ofStatus 405 with headers := Headers.empty.add "allow" "GET,HEAD".toUTF8 }

/-- A page of plain text. -/
def Response.plain (status : Nat) (text : String) : Response := {
  status, headers := Headers.empty.add "content-type" "text/plain; charset=utf-8".toUTF8, body := .ofText text }

/-- The backend at `target` gives no answer. -/
def Response.unavailable (target reason : String) : Response :=
  .plain 503 ("Error: '" ++ reason ++ "'\nTrying to reach: '" ++ target ++ "'")

/-! ### Failures -/

/-- What ends a request without an answer of the backend. -/
inductive Failure
  | routing (error : RoutingError)
  | resolution (error : ResolveError)
  /-- The backend's body broke while it was read. -/
  | body (reason : String)
deriving DecidableEq, Repr

namespace Failure

def message : Failure → String
  | routing error => error.message
  | resolution error => error.message
  | body reason => "upstream body error: " ++ reason

/-- The client asked wrongly, or for nothing that there is, or the gateway could not find out. -/
def status : Failure → Nat
  | routing (.malformed _) => 400
  | resolution (.notFound ..) => 404
  | resolution (.invalidPort _) => 400
  | resolution (.directory _) => 502
  | body _ => 502

def response (failure : Failure) : Response := .plain failure.status failure.message

end Failure
end Gateway.Http
