import Gateway.Http.Answer
import Gateway.Http.Destination
import Gateway.Http.HopByHop
import Gateway.Http.Origin
import Gateway.Http.Request
import Gateway.Http.Wire.Head
import Gateway.Link.Response
import Gateway.Net.SystemError

/-! Forwarding. A request goes to the address of its backend without what belongs to the client's connection, and
    says how it reached the gateway; the response comes back without what belongs to the backend's connection, and
    with its links rerooted if it is a page. A backend that gives no response makes an answer of the gateway's
    own, and so does an address that nothing can be sent to. -/

namespace Gateway

open Http

/-- A request as the backend gets it. -/
structure Outbound where
  method : String
  uri : Uri
  headers : Headers
  body : Body

/-- Why a request that is sent has no response. -/
inductive Disruption
  /-- There is no connection. -/
  | unconnected (error : Net.SystemError)
  /-- What came back is no response. -/
  | faulty (fault : Wire.Fault)
deriving DecidableEq, Repr

def Disruption.message : Disruption → String
  | unconnected e => "client error (Connect): tcp connect error: " ++ e.text
  | faulty fault => "client error (SendRequest): " ++ fault.message

/-- What becomes of a request that is sent. -/
inductive Reply
  | disrupted (reason : Disruption)
  /-- No response has begun in time. -/
  | late
  | answered (response : Response)

/-- Work that may need the reply of a backend. -/
inductive Plan (α : Type)
  | done (result : α)
  /-- Sends a request and goes on with its reply. -/
  | ask (request : Outbound) (resume : Reply → α)

namespace Plan

def map {α β : Type} (f : α → β) : Plan α → Plan β
  | done a => done (f a)
  | ask request resume => ask request fun reply => f (resume reply)

/-- The result of a plan, with a backend that replies. -/
def run {α : Type} (backend : Outbound → Reply) : Plan α → α
  | done a => a
  | ask request resume => resume (backend request)

/-- The request that a plan sends. -/
def sent? {α : Type} : Plan α → Option Outbound
  | done _ => none
  | ask request _ => some request

end Plan

namespace Forwarding

/-- A number of seconds; none are none of anything. -/
def seconds (n : Nat) : String := if n = 0 then "0ns" else s!"{n}s"

/-- The fields of a request for `target`, as its backend gets them. -/
def outboundHeaders (h : Headers) (origin : Origin) (target : Target) : Headers :=
  (h.endToEnd.remove "host").forwarded origin (target.base ++ target.backendPath)

/-- The page that the gateway gets at `source` for a client that asked for `target`. -/
def view (origin : Origin) (target : Target) (source : Url) : Link.View :=
  { scheme := origin.scheme, host := origin.host, base := target.base, source }

/-- What becomes of a backend's response on its way to the client. -/
def returned [Gzip.Writer] (config : Config) (view : Link.View) (response : Response) :
    Answer × Option Link.Outcome :=
  let response := { response with headers := response.headers.endToEnd }
  let (response, outcome) := Link.rerootResponse config.links view response
  (.flushed config.proxy.flushInterval response, outcome)

/-- Forwards a request to the address of its target. -/
def forward [Gzip.Writer] (config : Config) (request : Request) (target : Target) (address : Address) (origin : Origin) :
    Plan (Answer × Option Link.Outcome) :=
  let destination := target.destination address request.uri.query
  let unavailable (reason : String) : Answer × Option Link.Outcome :=
    (.ofResponse (.unavailable destination reason), none)
  match Url.ofText destination, Uri.ofText destination with
  | .error e, _ => .done (unavailable e.message)
  | .ok _, .error e => .done (unavailable e.message)
  | .ok source, .ok uri =>
    .ask ⟨request.method, uri, outboundHeaders request.headers origin target, request.body⟩ fun reply =>
      match reply with
      | .disrupted reason => unavailable reason.message
      | .late => unavailable ("no response within " ++ seconds config.timeouts.request)
      | .answered response => returned config (view origin target source) response

end Forwarding
end Gateway
