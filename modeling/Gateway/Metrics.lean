import Gateway.Link.Response
import Gateway.Routing.Target

/-! Metrics. Each page that is looked at counts once by what became of it, and each proxied request once by its
    method, the status of its answer, and what it was for; the time that requests take is counted along. -/

namespace Gateway

/-- Something that is counted. -/
inductive Sample
  | page (outcome : Link.Outcome)
  /-- A request without a kind was for no backend. -/
  | request (method : String) (status : Nat) (kind : Option Kind)
deriving DecidableEq, Repr

namespace Sample

/-- A name and labels with their values. -/
def series (name : String) (labels : List (String × String)) : String :=
  name ++ "\x7b" ++ ",".intercalate (labels.map fun (label, value) => label ++ "=\"" ++ value ++ "\"") ++ "\x7d"

/-- What a sample counts in. -/
def counters : Sample → List String
  | page outcome => [series "proxy_rewrites_total" [("outcome", outcome.name)]]
  | request method status kind =>
    let labels := [("method", method), ("status", toString status), ("kind", (kind.map Kind.name).getD "none")]
    [series "proxy_request_duration_seconds_count" labels, series "proxy_requests_total" labels]

end Sample

/-- The lines of an account of samples, each counter once and in order. -/
def account (samples : List Sample) : List String :=
  let counted := samples.flatMap Sample.counters
  counted.eraseDups.mergeSort.map fun counter => s!"{counter} {counted.count counter}"

end Gateway
