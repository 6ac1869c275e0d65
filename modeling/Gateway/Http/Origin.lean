import Gateway.Http.Headers
import Gateway.Http.Uri
import Gateway.Net.Address

/-! Origins. An origin says how a client reached the gateway, and the forwarding fields say it to the backend.
    What a client says in these fields does not pass, with one exception: the addresses that it lists stay in
    front of its own. -/

namespace Gateway.Http

/-- How a client reached the gateway. -/
structure Origin where
  scheme : String
  /-- The host, and any port, that the client asked for. -/
  host : Option String
  client : Option Net.IpAddress
deriving DecidableEq, Repr

/-- The scheme and host are those of the request; a request that names no scheme came by the listener's. -/
def Origin.ofRequest (uri : Uri) (headers : Headers) (listener : String) (peer : Option Net.SocketAddress) :
    Origin where
  scheme := uri.scheme.getD listener
  host := (headers.text? "host").or uri.authority
  client := peer.map (·.ip)

namespace Headers

/-- The addresses that a request has come by, the client's at the end. -/
def forwardedFor (h : Headers) (client : Net.IpAddress) : String :=
  ", ".intercalate (h.texts "x-forwarded-for" ++ [client.text])

/-- States that a request for `path` came from `origin`. -/
def forwarded (h : Headers) (origin : Origin) (path : String) : Headers :=
  let h := h.setText "x-forwarded-uri" path
  let h := match origin.host with
    | some host => h.setText "x-forwarded-host" host
    | none => h.remove "x-forwarded-host"
  let h := h.setText "x-forwarded-proto" origin.scheme
  match origin.client with
  | some client => h.setText "x-forwarded-for" (h.forwardedFor client)
  | none => h

end Headers
end Gateway.Http
