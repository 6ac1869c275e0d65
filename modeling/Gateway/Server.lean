import Gateway.Assets.Serving
import Gateway.Http.Forwarding
import Gateway.Http.Listing
import Gateway.Http.RequestId
import Gateway.Metrics
import Gateway.Routing.Routes

/-! The server. It gives each request an id, finds the route that the path belongs to, and answers: with a page
    of its own, with a file, or with the response of a backend. Requests for backends are counted by what becomes
    of them. -/

namespace Gateway

open Http

/-- A configuration that can be served: its table of routes is built. -/
structure Server where
  config : Config
  directory : Directory
  files : Files
  routes : Routes

/-- An answer, and what is counted for it. -/
structure Exchange where
  answer : Answer
  samples : List Sample

namespace Server

def build (config : Config) (directory : Directory) (files : Files) : Except RouteError Server := do
  return ⟨config, directory, files, ← Routes.build config⟩

/-! ### Pages -/

/-- The namespace that a path names, its escapes undone. -/
def namespace? (values : List (String × List Char)) : Option String := do
  let bytes := (String.ofList (← values.lookup "namespace")).toUTF8
  String.fromUTF8? (Url.unescape bytes.toList).toByteArray

/-- A page for the namespace of the path. -/
def withNamespace (values : List (String × List Char)) (page : String → Response) : Response :=
  match namespace? values with
  | some space => page space
  | none => .plain 400 "Invalid URL: Invalid UTF-8 in \u0060namespace\u0060"

def page (server : Server) (values : List (String × List Char)) : Page → Response
  | .ping => .plain 200 "pong"
  | .pods => Listing.response Listing.ofPod (server.directory.pods none)
  | .podsOf => withNamespace values fun space => Listing.response Listing.ofPod (server.directory.pods (some space))
  | .services => Listing.response Listing.ofService (server.directory.services none)
  | .servicesOf =>
    withNamespace values fun space => Listing.response Listing.ofService (server.directory.services (some space))

/-! ### Backends -/

/-- An answer of the gateway's own to a request for a backend. -/
def reject (request : Request) (failure : Failure) (kind : Option Kind) : Exchange :=
  ⟨.ofResponse failure.response, [.request request.method failure.status kind]⟩

/-- Passes a request on to the backend that its path names. -/
def passOn [Gzip.Writer] (server : Server) (request : Request) : Plan Exchange :=
  match Target.ofPath server.config.proxy.mount request.uri.path with
  | .error e => .done (reject request (.routing e) none)
  | .ok target =>
    match server.directory.resolve target with
    | .error e => .done (reject request (.resolution e) (some target.kind))
    | .ok address =>
      let origin := Origin.ofRequest request.uri request.headers server.config.listener.scheme request.peer
      (Forwarding.forward server.config request target address origin).map fun (answer, outcome) =>
        ⟨answer, (outcome.map Sample.page).toList ++ [.request request.method answer.status (some target.kind)]⟩

/-! ### Requests -/

/-- An answer that is not counted. -/
def uncounted (response : Response) : Plan Exchange := .done ⟨.ofResponse response, []⟩

def serveFiles (server : Server) (request : Request) : Plan Exchange :=
  match server.config.staticFiles.root with
  | some root => uncounted (Assets.serve server.files server.config.staticFiles root request)
  | none => uncounted (.ofStatus 404)

/-- The answer to a request at the route that its path belongs to. -/
def atRoute [Gzip.Writer] (server : Server) (request : Request) : Option Routes.Hit → Plan Exchange
  | none => if server.routes.filesElsewhere then server.serveFiles request else uncounted (.ofStatus 404)
  | some (route, values) =>
    match route.endpoint with
    | .files depth => server.serveFiles (request.withPath (Assets.beneath depth request.uri.path))
    | .methods page passesOn =>
      let reads := request.method = "GET" ∨ request.method = "HEAD"
      match page with
      | some page =>
        if reads then uncounted (server.page values page)
        else if passesOn then server.passOn request
        else uncounted .notAllowed
      | none => if passesOn then server.passOn request else uncounted .notAllowed

/-- The paths on disk that the answer to a request may depend on. -/
def consulted (server : Server) (request : Request) : List String :=
  let files (request : Request) : List String := server.config.staticFiles.root.toList.flatMap fun root =>
    Assets.consulted server.config.staticFiles root request
  match server.routes.find? request.uri.path with
  | none => if server.routes.filesElsewhere then files request else []
  | some (route, _) =>
    match route.endpoint with
    | .files depth => files (request.withPath (Assets.beneath depth request.uri.path))
    | .methods .. => []

/-- The answers that files make are whole already; the others are finished here. -/
def isFinishedHere : Option Routes.Hit → Bool
  | some (route, _) =>
    match route.endpoint with
    | .methods .. => true
    | .files _ => false
  | none => false

/-- How a request is answered. If it brings no id it gets the one at hand. -/
def respond [Gzip.Writer] (server : Server) (id : ByteArray) (request : Request) : Plan Exchange :=
  let request := { request with headers := request.headers.withRequestId id }
  let hit := server.routes.find? request.uri.path
  (server.atRoute request hit).map fun e =>
    let headers := e.answer.headers.answering ((request.headers.first? "x-request-id").getD id)
    let answer := { e.answer with headers }
    { e with answer := if isFinishedHere hit then answer.finished request.method else answer }

end Server
end Gateway
