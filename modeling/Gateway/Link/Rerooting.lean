import Gateway.Link.Reference
import Gateway.Path

/-! Rerooting links. A page that came through the gateway lies under the path that selects its backend, so
    a link to the page's own site has to start there too. `reroot?` gives the link that leads to the same
    place through the gateway, or nothing where the link already does or leads elsewhere: links within the
    page, to its own address with another query, and to other sites. -/

namespace Gateway.Link

/-- A page seen through the gateway. -/
structure View where
  /-- The scheme that the client reached the gateway by. -/
  scheme : String
  /-- The host and port that the client reached the gateway by, if it said so. -/
  host : Option String
  /-- The path on the gateway that selects the backend. -/
  base : String
  /-- Where the gateway got the page. -/
  source : Url
deriving DecidableEq, Repr

/-- The path on the backend that a reference leads to, without dot segments. -/
def backendPath (source : Url) (path : String) : String :=
  if path.toList.head? = some '/' then Path.clean path
  else Path.clean (Path.dir source.path ++ "/" ++ path)

/-- The path on the gateway that leads to `path` on the backend. A slash at the end stays. -/
def gatewayPath (view : View) (path : String) : String :=
  let rooted := Path.join [view.base, backendPath view.source path]
  if path.toList.getLast? = some '/' ∧ rooted.toList.getLast? ≠ some '/' then rooted.push '/' else rooted

def write (view : View) (reference : Reference) : String :=
  let site := match view.host with
    | some host => view.scheme ++ "://" ++ host
    | none => ""
  site ++ gatewayPath view reference.path ++ (reference.query.map ("?" ++ ·)).getD "" ++
    (reference.fragment.map ("#" ++ ·)).getD ""

/-- The link that leads through the gateway to where `link` leads. -/
def reroot? (view : View) (link : String) : Option String :=
  let text := Text.trim Text.isBlank link.toList
  if text = [] ∨ text.head? = some '#' then none
  else
    match Reference.ofLink? view.source text with
    | some reference => if reference.path = "" then none else some (write view reference)
    | none => none

end Gateway.Link
