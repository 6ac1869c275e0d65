import Gateway.Config.Basic
import Gateway.Routing.Pattern

/-! The routes of the gateway. It answers for itself below `/api`, passes on what lies below its mount, and
    serves files below a path of their own or, if that is the root, wherever nothing else is. The table
    cannot be built if a pattern is none, or conflicts with an earlier one. -/

namespace Gateway

/-- A page that the gateway writes itself. -/
inductive Page
  | ping
  | pods
  | podsOf
  | services
  | servicesOf
deriving DecidableEq, Repr

/-- What answers a request. -/
inductive Endpoint
  /-- A page for those who read, and the backends for requests that no page is for. -/
  | methods (page : Option Page) (passesOn : Bool)
  /-- The files, behind as many segments of the path. -/
  | files (depth : Nat)
deriving DecidableEq, Repr

structure Route where
  text : String
  pattern : Pattern
  endpoint : Endpoint
deriving DecidableEq, Repr

/-- The routes, and whether files are served where there is none. -/
structure Routes where
  routes : List Route
  filesElsewhere : Bool
deriving DecidableEq, Repr

/-- Why there is no table. -/
inductive RouteError
  | pattern (text : String) (reason : PatternError)
  | conflict (text other : String)
  /-- Files are to be served below the rest of a path. -/
  | filesBelowTail (text : String)
deriving DecidableEq, Repr

namespace Routes

/-! ### Adding -/

/-- Two endpoints of one path, which serve side by side if they answer different requests. -/
def joined? : Endpoint → Endpoint → Option Endpoint
  | .methods (some page) false, .methods none true => some (.methods (some page) true)
  | _, _ => none

/-- Adds a route, or joins it to one of the same text. -/
def add (routes : List Route) (text : String) (endpoint : Endpoint) : Except RouteError (List Route) :=
  match Pattern.ofText text with
  | .error reason => .error (.pattern text reason)
  | .ok pattern =>
    match (routes.find? (·.text == text)).bind fun r => joined? r.endpoint endpoint with
    | some both => .ok (routes.map fun r => if r.text = text then { r with endpoint := both } else r)
    | none =>
      match routes.find? fun r => r.pattern.conflicts pattern with
      | some other => .error (.conflict text other.text)
      | none => .ok (routes ++ [⟨text, pattern, endpoint⟩])

def addAll (routes : List Route) (entries : List (String × Endpoint)) : Except RouteError (List Route) :=
  entries.foldlM (fun routes (text, endpoint) => add routes text endpoint) routes

/-! ### The entries -/

/-- The pages of the gateway. -/
def pages : List (String × Endpoint) := [
  ("/api/ping", .methods (some .ping) false),
  ("/api/pods", .methods (some .pods) false),
  ("/api/\x7bnamespace\x7d/pods", .methods (some .podsOf) false),
  ("/api/services", .methods (some .services) false),
  ("/api/\x7bnamespace\x7d/services", .methods (some .servicesOf) false)]

/-- The mount with and without a slash, and everything below it. -/
def proxied (mount : String) : List (String × Endpoint) :=
  ["/" ++ mount, "/" ++ mount ++ "/", "/" ++ mount ++ "/\x7b*path\x7d"].map fun text => (text, .methods none true)

/-- The path that files are mounted at, without slashes at its end. -/
def filesBase (files : Config.StaticFiles) : String :=
  String.ofList (files.mountPath.toList.reverse.dropWhile (· == '/')).reverse

/-- A segment that takes the rest of a path. -/
def isTail (segment : List Char) : Bool :=
  "\x7b*".toList.isPrefixOf segment && "\x7d".toList.isSuffixOf segment && !"\x7d\x7d".toList.isSuffixOf segment

def served (base : String) : List (String × Endpoint) :=
  let depth := (Pattern.segments base.toList).length - 1
  [base ++ "/\x7b*file\x7d", base, base ++ "/"].map fun text => (text, .files depth)

/-- The table of a configuration. -/
def build (config : Config) : Except RouteError Routes := do
  let routes ← addAll [] (pages ++ proxied config.proxy.mount)
  if config.staticFiles.root.isNone then return ⟨routes, false⟩
  else
    let base := filesBase config.staticFiles
    if base = "" then return ⟨routes, true⟩
    else if (Pattern.segments base.toList).any isTail then .error (.filesBelowTail base)
    else return ⟨← addAll routes (served base), false⟩

/-! ### Finding -/

/-- A route, and what a path holds for the names of its pattern. -/
abbrev Hit := Route × List (String × List Char)

/-- The route that a path belongs to. -/
def find? (routes : Routes) (path : String) : Option Hit :=
  let hits := routes.routes.filterMap fun r => (r.pattern.match? path.toList).map (r, ·)
  hits.foldl (fun best hit => match best with
    | some b => if hit.1.pattern.precedes b.1.pattern then some hit else some b
    | none => some hit) none

end Routes
end Gateway
