import Gateway.Text.Trim

/-! Targets. A proxied path names a backend: `/mount/namespace/kind/name`, for pods with a port segment
    behind it, and then the remainder that the backend is asked for. `Target.ofPath` reads such a path
    and `Target.backendPath` writes the part for the backend again. -/

namespace Gateway

/-- What a backend is: a pod, or a service in front of pods. -/
inductive Kind
  | pod
  | service
deriving DecidableEq, Repr

namespace Kind

def name : Kind → String
  | pod => "pod"
  | service => "service"

/-- A kind segment asks for a pod in any ASCII case, and for a service otherwise. -/
def ofSegment (segment : List Char) : Kind :=
  if Text.sameCaseless segment "pod".toList then pod else service

end Kind

/-- A backend as a path selects it. -/
structure Target where
  /-- The namespace that holds the backend. -/
  space : String
  kind : Kind
  name : String
  /-- The port segment, which only a pod has. -/
  port : Option String
  /-- The segments that the backend itself is asked for. -/
  remainder : List String
  trailingSlash : Bool
  /-- The rooted path of the segments that select the backend. -/
  base : String
deriving DecidableEq, Repr

/-- Why a path selects no backend. -/
inductive RoutingError
  | malformed (path : String)
deriving DecidableEq, Repr

def RoutingError.message : RoutingError → String
  | malformed path => s!"unable to determine kind and namespace from path '{path}'"

namespace Target

/-- The segments of a path, slashes at its two ends aside. -/
def segments (path : List Char) : List (List Char) :=
  match Text.trim (· == '/') path with
  | [] => []
  | trimmed => trimmed.splitOn '/'

/-- The rooted path of some segments. -/
def rooted (segments : List (List Char)) : String :=
  String.ofList ('/' :: ['/'].intercalate segments)

/-- Reads a path under a mount keyword. The port segment is taken from a pod's path only. -/
def ofPath (mount path : String) : Except RoutingError Target :=
  let trailingSlash := path.toList.getLast? == some '/'
  match segments path.toList with
  | mount' :: space :: kind :: name :: rest =>
    if mount' = mount.toList then
      match Kind.ofSegment kind, rest with
      | .pod, [] => .error (.malformed path)
      | .pod, port :: remainder => .ok {
          space := String.ofList space, kind := .pod, name := String.ofList name
          port := some (String.ofList port), remainder := remainder.map String.ofList
          trailingSlash, base := rooted [mount', space, kind, name, port] }
      | .service, remainder => .ok {
          space := String.ofList space, kind := .service, name := String.ofList name
          port := none, remainder := remainder.map String.ofList
          trailingSlash, base := rooted [mount', space, kind, name] }
    else .error (.malformed path)
  | _ => .error (.malformed path)

/-- The path to ask the backend for: rooted, and with the slash that the inbound path ended in. -/
def backendPath (target : Target) : String :=
  let path := rooted (target.remainder.map String.toList)
  if target.trailingSlash ∧ path.toList.getLast? ≠ some '/' then path.push '/' else path

end Target
end Gateway
