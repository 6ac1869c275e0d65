import Gateway.Directory.Basic
import Gateway.Routing.Target
import Gateway.Text.Numeral

/-! Addresses of targets. A pod is reached at its address and the port of the path, a service at its cluster
    address and its declared port. What has no address yet counts as not found, and a port is never zero. -/

namespace Gateway

/-- Where a backend is reached. -/
structure Address where
  host : String
  port : UInt16
deriving DecidableEq, Repr

/-- The host and port, in which a host with colons stands in brackets. -/
def Address.text (address : Address) : String :=
  let host := address.host.toList
  if host.contains ':' ∧ host.head? ≠ some '[' then s!"[{address.host}]:{address.port}"
  else s!"{address.host}:{address.port}"

/-- Why a target has no address. -/
inductive ResolveError
  | notFound (kind : Kind) (key : Key)
  | invalidPort (segment : String)
  | directory (reason : String)
deriving DecidableEq, Repr

def ResolveError.message : ResolveError → String
  | notFound kind key => kind.name ++ " '" ++ key.name ++ "' not found in namespace '" ++ key.space ++ "'"
  | invalidPort segment => "invalid port '" ++ segment ++ "'"
  | directory reason => "directory lookup failed: " ++ reason

namespace Resolution

/-- A port in decimal digits, a plus sign in front allowed. Zero is none. -/
def port? (segment : String) : Option UInt16 :=
  let digits := match segment.toList with
    | '+' :: rest => rest
    | cs => cs
  ((Text.numeral? 10 digits).filter fun n => 0 < n && n < UInt16.size).map UInt16.ofNat

/-- An address that something can be sent to. A service without one says `None`. -/
def host? (ip : Option String) : Option String := ip.filter fun ip => ip != "" && ip != "None"

end Resolution

open Resolution

/-- What a directory answers, its failure as a reason and its silence as `missing`. -/
def Directory.found {α : Type} (missing : ResolveError) : Except String (Option α) → Except ResolveError α
  | .error reason => .error (.directory reason)
  | .ok none => .error missing
  | .ok (some record) => .ok record

/-- The address that requests for a target go to. -/
def Directory.resolve (directory : Directory) (target : Target) : Except ResolveError Address := do
  let key : Key := ⟨target.space, target.name⟩
  let missing := ResolveError.notFound target.kind key
  match target.kind with
  | .pod =>
    let segment := target.port.getD ""
    let port ← (port? segment).elim (.error (.invalidPort segment)) .ok
    let pod ← Directory.found missing (directory.pod key)
    let host ← (host? pod.ip).elim (.error missing) .ok
    return ⟨host, port⟩
  | .service =>
    let service ← Directory.found missing (directory.service key)
    let host ← (host? service.clusterIp).elim (.error missing) .ok
    let port ← (service.port.filter (· != 0)).elim (.error missing) .ok
    return ⟨host, port⟩

end Gateway
