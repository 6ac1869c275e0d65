/-! The directory of backends. It knows pods and services by namespace and name, and a lookup or listing may
    fail as a whole. Everyone else sees a directory as these four questions, whoever answers them. -/

namespace Gateway

/-- A namespace and the name of something in it. -/
structure Key where
  space : String
  name : String
deriving DecidableEq, Repr

/-- Namespaces come first, then names, both by the order of their characters. -/
def Key.le (a b : Key) : Bool := a.space < b.space || (a.space == b.space && a.name ≤ b.name)

/-- A pod has an address once it runs somewhere. -/
structure Pod where
  ip : Option String
deriving DecidableEq, Repr

/-- A service has the address of its cluster and the first port that it declares. -/
structure Service where
  clusterIp : Option String
  port : Option UInt16
deriving DecidableEq, Repr

/-- Who answers questions about backends. An error is the text of a failure. -/
structure Directory where
  pod : Key → Except String (Option Pod)
  service : Key → Except String (Option Service)
  /-- All pods, or those of one namespace, in order. -/
  pods : Option String → Except String (List (Key × Pod))
  services : Option String → Except String (List (Key × Service))

/-- A directory that cannot answer. -/
def Directory.failing (reason : String) : Directory :=
  ⟨fun _ => .error reason, fun _ => .error reason, fun _ => .error reason, fun _ => .error reason⟩

end Gateway
