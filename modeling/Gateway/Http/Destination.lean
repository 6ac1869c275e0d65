import Gateway.Directory.Resolution

/-! Destinations. The backend is asked for the remainder of the path, at its address, with the query of the
    request. -/

namespace Gateway

/-- The URL that a request for `target` is sent to. -/
def Target.destination (target : Target) (address : Address) (query : Option String) : String :=
  "http://" ++ address.text ++ target.backendPath ++ (query.map ("?" ++ ·)).getD ""

end Gateway
