import Gateway.Http.Headers

/-! Hop-by-hop fields. They describe one connection and end with it: some always, others because the
    `Connection` field lists them. An element of that list that is no name lists nothing. -/

namespace Gateway.Http

/-- The fields that always belong to one connection. -/
def hopByHop : List String := [
  "connection", "keep-alive", "proxy-connection", "proxy-authenticate", "proxy-authorization", "te", "trailer",
  "transfer-encoding", "upgrade"]

namespace Headers

/-- The names that the `Connection` fields list. -/
def listed (h : Headers) : List String :=
  (h.texts "connection").flatMap fun text => (elements text).filterMap fieldName?

/-- What is left behind the connection. -/
def endToEnd (h : Headers) : Headers :=
  let listed := h.listed
  ⟨h.fields.filter fun f => !listed.contains f.name && !hopByHop.contains f.name⟩

end Headers
end Gateway.Http
