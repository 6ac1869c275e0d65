import Gateway.Http.Body
import Gateway.Http.Uri
import Gateway.Net.Address

/-! Requests as they come in, and the answers that clients get, whose bodies may be gathered and flushed. -/

namespace Gateway.Http

structure Request where
  method : String
  uri : Uri
  headers : Headers := .empty
  body : Body := .ofBytes .empty
  /-- The address of the client, where it is known. -/
  peer : Option Net.SocketAddress := none

/-- A word that may be a method. -/
def isMethod (text : String) : Bool := text != "" && text.toList.all isNameChar

/-- A request whose URI goes on with another path. -/
def Request.withPath (request : Request) (path : String) : Request :=
  { request with uri := { request.uri with rawPath := path } }

end Gateway.Http
