import Gateway.Http.Forwarding
import Gateway.Http.Wire.Framing

/-! Messages in written form: what is sent to backends, and what is sent to clients. -/

namespace Gateway

namespace Http.Wire

/-- The usual words for a status. -/
def usualReason (status : Nat) : String :=
  ([(100, "Continue"), (101, "Switching Protocols"), (102, "Processing"), (103, "Early Hints"), (200, "OK"),
    (201, "Created"), (202, "Accepted"), (203, "Non Authoritative Information"), (204, "No Content"),
    (205, "Reset Content"), (206, "Partial Content"), (207, "Multi-Status"), (208, "Already Reported"),
    (226, "IM Used"), (300, "Multiple Choices"), (301, "Moved Permanently"), (302, "Found"), (303, "See Other"),
    (304, "Not Modified"), (305, "Use Proxy"), (307, "Temporary Redirect"), (308, "Permanent Redirect"),
    (400, "Bad Request"), (401, "Unauthorized"), (402, "Payment Required"), (403, "Forbidden"), (404, "Not Found"),
    (405, "Method Not Allowed"), (406, "Not Acceptable"), (407, "Proxy Authentication Required"),
    (408, "Request Timeout"), (409, "Conflict"), (410, "Gone"), (411, "Length Required"),
    (412, "Precondition Failed"), (413, "Payload Too Large"), (414, "URI Too Long"),
    (415, "Unsupported Media Type"), (416, "Range Not Satisfiable"), (417, "Expectation Failed"),
    (418, "I'm a teapot"), (421, "Misdirected Request"), (422, "Unprocessable Entity"), (423, "Locked"),
    (424, "Failed Dependency"), (425, "Too Early"), (426, "Upgrade Required"), (428, "Precondition Required"),
    (429, "Too Many Requests"), (431, "Request Header Fields Too Large"), (451, "Unavailable For Legal Reasons"),
    (500, "Internal Server Error"), (501, "Not Implemented"), (502, "Bad Gateway"), (503, "Service Unavailable"),
    (504, "Gateway Timeout"), (505, "HTTP Version Not Supported"), (506, "Variant Also Negotiates"),
    (507, "Insufficient Storage"), (508, "Loop Detected"), (510, "Not Extended"),
    (511, "Network Authentication Required")].lookup status).getD "<none>"

/-- A head, up to the empty line. -/
def writeHead (first : String) (h : Headers) : ByteArray :=
  (first ++ lineEnd).toUTF8 ++ writeFields h ++ lineEnd.toUTF8

/-! ### Bodies -/

/-- A piece of a body as it is sent. -/
def Framing.piece (framing : Framing) (bytes : ByteArray) : ByteArray :=
  if bytes.isEmpty then .empty
  else if framing = .chunked then (Chunk.data bytes).written
  else bytes

/-- What is sent behind a body; trailers find no place but behind chunks. -/
def Framing.finish (framing : Framing) (trailers : Headers) : ByteArray :=
  if framing = .chunked then (Chunk.last trailers).written else .empty

end Http.Wire

open Http Http.Wire

/-! ### Requests -/

/-- The head of a request for a backend, and how its body is sent. -/
def Outbound.head (r : Outbound) : ByteArray × Framing :=
  let target := r.uri.path ++ (r.uri.query.map ("?" ++ ·)).getD ""
  let host : Headers := Headers.empty.add "host" (r.uri.authority.getD "").toUTF8
  let (h, framing) := if r.body.saysEnd then (r.headers, .length 0) else delimit .http11 r.headers r.body.hint.upper
  (writeHead (r.method ++ " " ++ target ++ " HTTP/1.1") ⟨host.fields ++ h.fields⟩, framing)

/-! ### Answers -/

/-- What is known of a client when it is answered. -/
structure Client where
  method : String
  version : Version
  /-- It may send another request. -/
  keepsOpen : Bool

/-- The head of an answer, how its body is sent, and whether the connection stays open. -/
def Http.Answer.head (a : Answer) (client : Client) (date : String) : ByteArray × Framing × Bool :=
  let (h, framing) :=
    if client.method = "HEAD" ∨ a.status = 204 ∨ a.status = 304 ∨ a.status < 200 then (a.headers, .length 0)
    else delimit client.version a.headers a.length?
  let keepsOpen := client.keepsOpen && framing != .untilClosed
  let h := match client.version, keepsOpen with
    | .http11, true => h.remove "connection"
    | .http10, true => h.set "connection" "keep-alive".toUTF8
    | _, false => h.set "connection" "close".toUTF8
  let h := if h.contains "date" then h else h.add "date" date.toUTF8
  let version := match client.version with
    | .http11 => "HTTP/1.1"
    | .http10 => "HTTP/1.0"
  (writeHead s!"{version} {a.status} {a.reason.getD (usualReason a.status)}" h, framing, keepsOpen)

/-- The answer to a message that is no request. -/
def Http.Wire.Fault.answer (fault : Fault) : Answer :=
  Answer.stated (.ofResponse (.ofStatus (if fault = .tooLong then 431 else 400)))

end Gateway
