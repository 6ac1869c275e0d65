import Gateway.Http.Headers
import Gateway.Text.Numeral

/-! Request ids. A client may bring one; the gateway gives one to each request that has none. The answer carries
    the id of its request, unless it has one of its own. -/

namespace Gateway.Http

/-- An id of sixteen bytes, of which six bits say that the others were drawn by chance. -/
def chanceId (bytes : List UInt8) : String :=
  let marked := bytes.mapIdx fun i b => if i = 6 then b % 16 + 0x40 else if i = 8 then b % 64 + 0x80 else b
  let digits (first count : Nat) : String := String.ofList (((marked.drop first).take count).flatMap Text.hexByte)
  "-".intercalate [digits 0 4, digits 4 2, digits 6 2, digits 8 2, digits 10 6]

namespace Headers

/-- The id of a request, as far as it is a text. -/
def requestId (h : Headers) : String := (h.text? "x-request-id").getD "unknown"

/-- Gives a request the id `fresh` if it has none. -/
def withRequestId (h : Headers) (fresh : ByteArray) : Headers :=
  if h.contains "x-request-id" then h else h.add "x-request-id" fresh

/-- The fields of an answer to a request with the id `id`. -/
def answering (h : Headers) (id : ByteArray) : Headers :=
  if h.contains "x-request-id" then h else h.add "x-request-id" id

end Headers
end Gateway.Http
