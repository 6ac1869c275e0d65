import Gateway.Http.Body
import Gateway.Http.Wire.Framing

/-! Bodies on their way. `take` turns the bytes that have arrived into parts of a body, one part at a time, and leaves
    those that belong to what comes after it; `close` says what the end of the connection means for a body that has
    not ended. -/

namespace Gateway.Http.Wire

/-- A body that arrives: how its end is told, and the bytes that have come and are not taken. -/
structure Arrival where
  framing : Framing
  unread : ByteArray

/-- What is taken at once. Without events and without an end there is nothing to take yet. -/
structure Arrived where
  events : List Event
  ended : Bool
  rest : Arrival

namespace Arrival

/-- A body that breaks off. -/
def broken : Event := .failure "error reading a body from connection"

def take (a : Arrival) : Arrived :=
  let data (bytes : ByteArray) : List Event := if bytes.isEmpty then [] else [.data bytes]
  match a.framing with
  | .untilClosed => ⟨data a.unread, false, { a with unread := .empty }⟩
  | .length n =>
    let bytes := a.unread.extract 0 (min n a.unread.size)
    let left := n - bytes.size
    ⟨data bytes, left = 0, ⟨.length left, a.unread.extract bytes.size a.unread.size⟩⟩
  | .chunked =>
    match takeChunk a.unread with
    | .more => ⟨[], false, a⟩
    | .faulty => ⟨[broken], true, a⟩
    | .taken (.data bytes) unread => ⟨[.data bytes], false, { a with unread }⟩
    | .taken (.last trailers) unread =>
      ⟨if trailers.fields = [] then [] else [.trailers trailers], true, { a with unread }⟩

/-- What happens last when the connection ends. -/
def close (a : Arrival) : List Event :=
  match a.framing with
  | .untilClosed => []
  | _ => [broken]

/-- More bytes have come. -/
def receive (a : Arrival) (bytes : ByteArray) : Arrival := { a with unread := a.unread ++ bytes }

end Arrival
end Gateway.Http.Wire
