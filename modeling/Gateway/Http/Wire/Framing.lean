import Gateway.Http.Wire.Head

/-! How the end of a body is told: by a length that the head states, by a last chunk, or by the end of the
    connection. Chunks are pieces with their lengths in front, the last of which is empty and has trailers behind
    it. -/

namespace Gateway.Http.Wire

inductive Framing
  | length (n : Nat)
  | chunked
  | untilClosed
deriving DecidableEq, Repr

/-! ### Heads -/

/-- The length that fields state. Where there are several, they agree. -/
def statedLength (h : Headers) : Except Fault (Option Nat) :=
  match h.values "content-length" with
  | [] => .ok none
  | value :: others =>
    match (text? value).bind fun text => (Text.numeral? 10 text.toList).filter (· < UInt64.size) with
    | some n => if others.all (· == value) then .ok (some n) else .error .length
    | none => .error .length

/-- The last coding of a value is by chunks. -/
def endsChunked (value : ByteArray) : Bool :=
  ((text? value).bind fun text => (elements text).getLast?).any (Text.sameCaseless · "chunked".toList)

/-- A request has a body only if it says so. -/
def Framing.ofRequest (head : RequestHead) : Except Fault Framing :=
  match (head.headers.values "transfer-encoding").getLast? with
  | some value => if head.version = .http11 ∧ endsChunked value then .ok .chunked else .error .coding
  | none => do return .length ((← statedLength head.headers).getD 0)

/-- A response to a request of some method has a body unless its status or that method rules it out. -/
def Framing.ofResponse (method : String) (head : ResponseHead) : Except Fault Framing :=
  if method = "HEAD" ∨ head.status = 204 ∨ head.status = 304 ∨ head.status < 200 then .ok (.length 0)
  else
    match (head.headers.values "transfer-encoding").getLast? with
    | some value =>
      if head.version = .http10 then .error .coding
      else .ok (if endsChunked value then .chunked else .untilClosed)
    | none => do return ((← statedLength head.headers).map .length).getD .untilClosed

/-- The connection can be used for another request. -/
def keepsOpen (head : RequestHead) : Bool :=
  let options := (head.headers.texts "connection").flatMap elements
  let names (option : String) : Bool := options.any (Text.sameCaseless · option.toList)
  match head.version with
  | .http11 => !names "close"
  | .http10 => names "keep-alive" && !names "close"

/-! ### Chunks -/

inductive Chunk
  | data (bytes : ByteArray)
  | last (trailers : Headers)

/-- What the beginning of some bytes is. -/
inductive Taken (α : Type)
  /-- There is too little to tell. -/
  | more
  | faulty
  | taken (a : α) (rest : ByteArray)

/-- The trailers behind the last chunk, up to an empty line. -/
def takeTrailers (bytes : ByteArray) : Taken Chunk :=
  match bytes.toList with
  | 13 :: 10 :: rest => .taken (.last .empty) rest.toByteArray
  | 10 :: rest => .taken (.last .empty) rest.toByteArray
  | all =>
    match lines? all with
    | none => .more
    | some (lines, rest) =>
      match headers lines with
      | .ok trailers => .taken (.last trailers) rest.toByteArray
      | .error _ => .faulty

/-- The first chunk: its length in base sixteen, a line end, its bytes and another line end. What stands on the
    line behind a semicolon does not matter. -/
def takeChunk (bytes : ByteArray) : Taken Chunk :=
  match bytes.data.findIdx? (· == 10) with
  | none => if bytes.size < 16384 then .more else .faulty
  | some stop =>
    let line := Line.chars (Line.ofReversed (bytes.extract 0 stop).toList.reverse)
    let digits := line.takeWhile (· != ';')
    match Text.numeral? 16 (Text.trim (fun c => c == ' ' || c == '\t') digits) with
    | none => .faulty
    | some 0 => takeTrailers (bytes.extract (stop + 1) bytes.size)
    | some n =>
      let first := stop + 1
      if bytes.size < first + n + 2 then .more
      else if bytes.data[first + n]? = some 13 ∧ bytes.data[first + n + 1]? = some 10 then
        .taken (.data (bytes.extract first (first + n))) (bytes.extract (first + n + 2) bytes.size)
      else .faulty

/-! ### Writing -/

def lineEnd : String := "\x0d\n"

def writeFields (h : Headers) : ByteArray :=
  h.fields.foldl (fun out f => out ++ (f.name ++ ": ").toUTF8 ++ f.value ++ lineEnd.toUTF8) .empty

def Chunk.written : Chunk → ByteArray
  | data bytes =>
    (String.ofList (Text.hexNumeral bytes.size) ++ lineEnd).toUTF8 ++ bytes ++ lineEnd.toUTF8
  | last trailers => ("0" ++ lineEnd).toUTF8 ++ writeFields trailers ++ lineEnd.toUTF8

/-- The fields that tell where a body of a known or an unknown length ends, and how it is sent. A length that is
    stated already counts; without any the body goes out in chunks, where the receiver knows them. -/
def delimit (receiver : Version) (h : Headers) (length : Option Nat) : Headers × Framing :=
  match statedLength h, length with
  | .ok (some n), _ => (h, .length n)
  | _, some n => (h.set "content-length" (toString n).toUTF8, .length n)
  | _, none =>
    if receiver = .http11 then (h.set "transfer-encoding" "chunked".toUTF8, .chunked) else (h, .untilClosed)

end Gateway.Http.Wire
