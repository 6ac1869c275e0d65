import Gateway.Http.Headers
import Gateway.Http.Uri
import Gateway.Text.Numeral

/-! The heads of messages. A head is a first line and lines of fields, up to an empty line; a line ends with a line
    feed, in front of which a carriage return may stand. A request begins with its method, its target and its
    version, a response with its version, its status and words for that. -/

namespace Gateway.Http.Wire

/-- What is wrong with a message. -/
inductive Fault
  | method
  | target
  | version
  | status
  | field
  | length
  | coding
  | tooLong
  /-- The connection ends before the message does. -/
  | cutShort
deriving DecidableEq, Repr

def Fault.message : Fault → String
  | method => "invalid HTTP method parsed"
  | target => "invalid URI"
  | version => "invalid HTTP version parsed"
  | status => "invalid HTTP status-code parsed"
  | field => "invalid HTTP header parsed"
  | length => "invalid content-length parsed"
  | coding => "invalid transfer-encoding parsed"
  | tooLong => "message head is too large"
  | cutShort => "connection closed before message completed"

inductive Version
  | http10
  | http11
deriving DecidableEq, Repr

/-! ### Lines -/

abbrev Line := List UInt8

/-- A line that came with its end turned around, as it was meant. -/
def Line.ofReversed : Line → Line
  | 13 :: line => line.reverse
  | line => line.reverse

/-- The lines up to an empty one, and what follows that, if so much has come. Empty lines in front do not count.
    `line` is what has been read of a line and `lines` the lines before it, the last first. -/
def linesOnto (line : Line) (lines : List Line) : List UInt8 → Option (List Line × List UInt8)
  | [] => none
  | b :: rest =>
    if b ≠ 10 then linesOnto (b :: line) lines rest
    else if Line.ofReversed line ≠ [] then linesOnto [] (Line.ofReversed line :: lines) rest
    else if lines = [] then linesOnto [] [] rest
    else some (lines.reverse, rest)

def lines? (bytes : List UInt8) : Option (List Line × List UInt8) := linesOnto [] [] bytes

/-- The text of a line each of whose bytes is a character. -/
def Line.chars (line : Line) : List Char := line.map fun b => Char.ofNat b.toNat

/-! ### Fields -/

/-- A field: a name, a colon at once, and a value with blanks around it. -/
def field (line : Line) : Except Fault Field :=
  let isBlank (b : UInt8) : Bool := b == 32 || b == 9
  match line.dropWhile (· != 58) with
  | [] => .error .field
  | _ :: value =>
    let value := ((value.dropWhile isBlank).reverse.dropWhile isBlank).reverse
    match fieldName? (Line.chars (line.takeWhile (· != 58))) with
    | some name => if value.all isCarried then .ok ⟨name, value.toByteArray⟩ else .error .field
    | none => .error .field

def headers (lines : List Line) : Except Fault Headers := do return ⟨← lines.mapM field⟩

/-! ### First lines -/

def version? (cs : List Char) : Option Version :=
  if cs = "HTTP/1.1".toList then some .http11
  else if cs = "HTTP/1.0".toList then some .http10
  else none

structure RequestHead where
  method : String
  uri : Uri
  version : Version
  headers : Headers

/-- The head of a request from its lines. -/
def RequestHead.ofLines : List Line → Except Fault RequestHead
  | [] => .error .cutShort
  | first :: rest =>
    match first.splitOn 32 with
    | [method, target, version] => do
      let method := String.ofList (Line.chars method)
      if ¬ method.toList.all isNameChar ∨ method = "" then .error .method
      let uri ← match String.fromUTF8? target.toByteArray with
        | some text => (Uri.ofText text).mapError fun _ => .target
        | none => .error .target
      match version? (Line.chars version) with
      | some version => return ⟨method, uri, version, ← Wire.headers rest⟩
      | none => .error .version
    | _ => .error .version

structure ResponseHead where
  version : Version
  status : Nat
  /-- The words for the status. -/
  reason : String
  headers : Headers

/-- Words that are characters in every reading, if they are. -/
def words (line : Line) : String := if line.all isVisible then String.ofList (Line.chars line) else ""

/-- The head of a response from its lines. -/
def ResponseHead.ofLines : List Line → Except Fault ResponseHead
  | [] => .error .cutShort
  | first :: rest =>
    match version? (Line.chars (first.takeWhile (· != 32))) with
    | none => .error .version
    | some version => do
      let status := (first.dropWhile (· != 32)).drop 1
      let code := status.takeWhile (· != 32)
      match Text.numeral? 10 (Line.chars code) with
      | some n =>
        if code.length = 3 ∧ 100 ≤ n then return ⟨version, n, words (status.drop 4), ← Wire.headers rest⟩
        else .error .status
      | none => .error .status

end Gateway.Http.Wire
