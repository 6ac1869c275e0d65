import Gateway.Gzip.Checksum
import Gateway.Gzip.Deflate

/-! Members. A compressed body is a row of members: each has a head, a compressed text, and behind it the checksum
    and the length of what was compressed. `decode` undoes all members and refuses to give more than a limit;
    `encode` writes one member, and any other `Writer` may stand in its place. -/

namespace Gateway.Gzip

/-- Why a body cannot be decoded. -/
inductive DecodeError
  | invalidHead
  | unexpectedEnd
  | incomplete
  | corrupt
  /-- A checksum or length differs. -/
  | mismatch
  /-- There is more than `limit` bytes. -/
  | tooLarge (limit : Nat)
deriving DecidableEq, Repr

namespace DecodeError

def reason : DecodeError → String
  | invalidHead => "invalid gzip header"
  | unexpectedEnd => "unexpected end of file"
  | incomplete => "incomplete deflate stream"
  | corrupt => "corrupt deflate stream"
  | mismatch => "corrupt gzip stream does not have a matching checksum"
  | tooLarge _ => ""

def message : DecodeError → String
  | tooLarge limit => "decoded body exceeds " ++ toString limit ++ " bytes"
  | e => "failed to decode body: " ++ e.reason

def ofFault : Fault → DecodeError
  | .corrupt => corrupt
  | .incomplete => incomplete
  | .cutShort => unexpectedEnd

end DecodeError

/-! ### Heads -/

/-- Skips `n` bytes. -/
def skip (n : Nat) (bytes : List UInt8) : Except DecodeError (List UInt8) :=
  if bytes.length < n then .error .unexpectedEnd else .ok (bytes.drop n)

/-- Skips bytes up to and with the first zero. -/
def skipText (bytes : List UInt8) : Except DecodeError (List UInt8) :=
  match bytes.dropWhile (· != 0) with
  | [] => .error .unexpectedEnd
  | _ :: rest => .ok rest

/-- Skips bytes behind their number. -/
def skipExtra : List UInt8 → Except DecodeError (List UInt8)
  | low :: high :: rest => skip (low.toNat + 256 * high.toNat) rest
  | _ => .error .unexpectedEnd

/-- Compares the checksum of the head's bytes before it with the two bytes at hand. -/
def checkHead (bytes rest : List UInt8) : Except DecodeError (List UInt8) :=
  match rest with
  | low :: high :: after =>
    let sum := checksum (bytes.take (bytes.length - rest.length)).toByteArray
    if (littleEndian sum).take 2 = [low, high] then .ok after else .error .mismatch
  | _ => .error .unexpectedEnd

/-- Skips the head of a member: ten bytes and the parts that one of them announces. -/
def skipHead (bytes : List UInt8) : Except DecodeError (List UInt8) :=
  match bytes with
  | a :: b :: c :: flags :: _ :: _ :: _ :: _ :: _ :: _ :: rest => do
    if [a, b, c] ≠ [0x1f, 0x8b, 8] ∨ 32 ≤ flags.toNat then .error .invalidHead
    else
      let has (n : Nat) : Bool := flags.toNat.testBit n
      let rest ← if has 2 then skipExtra rest else .ok rest
      let rest ← if has 3 then skipText rest else .ok rest
      let rest ← if has 4 then skipText rest else .ok rest
      if has 1 then checkHead bytes rest else .ok rest
  | _ => .error .unexpectedEnd

/-! ### Decoding -/

/-- Compares what came out with the bytes behind the compressed text. -/
def checkTail (out : ByteArray) (rest : List UInt8) : Except DecodeError (List UInt8) :=
  if rest.length < 8 then .error .unexpectedEnd
  else if rest.take 8 = littleEndian (checksum out) ++ littleEndian (UInt32.ofNat out.size) then .ok (rest.drop 8)
  else .error .mismatch

/-- Inflating works in windows of this size. A window that has been begun is inflated to its end. -/
def windowSize : Nat := 32768

/-- Where inflating may stop: with the window that holds the byte behind the limit. -/
def bound (limit : Nat) : Nat := (limit / windowSize + 1) * windowSize

/-- Decodes a member of which at most `limit` bytes may come out; `total` is the limit of all members. -/
def decodeMember (limit total : Nat) (bytes : List UInt8) : Except DecodeError (ByteArray × List UInt8) := do
  let rest ← skipHead bytes
  match inflate (bound limit) rest with
  | .stopped => .error (.tooLarge total)
  | .faulty .corrupt _ => .error .corrupt
  | .faulty fault out => .error (if limit < out.size then .tooLarge total else .ofFault fault)
  | .finished out rest =>
    if limit < out.size then .error (.tooLarge total)
    else
      let rest ← checkTail out rest
      return (out, rest)

/-- Decodes member after member behind `out`. Each of them has at least one byte. -/
def decodeMembers (limit : Nat) : Nat → ByteArray → List UInt8 → Except DecodeError ByteArray
  | 0, out, _ => .ok out
  | fuel + 1, out, bytes => do
    let (more, rest) ← decodeMember (limit - out.size) limit bytes
    if rest = [] then return out ++ more else decodeMembers limit fuel (out ++ more) rest

/-- What members hold, if that is at most `limit` bytes. -/
def decode (limit : Nat) (bytes : ByteArray) : Except DecodeError ByteArray :=
  decodeMembers limit (bytes.size + 1) .empty bytes.toList

/-! ### Encoding -/

/-- The head of a member says by which effort it was made: most, least, or any. -/
def head (level : Nat) : List UInt8 :=
  [0x1f, 0x8b, 8, 0, 0, 0, 0, 0, if 9 ≤ level then 2 else if level ≤ 1 then 4 else 0, 0xff]

/-- One member that holds `body`. -/
def encode (level : Nat) (body : ByteArray) : ByteArray :=
  (head level).toByteArray ++ deflate level body ++ (littleEndian (checksum body)).toByteArray ++
    (littleEndian (UInt32.ofNat body.size)).toByteArray

/-- A way to write a member that holds a body, at a level. What becomes of pages is up to no writer in particular. -/
class Writer where
  write (level : Nat) (body : ByteArray) : ByteArray

instance : Writer := ⟨encode⟩

end Gateway.Gzip
