import Gateway.Text.Numeral
import Gateway.Text.Trim

/-! Internet addresses and their texts. An address of version 4 is written as four decimal octets; one of
    version 6 as eight groups of base sixteen, where one run of zero groups may be left out between two
    colons and the last two groups may be written as octets. `IpAddress.ofText?` reads the strict forms;
    the lenient numbers that a host name may stand for are read by `Gateway.Url.Host`. -/

namespace Gateway.Net

structure Ipv4 where
  bits : UInt32
deriving DecidableEq, Repr

structure Ipv6 where
  groups : Vector UInt16 8
deriving DecidableEq, Repr

inductive IpAddress
  | v4 (address : Ipv4)
  | v6 (address : Ipv6)
deriving DecidableEq, Repr

/-- An address and a port. The zone of a scoped address does not matter to anyone here. -/
structure SocketAddress where
  ip : IpAddress
  port : UInt16
deriving DecidableEq, Repr

/-! ### Version 4 -/

namespace Ipv4

def octets (a : Ipv4) : List Nat :=
  let n := a.bits.toNat
  [n / 16777216, n / 65536 % 256, n / 256 % 256, n % 256]

/-- The address of a number of 32 bits. -/
def ofNat (n : Nat) : Ipv4 := ⟨UInt32.ofNat n⟩

def text (a : Ipv4) : String := ".".intercalate (a.octets.map toString)

/-- An octet has no leading zero. -/
def octet? (cs : List Char) : Option Nat :=
  if cs.head? = some '0' ∧ cs ≠ ['0'] then none
  else if cs.length ≤ 3 then (Text.numeral? 10 cs).filter (· < 256) else none

/-- The number that four octets write. -/
def number? (cs : List Char) : Option Nat :=
  match cs.splitOn '.' with
  | [a, b, c, d] => do
    return (((← octet? a) * 256 + (← octet? b)) * 256 + (← octet? c)) * 256 + (← octet? d)
  | _ => none

def ofText? (cs : List Char) : Option Ipv4 := (number? cs).map ofNat

end Ipv4

/-! ### Version 6 -/

namespace Ipv6

/-- The address of eight groups. -/
def ofGroups? (groups : List UInt16) : Option Ipv6 :=
  if h : groups.length = 8 then some ⟨⟨groups.toArray, by simpa using h⟩⟩ else none

/-- A group has one to four digits. -/
def group? (cs : List Char) : Option UInt16 :=
  if cs.length ≤ 4 then (Text.numeral? 16 cs).map UInt16.ofNat else none

/-- The groups between colons. Where `octets` is true, the last one may be four octets. -/
def groups? (octets : Bool) : List (List Char) → Option (List UInt16)
  | [] => some []
  | [last] =>
    match group? last with
    | some g => some [g]
    | none =>
      if octets then (Ipv4.number? last).map fun n => [UInt16.ofNat (n / 65536), UInt16.ofNat n] else none
  | cs :: rest => do return (← group? cs) :: (← groups? octets rest)

/-- The two sides of the first double colon. -/
def gap? : List Char → Option (List Char × List Char)
  | [] => none
  | ':' :: ':' :: rest => some ([], rest)
  | c :: rest => (gap? rest).map fun (left, right) => (c :: left, right)

/-- What stands on one side of a double colon, which may be nothing. -/
def side? (octets : Bool) (cs : List Char) : Option (List UInt16) :=
  if cs = [] then some [] else groups? octets (cs.splitOn ':')

def ofText? (cs : List Char) : Option Ipv6 :=
  match gap? cs with
  | none => do ofGroups? (← groups? true (cs.splitOn ':'))
  | some (left, right) => do
    let left ← side? false left
    let right ← side? true right
    if left.length + right.length < 8 then
      ofGroups? (left ++ List.replicate (8 - left.length - right.length) 0 ++ right)
    else none

/-- Where the first of the longest runs of zeros starts, and its length. -/
def longestZeros : Nat → List UInt16 → Nat × Nat
  | _, [] => (0, 0)
  | start, g :: rest =>
    let here := ((g :: rest).takeWhile (· == 0)).length
    let (later, most) := longestZeros (start + 1) rest
    if most ≤ here then (start, here) else (later, most)

/-- Lower case, no leading zeros, and the first longest run of at least two zero groups left out. -/
def text (a : Ipv6) : String :=
  let groups := a.groups.toList
  let written (gs : List UInt16) : String :=
    ":".intercalate (gs.map fun g => String.ofList (Text.hexNumeral g.toNat))
  let (start, length) := longestZeros 0 groups
  if 2 ≤ length then s!"{written (groups.take start)}::{written (groups.drop (start + length))}"
  else written groups

/-- The address of version 4 that a mapped address stands for. -/
def mapped? (a : Ipv6) : Option Ipv4 :=
  match a.groups.toList with
  | [0, 0, 0, 0, 0, 0xffff, high, low] => some (Ipv4.ofNat (high.toNat * 65536 + low.toNat))
  | _ => none

end Ipv6

/-! ### Either version -/

namespace IpAddress

/-- A mapped address shows the octets that it stands for. -/
def text : IpAddress → String
  | v4 a => a.text
  | v6 a =>
    match a.mapped? with
    | some inner => s!"::ffff:{inner.text}"
    | none => a.text

def ofText? (s : String) : Option IpAddress :=
  ((Ipv4.ofText? s.toList).map v4).or ((Ipv6.ofText? s.toList).map v6)

end IpAddress

namespace SocketAddress

/-- A decimal port, leading zeros allowed. -/
def port? (cs : List Char) : Option UInt16 :=
  ((Text.numeral? 10 cs).filter (· < UInt16.size)).map UInt16.ofNat

/-- A bracketed address, in which a number may follow a percent sign as its zone. -/
def bracketed? (cs : List Char) : Option Ipv6 :=
  match Text.cutAt '%' cs with
  | (address, none) => Ipv6.ofText? address
  | (address, some zone) => do
    if (← Text.numeral? 10 zone) < UInt32.size then Ipv6.ofText? address else none

def ofText? (s : String) : Option SocketAddress :=
  match s.toList with
  | '[' :: cs =>
    match Text.cutAt ']' cs with
    | (address, some (':' :: port)) => do return ⟨.v6 (← bracketed? address), ← port? port⟩
    | _ => none
  | cs =>
    match Text.cutAt ':' cs with
    | (address, some port) => do return ⟨.v4 (← Ipv4.ofText? address), ← port? port⟩
    | _ => none

def text (a : SocketAddress) : String :=
  match a.ip with
  | .v4 _ => s!"{a.ip.text}:{a.port}"
  | .v6 _ => s!"[{a.ip.text}]:{a.port}"

end SocketAddress
end Gateway.Net
