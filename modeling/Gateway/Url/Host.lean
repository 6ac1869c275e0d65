import Gateway.Net.Address
import Gateway.Url.Domain.Name
import Gateway.Url.Percent

/-! Hosts of URLs. The schemes that browsers know name a host by a domain name or an address; a name whose
    last label is a number stands for an address of version 4, whose numbers may be fewer than four and
    written in base eight, ten or sixteen. Under other schemes a host is a text that is only escaped.
    Addresses of version 6 stand between brackets everywhere. -/

namespace Gateway

/-- Why a text is no URL. -/
inductive UrlError
  | emptyHost
  | domainName
  | port
  | ipv4
  | ipv6
  | hostCharacter
  | relative
deriving DecidableEq, Repr

def UrlError.message : UrlError → String
  | emptyHost => "empty host"
  | domainName => "invalid international domain name"
  | port => "invalid port number"
  | ipv4 => "invalid IPv4 address"
  | ipv6 => "invalid IPv6 address"
  | hostCharacter => "invalid domain character"
  | relative => "relative URL without a base"

namespace Url

/-- A host. The name is the ASCII form of a domain name, or escaped text under a scheme of its own. -/
inductive Host
  | name (text : String)
  | ipv4 (address : Net.Ipv4)
  | ipv6 (address : Net.Ipv6)
deriving DecidableEq, Repr

namespace Host

def text : Host → String
  | name text => text
  | ipv4 address => address.text
  | ipv6 address => s!"[{address.text}]"

/-! ### Numbers as addresses -/

/-- A number in base sixteen behind `0x`, in base eight behind `0`, or in base ten. Nothing behind `0x`
    counts as zero. -/
def number? : List Char → Option Nat
  | [] => none
  | ['0'] => some 0
  | '0' :: 'x' :: cs => if cs = [] then some 0 else Text.numeral? 16 cs
  | '0' :: 'X' :: cs => if cs = [] then some 0 else Text.numeral? 16 cs
  | '0' :: cs => Text.numeral? 8 cs
  | cs => Text.numeral? 10 cs

/-- The labels of a name, an empty one at the end aside. -/
def labels (ascii : List Char) : List (List Char) :=
  let all := ascii.splitOn '.'
  if all.getLast? = some [] then all.dropLast else all

/-- A name that ends in a number has to be an address. -/
def endsInNumber (ascii : List Char) : Bool :=
  match (labels ascii).getLast? with
  | none => false
  | some last => (last ≠ [] && last.all Char.isDigit) || (number? last).isSome

/-- The last of up to four numbers fills all the octets that the numbers before it leave. -/
def address? (ascii : List Char) : Option Net.Ipv4 := do
  let numbers ← (labels ascii).mapM number?
  let last ← numbers.getLast?
  let octets := numbers.dropLast
  let room := Nat.pow 256 (4 - octets.length)
  if 3 < octets.length ∨ octets.any (255 < ·) ∨ room ≤ last then none
  else return Net.Ipv4.ofNat (octets.foldl (fun n o => n * 256 + o) 0 * room + last)

/-! ### Reading -/

/-- What stands between brackets is an address of version 6. -/
def bracketed (cs : List Char) : Except UrlError Host :=
  if cs.getLast? = some ']' then
    match Net.Ipv6.ofText? cs.dropLast with
    | some address => .ok (.ipv6 address)
    | none => .error .ipv6
  else .error .ipv6

/-- The characters that UTF-8 bytes stand for. -/
def ofUtf8? (bytes : List UInt8) : Option (List Char) :=
  (String.fromUTF8? bytes.toByteArray).map String.toList

/-- The host of a scheme that browsers know. Escapes are undone before the name is read. -/
def ofDomain (cs : List Char) : Except UrlError Host :=
  match cs with
  | '[' :: rest => bracketed rest
  | _ =>
    match (ofUtf8? (unescape (String.ofList cs).toUTF8.toList)).bind Domain.name? with
    | none => .error .domainName
    | some [] => .error .emptyHost
    | some ascii =>
      if endsInNumber ascii then
        match address? ascii with
        | some address => .ok (.ipv4 address)
        | none => .error .ipv4
      else .ok (.name (String.ofList ascii))

/-- The host of any other scheme. -/
def ofText (cs : List Char) : Except UrlError Host :=
  match cs with
  | '[' :: rest => bracketed rest
  | _ =>
    if cs.any "\x00\t\n\r\u0020#/:<>?@[\\]^|".toList.contains then .error .hostCharacter
    else .ok (.name (String.ofList (escape controlSet cs)))

end Host
end Url
end Gateway
