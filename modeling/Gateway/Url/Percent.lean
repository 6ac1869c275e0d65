import Gateway.Text.Numeral

/-! Percent escapes. A character of an escape set, and every character beyond ASCII, is written as the
    bytes of its UTF-8 form, each behind a percent sign. The sets grow with what must not appear where:
    the path set keeps what would end a path, the set for names before the host also what would end
    those. -/

namespace Gateway.Url

/-- Characters that are escaped everywhere. -/
def controlSet (c : Char) : Bool := c.toNat < 0x20 || 0x7e < c.toNat

def fragmentSet (c : Char) : Bool := controlSet c || "\u0020\"<>\u0060".toList.contains c

def querySet (c : Char) : Bool := controlSet c || "\u0020\"#<>".toList.contains c

/-- Queries of the schemes that browsers know escape the apostrophe too. -/
def specialQuerySet (c : Char) : Bool := querySet c || c == '\x27'

def pathSet (c : Char) : Bool := fragmentSet c || "#?\x7b\x7d".toList.contains c

def userinfoSet (c : Char) : Bool := pathSet c || "/:;=@[\\]^|".toList.contains c

/-- A byte behind a percent sign, letters in upper case. -/
def escapeByte (b : UInt8) : List Char := '%' :: (Text.hexByte b).map Char.toUpper

def escapeChar (set : Char → Bool) (c : Char) : List Char :=
  if set c then (String.utf8EncodeChar c).flatMap escapeByte else [c]

def escape (set : Char → Bool) (cs : List Char) : List Char := cs.flatMap (escapeChar set)

/-- Undoes the escapes in a byte string. A percent sign that no two digits follow stands for itself. -/
def unescape : List UInt8 → List UInt8
  | [] => []
  | [a] => [a]
  | [a, b] => [a, b]
  | a :: b :: c :: rest =>
    if a = 0x25 then
      match Text.hexValue? (Char.ofNat b.toNat), Text.hexValue? (Char.ofNat c.toNat) with
      | some high, some low => UInt8.ofNat (high * 16 + low) :: unescape rest
      | _, _ => a :: unescape (b :: c :: rest)
    else a :: unescape (b :: c :: rest)

end Gateway.Url
