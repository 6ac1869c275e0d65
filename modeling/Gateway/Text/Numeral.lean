/-! Numerals. A numeral in a base up to sixteen is a non-empty run of its digits, in either case; its
    value is unbounded, and whoever has a width checks it. -/

namespace Gateway.Text

/-- The value of a digit of base sixteen. -/
def hexValue? (c : Char) : Option Nat :=
  if c.isDigit then some (c.toNat - '0'.toNat)
  else if 'a' ≤ c ∧ c ≤ 'f' then some (c.toNat - 'a'.toNat + 10)
  else if 'A' ≤ c ∧ c ≤ 'F' then some (c.toNat - 'A'.toNat + 10)
  else none

/-- The value of a digit of a base up to sixteen. -/
def digitValue? (base : Nat) (c : Char) : Option Nat := (hexValue? c).filter (· < base)

/-- The value of digits that follow digits of value `start`. -/
def numeralFrom? (base start : Nat) : List Char → Option Nat
  | [] => some start
  | c :: cs => (digitValue? base c).bind fun d => numeralFrom? base (start * base + d) cs

/-- The value of a numeral: at least one digit and nothing else. -/
def numeral? (base : Nat) : List Char → Option Nat
  | [] => none
  | cs => numeralFrom? base 0 cs

/-- A digit below sixteen, letters in lower case. -/
def hexDigit (n : Nat) : Char :=
  if n < 10 then Char.ofNat ('0'.toNat + n) else Char.ofNat ('a'.toNat + (n - 10))

/-- The numeral of base sixteen without leading zeros. -/
def hexNumeral (n : Nat) : List Char := Nat.toDigits 16 n

/-- The two digits of a byte, letters in lower case. -/
def hexByte (b : UInt8) : List Char := [hexDigit (b.toNat / 16), hexDigit (b.toNat % 16)]

end Gateway.Text
