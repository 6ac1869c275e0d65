/-! Base 64. Four characters stand for three bytes, six bits each; at the end, one or two `=` say how many bytes
    are missing from the last three. -/

namespace Gateway.Text.Base64

/-- The six bits that a character stands for. -/
def value? (c : Char) : Option Nat :=
  if 'A' ≤ c ∧ c ≤ 'Z' then some (c.toNat - 'A'.toNat)
  else if 'a' ≤ c ∧ c ≤ 'z' then some (c.toNat - 'a'.toNat + 26)
  else if '0' ≤ c ∧ c ≤ '9' then some (c.toNat - '0'.toNat + 52)
  else if c = '+' then some 62
  else if c = '/' then some 63
  else none

/-- The three bytes of a number of twenty-four bits. -/
def bytes (n : Nat) : List UInt8 := [UInt8.ofNat (n / 65536), UInt8.ofNat (n / 256), UInt8.ofNat n]

/-- The number of twenty-four bits that four groups of six make. -/
def joined (a b c d : Nat) : Nat := ((a * 64 + b) * 64 + c) * 64 + d

/-- The bytes that a text stands for. Bits that are left over at the end are zero. -/
def decode? : List Char → Option (List UInt8)
  | [] => some []
  | [a, b, '=', '='] => do
    let (a, b) := (← value? a, ← value? b)
    if b % 16 = 0 then some ((bytes (joined a b 0 0)).take 1) else none
  | [a, b, c, '='] => do
    let (a, b, c) := (← value? a, ← value? b, ← value? c)
    if c % 4 = 0 then some ((bytes (joined a b c 0)).take 2) else none
  | a :: b :: c :: d :: rest => do
    return bytes (joined (← value? a) (← value? b) (← value? c) (← value? d)) ++ (← decode? rest)
  | _ => none

end Gateway.Text.Base64
