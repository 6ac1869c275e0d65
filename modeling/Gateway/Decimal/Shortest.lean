/-! Shortest decimals. Of all decimals that a floating point number is nearest to, the shortest are those with the
    fewest digits, and of them the nearest one is written: all its digits, without an exponent. -/

namespace Gateway.Decimal

/-- A positive rational number. -/
structure Ratio where
  num : Nat
  den : Nat

/-- `n · 2 ^ e` -/
def Ratio.scaled (n : Nat) (e : Int) : Ratio :=
  if 0 ≤ e then ⟨n * Nat.pow 2 e.toNat, 1⟩ else ⟨n, Nat.pow 2 (-e).toNat⟩

/-- The order of two rational numbers, by their cross products. -/
def Ratio.lt (a b : Ratio) : Bool := a.num * b.den < b.num * a.den

/-- `n · 10 ^ e` -/
def Ratio.decimal (n : Nat) (e : Int) : Ratio :=
  if 0 ≤ e then ⟨n * Nat.pow 10 e.toNat, 1⟩ else ⟨n, Nat.pow 10 (-e).toNat⟩

/-- A positive number of the form `m · 2 ^ e`, and the decimals that it is the nearest one to. -/
structure Interval where
  value : Ratio
  low : Ratio
  high : Ratio
  /-- The ends belong to it. -/
  closed : Bool

/-- The interval of a number with the significand `m`; `narrow` where the next smaller number is half as far
    away as the next greater one. -/
def Interval.ofSignificand (m : Nat) (e : Int) (narrow : Bool) : Interval where
  value := .scaled m e
  low := .scaled (4 * m - if narrow then 1 else 2) (e - 2)
  high := .scaled (4 * m + 2) (e - 2)
  closed := m % 2 = 0

def Interval.contains (i : Interval) (r : Ratio) : Bool :=
  (i.low.lt r && r.lt i.high) || (i.closed && !r.lt i.low && !i.high.lt r)

/-- The greatest `n` with `n · 10 ^ e` at most the number. -/
def floorAt (r : Ratio) (e : Int) : Nat :=
  if 0 ≤ e then r.num / (r.den * Nat.pow 10 e.toNat) else r.num * Nat.pow 10 (-e).toNat / r.den

/-- A number is at least as near to `a` below it as to `b` above it: twice the number is at most their sum. -/
def nearer (v a b : Ratio) : Bool :=
  let lhs := 2 * v.num * a.den * b.den
  let rhs := (a.num * b.den + b.num * a.den) * v.den
  lhs ≤ rhs

/-- The decimal in the interval that is a multiple of `10 ^ e`, the nearest one if there are two beside the number. -/
def multipleAt? (i : Interval) (e : Int) : Option Nat :=
  let n := floorAt i.value e
  let below := Ratio.decimal n e
  let above := Ratio.decimal (n + 1) e
  match i.contains below && 0 < n, i.contains above with
  | true, true => some (if nearer i.value below above then n else n + 1)
  | true, false => some n
  | false, true => some (n + 1)
  | false, false => none

/-- The first grid, from the coarsest on, that has a decimal in the interval. -/
def firstMultiple (i : Interval) : Nat → Int → Nat × Int
  | 0, e => (floorAt i.value e, e)
  | fuel + 1, e =>
    match multipleAt? i e with
    | some n => (n, e)
    | none => firstMultiple i fuel (e - 1)

/-- `n · 10 ^ e` without an exponent; with a point only where it has decimals. -/
def positional (n : Nat) (e : Int) : String :=
  let digits := Nat.toDigits 10 n
  if 0 ≤ e then String.ofList (digits ++ List.replicate e.toNat '0')
  else
    let places := (-e).toNat
    let padded := List.replicate (places + 1 - digits.length) '0' ++ digits
    String.ofList (padded.take (padded.length - places) ++ '.' :: padded.drop (padded.length - places))

/-- The leading digit of significands, which is not written. -/
def leadingBit : Nat := 0x10000000000000

/-- The text of a number of double precision. -/
def ofFloat (x : Float) : String :=
  if x.isNaN then "NaN"
  else
    let bits : Nat := x.toBits.toNat
    let sign := if bits / leadingBit / 2048 = 1 then "-" else ""
    let exponent : Nat := bits / leadingBit % 2048
    let fraction : Nat := bits % leadingBit
    if exponent = 2047 then sign ++ "inf"
    else if exponent = 0 ∧ fraction = 0 then sign ++ "0"
    else
      let i := if exponent = 0 then Interval.ofSignificand fraction (-1074) false
        else Interval.ofSignificand (fraction + leadingBit) ((exponent : Int) - 1075) (fraction = 0 ∧ 1 < exponent)
      let (n, e) := firstMultiple i 700 309
      sign ++ positional n e

end Gateway.Decimal
