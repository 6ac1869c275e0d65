import Gateway.Text.Numeral
import Gateway.Text.Trim

/-! Tables of characters. A table is written as lines of entries in base sixteen, blanks between them:
    `61-7a` stands for a range, `c0-d6/2:e0` for every second character of a range and where the first
    of them goes, and `df:73,73` for one character and what takes its place. -/

namespace Gateway.Text

/-- The range that `61-7a` or `61` writes. -/
def range? (cs : List Char) : Option (Nat × Nat) :=
  match cutAt '-' cs with
  | (only, none) => (numeral? 16 only).map fun n => (n, n)
  | (first, some last) => do return (← numeral? 16 first, ← numeral? 16 last)

/-- The entries of a table's lines. -/
def entries (lines : List String) : List (List Char) := lines.flatMap fun line => line.toList.splitOn ' '

/-! ### Sets -/

/-- A set of characters as ranges of their numbers. -/
structure CharSet where
  ranges : List (Nat × Nat)

namespace CharSet

def ofLines (lines : List String) : CharSet := ⟨(entries lines).filterMap range?⟩

def contains (set : CharSet) (c : Char) : Bool :=
  set.ranges.any fun (first, last) => first ≤ c.toNat && c.toNat ≤ last

end CharSet

/-! ### Maps -/

/-- What takes the place of each character of a range at a stride: the characters of `targets`, the
    last of them moved as far as the character lies behind the first of the range. -/
structure Substitution where
  first : Nat
  last : Nat
  stride : Nat
  targets : List Nat

namespace Substitution

def ofEntry? (cs : List Char) : Option Substitution := do
  let (source, target) := cutAt ':' cs
  let (range, stride) := cutAt '/' source
  let (first, last) ← range? range
  let targets ← (((← target).splitOn ',').mapM (numeral? 16))
  return ⟨first, last, ← numeral? 16 (stride.getD ['1']), targets⟩

def image? (s : Substitution) (c : Char) : Option (List Char) :=
  let n := c.toNat
  if s.first ≤ n ∧ n ≤ s.last ∧ (n - s.first) % s.stride = 0 then
    some (s.targets.dropLast.map Char.ofNat ++ (s.targets.getLast?.map fun t => Char.ofNat (t + (n - s.first))).toList)
  else none

end Substitution

/-- The substitutions of a table's lines. -/
def substitutions (lines : List String) : List Substitution :=
  (entries lines).filterMap Substitution.ofEntry?

end Gateway.Text
