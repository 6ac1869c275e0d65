import Gateway.Text.Numeral

/-! Ranges of documents. A request may ask for some of the bytes only: from one position to another, from one to the
    end, or for the last so many. A range has to begin inside of the document and may be asked for up to
    a position behind its end. -/

namespace Gateway.Assets

/-- Which bytes are asked for. -/
inductive RangeSpec
  | between (first last : Nat)
  | onwards (first : Nat)
  | final (length : Nat)
deriving DecidableEq, Repr

/-- The positions of the first and the last byte. -/
structure Range where
  first : Nat
  last : Nat
deriving DecidableEq, Repr

namespace Range

/-- A position in decimal digits, without leading zeros. -/
def position? (cs : List Char) : Option Nat :=
  if cs.length ≠ 1 ∧ cs.head? = some '0' then none else (Text.numeral? 10 cs).filter (· < UInt64.size)

def spec? (cs : List Char) : Option RangeSpec := do
  match cs.splitOn '-' with
  | [[], length] => return .final (← position? length)
  | [first, []] => return .onwards (← position? first)
  | [first, last] => return .between (← position? first) (← position? last)
  | _ => none

/-- The ranges that a text asks for. A blank may follow a comma. -/
def specs? (text : String) : Option (List RangeSpec) :=
  let cs := text.toList
  if "bytes=".toList.isPrefixOf cs then
    match (cs.drop 6).splitOn ',' with
    | [] => none
    | first :: others =>
      (first :: others.map fun s => if s.head? = some ' ' then s.drop 1 else s).mapM spec?
  else none

/-- The bytes of a document of some size that are asked for, if they are in order. -/
def ofSpec? (size : Nat) (spec : RangeSpec) : Option Range :=
  let range? (first last : Nat) : Option Range := if first ≤ last then some ⟨first, last⟩ else none
  match spec with
  | .between first last => range? first (min last (size - 1))
  | .onwards first => range? first (size - 1)
  | .final length => if length ≤ size then range? (size - length) (size - 1) else none

def disjoint (a b : Range) : Bool := a.last < b.first || b.last < a.first

/-- No two ranges have a byte in common. -/
def allDisjoint : List Range → Bool
  | [] => true
  | r :: rest => rest.all (disjoint r) && allDisjoint rest

/-- The ranges of a document of some size that a text asks for, if they can be served at all. -/
def ofText? (size : Nat) (text : String) : Option (List Range) := do
  let ranges ← (← specs? text).mapM (ofSpec? size)
  if allDisjoint ranges then some ranges else none

end Range
end Gateway.Assets
