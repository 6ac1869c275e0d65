import Gateway.Gzip.Bits

/-! Prefix codes. A code is given by the lengths of its symbols' codewords: shorter codewords come before longer
    ones and, within a length, go by symbol, each the successor of the one before. `symbol` reads a codeword
    with the number of codewords of each length alone. -/

namespace Gateway.Gzip

structure Code where
  /-- The number of codewords of the lengths from 1 to 15. -/
  counts : List Nat
  /-- The symbols that have a codeword, in the order of their codewords. -/
  symbols : Array Nat

namespace Code

/-- The symbols whose codewords have the length `n`. -/
def symbolsOf (lengths : List Nat) (n : Nat) : List Nat :=
  lengths.zipIdx.filterMap fun (length, symbol) => if length = n then some symbol else none

def ofLengths (lengths : List Nat) : Code :=
  let groups := (List.range' 1 15).map (symbolsOf lengths)
  ⟨groups.map List.length, groups.flatten.toArray⟩

/-- The number of codewords of length 15 that are still free behind codewords of the given lengths, or nothing
    if these are too many. -/
def free? (space : Nat) : List Nat → Option Nat
  | [] => some space
  | count :: counts => if 2 * space < count then none else free? (2 * space - count) counts

/-- No more codewords than there is room for, and none free unless there is but one. -/
def isUsable (code : Code) : Bool := code.symbols.size ≤ 1 || free? 1 code.counts == some 0

/-- The code of lengths that make one. -/
def ofLengths? (lengths : List Nat) : Except Fault Code :=
  let code := ofLengths lengths
  if code.isUsable then .ok code else .error .corrupt

/-- Reads on in a codeword. The codewords of the length at hand start at `first`; `word` is what has been read,
    doubled, and `index` counts the symbols of shorter codewords. -/
def symbolFrom (symbols : Array Nat) (word first index : Nat) : List Nat → Bits → Except Fault (Nat × Bits)
  | [], _ => .error .corrupt
  | count :: counts, bits => do
    let (b, bits) ← bits.bit
    let word := word + b.toNat
    if word < first + count then
      match symbols[index + (word - first)]? with
      | some symbol => return (symbol, bits)
      | none => .error .corrupt
    else symbolFrom symbols (2 * word) (2 * (first + count)) (index + count) counts bits

def symbol (code : Code) (bits : Bits) : Except Fault (Nat × Bits) := symbolFrom code.symbols 0 0 0 code.counts bits

end Code
end Gateway.Gzip
