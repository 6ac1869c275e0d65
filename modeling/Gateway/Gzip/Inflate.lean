import Gateway.Gzip.Code

/-! Inflating. A compressed text is a row of blocks: bytes that stand for themselves, or codewords for bytes and
    for copies of what has been written, under a fixed code or one that the block brings. `inflate` gives what
    comes out, and what follows the last block; it stops on its own once `bound` bytes have come out. -/

namespace Gateway.Gzip

/-- How inflating ends. -/
inductive Inflated
  /-- All blocks are done; `rest` follows them. -/
  | finished (out : ByteArray) (rest : List UInt8)
  /-- There is more than was asked for. -/
  | stopped
  /-- `out` came out before the fault. -/
  | faulty (fault : Fault) (out : ByteArray)

namespace Inflate

/-! ### Codes -/

/-- The code of bytes, the end and lengths that no block has to bring. -/
def fixedLengths : List Nat :=
  List.replicate 144 8 ++ List.replicate 112 9 ++ List.replicate 24 7 ++ List.replicate 8 8

def fixedLiterals : Code := .ofLengths fixedLengths

def fixedDistances : Code := .ofLengths (List.replicate 32 5)

/-- The codes of a block: for bytes, the end and lengths, and for distances. -/
structure Codes where
  literals : Code
  distances : Code

/-- The order in which the lengths of the code of lengths come. -/
def lengthOrder : List Nat := [16, 17, 18, 0, 8, 7, 9, 6, 10, 5, 11, 4, 12, 3, 13, 2, 14, 1, 15]

/-- Reads `n` numbers of three bits. -/
def lengthLengths : Nat → Bits → Except Fault (List Nat × Bits)
  | 0, bits => .ok ([], bits)
  | n + 1, bits => do
    let (length, bits) ← bits.number 3
    let (lengths, bits) ← lengthLengths n bits
    return (length :: lengths, bits)

/-- What a symbol of the code of lengths adds to the lengths: one, or a run of the last one or of zeros. -/
def lengthRun (symbol : Nat) (last : Option Nat) (bits : Bits) : Except Fault (List Nat × Bits) :=
  match symbol with
  | 16 =>
    match last with
    | none => .error .corrupt
    | some length => do
      let (n, bits) ← bits.number 2
      return (List.replicate (n + 3) length, bits)
  | 17 => do
    let (n, bits) ← bits.number 3
    return (List.replicate (n + 3) 0, bits)
  | 18 => do
    let (n, bits) ← bits.number 7
    return (List.replicate (n + 11) 0, bits)
  | length => .ok ([length], bits)

/-- Reads `missing` lengths; `last` is the one before them. Each symbol adds at least one. -/
def lengths (code : Code) : Nat → Nat → Option Nat → Bits → Except Fault (List Nat × Bits)
  | _, 0, _, bits => .ok ([], bits)
  | 0, _ + 1, _, _ => .error .corrupt
  | fuel + 1, missing + 1, last, bits => do
    let (symbol, bits) ← code.symbol bits
    let (run, bits) ← lengthRun symbol last bits
    if missing + 1 < run.length then .error .corrupt
    else
      let (more, bits) ← lengths code fuel (missing + 1 - run.length) run.getLast? bits
      return (run ++ more, bits)

/-- Reads the codes that a block brings. -/
def codes (bits : Bits) : Except Fault (Codes × Bits) := do
  let (literals, bits) ← bits.number 5
  let (distances, bits) ← bits.number 5
  let (n, bits) ← bits.number 4
  if literals > 29 ∨ distances > 29 then .error .corrupt
  else
    let literals := literals + 257
    let distances := distances + 1
    let (given, bits) ← lengthLengths (n + 4) bits
    let table := lengthOrder.zip given
    let code ← Code.ofLengths? ((List.range 19).map fun symbol => (table.lookup symbol).getD 0)
    let (all, bits) ← lengths code (literals + distances) (literals + distances) none bits
    let literals ← Code.ofLengths? (all.take literals)
    let distances ← Code.ofLengths? (all.drop (all.length - distances))
    return (⟨literals, distances⟩, bits)

/-! ### Symbols -/

/-- A base value and the number of bits that are added to it. -/
def lengthTable : Array (Nat × Nat) := #[
  (3, 0), (4, 0), (5, 0), (6, 0), (7, 0), (8, 0), (9, 0), (10, 0), (11, 1), (13, 1), (15, 1), (17, 1), (19, 2), (23, 2),
  (27, 2), (31, 2), (35, 3), (43, 3), (51, 3), (59, 3), (67, 4), (83, 4), (99, 4), (115, 4), (131, 5), (163, 5),
  (195, 5), (227, 5), (258, 0)]

def distanceTable : Array (Nat × Nat) := #[
  (1, 0), (2, 0), (3, 0), (4, 0), (5, 1), (7, 1), (9, 2), (13, 2), (17, 3), (25, 3), (33, 4), (49, 4), (65, 5), (97, 5),
  (129, 6), (193, 6), (257, 7), (385, 7), (513, 8), (769, 8), (1025, 9), (1537, 9), (2049, 10), (3073, 10), (4097, 11),
  (6145, 11), (8193, 12), (12289, 12), (16385, 13), (24577, 13)]

/-- The value that a symbol and the bits behind it make. -/
def valueOf (table : Array (Nat × Nat)) (symbol : Nat) (bits : Bits) : Except Fault (Nat × Bits) :=
  match table[symbol]? with
  | none => .error .corrupt
  | some (base, extra) => do
    let (n, bits) ← bits.number extra
    return (base + n, bits)

/-- What a codeword stands for. -/
inductive Symbol
  | byte (b : UInt8)
  | finish
  /-- A copy of `length` bytes from `distance` bytes back. -/
  | copy (length distance : Nat)

def symbol (codes : Codes) (bits : Bits) : Except Fault (Symbol × Bits) := do
  let (s, bits) ← codes.literals.symbol bits
  if s < 256 then return (.byte (UInt8.ofNat s), bits)
  else if s = 256 then return (.finish, bits)
  else
    let (length, bits) ← valueOf lengthTable (s - 257) bits
    let (d, bits) ← codes.distances.symbol bits
    let (distance, bits) ← valueOf distanceTable d bits
    return (.copy length distance, bits)

/-- Copies `n` bytes from `distance` bytes back, one by one, so that a copy may overlap what it makes. What lies
    before the first byte counts as zero. -/
def copy (distance : Nat) : Nat → ByteArray → ByteArray
  | 0, out => out
  | n + 1, out => copy distance n (out.push (if distance ≤ out.size then out.get! (out.size - distance) else 0))

/-! ### Blocks -/

/-- How a block ends. -/
inductive Ended
  | finished (out : ByteArray) (bits : Bits)
  | stopped
  | faulty (fault : Fault) (out : ByteArray)

/-- Bytes that stand for themselves: their number, its complement, and they. -/
def stored (out : ByteArray) (bits : Bits) : Ended :=
  match bits.bytes with
  | a :: b :: c :: d :: rest =>
    let length := a.toNat + 256 * b.toNat
    if length + (c.toNat + 256 * d.toNat) ≠ 65535 then .faulty .corrupt out
    else
      let out := out ++ (rest.take length).toByteArray
      if rest.length < length then .faulty .cutShort out else .finished out (.ofBytes (rest.drop length))
  | _ => .faulty .incomplete out

/-- Codewords up to the end of a block. Each of them takes at least one bit. -/
def coded (codes : Codes) (bound : Nat) : Nat → ByteArray → Bits → Ended
  | 0, out, _ => .faulty .incomplete out
  | fuel + 1, out, bits =>
    if bound ≤ out.size then .stopped
    else
      match symbol codes bits with
      | .error fault => .faulty fault out
      | .ok (.finish, bits) => .finished out bits
      | .ok (.byte b, bits) => coded codes bound fuel (out.push b) bits
      | .ok (.copy length distance, bits) => coded codes bound fuel (copy distance length out) bits

/-- A block of a kind. -/
def block (bound kind : Nat) (out : ByteArray) (bits : Bits) : Ended :=
  match kind with
  | 0 => stored out bits
  | 1 => coded ⟨fixedLiterals, fixedDistances⟩ bound (bits.left + 1) out bits
  | 2 =>
    match codes bits with
    | .error fault => .faulty fault out
    | .ok (codes, bits) => coded codes bound (bits.left + 1) out bits
  | _ => .faulty .corrupt out

/-- Blocks up to the last one. Each of them takes at least three bits. -/
def blocks (bound : Nat) : Nat → ByteArray → Bits → Inflated
  | 0, out, _ => .faulty .incomplete out
  | fuel + 1, out, bits =>
    if bound ≤ out.size then .stopped
    else
      match do
        let (last, bits) ← bits.bit
        let (kind, bits) ← bits.number 2
        return (last, kind, bits)
      with
      | .error fault => .faulty fault out
      | .ok (last, kind, bits) =>
        match block bound kind out bits with
        | .stopped => .stopped
        | .faulty fault out => .faulty fault out
        | .finished out bits => if last then .finished out bits.bytes else blocks bound fuel out bits

end Inflate

/-- Inflates a compressed text. -/
def inflate (bound : Nat) (bytes : List UInt8) : Inflated :=
  Inflate.blocks bound (8 * bytes.length + 1) .empty (.ofBytes bytes)

end Gateway.Gzip
