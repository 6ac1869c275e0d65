import Gateway.Gzip.Inflate

/-! Deflating. Without effort the bytes of a body stand for themselves. With effort they become one block in the
    fixed codes, of bytes and of copies of what stands before them; the greater the effort, the farther back copies
    are looked for. -/

namespace Gateway.Gzip

/-! ### Bytes that stand for themselves -/

/-- A block of at most 65535 bytes that stand for themselves. -/
def storedBlock (last : Bool) (bytes : List UInt8) : List UInt8 :=
  let n := bytes.length
  let rest := 65535 - n
  [if last then 1 else 0, UInt8.ofNat n, UInt8.ofNat (n / 256), UInt8.ofNat rest, UInt8.ofNat (rest / 256)] ++ bytes

/-- Blocks that hold all bytes. -/
def storedBlocks (bytes : List UInt8) : List UInt8 :=
  if bytes.length ≤ 65535 then storedBlock true bytes
  else storedBlock false (bytes.take 65535) ++ storedBlocks (bytes.drop 65535)
termination_by bytes.length
decreasing_by simp only [List.length_drop]; omega

/-! ### Writing bits -/

/-- A byte of its bits; those that are missing are zero. -/
def byteOf (bits : List Bool) : UInt8 := UInt8.ofNat (bits.foldr (fun b n => b.toNat + 2 * n) 0)

/-- What has been written: whole bytes, and the bits of the byte that has been begun. -/
structure Written where
  bytes : ByteArray
  held : List Bool
  short : held.length < 8

namespace Written

def empty : Written := ⟨.empty, [], by decide⟩

def bit (w : Written) (b : Bool) : Written :=
  if h : w.held.length < 7 then ⟨w.bytes, w.held ++ [b], by rw [List.length_append]; exact Nat.succ_lt_succ h⟩
  else ⟨w.bytes.push (byteOf (w.held ++ [b])), [], by decide⟩

def put (w : Written) (word : List Bool) : Written := word.foldl bit w

/-- All that has been written; the byte that has been begun is filled up with zeros. -/
def close (w : Written) : ByteArray := if w.held = [] then w.bytes else w.bytes.push (byteOf w.held)

end Written

/-! ### Words -/

/-- The low `n` bits of a number, the low ones first. -/
def lowFirst (n value : Nat) : List Bool := (List.range n).map value.testBit

namespace Code

/-- The codewords of the length `n`, of which `first` is the first one, and behind them the longer ones. -/
def wordsFrom (n first : Nat) : List Nat → List (List Bool)
  | [] => []
  | count :: counts =>
    (List.range count).map (fun i => (lowFirst n (first + i)).reverse) ++ wordsFrom (n + 1) (2 * (first + count)) counts

/-- The codeword of a symbol. -/
def word (code : Code) (symbol : Nat) : List Bool :=
  (wordsFrom 1 0 code.counts).getD (code.symbols.toList.idxOf symbol) []

end Code

namespace Deflate

def literalWords : Array (List Bool) := (Array.range 288).map Inflate.fixedLiterals.word

def distanceWords : Array (List Bool) := (Array.range 32).map Inflate.fixedDistances.word

def literalWord (symbol : Nat) : List Bool := literalWords.getD symbol []

def distanceWord (symbol : Nat) : List Bool := distanceWords.getD symbol []

/-- The symbol that makes a value, and the bits behind it. -/
def entry? (table : Array (Nat × Nat)) (value : Nat) : Option (Nat × List Bool) := do
  let ((base, extra), symbol) ← table.toList.zipIdx.reverse.find? fun ((base, extra), _) =>
    base ≤ value && value < base + Nat.pow 2 extra
  return (symbol, lowFirst extra (value - base))

/-- The word for a copy of `length` bytes from `distance` bytes back, if there is one. -/
def copyWord? (length distance : Nat) : Option (List Bool) := do
  let (l, more) ← entry? Inflate.lengthTable length
  let (d, more') ← entry? Inflate.distanceTable distance
  return literalWord (l + 257) ++ more ++ (distanceWord d ++ more')

/-! ### Copies -/

/-- How many bytes from a place on, and at most `n`, are the same as those `distance` bytes before them. -/
def matching (body : ByteArray) (distance : Nat) : Nat → Nat → Nat
  | 0, _ => 0
  | n + 1, place =>
    if place < body.size ∧ body.get! (place - distance) = body.get! place then matching body distance n (place + 1) + 1
    else 0

/-- Where bytes have stood, by numbers made of three bytes each. -/
abbrev Places := Array (Option Nat)

/-- The number that is made of the three bytes at a place, or zero if there are fewer. -/
def key (body : ByteArray) (place : Nat) : Nat :=
  if place + 2 < body.size then
    (1024 * (body.get! place).toNat + 32 * (body.get! (place + 1)).toNat + (body.get! (place + 2)).toNat) % 32768
  else 0

/-- Keeps in mind where the next `n` bytes stand. -/
def remember (body : ByteArray) : Nat → Nat → Places → Places
  | 0, _, places => places
  | n + 1, place, places => remember body n (place + 1) (places.setIfInBounds (key body place) (some place))

/-- The length of a copy, and from how far back it is. -/
def copy? (body : ByteArray) (reach place : Nat) (places : Places) : Option (Nat × Nat) := do
  let before ← (places[key body place]?).join
  let distance := place - before
  if reach < distance then none else return (matching body distance 258 place, distance)

/-- The word for what stands at a place, and how many bytes that is: a copy, if there is a word for it, or a byte. -/
def wordAt (body : ByteArray) (reach place : Nat) (places : Places) : List Bool × Nat :=
  match copy? body reach place places with
  | none => (literalWord (body.get! place).toNat, 1)
  | some (length, distance) =>
    match copyWord? length distance with
    | none => (literalWord (body.get! place).toNat, 1)
    | some word => (word, length)

/-- Writes a body from a place on. Each word is for at least one byte. -/
def compress (body : ByteArray) (reach : Nat) : Nat → Nat → Places → Written → Written
  | 0, _, _, w => w
  | fuel + 1, place, places, w =>
    if body.size ≤ place then w
    else
      let (word, n) := wordAt body reach place places
      compress body reach fuel (place + n) (remember body n place places) (w.put word)

/-- The one block of a body: what it is, the body, and the end. -/
def block (body : ByteArray) (reach : Nat) (places : Places) : Written :=
  (compress body reach body.size 0 places (Written.empty.put [true, true, false])).put (literalWord 256)

end Deflate

/-- A compressed text of a body. -/
def deflate (effort : Nat) (body : ByteArray) : ByteArray :=
  if effort = 0 then (storedBlocks body.toList).toByteArray
  else (Deflate.block body (Nat.pow 2 (effort + 6)) (Array.replicate 32768 none)).close

end Gateway.Gzip
