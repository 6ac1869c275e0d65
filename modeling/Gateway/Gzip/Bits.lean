/-! Bits of a compressed text. They are taken from each byte from the low end to the high; numbers come with the
    low bit first, and codes with the high bit first. Where a text breaks off, or holds what cannot be, a
    `Fault` says so. -/

namespace Gateway.Gzip

/-- Why a compressed text cannot be read on. -/
inductive Fault
  /-- It holds what no compressed text does. -/
  | corrupt
  /-- It ends too early. -/
  | incomplete
  /-- It ends too early within bytes that stand for themselves. -/
  | cutShort
deriving DecidableEq, Repr

/-- What is left of a text: the bits of the byte that has been begun, and the bytes behind it. -/
structure Bits where
  held : List Bool
  rest : List UInt8
deriving DecidableEq

namespace Bits

def ofBytes (bytes : List UInt8) : Bits := ⟨[], bytes⟩

/-- The bits of a byte. -/
def ofByte (b : UInt8) : List Bool := (List.range 8).map b.toNat.testBit

/-- The number of bits that are left. -/
def left (bits : Bits) : Nat := bits.held.length + 8 * bits.rest.length

def bit (bits : Bits) : Except Fault (Bool × Bits) :=
  match bits with
  | ⟨b :: held, rest⟩ => .ok (b, ⟨held, rest⟩)
  | ⟨[], byte :: rest⟩ => .ok (byte.toNat.testBit 0, ⟨(ofByte byte).tail, rest⟩)
  | ⟨[], []⟩ => .error .incomplete

/-- A number of `n` bits. -/
def number : Nat → Bits → Except Fault (Nat × Bits)
  | 0, bits => .ok (0, bits)
  | n + 1, bits => do
    let (b, bits) ← bits.bit
    let (high, bits) ← number n bits
    return (b.toNat + 2 * high, bits)

/-- The whole bytes that follow; what is left of the byte that has been begun is skipped. -/
def bytes (bits : Bits) : List UInt8 := bits.rest

/-! ### Each bit is taken once -/

theorem left_bit {bits : Bits} {b : Bool} {bits' : Bits} (h : bits.bit = .ok (b, bits')) :
    bits'.left + 1 = bits.left := by
  match bits with
  | ⟨c :: held, rest⟩ =>
    cases h
    simp only [left, List.length_cons]; omega
  | ⟨[], byte :: rest⟩ =>
    cases h
    simp only [left, ofByte, List.length_tail, List.length_map, List.length_range, List.length_cons, List.length_nil]
    omega
  | ⟨[], []⟩ => cases h

end Bits
end Gateway.Gzip
