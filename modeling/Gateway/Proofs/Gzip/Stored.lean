import Gateway.Gzip.Member
import Gateway.Proofs.Text.Utf8

/-! Blocks of bytes that stand for themselves. What they are inflated to is the bytes, whatever follows them. -/

namespace Gateway.Gzip

open Inflate

variable {n bound fuel : Nat} {out : ByteArray} {bytes rest : List UInt8} {last : Bool}

/-- A number of two bytes, the low one first. -/
theorem word_eq (h : n ≤ 65535) : (UInt8.ofNat n).toNat + 256 * (UInt8.ofNat (n / 256)).toNat = n := by
  rw [UInt8.toNat_ofNat', UInt8.toNat_ofNat']
  omega

theorem stored_storedBlock (held : List Bool) (h : bytes.length ≤ 65535) :
    stored out ⟨held, (storedBlock last bytes).tail ++ rest⟩ = .finished (out ++ bytes.toByteArray) (.ofBytes rest) := by
  have hlength := word_eq h
  have hcomplement := word_eq (Nat.sub_le 65535 bytes.length)
  simp only [stored, storedBlock, Bits.bytes, List.tail_cons, List.cons_append, List.nil_append]
  rw [hlength, hcomplement, if_neg (by omega), if_neg (by simp)]
  simp

/-- The bits in front of a block of bytes say whether it is the last one, and that it is of this kind. -/
theorem head_storedBlock (last : Bool) (rest : List UInt8) :
    (do
      let (last, bits) ← (Bits.ofBytes ((if last then 1 else 0) :: rest)).bit
      let (kind, bits) ← bits.number 2
      return (last, kind, bits)) = (.ok (last, 0, ⟨List.replicate 5 false, rest⟩) : Except Fault (Bool × Nat × Bits)) := by
  cases last <;> rfl

theorem blocks_storedBlock (h : bytes.length ≤ 65535) (hout : out.size < bound) :
    blocks bound (fuel + 1) out (.ofBytes (storedBlock last bytes ++ rest)) =
      if last then .finished (out ++ bytes.toByteArray) rest
      else blocks bound fuel (out ++ bytes.toByteArray) (.ofBytes rest) := by
  have hblock : storedBlock last bytes ++ rest =
      (if last then 1 else 0) :: ((storedBlock last bytes).tail ++ rest) := rfl
  rw [blocks, if_neg (Nat.not_le_of_lt hout), hblock, head_storedBlock]
  simp only [block, stored_storedBlock _ h]
  rfl

theorem length_storedBlock (last : Bool) (bytes : List UInt8) : (storedBlock last bytes).length = bytes.length + 5 := by
  simp [storedBlock]

/-- The induction is on the blocks; every block has bytes enough for its question. -/
theorem blocks_storedBlocks (bytes rest : List UInt8) (out : ByteArray) (hout : out.size + bytes.length < bound)
    (hfuel : (storedBlocks bytes).length ≤ fuel) :
    blocks bound fuel out (.ofBytes (storedBlocks bytes ++ rest)) = .finished (out ++ bytes.toByteArray) rest := by
  fun_induction storedBlocks bytes generalizing out fuel with
  | case1 bytes h =>
    rw [length_storedBlock] at hfuel
    obtain ⟨fuel, rfl⟩ := Nat.exists_eq_succ_of_ne_zero (show fuel ≠ 0 by omega)
    rw [blocks_storedBlock h (by omega), if_pos rfl]
  | case2 bytes h ih =>
    have htake : (bytes.take 65535).length ≤ 65535 := List.length_take_le ..
    rw [List.length_append, length_storedBlock] at hfuel
    obtain ⟨fuel, rfl⟩ := Nat.exists_eq_succ_of_ne_zero (show fuel ≠ 0 by omega)
    rw [List.append_assoc, blocks_storedBlock htake (by omega), if_neg Bool.false_ne_true, ih, ByteArray.append_assoc,
      ← List.toByteArray_append, List.take_append_drop]
    · rw [ByteArray.size_append, List.size_toByteArray, Nat.add_assoc, ← List.length_append, List.take_append_drop]
      exact hout
    · omega

theorem inflate_storedBlocks (bytes rest : List UInt8) (h : bytes.length < bound) :
    inflate bound (storedBlocks bytes ++ rest) = .finished bytes.toByteArray rest := by
  rw [inflate, blocks_storedBlocks bytes rest _ (by simpa using h), ByteArray.empty_append]
  rw [List.length_append]
  omega

end Gateway.Gzip
