import Gateway.Gzip.Deflate
import Gateway.Proofs.Results
import Mathlib.Data.Nat.Bitwise

/-! Bits that are written and read back. What has been written is a row of bits, and so is what is left to a reader; a
    word that a reader of numbers or symbols reads when it stands alone is what it reads of every row in front of which
    the word stands. -/

namespace Gateway.Gzip

/-! ### Bytes -/

theorem testBit_foldr (bits : List Bool) (i : Nat) :
    (bits.foldr (fun (b : Bool) n => b.toNat + 2 * n) 0).testBit i = bits.getD i false := by
  induction bits generalizing i with
  | nil => simp
  | cons b bits ih =>
    have hbit : ∀ value, b.toNat + 2 * value = Nat.bit b value := fun value => by
      rw [Nat.bit_val, Nat.add_comm]
    rw [List.foldr_cons, hbit]
    cases i with
    | zero => rw [Nat.testBit_bit_zero, List.getD_cons_zero]
    | succ i => rw [Nat.testBit_bit_succ, ih, List.getD_cons_succ]

/-- The bits that are missing are zero. -/
theorem ofByte_byteOf {bits : List Bool} (h : bits.length ≤ 8) :
    Bits.ofByte (byteOf bits) = bits ++ List.replicate (8 - bits.length) false := by
  apply List.ext_getElem
  · simp only [Bits.ofByte, List.length_map, List.length_range, List.length_append, List.length_replicate]
    omega
  · intro i hi _
    have hi8 : i < 8 := by simpa [Bits.ofByte] using hi
    have hbyte : (byteOf bits).toNat.testBit i = bits.getD i false := by
      rw [byteOf, UInt8.toNat_ofNat', Nat.testBit_mod_two_pow, testBit_foldr]
      simp [hi8]
    simp only [Bits.ofByte, List.getElem_map, List.getElem_range, hbyte, List.getElem_append, List.getElem_replicate]
    split
    · rename_i hlt
      exact List.getD_eq_getElem _ _ hlt
    · rename_i hge
      exact List.getD_eq_default _ _ (Nat.le_of_not_lt hge)

theorem length_ofByte (b : UInt8) : (Bits.ofByte b).length = 8 := by simp [Bits.ofByte]

theorem ofByte_injective : Function.Injective Bits.ofByte := by
  intro a b h
  have hnumbers : ∀ n < 256, byteOf (Bits.ofByte (UInt8.ofNat n)) = UInt8.ofNat n := by decide +kernel
  have hbyte (c : UInt8) : byteOf (Bits.ofByte c) = c := by
    have hc := hnumbers c.toNat c.toNat_lt
    rwa [UInt8.ofNat_toNat] at hc
  rw [← hbyte a, ← hbyte b, h]

/-! ### Writing -/

namespace Written
variable (w : Written)

/-- All that has been written. -/
def bits : List Bool := w.bytes.data.toList.flatMap Bits.ofByte ++ w.held

theorem bits_bit (b : Bool) : (w.bit b).bits = w.bits ++ [b] := by
  unfold bit
  split
  · exact (List.append_assoc ..).symm
  · rename_i hfull
    have hlength : (w.held ++ [b]).length = 8 := by
      have := w.short
      rw [List.length_append, List.length_singleton]
      omega
    have hbyte := ofByte_byteOf (Nat.le_of_eq hlength)
    rw [hlength, Nat.sub_self, List.replicate_zero, List.append_nil] at hbyte
    simp only [bits, ByteArray.data_push, Array.toList_push, List.flatMap_append, List.flatMap_singleton, hbyte,
      List.append_nil, List.append_assoc]

theorem bits_put (word : List Bool) : (w.put word).bits = w.bits ++ word := by
  rw [put]
  induction word generalizing w with
  | nil => exact (List.append_nil _).symm
  | cons b word ih => rw [List.foldl_cons, ih, bits_bit, List.append_assoc, List.singleton_append]

/-- The byte that has been begun is filled up. -/
theorem exists_bits_close : ∃ n < 8, w.close.data.toList.flatMap Bits.ofByte = w.bits ++ List.replicate n false := by
  unfold close
  split
  · rename_i hempty
    exact ⟨0, by decide, by simp [bits, hempty]⟩
  · rename_i hheld
    have hpos : 0 < w.held.length := List.length_pos_iff.mpr hheld
    refine ⟨8 - w.held.length, by omega, ?_⟩
    simp only [bits, ByteArray.data_push, Array.toList_push, List.flatMap_append, List.flatMap_singleton,
      ofByte_byteOf (Nat.le_of_lt w.short), List.append_assoc]

end Written

/-! ### Reading -/

namespace Bits

/-- The bits that are left to a reader are `ahead`. -/
structure Has (bits : Bits) (ahead : List Bool) : Prop where
  short : bits.held.length < 8
  ahead : bits.held ++ bits.rest.flatMap ofByte = ahead

theorem has_ofBytes (bytes : List UInt8) : (ofBytes bytes).Has (bytes.flatMap ofByte) :=
  ⟨Nat.zero_lt_succ 7, rfl⟩

theorem length_flatMap_ofByte (bytes : List UInt8) : (bytes.flatMap ofByte).length = 8 * bytes.length := by
  induction bytes with
  | nil => rfl
  | cons b bytes ih =>
    rw [List.flatMap_cons, List.length_append, length_ofByte, ih, List.length_cons]
    omega

theorem eq_of_flatMap_ofByte {xs ys : List UInt8} (h : xs.flatMap ofByte = ys.flatMap ofByte) : xs = ys := by
  have hlength : xs.length = ys.length := by
    have := congrArg List.length h
    rw [length_flatMap_ofByte, length_flatMap_ofByte] at this
    omega
  induction xs generalizing ys with
  | nil => exact (List.eq_nil_of_length_eq_zero hlength.symm).symm
  | cons x xs ih =>
    cases ys with
    | nil => cases hlength
    | cons y ys =>
      rw [List.flatMap_cons, List.flatMap_cons] at h
      obtain ⟨hbyte, hothers⟩ := List.append_inj h (by rw [length_ofByte, length_ofByte])
      rw [ofByte_injective hbyte, ih hothers (Nat.succ.inj hlength)]

/-- Whole bytes that follow a byte's end are what is left once the end is skipped. -/
theorem Has.bytes_eq {bits : Bits} {fill : List Bool} {bytes : List UInt8} (h : bits.Has (fill ++ bytes.flatMap ofByte))
    (hfill : fill.length < 8) : bits.bytes = bytes := by
  have hlength := congrArg List.length h.ahead
  have hshort := h.short
  simp only [List.length_append, length_flatMap_ofByte] at hlength
  exact eq_of_flatMap_ofByte (List.append_inj h.ahead (by omega)).2

end Bits

/-- A reader reads a value where a word stands, and leaves what is behind the word. -/
def Reads {α : Type} (read : Bits → Except Fault (α × Bits)) (word : List Bool) (a : α) : Prop :=
  ∀ (bits : Bits) (behind : List Bool), bits.Has (word ++ behind) → ∃ bits', read bits = .ok (a, bits') ∧ bits'.Has behind

section Readers
variable {α β : Type} {read : Bits → Except Fault (α × Bits)} {word word' : List Bool} {a : α} {b : β}

theorem reads_pure (a : α) : Reads (fun bits => .ok (a, bits)) [] a := fun bits _ h => ⟨bits, rfl, h⟩

/-- Readers one behind the other read words one behind the other. -/
theorem Reads.bind {f : α → Bits → Except Fault (β × Bits)} (h : Reads read word a) (hf : Reads (f a) word' b) :
    Reads (fun bits => read bits >>= fun (a, bits) => f a bits) (word ++ word') b := by
  intro bits behind hbits
  rw [List.append_assoc] at hbits
  obtain ⟨bits₁, hread, hbits₁⟩ := h bits _ hbits
  obtain ⟨bits₂, hread', hbits₂⟩ := hf bits₁ behind hbits₁
  exact ⟨bits₂, bind_eq_ok.mpr ⟨_, hread, hread'⟩, hbits₂⟩

theorem Reads.map {f : α → β} (h : Reads read word a) :
    Reads (fun bits => read bits >>= fun (a, bits) => .ok (f a, bits)) word (f a) := by
  have hbind := h.bind (f := fun a bits => .ok (f a, bits)) (reads_pure (f a))
  rwa [List.append_nil] at hbind

end Readers

theorem reads_bit (b : Bool) : Reads Bits.bit [b] b := by
  intro bits behind h
  obtain ⟨held, rest⟩ := bits
  obtain ⟨hshort, hahead⟩ := h
  cases held with
  | cons c held =>
    obtain ⟨rfl, hbehind⟩ := List.cons.inj hahead
    exact ⟨⟨held, rest⟩, rfl, Nat.lt_of_succ_lt hshort, hbehind⟩
  | nil =>
    cases rest with
    | nil => cases hahead
    | cons byte rest =>
      have hbyte : Bits.ofByte byte = byte.toNat.testBit 0 :: (Bits.ofByte byte).tail := rfl
      rw [List.nil_append, List.flatMap_cons, hbyte] at hahead
      obtain ⟨rfl, hbehind⟩ := List.cons.inj hahead
      exact ⟨⟨(Bits.ofByte byte).tail, rest⟩, rfl, by rw [List.length_tail, length_ofByte]; decide, hbehind⟩

theorem lowFirst_succ (n value : Nat) : lowFirst (n + 1) value = value.testBit 0 :: lowFirst n (value / 2) := by
  simp only [lowFirst, List.range_succ_eq_map, List.map_cons, List.map_map]
  refine congrArg _ (List.map_congr_left fun i _ => ?_)
  exact Nat.testBit_succ value i

theorem reads_number {n value : Nat} (h : value < 2 ^ n) : Reads (Bits.number n) (lowFirst n value) value := by
  induction n generalizing value with
  | zero =>
    obtain rfl : value = 0 := by simpa using h
    exact reads_pure 0
  | succ n ih =>
    have hhalf : value / 2 < 2 ^ n := by rw [Nat.pow_succ] at h; omega
    have hvalue : (value.testBit 0).toNat + 2 * (value / 2) = value := by
      rw [Nat.toNat_testBit]
      omega
    have hread := (reads_bit (value.testBit 0)).bind
      (f := fun b bits => Bits.number n bits >>= fun read => .ok (b.toNat + 2 * read.1, read.2))
      ((ih hhalf).map (f := fun high => (value.testBit 0).toNat + 2 * high))
    rw [hvalue] at hread
    rw [lowFirst_succ]
    exact hread

/-! ### Codewords -/

theorem reverse_lowFirst_succ (n value : Nat) :
    (lowFirst (n + 1) value).reverse = (lowFirst n (value / 2)).reverse ++ [value.testBit 0] := by
  rw [lowFirst_succ, List.reverse_cons]

namespace Code

theorem length_wordsFrom (n first : Nat) (groups : List (List Nat)) :
    (wordsFrom n first (groups.map List.length)).length = groups.flatten.length := by
  induction groups generalizing n first with
  | nil => rfl
  | cons group groups ih =>
    rw [List.map_cons, wordsFrom, List.length_append, ih, List.length_map, List.length_range, List.flatten_cons,
      List.length_append]

variable {symbols : Array Nat} {counts : List Nat} {codeword : List Bool}

theorem symbolFrom_bit {bits bits' : Bits} {b : Bool} (h : bits.bit = .ok (b, bits')) (word first index count : Nat) :
    symbolFrom symbols word first index (count :: counts) bits =
      if word + b.toNat < first + count then
        match symbols[index + (word + b.toNat - first)]? with
        | some symbol => .ok (symbol, bits')
        | none => .error .corrupt
      else symbolFrom symbols (2 * (word + b.toNat)) (2 * (first + count)) (index + count) counts bits' := by
  rw [symbolFrom, h]
  rfl

/-- A codeword of more than `n` bits, when `n` of them have been read. The induction is on the lengths; there is room for the
    codewords, and the longer ones come behind the ones at hand. -/
theorem exists_behind_prefix (index : Nat) {n first space i : Nat} (hspace : 2 * space + first = 2 ^ (n + 1))
    (hfree : (free? space counts).isSome = true) (hword : (wordsFrom (n + 1) first counts)[i]? = some codeword) :
    ∃ value more, codeword = (lowFirst n value).reverse ++ more ∧ value < 2 ^ n ∧ first ≤ 2 * value + 1 ∧
      ∀ symbol, symbols[index + i]? = some symbol → Reads (symbolFrom symbols (2 * value) first index counts) more symbol := by
  induction counts generalizing n first index space i with
  | nil => simp [wordsFrom] at hword
  | cons count counts ih =>
    have hpow : 2 ^ (n + 1) = 2 * 2 ^ n := Nat.pow_succ'
    have hhalf (value : Nat) : 2 * (value / 2) + (value.testBit 0).toNat = value := by
      rw [Nat.toNat_testBit]
      omega
    rw [free?] at hfree
    split at hfree
    · cases hfree
    rename_i hroom
    rw [wordsFrom] at hword
    by_cases hi : i < count
    · rw [List.getElem?_append_left (by simpa using hi), List.getElem?_map, List.getElem?_range hi] at hword
      obtain rfl := Option.some.inj hword
      refine ⟨(first + i) / 2, [(first + i).testBit 0], reverse_lowFirst_succ n _, by omega, by omega,
        fun symbol hsymbol bits behind hbits => ?_⟩
      obtain ⟨bits', hbit, hbits'⟩ := reads_bit _ bits behind hbits
      rw [symbolFrom_bit hbit, hhalf, if_pos (by omega), Nat.add_sub_cancel_left, hsymbol]
      exact ⟨bits', rfl, hbits'⟩
    · have hnext : 2 * (2 * space - count) + 2 * (first + count) = 2 ^ (n + 1 + 1) := by
        rw [Nat.pow_succ']
        omega
      rw [List.getElem?_append_right (by simpa using hi), List.length_map, List.length_range] at hword
      obtain ⟨value, more, rfl, hlt, hfirst, hreads⟩ := ih (index + count) hnext hfree hword
      refine ⟨value / 2, value.testBit 0 :: more, ?_, by omega, by omega, fun symbol hsymbol bits behind hbits => ?_⟩
      · rw [reverse_lowFirst_succ, List.append_assoc, List.singleton_append]
      · obtain ⟨bits', hbit, hbits'⟩ := reads_bit _ bits _ hbits
        rw [symbolFrom_bit hbit, hhalf, if_neg (by omega)]
        exact hreads symbol (by rwa [show index + count + (i - count) = index + i by omega]) bits' behind hbits'

/-- Where there is room for all codewords, each symbol is read from its own. -/
theorem reads_word {code : Code} {s : Nat} (hfree : (free? 1 code.counts).isSome = true)
    (hsize : (wordsFrom 1 0 code.counts).length = code.symbols.size) (hs : s ∈ code.symbols) : Reads code.symbol (code.word s) s := by
  have hplace : code.symbols.toList.idxOf s < code.symbols.toList.length :=
    List.idxOf_lt_length_iff.mpr (Array.mem_toList_iff.mpr hs)
  have hwords : code.symbols.toList.idxOf s < (wordsFrom 1 0 code.counts).length := by
    rwa [hsize, ← Array.length_toList]
  have hsymbol : code.symbols[0 + code.symbols.toList.idxOf s]? = some s := by
    rw [Nat.zero_add, ← Array.getElem?_toList, List.getElem?_eq_getElem hplace, List.getElem_idxOf]
  obtain ⟨value, more, hword, hlt, -, hreads⟩ :=
    exists_behind_prefix 0 (show 2 * 1 + 0 = 2 ^ (0 + 1) from rfl) hfree (List.getElem?_eq_getElem hwords)
  obtain rfl : value = 0 := by simpa using hlt
  rw [word, List.getD_eq_getElem _ _ hwords, hword]
  exact hreads s hsymbol

theorem mem_symbols_ofLengths {lengths : List Nat} {s : Nat} (hs : s < lengths.length)
    (hlengths : ∀ n ∈ lengths, 1 ≤ n ∧ n ≤ 15) : s ∈ (ofLengths lengths).symbols := by
  have hn := hlengths _ (List.getElem_mem hs)
  rw [ofLengths, List.mem_toArray, List.mem_flatten]
  refine ⟨_, List.mem_map.mpr ⟨lengths[s], List.mem_range'_1.mpr ⟨hn.1, by omega⟩, rfl⟩, ?_⟩
  rw [symbolsOf, List.mem_filterMap]
  exact ⟨(lengths[s], s), List.mem_zipIdx_iff_getElem?.mpr (List.getElem?_eq_getElem hs), if_pos rfl⟩

theorem reads_word_ofLengths {lengths : List Nat} {s : Nat} (hfree : (free? 1 (ofLengths lengths).counts).isSome = true)
    (hs : s < lengths.length) (hlengths : ∀ n ∈ lengths, 1 ≤ n ∧ n ≤ 15) :
    Reads (ofLengths lengths).symbol ((ofLengths lengths).word s) s := by
  refine reads_word hfree ?_ (mem_symbols_ofLengths hs hlengths)
  exact length_wordsFrom 1 0 _

end Code

end Gateway.Gzip
