import Gateway.Proofs.Gzip.Bits
import Gateway.Proofs.Gzip.Progress
import Gateway.Proofs.Gzip.Stored

/-! Deflated texts. Each word that is written is read as a byte or as a copy that makes a longer part of the body out of a
    shorter one, however the place of the copy has been found. So what a body is deflated to is inflated to the body. -/

namespace Gateway.Gzip

open Inflate

namespace Deflate

/-- The codes of the one block that is written. -/
def codes : Codes := ⟨fixedLiterals, fixedDistances⟩

/-! ### Words and symbols -/

theorem reads_literal {s : Nat} (h : s < 288) : Reads fixedLiterals.symbol (literalWord s) s := by
  have hwords : literalWord s = fixedLiterals.word s := by simp [literalWord, literalWords, h]
  have hlength : fixedLengths.length = 288 := by
    simp only [fixedLengths, List.length_append, List.length_replicate]
  rw [hwords]
  refine Code.reads_word_ofLengths (by decide +kernel) (hlength ▸ h) fun n hn => ?_
  simp only [fixedLengths, List.mem_append, List.mem_replicate] at hn
  omega

theorem reads_distance {s : Nat} (h : s < 32) : Reads fixedDistances.symbol (distanceWord s) s := by
  have hwords : distanceWord s = fixedDistances.word s := by simp [distanceWord, distanceWords, h]
  rw [hwords]
  refine Code.reads_word_ofLengths (by decide +kernel) (by rwa [List.length_replicate]) fun n hn => ?_
  rw [List.mem_replicate] at hn
  omega

section
variable {table : Array (Nat × Nat)} {value s : Nat} {more : List Bool}

theorem exists_entry (h : entry? table value = some (s, more)) : ∃ base extra, table[s]? = some (base, extra) ∧
    base ≤ value ∧ value - base < 2 ^ extra ∧ more = lowFirst extra (value - base) := by
  obtain ⟨⟨⟨base, extra⟩, s'⟩, hfind, heq⟩ := Option.bind_eq_some_iff.mp h
  cases heq
  have hfits := List.find?_some hfind
  have hmem := List.mem_of_find?_eq_some hfind
  rw [List.mem_reverse, List.mem_zipIdx_iff_getElem?, Array.getElem?_toList] at hmem
  simp only [Bool.and_eq_true, decide_eq_true_eq] at hfits
  exact ⟨base, extra, hmem, hfits.1, Nat.sub_lt_left_of_lt_add hfits.1 hfits.2, rfl⟩

theorem reads_value (h : entry? table value = some (s, more)) : Reads (valueOf table s) more value := by
  obtain ⟨base, extra, hentry, hle, hlt, rfl⟩ := exists_entry h
  have hread := (reads_number hlt).map (f := fun n => base + n)
  rw [Nat.add_sub_of_le hle] at hread
  intro bits behind hbits
  obtain ⟨bits', hbits⟩ := hread bits behind hbits
  exact ⟨bits', by rw [valueOf, hentry]; exact hbits.1, hbits.2⟩

theorem lt_of_entry (htable : ∀ s (h : s < table.size), 0 < table[s].1) (h : entry? table value = some (s, more)) :
    s < table.size ∧ 0 < value := by
  obtain ⟨base, extra, hentry, hle, -, -⟩ := exists_entry h
  obtain ⟨hs, heq⟩ := Array.getElem?_eq_some_iff.mp hentry
  have hbase := htable s hs
  rw [heq] at hbase
  exact ⟨hs, Nat.lt_of_lt_of_le hbase hle⟩

end

theorem length_pos : ∀ s (h : s < lengthTable.size), 0 < lengthTable[s].1 := by decide

theorem distance_pos : ∀ s (h : s < distanceTable.size), 0 < distanceTable[s].1 := by decide

theorem reads_byte (b : UInt8) : Reads (symbol codes) (literalWord b.toNat) (.byte b) := by
  have hb : b.toNat < 256 := b.toNat_lt
  intro bits behind h
  obtain ⟨bits', hread, hbits'⟩ := reads_literal (Nat.lt_trans hb (by decide)) bits behind h
  refine ⟨bits', bind_eq_ok.mpr ⟨_, hread, ?_⟩, hbits'⟩
  dsimp only
  rw [if_pos hb, UInt8.ofNat_toNat]
  rfl

theorem reads_finish : Reads (symbol codes) (literalWord 256) .finish := by
  intro bits behind h
  obtain ⟨bits', hread, hbits'⟩ := reads_literal (by decide) bits behind h
  exact ⟨bits', bind_eq_ok.mpr ⟨_, hread, rfl⟩, hbits'⟩

theorem reads_copy {length distance : Nat} {word : List Bool} (h : copyWord? length distance = some word) :
    Reads (symbol codes) word (.copy length distance) ∧ 0 < length ∧ 0 < distance := by
  obtain ⟨⟨l, more⟩, hl, h⟩ := Option.bind_eq_some_iff.mp h
  obtain ⟨⟨d, more'⟩, hd, heq⟩ := Option.bind_eq_some_iff.mp h
  cases heq
  obtain ⟨hlt, hlength⟩ : l < 29 ∧ 0 < length := lt_of_entry length_pos hl
  obtain ⟨hlt', hdistance⟩ : d < 30 ∧ 0 < distance := lt_of_entry distance_pos hd
  refine ⟨fun bits behind hbits => ?_, hlength, hdistance⟩
  simp only [List.append_assoc] at hbits
  obtain ⟨bits₁, hread₁, hbits₁⟩ := reads_literal (show l + 257 < 288 by omega) bits _ hbits
  obtain ⟨bits₂, hread₂, hbits₂⟩ := reads_value hl bits₁ _ hbits₁
  obtain ⟨bits₃, hread₃, hbits₃⟩ := reads_distance (Nat.lt_trans hlt' (by decide)) bits₂ _ hbits₂
  obtain ⟨bits₄, hread₄, hbits₄⟩ := reads_value hd bits₃ _ hbits₃
  refine ⟨bits₄, bind_eq_ok.mpr ⟨_, hread₁, ?_⟩, hbits₄⟩
  dsimp only
  rw [if_neg (by omega), if_neg (by omega), Nat.add_sub_cancel]
  exact bind_eq_ok.mpr ⟨_, hread₂, bind_eq_ok.mpr ⟨_, hread₃, bind_eq_ok.mpr ⟨_, hread₄, rfl⟩⟩⟩

/-! ### Copies -/

section
variable {body : ByteArray} {place distance n : Nat}

theorem size_extract (h : place ≤ body.size) : (body.extract 0 place).size = place := by
  rw [ByteArray.size_extract]
  omega

theorem push_extract (h : place < body.size) :
    (body.extract 0 place).push (body.get! place) = body.extract 0 (place + 1) := by
  apply ByteArray.ext
  have hplace : place < body.data.size := h
  have hget : body.get! place = body.data[place] := getElem!_pos body.data place h
  rw [ByteArray.data_push, ByteArray.data_extract, ByteArray.data_extract, hget, Array.push_extract_getElem h,
    Nat.zero_min]

theorem get!_extract {i : Nat} (hi : i < place) (h : place ≤ body.size) : (body.extract 0 place).get! i = body.get! i := by
  have hbody : i < body.size := Nat.lt_of_lt_of_le hi h
  show (body.extract 0 place).data[i]! = body.data[i]!
  rw [getElem!_pos (body.extract 0 place).data i (by rwa [ByteArray.size_data, size_extract h]),
    getElem!_pos body.data i hbody]
  simp [ByteArray.data_extract]

theorem matching_le (h : place ≤ body.size) : place + matching body distance n place ≤ body.size := by
  fun_induction matching body distance n place with
  | case1 place => exact h
  | case2 n place hsame ih =>
    have := ih hsame.1
    omega
  | case3 n place hother => exact h

/-- A copy of bytes that have been compared makes a longer part of the body. -/
theorem copy_matching (hpos : 0 < distance) (hd : distance ≤ place) (h : place ≤ body.size) :
    copy distance (matching body distance n place) (body.extract 0 place) =
      body.extract 0 (place + matching body distance n place) := by
  fun_induction matching body distance n place with
  | case1 place => rfl
  | case2 n place hsame ih =>
    obtain ⟨hlt, hsame⟩ := hsame
    rw [copy, size_extract h, if_pos hd, get!_extract (by omega) h, hsame, push_extract hlt, ih (by omega) hlt]
    exact congrArg _ (by omega)
  | case3 n place hother => rfl

end

/-! ### What stands at a place -/

/-- A symbol makes the first `next` bytes of a body out of the first `place` ones. -/
def Leads (body : ByteArray) (place next : Nat) : Symbol → Prop
  | .byte b => (body.extract 0 place).push b = body.extract 0 next
  | .finish => False
  | .copy length distance => copy distance length (body.extract 0 place) = body.extract 0 next

/-- A word is read as a symbol for the next `n` bytes of a body. -/
structure Spells (body : ByteArray) (place : Nat) (word : List Bool) (n : Nat) : Prop where
  pos : 0 < n
  le : place + n ≤ body.size
  leads : ∃ s, Reads (symbol codes) word s ∧ Leads body place (place + n) s

variable {body : ByteArray} {place bound : Nat}

theorem spells_byte (h : place < body.size) : Spells body place (literalWord (body.get! place).toNat) 1 :=
  ⟨Nat.zero_lt_one, h, .byte (body.get! place), reads_byte _, push_extract h⟩

theorem spells_wordAt (reach : Nat) (places : Places) (h : place < body.size) :
    Spells body place (wordAt body reach place places).1 (wordAt body reach place places).2 := by
  unfold wordAt
  split
  · exact spells_byte h
  · rename_i length distance hcopy
    split
    · exact spells_byte h
    · rename_i word hword
      obtain ⟨hreads, hlength, hdistance⟩ := reads_copy hword
      obtain ⟨before, -, hcopy⟩ := Option.bind_eq_some_iff.mp hcopy
      dsimp only at hcopy
      split at hcopy
      · cases hcopy
      · cases hcopy
        have hle := Nat.le_of_lt h
        exact ⟨hlength, matching_le hle, _, hreads, copy_matching hdistance (Nat.sub_le ..) hle⟩

/-! ### The block -/

/-- A word, and the end behind it, are read as what is missing of a body from a place on. -/
def Finishes (body : ByteArray) (place : Nat) (word : List Bool) : Prop :=
  ∀ (bound fuel : Nat) (bits : Bits) (behind : List Bool), body.size < bound → bits.left < fuel →
    bits.Has (word ++ (literalWord 256 ++ behind)) →
      ∃ bits', coded codes bound fuel (body.extract 0 place) bits = .finished body bits' ∧ bits'.Has behind

theorem Spells.finishes {word more : List Bool} {n : Nat} (hword : Spells body place word n)
    (hmore : Finishes body (place + n) more) : Finishes body place (word ++ more) := by
  intro bound fuel bits behind hbound hfuel hbits
  rw [List.append_assoc] at hbits
  obtain ⟨s, hreads, hleads⟩ := hword.leads
  obtain ⟨bits', hread, hbits'⟩ := hreads bits _ hbits
  have hleft := left_symbol hread
  have hroom : ¬ bound ≤ (body.extract 0 place).size := by
    rw [ByteArray.size_extract]
    omega
  obtain ⟨fuel, rfl⟩ := Nat.exists_eq_succ_of_ne_zero (show fuel ≠ 0 by omega)
  obtain ⟨bits'', hcoded, hbits''⟩ := hmore bound fuel bits' behind hbound (by omega) hbits'
  refine ⟨bits'', ?_, hbits''⟩
  rw [coded, if_neg hroom, hread]
  cases s with
  | byte b => exact (congrArg (coded codes bound fuel · bits') hleads).trans hcoded
  | finish => exact hleads.elim
  | copy length distance => exact (congrArg (coded codes bound fuel · bits') hleads).trans hcoded

theorem finishes_nil (hplace : body.size ≤ place) : Finishes body place [] := by
  intro bound fuel bits behind hbound hfuel hbits
  rw [List.nil_append] at hbits
  obtain ⟨bits', hread, hbits'⟩ := reads_finish bits behind hbits
  have hbody : body.extract 0 place = body := by
    rw [ByteArray.ext_iff, ByteArray.data_extract]
    exact Array.extract_eq_self_of_le hplace
  obtain ⟨fuel, rfl⟩ := Nat.exists_eq_succ_of_ne_zero (show fuel ≠ 0 by omega)
  exact ⟨bits', by rw [hbody, coded, if_neg (by omega), hread], hbits'⟩

/-- The induction is on the fuel, of which each word takes one. -/
theorem exists_word_compress (reach fuel : Nat) (places : Places) (w : Written) (hplace : place ≤ body.size)
    (hfuel : body.size ≤ place + fuel) :
    ∃ word, (compress body reach fuel place places w).bits = w.bits ++ word ∧ Finishes body place word := by
  induction fuel generalizing place places w with
  | zero => exact ⟨[], (List.append_nil _).symm, finishes_nil hfuel⟩
  | succ fuel ih =>
    rw [compress]
    split
    · rename_i hend
      exact ⟨[], (List.append_nil _).symm, finishes_nil hend⟩
    · rename_i hmore
      have hword := spells_wordAt reach places (Nat.lt_of_not_le hmore)
      generalize wordAt body reach place places = found at hword ⊢
      obtain ⟨word, n⟩ := found
      have hpos := hword.pos
      obtain ⟨more, hbits, hfinishes⟩ := ih (remember body n place places) (w.put word) hword.le
        (by dsimp only at hpos ⊢; omega)
      exact ⟨word ++ more, by rw [hbits, Written.bits_put, List.append_assoc], hword.finishes hfinishes⟩

/-- The bits in front of the one block. -/
theorem exists_head {behind : List Bool} {bits : Bits} (h : bits.Has ([true, true, false] ++ behind)) :
    ∃ bits', (do
        let (last, bits) ← bits.bit
        let (kind, bits) ← bits.number 2
        return (last, kind, bits)) = (.ok (true, 1, bits') : Except Fault (Bool × Nat × Bits)) ∧ bits'.Has behind := by
  obtain ⟨bits₁, hlast, hbits₁⟩ := reads_bit true bits ([true, false] ++ behind) h
  obtain ⟨bits₂, hkind, hbits₂⟩ := reads_number (show 1 < 2 ^ 2 by decide) bits₁ behind hbits₁
  exact ⟨bits₂, bind_eq_ok.mpr ⟨_, hlast, bind_eq_ok.mpr ⟨_, hkind, rfl⟩⟩, hbits₂⟩

theorem inflate_block {bytes rest : List UInt8} {word fill : List Bool} (hbound : body.size < bound)
    (hword : Finishes body 0 word) (hfill : fill.length < 8)
    (hbytes : bytes.flatMap Bits.ofByte = [true, true, false] ++ (word ++ (literalWord 256 ++ fill))) :
    inflate bound (bytes ++ rest) = .finished body rest := by
  have hall := Bits.has_ofBytes (bytes ++ rest)
  rw [List.flatMap_append, hbytes, List.append_assoc, List.append_assoc word, List.append_assoc (literalWord 256)] at hall
  obtain ⟨bits, hhead, hbits⟩ := exists_head hall
  obtain ⟨bits', hcoded, hbits'⟩ := hword bound (bits.left + 1) bits _ hbound (Nat.lt_succ_self _) hbits
  have hroom : ¬ bound ≤ ByteArray.empty.size := Nat.not_le_of_lt (Nat.lt_of_le_of_lt (Nat.zero_le _) hbound)
  rw [ByteArray.extract_same] at hcoded
  have hblock : Inflate.block bound 1 .empty bits = .finished body bits' := hcoded
  rw [inflate, blocks, if_neg hroom, hhead]
  dsimp only
  rw [hblock]
  exact congrArg (Inflated.finished body) (hbits'.bytes_eq hfill)

theorem inflate_close_block (reach : Nat) (places : Places) (hbound : body.size < bound) (rest : List UInt8) :
    inflate bound ((Deflate.block body reach places).close.data.toList ++ rest) = .finished body rest := by
  have hstart : (Written.empty.put [true, true, false]).bits = [true, true, false] := Written.bits_put _ _
  obtain ⟨word, hword, hfinishes⟩ := exists_word_compress reach body.size places (Written.empty.put [true, true, false])
    (Nat.zero_le body.size) (Nat.le_add_left _ _)
  obtain ⟨n, hn, hclose⟩ := (Deflate.block body reach places).exists_bits_close
  rw [Deflate.block, Written.bits_put, hword, hstart, List.append_assoc, List.append_assoc] at hclose
  exact inflate_block hbound hfinishes (by rwa [List.length_replicate]) hclose

end Deflate

/-- What a body is deflated to is inflated to the body, whatever follows it. -/
theorem inflate_deflate (effort : Nat) {body : ByteArray} {bound : Nat} (hbound : body.size < bound) (rest : List UInt8) :
    inflate bound ((deflate effort body).data.toList ++ rest) = .finished body rest := by
  rw [deflate]
  by_cases heffort : effort = 0
  · have hsize : body.toList.length < bound := by rwa [Text.length_toList]
    rw [if_pos heffort, List.data_toByteArray, inflate_storedBlocks _ _ hsize, Text.toByteArray_toList]
  · rw [if_neg heffort]
    exact Deflate.inflate_close_block _ _ hbound rest

end Gateway.Gzip
