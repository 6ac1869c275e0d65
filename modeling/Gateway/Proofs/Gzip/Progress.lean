import Gateway.Gzip.Member
import Gateway.Proofs.Results

/-! Readers of a compressed text take bits from it and put none back, and a member that is decoded takes its bytes from a body.
    So the members of a body become fewer with each one that is decoded, and the body's length is fuel enough for all. -/

namespace Gateway.Gzip

variable {bits bits' : Bits} {bytes rest : List UInt8} {out : ByteArray} {n : Nat}

/-! ### Numbers, codes and symbols -/

namespace Bits

theorem left_number {value : Nat} (h : bits.number n = .ok (value, bits')) : bits'.left + n = bits.left := by
  induction n generalizing bits value with
  | zero =>
    cases h
    rfl
  | succ n ih =>
    rw [number, bind_eq_ok] at h
    obtain ⟨⟨b, after⟩, hbit, h⟩ := h
    obtain ⟨⟨high, after'⟩, hhigh, h⟩ := bind_eq_ok.mp h
    cases h
    have hfirst := left_bit hbit
    have hothers := ih hhigh
    omega

theorem left_number_le {value : Nat} (h : bits.number n = .ok (value, bits')) : bits'.left ≤ bits.left :=
  Nat.le.intro (left_number h)

end Bits

section Blocks

open Bits

theorem Code.left_symbolFrom {symbols : Array Nat} {word first index symbol : Nat} {counts : List Nat}
    (h : symbolFrom symbols word first index counts bits = .ok (symbol, bits')) : bits'.left < bits.left := by
  induction counts generalizing word first index bits with
  | nil => cases h
  | cons count counts ih =>
    rw [symbolFrom, bind_eq_ok] at h
    obtain ⟨⟨b, after⟩, hbit, h⟩ := h
    have hfirst := left_bit hbit
    dsimp only at h
    split at h
    · split at h
      · cases h
        omega
      · cases h
    · have hothers := ih h
      omega

namespace Inflate

theorem left_lengthLengths {lengths : List Nat} (h : lengthLengths n bits = .ok (lengths, bits')) :
    bits'.left ≤ bits.left := by
  induction n generalizing bits lengths with
  | zero =>
    cases h
    exact Nat.le_refl _
  | succ n ih =>
    rw [lengthLengths, bind_eq_ok] at h
    obtain ⟨⟨length, after⟩, hlength, h⟩ := h
    obtain ⟨⟨others, after'⟩, hothers, h⟩ := bind_eq_ok.mp h
    cases h
    have hfirst := left_number hlength
    have hrest := ih hothers
    omega

theorem left_lengthRun {symbol : Nat} {last : Option Nat} {run : List Nat}
    (h : lengthRun symbol last bits = .ok (run, bits')) : bits'.left ≤ bits.left := by
  unfold lengthRun at h
  split at h
  · split at h
    · cases h
    · obtain ⟨⟨n, after⟩, hn, h⟩ := bind_eq_ok.mp h
      cases h
      exact left_number_le hn
  · obtain ⟨⟨n, after⟩, hn, h⟩ := bind_eq_ok.mp h
    cases h
    exact left_number_le hn
  · obtain ⟨⟨n, after⟩, hn, h⟩ := bind_eq_ok.mp h
    cases h
    exact left_number_le hn
  · cases h
    exact Nat.le_refl _

theorem left_lengths {code : Code} {fuel missing : Nat} {last : Option Nat} {all : List Nat}
    (h : lengths code fuel missing last bits = .ok (all, bits')) : bits'.left ≤ bits.left := by
  induction fuel generalizing missing last bits all with
  | zero =>
    cases missing with
    | zero =>
      cases h
      exact Nat.le_refl _
    | succ missing => cases h
  | succ fuel ih =>
    cases missing with
    | zero =>
      cases h
      exact Nat.le_refl _
    | succ missing =>
      rw [lengths, bind_eq_ok] at h
      obtain ⟨⟨symbol, after⟩, hsymbol, h⟩ := h
      obtain ⟨⟨run, after'⟩, hrun, h⟩ := bind_eq_ok.mp h
      dsimp only at h
      split at h
      · cases h
      · obtain ⟨⟨more, after''⟩, hmore, h⟩ := bind_eq_ok.mp h
        cases h
        have hfirst := Code.left_symbolFrom hsymbol
        have hsecond := left_lengthRun hrun
        have hothers := ih hmore
        omega

theorem left_codes {given : Codes} (h : codes bits = .ok (given, bits')) : bits'.left ≤ bits.left := by
  unfold codes at h
  obtain ⟨⟨literals, after₁⟩, hliterals, h⟩ := bind_eq_ok.mp h
  obtain ⟨⟨distances, after₂⟩, hdistances, h⟩ := bind_eq_ok.mp h
  obtain ⟨⟨n, after₃⟩, hn, h⟩ := bind_eq_ok.mp h
  dsimp only at h
  split at h
  · cases h
  · obtain ⟨⟨lengths, after₄⟩, hlengths, h⟩ := bind_eq_ok.mp h
    obtain ⟨code, -, h⟩ := bind_eq_ok.mp h
    obtain ⟨⟨all, after₅⟩, hall, h⟩ := bind_eq_ok.mp h
    obtain ⟨literalCode, -, h⟩ := bind_eq_ok.mp h
    obtain ⟨distanceCode, -, h⟩ := bind_eq_ok.mp h
    cases h
    dsimp only at hlengths hall ⊢
    have h₁ := left_number hliterals
    have h₂ := left_number hdistances
    have h₃ := left_number hn
    have h₄ := left_lengthLengths hlengths
    have h₅ := left_lengths hall
    omega

theorem left_valueOf {table : Array (Nat × Nat)} {symbol value : Nat}
    (h : valueOf table symbol bits = .ok (value, bits')) : bits'.left ≤ bits.left := by
  unfold valueOf at h
  split at h
  · cases h
  · obtain ⟨⟨n, after⟩, hn, h⟩ := bind_eq_ok.mp h
    cases h
    exact left_number_le hn

theorem left_symbol {codes : Codes} {s : Symbol} (h : symbol codes bits = .ok (s, bits')) : bits'.left < bits.left := by
  unfold symbol at h
  obtain ⟨⟨literal, after⟩, hliteral, h⟩ := bind_eq_ok.mp h
  have hfirst := Code.left_symbolFrom hliteral
  dsimp only at h
  split at h
  · cases h
    exact hfirst
  · split at h
    · cases h
      exact hfirst
    · obtain ⟨⟨length, after₁⟩, hlength, h⟩ := bind_eq_ok.mp h
      obtain ⟨⟨d, after₂⟩, hd, h⟩ := bind_eq_ok.mp h
      obtain ⟨⟨distance, after₃⟩, hdistance, h⟩ := bind_eq_ok.mp h
      cases h
      dsimp only at hd hdistance ⊢
      have h₁ := left_valueOf hlength
      have h₂ := Code.left_symbolFrom hd
      have h₃ := left_valueOf hdistance
      omega

/-! ### Blocks -/

theorem left_stored {out' : ByteArray} (h : stored out bits = .finished out' bits') : bits'.left ≤ bits.left := by
  unfold stored at h
  split at h
  · rename_i a b c d rest hbytes
    dsimp only at h
    split at h
    · cases h
    · split at h
      · cases h
      · cases h
        rw [Bits.bytes] at hbytes
        simp only [left, ofBytes, hbytes, List.length_drop, List.length_cons, List.length_nil]
        omega
  · cases h

theorem left_coded {codes : Codes} {bound fuel : Nat} {out' : ByteArray}
    (h : coded codes bound fuel out bits = .finished out' bits') : bits'.left ≤ bits.left := by
  induction fuel generalizing out bits with
  | zero => cases h
  | succ fuel ih =>
    rw [coded] at h
    split at h
    · cases h
    · split at h
      · cases h
      · rename_i after hsymbol
        cases h
        exact Nat.le_of_lt (left_symbol hsymbol)
      · rename_i b after hsymbol
        exact Nat.le_trans (ih h) (Nat.le_of_lt (left_symbol hsymbol))
      · rename_i length distance after hsymbol
        exact Nat.le_trans (ih h) (Nat.le_of_lt (left_symbol hsymbol))

theorem left_block {bound kind : Nat} {out' : ByteArray} (h : block bound kind out bits = .finished out' bits') :
    bits'.left ≤ bits.left := by
  unfold block at h
  split at h
  · exact left_stored h
  · exact left_coded h
  · split at h
    · cases h
    · rename_i given after hcodes
      exact Nat.le_trans (left_coded h) (left_codes hcodes)
  · cases h

/-- The bits in front of a block. -/
theorem left_head {last : Bool} {kind : Nat} (h : (do
      let (last, bits) ← bits.bit
      let (kind, bits) ← bits.number 2
      return (last, kind, bits)) = (.ok (last, kind, bits') : Except Fault (Bool × Nat × Bits))) :
    bits'.left ≤ bits.left := by
  obtain ⟨⟨b, after⟩, hbit, h⟩ := bind_eq_ok.mp h
  obtain ⟨⟨k, after'⟩, hkind, h⟩ := bind_eq_ok.mp h
  cases h
  have h₁ := left_bit hbit
  have h₂ := left_number hkind
  omega

theorem left_blocks {bound fuel : Nat} {out' : ByteArray} (h : blocks bound fuel out bits = .finished out' rest) :
    8 * rest.length ≤ bits.left := by
  fun_induction blocks bound fuel out bits with
  | case1 out bits => cases h
  | case2 fuel out bits hstop => cases h
  | case3 fuel out bits hstop fault hhead => cases h
  | case4 fuel out bits hstop last kind after hhead hblock => cases h
  | case5 fuel out bits hstop last kind after hhead fault out' hblock => cases h
  | case6 fuel out bits hstop kind after out' after' hblock hhead =>
    cases h
    refine Nat.le_trans ?_ (Nat.le_trans (left_block hblock) (left_head hhead))
    simp only [left, Bits.bytes]
    omega
  | case7 fuel out bits hstop last kind after hhead out' after' hblock hlast ih =>
    exact Nat.le_trans (ih h) (Nat.le_trans (left_block hblock) (left_head hhead))

end Inflate

theorem length_inflate {bound : Nat} (h : inflate bound bytes = .finished out rest) : rest.length ≤ bytes.length := by
  have hleft := Inflate.left_blocks h
  simp only [left, ofBytes, List.length_nil] at hleft
  omega

end Blocks

/-! ### Heads and tails -/

/-- What is wrong with the bytes themselves, under every limit. -/
def DecodeError.IsDamage (e : DecodeError) : Prop := ∀ limit, e ≠ .tooLarge limit

theorem DecodeError.isDamage_ofFault (fault : Fault) : (ofFault fault).IsDamage := by
  intro limit
  cases fault <;> simp [ofFault]

/-- At least `n` bytes are skipped, or they are damaged. -/
structure Skips (n : Nat) (bytes : List UInt8) (result : Except DecodeError (List UInt8)) : Prop where
  le : ∀ rest, result = .ok rest → rest.length + n ≤ bytes.length
  damage : ∀ e, result = .error e → e.IsDamage

namespace Skips

theorem of_le (h : rest.length + n ≤ bytes.length) : Skips n bytes (.ok rest) where
  le rest' heq := by
    cases heq
    exact h
  damage e heq := by cases heq

theorem of_damage {e : DecodeError} (h : e.IsDamage) : Skips n bytes (.error e) where
  le rest heq := by cases heq
  damage e heq := by
    cases heq
    exact h

variable {result : Except DecodeError (List UInt8)}

theorem behind (h : Skips 0 rest result) (hle : rest.length + n ≤ bytes.length) : Skips n bytes result where
  le rest' heq := by
    have hrest := h.le rest' heq
    omega
  damage := h.damage

theorem bind {next : List UInt8 → Except DecodeError (List UInt8)} (h : Skips n bytes result)
    (hnext : ∀ rest, Skips 0 rest (next rest)) : Skips n bytes (result >>= next) := by
  cases result with
  | error e => exact of_damage (h.damage e rfl)
  | ok rest => exact (hnext rest).behind (h.le rest rfl)

/-- A part that may be missing. -/
theorem part {condition : Prop} [Decidable condition] {next : List UInt8 → Except DecodeError (List UInt8)}
    (h : Skips 0 bytes result) (hnext : ∀ rest, Skips 0 rest (next rest)) :
    Skips 0 bytes (if condition then result >>= next else next bytes) := by
  split
  · exact h.bind hnext
  · exact hnext bytes

end Skips

theorem skips_skip (n : Nat) (bytes : List UInt8) : Skips 0 bytes (skip n bytes) := by
  unfold skip
  split
  · exact .of_damage nofun
  · exact .of_le (by simp)

theorem skips_skipText (bytes : List UInt8) : Skips 0 bytes (skipText bytes) := by
  unfold skipText
  split
  · exact .of_damage nofun
  · rename_i b rest hdrop
    have hlength := (List.dropWhile_suffix (p := (· != 0)) (l := bytes)).length_le
    rw [hdrop, List.length_cons] at hlength
    exact .of_le (by omega)

theorem skips_skipExtra (bytes : List UInt8) : Skips 0 bytes (skipExtra bytes) := by
  unfold skipExtra
  split
  · rename_i low high rest
    exact (skips_skip _ rest).behind (by simp only [List.length_cons]; omega)
  · exact .of_damage nofun

theorem skips_checkHead (bytes rest : List UInt8) : Skips 0 rest (checkHead bytes rest) := by
  unfold checkHead
  split
  · dsimp only
    split
    · exact .of_le (by simp only [List.length_cons]; omega)
    · exact .of_damage nofun
  · exact .of_damage nofun

theorem skips_skipHead (bytes : List UInt8) : Skips 10 bytes (skipHead bytes) := by
  unfold skipHead
  split
  · rename_i rest
    dsimp only
    split
    · exact .of_damage nofun
    · refine Skips.behind ?_ (show rest.length + 10 ≤ _ by simp only [List.length_cons]; omega)
      refine (skips_skipExtra rest).part fun rest => ?_
      refine (skips_skipText rest).part fun rest => ?_
      refine (skips_skipText rest).part fun rest => ?_
      split
      · exact skips_checkHead _ rest
      · exact .of_le (Nat.le_refl _)
  · exact .of_damage nofun

theorem skips_checkTail (out : ByteArray) (rest : List UInt8) : Skips 8 rest (checkTail out rest) := by
  unfold checkTail
  split
  · exact .of_damage nofun
  · split
    · exact .of_le (by rw [List.length_drop]; omega)
    · exact .of_damage nofun

end Gateway.Gzip
