import Gateway.Gzip.Inflate

/-! Inflating with two bounds. What has come out never becomes less, so a run with the smaller bound is the run with the
    greater one, or it stops, and then the other one gives at least as much as the smaller bound. -/

namespace Gateway.Gzip

namespace Inflate

variable {b b' n fuel : Nat} {codes : Codes} {out : ByteArray} {bits : Bits}

/-- At least `n` bytes come out. -/
def Ended.Reaches (n : Nat) : Ended → Prop
  | finished out _ => n ≤ out.size
  | stopped => True
  | faulty _ out => n ≤ out.size

theorem size_copy (distance : Nat) (n : Nat) (out : ByteArray) : (copy distance n out).size = out.size + n := by
  induction n generalizing out with
  | zero => rfl
  | succ n ih =>
    rw [copy, ih, ByteArray.size_push]
    omega

theorem reaches_stored (h : n ≤ out.size) (bits : Bits) : (stored out bits).Reaches n := by
  unfold stored
  split
  · dsimp only
    split
    · exact h
    · split
      · exact Nat.le_trans h (by rw [ByteArray.size_append]; exact Nat.le_add_right ..)
      · exact Nat.le_trans h (by rw [ByteArray.size_append]; exact Nat.le_add_right ..)
  · exact h

theorem reaches_coded (codes : Codes) (b : Nat) (h : n ≤ out.size) (bits : Bits) :
    (coded codes b fuel out bits).Reaches n := by
  fun_induction coded codes b fuel out bits with
  | case1 out bits => exact h
  | case2 fuel out bits hstop => trivial
  | case3 fuel out bits hstop fault hsymbol => exact h
  | case4 fuel out bits hstop bits' hsymbol => exact h
  | case5 fuel out bits hstop byte bits' hsymbol ih =>
    exact ih (Nat.le_trans h (by rw [ByteArray.size_push]; exact Nat.le_add_right ..))
  | case6 fuel out bits hstop length distance bits' hsymbol ih =>
    exact ih (Nat.le_trans h (by rw [size_copy]; exact Nat.le_add_right ..))

theorem reaches_block (b kind : Nat) (h : n ≤ out.size) (bits : Bits) : (block b kind out bits).Reaches n := by
  unfold block
  split
  · exact reaches_stored h bits
  · exact reaches_coded _ b h bits
  · split
    · exact h
    · exact reaches_coded _ b h _
  · exact h

/-- What a run with a smaller bound is to one with a greater bound. -/
def Ended.Follows (b : Nat) (small great : Ended) : Prop := small = great ∨ (small = .stopped ∧ great.Reaches b)

theorem Ended.Follows.eq {small great : Ended} (h : small.Follows b great) (hgo : small ≠ .stopped) : great = small :=
  h.elim Eq.symm fun hstop => absurd hstop.1 hgo

theorem follows_coded (codes : Codes) (hb : b ≤ b') (fuel : Nat) (out : ByteArray) (bits : Bits) :
    (coded codes b fuel out bits).Follows b (coded codes b' fuel out bits) := by
  fun_induction coded codes b fuel out bits with
  | case1 out bits => exact Or.inl rfl
  | case2 fuel out bits hstop => exact Or.inr ⟨rfl, reaches_coded codes b' hstop bits⟩
  | case3 fuel out bits hstop fault hsymbol =>
    rw [coded, if_neg (fun h => hstop (Nat.le_trans hb h)), hsymbol]
    exact Or.inl rfl
  | case4 fuel out bits hstop bits' hsymbol =>
    rw [coded, if_neg (fun h => hstop (Nat.le_trans hb h)), hsymbol]
    exact Or.inl rfl
  | case5 fuel out bits hstop byte bits' hsymbol ih =>
    rw [coded, if_neg (fun h => hstop (Nat.le_trans hb h)), hsymbol]
    exact ih
  | case6 fuel out bits hstop length distance bits' hsymbol ih =>
    rw [coded, if_neg (fun h => hstop (Nat.le_trans hb h)), hsymbol]
    exact ih

theorem follows_block (hb : b ≤ b') (kind : Nat) (out : ByteArray) (bits : Bits) :
    (block b kind out bits).Follows b (block b' kind out bits) := by
  unfold block
  split
  · exact Or.inl rfl
  · exact follows_coded _ hb _ _ _
  · split
    · exact Or.inl rfl
    · exact follows_coded _ hb _ _ _
  · exact Or.inl rfl

end Inflate

namespace Inflated

/-- At least `n` bytes come out. -/
def Reaches (n : Nat) : Inflated → Prop
  | finished out _ => n ≤ out.size
  | stopped => True
  | faulty _ out => n ≤ out.size

def Follows (b : Nat) (small great : Inflated) : Prop := small = great ∨ (small = .stopped ∧ great.Reaches b)

end Inflated

namespace Inflate

variable {b b' n fuel : Nat} {out : ByteArray} {bits : Bits}

theorem reaches_blocks (b : Nat) (h : n ≤ out.size) (bits : Bits) : (blocks b fuel out bits).Reaches n := by
  fun_induction blocks b fuel out bits with
  | case1 out bits => exact h
  | case2 fuel out bits hstop => trivial
  | case3 fuel out bits hstop fault hhead => exact h
  | case4 fuel out bits hstop last kind bits' hhead hblock => trivial
  | case5 fuel out bits hstop last kind bits' hhead fault out' hblock =>
    have hreach := reaches_block b kind h bits'
    rwa [hblock] at hreach
  | case6 fuel out bits hstop kind bits' out' bits'' hblock hhead =>
    have hreach := reaches_block b kind h bits'
    rwa [hblock] at hreach
  | case7 fuel out bits hstop last kind bits' hhead out' bits'' hblock hlast ih =>
    have hreach := reaches_block b kind h bits'
    rw [hblock] at hreach
    exact ih hreach

theorem follows_blocks (hb : b ≤ b') (fuel : Nat) (out : ByteArray) (bits : Bits) :
    (blocks b fuel out bits).Follows b (blocks b' fuel out bits) := by
  fun_induction blocks b fuel out bits with
  | case1 out bits => exact Or.inl rfl
  | case2 fuel out bits hstop => exact Or.inr ⟨rfl, reaches_blocks b' hstop bits⟩
  | case3 fuel out bits hstop fault hhead =>
    rw [blocks, if_neg (fun h => hstop (Nat.le_trans hb h)), hhead]
    exact Or.inl rfl
  | case4 fuel out bits hstop last kind bits' hhead hblock =>
    rw [blocks, if_neg (fun h => hstop (Nat.le_trans hb h)), hhead]
    -- The block stops at the smaller bound; with the greater one it goes on from there.
    refine Or.inr ⟨rfl, ?_⟩
    have hreach : (block b' kind out bits').Reaches b := by
      rcases hblock ▸ follows_block hb kind out bits' with h | ⟨-, h⟩
      · exact h ▸ trivial
      · exact h
    dsimp only
    cases hgreat : block b' kind out bits' with
    | stopped => trivial
    | faulty fault out' =>
      rw [hgreat] at hreach
      exact hreach
    | finished out' bits'' =>
      rw [hgreat] at hreach
      dsimp only
      split
      · exact hreach
      · exact reaches_blocks b' hreach bits''
  | case5 fuel out bits hstop last kind bits' hhead fault out' hblock =>
    have hsame := (follows_block hb kind out bits').eq (by simp [hblock])
    rw [blocks, if_neg (fun h => hstop (Nat.le_trans hb h)), hhead]
    dsimp only
    rw [hsame, hblock]
    exact Or.inl rfl
  | case6 fuel out bits hstop kind bits' out' bits'' hblock hhead =>
    have hsame := (follows_block hb kind out bits').eq (by simp [hblock])
    rw [blocks, if_neg (fun h => hstop (Nat.le_trans hb h)), hhead]
    dsimp only
    rw [hsame, hblock]
    exact Or.inl rfl
  | case7 fuel out bits hstop last kind bits' hhead out' bits'' hblock hlast ih =>
    have hsame := (follows_block hb kind out bits').eq (by simp [hblock])
    rw [blocks, if_neg (fun h => hstop (Nat.le_trans hb h)), hhead]
    dsimp only
    rw [hsame, hblock]
    dsimp only
    rw [if_neg hlast]
    exact ih

end Inflate

theorem follows_inflate {b b' : Nat} (hb : b ≤ b') (bytes : List UInt8) :
    (inflate b bytes).Follows b (inflate b' bytes) := Inflate.follows_blocks hb _ _ _

/-- What comes out as a whole comes out with every bound that is greater than it. -/
theorem inflate_of_lt {b b' : Nat} {bytes rest : List UInt8} {out : ByteArray} (h : inflate b bytes = .finished out rest)
    (hb : out.size < b') : inflate b' bytes = .finished out rest := by
  rcases Nat.le_total b b' with hle | hle
  · rcases h ▸ follows_inflate hle bytes with heq | ⟨hstop, -⟩
    · exact heq.symm
    · cases hstop
  · rcases h ▸ follows_inflate hle bytes with heq | ⟨-, hreach⟩
    · exact heq
    · exact absurd hreach (Nat.not_le_of_lt hb)

end Gateway.Gzip
