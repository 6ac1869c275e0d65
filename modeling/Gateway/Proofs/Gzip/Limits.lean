import Gateway.Proofs.Gzip.Members

/-! Limits of what may come out of a body. A lower limit gives the answer of the greater one, or refuses the body for its size;
    so no limit accepts what is damaged. -/

namespace Gateway.Gzip

variable {low high : Nat} {bytes : List UInt8}

/-- What an answer under a lower limit is to one under a greater limit. -/
def Lowers {α : Type} (low : Nat) (small great : Except DecodeError α) : Prop :=
  small = .error (.tooLarge low) ∨ small = great ∧ ∀ e, great = .error e → e.IsDamage

namespace Lowers

variable {α β : Type} {small great : Except DecodeError α}

theorem of_ok (a : α) : Lowers low (.ok a) (.ok a) := Or.inr ⟨rfl, fun e heq => by cases heq⟩

theorem of_damage {e : DecodeError} (h : e.IsDamage) : Lowers (α := α) low (.error e) (.error e) :=
  Or.inr ⟨rfl, fun e' heq => by cases heq; exact h⟩

theorem bind {next next' : α → Except DecodeError β} (h : Lowers low small great)
    (hnext : ∀ a, Lowers low (next a) (next' a)) : Lowers low (small >>= next) (great >>= next') := by
  rcases h with rfl | ⟨rfl, hdamage⟩
  · exact Or.inl rfl
  · cases small with
    | error e => exact of_damage (hdamage e rfl)
    | ok a => exact hnext a

/-- Both limits are asked first. -/
theorem within (h : low ≤ high) (size : Nat) {total total' : Nat} (hsmall : Lowers total small great) :
    Lowers total (if low < size then .error (.tooLarge total) else small)
      (if high < size then .error (.tooLarge total') else great) := by
  by_cases hlow : low < size
  · exact Or.inl (if_pos hlow)
  · rw [if_neg hlow, if_neg (fun hhigh => hlow (Nat.lt_of_le_of_lt h hhigh))]
    exact hsmall

end Lowers

theorem Skips.lowers {n : Nat} {result : Except DecodeError (List UInt8)} (h : Skips n bytes result) :
    Lowers low result result := Or.inr ⟨rfl, h.damage⟩

theorem bound_le (h : low ≤ high) : bound low ≤ bound high :=
  Nat.mul_le_mul_right _ (Nat.succ_le_succ (Nat.div_le_div_right h))

/-- The limits of all members are the ones that a refusal names. -/
theorem decodeMember_lowers (h : low ≤ high) (total total' : Nat) (bytes : List UInt8) :
    Lowers total (decodeMember low total bytes) (decodeMember high total' bytes) := by
  unfold decodeMember
  refine (skips_skipHead bytes).lowers.bind fun text => ?_
  rcases follows_inflate (bound_le h) text with heq | ⟨hstop, -⟩
  · rw [heq]
    cases inflate (bound high) text with
    | stopped => exact Or.inl rfl
    | faulty fault out =>
      cases fault with
      | corrupt => exact .of_damage nofun
      | incomplete | cutShort =>
        dsimp only
        rw [apply_ite Except.error, apply_ite Except.error]
        exact .within h out.size (.of_damage (DecodeError.isDamage_ofFault _))
    | finished out rest => exact .within h out.size ((skips_checkTail out rest).lowers.bind fun rest => .of_ok _)
  · exact Or.inl (by rw [hstop])

theorem decodeMembers_lowers (h : low ≤ high) (fuel : Nat) (out : ByteArray) (bytes : List UInt8) :
    Lowers low (decodeMembers low fuel out bytes) (decodeMembers high fuel out bytes) := by
  induction fuel generalizing out bytes with
  | zero => exact .of_ok out
  | succ fuel ih =>
    rw [decodeMembers, decodeMembers]
    refine (decodeMember_lowers (Nat.sub_le_sub_right h _) low high bytes).bind fun member => ?_
    obtain ⟨more, rest⟩ := member
    dsimp only
    split
    · exact .of_ok _
    · exact ih _ _

/-- What bytes hold is refused for nothing but its size. -/
theorem decode_of_members {body content : ByteArray} (h : Members body.toList content) (limit : Nat) :
    decode limit body = if content.size ≤ limit then .ok content else .error (.tooLarge limit) := by
  by_cases hsize : content.size ≤ limit
  · rw [if_pos hsize]
    exact decode_eq_ok_iff.mpr ⟨h, hsize⟩
  · rw [if_neg hsize]
    have hroom : decode content.size body = .ok content := decode_eq_ok_iff.mpr ⟨h, Nat.le_refl _⟩
    rcases decodeMembers_lowers (Nat.le_of_not_le hsize) (body.size + 1) .empty body.toList with hlarge | ⟨hsame, -⟩
    · exact hlarge
    · exact absurd (decode_eq_ok_iff.mp (hsame.trans hroom)).2 hsize

end Gateway.Gzip
