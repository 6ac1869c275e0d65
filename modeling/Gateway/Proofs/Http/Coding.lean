import Gateway.Http.Coding
import Gateway.Proofs.Gzip.Limits

/-! Bodies that are decoded under limits. A greater limit accepts what was too large, and nothing that was damaged; a lower one
    refuses a body for its size or leaves the answer as it is. Only the greatest limit there is inflates nothing. -/

namespace Gateway.Http.Coding

open Gateway.Gzip (DecodeError Lowers Members)

variable {limit low high : Nat} {body content : ByteArray} {coding : Coding}

/-- What a body holds if all of it is sound. -/
def Sound (body content : ByteArray) : Coding → Prop
  | identity => content = body
  | gzip => Members body.toList content

theorem decode_gzip (hlimit : limit + 1 < UInt64.size) (body : ByteArray) : decode limit body .gzip = Gzip.decode limit body :=
  if_pos hlimit

theorem decode_eq_ok_iff (hlimit : limit + 1 < UInt64.size) :
    decode limit body coding = .ok content ↔ coding.Sound body content ∧ content.size ≤ limit := by
  cases coding with
  | gzip => exact decode_gzip hlimit body ▸ Gzip.decode_eq_ok_iff
  | identity =>
    rw [decode]
    constructor
    · intro h
      split at h
      · cases h
      · rename_i hsize
        cases h
        exact ⟨rfl, Nat.le_of_not_lt hsize⟩
    · rintro ⟨rfl, hsize⟩
      exact if_neg (Nat.not_lt_of_le hsize)

theorem decode_lowers (h : low ≤ high) (hhigh : high + 1 < UInt64.size) (body : ByteArray) (coding : Coding) :
    Lowers low (decode low body coding) (decode high body coding) := by
  cases coding with
  | gzip =>
    rw [decode_gzip (Nat.lt_of_le_of_lt (Nat.succ_le_succ h) hhigh), decode_gzip hhigh]
    exact Gzip.decodeMembers_lowers h _ _ _
  | identity =>
    rw [decode, decode]
    exact .within h body.size (.of_ok body)

theorem isDamage_or_eq_tooLarge {e : DecodeError} (hlimit : limit + 1 < UInt64.size)
    (h : decode limit body coding = .error e) : e.IsDamage ∨ e = .tooLarge limit := by
  rcases decode_lowers (Nat.le_refl limit) hlimit body coding with hlarge | ⟨-, hdamage⟩
  · rw [hlarge] at h
    cases h
    exact Or.inr rfl
  · exact Or.inl (hdamage e h)

/-- What an answer under a limit tells about those under others. -/
theorem decode_under_limits (coding : Coding) (body : ByteArray) {low high : Nat} (h : low ≤ high)
    (hword : high + 1 < UInt64.size) :
    (∀ content, decode high body coding = .ok content → content.size ≤ high ∧
      decode low body coding = if content.size ≤ low then .ok content else .error (.tooLarge low)) ∧
    (∀ e, e.IsDamage → decode high body coding = .error e →
      decode low body coding = .error e ∨ decode low body coding = .error (.tooLarge low)) ∧
    (decode high body coding = .error (.tooLarge high) → decode low body coding = .error (.tooLarge low)) ∧
    (∀ e, decode high body coding = .error e → e.IsDamage ∨ e = .tooLarge high) ∧
    (∀ e, e.IsDamage → decode low body coding = .error e → decode high body coding = .error e) ∧
    (∀ content, decode high body coding = .ok content ↔ coding.Sound body content ∧ content.size ≤ high) := by
  have hlowers := decode_lowers h hword body coding
  have hword' : low + 1 < UInt64.size := Nat.lt_of_le_of_lt (Nat.succ_le_succ h) hword
  refine ⟨fun content hok => ?_, fun e he hhigh => ?_, fun hlarge => ?_, fun e => isDamage_or_eq_tooLarge hword,
    fun e he hlow => ?_, fun content => decode_eq_ok_iff hword⟩
  · obtain ⟨hsound, hhigh⟩ := (decode_eq_ok_iff hword).mp hok
    refine ⟨hhigh, ?_⟩
    by_cases hlow : content.size ≤ low
    · rw [if_pos hlow]
      exact (decode_eq_ok_iff hword').mpr ⟨hsound, hlow⟩
    · rw [if_neg hlow]
      rcases hlowers with hlarge | ⟨hsame, -⟩
      · exact hlarge
      · exact absurd ((decode_eq_ok_iff hword').mp (hsame.trans hok)).2 hlow
  · rcases hlowers with hlarge | ⟨hsame, -⟩
    · exact Or.inr hlarge
    · exact Or.inl (hsame.trans hhigh)
  · rcases hlowers with hlow | ⟨-, hdamage⟩
    · exact hlow
    · exact absurd rfl (hdamage _ hlarge high)
  · rcases hlowers with hlarge | ⟨hsame, -⟩
    · rw [hlarge] at hlow
      cases hlow
      exact absurd rfl (he low)
    · exact hsame.symm.trans hlow

/-- Ten bytes that were compressed, under a limit of ten bytes and one of nine. -/
theorem decode_under_limits_ten : 9 ≤ 10 ∧ 10 + 1 < UInt64.size ∧
    decode 10 (Gzip.encode 6 "0123456789".toUTF8) .gzip = .ok "0123456789".toUTF8 ∧
    decode 9 (Gzip.encode 6 "0123456789".toUTF8) .gzip = .error (.tooLarge 9) := by
  have hten : decode 10 (Gzip.encode 6 "0123456789".toUTF8) .gzip = .ok "0123456789".toUTF8 :=
    (decode_gzip (by decide) _).trans (Gzip.holds_iff.mp (Gzip.holds_encode 6 _) 10 (by decide))
  have hnine := ((decode_under_limits .gzip _ (by decide : 9 ≤ 10) (by decide)).1 _ hten).2
  exact ⟨by decide, by decide, hten, hnine.trans (if_neg (by decide))⟩

end Gateway.Http.Coding
