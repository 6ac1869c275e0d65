import Gateway.Proofs.Text.Utf8

/-! The order of texts. Texts are ordered by their characters, and this is the order of their bytes: of two characters the
    smaller one has the smaller bytes, and they differ before either of them ends. -/

namespace Gateway.Text

/-- A smaller character has smaller bytes, whatever follows. -/
theorem encoded_lt_of_lt {c d : Char} (h : c < d) (xs ys : List UInt8) :
    String.utf8EncodeChar c ++ xs < String.utf8EncodeChar d ++ ys := by
  have hlt : c.val.toNat < d.val.toNat := UInt32.lt_iff_toNat_lt.mp h
  have hbound : d.val.toNat < 0x110000 := by
    have := d.valid
    simp only [UInt32.isValidChar, Nat.isValidChar] at this
    omega
  -- Each byte takes six bits from the number that the bytes in front of it leave.
  have htwo : ∀ k, k / 4096 = k / 64 / 64 := fun k => (Nat.div_div_eq_div_mul k 64 64).symm
  have hthree : ∀ k, k / 262144 = k / 64 / 64 / 64 := fun k => by simp [Nat.div_div_eq_div_mul]
  simp only [String.utf8EncodeChar, htwo, hthree]
  generalize c.val.toNat = m at hlt ⊢
  generalize d.val.toNat = n at hlt hbound ⊢
  repeat' split
  all_goals simp (disch := omega) only [List.cons_append, List.nil_append, List.cons_lt_cons_iff, UInt8.lt_iff_toNat_lt,
    ← UInt8.toNat_inj, UInt8.toNat_ofNat', Nat.mod_eq_of_lt]
  all_goals omega

theorem append_lt_append_iff (front : List UInt8) {xs ys : List UInt8} : front ++ xs < front ++ ys ↔ xs < ys := by
  induction front with
  | nil => rfl
  | cons b front ih => simp [ih]

theorem flatMap_lt_iff {cs ds : List Char} :
    cs.flatMap String.utf8EncodeChar < ds.flatMap String.utf8EncodeChar ↔ cs < ds := by
  induction cs generalizing ds with
  | nil =>
    cases ds with
    | nil => simp
    | cons d ds =>
      have hne : String.utf8EncodeChar d ≠ [] := by
        rw [← List.length_pos_iff, String.length_utf8EncodeChar]
        exact Char.utf8Size_pos d
      obtain ⟨b, bytes, hb⟩ := List.exists_cons_of_ne_nil hne
      simp [hb]
  | cons c cs ih =>
    cases ds with
    | nil => simp
    | cons d ds =>
      rw [List.flatMap_cons, List.flatMap_cons, List.cons_lt_cons_iff]
      by_cases heq : c = d
      · subst heq
        rw [append_lt_append_iff, ih]
        simp
      · rcases Nat.lt_or_gt_of_ne (mt Char.toNat_inj.mp heq) with hlt | hgt
        · have hlt : c < d := UInt32.lt_iff_toNat_lt.mpr hlt
          simp [hlt, encoded_lt_of_lt hlt]
        · have hgt : d < c := UInt32.lt_iff_toNat_lt.mpr hgt
          simp [heq, Char.lt_asymm hgt, List.lt_asymm (encoded_lt_of_lt hgt _ _)]

theorem lt_iff_toUTF8 {s t : String} : s < t ↔ s.toUTF8.toList < t.toUTF8.toList := by
  have hs := toList_toUTF8 s.toList
  have ht := toList_toUTF8 t.toList
  rw [String.ofList_toList] at hs ht
  rw [hs, ht, flatMap_lt_iff, String.lt_iff]

end Gateway.Text
