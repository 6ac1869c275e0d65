import Gateway.Text.Blank

/-! Finitely many characters. A statement about the characters below a bound, about bytes, or about the characters of a text
    is checked for each of them. So is one about lower case, which is another character only for some of ASCII. -/

namespace Gateway.Text

theorem forall_below {P : Char → Prop} (bound : Nat) (h : ∀ n : Fin bound, P (Char.ofNat n)) :
    ∀ c : Char, c.toNat < bound → P c := fun c hc => by
  have hp := h ⟨c.toNat, hc⟩
  rwa [Char.ofNat_toNat] at hp

-- `decide` on the statement itself would try all characters there are, wherever these are known to be finitely many.
theorem forall_mem {P : Char → Prop} [DecidablePred P] {cs : List Char} (h : cs.all (P ·) = true) : ∀ c ∈ cs, P c :=
  fun c hc => of_decide_eq_true (List.all_eq_true.mp h c hc)

theorem forall_byte {P : UInt8 → Prop} (h : ∀ n : Fin 256, P (UInt8.ofNat n)) : ∀ b : UInt8, P b := fun b => by
  have hp := h ⟨b.toNat, b.toNat_lt⟩
  rwa [UInt8.ofNat_toNat] at hp

theorem lt_of_val_le {c d : Char} (h : c.val ≤ d.val) (hd : d.toNat < 128) : c.toNat < 128 :=
  Nat.lt_of_le_of_lt (UInt32.le_iff_toNat_le.mp h) hd

theorem lt_of_isDigit {c : Char} (h : c.isDigit = true) : c.toNat < 128 :=
  lt_of_val_le (of_decide_eq_true (Bool.and_eq_true_iff.mp h).2) (show '9'.toNat < 128 by decide)

/-- Letters and digits are characters of ASCII. -/
theorem lt_of_isAlphanum {c : Char} (h : c.isAlphanum = true) : c.toNat < 128 := by
  rcases Bool.or_eq_true_iff.mp h with halpha | hdigit
  · rcases Bool.or_eq_true_iff.mp halpha with hupper | hlower
    · exact lt_of_val_le (of_decide_eq_true hupper).2 (show 'Z'.toNat < 128 by decide)
    · exact lt_of_val_le (of_decide_eq_true (Bool.and_eq_true_iff.mp hlower).2) (show 'z'.toNat < 128 by decide)
  · exact lt_of_isDigit hdigit

theorem toLower_of_le {c : Char} (h : 128 ≤ c.toNat) : c.toLower = c := by
  refine dif_neg fun hupper => ?_
  have hlt := lt_of_val_le hupper.2 (show 'Z'.toNat < 128 by decide)
  omega

/-- Beyond ASCII a character is its own lower case. -/
theorem forall_toLower {P : Char → Char → Prop} (hself : ∀ c, P c c) (h : ∀ n : Fin 128, P (Char.ofNat n) (Char.ofNat n).toLower) :
    ∀ c : Char, P c c.toLower := by
  intro c
  rcases Nat.lt_or_ge c.toNat 128 with hlt | hge
  · exact forall_below (P := fun c => P c c.toLower) 128 h c hlt
  · exact (toLower_of_le hge).symm ▸ hself c

theorem toLower_toLower (c : Char) : c.toLower.toLower = c.toLower :=
  forall_toLower (P := fun c d => d.toLower = c.toLower) (fun _ => rfl) (by decide +kernel) c

theorem toLower_eq_comma_iff (c : Char) : c.toLower = ',' ↔ c = ',' :=
  forall_toLower (P := fun c d => d = ',' ↔ c = ',') (fun _ => Iff.rfl) (by decide +kernel) c

theorem isBlank_toLower (c : Char) : isBlank c.toLower = isBlank c :=
  forall_toLower (P := fun c d => isBlank d = isBlank c) (fun _ => rfl) (by decide +kernel) c

end Gateway.Text
