import Gateway.Proofs.Text.Ascii
import Gateway.Text.Numeral

/-! Numerals. A numeral consists of digits of its base, and the decimal form of a number is read as this number. -/

namespace Gateway.Text

/-- The digits of base sixteen, in either case. -/
def hexDigits : List Char := "0123456789abcdefABCDEF".toList

theorem lt_of_hexValue? {c : Char} {n : Nat} (h : hexValue? c = some n) : c.toNat < 128 := by
  unfold hexValue? at h
  split at h
  · rename_i hdigit
    exact lt_of_isDigit hdigit
  · split at h
    · rename_i hlow
      exact lt_of_val_le hlow.2 (by decide)
    · split at h
      · rename_i hup
        exact lt_of_val_le hup.2 (by decide)
      · cases h

theorem mem_hexDigits {c : Char} {n : Nat} (h : hexValue? c = some n) : c ∈ hexDigits := by
  have hall := forall_below (P := fun c => (hexValue? c).isSome = true → c ∈ hexDigits) 128 (by decide +kernel)
  exact hall c (lt_of_hexValue? h) (by rw [h]; rfl)

theorem mem_hexDigits_of_hexNumeral {n : Nat} {c : Char} (h : c ∈ hexNumeral n) : c ∈ hexDigits := by
  have hdigit : ∀ d : Fin 16, Nat.digitChar d ∈ hexDigits := by decide
  rw [hexNumeral] at h
  induction n using Nat.strongRecOn with
  | ind n ih =>
    rcases Nat.lt_or_ge n 16 with hlt | hge
    · rw [Nat.toDigits_of_lt_base hlt, List.mem_singleton] at h
      exact h ▸ hdigit ⟨n, hlt⟩
    · rw [Nat.toDigits_of_base_le (by decide) hge] at h
      rcases List.mem_append.mp h with h | h
      · exact ih (n / 16) (by omega) h
      · exact List.mem_singleton.mp h ▸ hdigit ⟨n % 16, Nat.mod_lt n (by decide)⟩

/-- Below ten there are the decimal digits only. -/
theorem isDigit_of_digitValue? {c : Char} {n : Nat} (h : digitValue? 10 c = some n) : c.isDigit = true := by
  obtain ⟨hvalue, hlt⟩ := Option.filter_eq_some_iff.mp h
  unfold hexValue? at hvalue
  split at hvalue
  · assumption
  · split at hvalue
    · obtain rfl := Option.some.inj hvalue
      exact absurd (of_decide_eq_true hlt) (by omega)
    · split at hvalue
      · obtain rfl := Option.some.inj hvalue
        exact absurd (of_decide_eq_true hlt) (by omega)
      · cases hvalue

theorem digitValue?_of_isDigit {c : Char} (h : c.isDigit = true) : digitValue? 10 c = some (c.toNat - '0'.toNat) := by
  have hle : c.toNat ≤ '9'.toNat := by
    simp only [Char.isDigit, Bool.and_eq_true, decide_eq_true_eq, UInt32.le_iff_toNat_le] at h
    exact h.2
  rw [digitValue?, hexValue?, if_pos h]
  refine Option.filter_eq_some_iff.mpr ⟨rfl, decide_eq_true ?_⟩
  simp only [show '9'.toNat = 57 from rfl, show '0'.toNat = 48 from rfl] at hle ⊢
  omega

section
variable {base start n : Nat} {cs : List Char}

theorem digits_of_numeralFrom? (h : numeralFrom? base start cs = some n) : ∀ c ∈ cs, (digitValue? base c).isSome := by
  induction cs generalizing start with
  | nil => simp
  | cons c cs ih =>
    obtain ⟨d, hd, hrest⟩ := Option.bind_eq_some_iff.mp h
    intro e he
    rcases List.mem_cons.mp he with rfl | he
    · simp [hd]
    · exact ih hrest e he

theorem numeral?_ne_nil (h : numeral? base cs = some n) : cs ≠ [] := by
  rintro rfl
  cases h

theorem digits_of_numeral? (h : numeral? base cs = some n) : ∀ c ∈ cs, (digitValue? base c).isSome := by
  obtain ⟨c, rest, rfl⟩ := List.exists_cons_of_ne_nil (numeral?_ne_nil h)
  exact digits_of_numeralFrom? h

theorem hexDigits_of_numeral? (h : numeral? base cs = some n) : ∀ c ∈ cs, c ∈ hexDigits := by
  intro c hc
  obtain ⟨d, hd⟩ := Option.isSome_iff_exists.mp (digits_of_numeral? h c hc)
  exact mem_hexDigits (Option.filter_eq_some_iff.mp hd).1

theorem isDigit_of_numeral? (h : numeral? 10 cs = some n) : ∀ c ∈ cs, c.isDigit = true := by
  intro c hc
  obtain ⟨d, hd⟩ := Option.isSome_iff_exists.mp (digits_of_numeral? h c hc)
  exact isDigit_of_digitValue? hd

theorem numeralFrom?_of_isDigit (h : ∀ c ∈ cs, c.isDigit = true) (start : Nat) :
    numeralFrom? 10 start cs = some (Nat.ofDigitChars 10 cs start) := by
  induction cs generalizing start with
  | nil => rfl
  | cons c cs ih =>
    rw [numeralFrom?, digitValue?_of_isDigit (h c List.mem_cons_self), Option.bind_some,
      ih fun d hd => h d (List.mem_cons_of_mem _ hd), Nat.ofDigitChars_cons, Nat.mul_comm]

theorem numeral?_eq_some_iff : numeral? 10 cs = some n ↔
    cs ≠ [] ∧ (∀ c ∈ cs, c.isDigit = true) ∧ Nat.ofDigitChars 10 cs 0 = n := by
  have hread : cs ≠ [] → numeral? 10 cs = numeralFrom? 10 0 cs := by
    intro hne
    obtain ⟨c, rest, rfl⟩ := List.exists_cons_of_ne_nil hne
    rfl
  constructor
  · intro h
    have hne := numeral?_ne_nil h
    have hdigits := isDigit_of_numeral? h
    rw [hread hne, numeralFrom?_of_isDigit hdigits] at h
    exact ⟨hne, hdigits, Option.some.inj h⟩
  · rintro ⟨hne, hdigits, rfl⟩
    rw [hread hne, numeralFrom?_of_isDigit hdigits]

theorem toList_repr (n : Nat) : (Nat.repr n).toList = Nat.toDigits 10 n := by
  rw [Nat.repr_eq_ofList_toDigits, String.toList_ofList]

theorem isDigit_of_mem_repr {c : Char} (h : c ∈ (Nat.repr n).toList) : c.isDigit = true := by
  rw [toList_repr] at h
  exact Nat.isDigit_of_mem_toDigits (by decide) (by decide) h

/-- The decimal form of a number is read as the number. -/
theorem numeral?_repr (n : Nat) : numeral? 10 (Nat.repr n).toList = some n := by
  refine numeral?_eq_some_iff.mpr ⟨?_, fun c => isDigit_of_mem_repr, ?_⟩
  · rw [toList_repr]
    exact Nat.toDigits_ne_nil
  · rw [toList_repr, Nat.ofDigitChars_ten_toDigits]

/-- The decimal form of a port is read as one. -/
theorem numeral?_port (port : UInt16) :
    (numeral? 10 (Nat.repr port.toNat).toList).filter (· < UInt16.size) = some port.toNat := by
  rw [numeral?_repr]
  exact Option.filter_eq_some_iff.mpr ⟨rfl, decide_eq_true port.toNat_lt⟩

theorem repr_ne_nil (n : Nat) : (Nat.repr n).toList ≠ [] := numeral?_ne_nil (numeral?_repr n)

end
end Gateway.Text
