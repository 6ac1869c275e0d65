import Gateway.Proofs.Text.Ascii
import Gateway.Proofs.Text.Cutting
import Gateway.Url.Domain.Name

/-! Names of hosts. Whatever a name is made from, its ASCII form holds no character that a host must not hold: labels
    are looked at before they are written, and writing adds nothing but hyphens, letters and digits. -/

namespace Gateway.Url.Domain

open Text

namespace Bootstring

/-- The digits of base 36. -/
def digits : List Char := "abcdefghijklmnopqrstuvwxyz0123456789".toList

theorem digit_mem {n : Nat} (h : n < 36) : digit n ∈ digits := by
  have hall : ∀ m : Fin 36, digit m ∈ digits := by decide +kernel
  exact hall ⟨n, h⟩

theorem threshold_le (place bias : Nat) : threshold place bias ≤ 26 := Nat.min_le_left _ _

theorem mem_writeDistance {bias place q : Nat} {c : Char} (h : c ∈ writeDistance bias place q) : c ∈ digits := by
  induction place, q using writeDistance.induct bias with
  | case1 place q hlt =>
    have := threshold_le place bias
    rw [writeDistance, if_pos hlt, List.mem_singleton] at h
    exact h ▸ digit_mem (by omega)
  | case2 place q hge t ih =>
    have hle := threshold_le place bias
    have hmod : (q - threshold place bias) % (36 - threshold place bias) < 36 - threshold place bias :=
      Nat.mod_lt _ (by omega)
    rw [writeDistance, if_neg hge] at h
    rcases List.mem_cons.mp h with rfl | h
    · exact digit_mem (by omega)
    · exact ih h

/-- A writer whose pieces are made of digits. -/
def Writer.IsDigital (w : Writer) : Prop := ∀ piece ∈ w.pieces, ∀ c ∈ piece, c ∈ digits

section
variable {w : Writer}

theorem Writer.IsDigital.pass (h : w.IsDigital) (code : Nat) (c : Char) : (w.pass code c).IsDigital := by
  unfold Writer.pass
  split
  · exact h
  · split
    · intro piece hpiece
      rcases List.mem_cons.mp hpiece with rfl | hpiece
      · exact fun c => mem_writeDistance
      · exact h piece hpiece
    · exact h

theorem Writer.IsDigital.passAll (h : w.IsDigital) (code : Nat) (label : List Char) :
    (label.foldl (Writer.pass code) w).IsDigital := by
  induction label generalizing w with
  | nil => exact h
  | cons c label ih => exact ih (h.pass code c)

theorem Writer.IsDigital.writeAll (h : w.IsDigital) (label : List Char) (reached : Nat) (codes : List Nat) :
    (writeAll label w reached codes).IsDigital := by
  induction codes generalizing w reached with
  | nil => exact h
  | cons code codes ih =>
    have hmoved {w : Writer} (h : w.IsDigital) (delta : Nat) : Writer.IsDigital { w with delta } := h
    rw [Bootstring.writeAll]
    exact ih (hmoved ((hmoved h _).passAll code label) _) (code + 1)

end

theorem mem_encode {label : List Char} {c : Char} (h : c ∈ encode label) : c ∈ label ∨ c ∈ '-' :: digits := by
  simp only [encode, List.mem_append] at h
  rcases h with h | h
  · split at h
    · cases h
    · rcases List.mem_append.mp h with h | h
      · exact Or.inl (List.mem_filter.mp h).1
      · exact Or.inr (List.mem_singleton.mp h ▸ List.mem_cons_self)
  · obtain ⟨piece, hpiece, hc⟩ := List.mem_flatten.mp h
    have hnone : Writer.IsDigital ⟨0, 72, (label.filter (·.toNat < 128)).length, true, []⟩ :=
      fun piece hpiece => absurd hpiece List.not_mem_nil
    exact Or.inr (List.mem_cons_of_mem _ (hnone.writeAll label _ _ piece (List.mem_reverse.mp hpiece) c hc))

end Bootstring

theorem allowed_of_meaning? {label meaning : List Char} (h : meaning? label = some meaning) :
    ∀ c ∈ meaning, forbidden c = false := by
  have hallowed : labelAllowed meaning = true := by
    unfold meaning? at h
    split at h
    · split at h
      · exact Option.some.inj h ▸ ‹_›
      · cases h
    · simp only [Option.bind_eq_bind, Option.bind_eq_some_iff] at h
      obtain ⟨inner, -, h⟩ := h
      split at h
      · cases h
      · obtain ⟨normal, -, h⟩ := Option.bind_eq_some_iff.mp h
        split at h
        · rename_i hinner
          exact Option.some.inj h ▸ hinner.2.2
        · cases h
  intro c hc
  simp only [labelAllowed, Bool.and_eq_true, List.all_eq_true] at hallowed
  simpa using hallowed.1.2 c hc

theorem allowed_writeLabel {label : List Char} (h : ∀ c ∈ label, forbidden c = false) :
    ∀ c ∈ writeLabel label, forbidden c = false := by
  intro c hc
  unfold writeLabel at hc
  split at hc
  · exact h c hc
  · have hfront : ∀ d ∈ "xn--".toList, forbidden d = false := forall_mem (by decide)
    have hdigits : ∀ d ∈ '-' :: Bootstring.digits, forbidden d = false := forall_mem (by decide +kernel)
    rcases List.mem_append.mp hc with hc | hc
    · exact hfront c hc
    · rcases Bootstring.mem_encode hc with hc | hc
      · exact h c hc
      · exact hdigits c hc

theorem exists_of_mem_mapM {α β : Type} {f : α → Option β} {l : List α} {l' : List β} (h : l.mapM f = some l')
    {b : β} (hb : b ∈ l') : ∃ a, f a = some b := by
  induction l generalizing l' with
  | nil =>
    obtain rfl : [] = l' := by simpa using h
    cases hb
  | cons a l ih =>
    simp only [List.mapM_cons, Option.bind_eq_bind, Option.bind_eq_some_iff] at h
    obtain ⟨first, hfirst, rest, hrest, h⟩ := h
    obtain rfl := Option.some.inj h
    rcases List.mem_cons.mp hb with rfl | hb
    · exact ⟨a, hfirst⟩
    · exact ih hrest hb

theorem allowed_generalName? {cs ascii : List Char} (h : generalName? cs = some ascii) :
    ∀ c ∈ ascii, forbidden c = false := by
  simp only [generalName?, Option.bind_eq_bind, Option.bind_eq_some_iff] at h
  obtain ⟨normal, -, meanings, hmeanings, h⟩ := h
  split at h
  · cases h
  · obtain rfl := Option.some.inj h
    intro c hc
    rcases mem_intercalate hc with rfl | ⟨written, hwritten, hc⟩
    · decide
    · obtain ⟨meaning, hmem, rfl⟩ := List.mem_map.mp hwritten
      obtain ⟨label, hlabel⟩ := exists_of_mem_mapM hmeanings hmem
      exact allowed_writeLabel (allowed_of_meaning? hlabel) c hc

/-- The name of a host holds no character that a host must not hold. -/
theorem allowed_name? {cs ascii : List Char} (h : name? cs = some ascii) : ∀ c ∈ ascii, forbidden c = false := by
  unfold name? at h
  simp only at h
  split at h
  · split at h
    · cases h
    · rename_i hnone
      obtain rfl := Option.some.inj h
      simpa using hnone
  · exact allowed_generalName? h

end Gateway.Url.Domain
