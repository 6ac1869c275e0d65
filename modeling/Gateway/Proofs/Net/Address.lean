import Gateway.Net.Address
import Gateway.Proofs.Text.Cutting
import Gateway.Proofs.Text.Numeral

/-! The texts of addresses hold digits, colons and dots only. One of version 4 is four octets in decimal digits; one of
    version 6 has a colon, so that the two are never mistaken for each other. -/

namespace Gateway.Net

open Text

/-- The characters of the texts of addresses. -/
def addressChars : List Char := "0123456789abcdefABCDEF:.".toList

theorem mem_addressChars_of_hex {c : Char} (h : c ∈ hexDigits) : c ∈ addressChars := by
  have hall : ∀ d ∈ hexDigits, d ∈ addressChars := forall_mem (by decide)
  exact hall c h

theorem mem_addressChars_of_isDigit {c : Char} (h : c.isDigit = true) : c ∈ addressChars :=
  mem_addressChars_of_hex (mem_hexDigits (Option.filter_eq_some_iff.mp (digitValue?_of_isDigit h)).1)

namespace Ipv4

/-- A text of an octet is a numeral below 256, without a zero in front. -/
theorem octet?_inv {cs : List Char} {n : Nat} (h : octet? cs = some n) :
    numeral? 10 cs = some n ∧ n < 256 ∧ (cs.head? = some '0' → cs = ['0']) := by
  unfold octet? at h
  split at h
  · cases h
  · rename_i hzero
    split at h
    · obtain ⟨hn, hlt⟩ := Option.filter_eq_some_iff.mp h
      exact ⟨hn, of_decide_eq_true hlt, fun hhead => Classical.not_not.mp fun hne => hzero ⟨hhead, hne⟩⟩
    · cases h

/-- Four octets write the number of an address. -/
theorem number?_inv {cs : List Char} {n : Nat} (h : number? cs = some n) :
    ∃ a b c d na nb nc nd, cs.splitOn '.' = [a, b, c, d] ∧ octet? a = some na ∧ octet? b = some nb ∧
      octet? c = some nc ∧ octet? d = some nd ∧ n = ((na * 256 + nb) * 256 + nc) * 256 + nd := by
  unfold number? at h
  split at h
  · rename_i a b c d hsplit
    simp only [bind, pure, Option.bind_eq_some_iff] at h
    obtain ⟨na, ha, nb, hb, nc, hc, nd, hd, hn⟩ := h
    exact ⟨a, b, c, d, na, nb, nc, nd, hsplit, ha, hb, hc, hd, (Option.some.inj hn).symm⟩
  · cases h

theorem isDigit_of_number? {cs : List Char} {n : Nat} (h : number? cs = some n) :
    ∀ c ∈ cs, c = '.' ∨ c.isDigit = true := by
  obtain ⟨a, b, c, d, na, nb, nc, nd, hsplit, ha, hb, hc, hd, -⟩ := number?_inv h
  intro ch hch
  rcases mem_piece '.' hch with hdot | ⟨piece, hpiece, hmem⟩
  · exact Or.inl hdot
  · refine Or.inr ?_
    rw [hsplit] at hpiece
    simp only [List.mem_cons, List.not_mem_nil, or_false] at hpiece
    rcases hpiece with rfl | rfl | rfl | rfl
    · exact isDigit_of_numeral? (octet?_inv ha).1 ch hmem
    · exact isDigit_of_numeral? (octet?_inv hb).1 ch hmem
    · exact isDigit_of_numeral? (octet?_inv hc).1 ch hmem
    · exact isDigit_of_numeral? (octet?_inv hd).1 ch hmem

theorem isDigit_of_mem_text {a : Ipv4} {c : Char} (h : c ∈ a.text.toList) : c = '.' ∨ c.isDigit = true := by
  rw [text, String.toList_intercalate] at h
  rcases mem_intercalate h with rfl | ⟨piece, hpiece, hc⟩
  · exact Or.inl rfl
  · simp only [List.map_map, List.mem_map] at hpiece
    obtain ⟨n, -, rfl⟩ := hpiece
    exact Or.inr (isDigit_of_mem_repr hc)

theorem mem_text {a : Ipv4} {c : Char} (h : c ∈ a.text.toList) : c ∈ addressChars := by
  rcases isDigit_of_mem_text h with rfl | hdigit
  · decide
  · exact mem_addressChars_of_isDigit hdigit

theorem text_ne_empty (a : Ipv4) : a.text ≠ "" := by
  intro h
  have hlist := congrArg String.toList h
  simp [text, octets] at hlist

end Ipv4

namespace Ipv6

theorem gap?_inv {cs left right : List Char} (h : gap? cs = some (left, right)) : cs = left ++ ':' :: ':' :: right := by
  fun_induction gap? cs generalizing left right with
  | case1 => cases h
  | case2 rest =>
    obtain ⟨rfl, rfl⟩ := Prod.mk.inj (Option.some.inj h)
    rfl
  | case3 c rest hne ih =>
    obtain ⟨⟨l, r⟩, hgap, heq⟩ := Option.map_eq_some_iff.mp h
    obtain ⟨rfl, rfl⟩ := Prod.mk.inj heq
    rw [ih hgap]
    rfl

/-- The characters of groups. -/
theorem mem_of_groups? {octets : Bool} {parts : List (List Char)} {groups : List UInt16}
    (h : groups? octets parts = some groups) : ∀ part ∈ parts, ∀ c ∈ part, c ∈ addressChars := by
  have hgroup : ∀ {cs g}, group? cs = some g → ∀ c ∈ cs, c ∈ addressChars := by
    intro cs g hg c hc
    unfold group? at hg
    split at hg
    · obtain ⟨n, hn, -⟩ := Option.map_eq_some_iff.mp hg
      exact mem_addressChars_of_hex (hexDigits_of_numeral? hn c hc)
    · cases hg
  fun_induction groups? octets parts generalizing groups with
  | case1 => simp
  | case2 last g hg => simpa using hgroup hg
  | case3 last hg hoctets =>
    obtain ⟨n, hn, -⟩ := Option.map_eq_some_iff.mp h
    intro part hpart c hc
    obtain rfl := List.mem_singleton.mp hpart
    rcases Ipv4.isDigit_of_number? hn c hc with rfl | hdigit
    · decide
    · exact mem_addressChars_of_isDigit hdigit
  | case4 => cases h
  | case5 cs rest hrest ih =>
    simp only [bind, pure, Option.bind_eq_some_iff] at h
    obtain ⟨g, hg, gs, hgs, -⟩ := h
    intro part hpart
    rcases List.mem_cons.mp hpart with rfl | hpart
    · exact hgroup hg
    · exact ih hgs part hpart

theorem mem_of_side? {octets : Bool} {cs : List Char} {groups : List UInt16} (h : side? octets cs = some groups) :
    ∀ c ∈ cs, c ∈ addressChars := by
  unfold side? at h
  split at h
  · rename_i hnil
    simp [hnil]
  · intro c hc
    rcases mem_piece ':' hc with rfl | ⟨part, hpart, hmem⟩
    · decide
    · exact mem_of_groups? h part hpart c hmem

/-- The characters of a text of version 6. -/
theorem mem_of_ofText? {cs : List Char} {a : Ipv6} (h : ofText? cs = some a) : ∀ c ∈ cs, c ∈ addressChars := by
  unfold ofText? at h
  split at h
  · obtain ⟨groups, hgroups, -⟩ := Option.bind_eq_some_iff.mp h
    intro c hc
    rcases mem_piece ':' hc with rfl | ⟨part, hpart, hmem⟩
    · decide
    · exact mem_of_groups? hgroups part hpart c hmem
  · rename_i left right hgap
    obtain ⟨_, hleft, h⟩ := Option.bind_eq_some_iff.mp h
    obtain ⟨_, hright, -⟩ := Option.bind_eq_some_iff.mp h
    rw [gap?_inv hgap]
    intro c hc
    rcases List.mem_append.mp hc with hc | hc
    · exact mem_of_side? hleft c hc
    · simp only [List.mem_cons] at hc
      rcases hc with rfl | rfl | hc
      · decide
      · decide
      · exact mem_of_side? hright c hc

theorem length_groups?_le {cs : List Char} {groups : List UInt16} (h : groups? true [cs] = some groups) :
    groups.length ≤ 2 := by
  unfold groups? at h
  split at h
  · obtain rfl := Option.some.inj h
    simp
  · obtain ⟨n, -, rfl⟩ := Option.map_eq_some_iff.mp (by simpa using h)
    simp

/-- A single group is no address of version 6. -/
theorem colon_mem {cs : List Char} {a : Ipv6} (h : ofText? cs = some a) : ':' ∈ cs := by
  refine Classical.byContradiction fun hnone => ?_
  unfold ofText? at h
  split at h
  · obtain ⟨groups, hgroups, hof⟩ := Option.bind_eq_some_iff.mp h
    rw [List.splitOn_eq_singleton hnone] at hgroups
    have hle := length_groups?_le hgroups
    unfold ofGroups? at hof
    split at hof
    · omega
    · cases hof
  · rename_i left right hgap
    rw [gap?_inv hgap] at hnone
    simp at hnone

theorem mem_text {a : Ipv6} {c : Char} (h : c ∈ a.text.toList) : c ∈ addressChars := by
  have hcolons : ∀ d ∈ "::".toList, d ∈ addressChars := forall_mem (by decide)
  have hgroups : ∀ gs : List UInt16,
      c ∈ (":".intercalate (gs.map fun g => String.ofList (hexNumeral g.toNat))).toList → c ∈ addressChars := by
    intro gs hmem
    rw [String.toList_intercalate] at hmem
    rcases mem_intercalate hmem with rfl | ⟨piece, hpiece, hc⟩
    · decide
    · simp only [List.map_map, List.mem_map, Function.comp_apply, String.toList_ofList] at hpiece
      obtain ⟨g, -, rfl⟩ := hpiece
      exact mem_addressChars_of_hex (mem_hexDigits_of_hexNumeral hc)
  unfold text at h
  dsimp only at h
  split at h
  · simp only [toString, String.toList_append, List.mem_append] at h
    rcases h with (h | h) | h
    · exact hgroups _ h
    · exact hcolons c h
    · exact hgroups _ h
  · exact hgroups _ h

end Ipv6

theorem IpAddress.mem_text {ip : IpAddress} {c : Char} (h : c ∈ ip.text.toList) : c ∈ addressChars := by
  cases ip with
  | v4 a => exact Ipv4.mem_text h
  | v6 a =>
    simp only [text] at h
    split at h
    · simp only [toString, String.toList_append, List.mem_append] at h
      have hmapped : ∀ d ∈ "::ffff:".toList, d ∈ addressChars := forall_mem (by decide)
      rcases h with h | h
      · exact hmapped c h
      · exact Ipv4.mem_text h
    · exact Ipv6.mem_text h

/-- A text of an address has a colon just if it is of version 6. -/
theorem IpAddress.ofText?_inv {s : String} {ip : IpAddress} (h : ofText? s = some ip) :
    (∃ a, ip = .v4 a ∧ Ipv4.ofText? s.toList = some a ∧ ':' ∉ s.toList) ∨
      (∃ a, ip = .v6 a ∧ Ipv6.ofText? s.toList = some a ∧ ':' ∈ s.toList) := by
  unfold ofText? at h
  cases h4 : Ipv4.ofText? s.toList with
  | some a =>
    rw [h4] at h
    refine Or.inl ⟨a, (Option.some.inj h).symm, rfl, fun hcolon => ?_⟩
    obtain ⟨n, hn, -⟩ := Option.map_eq_some_iff.mp h4
    rcases Ipv4.isDigit_of_number? hn ':' hcolon with hdot | hdigit
    · cases hdot
    · cases hdigit
  | none =>
    rw [h4] at h
    obtain ⟨a, ha, rfl⟩ := Option.map_eq_some_iff.mp h
    exact Or.inr ⟨a, rfl, ha, Ipv6.colon_mem ha⟩

end Gateway.Net
