import Gateway.Proofs.Net.Address
import Gateway.Proofs.Text.Utf8
import Gateway.Url.Reading

/-! Addresses as hosts. The text of an address is read as the host that is this address, whether it stands in front of a
    colon and a port as it is, or between brackets. -/

namespace Gateway.Url

open Text

/-- The host that is an address. -/
def Host.ofIp : Net.IpAddress → Host
  | .v4 a => .ipv4 a
  | .v6 a => .ipv6 a

theorem unescape_of_forall {bs : List UInt8} (h : (0x25 : UInt8) ∉ bs) : unescape bs = bs := by
  fun_induction unescape bs with
  | case1 => rfl
  | case2 => rfl
  | case3 => rfl
  | case4 b c rest high low hhigh hlow ih => exact absurd List.mem_cons_self h
  | case5 b c rest hnone ih => exact absurd List.mem_cons_self h
  | case6 a b c rest hne ih => rw [ih fun hmem => h (List.mem_cons_of_mem _ hmem)]

/-- Without escapes a text of ASCII stands for itself. -/
theorem ofUtf8?_unescape {cs : List Char} (h : ∀ c ∈ cs, c.toNat < 128 ∧ c ≠ '%') :
    Host.ofUtf8? (unescape (String.ofList cs).toUTF8.toList) = some cs := by
  have hpercent : (0x25 : UInt8) ∉ (String.ofList cs).toUTF8.toList := by
    rw [toList_toUTF8]
    intro hmem
    obtain ⟨c, hc, hb⟩ := List.mem_flatMap.mp hmem
    rw [utf8EncodeChar_of_lt (h c hc).1] at hb
    have hall := forall_below (P := fun c => (0x25 : UInt8) = UInt8.ofNat c.toNat → c = '%') 128 (by decide +kernel)
    exact (h c hc).2 (hall c (h c hc).1 (List.mem_singleton.mp hb))
  rw [unescape_of_forall hpercent, Host.ofUtf8?, toByteArray_toList, fromUTF8?_toUTF8, Option.map_some,
    String.toList_ofList]

/-- A name of digits and dots is in the form in which names are compared. -/
theorem name?_of_digits {cs : List Char} (h : ∀ c ∈ cs, c = '.' ∨ c.isDigit = true) : Domain.name? cs = some cs := by
  have hascii : ∀ c ∈ cs, c.toNat < 128 := by
    intro c hc
    rcases h c hc with rfl | hdigit
    · decide
    · exact lt_of_isDigit hdigit
  have hkeeps : ∀ c ∈ cs, c.toLower = c ∧ Domain.forbidden c = false ∧ c ≠ 'x' := by
    have hall := forall_below (P := fun c => (c = '.' ∨ c.isDigit = true) →
      c.toLower = c ∧ Domain.forbidden c = false ∧ c ≠ 'x') 128 (by decide +kernel)
    exact fun c hc => hall c (hascii c hc) (h c hc)
  have hlower : cs.map Char.toLower = cs :=
    (List.map_congr_left fun c hc => (hkeeps c hc).1).trans (List.map_id cs)
  have hcoded : ∀ label ∈ cs.splitOn '.', Domain.coded? label = none := by
    intro label hlabel
    unfold Domain.coded?
    split
    · rename_i rest
      exact absurd rfl (hkeeps 'x' (mem_of_mem_piece hlabel List.mem_cons_self)).2.2
    · rfl
  unfold Domain.name?
  dsimp only
  rw [hlower, if_pos ⟨by simpa using hascii, by simpa using hcoded⟩, if_neg]
  simpa using fun c hc => (hkeeps c hc).2.1

theorem octet_ne_nil {cs : List Char} {n : Nat} (h : Net.Ipv4.octet? cs = some n) : cs ≠ [] :=
  numeral?_ne_nil (Net.Ipv4.octet?_inv h).1

theorem number?_of_octet? {cs : List Char} {n : Nat} (h : Net.Ipv4.octet? cs = some n) : Host.number? cs = some n := by
  obtain ⟨hn, -, hzero⟩ := Net.Ipv4.octet?_inv h
  -- An octet with a zero in front is that zero, so that no octal or hexadecimal reading comes up.
  by_cases hhead : cs.head? = some '0'
  · rw [hzero hhead] at hn ⊢
    obtain rfl := Option.some.inj (hn.symm.trans (by decide : numeral? 10 ['0'] = some 0))
    rfl
  · unfold Host.number?
    split
    · cases hn
    · exact absurd rfl hhead
    · exact absurd rfl hhead
    · exact absurd rfl hhead
    · exact absurd rfl hhead
    · exact hn

theorem endsInNumber_of_text {cs : List Char} {a : Net.Ipv4} (h : Net.Ipv4.ofText? cs = some a) :
    Host.endsInNumber cs = true ∧ Host.address? cs = some a := by
  obtain ⟨n, hn, rfl⟩ := Option.map_eq_some_iff.mp h
  obtain ⟨p, q, r, s, np, nq, nr, ns, hsplit, hp, hq, hr, hs, rfl⟩ := Net.Ipv4.number?_inv hn
  have hlabels : Host.labels cs = [p, q, r, s] := by
    rw [Host.labels, hsplit]
    simp [octet_ne_nil hs]
  have hlt : ∀ {cs n}, Net.Ipv4.octet? cs = some n → n < 256 := fun h => (Net.Ipv4.octet?_inv h).2.1
  refine ⟨?_, ?_⟩
  · have hdigits := isDigit_of_numeral? (Net.Ipv4.octet?_inv hs).1
    rw [Host.endsInNumber, hlabels]
    simpa [octet_ne_nil hs] using Or.inl hdigits
  · have hroom : (np ≤ 255 ∧ nq ≤ 255 ∧ nr ≤ 255) ∧ ns < 256 :=
      ⟨⟨Nat.le_of_lt_succ (hlt hp), Nat.le_of_lt_succ (hlt hq), Nat.le_of_lt_succ (hlt hr)⟩, hlt hs⟩
    rw [Host.address?, hlabels]
    simpa [number?_of_octet? hp, number?_of_octet? hq, number?_of_octet? hr, number?_of_octet? hs] using hroom

theorem ne_nil_of_text {cs : List Char} {a : Net.Ipv4} (h : Net.Ipv4.ofText? cs = some a) : cs ≠ [] := by
  rintro rfl
  cases h

theorem ofDomain_ipv4 {cs : List Char} {a : Net.Ipv4} (h : Net.Ipv4.ofText? cs = some a) :
    Host.ofDomain cs = .ok (.ipv4 a) := by
  obtain ⟨n, hn, -⟩ := Option.map_eq_some_iff.mp h
  have hdigits := Net.Ipv4.isDigit_of_number? hn
  have hplain : ∀ c ∈ cs, c.toNat < 128 ∧ c ≠ '%' := by
    intro c hc
    rcases hdigits c hc with rfl | hdigit
    · decide
    · refine ⟨lt_of_isDigit hdigit, ?_⟩
      rintro rfl
      cases hdigit
  obtain ⟨hends, haddress⟩ := endsInNumber_of_text h
  unfold Host.ofDomain
  split
  · exact absurd (hdigits '[' List.mem_cons_self) (by decide)
  · rw [ofUtf8?_unescape hplain, Option.bind_some, name?_of_digits hdigits]
    obtain ⟨c, rest, rfl⟩ := List.exists_cons_of_ne_nil (ne_nil_of_text h)
    dsimp only
    rw [if_pos hends, haddress]

theorem ofDomain_ipv6 {cs : List Char} {a : Net.Ipv6} (h : Net.Ipv6.ofText? cs = some a) :
    Host.ofDomain ('[' :: (cs ++ [']'])) = .ok (.ipv6 a) := by
  show Host.bracketed (cs ++ [']']) = _
  rw [Host.bracketed, if_pos (by simp), List.dropLast_concat, h]

/-- The decimal form of a port is read as the port, which is not kept where it is that of the web. -/
theorem readPort_repr (port : UInt16) :
    readPort "http" (Nat.repr port.toNat).toList = .ok (if port = 80 then none else some port) := by
  rw [readPort, if_neg (repr_ne_nil _), numeral?_port]
  dsimp only
  rw [UInt16.ofNat_toNat]
  by_cases hport : port = 80
  · subst hport
    rfl
  · rw [if_neg hport, if_neg]
    simpa [defaultPort?] using Ne.symm hport

theorem cutUserinfo_of_not_mem {cs : List Char} (h : '@' ∉ cs) : cutUserinfo cs = (none, cs) := by
  have hall : ∀ c ∈ cs.reverse, (c != '@') = true := by
    intro c hc
    exact bne_iff_ne.mpr fun heq => h (heq ▸ List.mem_reverse.mp hc)
  have htake : (cs.reverse ++ []).takeWhile (· != '@') = cs.reverse ++ [] := List.takeWhile_append_of_pos hall
  rw [List.append_nil] at htake
  rw [cutUserinfo, htake, List.reverse_reverse, if_pos rfl]

theorem cutPort_name {name : List Char} (h : ∀ c ∈ name, c ≠ ':' ∧ c ≠ '[' ∧ c ≠ ']') (rest : List Char) :
    cutPort false (name ++ ':' :: rest) = (name, some rest) := by
  induction name with
  | nil => simp [cutPort]
  | cons c name ih =>
    obtain ⟨hcolon, hopen, hclose⟩ := h c List.mem_cons_self
    have ih := ih fun c hc => h c (List.mem_cons_of_mem _ hc)
    simp [cutPort, hcolon, hopen, hclose, ih]

theorem cutPort_brackets {inner : List Char} (h : ']' ∉ inner) (rest : List Char) :
    cutPort true (inner ++ ']' :: ':' :: rest) = (inner ++ [']'], some rest) := by
  induction inner with
  | nil => simp [cutPort]
  | cons c inner ih =>
    rw [List.mem_cons, not_or] at h
    simp [cutPort, Ne.symm h.1, ih h.2]

section
variable {name port : List Char} {host : Host}

/-- An authority without credentials is a host and a port. -/
theorem readAuthority_of_cut {cs : List Char} (hat : '@' ∉ cs) (hcut : cutPort false cs = (name, some port))
    (hne : name ≠ []) (hhost : Host.ofDomain name = .ok host) (hname : host ≠ .name "") {p : Option UInt16}
    (hport : readPort "http" port = .ok p) : readAuthority "http" cs = .ok ⟨none, host, p⟩ := by
  unfold readAuthority
  rw [cutUserinfo_of_not_mem hat]
  dsimp only
  rw [hcut]
  simp [isSpecial, hne, hhost, hname, hport, bind, Except.bind, pure, Except.pure]

end
end Gateway.Url
