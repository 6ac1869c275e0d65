import Gateway.Proofs.Net.Address
import Gateway.Proofs.Url.Names
import Gateway.Proofs.Url.Resolution

/-! URLs of the web, as they are read. There is a host, and no port that the scheme implies, so that the text of the
    site tells both; there is a rooted path; and what is read as path, query and fragment holds nothing that would end
    it. -/

namespace Gateway.Url

open Text

/-! ### Hosts and authorities -/

/-- The text of a host is there, and has no colon that could be taken for that of a port. -/
structure Host.IsApart (host : Host) : Prop where
  ne_empty : host.text ≠ ""
  colon : ':' ∉ host.text.toList ∨ host.text.toList.getLast? = some ']'

theorem isApart_ipv4 (a : Net.Ipv4) : (Host.ipv4 a).IsApart where
  ne_empty := Net.Ipv4.text_ne_empty a
  colon := by
    refine Or.inl fun hmem => ?_
    rcases Net.Ipv4.isDigit_of_mem_text hmem with hdot | hdigit
    · cases hdot
    · cases hdigit

theorem text_ipv6 (a : Net.Ipv6) : (Host.ipv6 a).text.toList = '[' :: (a.text.toList ++ [']']) := by
  simp [Host.text, toString]

theorem isApart_ipv6 (a : Net.Ipv6) : (Host.ipv6 a).IsApart where
  ne_empty h := by simpa [text_ipv6] using congrArg String.toList h
  colon := Or.inr (by rw [text_ipv6, ← List.cons_append, List.getLast?_concat])

theorem isApart_name {cs ascii : List Char} (h : Domain.name? cs = some ascii) (hne : ascii ≠ []) :
    (Host.name (String.ofList ascii)).IsApart where
  ne_empty heq := hne (by simpa [Host.text] using congrArg String.toList heq)
  colon := Or.inl fun hmem => absurd (Domain.allowed_name? h ':' (by simpa [Host.text] using hmem)) (by decide)

theorem isApart_of_bracketed {cs : List Char} {host : Host} (h : Host.bracketed cs = .ok host) : host.IsApart := by
  unfold Host.bracketed at h
  split at h
  · split at h
    · exact Except.ok.inj h ▸ isApart_ipv6 _
    · cases h
  · cases h

theorem isApart_of_ofDomain {cs : List Char} {host : Host} (h : Host.ofDomain cs = .ok host) : host.IsApart := by
  unfold Host.ofDomain at h
  split at h
  · exact isApart_of_bracketed h
  · split at h
    · cases h
    · cases h
    · rename_i ascii hne hname
      obtain ⟨name, -, hname⟩ := Option.bind_eq_some_iff.mp hname
      split at h
      · split at h
        · exact Except.ok.inj h ▸ isApart_ipv4 _
        · cases h
      · exact Except.ok.inj h ▸ isApart_name hname hne

theorem readPort_ne_default {scheme : String} {cs : List Char} {port : UInt16}
    (h : readPort scheme cs = .ok (some port)) : defaultPort? scheme ≠ some port := by
  unfold readPort at h
  split at h
  · cases h
  · split at h
    · cases h
    · split at h
      · cases h
      · rename_i hport
        obtain rfl := Option.some.inj (Except.ok.inj h)
        exact hport

/-- An authority as it is read under a scheme that browsers know. -/
structure Authority.IsOf (scheme : String) (a : Authority) : Prop where
  host : a.host.IsApart
  port : ∀ port, a.port = some port → defaultPort? scheme ≠ some port

theorem isOf_of_readAuthority {scheme : String} {cs : List Char} {a : Authority} (hs : isSpecial scheme = true)
    (h : readAuthority scheme cs = .ok a) : a.IsOf scheme := by
  unfold readAuthority at h
  simp only [hs, if_true] at h
  split at h
  · cases h
  · obtain ⟨host, hhost, h⟩ := bind_eq_ok.mp h
    split at h
    · cases h
    · obtain ⟨port, hport, h⟩ := bind_eq_ok.mp h
      obtain rfl := Except.ok.inj h
      exact ⟨isApart_of_ofDomain hhost, fun p hp => readPort_ne_default (hport.trans (congrArg Except.ok hp))⟩

/-! ### Whole URLs -/

section
variable {scheme : String} {cs : List Char} {url : Url}

/-- What is read under a scheme that browsers know, in its parts. -/
theorem readSpecial_eq_ok (h : readSpecial scheme cs = .ok url) : url.scheme = scheme ∧
    (∃ site a, readAuthority scheme site = .ok a ∧ url.authority = some a) ∧
    url.query = (cutTail true cs).2.query ∧ url.fragment = (cutTail true cs).2.fragment := by
  obtain ⟨a, ha, h⟩ := bind_eq_ok.mp h
  obtain rfl := Except.ok.inj h
  exact ⟨rfl, ⟨_, a, ha, rfl⟩, rfl, rfl⟩

end

/-- A URL of the web. -/
structure IsWeb (url : Url) : Prop where
  scheme : url.scheme = "http" ∨ url.scheme = "https"
  authority : ∃ a : Authority, url.authority = some a ∧ a.IsOf url.scheme
  path : ∃ segments, url.GoesThrough segments
  query : ∀ query, url.query = some query → ∃ cs, query = String.ofList (escape specialQuerySet cs)
  fragment : ∀ fragment, url.fragment = some fragment → ∃ cs, fragment = String.ofList (escape fragmentSet cs)

theorem isWeb_of_ofChars {cs : List Char} {url : Url} (h : ofChars cs = .ok url)
    (hs : url.scheme = "http" ∨ url.scheme = "https") : url.IsWeb := by
  obtain ⟨rest, hread⟩ := exists_readSpecial h hs
  obtain ⟨-, ⟨site, a, ha, hauthority⟩, hquery, hfragment⟩ := readSpecial_eq_ok hread
  have hspecial : isSpecial url.scheme = true := by
    rcases hs with hs | hs <;> rw [hs] <;> decide
  refine ⟨hs, ⟨a, hauthority, isOf_of_readAuthority hspecial ha⟩, goesThrough_ofChars h hs, fun query hq => ?_,
    fun fragment hf => ?_⟩
  · obtain ⟨cs, -, hcs⟩ := Option.map_eq_some_iff.mp (hquery.symm.trans hq)
    exact ⟨cs, hcs.symm⟩
  · obtain ⟨cs, -, hcs⟩ := Option.map_eq_some_iff.mp (hfragment.symm.trans hf)
    exact ⟨cs, hcs.symm⟩

/-! ### Sites -/

/-- The port that a URL leads to. -/
def effectivePort (url : Url) : Option UInt16 := url.port?.or (defaultPort? url.scheme)

/-- The last colon of a text divides it one way. -/
theorem append_colon_inj {a b c d : List Char} (hb : ':' ∉ b) (hd : ':' ∉ d) (h : a ++ ':' :: b = c ++ ':' :: d) :
    a = c ∧ b = d := by
  -- What one of the two fronts has more would have its colon in the other's back.
  rcases List.append_eq_append_iff.mp h with ⟨more, rfl, hmore⟩ | ⟨more, rfl, hmore⟩
  all_goals
    cases more with
    | nil => simp_all
    | cons m more => simp_all

theorem toList_port (host : String) (port : UInt16) :
    s!"{host}:{port}".toList = host.toList ++ ':' :: (Nat.repr port.toNat).toList := by
  simp [toString]

/-- What ends in a colon and a port is no host. -/
theorem ne_port {host : String} (h : ':' ∉ host.toList ∨ host.toList.getLast? = some ']') (front : String)
    (port : UInt16) : host ≠ s!"{front}:{port}" := by
  rintro rfl
  rw [toList_port] at h
  rcases h with h | h
  · simp at h
  · have hne : (Nat.repr port.toNat).toList.getLast? ≠ none := mt List.getLast?_eq_none_iff.mp (repr_ne_nil _)
    obtain ⟨d, hd⟩ := Option.ne_none_iff_exists'.mp hne
    rw [List.getLast?_append, List.getLast?_cons, hd] at h
    obtain rfl : d = ']' := by simpa using h
    exact nomatch isDigit_of_mem_repr (List.mem_of_getLast? hd)

theorem port_inj_iff {host other : String} {port last : UInt16} :
    s!"{host}:{port}" = s!"{other}:{last}" ↔ host = other ∧ port = last := by
  refine ⟨fun h => ?_, fun ⟨hhost, hport⟩ => by rw [hhost, hport]⟩
  have hcolon (port : UInt16) : ':' ∉ (Nat.repr port.toNat).toList := fun hmem => nomatch isDigit_of_mem_repr hmem
  have hlist := congrArg String.toList h
  rw [toList_port, toList_port] at hlist
  obtain ⟨hhost, hport⟩ := append_colon_inj (hcolon port) (hcolon last) hlist
  have hnumeral := numeral?_repr port.toNat
  rw [hport, numeral?_repr] at hnumeral
  exact ⟨String.toList_inj.mp hhost, UInt16.toNat_inj.mp (Option.some.inj hnumeral).symm⟩

namespace IsWeb
variable {url other : Url}

theorem exists_host (h : url.IsWeb) : ∃ host, url.hostText? = some host ∧
    (':' ∉ host.toList ∨ host.toList.getLast? = some ']') := by
  obtain ⟨a, ha, hof⟩ := h.authority
  exact ⟨a.host.text, by simp [hostText?, ha, hof.host.ne_empty], hof.host.colon⟩

theorem port?_ne_default (h : url.IsWeb) {port : UInt16} (hp : url.port? = some port) :
    defaultPort? url.scheme ≠ some port := by
  obtain ⟨a, ha, hof⟩ := h.authority
  exact hof.port port (by simpa [port?, ha] using hp)

theorem path_ne_empty (h : url.IsWeb) : url.path ≠ "" := by
  obtain ⟨segments, hpath⟩ := h.path
  intro hempty
  have hhead := head?_path hpath.route hpath.ne_nil
  rw [hempty] at hhead
  cases hhead

theorem exists_site (h : url.IsWeb) : ∃ site, url.site? = some site := by
  obtain ⟨host, hhost, -⟩ := h.exists_host
  exact ⟨_, by rw [site?, hhost]; rfl⟩

/-- The text of the site tells the host and the port. -/
theorem site?_eq_iff (h : url.IsWeb) (ho : other.IsWeb) :
    url.site? = other.site? ↔ url.hostText? = other.hostText? ∧ url.port? = other.port? := by
  obtain ⟨host, hhost, hcolon⟩ := h.exists_host
  obtain ⟨host', hhost', hcolon'⟩ := ho.exists_host
  simp only [site?, hhost, hhost', Option.map_some, Option.some.injEq]
  cases url.port? with
  | none =>
    cases other.port? with
    | none => simp
    | some port' => simp [ne_port hcolon host' port']
  | some port =>
    cases other.port? with
    | none => simp [(ne_port hcolon' host port).symm]
    | some port' => simp [port_inj_iff]

end IsWeb

end Gateway.Url
