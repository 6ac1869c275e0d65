import Gateway.Http.Destination
import Gateway.Http.Uri
import Gateway.Proofs.Directory.Table
import Gateway.Proofs.Routing.Selection
import Gateway.Proofs.Url.Address
import Gateway.Proofs.Url.Site

/-! Destinations keep the address. The address of a backend stands in front of the path and the query of a request, and
    whatever these are, both readers of the destination stop at the address and find it there: the one that gives the page
    that links are compared with, and the one that gives what is dialled. -/

namespace Gateway

open Text

namespace Address
variable {address : Address} {ip : Net.IpAddress}

/-- The port in decimal digits. -/
def portText (address : Address) : List Char := (Nat.repr address.port.toNat).toList

theorem toList_text_of_colon (hcolon : ':' ∈ address.host.toList) (hhead : address.host.toList.head? ≠ some '[') :
    address.text.toList = '[' :: (address.host.toList ++ ']' :: ':' :: address.portText) := by
  rw [text, if_pos ⟨List.contains_iff_mem.mpr hcolon, hhead⟩]
  simp [toString, portText]

theorem toList_text (hcolon : ':' ∉ address.host.toList) :
    address.text.toList = address.host.toList ++ ':' :: address.portText := by
  rw [text, if_neg fun h => hcolon (List.contains_iff_mem.mp h.1)]
  simp [toString, portText]

theorem mem_portText {c : Char} (h : c ∈ address.portText) : c ∈ Net.addressChars :=
  Net.mem_addressChars_of_isDigit (isDigit_of_mem_repr h)

/-- An address is written as its host, in brackets if it is of version 6, and its port. -/
theorem text_cases (h : Net.IpAddress.ofText? address.host = some ip) :
    (∃ a, ip = .v4 a ∧ Net.Ipv4.ofText? address.host.toList = some a ∧
      (∀ c ∈ address.host.toList, c = '.' ∨ c.isDigit = true) ∧
      address.text.toList = address.host.toList ++ ':' :: address.portText) ∨
    (∃ a, ip = .v6 a ∧ Net.Ipv6.ofText? address.host.toList = some a ∧
      (∀ c ∈ address.host.toList, c ∈ Net.addressChars) ∧
      address.text.toList = '[' :: (address.host.toList ++ ']' :: ':' :: address.portText)) := by
  rcases Net.IpAddress.ofText?_inv h with ⟨a, rfl, ha, hcolon⟩ | ⟨a, rfl, ha, hcolon⟩
  · obtain ⟨n, hn, -⟩ := Option.map_eq_some_iff.mp ha
    exact Or.inl ⟨a, rfl, ha, Net.Ipv4.isDigit_of_number? hn, toList_text hcolon⟩
  · have hchars := Net.Ipv6.mem_of_ofText? ha
    refine Or.inr ⟨a, rfl, ha, hchars, toList_text_of_colon hcolon fun hhead => ?_⟩
    exact absurd (hchars '[' (List.mem_of_head? hhead)) (by decide)

/-- The characters of such a text. -/
theorem mem_text (h : Net.IpAddress.ofText? address.host = some ip) {c : Char} (hc : c ∈ address.text.toList) :
    c ∈ '[' :: ']' :: Net.addressChars := by
  have hmore : ∀ d ∈ Net.addressChars, d ∈ '[' :: ']' :: Net.addressChars := fun d hd => by simp [hd]
  rcases text_cases h with ⟨a, -, -, hchars, htext⟩ | ⟨a, -, -, hchars, htext⟩
  · rw [htext] at hc
    rcases List.mem_append.mp hc with hc | hc
    · rcases hchars c hc with rfl | hdigit
      · decide
      · exact hmore c (Net.mem_addressChars_of_isDigit hdigit)
    · rcases List.mem_cons.mp hc with rfl | hc
      · decide
      · exact hmore c (mem_portText hc)
  · rw [htext] at hc
    simp only [List.mem_cons, List.mem_append] at hc
    rcases hc with rfl | hc | rfl | rfl | hc
    · decide
    · exact hmore c (hchars c hc)
    · decide
    · decide
    · exact hmore c (mem_portText hc)

theorem isSiteText (h : Net.IpAddress.ofText? address.host = some ip) : Url.IsSiteText address.text.toList where
  ne_nil := by
    rcases text_cases h with ⟨a, -, -, -, htext⟩ | ⟨a, -, -, -, htext⟩ <;> simp [htext]
  visible c hc := by
    have hall : ∀ d ∈ '[' :: ']' :: Net.addressChars, 0x20 < d.toNat := forall_mem (by decide)
    exact hall c (mem_text h hc)
  apart c hc := by
    have hall : ∀ d ∈ '[' :: ']' :: Net.addressChars, d ∉ "/\\?#".toList := forall_mem (by decide)
    exact hall c (mem_text h hc)

theorem at_not_mem (h : Net.IpAddress.ofText? address.host = some ip) : '@' ∉ address.text.toList := fun hmem =>
  absurd (mem_text h hmem) (by decide)

/-- The text is read as the authority of the address, without credentials, and with the port unless it is that of the
    web. -/
theorem readAuthority_text (h : Net.IpAddress.ofText? address.host = some ip) :
    Url.readAuthority "http" address.text.toList =
      .ok ⟨none, .ofIp ip, if address.port = 80 then none else some address.port⟩ := by
  have hat := at_not_mem h
  rcases text_cases h with ⟨a, rfl, ha, hchars, htext⟩ | ⟨a, rfl, ha, hchars, htext⟩
  · rw [htext] at hat ⊢
    have hplain : ∀ c ∈ address.host.toList, c ≠ ':' ∧ c ≠ '[' ∧ c ≠ ']' := by
      intro c hc
      rcases hchars c hc with rfl | hdigit
      · decide
      · refine ⟨?_, ?_, ?_⟩ <;> rintro rfl <;> cases hdigit
    exact Url.readAuthority_of_cut hat (Url.cutPort_name hplain _) (Url.ne_nil_of_text ha) (Url.ofDomain_ipv4 ha)
      (by simp) (Url.readPort_repr address.port)
  · rw [htext] at hat ⊢
    -- The colons in brackets do not cut off a port.
    have hclose : ']' ∉ address.host.toList := fun hmem => absurd (hchars _ hmem) (by decide)
    have hcut : Url.cutPort false ('[' :: (address.host.toList ++ ']' :: ':' :: address.portText)) =
        ('[' :: (address.host.toList ++ [']']), some address.portText) := by
      rw [Url.cutPort, if_neg (by simp)]
      simp [Url.cutPort_brackets hclose]
    exact Url.readAuthority_of_cut hat hcut (by simp) (Url.ofDomain_ipv6 ha) (by simp) (Url.readPort_repr address.port)

/-- The text is that of a socket address, which is the address. -/
theorem socketAddress_text (h : Net.IpAddress.ofText? address.host = some ip) :
    Net.SocketAddress.ofText? address.text = some ⟨ip, address.port⟩ := by
  have hport : Net.SocketAddress.port? address.portText = some address.port := by
    rw [Net.SocketAddress.port?, portText, numeral?_port, Option.map_some, UInt16.ofNat_toNat]
  unfold Net.SocketAddress.ofText?
  rcases text_cases h with ⟨a, rfl, ha, hchars, htext⟩ | ⟨a, rfl, ha, hchars, htext⟩
  · have hcolon : ':' ∉ address.host.toList := fun hmem => by
      rcases hchars ':' hmem with heq | hdigit
      · cases heq
      · cases hdigit
    rw [htext]
    split
    · rename_i cs heq
      have hmem : '[' ∈ address.host.toList ++ ':' :: address.portText := by simp [heq]
      rcases List.mem_append.mp hmem with hmem | hmem
      · exact absurd (hchars _ hmem) (by decide)
      · exact absurd (mem_portText (by simpa using hmem)) (by decide)
    · have hcut : cutAt ':' (address.host.toList ++ ':' :: address.portText) =
          (address.host.toList, some address.portText) := by
        rw [cutAt_append hcolon]
        simp [cutAt]
      rw [hcut]
      simp [ha, hport]
  · have hclose : ']' ∉ address.host.toList := fun hmem => absurd (hchars _ hmem) (by decide)
    have hpercent : '%' ∉ address.host.toList := fun hmem => absurd (hchars _ hmem) (by decide)
    have hcut : cutAt ']' (address.host.toList ++ ']' :: ':' :: address.portText) =
        (address.host.toList, some (':' :: address.portText)) := by
      rw [cutAt_append hclose]
      simp [cutAt]
    rw [htext]
    simp [hcut, Net.SocketAddress.bracketed?, cutAt_of_not_mem hpercent, ha, hport]

end Address

/-- Behind `http://` the authority of a request target goes up to the first mark that it must not hold. -/
theorem Http.Uri.authority_of_ofText {text : String} {site back : List Char} {uri : Http.Uri}
    (hsite : ∀ c ∈ site, c ≠ '/' ∧ c ≠ '?' ∧ c ≠ '#') (htext : text.toList = "http://".toList ++ site ++ '/' :: back)
    (h : ofText text = .ok uri) : uri.authority = some (String.ofList site) := by
  have hscheme : scheme? ("http://".toList ++ site ++ '/' :: back) = .ok (some "http", site ++ '/' :: back) := by rfl
  have hcut : ∀ {authority rest}, cutAuthority (site ++ '/' :: back) = .ok (authority, rest) → authority = site := by
    intro authority rest hcut
    have htake : (site ++ '/' :: back).takeWhile (fun c => !(c == '/' || c == '?' || c == '#')) = site := by
      rw [List.takeWhile_append_of_pos fun c hc => by simp [hsite c hc]]
      simp
    unfold cutAuthority at hcut
    split at hcut
    · cases hcut
    · obtain ⟨seen, -, hcut⟩ := bind_eq_ok.mp hcut
      split at hcut
      · exact (congrArg Prod.fst (Except.ok.inj hcut)).symm.trans htake
      · cases hcut
  unfold ofText at h
  split at h
  · cases h
  · rw [htext] at h
    obtain ⟨⟨scheme, rest⟩, hread, h⟩ := bind_eq_ok.mp (show ofRest _ = .ok uri from h)
    obtain ⟨rfl, rfl⟩ := Prod.mk.inj (Except.ok.inj (hscheme.symm.trans hread))
    obtain ⟨⟨authority, rest⟩, hauthority, h⟩ := bind_eq_ok.mp h
    obtain rfl := hcut hauthority
    dsimp only at h
    split at h
    · cases h
    · obtain ⟨⟨path, query⟩, -, h⟩ := bind_eq_ok.mp h
      obtain rfl := Except.ok.inj h
      rfl

namespace Target
variable {target : Target} {address : Address} {ip : Net.IpAddress} {query : Option String}

/-- What follows the address in a destination. -/
def behindAddress (target : Target) (query : Option String) : List Char :=
  (target.backendPath ++ (query.map ("?" ++ ·)).getD "").toList

theorem toList_destination :
    (target.destination address query).toList = "http://".toList ++ address.text.toList ++ target.behindAddress query := by
  simp [destination, behindAddress, String.append_assoc]

theorem head?_behindAddress (target : Target) (query : Option String) : (target.behindAddress query).head? = some '/' := by
  have hpath : target.backendPath.toList.head? = some '/' := by
    unfold backendPath
    dsimp only
    split <;> simp [rooted]
  simp [behindAddress, hpath]

/-- The page at a destination is on the host of the address, at its port. -/
theorem exists_source (target : Target) (query : Option String) (h : Net.IpAddress.ofText? address.host = some ip) :
    ∃ source, Url.ofText (target.destination address query) = .ok source ∧ source.scheme = "http" ∧
      source.authority = some ⟨none, .ofIp ip, if address.port = 80 then none else some address.port⟩ := by
  have hsite := Address.isSiteText h
  have hhttp : "http" = "http" ∨ "http" = "https" := Or.inl rfl
  have hhead : ∀ c, (target.behindAddress query).head? = some c → 0x20 < c.toNat := by
    rw [head?_behindAddress]
    rintro c hc
    obtain rfl := Option.some.inj hc
    decide
  obtain ⟨rest, hsignificant, hrest⟩ :=
    Url.exists_significant_behind (by simp) (Url.visible_site hhttp hsite) hhead
  have hbehind : Url.IsBehindSite rest := fun c hc => by
    rw [hrest, head?_behindAddress] at hc
    exact Or.inl (Option.some.inj hc).symm
  have hread := Url.ofChars_site hhttp hsite hbehind hsignificant
  rw [Address.readAuthority_text h] at hread
  exact ⟨_, by rw [Url.ofText, toList_destination]; exact hread, rfl, rfl⟩

/-- Also where the destination is cut for dialling, its authority is the address. -/
theorem authority_of_uri (h : Net.IpAddress.ofText? address.host = some ip) {uri : Http.Uri}
    (huri : Http.Uri.ofText (target.destination address query) = .ok uri) : uri.authority = some address.text := by
  obtain ⟨back, hback⟩ := List.head?_eq_some_iff.mp (target.head?_behindAddress query)
  have htext : (target.destination address query).toList = "http://".toList ++ address.text.toList ++ '/' :: back := by
    rw [toList_destination, hback]
  have hend : ∀ c ∈ address.text.toList, c ≠ '/' ∧ c ≠ '?' ∧ c ≠ '#' := by
    intro c hc
    have hapart := (Address.isSiteText h).apart c hc
    simp_all
  rw [Http.Uri.authority_of_ofText hend htext huri, String.ofList_toList]

end Target

/-- **A request cannot choose the host that it is sent to.** Under an accepted configuration with a table take any target,
    whatever path it comes from, any address that it is resolved to, and any query. The address is that of an entry for the
    target. The destination is read as a URL on exactly this internet address, with exactly this port and without
    credentials; and where it can be dialled, exactly this address and port are dialled. -/
theorem destination_keeps_address {config : Config} {target : Target} {address : Address} (query : Option String)
    (hvalid : config.violations = []) (hkind : config.directory.kind = .table)
    (haddress : (Table.ofConfig config.directory).directory.resolve target = .ok address) :
    let destination := target.destination address query
    ∃ ip source authority, config.directory.Lists target address ∧ Net.IpAddress.ofText? address.host = some ip ∧
      Url.ofText destination = .ok source ∧ source.scheme = "http" ∧ source.authority = some authority ∧
      authority.host = .ofIp ip ∧ authority.userinfo = none ∧
      authority.port.or (Url.defaultPort? source.scheme) = some address.port ∧
      ∀ uri, Http.Uri.ofText destination = .ok uri →
        uri.authority.bind Net.SocketAddress.ofText? = some ⟨ip, address.port⟩ := by
  intro destination
  have hlists := Table.lists_of_resolve haddress
  obtain ⟨ip, hip⟩ := hlists.isIpAddress hvalid hkind
  obtain ⟨source, hsource, hscheme, hauthority⟩ := target.exists_source query hip
  refine ⟨ip, source, _, hlists, hip, hsource, hscheme, hauthority, rfl, rfl, ?_, fun uri huri => ?_⟩
  · rw [hscheme]
    by_cases hport : address.port = 80 <;> simp [hport, Url.defaultPort?]
  · rw [Target.authority_of_uri hip huri, Option.bind_some, Address.socketAddress_text hip]

/-- A path and a query that look like an authority do not get in the way of a pod in brackets. -/
theorem destination_keeps_address_brackets :
    let config : Config := { directory := { pods := [⟨"default", "web", some "fd00::7"⟩] } }
    let path := "/proxy/default/pod/web/+080//@evil.example:1/..\\x"
    config.violations = [] ∧ config.directory.kind = .table ∧
      ∃ target, Target.ofPath config.proxy.mount path = .ok target ∧
        (Table.ofConfig config.directory).directory.resolve target = .ok ⟨"fd00::7", 80⟩ ∧
        target.destination ⟨"fd00::7", 80⟩ (some "@evil.example") =
          "http://[fd00::7]:80//@evil.example:1/..\\x?@evil.example" ∧
        ∃ ip source authority, Net.IpAddress.ofText? "fd00::7" = some ip ∧
          Url.ofText "http://[fd00::7]:80//@evil.example:1/..\\x?@evil.example" = .ok source ∧
          source.authority = some authority ∧ authority.host = .ofIp ip ∧ authority.userinfo = none := by
  intro config path
  have hvalid : config.violations = [] := by decide +kernel
  let target : Target :=
    ⟨"default", .pod, "web", some "+080", ["", "@evil.example:1", "..\\x"], false, "/proxy/default/pod/web/+080"⟩
  have htarget : Target.ofPath config.proxy.mount path = .ok target := eq_ok_of_toOption (by decide +kernel)
  have haddress : (Table.ofConfig config.directory).directory.resolve target = .ok ⟨"fd00::7", 80⟩ :=
    eq_ok_of_toOption (by decide +kernel)
  have hdestination : target.destination ⟨"fd00::7", 80⟩ (some "@evil.example") =
      "http://[fd00::7]:80//@evil.example:1/..\\x?@evil.example" := by decide +kernel
  obtain ⟨ip, source, authority, -, hip, hsource, -, hauthority, hhost, hnone, -, -⟩ :=
    destination_keeps_address (some "@evil.example") hvalid rfl haddress
  exact ⟨hvalid, rfl, target, htarget, haddress, hdestination, ip, source, authority, hip, hdestination ▸ hsource,
    hauthority, hhost, hnone⟩

end Gateway
