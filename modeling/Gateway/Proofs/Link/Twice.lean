import Gateway.Proofs.Link.Following
import Gateway.Proofs.Link.Visiting
import Gateway.Proofs.Path.Joining
import Gateway.Proofs.Url.Continued

/-! Rerooting twice. A rerooted link starts with the site of the gateway, as the client named it, and a slash. Whatever stands
    in that name, the link is read with the site that the name is read with, or not at all; so where this is not the site of
    the page, nothing is rerooted a second time, and neither is anything in a page. -/

namespace Gateway.Link

open Html Gateway.Path Text

/-- Under a rooted base every path on the gateway is rooted. -/
theorem head?_gatewayPath {view : View} (hbase : view.base.toList.head? = some '/') (path : String) :
    (gatewayPath view path).toList.head? = some '/' := by
  obtain ⟨backend, hbackend⟩ : ∃ backend, backendPath view.source path = clean backend := by
    unfold backendPath
    split <;> exact ⟨_, rfl⟩
  have hne : view.base ≠ "" := by
    intro hempty
    rw [hempty] at hbase
    cases hbase
  have hjoin : (join [view.base, backendPath view.source path]).toList.head? = some '/' := by
    rw [hbackend, join_behind hne, head?_clean_iff, head?_behind hne, hbase]
  unfold gatewayPath
  dsimp only
  split
  · obtain ⟨rest, hrest⟩ := List.head?_eq_some_iff.mp hjoin
    rw [String.toList_push, hrest]
    rfl
  · exact hjoin

/-- A rerooted link is the site, a slash and something. -/
theorem exists_write {view : View} {host : String} (hhost : view.host = some host)
    (hbase : view.base.toList.head? = some '/') (reference : Reference) :
    ∃ more, (write view reference).toList =
      view.scheme.toList ++ "://".toList ++ host.toList ++ '/' :: more := by
  obtain ⟨rest, hrest⟩ := List.head?_eq_some_iff.mp (head?_gatewayPath hbase reference.path)
  simp only [write, hhost, String.toList_append, hrest, List.append_assoc, List.cons_append]
  exact ⟨_, rfl⟩

theorem head?_base {mount path : String} {target : Target} (h : Target.ofPath mount path = .ok target) :
    target.base.toList.head? = some '/' := by
  obtain ⟨selection, rest, -, -, hbase, -⟩ := Target.ofPath_inv h
  rw [hbase, Target.rooted_eq, String.toList_ofList]
  rfl

theorem site?_congr {url other : Url} (h : url.authority = other.authority) : url.site? = other.site? := by
  simp only [Url.site?, Url.hostText?, Url.port?, h]

section
variable {scheme : String} (hs : scheme = "http" ∨ scheme = "https")
include hs

/-- Blanks at the end of a link do not reach into its site. -/
theorem exists_trim_site (host more : List Char) :
    ∃ left, trim Text.isBlank (scheme.toList ++ "://".toList ++ host ++ '/' :: more) =
      scheme.toList ++ "://".toList ++ host ++ '/' :: left := by
  have hhead : ∀ c, (scheme.toList ++ "://".toList ++ host ++ ['/']).head? = some c → Text.isBlank c = false := by
    intro c hc
    rcases hs with rfl | rfl <;> obtain rfl := Option.some.inj hc <;> decide
  have hlast : ∀ c, (scheme.toList ++ "://".toList ++ host ++ ['/']).getLast? = some c → Text.isBlank c = false := by
    intro c hc
    rw [List.getLast?_concat] at hc
    exact Option.some.inj hc ▸ by decide
  obtain ⟨left, htrim⟩ := exists_trim_append (by simp) hhead hlast more
  exact ⟨left, by rw [List.append_cons, htrim, List.append_assoc]; rfl⟩

/-- A link that starts with a site is read as a URL, by itself. -/
theorem ofLink?_site (source : Url) (rest : List Char) :
    Reference.ofLink? source (scheme.toList ++ "://".toList ++ rest) =
      (Url.ofChars (scheme.toList ++ "://".toList ++ rest)).toOption.bind (Reference.ofUrl? source) := by
  have hscheme : (Url.scheme? (scheme.toList ++ "://".toList ++ rest)).isSome = true := by
    rcases hs with rfl | rfl <;> rfl
  rw [Reference.ofLink?, if_pos hscheme]

/-- A link that starts with another site and a slash is not rerooted. -/
theorem reroot?_elsewhere {view : View} {host link : String} {site : Url} {more : List Char}
    (hsite : Url.ofText (scheme ++ "://" ++ host) = .ok site) (hother : site.site? ≠ view.source.site?)
    (hlink : link.toList = scheme.toList ++ "://".toList ++ host.toList ++ '/' :: more) : reroot? view link = none := by
  refine Option.eq_none_iff_forall_not_mem.mpr fun rerooted h => ?_
  obtain ⟨reference, hreference, -, -⟩ := reroot?_eq_some_iff.mp h
  obtain ⟨left, htrim⟩ := exists_trim_site hs host.toList more
  rw [hlink, htrim, List.append_assoc, ofLink?_site hs, ← List.append_assoc] at hreference
  obtain ⟨url, hurl, hreference⟩ := Option.bind_eq_some_iff.mp hreference
  have hown : Url.ofChars (scheme.toList ++ "://".toList ++ host.toList) = .ok site := by
    rw [← hsite, Url.ofText, String.toList_append, String.toList_append]
  obtain ⟨-, hauthority⟩ := Url.authority_continued hs hown (eq_ok_of_toOption hurl)
  obtain ⟨-, ⟨text, htext, hsource⟩, -⟩ := ofUrl?_eq_some_iff.mp hreference
  exact hother (by rw [← site?_congr hauthority, htext, hsource])

end

/-- No link that has been rerooted is rerooted again. -/
def Stays (view : View) : Prop :=
  ∀ link rerooted, reroot? view link = some rerooted → reroot? view rerooted = none

variable {view : View}

theorem newValue?_rerootAttribute (hstays : Stays view) (tag : String) (a : Attribute) :
    newValue? view tag (rerootAttribute view tag a) = none := by
  rw [rerootAttribute_eq]
  cases hvalue : newValue? view tag a with
  | none => exact hvalue
  | some value =>
    obtain ⟨-, hreroot⟩ := newValue?_eq_some_iff.mp hvalue
    refine Option.eq_none_iff_forall_not_mem.mpr fun other hother => ?_
    obtain ⟨-, hagain⟩ := newValue?_eq_some_iff.mp hother
    cases (hstays a.value value hreroot).symm.trans hagain

theorem rerootAttribute_rerootAttribute (hstays : Stays view) (tag : String) (a : Attribute) :
    rerootAttribute view tag (rerootAttribute view tag a) = rerootAttribute view tag a := by
  rw [rerootAttribute_eq tag (rerootAttribute view tag a), newValue?_rerootAttribute hstays tag a]
  rfl

theorem countAttributes_rerootAttribute (hstays : Stays view) (tag : String) (attributes : List Attribute) :
    countAttributes view tag (attributes.map (rerootAttribute view tag)) = 0 := by
  refine List.countP_eq_zero.mpr fun a ha => ?_
  obtain ⟨b, -, rfl⟩ := List.mem_map.mp ha
  simp [newValue?_rerootAttribute hstays tag b]

mutual
theorem rerooted_rerooted (hstays : Stays view) : ∀ node, rerooted view (rerooted view node) = rerooted view node
  | .element name attributes children contents => by
    -- What was apart has become children, so both lists are rerooted as children the second time.
    simp only [rerooted, rerootedAll_append, rerootedAll_rerootedAll hstays children,
      rerootedAll_rerootedAll hstays contents, List.map_map, rerootedAll, List.append_nil, Node.element.injEq, true_and,
      and_true]
    exact List.map_congr_left fun a _ => rerootAttribute_rerootAttribute hstays name.tag a
  | .text _ | .comment _ | .doctype _ => rfl

/-- The links of a page that have been rerooted stay, and the contents of a template stay where they have been put. -/
theorem rerootedAll_rerootedAll (hstays : Stays view) :
    ∀ nodes, rerootedAll view (rerootedAll view nodes) = rerootedAll view nodes
  | [] => rfl
  | node :: nodes => by
    simp only [rerootedAll, rerooted_rerooted hstays node, rerootedAll_rerootedAll hstays nodes]
end

mutual
theorem countLinks_rerooted (hstays : Stays view) : ∀ node, countLinks view (rerooted view node) = 0
  | .element name attributes children contents => by
    simp only [rerooted, countLinks, countLinksAll_append, countLinksAll_rerootedAll hstays children,
      countLinksAll_rerootedAll hstays contents, countAttributes_rerootAttribute hstays name.tag attributes, countLinksAll]
  | .text _ | .comment _ | .doctype _ => rfl

theorem countLinksAll_rerootedAll (hstays : Stays view) : ∀ nodes, countLinksAll view (rerootedAll view nodes) = 0
  | [] => rfl
  | node :: nodes => by
    simp only [rerootedAll, countLinksAll, countLinks_rerooted hstays node, countLinksAll_rerootedAll hstays nodes]
end

/-- **Rerooting twice is rerooting once.** Take a page that came through the gateway to a client that named its host, by any
    text that is read as a site behind the scheme of the web that the client used. If that is not the site of the page, no
    link that has been rerooted is rerooted again, and rerooting a page again changes nothing in it. -/
theorem rerooting_twice {mount path host : String} {target : Target} {origin : Http.Origin} {source site : Url}
    (htarget : Target.ofPath mount path = .ok target) (hscheme : origin.scheme = "http" ∨ origin.scheme = "https")
    (hhost : origin.host = some host) (hsite : Url.ofText (origin.scheme ++ "://" ++ host) = .ok site)
    (hother : site.site? ≠ source.site?) :
    let view := Forwarding.view origin target source
    (∀ link rerooted, reroot? view link = some rerooted → reroot? view rerooted = none) ∧
      ∀ nodes, rerootPage view (rerootPage view nodes).1 = ((rerootPage view nodes).1, 0) := by
  intro view
  have hstays : ∀ link rerooted, reroot? view link = some rerooted → reroot? view rerooted = none := by
    intro link rerooted h
    obtain ⟨reference, -, -, rfl⟩ := reroot?_eq_some_iff.mp h
    obtain ⟨more, hmore⟩ := @exists_write view host hhost (head?_base htarget) reference
    exact reroot?_elsewhere hscheme hsite hother hmore
  refine ⟨hstays, fun nodes => ?_⟩
  rw [rerootPage_eq, rerootPage_eq, rerootedAll_rerootedAll hstays, countLinksAll_rerootedAll hstays]

/-- A link is rerooted once, also where the client named the gateway by a host with a user, a path and a query. -/
theorem rerooting_twice_odd_host :
    let host := "me@console.example.com:443/a?"
    let site : Url := ⟨"https", some ⟨some ⟨"me", none⟩, .name "console.example.com", none⟩, .segments ["a"], some "", none⟩
    let view := Forwarding.view ⟨"https", some host, none⟩ podTarget podPage
    let page := [Node.element ⟨.html, "a"⟩ [⟨.plain, "href", "/x"⟩] [] []]
    Target.ofPath "proxy" "/proxy/default/pod/nginx-1/8080/a/b/index.html" = .ok podTarget ∧
      Url.ofText ("https" ++ "://" ++ host) = .ok site ∧ site.site? ≠ podPage.site? ∧
      reroot? view "/x" = some "https://me@console.example.com:443/a?/proxy/default/pod/nginx-1/8080/x" ∧
      reroot? view "https://me@console.example.com:443/a?/proxy/default/pod/nginx-1/8080/x" = none ∧
      (rerootPage view page).2 = 1 ∧ rerootPage view (rerootPage view page).1 = ((rerootPage view page).1, 0) := by
  intro host site view page
  have hsite : Url.ofText ("https" ++ "://" ++ host) = .ok site := Url.ofText_eq_ok (by decide +kernel)
  have hother : site.site? ≠ podPage.site? := by decide +kernel
  have hlink : reroot? view "/x" = some "https://me@console.example.com:443/a?/proxy/default/pod/nginx-1/8080/x" := by
    decide +kernel
  obtain ⟨hlinks, hpages⟩ := @rerooting_twice _ _ host _ ⟨"https", some host, none⟩ podPage site ofPath_podTarget
    (Or.inr rfl) rfl hsite hother
  exact ⟨ofPath_podTarget, hsite, hother, hlink, hlinks _ _ hlink, by decide +kernel, hpages page⟩

end Gateway.Link
