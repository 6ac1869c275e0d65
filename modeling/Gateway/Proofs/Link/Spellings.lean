import Gateway.Proofs.Link.Own
import Gateway.Proofs.Url.Written

/-! The spellings of a link. A URL on the site of a page can be written out, left without its scheme, or left without
    its site. Cutting the shortest of these finds just the parts that reading the others does, and so all three are
    rerooted alike. -/

namespace Gateway.Link

open Text Url

theorem cutAt_marked (sep : Char) {mark : String} (hm : mark.toList = [sep]) (part : Option String) :
    cutAt sep ((part.map (mark ++ ·)).getD "").toList = ([], part.map String.toList) := by
  cases part <;> simp [cutAt, hm]

theorem cut_withoutSite {url : Url} (h : url.IsWeb) :
    Reference.cut url.withoutSite.toList = ⟨url.path, url.query, url.fragment⟩ := by
  have hpath : ∀ mark ∈ "?#".toList, mark ∉ url.path.toList := fun mark hmark hmem => (h.mem_path hmem).2 hmark
  have hquery : '#' ∉ ((url.query.map ("?" ++ ·)).getD "").toList := by
    intro hmem
    cases hq : url.query with
    | none => simp [hq] at hmem
    | some query => exact (h.mem_query hq (by simpa [hq] using hmem)).2 rfl
  have hfront : '#' ∉ (url.path ++ (url.query.map ("?" ++ ·)).getD "").toList := by
    rw [String.toList_append, List.mem_append]
    exact not_or.mpr ⟨hpath '#' (by decide), hquery⟩
  rw [Reference.cut, withoutSite, String.toList_append, cutAt_append hfront, cutAt_marked '#' rfl]
  dsimp only
  rw [List.append_nil, String.toList_append, cutAt_append (hpath '?' (by decide)), cutAt_marked '?' rfl]
  simp

/-- Nothing is trimmed from a spelling. -/
theorem trim_spelling {url : Url} (h : url.IsWeb) {front : List Char} (hf : front.head?.any isBlank = false) :
    trim isBlank (front ++ url.withoutSite.toList) = front ++ url.withoutSite.toList := by
  have hhead := h.head?_withoutSite
  refine trim_of_ends (fun c hc => ?_) fun c hc => ?_
  · cases front with
    | nil =>
      obtain rfl := Option.some.inj (hhead.symm.trans hc)
      decide
    | cons first front => exact Option.some.inj hc ▸ hf
  · have hne : url.withoutSite.toList.getLast? ≠ none := fun hnone => by
      simp [List.getLast?_eq_none_iff.mp hnone] at hhead
    obtain ⟨last, hlast⟩ := Option.ne_none_iff_exists'.mp hne
    rw [List.getLast?_append, hlast] at hc
    obtain rfl := Option.some.inj hc
    exact (h.mem_withoutSite (List.mem_of_getLast? hlast)).not_isBlank

section
variable {source url : Url} (hweb : url.IsWeb)
include hweb

theorem ofUrl?_of_site (hsite : url.site? = source.site?) :
    Reference.ofUrl? source url = some ⟨url.path, url.query, url.fragment⟩ := by
  obtain ⟨site, hs⟩ := hweb.exists_site
  exact ofUrl?_eq_some_iff.mpr ⟨hweb.scheme, ⟨site, hs, hsite ▸ hs⟩, rfl⟩

theorem ofLink?_of_absolute (hsite : url.site? = source.site?) {text : List Char} (hhosted : IsHosted text)
    (hread : absolute source text = .ok url) :
    Reference.ofLink? source text = some ⟨url.path, url.query, url.fragment⟩ := by
  rw [ofLink?_hosted hhosted, hread]
  exact ofUrl?_of_site hweb hsite

theorem ofLink?_withoutSite (hpath : ¬ "//".toList <+: url.path.toList) :
    Reference.ofLink? source url.withoutSite.toList = some ⟨url.path, url.query, url.fragment⟩ := by
  have hne : url.path.toList ≠ [] := fun hnil => hweb.path_ne_empty (String.toList_eq_nil_iff.mp hnil)
  have hhost : ¬ "//".toList <+: url.withoutSite.toList := by
    rw [withoutSite, String.append_assoc, String.toList_append]
    exact hostless_append hpath (isTail_marks ⟨url.path, url.query, url.fragment⟩) hne
  have hscheme : scheme? url.withoutSite.toList = none := by
    obtain ⟨rest, hrest⟩ := List.head?_eq_some_iff.mp hweb.head?_withoutSite
    rw [hrest, scheme?_cons (by decide)]
  rw [ofLink?_hostless (not_or.mpr ⟨by simp [hscheme], hhost⟩), cut_withoutSite hweb]

end

/-- **The spellings of a link are rerooted alike.** Take a page and a URL on its site, both under `http`, and let the
    URL be read as itself from its own text. If its path does not start with two slashes, it is rerooted to one link
    whether it is written out, without its scheme, or without its site: the link of its path, query and fragment. -/
theorem spellings_rerooted_alike {view : View} {url : Url} (hsource : view.source.scheme = "http")
    (hscheme : url.scheme = "http") (hsite : url.site? = view.source.site?) (hread : ofText url.text = .ok url)
    (hpath : ¬ "//".toList <+: url.path.toList) :
    let rerooted := some (write view ⟨url.path, url.query, url.fragment⟩)
    url.text = "http:" ++ url.withoutScheme ∧ reroot? view url.text = rerooted ∧
      reroot? view url.withoutScheme = rerooted ∧ reroot? view url.withoutSite = rerooted := by
  intro rerooted
  have hweb := isWeb_of_ofChars hread (Or.inl hscheme)
  have htext : url.text = "http:" ++ url.withoutScheme := by rw [hweb.text_eq, hscheme]; rfl
  obtain ⟨host, hhost⟩ := hweb.exists_authority
  have hreroot {link : String} {front : List Char} (hlink : link.toList = front ++ url.withoutSite.toList)
      (hf : front.head?.any isBlank = false)
      (h : Reference.ofLink? view.source link.toList = some ⟨url.path, url.query, url.fragment⟩) :
      reroot? view link = rerooted := by
    refine reroot?_eq_some_iff.mpr ⟨_, ?_, hweb.path_ne_empty, rfl⟩
    rw [hlink, trim_spelling hweb hf, ← hlink, h]
  have hlist : url.text.toList = "http:".toList ++ url.withoutScheme.toList := by rw [htext, String.toList_append]
  have hslashes : "//".toList <+: url.withoutScheme.toList := by
    rw [hhost]
    exact ⟨_, rfl⟩
  refine ⟨htext, ?_, ?_, ?_⟩
  · have hhosted : IsHosted url.text.toList := Or.inl (by rw [hlist]; rfl)
    have habsolute : absolute view.source url.text.toList = .ok url := by
      rw [absolute, if_neg, ← ofText, hread]
      rw [hlist]
      rintro ⟨rest, hrest⟩
      cases hrest
    rw [hhost, ← List.cons_append, ← List.cons_append, ← List.append_assoc] at hlist
    exact hreroot hlist rfl (ofLink?_of_absolute hweb hsite hhosted habsolute)
  · have habsolute : absolute view.source url.withoutScheme.toList = .ok url := by
      rw [absolute, if_pos hslashes, hsource, ← hread, ofText, hlist]
      rfl
    rw [← List.cons_append, ← List.cons_append] at hhost
    exact hreroot hhost rfl (ofLink?_of_absolute hweb hsite (Or.inr hslashes) habsolute)
  · exact hreroot (List.nil_append _).symm rfl (ofLink?_withoutSite hweb hpath)

/-- A URL on the site of the page, with a mark in its query and an empty fragment. -/
def markedUrl : Url :=
  ⟨"http", some ⟨none, .ipv4 ⟨167838211⟩, some 8080⟩, .segments ["a%20b", ""], some "q=?&r", some ""⟩

theorem spellings_rerooted_alike_marked :
    podView.source.scheme = "http" ∧ markedUrl.scheme = "http" ∧ markedUrl.site? = podView.source.site? ∧
      ofText markedUrl.text = .ok markedUrl ∧ ¬ "//".toList <+: markedUrl.path.toList ∧
      reroot? podView "http://10.1.2.3:8080/a%20b/?q=?&r#" = reroot? podView "/a%20b/?q=?&r#" ∧
      reroot? podView "//10.1.2.3:8080/a%20b/?q=?&r#" = reroot? podView "/a%20b/?q=?&r#" := by
  have hsite : markedUrl.site? = podView.source.site? := by decide +kernel
  have hread : ofText markedUrl.text = .ok markedUrl := ofText_eq_ok (by decide +kernel)
  have hpath : ¬ "//".toList <+: markedUrl.path.toList := by decide +kernel
  have htext : markedUrl.text = "http://10.1.2.3:8080/a%20b/?q=?&r#" := by decide +kernel
  have hscheme : markedUrl.withoutScheme = "//10.1.2.3:8080/a%20b/?q=?&r#" := by decide +kernel
  have hown : markedUrl.withoutSite = "/a%20b/?q=?&r#" := by decide +kernel
  obtain ⟨-, htexts, hschemes, howns⟩ := @spellings_rerooted_alike podView markedUrl rfl rfl hsite hread hpath
  rw [← htext, ← hscheme, ← hown, htexts, hschemes, howns]
  exact ⟨rfl, rfl, hsite, hread, hpath, rfl, rfl⟩

end Gateway.Link
