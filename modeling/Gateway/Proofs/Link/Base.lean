import Gateway.Html.Page
import Gateway.Proofs.Link.Ordinary
import Gateway.Proofs.Link.Walk
import Gateway.Proofs.Path.Collapsing

/-! Links of pages with a base. The gateway reroots a link from the address of its page, also where the page sets a base for
    its links. A plain link then leads where it led from that address, and this is where it led from the base only if the
    link starts at the root or the two addresses lie in one directory. -/

namespace Gateway.Link

open Gateway.Path Gateway.Path.Lexical Url Html Text

/-- An ordinary path without dot segments. -/
structure IsPlainPath (path : List Char) : Prop extends IsOrdinaryPath path where
  plain : ∀ s ∈ path.splitOn '/', IsPlain s

/-- All of a link by an ordinary path alone is the path. -/
theorem pathOf_of_ordinary {link : List Char} (h : IsOrdinaryPath link) : pathOf link = link := by
  simpa using h.pathOf_append (show IsTail [] by simp [IsTail])

section
variable {source base url : Url} {segments more : List (List Char)} {path : List Char}

/-- The segments that a plain path goes on through are settled and no dot segments. -/
theorem settled_of_plain (h : IsPlainPath path) (segments : List (List Char)) :
    ∀ s ∈ (start segments path).2, IsSettled s ∧ IsPlain s := by
  have hsplit : ∀ s ∈ path.splitOn '/', IsSettled s ∧ IsPlain s := fun s hs =>
    ⟨isSettled_of_ordinary (fun c hc => h.ordinary c (mem_of_mem_piece hs hc)) (Text.not_mem_piece hs) (h.plain s hs),
      h.plain s hs⟩
  by_cases hrooted : path.head? = some '/'
  · obtain ⟨rest, rfl⟩ := List.head?_eq_some_iff.mp hrooted
    rw [← List.nil_append ('/' :: rest), List.splitOn_append_cons_self] at hsplit
    exact fun s hs => hsplit s (List.mem_append_right _ hs)
  · rw [start_of_unrooted hrooted]
    exact hsplit

/-- A plain path leads through the names of the place that it starts from, and its own. -/
theorem namesFrom_plain (h : IsPlainPath path) (segments : List (List Char)) :
    namesFrom segments path = nonEmpty ((start segments path).1 ++ (start segments path).2) := by
  rw [namesFrom, foldl_keep_plain fun s hs => (settled_of_plain h segments s hs).2, nonEmpty_append]
  simp

/-- A browser finds these names too, up to runs of slashes, and a slash behind them where the path has one there. -/
theorem collapse_resolved (hs : source.GoesThrough segments) (h : IsPlainPath path)
    (hr : url.route = segmentsRoute (walk (start segments path).1 (start segments path).2)) :
    collapse url.path = String.ofList (fromRoot (namesFrom segments path) ++
      if path.getLast? = some '/' ∧ namesFrom segments path ≠ [] then ['/'] else []) := by
  have hsettled := settled_of_plain h segments
  have hlast := getLast?_start segments path
  have hslash := getLast?_eq_slash h.ne_nil
  have hplace := (settled_start hs path).1
  rw [namesFrom_plain h]
  generalize (start segments path).1 = place at *
  generalize (start segments path).2 = back at *
  obtain ⟨last, hsplit⟩ := Option.isSome_iff_exists.mp (List.getLast?_isSome.mpr (List.splitOn_ne_nil '/' path))
  rw [hsplit] at hlast hslash
  -- Empty segments in between vanish in runs of slashes, so that only the last segment has a say in the slash at the end.
  obtain ⟨front, rfl⟩ := List.getLast?_eq_some_iff.mp hlast
  have hnone : ∀ s ∈ place ++ front, '/' ∉ s := by
    intro s hmem
    rcases List.mem_append.mp hmem with hmem | hmem
    · exact (hplace s hmem).slash
    · exact (hsettled s (List.mem_append_left _ hmem)).1.slash
  have hfinal : '/' ∉ last := (hsettled last (by simp)).1.slash
  rw [path_of_segments hr (walk_ne_nil (by simp) _), walk_settled fun s hmem => (hsettled s hmem).1, ← List.append_assoc,
    collapse_fromRoot hnone hfinal]
  simp only [hslash, Option.some.injEq]

/-- From two pages an unrooted plain path leads through the same names just if the pages lie in one directory. -/
theorem namesFrom_eq_iff (hs : source.GoesThrough segments) (hb : base.GoesThrough more) (h : IsPlainPath path) :
    namesFrom segments path = namesFrom more path ↔ path.head? = some '/' ∨ dir base.path = dir source.path := by
  have hplain : ∀ {url : Url} {segments : List (List Char)}, url.GoesThrough segments → ∀ s ∈ segments, IsPlain s :=
    fun hu s hmem => (hu.settled s hmem).isPlain
  have hnames : ∀ {url : Url} {segments : List (List Char)}, url.GoesThrough segments →
      ∀ s ∈ nonEmpty segments.dropLast, IsName s := fun hu =>
    isName_nonEmpty (fun s hmem => hplain hu s (List.dropLast_subset _ hmem)) fun s hmem =>
      hu.slash s (List.dropLast_subset _ hmem)
  rw [namesFrom_plain h, namesFrom_plain h, hs.path, hb.path, dir_fromRoot hs.ne_nil hs.slash (hplain hs),
    dir_fromRoot hb.ne_nil hb.slash (hplain hb), String.ofList_inj, fromRoot_inj (hnames hb) (hnames hs)]
  by_cases hrooted : path.head? = some '/'
  · obtain ⟨rest, rfl⟩ := List.head?_eq_some_iff.mp hrooted
    simp [start]
  · rw [start_of_unrooted hrooted, start_of_unrooted hrooted, nonEmpty_append, nonEmpty_append,
      List.append_left_inj]
    simp [hrooted, eq_comm]

end

/-- Whatever the base, the place of a rerooted link goes through names, perhaps with a slash behind them. -/
theorem exists_names_gatewayPath {view : View} (h : view.base.toList.head? = some '/') (path : String) :
    ∃ (names : List (List Char)) (slash : Bool), (∀ s ∈ names, IsName s) ∧
      gatewayPath view path = String.ofList (fromRoot names ++ if slash then ['/'] else []) := by
  obtain ⟨text, hrooted, hjoin⟩ : ∃ text : String, text.toList.head? = some '/' ∧
      join [view.base, backendPath view.source path] = clean text := by
    have hne : view.base ≠ "" := fun heq => by simp [heq] at h
    by_cases hnil : backendPath view.source path = ""
    · exact ⟨view.base, h, by simp [join, hne, hnil]⟩
    · refine ⟨"/".intercalate [view.base, backendPath view.source path], ?_, by simp [join, hne, hnil]⟩
      simp [String.intercalate_cons_cons, h]
  rw [clean_of_rooted hrooted] at hjoin
  unfold gatewayPath
  simp only [hjoin]
  split
  · exact ⟨names text.toList, true, isName_names _, by simp [← String.toList_inj]⟩
  · exact ⟨names text.toList, false, isName_names _, by simp⟩

/-- The base of what a rerooted link leads to is clean. -/
theorem clean_base_of_leads_back {mount text path : String} {target back : Target} {origin : Http.Origin} {source : Url}
    (htarget : Target.ofPath mount text = .ok target)
    (hback : Target.ofPath mount (gatewayPath (Forwarding.view origin target source) path) = .ok back) :
    clean back.base = back.base := by
  obtain ⟨selection, -, -, -, hbase, -⟩ := Target.ofPath_inv htarget
  obtain ⟨selected, rest, hsegments, -, hselected, -⟩ := Target.ofPath_inv hback
  have hrooted : (Forwarding.view origin target source).base.toList.head? = some '/' := by
    simp [Forwarding.view, hbase, Target.rooted]
  obtain ⟨names, slash, hnames, hplace⟩ := exists_names_gatewayPath hrooted path
  rw [hplace, String.toList_ofList] at hsegments
  rw [Target.segments_fromRoot hnames (by cases slash <;> simp)] at hsegments
  rw [hselected, Target.rooted_eq]
  exact clean_fromRoot fun s hs => hnames s (hsegments ▸ List.mem_append_left _ hs)

/-- Where the place of a reference leads at all, the gateway finds the target of the page again just under a clean base. -/
theorem exists_back_iff (origin : Http.Origin) {mount text path : String} {target : Target} {source : Url}
    {names : List (List Char)} (htarget : Target.ofPath mount text = .ok target) (hn : ∀ s ∈ names, IsName s)
    (hdenoted : backendPath source path = String.ofList (fromRoot names)) :
    let place := gatewayPath (Forwarding.view origin target source) path
    ((∃ back, Target.ofPath mount place = .ok back ∧ back.base = target.base) ↔ clean target.base = target.base) ∧
      ∀ back, Target.ofPath mount place = .ok back → back.base = target.base → back.backendPath = String.ofList
        (fromRoot names ++ if path.toList.getLast? = some '/' ∧ names ≠ [] then ['/'] else []) := by
  refine ⟨⟨fun ⟨back, hback, hsame⟩ => ?_, fun hclean => ?_⟩, fun back hback hsame => ?_⟩
  · exact hsame ▸ clean_base_of_leads_back htarget hback
  · obtain ⟨back, hback, hsame, -⟩ := ofPath_gatewayPath origin htarget hclean hn hdenoted
    exact ⟨back, hback, hsame⟩
  · have hclean : clean target.base = target.base := hsame ▸ clean_base_of_leads_back htarget hback
    obtain ⟨again, hagain, -, hpath⟩ := ofPath_gatewayPath origin htarget hclean hn hdenoted
    rw [hback] at hagain
    obtain rfl := Except.ok.inj hagain
    exact hpath

/-- In the page that comes out, an attribute with a link that is rerooted has the rerooted link. -/
theorem attribute_rerootPage {view : View} {page : List Node} {i j : Nat} {name : ElementName}
    {attributes : List Attribute} {a : Attribute} {rerooted : String}
    (helement : (elementsAll page)[i]? = some (name, attributes)) (hattribute : attributes[j]? = some a)
    (hcandidate : a.name ∈ (attributes? name.tag).getD []) (hreroot : reroot? view a.value = some rerooted) :
    ∃ after, (elementsAll (rerootPage view page).1)[i]? = some (name, after) ∧
      after[j]? = some { a with value := rerooted } := by
  refine ⟨attributes.map (rerootAttribute view name.tag), ?_, ?_⟩
  · rw [rerootPage_eq, elementsAll_rerootedAll, List.getElem?_map, helement]
    rfl
  · rw [List.getElem?_map, hattribute, Option.map_some, rerootAttribute, newValue?,
      if_pos (List.contains_iff_mem.mpr hcandidate), hreroot]

/-- A page whose links are meant for another directory. -/
def assetsPage : List Node := Page.ofChars "<base href=/assets/><a href=logo></a>".toList

def assetsBase : Url := { podPage with route := .segments ["assets", ""] }

theorem baseUrl_assetsPage : baseUrl podPage assetsPage = .ok assetsBase := eq_ok_of_toOption (by decide +kernel)

theorem anchor_assetsPage :
    (elementsAll assetsPage)[4]? = some (⟨.html, "a"⟩, [⟨.plain, "href", "logo"⟩]) := by decide +kernel

theorem isPlainPath_logo : IsPlainPath "logo".toList where
  ne_nil := by decide +kernel
  ordinary := forall_mem (by decide +kernel)
  single := by decide +kernel
  plain := by
    rw [List.splitOn_eq_singleton (by decide)]
    intro s hs
    obtain rfl := List.mem_singleton.mp hs
    exact ⟨by decide, by decide⟩

/-- **A plain link of a page with a base leads where it led from the page's own address.** Take any page of the web whose
    base has the origin of the page, and a plain link on it. The link is rerooted; the gateway finds the target of the page
    behind it just if the path to this is clean, and asks it, up to runs of slashes, for the path that a browser finds for
    the link from the page's own address. This is the path that it finds from the base only where the link starts at the
    root, or the base lies in the directory of the page. -/
theorem plain_link_leads_from_source {mount text address : String} {target : Target} {origin : Http.Origin}
    {source base : Url} {page : List Node} {i j : Nat} {name : ElementName} {attributes : List Attribute} {a : Attribute}
    (htarget : Target.ofPath mount text = .ok target) (hsource : Url.ofText address = .ok source)
    (hhttp : source.scheme = "http") (hbase : baseUrl source page = .ok base) (hsame : base.origin = source.origin)
    (helement : (elementsAll page)[i]? = some (name, attributes))
    (hattribute : attributes[j]? = some a) (hcandidate : a.name ∈ (attributes? name.tag).getD [])
    (hplain : IsPlainPath a.value.toList) :
    let view := Forwarding.view origin target source
    ∃ after reference place own denoted,
      (elementsAll (rerootPage view page).1)[i]? = some (name, after) ∧
      after[j]? = some { a with value := view.linkTo place reference } ∧
      Reference.ofLink? source (trim Text.isBlank a.value.toList) = some reference ∧
      ((∃ back, Target.ofPath mount place = .ok back ∧ back.base = target.base) ↔ clean target.base = target.base) ∧
      source.resolve a.value.toList = .ok own ∧
      (∀ back, Target.ofPath mount place = .ok back → back.base = target.base →
        collapse back.backendPath = collapse own.path) ∧
      base.resolve a.value.toList = .ok denoted ∧
      (collapse own.path = collapse denoted.path ↔ a.value.toList.head? = some '/' ∨ dir base.path = dir source.path) := by
  intro view
  obtain ⟨segments, hs⟩ := goesThrough_ofChars hsource (Or.inl hhttp)
  have hbasehttp : base.scheme = "http" := (congrArg Prod.fst hsame).trans hhttp
  -- The base is the page's own address, or a link that is resolved from it.
  obtain ⟨more, hb⟩ : ∃ more, base.GoesThrough more := by
    unfold baseUrl at hbase
    split at hbase
    · exact goesThrough_resolve hs hbase (Or.inl hbasehttp)
    · exact Except.ok.inj hbase ▸ ⟨segments, hs⟩
  have hpath : pathOf a.value.toList = a.value.toList := pathOf_of_ordinary hplain.toIsOrdinaryPath
  have htail : IsTail [] := by simp [IsTail]
  have hordinary : IsOrdinaryPath (pathOf a.value.toList) := by
    rw [hpath]
    exact hplain.toIsOrdinaryPath
  obtain ⟨reference, hreference, hlink, hreroot⟩ := exists_reroot? view hordinary
  rw [hpath] at hreference
  obtain ⟨after, hafter, hvalue⟩ := attribute_rerootPage helement hattribute hcandidate hreroot
  obtain ⟨own, hown, -, -, hownroute⟩ := exists_resolve hs hplain.toIsOrdinaryPath htail
  obtain ⟨denoted, hdenoted, -, -, hroute⟩ := exists_resolve hb hplain.toIsOrdinaryPath htail
  rw [List.append_nil] at hown hdenoted
  have hnames := isName_namesFrom hs a.value.toList
  have hfound := backendPath_eq hs a.value.toList
  rw [← hreference] at hfound
  obtain ⟨hback, hall⟩ := exists_back_iff origin htarget hnames hfound
  refine ⟨after, reference, _, own, denoted, hafter, hvalue, hlink, hback, hown, fun back hto hsame => ?_, hdenoted, ?_⟩
  · rw [hall back hto hsame, collapse_names hnames, collapse_resolved hs hplain hownroute, hreference,
      String.toList_ofList]
  · rw [collapse_resolved hs hplain hownroute, collapse_resolved hb hplain hroute, String.ofList_inj,
      slashed_inj hnames (isName_namesFrom hb _), namesFrom_eq_iff hs hb hplain]

/-- From `/a/b/index.html` the link `logo` leads to `/a/b/logo`, though the page sets `/assets/` as its base. -/
theorem plain_link_leads_from_source_assets :
    Target.ofPath "proxy" "/proxy/default/pod/nginx-1/8080/a/b/index.html" = .ok podTarget ∧
      clean podTarget.base = podTarget.base ∧ Url.ofText "http://10.1.2.3:8080/a/b/index.html" = .ok podPage ∧
      podPage.scheme = "http" ∧ baseUrl podPage assetsPage = .ok assetsBase ∧
      assetsBase.origin = podPage.origin ∧
      (elementsAll assetsPage)[4]? = some (⟨.html, "a"⟩, [⟨.plain, "href", "logo"⟩]) ∧
      "href" ∈ (attributes? "a").getD [] ∧ IsPlainPath "logo".toList ∧
      ∃ place back, Target.ofPath "proxy" place = .ok back ∧ back.base = podTarget.base ∧
        collapse back.backendPath = "/a/b/logo" := by
  obtain ⟨-, reference, place, own, -, -, -, -, hback, hown, hpath, -⟩ :=
    @plain_link_leads_from_source _ _ _ _ ⟨"https", some "console.example.com", none⟩ _ _ _ _ 0 _ _ _ ofPath_podTarget
      ofText_podPage rfl baseUrl_assetsPage rfl anchor_assetsPage rfl (by decide) isPlainPath_logo
  obtain ⟨back, hto, hsame⟩ := hback.mpr clean_podTarget
  have hlogo : (podPage.resolve "logo".toList).toOption.map (collapse ·.path) = some "/a/b/logo" := by decide +kernel
  rw [hown] at hlogo
  exact ⟨ofPath_podTarget, clean_podTarget, ofText_podPage, rfl, baseUrl_assetsPage, rfl, anchor_assetsPage, by decide,
    isPlainPath_logo, place, back, hto, hsame, (hpath back hto hsame).trans (Option.some.inj hlogo)⟩

/-- That page shows that not every plain link leads where it leads from the base of its page. -/
theorem not_leads_from_base :
    ¬ ∀ (mount text address : String) (target : Target) (origin : Http.Origin) (source base : Url) (html : List Char)
      (i j : Nat) (name : ElementName) (attributes after : List Attribute) (a b : Attribute) (place : String)
      (reference : Reference) (back : Target) (denoted : Url),
      Target.ofPath mount text = .ok target → clean target.base = target.base →
      Url.ofText address = .ok source → source.scheme = "http" →
      baseUrl source (Page.ofChars html) = .ok base → base.origin = source.origin →
      (elementsAll (Page.ofChars html))[i]? = some (name, attributes) → name.tag ≠ "base" →
      attributes[j]? = some a → a.name ∈ (attributes? name.tag).getD [] → IsPlainPath a.value.toList →
      '.' ∉ a.value.toList →
      (elementsAll (rerootPage (Forwarding.view origin target source) (Page.ofChars html)).1)[i]? = some (name, after) →
      after[j]? = some b → Reference.ofLink? source (trim Text.isBlank a.value.toList) = some reference →
      b.value = (Forwarding.view origin target source).linkTo place reference → Target.ofPath mount place = .ok back →
      base.resolve a.value.toList = .ok denoted → collapse back.backendPath = collapse denoted.path := by
  intro hall
  have hreroot : reroot? (Forwarding.view ⟨"https", some "console.example.com", none⟩ podTarget podPage) "logo" =
      some "https://console.example.com/proxy/default/pod/nginx-1/8080/a/b/logo" := by decide +kernel
  obtain ⟨after, hafter, hvalue⟩ := attribute_rerootPage (j := 0) anchor_assetsPage rfl (by decide) hreroot
  have hback : Target.ofPath "proxy" "/proxy/default/pod/nginx-1/8080/a/b/logo" =
      .ok { podTarget with remainder := ["a", "b", "logo"] } := by rfl
  obtain ⟨denoted, hdenoted, hpath⟩ :
      ∃ denoted, assetsBase.resolve "logo".toList = .ok denoted ∧ collapse denoted.path = "/assets/logo" :=
    ⟨_, rfl, by decide +kernel⟩
  have heq := hall _ _ _ _ _ _ _ _ 4 0 _ _ _ _ _ "/proxy/default/pod/nginx-1/8080/a/b/logo" ⟨"logo", none, none⟩ _ _
    ofPath_podTarget clean_podTarget ofText_podPage rfl baseUrl_assetsPage rfl anchor_assetsPage (by decide) rfl (by decide)
    isPlainPath_logo (by decide) hafter hvalue (by decide +kernel) (by decide +kernel) hback hdenoted
  rw [hpath] at heq
  exact absurd heq (by decide +kernel)

end Gateway.Link
