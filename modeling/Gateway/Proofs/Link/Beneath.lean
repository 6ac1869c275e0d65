import Gateway.Proofs.Link.Ordinary
import Gateway.Proofs.Url.Site

/-! Staying beneath the base. A rerooted link is written without climbs, but a browser reads it again, and it also cuts at
    backslashes, leaves out tabs and line breaks, and takes escaped dots for dots. What it finds lies beneath the base just
    if the segments that it finds there do not lead out of it. They do not where it reads each segment of the reference as
    it was read here, and so never for a link that names its host, which a browser has read before. -/

namespace Gateway.Link

open Gateway.Path Gateway.Path.Lexical Url Text

/-! ### Names of a cluster -/

/-- A segment as the resources of a cluster are named: letters, digits, hyphens and dots, and not dots alone. -/
structure IsResourceName (segment : List Char) : Prop where
  chars : ∀ c ∈ segment, c.isAlphanum ∨ c = '-' ∨ c = '.'
  proper : ∃ c ∈ segment, c ≠ '.'

theorem ordinary_of_isAlphanum {c : Char} (h : c.isAlphanum = true) : c ∈ ordinary := by
  have hall := forall_below (P := fun c => c.isAlphanum = true → c ∈ ordinary) 128 (by decide +kernel)
  exact hall c (lt_of_isAlphanum h) h

namespace IsResourceName
variable {segment : List Char} (h : IsResourceName segment)
include h

theorem ordinary : IsOrdinary segment := by
  intro c hc
  rcases h.chars c hc with halpha | rfl | rfl
  · exact ordinary_of_isAlphanum halpha
  · decide
  · decide

theorem isName : IsName segment := by
  obtain ⟨c, hc, hdot⟩ := h.proper
  refine ⟨List.ne_nil_of_mem hc, ?_, ?_, fun hmem => ?_⟩
  · rintro rfl
    exact hdot (by simpa using hc)
  · rintro rfl
    exact hdot (by simpa using hc)
  · rcases h.chars '/' hmem with hslash | hslash | hslash
    · exact absurd hslash (by decide)
    · exact absurd hslash (by decide)
    · exact absurd hslash (by decide)

theorem isSettled : IsSettled segment := isSettled_of_ordinary h.ordinary h.isName.slash h.isName.isPlain

end IsResourceName

/-! ### Segments that are read alike -/

/-- A browser reads the segment as it stands, and takes it for a dot segment only if it consists of dots. -/
structure IsReadAlike (segment : List Char) : Prop where
  visible : ∀ c ∈ segment, 0x20 < c.toNat
  apart : ∀ c ∈ segment, c ∉ "/\\?#".toList
  dot : IsPlain segment → dotSegment? segment = none

theorem isReadAlike_of_settled {segment : List Char} (h : IsSettled segment) : IsReadAlike segment where
  visible c hc := visible_of_escaped (h.escaped c hc)
  apart _ hc := h.apart hc
  dot _ := h.dot

theorem mem_keep {kept : List (List Char)} {segment s : List Char} (h : s ∈ keep true kept segment) :
    s ∈ kept ∨ s = segment := by
  unfold keep at h
  split at h
  · exact Or.inl h
  · split at h
    · cases kept with
      | nil => exact absurd h (by simp)
      | cons last rest =>
        dsimp only at h
        split at h
        · exact Or.inl h
        · exact Or.inl (List.mem_cons_of_mem _ h)
    · exact (List.mem_cons.mp h).symm

theorem mem_foldl_keep {kept segments : List (List Char)} {s : List Char} (h : s ∈ segments.foldl (keep true) kept) :
    s ∈ kept ∨ s ∈ segments := by
  induction segments generalizing kept with
  | nil => exact Or.inl h
  | cons segment segments ih =>
    rcases ih h with h | h
    · rcases mem_keep h with h | rfl
      · exact Or.inl h
      · exact Or.inr List.mem_cons_self
    · exact Or.inr (List.mem_cons_of_mem _ h)

/-- The names that a path on a page leads through are segments of the page or of the path. -/
theorem mem_namesFrom {segments : List (List Char)} {path s : List Char} (h : s ∈ namesFrom segments path) :
    s ∈ segments ∨ s ∈ path.splitOn '/' := by
  rcases mem_foldl_keep (List.mem_reverse.mp h) with h | h
  · have hplace := (List.mem_filter.mp (List.mem_reverse.mp h)).1
    by_cases hrooted : path.head? = some '/'
    · obtain ⟨rest, rfl⟩ := List.head?_eq_some_iff.mp hrooted
      exact absurd hplace (by simp [start])
    · rw [start_of_unrooted hrooted] at hplace
      exact Or.inl (List.dropLast_subset _ hplace)
  · by_cases hrooted : path.head? = some '/'
    · obtain ⟨rest, rfl⟩ := List.head?_eq_some_iff.mp hrooted
      rw [← List.nil_append ('/' :: rest), List.splitOn_append_cons_self]
      exact Or.inr (List.mem_append_right _ h)
    · rw [start_of_unrooted hrooted] at h
      exact Or.inr h

/-- The path of a link that names its host is read alike. -/
theorem isReadAlike_of_hosted {source : Url} {link : List Char} {reference : Reference}
    (hhosted : (scheme? link).isSome ∨ "//".toList.isPrefixOf link) (h : Reference.ofLink? source link = some reference) :
    ∀ s ∈ reference.path.toList.splitOn '/', IsReadAlike s := by
  rw [ofLink?_hosted (hhosted.imp_right List.isPrefixOf_iff_prefix.mp)] at h
  obtain ⟨url, hread, hreference⟩ := Option.bind_eq_some_iff.mp h
  obtain ⟨cs, hcs⟩ := exists_ofChars_of_absolute (eq_ok_of_toOption hread)
  obtain ⟨hweb, -, rfl⟩ := ofUrl?_eq_some_iff.mp hreference
  obtain ⟨segments, hgoes⟩ := goesThrough_ofChars hcs hweb
  dsimp only
  rw [hgoes.path, String.toList_ofList, splitOn_fromRoot hgoes.slash hgoes.ne_nil]
  intro s hs
  rcases List.mem_cons.mp hs with rfl | hs
  · exact isReadAlike_of_settled isSettled_nil
  · exact isReadAlike_of_settled (hgoes.settled s hs)

/-! ### Behind the base -/

/-- Names behind a path, with or without a slash at the end. -/
def behind (names : List (List Char)) (slash : Prop) [Decidable slash] : List Char :=
  (if names = [] then [] else fromRoot names) ++ if slash then ['/'] else []

theorem fromRoot_behind {selection : List (List Char)} (hne : selection ≠ []) (names : List (List Char)) (slash : Prop)
    [Decidable slash] : (fromRoot (selection ++ names) ++ if slash then ['/'] else []) =
      fromRoot selection ++ behind names slash := by
  unfold behind
  by_cases hnames : names = []
  · rw [if_pos hnames, hnames, List.append_nil, List.nil_append]
  · rw [if_neg hnames, fromRoot_append hne hnames, List.append_assoc]

theorem isBehindSite_behind {back : List Char} (hb : IsTail back) (names : List (List Char)) (slash : Prop)
    [Decidable slash] : IsBehindSite (behind names slash ++ back) := by
  intro c hc
  unfold behind at hc
  by_cases hnames : names = []
  · by_cases hslash : slash
    · exact Or.inl (by simpa [hnames, hslash, eq_comm] using hc)
    · exact Or.inr (hb c (by simpa [hnames, hslash] using hc))
  · exact Or.inl (by simpa [hnames, fromRoot, eq_comm] using hc)

section
variable {names : List (List Char)} {back : List Char} (hn : ∀ s ∈ names, IsReadAlike s) (slash : Prop) [Decidable slash]
include hn

theorem mem_behind {c : Char} (h : c ∈ behind names slash) : c = '/' ∨ 0x20 < c.toNat ∧ c ∉ "/\\?#".toList := by
  rcases List.mem_append.mp h with h | h
  · split at h
    · cases h
    · rcases mem_fromRoot h with rfl | ⟨s, hs, hc⟩
      · exact Or.inl rfl
      · exact Or.inr ⟨(hn s hs).visible c hc, (hn s hs).apart c hc⟩
  · split at h
    · exact Or.inl (List.mem_singleton.mp h)
    · cases h

/-- Behind a path a browser finds the names that are read alike, and perhaps an empty segment at the end. -/
theorem mem_segmentsBehind (hb : IsTail back) {s : List Char} (h : s ∈ segmentsBehind (behind names slash ++ back)) :
    s = [] ∨ s ∈ names := by
  have hmark : ∀ c ∈ "?#".toList, c ∉ behind names slash := by
    intro c hc hmem
    rcases mem_behind hn slash hmem with rfl | ⟨-, hapart⟩
    · exact absurd hc (by decide)
    · exact hapart (mem_apart_of_mark hc)
  have hseparator : ∀ s ∈ names, ∀ c ∈ s, isSeparator true c = false := fun s hs c hc =>
    isSeparator_of_apart ((hn s hs).apart c hc)
  have htail : (cutTail true back).1 = [] := cutAt_tail hb
  rw [segmentsBehind, cutTail_append (hmark '?' (by decide)) (hmark '#' (by decide)), htail, List.append_nil, behind] at h
  by_cases hnames : names = []
  · rw [if_pos hnames, List.nil_append] at h
    split at h
    · exact Or.inl (List.mem_singleton.mp h)
    · cases h
  · rw [if_neg hnames] at h
    split at h
    · rw [cutSegments_slash, cutSegments_fromRoot hnames hseparator] at h
      rcases List.mem_append.mp h with h | h
      · exact Or.inr h
      · exact Or.inl (List.mem_singleton.mp h)
    · rw [List.append_nil, cutSegments_fromRoot hnames hseparator] at h
      exact Or.inr h

end

/-- Where names are read alike, a browser finds no climbs behind the path in front of them. -/
theorem not_up_of_readAlike {names : List (List Char)} {front back more : List Char} (hne : front ≠ [])
    (hf : ∀ c ∈ front, 0x20 < c.toNat) (hn : ∀ s ∈ names, IsName s ∧ IsReadAlike s) (slash : Prop) [Decidable slash]
    (hb : IsTail back) (hm : significant (front ++ (behind names slash ++ back)) = front ++ more) :
    ∀ s ∈ segmentsBehind more, dotSegment? s ≠ some .up := by
  have halike : ∀ s ∈ names, IsReadAlike s := fun s hs => (hn s hs).2
  have hvisible : ∀ c ∈ front ++ behind names slash, 0x20 < c.toNat := by
    intro c hc
    rcases List.mem_append.mp hc with hc | hc
    · exact hf c hc
    · rcases mem_behind halike slash hc with rfl | ⟨hvisible, -⟩
      · decide
      · exact hvisible
  have hmark : ∀ c, back.head? = some c → 0x20 < c.toNat := by
    intro c hc
    rcases hb c hc with rfl | rfl <;> decide
  obtain ⟨back', hsignificant, hhead⟩ := exists_significant_behind (by simp [hne]) hvisible hmark
  rw [List.append_assoc, hm, List.append_assoc] at hsignificant
  obtain rfl := List.append_cancel_left hsignificant
  intro s hs
  rcases mem_segmentsBehind halike slash (fun c hc => hb c (hhead ▸ hc)) hs with rfl | hs
  · simp [isSettled_nil.dot]
  · simp [(hn s hs).2.dot (hn s hs).1.isPlain]

/-! ### Staying beneath the base -/

/-- The path is the base, or goes on from it behind a slash. -/
def Beneath (base path : String) : Prop := path = base ∨ (base ++ "/").toList <+: path.toList

instance (base path : String) : Decidable (Beneath base path) := by unfold Beneath; infer_instance

theorem beneath_iff {url : Url} {selection segments : List (List Char)} (hne : selection ≠ [])
    (hslash : ∀ s ∈ selection, '/' ∉ s) (h : url.GoesThrough segments) :
    Beneath (Target.rooted selection) url.path ↔ selection <+: segments := by
  rw [← fromRoot_beneath_iff hslash h.slash hne h.ne_nil, Beneath, h.path, Target.rooted_eq, String.ofList_inj,
    String.toList_append, String.toList_ofList, String.toList_ofList, String.toList_ofList]

/-- The text of a rerooted link: the site of the gateway, the base, and what follows it. -/
theorem toList_write {view : View} {reference : Reference} {host : String} {selection names : List (List Char)}
    {slash : Prop} [Decidable slash] (hhost : view.host = some host) (hne : selection ≠ [])
    (hplace : gatewayPath view reference.path =
      String.ofList (fromRoot (selection ++ names) ++ if slash then ['/'] else [])) :
    (write view reference).toList = view.scheme.toList ++ "://".toList ++ host.toList ++ fromRoot selection ++
      (behind names slash ++ ((reference.query.map ("?" ++ ·)).getD "" ++
        (reference.fragment.map ("#" ++ ·)).getD "").toList) := by
  rw [write_eq_linkTo, View.linkTo, View.site, hhost, hplace, fromRoot_behind hne]
  simp

/-! ### A page of a pod behind a console -/

/-- The segments that select the pod. -/
def podSelection : List (List Char) := ["proxy", "default", "pod", "nginx-1", "8080"].map String.toList

theorem isResourceName_podSelection : ∀ s ∈ podSelection, IsResourceName s := by
  have hall : ∀ s ∈ podSelection, s.all (fun c => c.isAlphanum ∨ c = '-' ∨ c = '.') ∧ s.any (· ≠ '.') := by
    decide +kernel
  intro s hs
  obtain ⟨hchars, hproper⟩ := hall s hs
  exact ⟨by simpa using hchars, by simpa using hproper⟩

theorem isSiteText_console : IsSiteText "console.example.com".toList where
  ne_nil := by decide
  visible := forall_mem (by decide +kernel)
  apart := forall_mem (by decide +kernel)

def console : Url := ⟨"https", some ⟨none, .name "console.example.com", none⟩, .segments [""], none, none⟩

theorem ofText_console : Url.ofText "https://console.example.com" = .ok console := ofText_eq_ok (by decide +kernel)

/-- **A rerooted link stays beneath the base just if it does not climb out of it for a browser.** Take a base of names of a
    cluster and a gateway with a valid host. A browser reads every rerooted link as a URL on this host. The URL lies
    beneath the base just if the segments that the browser finds behind the base do not lead out of it. So it does where
    the browser reads all segments of the reference as they were read here, and where the link names its host. -/
theorem rerooted_beneath_iff {target : Target} {selection : List (List Char)} {origin : Http.Origin}
    {host address link rerooted : String} {site source : Url} (hbase : target.base = Target.rooted selection)
    (hne : selection ≠ []) (hselection : ∀ s ∈ selection, IsResourceName s)
    (hscheme : origin.scheme = "http" ∨ origin.scheme = "https") (horigin : origin.host = some host)
    (hhost : IsSiteText host.toList) (hsite : Url.ofText (origin.scheme ++ "://" ++ host) = .ok site)
    (hsource : Url.ofText address = .ok source) (hhttp : source.scheme = "http")
    (h : reroot? (Forwarding.view origin target source) link = some rerooted) :
    let text := trim Text.isBlank link.toList
    ∃ reference url more, Reference.ofLink? source text = some reference ∧
      significant rerooted.toList = (origin.scheme ++ "://" ++ host ++ target.base).toList ++ more ∧
      Url.ofText rerooted = .ok url ∧ url.scheme = origin.scheme ∧ url.authority = site.authority ∧
      (Beneath target.base url.path ↔ selection <+: walk selection (segmentsBehind more)) ∧
      ((∀ s ∈ reference.path.toList.splitOn '/', IsReadAlike s) → Beneath target.base url.path) ∧
      ((scheme? text).isSome ∨ "//".toList.isPrefixOf text → Beneath target.base url.path) := by
  intro text
  obtain ⟨segments, hgoing⟩ := goesThrough_ofChars hsource (Or.inl hhttp)
  obtain ⟨reference, hreference, -, rfl⟩ := reroot?_eq_some_iff.mp h
  have hname : ∀ s ∈ selection, IsName s := fun s hs => (hselection s hs).isName
  have hsettled : ∀ s ∈ selection, IsSettled s := fun s hs => (hselection s hs).isSettled
  have hnames := isName_namesFrom hgoing reference.path.toList
  have hdenoted := backendPath_eq hgoing reference.path.toList
  rw [String.ofList_toList] at hdenoted
  have htext : (write (Forwarding.view origin target source) reference).toList = origin.scheme.toList ++ _ ++ _ ++ _ ++ _ :=
    toList_write horigin hne (gatewayPath_eq _ hname hne hbase hnames hdenoted)
  have hmarks := isTail_marks reference
  generalize hback : ((reference.query.map ("?" ++ ·)).getD "" ++ _ : String).toList = back at htext hmarks
  have hmem : ∀ s ∈ namesFrom segments reference.path.toList, s ∈ segments ∨ s ∈ reference.path.toList.splitOn '/' :=
    fun s => mem_namesFrom
  generalize namesFrom segments reference.path.toList = names at *
  have hvisible := visible_fromRoot hscheme hhost hsettled
  have hbehind := isBehindSite_behind hmarks names (reference.path.toList.getLast? = some '/')
  -- What a browser finds behind the base need not be what was written there: it leaves out tabs and line breaks.
  obtain ⟨more, hsignificant, hhead⟩ := exists_significant_behind (by simp [fromRoot]) hvisible fun c => hbehind.visible
  obtain ⟨url, hurl, hsame, hauthority, hgoes⟩ := exists_url_behind hscheme hhost (by simpa [Url.ofText] using hsite) hne
    hsettled (fun c hc => hbehind c (hhead ▸ hc)) hsignificant
  have hiff : Beneath target.base url.path ↔ selection <+: walk selection (segmentsBehind more) := by
    rw [hbase]
    exact beneath_iff hne (fun s hs => (hname s hs).slash) hgoes
  have halike : (∀ s ∈ reference.path.toList.splitOn '/', IsReadAlike s) → Beneath target.base url.path := by
    intro hpath
    refine hiff.mpr (prefix_walk (not_up_of_readAlike (by simp [fromRoot]) hvisible ?_ _ hmarks hsignificant) selection)
    intro s hs
    -- The segments of the page have been read by a browser's rules before, those of the reference have not.
    rcases hmem s hs with hfrom | hfrom
    · exact ⟨hnames s hs, isReadAlike_of_settled (hgoing.settled s hfrom)⟩
    · exact ⟨hnames s hs, hpath s hfrom⟩
  rw [htext.symm] at hsignificant hurl
  refine ⟨reference, url, more, hreference, ?_, hurl, hsame, hauthority, hiff, halike, fun hhosted => ?_⟩
  · simpa [hbase, Target.rooted_eq] using hsignificant
  · exact halike (isReadAlike_of_hosted hhosted hreference)

/-- A link that names its host and climbs with escaped dots stays with its pod. -/
theorem rerooted_beneath_iff_hosted :
    podTarget.base = Target.rooted podSelection ∧ podSelection ≠ [] ∧ (∀ s ∈ podSelection, IsResourceName s) ∧
      IsSiteText "console.example.com".toList ∧ Url.ofText "https://console.example.com" = .ok console ∧
      Url.ofText "http://10.1.2.3:8080/a/b/index.html" = .ok podPage ∧ podPage.scheme = "http" ∧
      reroot? podView "http://10.1.2.3:8080/%2e%2e/%2e%2e/nginx-2/8080/x" =
        some "https://console.example.com/proxy/default/pod/nginx-1/8080/nginx-2/8080/x" ∧
      ∃ url, Url.ofText "https://console.example.com/proxy/default/pod/nginx-1/8080/nginx-2/8080/x" = .ok url ∧
        url.authority = console.authority ∧ Beneath podTarget.base url.path := by
  have hreroot : reroot? podView "http://10.1.2.3:8080/%2e%2e/%2e%2e/nginx-2/8080/x" =
      some "https://console.example.com/proxy/default/pod/nginx-1/8080/nginx-2/8080/x" := by decide +kernel
  obtain ⟨reference, url, more, -, -, hurl, -, hauthority, -, -, hhosted⟩ :=
    @rerooted_beneath_iff _ podSelection ⟨"https", some "console.example.com", none⟩ _ _ _ _ _ _ rfl (by decide)
      isResourceName_podSelection (Or.inr rfl) rfl isSiteText_console ofText_console ofText_podPage rfl hreroot
  exact ⟨rfl, by decide, isResourceName_podSelection, isSiteText_console, ofText_console, ofText_podPage, rfl, hreroot,
    url, hurl, hauthority, hhosted (Or.inl (by decide +kernel))⟩

/-- Without its host the same link leads to another pod, so that not every rerooted link stays beneath the base. -/
theorem not_beneath_escaped :
    ¬ ∀ (mount text : String) (target : Target) (selection : List (List Char)) (address : Address) (query : Option String)
      (origin : Http.Origin) (host link rerooted : String) (site source : Url),
      Target.ofPath mount text = .ok target → target.base = Target.rooted selection → selection ≠ [] →
      (∀ s ∈ selection, IsResourceName s) → (origin.scheme = "http" ∨ origin.scheme = "https") →
      origin.host = some host → IsSiteText host.toList → Url.ofText (origin.scheme ++ "://" ++ host) = .ok site →
      Url.ofText (target.destination address query) = .ok source →
      reroot? (Forwarding.view origin target source) link = some rerooted →
      ∃ url, Url.ofText rerooted = .ok url ∧ url.authority = site.authority ∧ Beneath target.base url.path := by
  intro hall
  have hreroot : reroot? podView "/%2e%2e/%2e%2e/nginx-2/8080/x" =
      some "https://console.example.com/proxy/default/pod/nginx-1/8080/%2e%2e/%2e%2e/nginx-2/8080/x" := by decide +kernel
  have hdestination : podTarget.destination ⟨"10.1.2.3", 8080⟩ none = "http://10.1.2.3:8080/a/b/index.html" := by
    decide +kernel
  obtain ⟨url, hurl, -, hbeneath⟩ := hall _ _ _ podSelection _ _ ⟨"https", some "console.example.com", none⟩ _ _ _ _ _
    ofPath_podTarget rfl (by decide) isResourceName_podSelection (Or.inr rfl) rfl isSiteText_console ofText_console
    (hdestination ▸ ofText_podPage) hreroot
  have hpath : (Url.ofText
      "https://console.example.com/proxy/default/pod/nginx-1/8080/%2e%2e/%2e%2e/nginx-2/8080/x").toOption.map Url.path =
        some "/proxy/default/pod/nginx-2/8080/x" := by decide +kernel
  rw [hurl] at hpath
  rw [Option.some.inj hpath] at hbeneath
  exact absurd hbeneath (by decide +kernel)

end Gateway.Link
