import Gateway.Proofs.Link.Following
import Gateway.Proofs.Url.Ordinary

/-! Ordinary links. A link of letters, digits, hyphens, underscores, dots and single slashes, with any query and fragment
    behind it, is rerooted to the place that a browser finds for it from the page's own address, but for one thing: where
    its path ends in a dot segment a browser ends in a slash, and the rerooted link does not. -/

namespace Gateway.Link

open Gateway.Path Gateway.Path.Lexical Url Text

/-! ### Links by a path -/

/-- The path that a link without scheme and host consists of, up to its query or fragment. -/
def pathOf (link : List Char) : List Char := (Reference.cut link).path.toList

theorem pathOf_eq (link : List Char) : pathOf link = (cutAt '?' (cutAt '#' link).1).1 := by
  simp [pathOf, Reference.cut]

theorem exists_pathOf (link : List Char) : ∃ back, link = pathOf link ++ back ∧ IsTail back := by
  obtain ⟨fragment, hlink, -, hfragment⟩ := exists_cutAt '#' link
  obtain ⟨query, hfront, -, hquery⟩ := exists_cutAt '?' (cutAt '#' link).1
  refine ⟨query ++ fragment, ?_, fun c hc => ?_⟩
  · rw [pathOf_eq, ← List.append_assoc, ← hfront]
    exact hlink
  · cases query with
    | nil => exact Or.inr (hfragment c hc)
    | cons first query => exact Or.inl (hquery c hc)

/-- A path of ordinary characters and single slashes, in which nothing is left out. -/
structure IsOrdinaryPath (path : List Char) : Prop where
  ne_nil : path ≠ []
  ordinary : IsOrdinary path
  single : ¬ ['/', '/'] <:+: path

namespace IsOrdinaryPath
variable {path back : List Char} (h : IsOrdinaryPath path)
include h

theorem mark {c : Char} (hc : c ∈ "?#:@\\%".toList) : c ∉ path := fun hmem =>
  ne_mark_of_ordinary (h.ordinary c hmem) hc

/-- Such a path ends at the mark behind it, however a link is cut. -/
theorem cutAt_path (hb : IsTail back) : (cutAt '?' (cutAt '#' (path ++ back)).1).1 = path := by
  rw [cutAt_append (h.mark (by decide)), cutAt_append (h.mark (by decide)), cutAt_tail hb, List.append_nil]

theorem pathOf_append (hb : IsTail back) : pathOf (path ++ back) = path := by
  rw [pathOf_eq, h.cutAt_path hb]

theorem cutTail_append (hb : IsTail back) : (cutTail true (path ++ back)).1 = path := h.cutAt_path hb

/-- Neither a colon of the query nor one of the fragment makes a scheme. -/
theorem scheme?_append (hb : IsTail back) : scheme? (path ++ back) = none := by
  obtain ⟨first, rest, hpath⟩ := List.exists_cons_of_ne_nil h.ne_nil
  have hcut := cutAt_append (show ':' ∉ path from h.mark (by decide)) back
  obtain ⟨more, hback, -, hmore⟩ := exists_cutAt ':' back
  cases hfront : (cutAt ':' back).1 with
  | nil =>
    have hnone : back = [] := by
      rw [hfront, List.nil_append] at hback
      cases back with
      | nil => rfl
      | cons c back =>
        obtain rfl := hmore c (by rw [← hback]; rfl)
        rcases hb ':' rfl with hc | hc <;> exact absurd hc (by decide)
    rw [hnone, List.append_nil, hpath]
    simp only [scheme?, ← hpath, cutAt_of_not_mem (h.mark (c := ':') (by decide))]
  | cons mark front =>
    -- The colon stands behind the mark at the end of the path, and no scheme goes on beyond a mark.
    have hmark : isSchemeChar mark = false := by
      rcases hb mark (by rw [hback, hfront]; rfl) with rfl | rfl <;> decide
    rw [hfront] at hcut
    rw [hpath, List.cons_append] at hcut ⊢
    simp only [scheme?, hcut]
    split
    · rename_i scheme tail heq
      rw [Prod.mk.injEq] at heq
      obtain ⟨rfl, -⟩ := heq
      rw [if_neg]
      simp [hmark]
    · rfl

theorem exists_trim (hb : IsTail back) :
    ∃ back', trim isBlank (path ++ back) = path ++ back' ∧ IsTail back' := by
  have hf : ∀ c ∈ path, isBlank c = false := fun c hc => not_isBlank_of_ordinary (h.ordinary c hc)
  have hm : ∀ c, back.head? = some c → isBlank c = false := by
    intro c hc
    rcases hb c hc with rfl | rfl <;> decide
  obtain ⟨back', htrim, hhead⟩ := exists_trim_behind h.ne_nil hf hm
  exact ⟨back', htrim, fun c hc => hb c (hhead ▸ hc)⟩

theorem exists_significant (hb : IsTail back) :
    ∃ back', significant (path ++ back) = path ++ back' ∧ IsTail back' := by
  have hm : ∀ c, back.head? = some c → 0x20 < c.toNat := by
    intro c hc
    rcases hb c hc with rfl | rfl <;> decide
  obtain ⟨back', hsignificant, hhead⟩ :=
    exists_significant_behind h.ne_nil (fun c hc => visible_of_ordinary (h.ordinary c hc)) hm
  exact ⟨back', hsignificant, fun c hc => hb c (hhead ▸ hc)⟩

theorem path_cut (hb : IsTail back) : (Reference.cut (path ++ back)).path = String.ofList path := by
  exact String.toList_inj.mp ((h.pathOf_append hb).trans String.toList_ofList.symm)

theorem hostless (hb : IsTail back) : ¬ IsHosted (path ++ back) := by
  have hhost := hostless_append (fun hp => h.single hp.isInfix) hb h.ne_nil
  exact not_or.mpr ⟨by simp [h.scheme?_append hb], hhost⟩

end IsOrdinaryPath

/-! ### Where a path starts -/

/-- The place that a path starts from on a page through some segments, and the segments that it goes on through. -/
def start (segments : List (List Char)) : List Char → List (List Char) × List (List Char)
  | '/' :: rest => ([], rest.splitOn '/')
  | path => (segments.dropLast, path.splitOn '/')

theorem start_of_unrooted {path : List Char} (h : path.head? ≠ some '/') (segments : List (List Char)) :
    start segments path = (segments.dropLast, path.splitOn '/') := by
  unfold start
  split
  · exact absurd rfl h
  · rfl

section
variable {source : Url} {segments : List (List Char)}

/-- The segments of the place are settled, and none of those behind it holds a slash. -/
theorem settled_start (hs : source.GoesThrough segments) (path : List Char) :
    (∀ s ∈ (start segments path).1, IsSettled s) ∧ ∀ s ∈ (start segments path).2, '/' ∉ s := by
  unfold start
  split
  · exact ⟨by simp, fun _ => Text.not_mem_piece⟩
  · exact ⟨fun s h => hs.settled s (List.dropLast_subset _ h), fun _ => Text.not_mem_piece⟩

/-- The names that a path on a page leads through. -/
def namesFrom (segments : List (List Char)) (path : List Char) : List (List Char) :=
  ((start segments path).2.foldl (keep true) (nonEmpty (start segments path).1).reverse).reverse

theorem isName_namesFrom (hs : source.GoesThrough segments) (path : List Char) :
    ∀ s ∈ namesFrom segments path, IsName s := by
  obtain ⟨hplace, hmore⟩ := settled_start hs path
  have hnames := isName_nonEmpty (fun s h => (hplace s h).isPlain) fun s h => (hplace s h).slash
  intro s h
  exact isName_foldl_keep (fun s h => hnames s (List.mem_reverse.mp h)) hmore s (List.mem_reverse.mp h)

/-- A reference denotes the names that its path leads through. -/
theorem backendPath_eq (hs : source.GoesThrough segments) (path : List Char) :
    backendPath source (String.ofList path) = String.ofList (fromRoot (namesFrom segments path)) := by
  unfold backendPath namesFrom
  rw [String.toList_ofList]
  split
  · rename_i hrooted
    obtain ⟨rest, rfl⟩ := List.head?_eq_some_iff.mp hrooted
    rw [clean_of_rooted (by simp), String.toList_ofList, names, ← List.nil_append ('/' :: rest),
      List.splitOn_append_cons_self]
    simp [start, nonEmpty]
  · rename_i hrooted
    have hplain : ∀ s ∈ segments, IsPlain s := fun s h => (hs.settled s h).isPlain
    have hnames := isName_nonEmpty (fun s h => hplain s (List.dropLast_subset _ h))
      fun s h => hs.slash s (List.dropLast_subset _ h)
    rw [start_of_unrooted hrooted, hs.path, dir_fromRoot hs.ne_nil hs.slash hplain, ← names_behind hnames]
    rw [show (String.ofList (fromRoot (nonEmpty segments.dropLast)) ++ "/" ++ String.ofList path) =
      String.ofList (fromRoot (nonEmpty segments.dropLast) ++ '/' :: path) by simp [← String.toList_inj]]
    rw [clean_of_rooted (by simp [fromRoot]), String.toList_ofList]

/-- A browser finds an ordinary path from the place that it starts from. -/
theorem exists_resolve (hs : source.GoesThrough segments) {path back : List Char} (h : IsOrdinaryPath path)
    (hb : IsTail back) : ∃ url, source.resolve (path ++ back) = .ok url ∧ url.scheme = source.scheme ∧
      url.authority = source.authority ∧
      url.route = segmentsRoute (walk (start segments path).1 (start segments path).2) := by
  obtain ⟨back', hsignificant, hb'⟩ := h.exists_significant hb
  rw [resolve, hsignificant, h.scheme?_append hb']
  dsimp only
  have hcut := h.cutTail_append hb'
  unfold resolveRelative
  generalize cutTail true (path ++ back') = cut at hcut
  obtain ⟨front, tail⟩ := cut
  obtain rfl : front = path := hcut
  match front, h with
  | [], h => exact absurd rfl h.ne_nil
  | c :: rest, h =>
    dsimp only
    by_cases hc : c = '/'
    · subst hc
      -- With a second slash the link would bring its host.
      have hrest : rest.head?.any (isSeparator true) = false := by
        cases rest with
        | nil => rfl
        | cons d rest =>
          refine isSeparator_of_ordinary (h.ordinary d (by simp)) ?_
          rintro rfl
          exact h.single ⟨[], rest, rfl⟩
      have hordinary : IsOrdinary rest := fun d hd => h.ordinary d (List.mem_cons_of_mem _ hd)
      rw [if_pos (by decide), if_neg (by simp [hrest]), readSegments_eq_walk, cutSegments_of_ordinary hordinary]
      exact ⟨_, rfl, rfl, rfl, rfl⟩
    · rw [if_neg (by simp [isSeparator_of_ordinary (h.ordinary c List.mem_cons_self) hc]), hs.pieces,
        cutSegments_of_ordinary h.ordinary, start_of_unrooted (by simpa using hc)]
      exact ⟨_, rfl, rfl, rfl, rfl⟩

/-! ### The last segment -/

/-- The path ends in a dot segment. -/
def EndsInDots (path : List Char) : Prop :=
  (path.splitOn '/').getLast? = some ['.'] ∨ (path.splitOn '/').getLast? = some ['.', '.']

instance (path : List Char) : Decidable (EndsInDots path) := by unfold EndsInDots; infer_instance

theorem getLast?_start (segments : List (List Char)) (path : List Char) :
    (start segments path).2.getLast? = (path.splitOn '/').getLast? := by
  unfold start
  split
  · rename_i rest
    obtain ⟨first, more, hsplit⟩ := List.exists_cons_of_ne_nil (List.splitOn_ne_nil '/' rest)
    rw [← List.nil_append ('/' :: rest), List.splitOn_append_cons_self, hsplit]
    simp
  · rfl

/-- A path ends in a slash if its last segment is empty. -/
theorem getLast?_eq_slash {path : List Char} (hne : path ≠ []) :
    path.getLast? = some '/' ↔ (path.splitOn '/').getLast? = some [] := by
  by_cases hslash : '/' ∈ path
  · obtain ⟨front, last, rfl, hlast⟩ := exists_last_slash hslash
    rw [List.splitOn_append_cons_self, List.splitOn_eq_singleton hlast, List.getLast?_concat]
    cases last with
    | nil => simp
    | cons c last =>
      have hend : '/' ∉ (c :: last).getLast? := fun hmem => hlast (List.mem_of_getLast? hmem)
      simpa [List.getLast?_append] using hend
  · rw [List.splitOn_eq_singleton hslash]
    simp only [List.getLast?_singleton, Option.some.injEq, hne, iff_false]
    exact fun hlast => hslash (List.mem_of_getLast? hlast)

theorem opens_iff {path last : List Char} (hne : path ≠ []) (hl : (path.splitOn '/').getLast? = some last) :
    Opens last ↔ path.getLast? = some '/' ∨ EndsInDots path := by
  rw [getLast?_eq_slash hne, EndsInDots, hl]
  simp [Opens]

/-! ### What a browser finds -/

/-- On a page without empty segments in its path, neither the place that an ordinary path starts from has an empty segment
    nor what goes on from it, but for a slash at the end. -/
theorem start_full (hs : source.GoesThrough segments) (hinner : ¬ ['/', '/'] <:+: source.path.toList)
    {path : List Char} (h : IsOrdinaryPath path) : (∀ s ∈ (start segments path).1, s ≠ []) ∧
      [] ∉ (start segments path).2.dropLast ∧ ∀ s ∈ (start segments path).2, IsOrdinary s := by
  by_cases hrooted : path.head? = some '/'
  · obtain ⟨rest, rfl⟩ := List.head?_eq_some_iff.mp hrooted
    refine ⟨by simp [start], nil_not_mem_dropLast h.single, fun s hmem c hc => ?_⟩
    exact h.ordinary c (List.mem_cons_of_mem _ (mem_of_mem_piece hmem hc))
  · have hlist : [] ∉ segments.dropLast := by
      rw [hs.path, String.toList_ofList, fromRoot] at hinner
      have := nil_not_mem_dropLast hinner
      rwa [List.splitOn_intercalate '/' hs.slash hs.ne_nil] at this
    rw [start_of_unrooted hrooted]
    refine ⟨fun s hmem heq => hlist (heq ▸ hmem), nil_not_mem_dropLast fun hinfix => ?_, fun s hmem c hc => ?_⟩
    · rcases List.infix_cons_iff.mp hinfix with hprefix | hinfix
      · obtain ⟨rest, hrest⟩ := hprefix
        exact hrooted (by rw [← (List.cons.inj hrest).2]; rfl)
      · exact h.single hinfix
    · exact h.ordinary c (mem_of_mem_piece hmem hc)

/-- There a browser finds the names that the path leads through, with a slash behind them if the path ends in a slash or in
    dots. -/
theorem path_resolved (hs : source.GoesThrough segments) (hinner : ¬ ['/', '/'] <:+: source.path.toList)
    {path : List Char} (h : IsOrdinaryPath path) {url : Url}
    (hr : url.route = segmentsRoute (walk (start segments path).1 (start segments path).2)) :
    url.path = String.ofList (fromRoot (namesFrom segments path) ++
      if (path.getLast? = some '/' ∨ EndsInDots path) ∧ namesFrom segments path ≠ [] then ['/'] else []) := by
  obtain ⟨hplace, hslash⟩ := settled_start hs path
  obtain ⟨hfull, hdrop, hordinary⟩ := start_full hs hinner h
  obtain ⟨last, hsplit⟩ := Option.isSome_iff_exists.mp (List.getLast?_isSome.mpr (List.splitOn_ne_nil '/' path))
  have hlast := (getLast?_start segments path).trans hsplit
  have hne : (start segments path).2 ≠ [] := fun hnil => by
    rw [hnil] at hlast
    cases hlast
  have hnames : ∀ s ∈ (start segments path).1.reverse, IsName s := by
    intro s hmem
    have hmem := List.mem_reverse.mp hmem
    exact ⟨hfull s hmem, (hplace s hmem).isPlain.ne_here, (hplace s hmem).isPlain.ne_up, (hplace s hmem).slash⟩
  have hwalk : walk (start segments path).1 (start segments path).2 =
      namesFrom segments path ++ if Opens last then [[]] else [] := by
    rw [walk, takeSegments_ordinary hnames hordinary hslash hdrop hlast, namesFrom, nonEmpty_of_names hfull]
    split <;> simp
  have hopens := opens_iff h.ne_nil hsplit
  rw [path_of_segments hr (walk_ne_nil hne _), hwalk]
  by_cases ho : Opens last
  · rw [if_pos ho, fromRoot_slash]
    by_cases hn : namesFrom segments path = [] <;> simp [hn, hopens.mp ho]
  · rw [if_neg ho, List.append_nil, if_neg (fun hor => ho (hopens.mpr hor.1)), List.append_nil]

end

/-! ### Ordinary links -/

/-- A link by an ordinary path is rerooted as a reference by this path. -/
theorem exists_reroot? (view : View) {link : String} (h : IsOrdinaryPath (pathOf link.toList)) :
    ∃ reference, reference.path = String.ofList (pathOf link.toList) ∧
      Reference.ofLink? view.source (trim isBlank link.toList) = some reference ∧
      reroot? view link = some (view.linkTo (gatewayPath view reference.path) reference) := by
  obtain ⟨back, hlink, hb⟩ := exists_pathOf link.toList
  generalize pathOf link.toList = path at h hlink
  obtain ⟨back', htrim, hb'⟩ := h.exists_trim hb
  rw [← hlink] at htrim
  have hreference : Reference.ofLink? view.source (trim isBlank link.toList) = some (Reference.cut (path ++ back')) := by
    rw [htrim, ofLink?_hostless (h.hostless hb')]
  have hpath := h.path_cut hb'
  have hne : (Reference.cut (path ++ back')).path ≠ "" := by
    rw [hpath]
    exact fun heq => h.ne_nil (by simpa using congrArg String.toList heq)
  exact ⟨_, hpath, hreference, reroot?_eq_some_iff.mpr ⟨_, hreference, hne, write_eq_linkTo view _⟩⟩

/-- A slash that only one of two paths of the same names has behind them tells them apart, unless it is the root. -/
theorem slashed_iff {names : List (List Char)} (hn : ∀ s ∈ names, IsName s) {slash dots : Prop} [Decidable slash]
    [Decidable dots] (hx : slash → ¬ dots) {back resolved : String}
    (hb : back = String.ofList (fromRoot names ++ if slash ∧ names ≠ [] then ['/'] else []))
    (hr : resolved = String.ofList (fromRoot names ++ if (slash ∨ dots) ∧ names ≠ [] then ['/'] else [])) :
    resolved = back ++ (if dots ∧ back ≠ "/" then "/" else "") ∧ (back = resolved ↔ ¬ (dots ∧ resolved ≠ "/")) := by
  -- At the root the slash of the path is the one that ends it.
  by_cases hnames : names = []
  · subst hnames
    have hb : back = "/" := by simpa [fromRoot] using hb
    have hr : resolved = "/" := by simpa [fromRoot] using hr
    simp [hb, hr]
  · obtain ⟨c, cs, hcs⟩ := List.exists_cons_of_ne_nil (intercalate_ne_nil hn hnames)
    have hne : ∀ tail, String.ofList (fromRoot names ++ tail) ≠ "/" := by
      intro tail heq
      have := congrArg String.toList heq
      simp [fromRoot, hcs] at this
    have hback : back ≠ "/" := hb ▸ hne _
    have hresolved : resolved ≠ "/" := hr ▸ hne _
    by_cases hd : dots
    · have hs : ¬ slash := fun h => hx h hd
      have hb' : back = String.ofList (fromRoot names) := by simpa [hs] using hb
      have hr' : resolved = back ++ "/" := by simpa [hd, hnames, hb', ← String.toList_inj] using hr
      have hother : back ≠ resolved := fun heq => by simp [← heq, ← String.toList_inj] at hr'
      rw [if_pos ⟨hd, hback⟩]
      exact ⟨hr', iff_of_false hother (not_not_intro ⟨hd, hresolved⟩)⟩
    · simp [hd, hb, hr]

theorem not_endsInDots {path : List Char} (hne : path ≠ []) (h : path.getLast? = some '/') : ¬ EndsInDots path := by
  rw [EndsInDots, (getLast?_eq_slash hne).mp h]
  simp

/-- **An ordinary link leads where a browser finds it, up to the slash behind dots.** Take a page of the web without empty
    segments in its path, under a clean base. A link by an ordinary path is rerooted, and the gateway asks the backend for
    the path that a browser finds for the link from the page's own address; only where the link ends in a dot segment, and
    not at the root, the gateway leaves out the slash at the end. -/
theorem ordinary_link_resolves {mount text address : String} {target : Target} {origin : Http.Origin} {source : Url}
    {link : String} (htarget : Target.ofPath mount text = .ok target) (hclean : clean target.base = target.base)
    (hsource : Url.ofText address = .ok source) (hhttp : source.scheme = "http")
    (hinner : ¬ ['/', '/'] <:+: source.path.toList) (hlink : IsOrdinaryPath (pathOf link.toList)) :
    let view := Forwarding.view origin target source
    let dots := EndsInDots (pathOf link.toList)
    ∃ reference rerooted place back resolved,
      Reference.ofLink? source (trim isBlank link.toList) = some reference ∧
      reroot? view link = some rerooted ∧ rerooted = view.linkTo place reference ∧
      Target.ofPath mount place = .ok back ∧ back.base = target.base ∧
      source.resolve link.toList = .ok resolved ∧ resolved.scheme = source.scheme ∧
      resolved.authority = source.authority ∧
      resolved.path = back.backendPath ++ (if dots ∧ back.backendPath ≠ "/" then "/" else "") ∧
      (back.backendPath = resolved.path ↔ ¬ (dots ∧ resolved.path ≠ "/")) := by
  intro view dots
  obtain ⟨segments, hs⟩ := goesThrough_ofChars hsource (Or.inl hhttp)
  obtain ⟨reference, hpath, hreference, hreroot⟩ := exists_reroot? view hlink
  obtain ⟨tail, hsplit, htail⟩ := exists_pathOf link.toList
  obtain ⟨resolved, hresolve, hscheme, hauthority, hroute⟩ := exists_resolve hs hlink htail
  rw [← hsplit] at hresolve
  have hnames := isName_namesFrom hs (pathOf link.toList)
  have hdenoted := backendPath_eq hs (pathOf link.toList)
  rw [← hpath] at hdenoted
  obtain ⟨back, hback, hbase, hbackend⟩ := ofPath_gatewayPath origin htarget hclean hnames hdenoted
  rw [hpath, String.toList_ofList] at hbackend
  exact ⟨reference, _, _, back, resolved, hreference, hreroot, rfl, hback, hbase, hresolve, hscheme, hauthority,
    slashed_iff hnames (not_endsInDots hlink.ne_nil) hbackend (path_resolved hs hinner hlink hroute)⟩

/-- From `/a/b/index.html` the link climbs to `/a`, and goes on to `/a/c/d`. -/
theorem ordinary_link_resolves_climbing :
    Target.ofPath "proxy" "/proxy/default/pod/nginx-1/8080/a/b/index.html" = .ok podTarget ∧
      clean podTarget.base = podTarget.base ∧ Url.ofText "http://10.1.2.3:8080/a/b/index.html" = .ok podPage ∧
      podPage.scheme = "http" ∧ ¬ ['/', '/'] <:+: podPage.path.toList ∧
      IsOrdinaryPath (pathOf "../c/./d?q=..#f".toList) ∧
      ∃ place back, Target.ofPath "proxy" place = .ok back ∧ back.base = podTarget.base ∧
        back.backendPath = "/a/c/d" := by
  have hinner : ¬ ['/', '/'] <:+: podPage.path.toList := by decide +kernel
  have hlink : IsOrdinaryPath (pathOf "../c/./d?q=..#f".toList) :=
    ⟨by decide +kernel, forall_mem (by decide +kernel), by decide +kernel⟩
  obtain ⟨-, -, place, back, resolved, -, -, -, hback, hbase, hresolve, -, -, -, hiff⟩ :=
    @ordinary_link_resolves _ _ _ _ ⟨"https", some "console.example.com", none⟩ _ _ ofPath_podTarget clean_podTarget
      ofText_podPage rfl hinner hlink
  have hpath : (podPage.resolve "../c/./d?q=..#f".toList).toOption.map Url.path = some "/a/c/d" := by decide +kernel
  rw [hresolve] at hpath
  refine ⟨ofPath_podTarget, clean_podTarget, ofText_podPage, rfl, hinner, hlink, place, back, hback, hbase, ?_⟩
  rw [hiff.mpr fun hdots => absurd hdots.1 (by decide +kernel)]
  exact Option.some.inj hpath

/-- A link that only climbs leads to a directory without its slash, so that not every ordinary link leads where a browser
    finds it. -/
theorem not_resolves_climb :
    ¬ ∀ (mount text address : String) (target : Target) (origin : Http.Origin) (source : Url)
      (link rerooted place : String) (reference : Reference) (back : Target) (resolved : Url),
      Target.ofPath mount text = .ok target → clean target.base = target.base →
      Url.ofText address = .ok source → source.scheme = "http" → ¬ ['/', '/'] <:+: source.path.toList →
      IsOrdinaryPath (pathOf link.toList) → reroot? (Forwarding.view origin target source) link = some rerooted →
      Reference.ofLink? source (trim isBlank link.toList) = some reference →
      rerooted = (Forwarding.view origin target source).linkTo place reference →
      Target.ofPath mount place = .ok back → source.resolve link.toList = .ok resolved →
      back.backendPath = resolved.path := by
  intro hall
  have hlink : IsOrdinaryPath (pathOf "..".toList) :=
    ⟨by decide +kernel, forall_mem (by decide +kernel), by decide +kernel⟩
  obtain ⟨resolved, hresolve, hpath⟩ : ∃ resolved, podPage.resolve "..".toList = .ok resolved ∧ resolved.path = "/a/" :=
    ⟨_, rfl, by decide +kernel⟩
  have hreroot : reroot? (Forwarding.view ⟨"https", some "console.example.com", none⟩ podTarget podPage) ".." =
      some "https://console.example.com/proxy/default/pod/nginx-1/8080/a" := by decide +kernel
  have hback : Target.ofPath "proxy" "/proxy/default/pod/nginx-1/8080/a" =
      .ok { podTarget with remainder := ["a"] } := by rfl
  have heq := hall _ _ _ _ _ _ _ _ _ ⟨"..", none, none⟩ _ _ ofPath_podTarget clean_podTarget ofText_podPage rfl
    (by decide +kernel) hlink hreroot (by decide +kernel) (by decide +kernel) hback hresolve
  rw [hpath] at heq
  exact absurd heq (by decide +kernel)

end Gateway.Link
