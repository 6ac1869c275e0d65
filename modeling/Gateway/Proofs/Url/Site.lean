import Gateway.Proofs.Path.Directories
import Gateway.Proofs.Text.Ascii
import Gateway.Proofs.Url.Resolution

/-! URLs on a site of the web. Behind the scheme stands the site, a host with perhaps a port, and it goes up to the first
    character that has no place in it. What follows has no say in the site, and the site none in what follows. -/

namespace Gateway.Url

open Gateway.Path Text

/-- A text that can be the site of a URL: visible characters that belong to no other part. -/
structure IsSiteText (site : List Char) : Prop where
  ne_nil : site ≠ []
  visible : ∀ c ∈ site, 0x20 < c.toNat
  apart : ∀ c ∈ site, c ∉ "/\\?#".toList

/-- What may follow a site: nothing, a path, a query or a fragment. -/
def IsBehindSite (rest : List Char) : Prop := ∀ c, rest.head? = some c → c = '/' ∨ c = '?' ∨ c = '#'

theorem IsBehindSite.visible {rest : List Char} (h : IsBehindSite rest) {c : Char} (hc : rest.head? = some c) :
    0x20 < c.toNat := by
  rcases h c hc with rfl | rfl | rfl <;> decide

theorem cutTail_append {front : List Char} (hq : '?' ∉ front) (hf : '#' ∉ front) (back : List Char) :
    cutTail true (front ++ back) = (front ++ (cutTail true back).1, (cutTail true back).2) := by
  unfold cutTail
  rw [cutAt_append hf]
  dsimp only
  rw [cutAt_append hq]

/-- Of what follows a site the path is nothing, or starts with a slash. -/
theorem head?_cutTail {rest : List Char} (h : IsBehindSite rest) {c : Char} (hc : (cutTail true rest).1.head? = some c) :
    c = '/' := by
  cases rest with
  | nil => cases hc
  | cons d rest =>
    rcases h d rfl with rfl | hmark
    · rw [← List.singleton_append, cutTail_append (by decide) (by decide)] at hc
      exact (Option.some.inj hc).symm
    · have hnone : (cutTail true (d :: rest)).1 = [] := cutAt_tail fun m hm => Option.some.inj hm ▸ hmark
      rw [hnone] at hc
      cases hc

section
variable {scheme : String} {site rest cs : List Char}

theorem mem_apart_of_mark {c : Char} (h : c ∈ "?#".toList) : c ∈ "/\\?#".toList := by
  have hall : ∀ d ∈ "?#".toList, d ∈ "/\\?#".toList := forall_mem (by decide)
  exact hall c h

theorem isSeparator_of_apart {c : Char} (h : c ∉ "/\\?#".toList) : isSeparator true c = false := by
  simp_all [isSeparator]

theorem IsSiteText.isSeparator {c : Char} (h : IsSiteText site) (hc : c ∈ site) : isSeparator true c = false :=
  isSeparator_of_apart (h.apart c hc)

theorem cutAuthority_site (h : IsSiteText site) (hr : ∀ c, rest.head? = some c → c = '/') :
    cutAuthority true (site ++ rest) = (site, rest) := by
  have hsite : ∀ c ∈ site, (!isSeparator true c) = true := fun c hc => by simp [h.isSeparator hc]
  have hrest : rest.takeWhile (!isSeparator true ·) = [] ∧ rest.dropWhile (!isSeparator true ·) = rest := by
    cases rest with
    | nil => exact ⟨rfl, rfl⟩
    | cons c rest =>
      obtain rfl := hr c rfl
      exact ⟨rfl, rfl⟩
  rw [cutAuthority, List.takeWhile_append_of_pos hsite, List.dropWhile_append_of_pos hsite, hrest.1, hrest.2,
    List.append_nil]

/-- What is read behind a scheme of the web and two slashes. -/
theorem readSpecial_site (h : IsSiteText site) (hr : IsBehindSite rest) :
    readSpecial scheme ('/' :: '/' :: (site ++ rest)) = (readAuthority scheme site).map fun authority =>
      { scheme, authority := some authority
        route := segmentsRoute (walk [] (cutSegments true (cutTail true rest).1.tail))
        query := (cutTail true rest).2.query, fragment := (cutTail true rest).2.fragment } := by
  have hcut : cutTail true ('/' :: '/' :: (site ++ rest)) =
      ('/' :: '/' :: (site ++ (cutTail true rest).1), (cutTail true rest).2) := by
    have hq : '?' ∉ '/' :: '/' :: site := by
      simpa using fun hmem => h.apart '?' hmem (by decide)
    have hf : '#' ∉ '/' :: '/' :: site := by
      simpa using fun hmem => h.apart '#' hmem (by decide)
    exact cutTail_append hq hf rest
  have hdrop : ('/' :: '/' :: (site ++ (cutTail true rest).1)).dropWhile (isSeparator true) =
      site ++ (cutTail true rest).1 :=
    dropWhile_append_of_head? h.ne_nil (fun c hc => h.isSeparator (List.mem_of_head? hc)) _
  unfold readSpecial
  rw [hcut]
  dsimp only
  rw [hdrop, cutAuthority_site h fun c hc => head?_cutTail hr hc]
  cases hread : readAuthority scheme site with
  | error e => rfl
  | ok authority => simp [bind, Except.bind, pure, Except.pure, Except.map, readSegments_eq_walk]

/-- So a text is read that writes a site and what follows it, once what does not count in it is left out. -/
theorem ofChars_site (hs : scheme = "http" ∨ scheme = "https") (h : IsSiteText site) (hr : IsBehindSite rest)
    (hcs : significant cs = scheme.toList ++ "://".toList ++ site ++ rest) :
    ofChars cs = (readAuthority scheme site).map fun authority =>
      { scheme, authority := some authority
        route := segmentsRoute (walk [] (cutSegments true (cutTail true rest).1.tail))
        query := (cutTail true rest).2.query, fragment := (cutTail true rest).2.fragment } := by
  have hscheme : scheme? (significant cs) = some (scheme, '/' :: '/' :: (site ++ rest)) := by
    rw [hcs]
    rcases hs with rfl | rfl <;> rfl
  rw [ofChars, hscheme, ← readSpecial_site h hr]
  rcases hs with rfl | rfl <;> rfl

theorem visible_site (hs : scheme = "http" ∨ scheme = "https") (h : IsSiteText site) :
    ∀ c ∈ scheme.toList ++ "://".toList ++ site, 0x20 < c.toNat := by
  have hfront : ∀ c ∈ scheme.toList ++ "://".toList, 0x20 < c.toNat := by
    rcases hs with rfl | rfl <;> exact forall_mem (by decide)
  intro c hc
  rcases List.mem_append.mp hc with hc | hc
  · exact hfront c hc
  · exact h.visible c hc

/-- What is read where a text writes a site alone. -/
theorem ofChars_site_alone (hs : scheme = "http" ∨ scheme = "https") (h : IsSiteText site) :
    ofChars (scheme.toList ++ "://".toList ++ site) = (readAuthority scheme site).map fun authority =>
      { scheme, authority := some authority, route := .segments [""], query := none, fragment := none } := by
  obtain ⟨rest, hsignificant, hhead⟩ := exists_significant_behind (by simp) (visible_site hs h)
    (show ∀ c : Char, [].head? = some c → 0x20 < c.toNat by simp)
  have hrest : rest = [] := List.head?_eq_none_iff.mp hhead
  rw [List.append_nil, hrest] at hsignificant
  rw [ofChars_site hs h (by simp [IsBehindSite]) hsignificant]
  rfl

end

/-! ### Paths on a site -/

/-- The segments that a browser finds in what follows a path. -/
def segmentsBehind (more : List Char) : List (List Char) := (cutSegments true (cutTail true more).1).tail

section
variable {segments : List (List Char)} {more : List Char}

theorem visible_of_escaped {c : Char} (h : pathSet c = false) : 0x20 < c.toNat := by
  refine Nat.lt_of_not_le fun hle => ?_
  have hset := forall_below (P := fun c => pathSet c = true) 0x21 (by decide +kernel) c (Nat.lt_succ_of_le hle)
  rw [h] at hset
  cases hset

/-- A path of settled segments on a site is visible. -/
theorem visible_fromRoot {scheme : String} {site : List Char} (hs : scheme = "http" ∨ scheme = "https")
    (hsite : IsSiteText site) (h : ∀ s ∈ segments, IsSettled s) :
    ∀ c ∈ scheme.toList ++ "://".toList ++ site ++ fromRoot segments, 0x20 < c.toNat := by
  intro c hc
  rcases List.mem_append.mp hc with hc | hc
  · exact visible_site hs hsite c hc
  · rcases mem_fromRoot hc with rfl | ⟨s, hmem, hc⟩
    · decide
    · exact visible_of_escaped ((h s hmem).escaped c hc)

theorem IsSettled.apart {segment : List Char} (h : IsSettled segment) {c : Char} (hc : c ∈ segment) :
    c ∉ "/\\?#".toList := by
  intro hmem
  rcases (by simpa using hmem : c = '/' ∨ c = '\\' ∨ c = '?' ∨ c = '#') with rfl | rfl | rfl | rfl
  · exact absurd (h.separator _ hc) (by decide)
  · exact absurd (h.separator _ hc) (by decide)
  · exact absurd (h.escaped _ hc) (by decide)
  · exact absurd (h.escaped _ hc) (by decide)

theorem cutSegments_fromRoot (hne : segments ≠ []) (h : ∀ s ∈ segments, ∀ c ∈ s, isSeparator true c = false) :
    cutSegments true (fromRoot segments) = [] :: segments := by
  rw [fromRoot, ← List.nil_append ('/' :: _), cutSegments_slash, cutSegments_intercalate hne h]
  rfl

/-- A walk through a path of settled segments goes on from them. -/
theorem walk_behind (hne : segments ≠ []) (h : ∀ s ∈ segments, IsSettled s) (hm : IsBehindSite more) :
    walk [] (cutSegments true (cutTail true (fromRoot segments ++ more)).1.tail) =
      walk segments (segmentsBehind more) := by
  have hmark : ∀ c ∈ "?#".toList, c ∉ fromRoot segments := by
    intro c hc hmem
    rcases mem_fromRoot hmem with rfl | ⟨s, hs, hcs⟩
    · exact absurd hc (by decide)
    · exact (h s hs).apart hcs (mem_apart_of_mark hc)
  have hseparator : ∀ s ∈ segments, ∀ c ∈ s, isSeparator true c = false := fun s hs => (h s hs).separator
  rw [cutTail_append (hmark '?' (by decide)) (hmark '#' (by decide)), ← List.nil_append segments,
    ← walk_settled_append h, List.nil_append]
  congr 1
  rw [segmentsBehind]
  cases hcut : (cutTail true more).1 with
  | nil =>
    rw [List.append_nil]
    show cutSegments true (['/'].intercalate segments) = segments ++ []
    rw [cutSegments_intercalate hne hseparator, List.append_nil]
  | cons c rest =>
    obtain rfl := head?_cutTail hm (by rw [hcut]; rfl)
    rw [← List.nil_append ('/' :: rest), cutSegments_slash [] rest]
    show cutSegments true (['/'].intercalate segments ++ '/' :: rest) = segments ++ cutSegments true rest
    rw [cutSegments_slash, cutSegments_intercalate hne hseparator]

/-- On a site that is read, a path of settled segments and what follows it are read as a walk that starts there. -/
theorem exists_url_behind {scheme : String} {site cs : List Char} {own : Url}
    (hs : scheme = "http" ∨ scheme = "https") (hsite : IsSiteText site)
    (hown : ofChars (scheme.toList ++ "://".toList ++ site) = .ok own) (hne : segments ≠ [])
    (h : ∀ s ∈ segments, IsSettled s) (hm : IsBehindSite more)
    (hcs : significant cs = scheme.toList ++ "://".toList ++ site ++ fromRoot segments ++ more) :
    ∃ url, ofChars cs = .ok url ∧ url.scheme = scheme ∧ url.authority = own.authority ∧
      url.GoesThrough (walk segments (segmentsBehind more)) := by
  rw [ofChars_site_alone hs hsite] at hown
  have hrest : IsBehindSite (fromRoot segments ++ more) := fun c hc =>
    Or.inl (by simpa [fromRoot, eq_comm] using hc)
  rw [ofChars_site hs hsite hrest (hcs.trans (List.append_assoc ..)), walk_behind hne h hm]
  cases hread : readAuthority scheme site with
  | error e =>
    rw [hread] at hown
    cases hown
  | ok authority =>
    rw [hread] at hown
    obtain rfl := Except.ok.inj hown
    have hfurther : ∀ s ∈ segmentsBehind more, ∀ c ∈ s, isSeparator true c = false := fun s hmem =>
      separator_of_mem_cutSegments (List.mem_of_mem_tail hmem)
    have hfull : walk segments (segmentsBehind more) ≠ [] := by
      rw [← List.nil_append segments, ← walk_settled_append h]
      exact walk_ne_nil (by simp [hne]) []
    exact ⟨_, rfl, rfl, rfl, rfl, hfull, isSettled_walk h hfurther⟩

end
end Gateway.Url
