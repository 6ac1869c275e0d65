import Gateway.Proofs.Link.Following
import Gateway.Proofs.Url.Web

/-! The links that are a page's own. A link without a scheme and a host is, unless it stays on the page; and so is a
    link to the host and the port of the page. But ports are compared as they are written, and those that schemes imply
    are not: under the other scheme of the web a link to another port of the host is taken for the page's own, and a
    link to the same port may not be. -/

namespace Gateway.Link

open Text

/-- What counts as the port of the page. Under the scheme of the page it is the port that a link leads to; under the
    other scheme the two ports that the schemes imply count as one, and neither of them as a port that is kept. -/
def SamePort (source url : Url) : Prop :=
  if url.scheme = source.scheme then url.effectivePort = source.effectivePort
  else (url.port? = none ∧ source.port? = none) ∨
    (url.effectivePort = source.effectivePort ∧ url.port? ≠ none ∧ source.port? ≠ none)

/-- The port of a link is mistaken: it is another one and counts as that of the page, or is the same and does not. -/
def MistakesPort (source url : Url) : Prop :=
  url.scheme ≠ source.scheme ∧ ((url.port? = none ∧ source.port? = none) ∨
    (url.effectivePort = source.effectivePort ∧ (url.port? = none ∨ source.port? = none)))

section
variable {source url : Url} (hs : source.IsWeb) (hu : url.IsWeb)
include hs hu

theorem port?_eq_iff : url.port? = source.port? ↔ SamePort source url := by
  unfold SamePort Url.effectivePort
  cases hpu : url.port? with
  | none =>
    cases hps : source.port? with
    | none => split <;> simp_all
    | some port =>
      have := hs.port?_ne_default hps
      split <;> simp_all
  | some port =>
    cases hps : source.port? with
    | none =>
      have := (hu.port?_ne_default hpu).symm
      split <;> simp_all
    | some port' => split <;> simp_all

theorem defaultPort?_ne (h : url.scheme ≠ source.scheme) :
    Url.defaultPort? url.scheme ≠ Url.defaultPort? source.scheme := by
  rcases hs.scheme with hs | hs <;> rcases hu.scheme with hu | hu <;> simp_all [Url.defaultPort?]

/-- The port of the page is told from others but where it is mistaken. -/
theorem samePort_iff :
    (SamePort source url ↔ url.effectivePort = source.effectivePort) ↔ ¬ MistakesPort source url := by
  unfold SamePort MistakesPort
  by_cases hscheme : url.scheme = source.scheme
  · simp [hscheme]
  · have hdefault := defaultPort?_ne hs hu hscheme
    unfold Url.effectivePort
    cases hpu : url.port? <;> cases hps : source.port? <;> simp_all

end

/-- A link without scheme and host that names a path. -/
structure IsBare (text : List Char) : Prop where
  schemeless : Url.scheme? text = none
  hostless : ¬ "//".toList <+: text
  path : text.takeWhile (fun c => c != '?' && c != '#') ≠ []

/-- A URL on the site of a page. -/
structure IsOwn (source url : Url) : Prop where
  scheme : url.scheme = "http" ∨ url.scheme = "https"
  host : url.hostText? = source.hostText?
  port : url.effectivePort = source.effectivePort

structure SharesSite (source url : Url) : Prop where
  scheme : url.scheme = "http" ∨ url.scheme = "https"
  host : url.hostText? = source.hostText?
  port : SamePort source url

section
variable {source url : Url} (hs : source.IsWeb)
include hs

/-- The links to the site of a page refer to something on it. -/
theorem exists_ofUrl?_iff {cs : List Char} (hu : Url.ofChars cs = .ok url) :
    (∃ reference, Reference.ofUrl? source url = some reference ∧ reference.path ≠ "") ↔ SharesSite source url := by
  simp only [ofUrl?_eq_some_iff]
  constructor
  · rintro ⟨reference, ⟨hscheme, ⟨site, hsite, hown⟩, -⟩, -⟩
    have hweb := Url.isWeb_of_ofChars hu hscheme
    obtain ⟨hhost, hport⟩ := (hweb.site?_eq_iff hs).mp (hsite.trans hown.symm)
    exact ⟨hscheme, hhost, (port?_eq_iff hs hweb).mp hport⟩
  · rintro ⟨hscheme, hhost, hport⟩
    have hweb := Url.isWeb_of_ofChars hu hscheme
    obtain ⟨site, hsite⟩ := hweb.exists_site
    have hown := (hweb.site?_eq_iff hs).mpr ⟨hhost, (port?_eq_iff hs hweb).mpr hport⟩
    exact ⟨_, ⟨hscheme, ⟨site, hsite, hown ▸ hsite⟩, rfl⟩, hweb.path_ne_empty⟩

theorem exists_sharesSite_iff (text : List Char) :
    (∃ reference, (absolute source text).toOption.bind (Reference.ofUrl? source) = some reference ∧
      reference.path ≠ "") ↔ ∃ url, absolute source text = .ok url ∧ SharesSite source url := by
  cases hread : absolute source text with
  | error e => simp [Except.toOption]
  | ok url =>
    obtain ⟨cs, hcs⟩ := exists_ofChars_of_absolute hread
    simp [Except.toOption, exists_ofUrl?_iff hs hcs]

end

theorem isBare_iff {text : List Char} : IsBare text ↔ ¬ IsHosted text ∧ ¬ IsTail text := by
  rw [← path_cut_eq_empty_iff, path_cut]
  constructor
  · rintro ⟨hscheme, hhost, hpath⟩
    exact ⟨not_or.mpr ⟨by simp [hscheme], hhost⟩, by simpa using hpath⟩
  · rintro ⟨hhosted, hpath⟩
    obtain ⟨hscheme, hhost⟩ := not_or.mp hhosted
    exact ⟨by simpa using hscheme, hhost, by simpa using hpath⟩

/-- What counts as the site of a page is its site but for a mistaken port. -/
theorem sharesSite_iff_isOwn {source url : Url} {cs : List Char} (hs : source.IsWeb) (hu : Url.ofChars cs = .ok url) :
    (SharesSite source url ↔ IsOwn source url) ↔ ¬ ((url.scheme = "http" ∨ url.scheme = "https") ∧
      url.hostText? = source.hostText? ∧ MistakesPort source url) := by
  by_cases hsite : (url.scheme = "http" ∨ url.scheme = "https") ∧ url.hostText? = source.hostText?
  · obtain ⟨hscheme, hhost⟩ := hsite
    have hshares : SharesSite source url ↔ SamePort source url := ⟨fun h => h.port, fun h => ⟨hscheme, hhost, h⟩⟩
    have howns : IsOwn source url ↔ url.effectivePort = source.effectivePort :=
      ⟨fun h => h.port, fun h => ⟨hscheme, hhost, h⟩⟩
    rw [hshares, howns, samePort_iff hs (Url.isWeb_of_ofChars hu hscheme)]
    simp [hscheme, hhost]
  · have hshares : ¬ SharesSite source url := fun h => hsite ⟨h.scheme, h.host⟩
    have howns : ¬ IsOwn source url := fun h => hsite ⟨h.scheme, h.host⟩
    exact iff_of_true (iff_of_false hshares howns) fun h => hsite ⟨h.1, h.2.1⟩

/-- A link is rerooted if it is bare, or leads to what counts as the site of the page. -/
theorem isSome_reroot?_iff_sharesSite {view : View} (hs : view.source.IsWeb) (link : String) :
    let text := trim isBlank link.toList
    (reroot? view link).isSome = true ↔
      IsBare text ∨ ∃ url, absolute view.source text = .ok url ∧ SharesSite view.source url := by
  intro text
  rw [isSome_reroot?_iff, isBare_iff]
  by_cases hhosted : IsHosted text
  · rw [ofLink?_hosted hhosted, exists_sharesSite_iff hs]
    simp [hhosted]
  · rw [ofLink?_hostless hhosted]
    by_cases htail : IsTail text
    · simp [hhosted, htail, path_cut_eq_empty_iff, absolute_tail]
    · simp [hhosted, htail, path_cut_eq_empty_iff]

/-- **The links that are a page's own.** Take a page of the web. A link without scheme and host is rerooted if it names
    a path, and any other if it leads over the web to the host of the page and to what counts as its port. So just the
    page's own links are rerooted, unless the port of a link is mistaken. -/
theorem rerooted_iff_own {address : String} {view : View} (hsource : Url.ofText address = .ok view.source)
    (hscheme : view.source.scheme = "http" ∨ view.source.scheme = "https") (link : String) :
    let text := trim isBlank link.toList
    ((reroot? view link).isSome = true ↔
      IsBare text ∨ ∃ url, absolute view.source text = .ok url ∧ SharesSite view.source url) ∧
    (((reroot? view link).isSome = true ↔
        IsBare text ∨ ∃ url, absolute view.source text = .ok url ∧ IsOwn view.source url) ↔
      IsBare text ∨ ¬ ∃ url, absolute view.source text = .ok url ∧ (url.scheme = "http" ∨ url.scheme = "https") ∧
        url.hostText? = view.source.hostText? ∧ MistakesPort view.source url) := by
  intro text
  have hs := Url.isWeb_of_ofChars hsource hscheme
  have hrerooted : (reroot? view link).isSome = true ↔ _ := isSome_reroot?_iff_sharesSite hs link
  refine ⟨hrerooted, ?_⟩
  rw [hrerooted]
  by_cases hbare : IsBare text
  · simp [text, hbare]
  cases hread : absolute view.source text with
  | error e => simp [text, hbare]
  | ok url =>
    obtain ⟨cs, hcs⟩ := exists_ofChars_of_absolute hread
    simpa [text, hbare, hread] using sharesSite_iff_isOwn hs hcs

/-- A link under the other scheme leads to the port of the page, which neither scheme implies. -/
theorem rerooted_iff_own_other_scheme :
    Url.ofText "http://10.1.2.3:8080/a/b/index.html" = .ok podView.source ∧ podView.source.scheme = "http" ∧
      (reroot? podView " https://10.1.2.3:8080/x").isSome = true := by
  have hread : absolute podView.source (trim isBlank " https://10.1.2.3:8080/x".toList) =
      .ok ⟨"https", some ⟨none, .ipv4 ⟨167838211⟩, some 8080⟩, .segments ["x"], none, none⟩ :=
    eq_ok_of_toOption (by decide +kernel)
  have hshares : SharesSite podView.source
      ⟨"https", some ⟨none, .ipv4 ⟨167838211⟩, some 8080⟩, .segments ["x"], none, none⟩ :=
    ⟨Or.inr rfl, rfl, Or.inr ⟨rfl, by decide, by decide⟩⟩
  have hown := (@rerooted_iff_own _ podView ofText_podPage (Or.inl rfl) " https://10.1.2.3:8080/x").1
  exact ⟨ofText_podPage, rfl, hown.mpr (Or.inr ⟨_, hread, hshares⟩)⟩

/-- A page whose address leaves its port to the scheme. -/
def portlessPage : Url := ⟨"http", some ⟨none, .ipv4 ⟨167838211⟩, none⟩, .segments ["a", "index.html"], none, none⟩

def portlessView : View := ⟨"https", some "console.example.com", "/proxy/default/pod/nginx-1/80", portlessPage⟩

/-- A link under the other scheme that leaves its port to the scheme leads to another port, but is rerooted. So not just
    a page's own links are. -/
theorem not_own_portless :
    ¬ ∀ (address : String) (view : View) (link : String), Url.ofText address = .ok view.source →
      (view.source.scheme = "http" ∨ view.source.scheme = "https") →
      ((reroot? view link).isSome = true ↔ IsBare (trim isBlank link.toList) ∨
        ∃ url, absolute view.source (trim isBlank link.toList) = .ok url ∧ IsOwn view.source url) := by
  intro hall
  have hsource : Url.ofText "http://10.1.2.3/a/index.html" = .ok portlessView.source :=
    Url.ofText_eq_ok (by decide +kernel)
  have hsome : (reroot? portlessView "https://10.1.2.3/x").isSome = true := by decide +kernel
  rcases (hall _ portlessView _ hsource (Or.inl rfl)).mp hsome with hbare | ⟨url, hread, hown⟩
  · exact absurd hbare.schemeless (by decide +kernel)
  · have hport : (absolute portlessView.source (trim isBlank "https://10.1.2.3/x".toList)).toOption.map
        Url.effectivePort = some (some 443) := by decide +kernel
    rw [hread] at hport
    have hsame := hown.port.symm.trans (Option.some.inj hport)
    exact absurd hsame (by decide)

end Gateway.Link
