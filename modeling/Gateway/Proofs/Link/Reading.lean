import Gateway.Link.Rerooting
import Gateway.Proofs.Url.Special
import Mathlib.Data.List.TakeWhile

/-! Reading links. A link with a scheme or a host is read as a URL. Any other is cut into path, query and fragment, and
    does not leave the page if there is no path. Whatever has a reference with a path is rerooted. -/

namespace Gateway.Link

open Text

/-- A link with a scheme or a host. -/
def IsHosted (text : List Char) : Prop := (Url.scheme? text).isSome = true ∨ "//".toList <+: text

/-- What a link with a scheme or a host is read as. -/
def absolute (source : Url) (text : List Char) : Except UrlError Url :=
  if "//".toList <+: text then Url.ofChars (source.scheme.toList ++ ':' :: text) else Url.ofChars text

theorem exists_ofChars_of_absolute {source url : Url} {text : List Char} (h : absolute source text = .ok url) :
    ∃ cs, Url.ofChars cs = .ok url := by
  unfold absolute at h
  split at h <;> exact ⟨_, h⟩

theorem absolute_tail (source : Url) {text : List Char} (h : IsTail text) : absolute source text = .error .relative := by
  have hhostless : ¬ "//".toList <+: text := by
    rintro ⟨rest, rfl⟩
    exact absurd (h '/' rfl) (by decide)
  rw [absolute, if_neg hhostless, Url.ofChars_tail h]

/-- A URL of the web refers to a site just if it is on it. -/
theorem ofUrl?_eq_some_iff {source url : Url} {reference : Reference} :
    Reference.ofUrl? source url = some reference ↔ (url.scheme = "http" ∨ url.scheme = "https") ∧
      (∃ site, url.site? = some site ∧ source.site? = some site) ∧ ⟨url.path, url.query, url.fragment⟩ = reference := by
  unfold Reference.ofUrl?
  by_cases hscheme : url.scheme = "http" ∨ url.scheme = "https"
  · cases url.site? with
    | none => simp [hscheme]
    | some site =>
      cases source.site? with
      | none => simp [hscheme]
      | some own => by_cases hsite : site = own <;> simp [hsite, eq_comm]
  · simp [hscheme]

theorem path_cut (text : List Char) :
    (Reference.cut text).path = String.ofList (text.takeWhile fun c => c != '?' && c != '#') := by
  simp only [Reference.cut, cutAt_front, List.takeWhile_takeWhile, Bool.decide_and, Bool.decide_eq_true]

section
variable {source : Url} {text : List Char}

theorem path_cut_eq_empty_iff : (Reference.cut text).path = "" ↔ IsTail text := by
  rw [path_cut]
  cases text with
  | nil => simp [IsTail]
  | cons c text =>
    by_cases hq : c = '?' <;> by_cases hf : c = '#' <;> simp_all [IsTail]

theorem ofLink?_hosted (h : IsHosted text) :
    Reference.ofLink? source text = (absolute source text).toOption.bind (Reference.ofUrl? source) := by
  unfold Reference.ofLink? absolute
  by_cases hhost : "//".toList <+: text
  · have hscheme : ¬ (Url.scheme? text).isSome = true := by
      obtain ⟨rest, rfl⟩ := hhost
      rw [show "//".toList ++ rest = '/' :: '/' :: rest from rfl, Url.scheme?_cons (by decide)]
      exact Bool.false_ne_true
    rw [if_neg hscheme, if_pos (List.isPrefixOf_iff_prefix.mpr hhost), if_pos hhost]
  · rw [if_pos (h.resolve_right hhost), if_neg hhost]

theorem ofLink?_hostless (h : ¬ IsHosted text) : Reference.ofLink? source text = some (Reference.cut text) := by
  obtain ⟨hscheme, hhost⟩ := not_or.mp h
  rw [Reference.ofLink?, if_neg hscheme, if_neg (mt List.isPrefixOf_iff_prefix.mp hhost)]

theorem not_isTail_of_hosted (h : IsHosted text) : ¬ IsTail text := by
  intro htail
  rcases h with hscheme | ⟨rest, rfl⟩
  · cases text with
    | nil => cases hscheme
    | cons c text =>
      have hmark : c.isAlpha = false := by rcases htail c rfl with rfl | rfl <;> decide
      rw [Url.scheme?_cons hmark] at hscheme
      cases hscheme
  · exact absurd (htail '/' rfl) (by decide)

end

/-- The marks in front of query and fragment are the first that follows a place. -/
theorem isTail_marks (reference : Reference) : IsTail ((reference.query.map ("?" ++ ·)).getD "" ++
    (reference.fragment.map ("#" ++ ·)).getD "").toList := by
  intro c hc
  cases hq : reference.query with
  | some query => exact Or.inl (by simpa [hq, eq_comm] using hc)
  | none =>
    cases hf : reference.fragment with
    | some fragment => exact Or.inr (by simpa [hq, hf, eq_comm] using hc)
    | none => simp [hq, hf] at hc

/-- Without two slashes at its start a path does not start with a host, whatever follows it. -/
theorem hostless_append {path back : List Char} (hp : ¬ "//".toList <+: path) (hb : IsTail back) (hne : path ≠ []) :
    ¬ "//".toList <+: path ++ back := by
  rintro ⟨rest, hrest⟩
  have hrest : '/' :: '/' :: rest = path ++ back := hrest
  match path, hp, hrest with
  | [], _, _ => exact hne rfl
  | [first], _, hrest =>
    have hback : back = '/' :: rest := ((List.cons.inj hrest).2).symm
    rcases hb '/' (by rw [hback]; rfl) with hc | hc <;> exact absurd hc (by decide)
  | first :: second :: path, hp, hrest =>
    obtain ⟨rfl, htail⟩ := List.cons.inj hrest
    obtain ⟨rfl, -⟩ := List.cons.inj htail
    exact hp ⟨path, rfl⟩

/-- A link is rerooted if it has a reference that names a path. -/
theorem reroot?_eq_some_iff {view : View} {link rerooted : String} :
    reroot? view link = some rerooted ↔ ∃ reference,
      Reference.ofLink? view.source (trim isBlank link.toList) = some reference ∧ reference.path ≠ "" ∧
        write view reference = rerooted := by
  unfold reroot?
  generalize trim isBlank link.toList = text
  dsimp only
  split
  · rename_i hmark
    have htail : IsTail text := by
      rintro c hc
      rcases hmark with rfl | hmark
      · cases hc
      · exact Or.inr (Option.some.inj (hc.symm.trans hmark))
    rw [ofLink?_hostless fun h => not_isTail_of_hosted h htail]
    simp [path_cut_eq_empty_iff, htail]
  · cases hreference : Reference.ofLink? view.source text with
    | none => simp
    | some reference =>
      by_cases hpath : reference.path = "" <;> simp [hpath]

theorem isSome_reroot?_iff (view : View) (link : String) :
    (reroot? view link).isSome = true ↔ ∃ reference,
      Reference.ofLink? view.source (trim isBlank link.toList) = some reference ∧ reference.path ≠ "" := by
  simp only [Option.isSome_iff_exists, reroot?_eq_some_iff]
  exact ⟨fun ⟨_, reference, hreference, hpath, _⟩ => ⟨reference, hreference, hpath⟩,
    fun ⟨reference, hreference, hpath⟩ => ⟨_, reference, hreference, hpath, rfl⟩⟩

end Gateway.Link
