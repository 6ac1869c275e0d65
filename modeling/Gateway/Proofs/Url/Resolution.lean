import Gateway.Proofs.Url.Segments
import Gateway.Proofs.Url.Special

/-! Pages of the web, and the links on them that bring neither a scheme nor a host. The path of a page goes through settled
    segments, whether the page was read or a link was resolved. A link of a path alone goes through its own segments from
    the root, or from where the last segment of the page stands. -/

namespace Gateway.Url

open Gateway.Path

/-- The path of a URL goes through settled segments. -/
structure GoesThrough (url : Url) (segments : List (List Char)) : Prop where
  route : url.route = segmentsRoute segments
  ne_nil : segments ≠ []
  settled : ∀ s ∈ segments, IsSettled s

namespace GoesThrough
variable {url : Url} {segments : List (List Char)}

theorem path (h : url.GoesThrough segments) : url.path = String.ofList (fromRoot segments) :=
  path_of_segments h.route h.ne_nil

theorem pieces (h : url.GoesThrough segments) : url.route.pieces = segments := by
  rw [h.route, pieces_segmentsRoute]

theorem slash (h : url.GoesThrough segments) : ∀ s ∈ segments, '/' ∉ s := fun s hs => (h.settled s hs).slash

end GoesThrough

theorem walk_ne_nil {segments : List (List Char)} (h : segments ≠ []) (place : List (List Char)) :
    walk place segments ≠ [] := by
  simpa [walk] using takeSegments_ne_nil h place.reverse

/-- A walk from settled segments leads through settled segments. -/
theorem goesThrough_walk {url : Url} {place segments : List (List Char)} (hp : ∀ s ∈ place, IsSettled s)
    (hs : ∀ s ∈ segments, ∀ c ∈ s, isSeparator true c = false) (hne : segments ≠ [])
    (hr : url.route = segmentsRoute (walk place segments)) : url.GoesThrough (walk place segments) where
  route := hr
  ne_nil := walk_ne_nil hne place
  settled := isSettled_walk hp hs

theorem goesThrough_readSpecial {scheme : String} {cs : List Char} {url : Url} (h : readSpecial scheme cs = .ok url) :
    url.scheme = scheme ∧ ∃ segments, url.GoesThrough segments := by
  unfold readSpecial at h
  simp only [bind, Except.bind, pure, Except.pure] at h
  split at h
  · cases h
  · obtain rfl := Except.ok.inj h
    exact ⟨rfl, _, goesThrough_walk (show ∀ s ∈ [], IsSettled s by simp) (fun _ => separator_of_mem_cutSegments)
      (cutSegments_ne_nil true _) rfl⟩

theorem scheme_readOther {scheme : String} {cs : List Char} {url : Url} (h : readOther scheme cs = .ok url) :
    url.scheme = scheme := by
  unfold readOther at h
  simp only [bind, Except.bind, pure, Except.pure] at h
  split at h
  · split at h
    · cases h
    · exact (Except.ok.inj h) ▸ rfl
  · exact (Except.ok.inj h) ▸ rfl
  · exact (Except.ok.inj h) ▸ rfl

theorem scheme_readFile {cs : List Char} {url : Url} (h : readFile cs = .ok url) : url.scheme = "file" := by
  unfold readFile at h
  simp only [bind, Except.bind, pure, Except.pure] at h
  split at h
  · split at h
    · split at h
      · exact (Except.ok.inj h) ▸ rfl
      · split at h
        · exact (Except.ok.inj h) ▸ rfl
        · split at h
          · cases h
          · split at h <;> exact (Except.ok.inj h) ▸ rfl
    · split at h <;> exact (Except.ok.inj h) ▸ rfl
  · exact (Except.ok.inj h) ▸ rfl
  · exact (Except.ok.inj h) ▸ rfl

theorem exists_readSpecial {cs : List Char} {url : Url} (h : ofChars cs = .ok url)
    (hs : url.scheme = "http" ∨ url.scheme = "https") : ∃ rest, readSpecial url.scheme rest = .ok url := by
  unfold ofChars at h
  split at h
  · cases h
  · rename_i scheme rest _
    split at h
    · rw [scheme_readFile h] at hs
      exact absurd hs (by decide)
    · split at h
      · exact ⟨rest, (goesThrough_readSpecial h).1 ▸ h⟩
      · rename_i hspecial
        rw [scheme_readOther h] at hs
        rcases hs with rfl | rfl <;> exact absurd (by decide) hspecial

/-- What is read as a URL of the web goes through settled segments. -/
theorem goesThrough_ofChars {cs : List Char} {url : Url} (h : ofChars cs = .ok url)
    (hs : url.scheme = "http" ∨ url.scheme = "https") : ∃ segments, url.GoesThrough segments := by
  obtain ⟨rest, hread⟩ := exists_readSpecial h hs
  exact (goesThrough_readSpecial hread).2

section
variable {page url : Url} {segments : List (List Char)}

theorem goesThrough_resolveRelative {cs : List Char} (hp : page.GoesThrough segments)
    (h : resolveRelative page cs = .ok url) : ∃ segments, url.GoesThrough segments := by
  unfold resolveRelative at h
  simp only at h
  split at h
  · obtain rfl := Except.ok.inj h
    exact ⟨segments, hp.route, hp.ne_nil, hp.settled⟩
  · split at h
    · split at h
      · exact (goesThrough_readSpecial h).2
      · obtain rfl := Except.ok.inj h
        exact ⟨_, goesThrough_walk (show ∀ s ∈ [], IsSettled s by simp) (fun _ => separator_of_mem_cutSegments)
          (cutSegments_ne_nil true _) rfl⟩
    · obtain rfl := Except.ok.inj h
      have hplace : ∀ s ∈ page.route.pieces.dropLast, IsSettled s := by
        intro s hs
        rw [hp.pieces] at hs
        exact hp.settled s (List.dropLast_subset _ hs)
      exact ⟨_, goesThrough_walk hplace (fun _ => separator_of_mem_cutSegments) (cutSegments_ne_nil true _) rfl⟩

/-- What a link on a page of the web stands for goes through settled segments, if it is of the web too. -/
theorem goesThrough_resolve {link : List Char} (hp : page.GoesThrough segments)
    (h : page.resolve link = .ok url) (hs : url.scheme = "http" ∨ url.scheme = "https") :
    ∃ segments, url.GoesThrough segments := by
  unfold resolve at h
  split at h
  · split at h
    · exact goesThrough_resolveRelative hp h
    · exact goesThrough_ofChars h hs
  · exact goesThrough_resolveRelative hp h

end

end Gateway.Url
