import Gateway.Proofs.Url.Site
import Gateway.Proofs.Url.Web
import Gateway.Text.Blank

/-! URLs of the web, written out. Their text is the scheme, the authority behind two slashes, and what they are on their
    own site. All of the latter is shown, since what is not has been escaped, and no part of it holds the mark of a part
    behind it. -/

namespace Gateway.Url

open Text

/-- A character of ASCII that has ink. -/
def IsShown (c : Char) : Prop := 0x20 < c.toNat ∧ c.toNat < 0x7f

instance (c : Char) : Decidable (IsShown c) := inferInstanceAs (Decidable (_ ∧ _))

section
variable {c : Char}

theorem IsShown.not_isBlank (h : IsShown c) : isBlank c = false := by
  obtain ⟨hlow, hhigh⟩ := h
  simp [isBlank]
  omega

theorem isShown_of_controlSet (hc : controlSet c = false) (hb : c ≠ '\u0020') : IsShown c := by
  simp only [controlSet, Bool.or_eq_false_iff, decide_eq_false_iff_not] at hc
  have hblank : c.toNat ≠ 0x20 := fun h => hb (Char.toNat_inj.mp h)
  constructor <;> omega

theorem isShown_of_fragmentSet (h : fragmentSet c = false) : IsShown c := by
  obtain ⟨hc, hmarks⟩ := Bool.or_eq_false_iff.mp h
  refine isShown_of_controlSet hc ?_
  rintro rfl
  exact absurd hmarks (by decide)

theorem isShown_of_pathSet (h : pathSet c = false) : IsShown c := isShown_of_fragmentSet (Bool.or_eq_false_iff.mp h).1

theorem isShown_of_specialQuerySet (h : specialQuerySet c = false) : IsShown c := by
  obtain ⟨hc, hmarks⟩ := Bool.or_eq_false_iff.mp (Bool.or_eq_false_iff.mp h).1
  refine isShown_of_controlSet hc ?_
  rintro rfl
  exact absurd hmarks (by decide)

/-- What is escaped by a set that spares no other characters is shown. -/
theorem isShown_of_mem_escape {set : Char → Bool} {cs : List Char} (hset : ∀ c, set c = false → IsShown c)
    (h : c ∈ escape set cs) : IsShown c := by
  rcases mem_escape h with ⟨-, hc⟩ | hescape
  · exact hset c hc
  · exact isShown_of_pathSet (pathSet_of_isEscapeChar hescape)

/-- The mark of a fragment does not come out of an escape. -/
theorem not_hash_mem_escape {set : Char → Bool} {cs : List Char} (hset : set '#' = true) : '#' ∉ escape set cs := by
  intro h
  rcases mem_escape h with ⟨-, hc⟩ | hescape
  · rw [hset] at hc
    cases hc
  · exact absurd hescape (by decide)

end

/-- A URL as it is written on its own site. -/
def withoutSite (url : Url) : String :=
  url.path ++ (url.query.map ("?" ++ ·)).getD "" ++ (url.fragment.map ("#" ++ ·)).getD ""

/-- A URL as it is written under its own scheme. -/
def withoutScheme (url : Url) : String := (url.authority.map Authority.text).getD "" ++ url.withoutSite

namespace IsWeb
variable {url : Url} (h : url.IsWeb)
include h

theorem mem_path {c : Char} (hc : c ∈ url.path.toList) : IsShown c ∧ c ∉ "?#".toList := by
  obtain ⟨segments, hpath⟩ := h.path
  rw [hpath.path, String.toList_ofList] at hc
  rcases Path.mem_fromRoot hc with rfl | ⟨s, hs, hcs⟩
  · exact ⟨by decide, by decide⟩
  · have hsettled := hpath.settled s hs
    exact ⟨isShown_of_pathSet (hsettled.escaped c hcs), fun hmark => hsettled.apart hcs (mem_apart_of_mark hmark)⟩

theorem mem_query {query : String} (hq : url.query = some query) {c : Char} (hc : c ∈ query.toList) :
    IsShown c ∧ c ≠ '#' := by
  obtain ⟨cs, rfl⟩ := h.query query hq
  rw [String.toList_ofList] at hc
  refine ⟨isShown_of_mem_escape (fun _ => isShown_of_specialQuerySet) hc, ?_⟩
  rintro rfl
  exact not_hash_mem_escape (by decide) hc

theorem mem_fragment {fragment : String} (hf : url.fragment = some fragment) {c : Char} (hc : c ∈ fragment.toList) :
    IsShown c := by
  obtain ⟨cs, rfl⟩ := h.fragment fragment hf
  rw [String.toList_ofList] at hc
  exact isShown_of_mem_escape (fun _ => isShown_of_fragmentSet) hc

theorem mem_withoutSite {c : Char} (hc : c ∈ url.withoutSite.toList) : IsShown c := by
  simp only [withoutSite, String.toList_append, List.mem_append] at hc
  rcases hc with (hc | hc) | hc
  · exact (h.mem_path hc).1
  · cases hq : url.query with
    | none => simp [hq] at hc
    | some query =>
      rcases (by simpa [hq] using hc : c = '?' ∨ c ∈ query.toList) with rfl | hc
      · decide
      · exact (h.mem_query hq hc).1
  · cases hf : url.fragment with
    | none => simp [hf] at hc
    | some fragment =>
      rcases (by simpa [hf] using hc : c = '#' ∨ c ∈ fragment.toList) with rfl | hc
      · decide
      · exact h.mem_fragment hf hc

theorem text_eq : url.text = url.scheme ++ ":" ++ url.withoutScheme := by
  obtain ⟨a, ha, -⟩ := h.authority
  simp [text, withoutScheme, withoutSite, ha, String.append_assoc, toString]

theorem exists_authority : ∃ rest, url.withoutScheme.toList = '/' :: '/' :: (rest ++ url.withoutSite.toList) := by
  obtain ⟨a, ha, -⟩ := h.authority
  refine ⟨((a.userinfo.map Userinfo.text).getD "").toList ++ (a.host.text.toList ++
    ((a.port.map fun port => s!":{port}").getD "").toList), ?_⟩
  simp [withoutScheme, ha, Authority.text, toString]

theorem head?_withoutSite : url.withoutSite.toList.head? = some '/' := by
  obtain ⟨segments, hpath⟩ := h.path
  obtain ⟨rest, hrest⟩ := List.head?_eq_some_iff.mp (head?_path hpath.route hpath.ne_nil)
  simp [withoutSite, hrest]

end IsWeb
end Gateway.Url
