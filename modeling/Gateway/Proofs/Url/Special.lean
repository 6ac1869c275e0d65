import Gateway.Proofs.Results
import Gateway.Proofs.Text.Cutting
import Gateway.Url.Reading

/-! URLs under a scheme that browsers know have a path of segments, and there is always one of them, so that the path
    is rooted. -/

namespace Gateway.Url

/-- The last segment of a path is taken in some form, whatever it is. -/
theorem takeSegments_ne_nil {segments : List (List Char)} (h : segments ≠ []) (kept : List (List Char)) :
    takeSegments kept segments ≠ [] := by
  induction segments generalizing kept with
  | nil => exact absurd rfl h
  | cons segment rest ih =>
    by_cases hrest : rest = []
    · subst hrest
      cases hd : dotSegment? segment with
      | none => simp [takeSegments, hd]
      | some d => cases d <;> simp [takeSegments, hd]
    · rw [takeSegments]
      exact ih hrest _

theorem readSegments_ne_nil (special : Bool) (cs : List Char) : readSegments special cs ≠ [] := by
  simpa [readSegments] using takeSegments_ne_nil (List.splitOn_ne_nil '/' _) []

theorem head?_path {url : Url} {segments : List (List Char)} (hr : url.route = segmentsRoute segments)
    (hne : segments ≠ []) : url.path.toList.head? = some '/' := by
  obtain ⟨first, rest, rfl⟩ := List.exists_cons_of_ne_nil hne
  simp [path, hr, segmentsRoute, String.join_cons]

theorem readSpecial_inv {scheme : String} {cs : List Char} {url : Url} (h : readSpecial scheme cs = .ok url) :
    url.scheme = scheme ∧ url.path.toList.head? = some '/' := by
  unfold readSpecial at h
  simp only [bind, Except.bind, pure, Except.pure] at h
  split at h
  · cases h
  · obtain rfl := Except.ok.inj h
    exact ⟨rfl, head?_path rfl (readSegments_ne_nil _ _)⟩

/-- Of the characters that are left out only blanks and controls are meant. -/
theorem counts_of_visible {c : Char} (hc : 0x20 < c.toNat) : (c != '\t' && c != '\n' && c != '\r') = true := by
  have hne : ∀ d : Char, d.toNat ≤ 0x20 → c ≠ d := fun d hd heq => absurd (heq ▸ hc) (Nat.not_lt.mpr hd)
  simp [hne '\t' (by decide), hne '\n' (by decide), hne '\r' (by decide)]

/-- A text of visible characters counts whole, and what follows it loses nothing in front. -/
theorem exists_significant_behind {front : List Char} (hne : front ≠ []) (hf : ∀ c ∈ front, 0x20 < c.toNat)
    {back : List Char} (hb : ∀ c, back.head? = some c → 0x20 < c.toNat) :
    ∃ back', significant (front ++ back) = front ++ back' ∧ back'.head? = back.head? := by
  obtain ⟨back', htrim, hhead⟩ := Text.exists_trim_behind (p := fun c => decide (c.toNat ≤ 0x20)) hne
    (fun c hc => by simpa using hf c hc) (fun c hc => by simpa using hb c hc)
  refine ⟨back'.filter fun c => c != '\t' && c != '\n' && c != '\r', ?_, ?_⟩
  · rw [significant, htrim, List.filter_append, List.filter_eq_self.mpr fun c hc => counts_of_visible (hf c hc)]
  · cases back' with
    | nil => exact hhead
    | cons m back' =>
      have hm : 0x20 < m.toNat := hb m (by rw [← hhead]; rfl)
      simp only [List.filter_cons, counts_of_visible hm, if_true]
      exact hhead

/-- A text that starts with a visible character is read from there on. -/
theorem exists_significant_cons {c : Char} (hc : 0x20 < c.toNat) (cs : List Char) :
    ∃ rest, significant (c :: cs) = c :: rest := by
  obtain ⟨rest, hrest⟩ := Text.exists_trim_append (p := fun c => decide (c.toNat ≤ 0x20)) (List.cons_ne_nil c [])
    (by simpa using hc) (by simpa using hc) cs
  refine ⟨rest.filter fun c => c != '\t' && c != '\n' && c != '\r', ?_⟩
  rw [significant, ← List.singleton_append, hrest]
  exact List.filter_cons_of_pos (counts_of_visible hc)

theorem exists_significant_http (rest : List Char) :
    ∃ rest', significant ("http://".toList ++ rest) = "http://".toList ++ rest' := by
  have hne : "http://".toList ≠ [] := by decide
  have hh : ∀ c, "http://".toList.head? = some c → decide (c.toNat ≤ 0x20) = false := by simp
  have hl : ∀ c, "http://".toList.getLast? = some c → decide (c.toNat ≤ 0x20) = false := by simp
  obtain ⟨rest', hr⟩ := Text.exists_trim_append hne hh hl rest
  exact ⟨rest'.filter fun c => c != '\t' && c != '\n' && c != '\r', by rw [significant, hr, List.filter_append]; rfl⟩

/-- A scheme starts with a letter. -/
theorem scheme?_cons {c : Char} (hc : c.isAlpha = false) (cs : List Char) : scheme? (c :: cs) = none := by
  unfold scheme?
  split
  · rfl
  · rename_i hcs
    obtain ⟨rfl, -⟩ := List.cons.inj hcs
    split
    · exact if_neg (by simp [hc])
    · rfl

/-- Nothing is read where a query or a fragment starts. -/
theorem ofChars_tail {cs : List Char} (h : Text.IsTail cs) : ofChars cs = .error .relative := by
  cases cs with
  | nil => rfl
  | cons c cs =>
    have hmark : c.isAlpha = false ∧ 0x20 < c.toNat := by rcases h c rfl with rfl | rfl <;> decide
    obtain ⟨rest, hrest⟩ := exists_significant_cons hmark.2 cs
    rw [ofChars, hrest, scheme?_cons hmark.1]

/-- Behind `http://` there is a URL with that scheme and a rooted path, if there is one at all. -/
theorem ofText_http {rest : String} {url : Url} (h : ofText ("http://" ++ rest) = .ok url) :
    url.scheme = "http" ∧ url.path.toList.head? = some '/' := by
  obtain ⟨rest', hr⟩ := exists_significant_http rest.toList
  have hs : scheme? ("http://".toList ++ rest') = some ("http", "//".toList ++ rest') := rfl
  rw [ofText, String.toList_append, ofChars, hr, hs] at h
  exact readSpecial_inv h

/-- Whether a text is read as some URL can be decided, errors aside. -/
theorem ofText_eq_ok {text : String} {url : Url} (h : (ofText text).toOption = some url) : ofText text = .ok url :=
  eq_ok_of_toOption h

end Gateway.Url
