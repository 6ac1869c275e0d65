import Gateway.Proofs.Url.Blanks
import Gateway.Proofs.Url.Special
import Mathlib.Data.List.TakeWhile

/-! What follows a site. Behind a scheme of the web and any text that is read as its site with it, a slash ends the site: what
    follows has no say in it, unless blanks at the end of the text keep the whole from being read. -/

namespace Gateway.Url

open Text

variable {scheme : String} {cs host rest : List Char} {url own : Url}

/-- What counts of a text with a visible character in front is all of it but blanks at its end. -/
theorem exists_significant_blanks (hh : ∀ c, cs.head? = some c → 0x20 < c.toNat) :
    ∃ blanks, (cs.filter fun c => c != '\t' && c != '\n' && c != '\r') = significant cs ++ blanks ∧
      ∀ c ∈ blanks, c.toNat ≤ 0x20 := by
  obtain ⟨front, back, hcs, hfront, hback⟩ := exists_around_trim (fun c => decide (c.toNat ≤ 0x20)) cs
  have hnil : front = [] := by
    cases front with
    | nil => rfl
    | cons c front =>
      have hvisible : 0x20 < c.toNat := hh c (by rw [hcs]; rfl)
      have hblank : c.toNat ≤ 0x20 := of_decide_eq_true (hfront c List.mem_cons_self)
      omega
  refine ⟨back.filter fun c => c != '\t' && c != '\n' && c != '\r', ?_, fun c hc => ?_⟩
  · rw [significant, ← List.filter_append, ← List.nil_append (trim _ cs), ← hnil, ← hcs]
  · exact of_decide_eq_true (hback c (List.mem_filter.mp hc).1)

/-- In front of a slash even blanks count. -/
theorem exists_significant_slash (hne : cs ≠ []) (hh : ∀ c, cs.head? = some c → 0x20 < c.toNat) (rest : List Char) :
    ∃ more, significant (cs ++ '/' :: rest) =
      (cs.filter fun c => c != '\t' && c != '\n' && c != '\r') ++ '/' :: more := by
  obtain ⟨d, ds, hcs⟩ := List.exists_cons_of_ne_nil hne
  have hhead : ∀ c, (cs ++ ['/']).head? = some c → decide (c.toNat ≤ 0x20) = false := by
    intro c hc
    rw [hcs] at hc
    exact decide_eq_false (Nat.not_le_of_lt (hh c (by rw [hcs]; exact hc)))
  have hlast : ∀ c, (cs ++ ['/']).getLast? = some c → decide (c.toNat ≤ 0x20) = false := by
    intro c hc
    rw [List.getLast?_concat] at hc
    exact Option.some.inj hc ▸ rfl
  obtain ⟨more, hmore⟩ := exists_trim_append (by simp) hhead hlast rest
  refine ⟨more.filter fun c => c != '\t' && c != '\n' && c != '\r', ?_⟩
  rw [significant, List.append_cons, hmore, List.filter_append, List.filter_append, List.append_assoc]
  rfl

/-- The text that is read as a site behind a scheme of the web. -/
def siteText (cs : List Char) : List Char :=
  (cs.dropWhile (isSeparator true)).takeWhile fun c => !isSeparator true c && (c != '?' && c != '#')

/-- Cutting off the query and the fragment first makes no difference to what stands in front of them. -/
theorem takeWhile_dropWhile_takeWhile {p q : Char → Bool} (h : ∀ c, p c = true → q c = true) (cs : List Char) :
    ((cs.takeWhile q).dropWhile p).takeWhile (!p ·) = (cs.dropWhile p).takeWhile fun c => !p c && q c := by
  induction cs with
  | nil => rfl
  | cons c cs ih =>
    by_cases hp : p c = true
    · rw [List.takeWhile_cons_of_pos (h c hp), List.dropWhile_cons_of_pos hp, List.dropWhile_cons_of_pos hp, ih]
    · rw [List.dropWhile_cons_of_neg hp]
      by_cases hq : q c = true
      · rw [List.takeWhile_cons_of_pos hq, List.dropWhile_cons_of_neg hp, List.takeWhile_cons_of_pos (by simp [hp]),
          List.takeWhile_takeWhile, List.takeWhile_cons_of_pos (by simp [hp, hq])]
        simp
      · rw [List.takeWhile_cons_of_neg hq, List.takeWhile_cons_of_neg (by simp [hq])]
        rfl

theorem exists_readAuthority_site (h : readSpecial scheme cs = .ok url) :
    ∃ a, readAuthority scheme (siteText cs) = .ok a ∧ url.scheme = scheme ∧ url.authority = some a := by
  have hfront : (cutTail true cs).1 = cs.takeWhile fun c => c != '?' && c != '#' := by
    simp only [cutTail, cutAt_front, List.takeWhile_takeWhile, Bool.decide_and, Bool.decide_eq_true]
  have hmark : ∀ c, isSeparator true c = true → (c != '?' && c != '#') = true := by
    intro c hc
    rcases (by simpa [isSeparator] using hc : c = '/' ∨ c = '\\') with rfl | rfl <;> rfl
  obtain ⟨a, ha, h⟩ := bind_eq_ok.mp h
  obtain rfl := Except.ok.inj h
  refine ⟨a, ?_, rfl, rfl⟩
  rw [siteText, ← takeWhile_dropWhile_takeWhile hmark, ← hfront]
  exact ha

theorem readAuthority_nil (hs : isSpecial scheme = true) : readAuthority scheme [] = .error .emptyHost := by
  simp only [readAuthority, hs]
  rfl

/-- What follows a site behind blanks and a slash leaves it as it is, or with the blanks. -/
theorem siteText_continued {blanks : List Char} (hne : siteText cs ≠ []) (hb : ∀ c ∈ blanks, c.toNat ≤ 0x20)
    (rest : List Char) : siteText (cs ++ (blanks ++ '/' :: rest)) = siteText cs ∨
      siteText (cs ++ (blanks ++ '/' :: rest)) = siteText cs ++ blanks := by
  have hdrop : cs.dropWhile (isSeparator true) ≠ [] := by
    intro hnil
    rw [siteText, hnil] at hne
    exact hne rfl
  have hblanks : ∀ c ∈ blanks, (!isSeparator true c && (c != '?' && c != '#')) = true := by
    intro c hc
    have hall := forall_below (P := fun c => (!isSeparator true c && (c != '?' && c != '#')) = true) 0x21
      (by decide +kernel) c
    exact hall (Nat.lt_succ_of_le (hb c hc))
  unfold siteText
  rw [List.dropWhile_append, if_neg (by simpa using hdrop), List.takeWhile_append]
  split
  · rename_i hall
    have hself := List.IsPrefix.eq_of_length (List.takeWhile_prefix _) hall
    refine Or.inr ?_
    rw [hself, List.takeWhile_append_of_pos hblanks]
    exact congrArg _ (List.append_nil _)
  · exact Or.inl rfl

theorem ofChars_web (hs : scheme = "http" ∨ scheme = "https")
    (h : significant cs = scheme.toList ++ "://".toList ++ rest) : ofChars cs = readSpecial scheme ('/' :: '/' :: rest) := by
  have hscheme : scheme? (significant cs) = some (scheme, '/' :: '/' :: rest) := by
    rw [h]
    rcases hs with rfl | rfl <;> rfl
  rw [ofChars, hscheme]
  rcases hs with rfl | rfl <;> rfl

theorem siteText_slashes (cs : List Char) : siteText ('/' :: '/' :: cs) = siteText cs := rfl

/-- Of a text behind a scheme of the web blanks at the end do not count, but they do in front of a slash. -/
theorem exists_significant_web (hs : scheme = "http" ∨ scheme = "https") (host rest : List Char) :
    ∃ site blanks more, significant (scheme.toList ++ "://".toList ++ host) = scheme.toList ++ "://".toList ++ site ∧
      significant (scheme.toList ++ "://".toList ++ host ++ '/' :: rest) =
        scheme.toList ++ "://".toList ++ (site ++ (blanks ++ '/' :: more)) ∧
      ∀ c ∈ blanks, c.toNat ≤ 0x20 := by
  have hfront : scheme.toList ++ "://".toList ≠ [] := by simp
  have hvisible : ∀ c ∈ scheme.toList ++ "://".toList, 0x20 < c.toNat := by
    rcases hs with rfl | rfl <;> exact forall_mem (by decide)
  have hhead : ∀ c, (scheme.toList ++ "://".toList ++ host).head? = some c → 0x20 < c.toNat := by
    intro c hc
    rcases hs with rfl | rfl <;> obtain rfl := Option.some.inj hc <;> decide
  obtain ⟨trimmed, htrim⟩ := exists_trim_append hfront
    (fun c hc => decide_eq_false (Nat.not_le_of_lt (hvisible c (List.mem_of_head? hc))))
    (fun c hc => decide_eq_false (Nat.not_le_of_lt (hvisible c (List.mem_of_getLast? hc)))) host
  obtain ⟨blanks, hall, hblanks⟩ := exists_significant_blanks hhead
  obtain ⟨more, hmore⟩ := exists_significant_slash (by simp) hhead rest
  have hsite : significant (scheme.toList ++ "://".toList ++ host) = scheme.toList ++ "://".toList ++
      trimmed.filter fun c => c != '\t' && c != '\n' && c != '\r' := by
    rw [significant, htrim, List.filter_append, List.filter_eq_self.mpr fun c hc => counts_of_visible (hvisible c hc)]
  refine ⟨_, blanks, more, hsite, ?_, hblanks⟩
  rw [hmore, hall, hsite]
  simp only [List.append_assoc]

/-- What is read in front of a slash is what is read without it: blanks in between keep it from being read. -/
theorem readAuthority_continued {site blanks more : List Char} {a b : Authority} (hs : isSpecial scheme = true)
    (hblanks : ∀ c ∈ blanks, c.toNat ≤ 0x20) (ha : readAuthority scheme (siteText site) = .ok a)
    (hb : readAuthority scheme (siteText (site ++ (blanks ++ '/' :: more))) = .ok b) : b = a := by
  have hne : siteText site ≠ [] := by
    intro hnil
    rw [hnil, readAuthority_nil hs] at ha
    cases ha
  rcases siteText_continued hne hblanks more with hsame | hlonger
  · rw [hsame] at hb
    exact Except.ok.inj (hb.symm.trans ha)
  · -- Blanks that were left out at the end of the text stand at the end of the host now.
    rcases blanks.eq_nil_or_concat with rfl | ⟨front, c, rfl⟩
    · rw [hlonger, List.append_nil] at hb
      exact Except.ok.inj (hb.symm.trans ha)
    · rw [hlonger, List.concat_eq_append, ← List.append_assoc] at hb
      exact absurd hb (readAuthority_blank (hblanks c (by simp)) hs _ b)

/-- **What follows a site has no say in it.** Take any text behind a scheme of the web that is read with it, whatever it
    holds, and anything that starts with a slash behind it. If that is read at all, the authority is the same. -/
theorem authority_continued (hs : scheme = "http" ∨ scheme = "https")
    (hown : ofChars (scheme.toList ++ "://".toList ++ host) = .ok own)
    (h : ofChars (scheme.toList ++ "://".toList ++ host ++ '/' :: rest) = .ok url) :
    url.scheme = scheme ∧ url.authority = own.authority := by
  have hspecial : isSpecial scheme = true := by rcases hs with rfl | rfl <;> decide
  obtain ⟨site, blanks, more, hsite, hbehind, hblanks⟩ := exists_significant_web hs host rest
  rw [ofChars_web hs hsite] at hown
  rw [ofChars_web hs hbehind] at h
  obtain ⟨a, ha, -, hauthority⟩ := exists_readAuthority_site hown
  obtain ⟨b, hb, hscheme, hcontinued⟩ := exists_readAuthority_site h
  rw [siteText_slashes] at ha hb
  exact ⟨hscheme, by rw [hcontinued, hauthority, readAuthority_continued hspecial hblanks ha hb]⟩

end Gateway.Url
