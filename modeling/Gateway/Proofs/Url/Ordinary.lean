import Gateway.Proofs.Path.Directories
import Gateway.Proofs.Url.Segments
import Gateway.Text.Blank

/-! Ordinary characters: letters, digits, hyphens, underscores, dots and slashes. They mean themselves wherever a URL holds
    them. A browser takes segments of them as names, climbs and stays, just as a path is cleaned, but that it ends in an empty
    segment where the last of them is a dot segment. -/

namespace Gateway.Url

open Gateway.Path Lexical

/-- The characters of ordinary paths. -/
def ordinary : List Char := "ABCDEFGHIJKLMNOPQRSTUVWXYZabcdefghijklmnopqrstuvwxyz0123456789-_./".toList

/-- A text of ordinary characters. -/
def IsOrdinary (cs : List Char) : Prop := ∀ c ∈ cs, c ∈ ordinary

section Characters
variable {c : Char}

theorem not_isBlank_of_ordinary (h : c ∈ ordinary) : Text.isBlank c = false := by
  have hall : ∀ d ∈ ordinary, Text.isBlank d = false := Text.forall_mem (by decide +kernel)
  exact hall c h

theorem visible_of_ordinary (h : c ∈ ordinary) : 0x20 < c.toNat := by
  have hall : ∀ d ∈ ordinary, 0x20 < d.toNat := Text.forall_mem (by decide +kernel)
  exact hall c h

/-- No ordinary character is a mark, or an escape of one. -/
theorem ne_mark_of_ordinary (h : c ∈ ordinary) : c ∉ "?#:@\\%".toList := by
  have hall : ∀ d ∈ ordinary, d ∉ "?#:@\\%".toList := Text.forall_mem (by decide +kernel)
  exact hall c h

theorem pathSet_of_ordinary (h : c ∈ ordinary) : pathSet c = false := by
  have hall : ∀ d ∈ ordinary, pathSet d = false := Text.forall_mem (by decide +kernel)
  exact hall c h

theorem eq_dot_of_ordinary (h : c ∈ ordinary) (hd : c.toLower = '.') : c = '.' := by
  have hall : ∀ d ∈ ordinary, d.toLower = '.' → d = '.' := Text.forall_mem (by decide +kernel)
  exact hall c h hd

theorem toLower_ne_percent (h : c ∈ ordinary) : c.toLower ≠ '%' := by
  have hall : ∀ d ∈ ordinary, d.toLower ≠ '%' := Text.forall_mem (by decide +kernel)
  exact hall c h

theorem isSeparator_of_ordinary (h : c ∈ ordinary) (hs : c ≠ '/') : isSeparator true c = false := by
  have hall : ∀ d ∈ ordinary, d ≠ '/' → isSeparator true d = false := Text.forall_mem (by decide +kernel)
  exact hall c h hs

end Characters

/-! ### Segments of ordinary characters -/

section Segments
variable {segment : List Char}

/-- Without a percent sign only plain dots make a dot segment. -/
theorem mem_forms_of_ordinary (h : IsOrdinary segment) (hmem : segment.map Char.toLower ∈ hereForms ++ upForms) :
    segment = ['.'] ∨ segment = ['.', '.'] := by
  have hpercent : '%' ∉ segment.map Char.toLower := by
    intro hp
    obtain ⟨c, hc, hlow⟩ := List.mem_map.mp hp
    exact toLower_ne_percent (h c hc) hlow
  have hdots : segment.map Char.toLower = ['.'] ∨ segment.map Char.toLower = ['.', '.'] := by
    generalize segment.map Char.toLower = lower at hmem hpercent
    simp only [hereForms, upForms, List.map_cons, List.map_nil, List.mem_append, List.mem_cons, List.not_mem_nil,
      or_false] at hmem
    rcases hmem with (rfl | rfl) | rfl | rfl | rfl | rfl
    · exact Or.inl rfl
    · exact absurd (by decide) hpercent
    · exact Or.inr rfl
    · exact absurd (by decide) hpercent
    · exact absurd (by decide) hpercent
    · exact absurd (by decide) hpercent
  -- Lower case changes nothing in dots.
  have hsame : ∀ {dots : List Char}, (∀ c ∈ dots, c = '.') → segment.map Char.toLower = dots → segment = dots := by
    rintro dots hd rfl
    refine (List.map_id segment).symm.trans (List.map_congr_left fun c hc => ?_)
    have hlow := hd _ (List.mem_map_of_mem hc)
    rw [hlow]
    exact eq_dot_of_ordinary (h c hc) hlow
  rcases hdots with hd | hd
  · exact Or.inl (hsame (by simp) hd)
  · exact Or.inr (hsame (by simp) hd)

theorem dotSegment?_of_ordinary (h : IsOrdinary segment) (hp : IsPlain segment) : dotSegment? segment = none := by
  rw [dotSegment?_eq_none]
  intro hmem
  rcases mem_forms_of_ordinary h hmem with hd | hd
  · exact hp.ne_here hd
  · exact hp.ne_up hd

theorem isSettled_of_ordinary (h : IsOrdinary segment) (hs : '/' ∉ segment) (hp : IsPlain segment) :
    IsSettled segment where
  separator c hc := isSeparator_of_ordinary (h c hc) fun heq => hs (heq ▸ hc)
  escaped c hc := pathSet_of_ordinary (h c hc)
  dot := dotSegment?_of_ordinary h hp

theorem IsSettled.isPlain (h : IsSettled segment) : IsPlain segment where
  ne_here heq := absurd h.dot (by rw [heq]; decide)
  ne_up heq := absurd h.dot (by rw [heq]; decide)

theorem cutSegments_of_ordinary {cs : List Char} (h : IsOrdinary cs) : cutSegments true cs = cs.splitOn '/' := by
  rw [cutSegments, List.map_congr_left (g := id) fun c hc => ?_, List.map_id]
  by_cases hs : c = '/'
  · rw [if_pos (by rw [hs]; decide), hs]
    rfl
  · rw [if_neg (by simp [isSeparator_of_ordinary (h c hc) hs])]
    rfl

end Segments

/-! ### Taking and keeping -/

/-- A segment that a path ends behind with a slash: an empty one, or a dot segment. -/
def Opens (segment : List Char) : Prop := segment = [] ∨ segment = ['.'] ∨ segment = ['.', '.']

instance (segment : List Char) : Decidable (Opens segment) := by unfold Opens; infer_instance

section Taking
variable {kept : List (List Char)} {segment : List Char}

theorem keep_up (hk : ∀ s ∈ kept, IsName s) : keep true kept ['.', '.'] = kept.tail := by
  cases kept with
  | nil => rfl
  | cons name kept => simp [keep, (hk name List.mem_cons_self).ne_up]

/-- In front of others a segment that is not empty is taken as it is kept. -/
theorem takeSegments_cons_ordinary (hk : ∀ s ∈ kept, IsName s) (ho : IsOrdinary segment) (hs : '/' ∉ segment)
    (hne : segment ≠ []) {rest : List (List Char)} (hrest : rest ≠ []) :
    takeSegments kept (segment :: rest) = takeSegments (keep true kept segment) rest := by
  by_cases hhere : segment = ['.']
  · subst hhere
    simp [takeSegments, dotSegment?, keep, hrest]
  by_cases hup : segment = ['.', '.']
  · subst hup
    rw [keep_up hk]
    simp [takeSegments, dotSegment?, hrest]
  have hname : IsName segment := ⟨hne, hhere, hup, hs⟩
  rw [takeSegments_cons_settled (isSettled_of_ordinary ho hs hname.isPlain), keep_name hname]

/-- The last segment is taken as it is kept, with an empty one behind it if it opens. -/
theorem takeSegments_last_ordinary (hk : ∀ s ∈ kept, IsName s) (ho : IsOrdinary segment) (hs : '/' ∉ segment) :
    takeSegments kept [segment] = (if Opens segment then [[]] else []) ++ keep true kept segment := by
  by_cases hnil : segment = []
  · subst hnil
    simp [takeSegments, Opens, isSettled_nil.dot, escape]
  by_cases hhere : segment = ['.']
  · subst hhere
    simp [takeSegments, Opens, dotSegment?, keep]
  by_cases hup : segment = ['.', '.']
  · subst hup
    simp [takeSegments, Opens, dotSegment?, keep_up hk]
  have hname : IsName segment := ⟨hnil, hhere, hup, hs⟩
  rw [takeSegments_cons_settled (isSettled_of_ordinary ho hs hname.isPlain), if_neg (by simp [Opens, *]), keep_name hname]
  rfl

end Taking

/-- Behind names a browser takes ordinary segments as they are kept in a clean path, and ends in an empty one where the last
    of them opens. -/
theorem takeSegments_ordinary {kept segments : List (List Char)} (hk : ∀ s ∈ kept, IsName s)
    (ho : ∀ s ∈ segments, IsOrdinary s) (hs : ∀ s ∈ segments, '/' ∉ s) (hn : [] ∉ segments.dropLast)
    {last : List Char} (hl : segments.getLast? = some last) :
    takeSegments kept segments = (if Opens last then [[]] else []) ++ segments.foldl (keep true) kept := by
  induction segments generalizing kept with
  | nil => cases hl
  | cons s segments ih =>
    have hos := ho s List.mem_cons_self
    have hss := hs s List.mem_cons_self
    cases segments with
    | nil =>
      obtain rfl : s = last := by simpa using hl
      exact takeSegments_last_ordinary hk hos hss
    | cons t segments =>
      rw [List.dropLast_cons_of_ne_nil (by simp), List.mem_cons, not_or] at hn
      rw [takeSegments_cons_ordinary hk hos hss (Ne.symm hn.1) (by simp), List.foldl_cons]
      exact ih (isName_keep hk hss) (fun s h => ho s (List.mem_cons_of_mem _ h))
        (fun s h => hs s (List.mem_cons_of_mem _ h)) hn.2 (by simpa using hl)

end Gateway.Url
