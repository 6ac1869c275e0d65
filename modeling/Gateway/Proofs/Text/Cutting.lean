import Gateway.Text.Trim

/-! Trimming keeps what neither end can lose: a text between characters of the class, and the front of a text that
    starts outside of it. A cut leaves what stands in front of the first mark alone. -/

namespace Gateway.Text

variable {p : Char → Bool}

theorem dropWhile_of_all {cs : List Char} (h : ∀ c ∈ cs, p c = true) : cs.dropWhile p = [] := by
  rw [← List.append_nil cs, List.dropWhile_append_of_pos h]
  rfl

theorem dropWhile_of_head? {cs : List Char} (h : ∀ c, cs.head? = some c → p c = false) : cs.dropWhile p = cs := by
  cases cs with
  | nil => rfl
  | cons c cs => rw [List.dropWhile_cons_of_neg (by simp [h c rfl])]

theorem dropWhile_append_of_head? {front : List Char} (hne : front ≠ []) (h : ∀ c, front.head? = some c → p c = false)
    (back : List Char) : (front ++ back).dropWhile p = front ++ back := by
  obtain ⟨c, cs, rfl⟩ := List.exists_cons_of_ne_nil hne
  exact dropWhile_of_head? h

/-- What stands between characters of the class comes out, if its own ends are outside of it. -/
theorem trim_between {front core back : List Char} (hf : ∀ c ∈ front, p c = true) (hb : ∀ c ∈ back, p c = true)
    (hh : ∀ c, core.head? = some c → p c = false) (hl : ∀ c, core.getLast? = some c → p c = false) :
    trim p (front ++ core ++ back) = core := by
  rw [trim, List.append_assoc, List.dropWhile_append_of_pos hf]
  by_cases hne : core = []
  · subst hne
    rw [List.nil_append, dropWhile_of_all hb]
    rfl
  · rw [dropWhile_append_of_head? hne hh, List.reverse_append, List.dropWhile_append_of_pos (by simpa using hb),
      dropWhile_of_head? (by rw [List.head?_reverse]; exact hl), List.reverse_reverse]

/-- A text that starts and ends outside of the class stays. -/
theorem trim_of_ends {cs : List Char} (hh : ∀ c, cs.head? = some c → p c = false)
    (hl : ∀ c, cs.getLast? = some c → p c = false) : trim p cs = cs := by
  have hnone : ∀ c ∈ ([] : List Char), p c = true := by simp
  simpa using trim_between hnone hnone hh hl

/-- The front of a text stays if it starts and ends outside of the class. -/
theorem exists_trim_append {front : List Char} (hne : front ≠ []) (hh : ∀ c, front.head? = some c → p c = false)
    (hl : ∀ c, front.getLast? = some c → p c = false) (rest : List Char) :
    ∃ rest', trim p (front ++ rest) = front ++ rest' := by
  rw [trim, dropWhile_append_of_head? hne hh, List.reverse_append, List.dropWhile_append]
  split
  · refine ⟨[], ?_⟩
    rw [dropWhile_of_head? (by rw [List.head?_reverse]; exact hl)]
    simp
  · exact ⟨(rest.reverse.dropWhile p).reverse, by simp⟩

/-- A text without characters of the class stays, and what follows it loses nothing in front. -/
theorem exists_trim_behind {front : List Char} (hne : front ≠ []) (hf : ∀ c ∈ front, p c = false) {back : List Char}
    (hb : ∀ c, back.head? = some c → p c = false) :
    ∃ back', trim p (front ++ back) = front ++ back' ∧ back'.head? = back.head? := by
  have hh : ∀ cs c, (front ++ cs).head? = some c → p c = false := by
    intro cs c hc
    obtain ⟨first, rest, rfl⟩ := List.exists_cons_of_ne_nil hne
    obtain rfl := Option.some.inj hc
    exact hf first List.mem_cons_self
  cases back with
  | nil =>
    refine ⟨[], ?_, rfl⟩
    rw [List.append_nil]
    exact trim_of_ends (fun c hc => hh [] c (by rwa [List.append_nil])) fun c hc => hf c (List.mem_of_getLast? hc)
  | cons m back =>
    have hl : ∀ c, (front ++ [m]).getLast? = some c → p c = false := by
      intro c hc
      rw [List.getLast?_concat] at hc
      exact hb c hc
    obtain ⟨rest, hr⟩ := exists_trim_append (show front ++ [m] ≠ [] by simp) (hh [m]) hl back
    refine ⟨m :: rest, ?_, rfl⟩
    rw [List.append_assoc, List.append_assoc] at hr
    exact hr

/-- What is trimmed away stands at the two ends. -/
theorem exists_around_trim (p : Char → Bool) (cs : List Char) :
    ∃ front back, cs = front ++ trim p cs ++ back ∧ (∀ c ∈ front, p c = true) ∧ ∀ c ∈ back, p c = true := by
  refine ⟨cs.takeWhile p, ((cs.dropWhile p).reverse.takeWhile p).reverse, ?_, fun c hc => ?_, fun c hc => ?_⟩
  · rw [trim, List.append_assoc, ← List.reverse_append, List.takeWhile_append_dropWhile, List.reverse_reverse,
      List.takeWhile_append_dropWhile]
  · exact List.all_eq_true.mp List.all_takeWhile c hc
  · exact List.all_eq_true.mp List.all_takeWhile c (List.mem_reverse.mp hc)

theorem head?_trim {cs : List Char} {c : Char} (h : (trim p cs).head? = some c) : p c = false := by
  obtain ⟨rest, hrest⟩ := List.head?_eq_some_iff.mp h
  have hdrop := List.head?_dropWhile_not p cs
  have hfront : cs.dropWhile p = trim p cs ++ ((cs.dropWhile p).reverse.takeWhile p).reverse := by
    rw [trim, ← List.reverse_append, List.takeWhile_append_dropWhile, List.reverse_reverse]
  rw [hfront, hrest] at hdrop
  simpa using hdrop

theorem getLast?_trim {cs : List Char} {c : Char} (h : (trim p cs).getLast? = some c) : p c = false := by
  have hdrop := List.head?_dropWhile_not p (cs.dropWhile p).reverse
  rw [trim, List.getLast?_reverse] at h
  rw [h] at hdrop
  simpa using hdrop

/-- Classes that agree on the characters of a text cut it alike. -/
theorem trim_congr {q : Char → Bool} {cs : List Char} (h : ∀ c ∈ cs, p c = q c) : trim p cs = trim q cs := by
  have hdrop : ∀ ds : List Char, (∀ c ∈ ds, p c = q c) → ds.dropWhile p = ds.dropWhile q := by
    intro ds hds
    induction ds with
    | nil => rfl
    | cons d ds ih =>
      rw [List.dropWhile_cons, List.dropWhile_cons, hds d List.mem_cons_self, ih fun c hc => hds c (List.mem_cons_of_mem _ hc)]
  have hback : ∀ c ∈ (cs.dropWhile q).reverse, p c = q c := fun c hc =>
    h c ((List.dropWhile_suffix q).subset (List.mem_reverse.mp hc))
  rw [trim, trim, hdrop cs h, hdrop _ hback]

theorem trim_map {f : Char → Char} (h : ∀ c, p (f c) = p c) (cs : List Char) : trim p (cs.map f) = (trim p cs).map f := by
  have hdrop : ∀ ds : List Char, (ds.map f).dropWhile p = (ds.dropWhile p).map f := by
    intro ds
    rw [List.dropWhile_map, show p ∘ f = p from funext h]
  rw [trim, trim, hdrop, ← List.map_reverse, hdrop, List.map_reverse]

/-! ### Cuts -/

theorem cutAt_append {sep : Char} {front : List Char} (h : sep ∉ front) (back : List Char) :
    cutAt sep (front ++ back) = (front ++ (cutAt sep back).1, (cutAt sep back).2) := by
  have hf : ∀ c ∈ front, (c != sep) = true := fun c hc => bne_iff_ne.mpr fun heq => h (heq ▸ hc)
  unfold cutAt
  rw [List.dropWhile_append_of_pos hf, List.takeWhile_append_of_pos hf]
  split <;> rfl

theorem cutAt_of_not_mem {sep : Char} {cs : List Char} (h : sep ∉ cs) : cutAt sep cs = (cs, none) := by
  have := cutAt_append h []
  simpa [cutAt] using this

theorem cutAt_front (sep : Char) (cs : List Char) : (cutAt sep cs).1 = cs.takeWhile (· != sep) := by
  unfold cutAt
  split
  · rename_i hdrop
    have happ := List.takeWhile_append_dropWhile (p := (· != sep)) (l := cs)
    rwa [hdrop, List.append_nil, eq_comm] at happ
  · rfl

/-- A cut leaves the mark and what follows it behind. -/
theorem exists_cutAt (sep : Char) (cs : List Char) :
    ∃ rest, cs = (cutAt sep cs).1 ++ rest ∧ sep ∉ (cutAt sep cs).1 ∧ ∀ c, rest.head? = some c → c = sep := by
  have hfront : sep ∉ cs.takeWhile (· != sep) := by
    intro h
    have hall := List.all_takeWhile (p := (· != sep)) (l := cs)
    simpa using List.all_eq_true.mp hall sep h
  have happ := List.takeWhile_append_dropWhile (p := (· != sep)) (l := cs)
  unfold cutAt
  split
  · rename_i hdrop
    rw [hdrop, List.append_nil] at happ
    exact ⟨[], (List.append_nil cs).symm, happ ▸ hfront, by simp⟩
  · rename_i c rest hdrop
    have hc : c = sep := by
      have := List.head?_dropWhile_not (· != sep) cs
      rw [hdrop] at this
      simpa using this
    refine ⟨c :: rest, by rw [← hdrop, happ], hfront, ?_⟩
    simp [hc]

/-! ### Pieces -/

theorem mem_between {c : Char} {sep : List Char} {pieces : List (List Char)} (h : c ∈ sep.intercalate pieces) :
    c ∈ sep ∨ ∃ piece ∈ pieces, c ∈ piece := by
  induction pieces with
  | nil => cases h
  | cons piece pieces ih =>
    cases pieces with
    | nil => exact Or.inr ⟨piece, List.mem_cons_self, by simpa using h⟩
    | cons next pieces =>
      rw [List.intercalate_cons_cons] at h
      rcases List.mem_append.mp h with h | h
      · rcases List.mem_append.mp h with h | h
        · exact Or.inr ⟨piece, List.mem_cons_self, h⟩
        · exact Or.inl h
      · rcases ih h with h | ⟨other, hother, hc⟩
        · exact Or.inl h
        · exact Or.inr ⟨other, List.mem_cons_of_mem _ hother, hc⟩

theorem mem_intercalate {sep c : Char} {pieces : List (List Char)} (h : c ∈ [sep].intercalate pieces) :
    c = sep ∨ ∃ piece ∈ pieces, c ∈ piece :=
  (mem_between h).imp_left List.mem_singleton.mp

theorem mem_intercalate_of_mem {sep c : Char} {pieces : List (List Char)} {piece : List Char} (h : piece ∈ pieces)
    (hc : c ∈ piece) : c ∈ [sep].intercalate pieces := by
  induction pieces with
  | nil => cases h
  | cons first pieces ih =>
    cases pieces with
    | nil =>
      obtain rfl := List.mem_singleton.mp h
      simpa using hc
    | cons next pieces =>
      rw [List.intercalate_cons_cons]
      rcases List.mem_cons.mp h with rfl | h
      · simp [hc]
      · simp [ih h]

/-- What a text holds is the mark that it is cut at, or stands in a piece. -/
theorem mem_piece (sep : Char) {c : Char} {cs : List Char} (h : c ∈ cs) : c = sep ∨ ∃ piece ∈ cs.splitOn sep, c ∈ piece :=
  mem_intercalate (by rwa [List.intercalate_splitOn])

theorem mem_of_mem_piece {sep c : Char} {cs piece : List Char} (h : piece ∈ cs.splitOn sep) (hc : c ∈ piece) : c ∈ cs := by
  have hmem : c ∈ [sep].intercalate (cs.splitOn sep) := mem_intercalate_of_mem h hc
  rwa [List.intercalate_splitOn] at hmem

/-- A query or a fragment, with its mark in front, or nothing. -/
def IsTail (back : List Char) : Prop := ∀ c, back.head? = some c → c = '?' ∨ c = '#'

/-- Nothing of a tail stands in front of its first mark. -/
theorem cutAt_tail {back : List Char} (h : IsTail back) : (cutAt '?' (cutAt '#' back).1).1 = [] := by
  cases back with
  | nil => rfl
  | cons c back =>
    rcases h c rfl with rfl | rfl
    · rw [← List.singleton_append, cutAt_append (by decide)]
      simp [cutAt]
    · simp [cutAt]

end Gateway.Text
