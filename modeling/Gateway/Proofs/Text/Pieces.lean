import Gateway.Proofs.Text.Cutting

/-! Pieces of a text that is cut at a mark. They hold no mark, and they are just what stands between two marks, or between a
    mark and an end of the text. A text that is put behind another one and a mark brings its pieces with it. -/

namespace Gateway.Text

variable {sep : Char} {cs piece : List Char}

theorem not_mem_piece (h : piece ∈ cs.splitOn sep) : sep ∉ piece := by
  induction cs generalizing piece with
  | nil =>
    obtain rfl := List.mem_singleton.mp h
    exact List.not_mem_nil
  | cons c cs ih =>
    rw [List.splitOn_cons_eq_if_modifyHead] at h
    by_cases hc : c = sep
    · rw [if_pos (by simpa using hc)] at h
      rcases List.mem_cons.mp h with rfl | h
      · exact List.not_mem_nil
      · exact ih h
    · rw [if_neg (by simpa using hc)] at h
      obtain ⟨first, rest, hs⟩ := List.exists_cons_of_ne_nil (List.splitOn_ne_nil sep cs)
      rw [hs] at h ih
      rcases List.mem_cons.mp h with rfl | h
      · simpa [Ne.symm hc] using ih List.mem_cons_self
      · exact ih (List.mem_cons_of_mem _ h)

/-- What is done to every character but marks is done to the pieces. -/
theorem splitOn_map {f : Char → Char} (h : ∀ c, f c = sep ↔ c = sep) (cs : List Char) :
    (cs.map f).splitOn sep = (cs.splitOn sep).map (·.map f) := by
  induction cs with
  | nil => rfl
  | cons c cs ih =>
    rw [List.map_cons, List.splitOn_cons_eq_if_modifyHead, List.splitOn_cons_eq_if_modifyHead, ih]
    by_cases hc : c = sep
    · simp [hc, (h sep).mpr rfl]
    · have hfc : f c ≠ sep := mt (h c).mp hc
      obtain ⟨first, rest, hs⟩ := List.exists_cons_of_ne_nil (List.splitOn_ne_nil sep cs)
      simp [hc, hfc, hs]

/-- `piece` stands in a text between two marks, or between a mark and an end of the text. -/
def StandsBetween (sep : Char) (cs piece : List Char) : Prop :=
  sep ∉ piece ∧ ∃ front back, cs = front ++ piece ++ back ∧ (∀ c, front.getLast? = some c → c = sep) ∧
    ∀ c, back.head? = some c → c = sep

theorem intercalate_around (sep : Char) (before after : List (List Char)) (piece : List Char) :
    [sep].intercalate (before ++ piece :: after) =
      before.flatMap (· ++ [sep]) ++ piece ++ after.flatMap (sep :: ·) := by
  induction before with
  | nil =>
    induction after generalizing piece with
    | nil => simp
    | cons next after ih =>
      have hnext := ih next
      simp only [List.nil_append, List.flatMap_nil] at hnext ⊢
      rw [List.intercalate_cons_cons, hnext]
      simp
  | cons first before ih =>
    obtain ⟨second, rest, hs⟩ := List.exists_cons_of_ne_nil (show before ++ piece :: after ≠ [] by simp)
    rw [List.cons_append, hs, List.intercalate_cons_cons, ← hs, ih]
    simp

theorem mem_splitOn_iff : piece ∈ cs.splitOn sep ↔ StandsBetween sep cs piece := by
  constructor
  · intro h
    obtain ⟨before, after, hpieces⟩ := List.append_of_mem h
    have hcs : [sep].intercalate (cs.splitOn sep) = cs := List.intercalate_splitOn sep
    rw [hpieces, intercalate_around] at hcs
    refine ⟨not_mem_piece h, _, _, hcs.symm, fun c hc => ?_, fun c hc => ?_⟩
    · rcases before.eq_nil_or_concat with rfl | ⟨front, last, rfl⟩
      · cases hc
      · simpa [eq_comm] using hc
    · cases after with
      | nil => cases hc
      | cons next after => simpa [eq_comm] using hc
  · rintro ⟨hpiece, front, back, rfl, hfront, hback⟩
    have hbehind : ∃ more, (piece ++ back).splitOn sep = piece :: more := by
      cases back with
      | nil => exact ⟨[], by rw [List.append_nil, List.splitOn_eq_singleton hpiece]⟩
      | cons c back =>
        obtain rfl := hback c rfl
        exact ⟨_, by rw [List.splitOn_append_cons_self, List.splitOn_eq_singleton hpiece]; rfl⟩
    obtain ⟨more, hmore⟩ := hbehind
    rcases front.eq_nil_or_concat with rfl | ⟨front, c, rfl⟩
    · rw [List.nil_append, hmore]
      exact List.mem_cons_self
    · obtain rfl := hfront c (by simp)
      rw [show front.concat c ++ piece ++ back = front ++ c :: (piece ++ back) by simp, List.splitOn_append_cons_self, hmore]
      simp

end Gateway.Text
