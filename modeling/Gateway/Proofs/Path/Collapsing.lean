import Gateway.Proofs.Path.Directories

/-! Runs of slashes. Two paths that differ in runs of slashes only lead through the same names; with each run as one slash
    they are equal. What is left of the segments of a rooted path are those that are not empty, and the last one. -/

namespace Gateway.Path

/-- A text with each run of slashes as one. -/
def collapseChars : List Char → List Char
  | [] => []
  | c :: rest => if c = '/' ∧ rest.head? = some '/' then collapseChars rest else c :: collapseChars rest

def collapse (path : String) : String := String.ofList (collapseChars path.toList)

theorem collapseChars_append {segment : List Char} (h : '/' ∉ segment) (rest : List Char) :
    collapseChars (segment ++ rest) = segment ++ collapseChars rest := by
  induction segment with
  | nil => rfl
  | cons c cs ih =>
    rw [List.mem_cons, not_or] at h
    rw [List.cons_append, collapseChars, if_neg fun hc => h.1 hc.1.symm, ih h.2]
    rfl

theorem collapseChars_slash {rest : List Char} (h : rest.head? ≠ some '/') :
    collapseChars ('/' :: rest) = '/' :: collapseChars rest := by
  rw [collapseChars, if_neg fun hc => h hc.2]

theorem head?_ne_slash {segment : List Char} (h : '/' ∉ segment) : segment.head? ≠ some '/' :=
  fun hs => h (List.mem_of_head? hs)

/-- Empty segments leave only slashes behind, but for the last segment. -/
theorem collapseChars_fromRoot {front : List (List Char)} {last : List Char} (hf : ∀ s ∈ front, '/' ∉ s)
    (hl : '/' ∉ last) : collapseChars (fromRoot (front ++ [last])) = fromRoot (nonEmpty front ++ [last]) := by
  induction front with
  | nil =>
    have hlast := collapseChars_append hl []
    rw [List.append_nil] at hlast
    rw [List.nil_append, fromRoot, List.intercalate_singleton, collapseChars_slash (head?_ne_slash hl), hlast]
    simp [nonEmpty, fromRoot, collapseChars]
  | cons s front ih =>
    have hs := hf s List.mem_cons_self
    have ih := ih fun s h => hf s (List.mem_cons_of_mem _ h)
    rw [List.cons_append, fromRoot_cons (by simp)]
    cases s with
    | nil =>
      rw [List.singleton_append, collapseChars, if_pos ⟨rfl, rfl⟩, ih]
      simp [nonEmpty]
    | cons c cs =>
      have hhead : (c :: cs ++ fromRoot (front ++ [last])).head? ≠ some '/' := by
        simpa using Ne.symm (List.ne_of_not_mem_cons hs)
      have hfull : nonEmpty ((c :: cs) :: front) = (c :: cs) :: nonEmpty front := List.filter_cons_of_pos (by simp)
      rw [hfull, List.cons_append, collapseChars_slash hhead, collapseChars_append hs, ih]
      exact (fromRoot_cons (by simp) (c :: cs)).symm

/-- What leads through the names of some segments and ends in their last, is the path of these segments up to runs of
    slashes. -/
theorem collapse_fromRoot {front : List (List Char)} {last : List Char} (hf : ∀ s ∈ front, '/' ∉ s) (hl : '/' ∉ last) :
    collapse (String.ofList (fromRoot (front ++ [last]))) = String.ofList
      (fromRoot (nonEmpty (front ++ [last])) ++ if last = [] ∧ nonEmpty (front ++ [last]) ≠ [] then ['/'] else []) := by
  rw [collapse, String.toList_ofList, collapseChars_fromRoot hf hl, nonEmpty_append, nonEmpty_singleton]
  by_cases hnil : last = []
  · subst hnil
    rw [fromRoot_slash]
    by_cases hfront : nonEmpty front = [] <;> simp [hfront]
  · simp [hnil]

/-- A path of names has no runs of slashes. -/
theorem collapse_names {names : List (List Char)} (h : ∀ s ∈ names, IsName s) (slash : Prop) [Decidable slash] :
    collapse (String.ofList (fromRoot names ++ if slash ∧ names ≠ [] then ['/'] else [])) =
      String.ofList (fromRoot names ++ if slash ∧ names ≠ [] then ['/'] else []) := by
  by_cases hne : names = []
  · simp [hne, fromRoot, collapse, collapseChars]
  have hs : ∀ s ∈ names, '/' ∉ s := fun s hs => (h s hs).slash
  have hfull : nonEmpty names = names := nonEmpty_of_names fun s hs => (h s hs).ne_nil
  by_cases hslash : slash
  · -- The slash at the end is an empty segment behind the names.
    have hcollapse := collapse_fromRoot hs (show '/' ∉ [] by simp)
    rw [nonEmpty_append, nonEmpty_singleton, if_pos rfl, List.append_nil, hfull, fromRoot_slash, if_neg hne] at hcollapse
    rw [if_pos ⟨hslash, hne⟩, hcollapse, if_pos ⟨rfl, hne⟩]
  · obtain ⟨front, last, rfl⟩ : ∃ front last, names = front ++ [last] := ⟨_, _, (List.dropLast_concat_getLast hne).symm⟩
    have hlast := h last (by simp)
    have hcollapse := collapse_fromRoot (fun s h => hs s (List.mem_append_left _ h)) hlast.slash
    rw [hfull, if_neg fun hand => hlast.ne_nil hand.1, List.append_nil] at hcollapse
    rw [if_neg fun hand => hslash hand.1, List.append_nil, hcollapse]

/-- A rooted path of names leads through these names, also with a slash behind it. -/
theorem names_slashed {ns : List (List Char)} (h : ∀ s ∈ ns, IsName s) (slash : Prop) [Decidable slash] :
    names (fromRoot ns ++ if slash then ['/'] else []) = ns := by
  split
  · rw [names, List.splitOn_append_cons_self, List.foldl_append, Lexical.foldl_keep_fromRoot h]
    simp
  · rw [List.append_nil, names, Lexical.foldl_keep_fromRoot h]
    simp

/-- So it is the path of no other names. -/
theorem fromRoot_inj {ns more : List (List Char)} (hn : ∀ s ∈ ns, IsName s) (hm : ∀ s ∈ more, IsName s) :
    fromRoot ns = fromRoot more ↔ ns = more := by
  refine ⟨fun heq => ?_, congrArg fromRoot⟩
  have := names_slashed hn False
  rwa [heq, names_slashed hm, eq_comm] at this

theorem slashed_inj {ns more : List (List Char)} (hn : ∀ s ∈ ns, IsName s) (hm : ∀ s ∈ more, IsName s)
    (slash : Prop) [Decidable slash] : (fromRoot ns ++ if slash ∧ ns ≠ [] then ['/'] else []) =
      (fromRoot more ++ if slash ∧ more ≠ [] then ['/'] else []) ↔ ns = more := by
  refine ⟨fun heq => ?_, fun heq => by rw [heq]⟩
  have := names_slashed hn (slash ∧ ns ≠ [])
  rwa [heq, names_slashed hm, eq_comm] at this

end Gateway.Path
