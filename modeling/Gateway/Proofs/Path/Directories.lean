import Gateway.Proofs.Path.Names
import Gateway.Proofs.Text.Cutting

/-! Directories. The directory of a rooted path leads through the names in front of its last segment, and what is put
    behind it goes on from there. Where a path has no dot segments its names are the segments that are not empty. -/

namespace Gateway.Path

open Lexical

/-- A segment that is no dot segment. It may be empty. -/
structure IsPlain (segment : List Char) : Prop where
  ne_here : segment ≠ ['.']
  ne_up : segment ≠ ['.', '.']

theorem IsName.isPlain {segment : List Char} (h : IsName segment) : IsPlain segment := ⟨h.ne_here, h.ne_up⟩

/-- The segments that are not empty. -/
def nonEmpty (segments : List (List Char)) : List (List Char) := segments.filter (· ≠ [])

theorem isName_nonEmpty {segments : List (List Char)} (h : ∀ s ∈ segments, IsPlain s) (hs : ∀ s ∈ segments, '/' ∉ s) :
    ∀ s ∈ nonEmpty segments, IsName s := by
  intro s hmem
  obtain ⟨hmem, hne⟩ := List.mem_filter.mp hmem
  exact ⟨of_decide_eq_true hne, (h s hmem).ne_here, (h s hmem).ne_up, hs s hmem⟩

theorem nonEmpty_append (xs ys : List (List Char)) : nonEmpty (xs ++ ys) = nonEmpty xs ++ nonEmpty ys :=
  List.filter_append ..

theorem nonEmpty_singleton (s : List Char) : nonEmpty [s] = if s = [] then [] else [s] := by
  by_cases h : s = [] <;> simp [nonEmpty, h]

theorem nonEmpty_of_names {names : List (List Char)} (h : ∀ s ∈ names, s ≠ []) : nonEmpty names = names :=
  List.filter_eq_self.mpr fun s hs => decide_eq_true (h s hs)

/-- A rooted path of names is clean. -/
theorem clean_fromRoot {names : List (List Char)} (h : ∀ s ∈ names, IsName s) :
    clean (String.ofList (fromRoot names)) = String.ofList (fromRoot names) := by
  rw [clean_of_rooted (by simp [fromRoot]), String.toList_ofList, Path.names, foldl_keep_fromRoot h]
  simp

/-! ### Segments one behind the other -/

theorem fromRoot_cons {segments : List (List Char)} (hne : segments ≠ []) (s : List Char) :
    fromRoot (s :: segments) = '/' :: s ++ fromRoot segments := by
  obtain ⟨next, rest, rfl⟩ := List.exists_cons_of_ne_nil hne
  simp [fromRoot]

theorem mem_fromRoot {segments : List (List Char)} {c : Char} (h : c ∈ fromRoot segments) :
    c = '/' ∨ ∃ s ∈ segments, c ∈ s := (List.mem_cons.mp h).elim Or.inl Text.mem_intercalate

theorem fromRoot_append {front back : List (List Char)} (hf : front ≠ []) (hb : back ≠ []) :
    fromRoot (front ++ back) = fromRoot front ++ fromRoot back := by
  induction front with
  | nil => exact absurd rfl hf
  | cons s front ih =>
    by_cases hfront : front = []
    · subst hfront
      rw [List.singleton_append, fromRoot_cons hb]
      simp [fromRoot]
    · rw [List.cons_append, fromRoot_cons (by simp [hfront]), ih hfront, fromRoot_cons hfront, List.append_assoc]

/-- A rooted path lies beneath another just if its segments go on from those of the other. -/
theorem fromRoot_beneath_iff {front all : List (List Char)} (hf : ∀ s ∈ front, '/' ∉ s) (ha : ∀ s ∈ all, '/' ∉ s)
    (hfn : front ≠ []) (han : all ≠ []) :
    (fromRoot all = fromRoot front ∨ (fromRoot front ++ ['/']) <+: fromRoot all) ↔ front <+: all := by
  have hall := splitOn_fromRoot ha han
  have hfront := splitOn_fromRoot hf hfn
  constructor
  · rintro (heq | ⟨rest, heq⟩)
    · rw [heq, hfront] at hall
      exact (List.cons.inj hall).2 ▸ List.prefix_rfl
    · rw [← heq, List.append_assoc, List.singleton_append, List.splitOn_append_cons_self, hfront, List.cons_append] at hall
      exact ⟨_, (List.cons.inj hall).2⟩
  · rintro ⟨back, rfl⟩
    by_cases hb : back = []
    · exact Or.inl (by rw [hb, List.append_nil])
    · refine Or.inr ⟨['/'].intercalate back, ?_⟩
      rw [fromRoot_append hfn hb, List.append_assoc]
      rfl

/-- An empty segment at the end is a slash, behind the root it is nothing. -/
theorem fromRoot_slash (segments : List (List Char)) :
    fromRoot (segments ++ [[]]) = fromRoot segments ++ if segments = [] then [] else ['/'] := by
  by_cases h : segments = []
  · subst h
    rfl
  · rw [fromRoot_append h (by simp), if_neg h]
    rfl

/-- Where no slash follows another, no segment is empty but perhaps the last. -/
theorem nil_not_mem_dropLast {path : List Char} (h : ¬ ['/', '/'] <:+: '/' :: path) :
    [] ∉ (path.splitOn '/').dropLast := by
  -- An empty segment with another one behind it stands between two slashes.
  intro hmem
  obtain ⟨front, back, hsplit⟩ := List.mem_iff_append.mp hmem
  obtain ⟨last, hall⟩ : ∃ last, path.splitOn '/' = front ++ [] :: (back ++ [last]) := by
    refine ⟨(path.splitOn '/').getLast (List.splitOn_ne_nil '/' path), ?_⟩
    have := (List.dropLast_concat_getLast (List.splitOn_ne_nil '/' path)).symm
    rw [hsplit] at this
    simpa using this
  have hpath : '/' :: path = fromRoot (path.splitOn '/') := by rw [fromRoot, List.intercalate_splitOn]
  refine h ?_
  rw [hpath, hall]
  by_cases hfront : front = []
  · rw [hfront, List.nil_append, fromRoot_cons (by simp)]
    exact ⟨[], _, rfl⟩
  · rw [fromRoot_append hfront (by simp), fromRoot_cons (by simp)]
    exact ⟨fromRoot front, ['/'].intercalate (back ++ [last]), by simp [fromRoot]⟩

theorem foldl_keep_plain {segments : List (List Char)} (h : ∀ s ∈ segments, IsPlain s) (root : Bool)
    (kept : List (List Char)) : segments.foldl (keep root) kept = (nonEmpty segments).reverse ++ kept := by
  induction segments generalizing kept with
  | nil => rfl
  | cons s segments ih =>
    have hplain := h s List.mem_cons_self
    rw [List.foldl_cons, ih fun s hs => h s (List.mem_cons_of_mem _ hs)]
    by_cases hs : s = []
    · simp [hs, nonEmpty]
    · simp [nonEmpty, hs, keep, hplain.ne_here, hplain.ne_up]

theorem exists_last_slash {path : List Char} (h : '/' ∈ path) :
    ∃ front last, path = front ++ '/' :: last ∧ '/' ∉ last := by
  induction path with
  | nil => cases h
  | cons c cs ih =>
    by_cases hcs : '/' ∈ cs
    · obtain ⟨front, last, rfl, hlast⟩ := ih hcs
      exact ⟨c :: front, last, rfl, hlast⟩
    · have hc : '/' = c := (List.mem_cons.mp h).resolve_right hcs
      exact ⟨[], cs, by rw [← hc]; rfl, hcs⟩

theorem upToLastSlash_append {front last : List Char} (h : '/' ∉ last) :
    upToLastSlash (front ++ '/' :: last) = front ++ ['/'] := by
  have hall : ∀ c ∈ last.reverse, (c != '/') = true := by
    intro c hc
    exact bne_iff_ne.mpr fun heq => h (heq ▸ List.mem_reverse.mp hc)
  rw [upToLastSlash, List.reverse_append, List.reverse_cons, List.append_assoc,
    List.dropWhile_append_of_pos hall]
  simp

/-- In front of the last slash stand all segments but the last. -/
theorem splitOn_upToLastSlash {path : List Char} (h : '/' ∈ path) :
    (upToLastSlash path).splitOn '/' = (path.splitOn '/').dropLast ++ [[]] := by
  obtain ⟨front, last, rfl, hlast⟩ := exists_last_slash h
  rw [upToLastSlash_append hlast, List.splitOn_append_cons_self, List.splitOn_append_cons_self,
    List.splitOn_eq_singleton hlast]
  simp

/-! ### Directories -/

section
variable {segments : List (List Char)}

theorem dir_fromRoot (hne : segments ≠ []) (hs : ∀ s ∈ segments, '/' ∉ s) (h : ∀ s ∈ segments, IsPlain s) :
    dir (String.ofList (fromRoot segments)) = String.ofList (fromRoot (nonEmpty segments.dropLast)) := by
  have hroot : (fromRoot segments).head? = some '/' := rfl
  have hrooted : (String.ofList (upToLastSlash (fromRoot segments))).toList.head? = some '/' := by
    rw [String.toList_ofList]
    exact head?_upToLastSlash hroot
  have hplain : ∀ s ∈ segments.dropLast, IsPlain s := fun s hs => h s (List.dropLast_subset _ hs)
  have hsplit : (upToLastSlash (fromRoot segments)).splitOn '/' = [] :: (segments.dropLast ++ [[]]) := by
    rw [splitOn_upToLastSlash (by simp [fromRoot]), splitOn_fromRoot hs hne, List.dropLast_cons_of_ne_nil hne]
    rfl
  rw [dir, String.toList_ofList, clean_of_rooted hrooted, String.toList_ofList, names, hsplit, List.foldl_cons, keep_nil,
    List.foldl_append, foldl_keep_plain hplain]
  simp

/-- What is put behind a path of names goes on from them. -/
theorem names_behind {front : List (List Char)} (hf : ∀ s ∈ front, IsName s) (path : List Char) :
    names (fromRoot front ++ '/' :: path) = ((path.splitOn '/').foldl (keep true) front.reverse).reverse := by
  rw [names, List.splitOn_append_cons_self, List.foldl_append, foldl_keep_fromRoot hf, List.append_nil]

end
end Gateway.Path
