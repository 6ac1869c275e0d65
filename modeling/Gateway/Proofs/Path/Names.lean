import Gateway.Path
import Gateway.Proofs.Text.Pieces

/-! Clean paths are written from names, the segments that mean themselves. A name always stays, on a rooted path
    nothing else does, and a rooted path that is written from names gives them back when it is read. So the clean
    rooted paths are those that are written from names, and each in one way only. -/

namespace Gateway.Path

/-- Between two slashes in a row is an empty segment, and there are others on both sides of it. -/
theorem splitOn_of_doubleSlash {path : List Char} (h : ['/', '/'] <:+: path) :
    ∃ front back, front ≠ [] ∧ back ≠ [] ∧ path.splitOn '/' = front ++ [] :: back := by
  obtain ⟨before, after, rfl⟩ := h
  refine ⟨_, _, List.splitOn_ne_nil '/' before, List.splitOn_ne_nil '/' after, ?_⟩
  rw [show before ++ ['/', '/'] ++ after = before ++ '/' :: ([] ++ '/' :: after) by simp,
    List.splitOn_append_cons_self, List.splitOn_append_cons_self]
  rfl

/-! ### Names -/

/-- A segment that means itself: there is something in it, and it is no dot segment. -/
structure IsName (segment : List Char) : Prop where
  ne_nil : segment ≠ []
  ne_here : segment ≠ ['.']
  ne_up : segment ≠ ['.', '.']
  slash : '/' ∉ segment

/-- The path from the root through some segments. -/
def fromRoot (segments : List (List Char)) : List Char := '/' :: ['/'].intercalate segments

section Written
variable {names more parts : List (List Char)}

theorem splitOn_fromRoot (h : ∀ s ∈ names, '/' ∉ s) (hne : names ≠ []) :
    (fromRoot names).splitOn '/' = [] :: names := by
  show ([] ++ '/' :: ['/'].intercalate names).splitOn '/' = _
  rw [List.splitOn_append_cons_self, List.splitOn_intercalate '/' h hne]
  rfl

/-! Segments without slashes, of which the one at an end is not empty, have no slash at that end. -/

theorem head?_intercalate_segments (hs : ∀ s ∈ parts, '/' ∉ s) (h : parts.head? ≠ some []) :
    (['/'].intercalate parts).head? ≠ some '/' := by
  cases parts with
  | nil => simp
  | cons s parts =>
    intro hc
    have hsplit := List.splitOn_intercalate '/' hs (List.cons_ne_nil s parts)
    obtain ⟨rest, hrest⟩ := List.head?_eq_some_iff.mp hc
    rw [hrest, ← List.nil_append ('/' :: rest), List.splitOn_append_cons_self] at hsplit
    exact h (congrArg List.head? hsplit).symm

theorem getLast?_fromRoot_segments (hs : ∀ s ∈ parts, '/' ∉ s) (hlast : parts.getLast? ≠ some []) :
    (fromRoot parts).getLast? = some '/' ↔ parts = [] := by
  refine ⟨fun hc => Classical.byContradiction fun hne => ?_, fun h => by rw [h]; rfl⟩
  obtain ⟨front, hfront⟩ := List.getLast?_eq_some_iff.mp hc
  have hsplit := splitOn_fromRoot hs hne
  rw [hfront, List.splitOn_append_cons_self] at hsplit
  refine hlast ?_
  rw [← List.getLast?_cons_of_ne_nil (x := []) hne, ← hsplit]
  simp

theorem getLast?_intercalate_segments (hs : ∀ s ∈ parts, '/' ∉ s) (h : parts.getLast? ≠ some []) :
    (['/'].intercalate parts).getLast? ≠ some '/' := by
  intro hc
  have hne : ['/'].intercalate parts ≠ [] := by
    intro hnil
    simp [hnil] at hc
  have hroot := (getLast?_fromRoot_segments hs h).mp (by rwa [fromRoot, List.getLast?_cons_of_ne_nil hne])
  exact hne (by rw [hroot]; rfl)

theorem head?_ne_nil (h : ∀ s ∈ names, IsName s) : names.head? ≠ some [] := fun hn =>
  (h [] (List.mem_of_head? hn)).ne_nil rfl

theorem getLast?_ne_nil (h : ∀ s ∈ names, IsName s) : names.getLast? ≠ some [] := fun hn =>
  (h [] (List.mem_of_getLast? hn)).ne_nil rfl

theorem intercalate_ne_nil (h : ∀ s ∈ names, IsName s) (hne : names ≠ []) : ['/'].intercalate names ≠ [] := by
  intro hnil
  have hsplit := List.splitOn_intercalate '/' (fun s hs => (h s hs).slash) hne
  rw [hnil] at hsplit
  exact head?_ne_nil h (hsplit ▸ rfl)

/-- A rooted path of names ends in a slash only if it is the root. -/
theorem getLast?_fromRoot (h : ∀ s ∈ names, IsName s) : (fromRoot names).getLast? = some '/' ↔ names = [] :=
  getLast?_fromRoot_segments (fun s hs => (h s hs).slash) (getLast?_ne_nil h)

/-- Only the root is a slash. -/
theorem fromRoot_eq_root (h : ∀ s ∈ names, IsName s) : fromRoot names = ['/'] ↔ names = [] := by
  refine ⟨fun heq => (getLast?_fromRoot h).mp (by simp [heq]), fun hnil => by simp [hnil, fromRoot]⟩

/-- A rooted path of names has no two slashes in a row, also when a slash is put behind it. -/
theorem not_doubleSlash_fromRoot (h : ∀ s ∈ names, IsName s) (hne : names ≠ []) {tail : List Char}
    (ht : tail = [] ∨ tail = ['/']) : ¬ ['/', '/'] <:+: fromRoot names ++ tail := by
  intro hdouble
  obtain ⟨front, back, hfront, hback, hsplit⟩ := splitOn_of_doubleSlash hdouble
  obtain ⟨first, rest, rfl⟩ := List.exists_cons_of_ne_nil hfront
  have hslash : ∀ s ∈ names, '/' ∉ s := fun s hs => (h s hs).slash
  have hmem : [] ∈ names := by
    rcases ht with rfl | rfl
    · rw [List.append_nil, splitOn_fromRoot hslash hne, List.cons_append, List.cons.injEq] at hsplit
      rw [hsplit.2]
      simp
    · rw [List.splitOn_append_cons_self, splitOn_fromRoot hslash hne, List.splitOn_nil, List.cons_append,
        List.cons_append, List.cons.injEq] at hsplit
      rw [← List.dropLast_concat_getLast hback, ← List.cons_append, ← List.append_assoc] at hsplit
      rw [(List.append_inj' hsplit.2 rfl).1]
      simp
  exact (h [] hmem).ne_nil rfl

/-! ### Keeping -/

namespace Lexical

section Segment
variable {rooted : Bool} {kept : List (List Char)} {segment last : List Char}

theorem keep_idle (h : segment = [] ∨ segment = ['.']) : keep rooted kept segment = kept := if_pos h

theorem keep_on (h : segment ∉ [[], ['.'], ['.', '.']]) : keep rooted kept segment = segment :: kept := by
  simp only [List.mem_cons, List.not_mem_nil, or_false, not_or] at h
  unfold keep
  rw [if_neg (not_or.mpr ⟨h.1, h.2.1⟩), if_neg h.2.2]

theorem keep_back (h : last ≠ ['.', '.']) : keep rooted (last :: kept) ['.', '.'] = kept := by
  simp [keep, h]

end Segment

theorem keep_name {segment : List Char} (h : IsName segment) (root : Bool) (kept : List (List Char)) :
    keep root kept segment = segment :: kept :=
  keep_on (by simp [h.ne_nil, h.ne_here, h.ne_up])

@[simp] theorem keep_nil (root : Bool) (kept : List (List Char)) : keep root kept [] = kept := keep_idle (Or.inl rfl)

theorem foldl_keep_names (h : ∀ s ∈ names, IsName s) (root : Bool) (kept : List (List Char)) :
    names.foldl (keep root) kept = names.reverse ++ kept := by
  induction names generalizing kept with
  | nil => rfl
  | cons s names ih =>
    rw [List.foldl_cons, keep_name (h s List.mem_cons_self), ih fun s hs => h s (List.mem_cons_of_mem _ hs)]
    simp

/-- On a rooted path a segment leaves only names behind: a climb takes back a name or nothing. -/
theorem isName_keep {kept : List (List Char)} {segment : List Char} (hk : ∀ s ∈ kept, IsName s)
    (hs : '/' ∉ segment) : ∀ s ∈ keep true kept segment, IsName s := by
  unfold keep
  split
  · exact hk
  · rename_i hplain
    split
    · cases kept with
      | nil => simp
      | cons last kept =>
        simp only [if_neg (hk last List.mem_cons_self).ne_up]
        exact fun s hs => hk s (List.mem_cons_of_mem _ hs)
    · rename_i hup
      intro s hmem
      rcases List.mem_cons.mp hmem with rfl | hmem
      · exact ⟨fun h => hplain (Or.inl h), fun h => hplain (Or.inr h), hup, hs⟩
      · exact hk s hmem

theorem isName_foldl_keep {kept segments : List (List Char)} (hk : ∀ s ∈ kept, IsName s)
    (hs : ∀ s ∈ segments, '/' ∉ s) : ∀ s ∈ segments.foldl (keep true) kept, IsName s := by
  induction segments generalizing kept with
  | nil => exact hk
  | cons segment segments ih =>
    exact ih (isName_keep hk (hs segment List.mem_cons_self)) fun s h => hs s (List.mem_cons_of_mem _ h)

/-- The segments of a rooted path of names leave the names behind. -/
theorem foldl_keep_fromRoot (h : ∀ s ∈ names, IsName s) (root : Bool) (kept : List (List Char)) :
    ((fromRoot names).splitOn '/').foldl (keep root) kept = names.reverse ++ kept := by
  by_cases hne : names = []
  · subst hne
    show (([] ++ '/' :: []).splitOn '/').foldl (keep root) kept = _
    rw [List.splitOn_append_cons_self]
    simp
  · rw [splitOn_fromRoot (fun s hs => (h s hs).slash) hne, List.foldl_cons, keep_nil, foldl_keep_names h]

end Lexical
end Written

/-! ### Clean rooted paths -/

open Lexical

/-- The names that a rooted path leads through. -/
def names (path : List Char) : List (List Char) := ((path.splitOn '/').foldl (keep true) []).reverse

theorem isName_names (path : List Char) : ∀ s ∈ names path, IsName s := by
  intro s hs
  exact isName_foldl_keep (by simp) (fun _ => Text.not_mem_piece) s (List.mem_reverse.mp hs)

/-- What follows a slash follows the names before it. -/
theorem names_append_fromRoot {front ns : List (List Char)} (hf : ∀ s ∈ front, IsName s) (h : ∀ s ∈ ns, IsName s) :
    names (fromRoot front ++ '/' :: fromRoot ns) = front ++ ns := by
  rw [names, List.splitOn_append_cons_self, List.foldl_append, foldl_keep_fromRoot hf, foldl_keep_fromRoot h]
  simp

theorem clean_of_rooted {path : String} (h : path.toList.head? = some '/') :
    clean path = String.ofList (fromRoot (names path.toList)) := by
  simp [clean, Lexical.read, normal, render, h, fromRoot, names]

theorem head?_clean {path : String} (h : path.toList.head? = some '/') : (clean path).toList.head? = some '/' := by
  simp [clean_of_rooted h, fromRoot]

/-- A rooted path of segments is clean only if all of them are names, the root aside. -/
theorem isName_of_clean {segments : List (List Char)} (hs : ∀ s ∈ segments, '/' ∉ s) (hone : segments ≠ [[]])
    (hc : clean (String.ofList (fromRoot segments)) = String.ofList (fromRoot segments)) :
    ∀ s ∈ segments, IsName s := by
  by_cases hne : segments = []
  · simp [hne]
  rw [clean_of_rooted (by simp [fromRoot]), String.ofList_inj, String.toList_ofList] at hc
  have hn := isName_names (fromRoot segments)
  generalize names (fromRoot segments) = ns at hc hn
  by_cases hns : ns = []
  · have := splitOn_fromRoot hs hne
    rw [← hc, (fromRoot_eq_root hn).mpr hns] at this
    refine absurd ?_ hone
    simpa [List.splitOn_cons_eq_if_modifyHead, eq_comm] using this
  · have := splitOn_fromRoot hs hne
    rw [← hc, splitOn_fromRoot (fun s h => (hn s h).slash) hns, List.cons.injEq] at this
    exact this.2 ▸ hn

/-! ### Directories and joins -/

theorem head?_upToLastSlash {path : List Char} (h : path.head? = some '/') :
    (upToLastSlash path).head? = some '/' := by
  obtain ⟨rest, rfl⟩ := List.head?_eq_some_iff.mp h
  unfold upToLastSlash
  rw [List.reverse_cons, List.dropWhile_append]
  split <;> simp

/-- The directory of a rooted path is rooted. -/
theorem head?_dir {path : String} (h : path.toList.head? = some '/') : (dir path).toList.head? = some '/' :=
  head?_clean (by simpa using head?_upToLastSlash h)

/-- A join of two rooted paths of names leads through the names of both. -/
theorem join_fromRoot {front ns : List (List Char)} (hf : ∀ s ∈ front, IsName s) (h : ∀ s ∈ ns, IsName s) :
    join [String.ofList (fromRoot front), String.ofList (fromRoot ns)] = String.ofList (fromRoot (front ++ ns)) := by
  have hjoin : join [String.ofList (fromRoot front), String.ofList (fromRoot ns)] =
      clean (String.ofList (fromRoot front ++ '/' :: fromRoot ns)) := by
    simp [join, fromRoot, String.intercalate_cons_cons, String.append_assoc]
  rw [hjoin, clean_of_rooted (by simp [fromRoot]), String.toList_ofList, names_append_fromRoot hf h]

end Gateway.Path
