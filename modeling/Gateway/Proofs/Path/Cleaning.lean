import Gateway.Proofs.Path.Shortening

/-! Clean paths. A path is cleaned to its one shortest form, and what is written of that is read as it again: the segments, and
    whether there is a root. So there is nothing left to clean in it, it has no empty segment, and it climbs at its start only. -/

namespace Gateway.Path

namespace Lexical
variable {rooted : Bool} {segments : List (List Char)} {text : List Char}

/-! ### Segments, written -/

/-- What is written of some segments: from the root, with nothing to say, or on through them. -/
inductive Written : Bool → List (List Char) → List Char → Prop
  | root (segments : List (List Char)) : Written true segments (fromRoot segments)
  | here : Written false [] ['.']
  | on {segments : List (List Char)} (h : segments ≠ []) : Written false segments (['/'].intercalate segments)

theorem written_render (hs : ∀ s ∈ segments, '/' ∉ s) (hne : ∀ s ∈ segments, s ≠ []) (rooted : Bool) :
    Written rooted segments (render ⟨rooted, segments⟩) := by
  cases rooted with
  | true => exact .root segments
  | false =>
    by_cases hnil : segments = []
    · subst hnil
      exact .here
    · have hempty : ['/'].intercalate segments ≠ [] := by
        intro hempty
        have hsplit := List.splitOn_intercalate '/' hs hnil
        rw [hempty, List.splitOn_nil] at hsplit
        exact hne [] (hsplit ▸ List.mem_singleton_self []) rfl
      rw [show render ⟨false, segments⟩ = ['/'].intercalate segments from if_neg hempty]
      exact .on hnil

namespace Written

theorem ne_nil (h : Written rooted segments text) (hne : ∀ s ∈ segments, s ≠ []) : text ≠ [] := by
  cases h with
  | root => simp [fromRoot]
  | here => simp
  | on hnil =>
    obtain ⟨first, rest, rfl⟩ := List.exists_cons_of_ne_nil hnil
    have hfirst := hne first List.mem_cons_self
    cases rest <;> simp [hfirst]

theorem head?_iff (h : Written rooted segments text) (hs : ∀ s ∈ segments, '/' ∉ s) (hne : ∀ s ∈ segments, s ≠ []) :
    text.head? = some '/' ↔ rooted = true := by
  cases h with
  | root => simp [fromRoot]
  | here => simp
  | on hnil =>
    have hhead := head?_intercalate_segments hs fun hn => hne [] (List.mem_of_head? hn) rfl
    simpa using hhead

theorem eq_root (h : Written rooted segments text) (hs : ∀ s ∈ segments, '/' ∉ s) (hne : ∀ s ∈ segments, s ≠ [])
    (hlast : text.getLast? = some '/') : text = ['/'] := by
  have hfull : segments.getLast? ≠ some [] := fun hn => hne [] (List.mem_of_getLast? hn) rfl
  cases h with
  | root =>
    rw [(getLast?_fromRoot_segments hs hfull).mp hlast]
    rfl
  | here => simp at hlast
  | on hnil => exact absurd hlast (getLast?_intercalate_segments hs hfull)

/-- The segments of what is written, read again. -/
theorem splitOn_inv (h : Written rooted segments text) (hs : ∀ s ∈ segments, '/' ∉ s) :
    (segments = [] ∧ rooted = true ∧ text.splitOn '/' = [[], []]) ∨
      (segments = [] ∧ rooted = false ∧ text.splitOn '/' = [['.']]) ∨
      (segments ≠ [] ∧ text.splitOn '/' = if rooted then [] :: segments else segments) := by
  cases h with
  | root =>
    by_cases hnil : segments = []
    · subst hnil
      refine Or.inl ⟨rfl, rfl, ?_⟩
      show ([] ++ '/' :: []).splitOn '/' = _
      rw [List.splitOn_append_cons_self, List.splitOn_nil]
      rfl
    · exact Or.inr (Or.inr ⟨hnil, splitOn_fromRoot hs hnil⟩)
  | here => exact Or.inr (Or.inl ⟨rfl, rfl, List.splitOn_eq_singleton (by decide)⟩)
  | on hnil => exact Or.inr (Or.inr ⟨hnil, List.splitOn_intercalate '/' hs hnil⟩)

/-- Segments are kept alike before and after they are written. -/
theorem foldl_keep (h : Written rooted segments text) (hs : ∀ s ∈ segments, '/' ∉ s) (root : Bool)
    (kept : List (List Char)) : (text.splitOn '/').foldl (keep root) kept = segments.foldl (keep root) kept := by
  rcases h.splitOn_inv hs with ⟨rfl, -, hsplit⟩ | ⟨rfl, -, hsplit⟩ | ⟨-, hsplit⟩
  · rw [hsplit]
    simp
  · rw [hsplit, List.foldl_cons, keep_idle (Or.inr rfl)]
  · rw [hsplit]
    cases rooted <;> simp

theorem not_doubleSlash (h : Written rooted segments text) (hs : ∀ s ∈ segments, '/' ∉ s)
    (hne : ∀ s ∈ segments, s ≠ []) : ¬ ['/', '/'] <:+: text := by
  intro hdouble
  obtain ⟨front, back, hfront, hback, hall⟩ := splitOn_of_doubleSlash hdouble
  obtain ⟨first, rest, rfl⟩ := List.exists_cons_of_ne_nil hfront
  obtain ⟨next, more, rfl⟩ := List.exists_cons_of_ne_nil hback
  have hlong : 3 ≤ (text.splitOn '/').length := by
    rw [hall]
    simp only [List.length_append, List.length_cons]
    omega
  rcases h.splitOn_inv hs with ⟨-, -, hsplit⟩ | ⟨-, -, hsplit⟩ | ⟨-, hsplit⟩
  · simp [hsplit] at hlong
  · simp [hsplit] at hlong
  · have hmem : [] ∈ segments := by
      rw [hsplit] at hall
      cases rooted with
      | true => simp [(List.cons.inj hall).2]
      | false => simp [show segments = _ from hall]
    exact hne [] hmem rfl

/-- What is written of segments that cannot be shortened climbs only at its start, and not from the root. -/
theorem climbs (h : Written rooted segments text) (hs : ∀ s ∈ segments, '/' ∉ s) (hshort : IsShortest rooted segments)
    {front back : List (List Char)} (hclimb : text.splitOn '/' = front ++ ['.', '.'] :: back) :
    rooted = false ∧ ∀ s ∈ front, s = ['.', '.'] := by
  have hmem : ['.', '.'] ∈ text.splitOn '/' := by simp [hclimb]
  rcases h.splitOn_inv hs with ⟨-, -, hsplit⟩ | ⟨-, -, hsplit⟩ | ⟨-, hsplit⟩
  · simp [hsplit] at hmem
  · simp [hsplit] at hmem
  · rw [hsplit] at hclimb
    cases rooted with
    | true =>
      -- The segment before the root slash is empty, so the climb would stand among the segments.
      cases front with
      | nil => cases (List.cons.inj hclimb).1
      | cons first front => exact absurd (hshort.climbs (List.cons.inj hclimb).2).1 (by simp)
    | false => exact hshort.climbs hclimb

end Written
end Lexical

open Lexical

/-! ### What a path comes to -/

def shortest (path : String) : Lexical := (Lexical.read path.toList).normal

theorem rooted_shortest (path : String) : (shortest path).rooted = true ↔ path.toList.head? = some '/' := by
  simp [shortest, normal, Lexical.read]

theorem isShortest_shortest (path : String) : IsShortest (shortest path).rooted (shortest path).segments :=
  isShortest_normal (Lexical.read path.toList)

theorem ne_nil_shortest (path : String) : ∀ s ∈ (shortest path).segments, s ≠ [] := fun s hs =>
  ((isShortest_shortest path).not_idle s hs).1

theorem slash_shortest (path : String) : ∀ s ∈ (shortest path).segments, '/' ∉ s := fun _ hs =>
  Text.not_mem_piece ((shortensTo_normal (Lexical.read path.toList)).subset hs)

theorem written_clean (path : String) :
    Written (shortest path).rooted (shortest path).segments (clean path).toList := by
  rw [clean, String.toList_ofList]
  exact written_render (slash_shortest path) (ne_nil_shortest path) (shortest path).rooted

theorem clean_of_shortest {path other : String} (h : shortest path = shortest other) : clean path = clean other :=
  congrArg (fun lexical : Lexical => String.ofList lexical.render) h

/-! ### Reading a clean path -/

theorem clean_ne_empty (path : String) : clean path ≠ "" := fun hempty =>
  (written_clean path).ne_nil (ne_nil_shortest path) (congrArg String.toList hempty)

/-- A clean path is rooted just if the path is. -/
theorem head?_clean_iff (path : String) : (clean path).toList.head? = some '/' ↔ path.toList.head? = some '/' :=
  ((written_clean path).head?_iff (slash_shortest path) (ne_nil_shortest path)).trans (rooted_shortest path)

theorem rooted_clean (path : String) : (shortest (clean path)).rooted = (shortest path).rooted := by
  rw [Bool.eq_iff_iff, rooted_shortest, rooted_shortest, head?_clean_iff]

/-- The same segments are kept of a path and of the clean one. -/
theorem foldl_keep_clean (path : String) : ((clean path).toList.splitOn '/').foldl (keep (shortest path).rooted) [] =
    (path.toList.splitOn '/').foldl (keep (shortest path).rooted) [] :=
  ((written_clean path).foldl_keep (slash_shortest path) _ _).trans (foldl_keep_normal (Lexical.read path.toList))

theorem shortest_clean (path : String) : shortest (clean path) = shortest path := by
  have hkept : (shortest (clean path)).segments = (shortest path).segments := by
    show (((clean path).toList.splitOn '/').foldl (keep (shortest (clean path)).rooted) []).reverse = _
    rw [rooted_clean, foldl_keep_clean]
    rfl
  rw [Lexical.mk.injEq]
  exact ⟨rooted_clean path, hkept⟩

theorem clean_clean (path : String) : clean (clean path) = clean path := clean_of_shortest (shortest_clean path)

/-- What can be seen of a clean path. -/
structure IsTidy (path : String) : Prop where
  ne_empty : path ≠ ""
  slashes : ¬ ['/', '/'] <:+: path.toList
  last : path.toList.getLast? = some '/' → path = "/"
  climbs : ∀ front back, path.toList.splitOn '/' = front ++ ['.', '.'] :: back →
    path.toList.head? ≠ some '/' ∧ ∀ s ∈ front, s = ['.', '.']

theorem isTidy_clean (path : String) : IsTidy (clean path) := by
  have hwritten := written_clean path
  have hs := slash_shortest path
  have hne := ne_nil_shortest path
  refine ⟨clean_ne_empty path, hwritten.not_doubleSlash hs hne, fun hlast => ?_, fun front back hclimb => ?_⟩
  · exact String.toList_inj.mp (hwritten.eq_root hs hne hlast)
  · obtain ⟨hrooted, hfront⟩ := hwritten.climbs hs (isShortest_shortest path) hclimb
    refine ⟨fun hhead => ?_, hfront⟩
    rw [(hwritten.head?_iff hs hne).mp hhead] at hrooted
    cases hrooted

/-! ### The one shortest form -/

/-- All ways of shortening a path come to an end, and all to the same segments. -/
structure Lexical.ComesTo (path : Lexical) (segments : List (List Char)) : Prop where
  ends : ∀ way : Nat → List (List Char), ∃ n, ¬ Shortens path.rooted (way n) (way (n + 1))
  last_iff : ∀ last, ShortensTo path.rooted path.segments last ∧ IsShortest path.rooted last ↔ last = segments

/-- A path is cleaned to the one form that it can be shortened to, written out. -/
theorem clean_comes_to (path : String) : ∃ segments,
    (Lexical.read path.toList).ComesTo segments ∧
      (clean path).toList = (if path.toList.head? = some '/' then '/' :: ['/'].intercalate segments
        else if segments = [] then ['.'] else ['/'].intercalate segments) ∧
      IsTidy (clean path) ∧
      ((clean path).toList.head? = some '/' ↔ path.toList.head? = some '/') ∧
      clean (clean path) = clean path := by
  refine ⟨(shortest path).segments, ⟨exists_not_shortens, fun _ => shortest_iff _⟩, ?_, isTidy_clean path,
    head?_clean_iff path, clean_clean path⟩
  have hrooted := rooted_shortest path
  have hwritten := written_clean path
  generalize (shortest path).segments = segments at *
  generalize (shortest path).rooted = rooted at *
  generalize (clean path).toList = text at *
  cases hwritten with
  | root => rw [if_pos (hrooted.mp rfl), fromRoot]
  | here => rw [if_neg (mt hrooted.mpr Bool.false_ne_true), if_pos rfl]
  | on hnil => rw [if_neg (mt hrooted.mpr Bool.false_ne_true), if_neg hnil]

end Gateway.Path
