import Gateway.Proofs.Path.Names
import Mathlib.Data.List.Induction
import Mathlib.Logic.Relation
import Mathlib.Tactic.ByContra

/-! Shortening the segments of a path. An empty segment and `.` say nothing, a climb takes back what leads on right before it,
    and at the root it is idle. However such steps follow each other, they come to the same segments in the end: those kept
    when the segments are taken up one after the other. Taking up does not see a step, and what is kept is reached by steps. -/

namespace Gateway.Path.Lexical

/-- One step that makes the segments of a path fewer. -/
inductive Shortens (rooted : Bool) : List (List Char) → List (List Char) → Prop
  | drop {s : List Char} (front back : List (List Char)) (h : s = [] ∨ s = ['.']) :
    Shortens rooted (front ++ s :: back) (front ++ back)
  | undo {s : List Char} (front back : List (List Char)) (h : s ∉ [[], ['.'], ['.', '.']]) :
    Shortens rooted (front ++ s :: ['.', '.'] :: back) (front ++ back)
  | stay (back : List (List Char)) (h : rooted = true) : Shortens rooted (['.', '.'] :: back) back

/-- Any number of steps. -/
abbrev ShortensTo (rooted : Bool) : List (List Char) → List (List Char) → Prop :=
  Relation.ReflTransGen (Shortens rooted)

/-- No step is left. -/
def IsShortest (rooted : Bool) (segments : List (List Char)) : Prop := ∀ fewer, ¬ Shortens rooted segments fewer

variable {rooted : Bool} {segments fewer kept back : List (List Char)} {s : List Char}

theorem Shortens.length_lt (h : Shortens rooted segments fewer) : fewer.length < segments.length := by
  cases h with
  | drop front back h => simp
  | undo front back h =>
    simp only [List.length_append, List.length_cons]
    omega
  | stay back h => simp

theorem Shortens.subset (h : Shortens rooted segments fewer) : fewer ⊆ segments := by
  cases h with
  | drop front back h => exact List.append_subset.mpr ⟨by simp, fun s hs => by simp [hs]⟩
  | undo front back h => exact List.append_subset.mpr ⟨by simp, fun s hs => by simp [hs]⟩
  | stay back h => exact List.subset_cons_self _ _

theorem ShortensTo.subset (h : ShortensTo rooted segments fewer) : fewer ⊆ segments := by
  induction h with
  | refl => exact List.Subset.refl _
  | tail _ hstep ih => exact List.Subset.trans hstep.subset ih

/-! ### Taking up does not see a step -/

theorem foldl_keep_drop (front back : List (List Char)) (h : s = [] ∨ s = ['.']) :
    (front ++ s :: back).foldl (keep rooted) kept = (front ++ back).foldl (keep rooted) kept := by
  rw [List.foldl_append, List.foldl_cons, keep_idle h, List.foldl_append]

theorem foldl_keep_undo (front back : List (List Char)) (h : s ∉ [[], ['.'], ['.', '.']]) :
    (front ++ s :: ['.', '.'] :: back).foldl (keep rooted) kept = (front ++ back).foldl (keep rooted) kept := by
  have hup : s ≠ ['.', '.'] := fun heq => h (by simp [heq])
  rw [List.foldl_append, List.foldl_cons, keep_on h, List.foldl_cons, keep_back hup, List.foldl_append]

theorem Shortens.foldl_keep (h : Shortens rooted segments fewer) :
    segments.foldl (keep rooted) [] = fewer.foldl (keep rooted) [] := by
  cases h with
  | drop front back h => exact foldl_keep_drop front back h
  | undo front back h => exact foldl_keep_undo front back h
  | stay back h =>
    subst h
    rfl

theorem ShortensTo.foldl_keep (h : ShortensTo rooted segments fewer) :
    segments.foldl (keep rooted) [] = fewer.foldl (keep rooted) [] := by
  induction h with
  | refl => rfl
  | tail _ hstep ih => exact ih.trans hstep.foldl_keep

/-- Steps that need no root can be made behind whatever has been kept, also on a rooted path. -/
theorem ShortensTo.foldl_keep_behind (h : ShortensTo false segments fewer) (rooted : Bool) (kept : List (List Char)) :
    segments.foldl (keep rooted) kept = fewer.foldl (keep rooted) kept := by
  induction h with
  | refl => rfl
  | tail _ hstep ih =>
    refine ih.trans ?_
    cases hstep with
    | drop front back h => exact foldl_keep_drop front back h
    | undo front back h => exact foldl_keep_undo front back h
    | stay back h => cases h

/-! ### What is kept is reached by steps -/

/-- A segment that may be kept. -/
structure IsKept (rooted : Bool) (segment : List Char) : Prop where
  ne_nil : segment ≠ []
  ne_here : segment ≠ ['.']
  ne_up : rooted = true → segment ≠ ['.', '.']

theorem isKept_keep (hk : ∀ s ∈ kept, IsKept rooted s) (s : List Char) : ∀ t ∈ keep rooted kept s, IsKept rooted t := by
  by_cases hidle : s = [] ∨ s = ['.']
  · rwa [keep_idle hidle]
  obtain ⟨hnil, hhere⟩ := not_or.mp hidle
  by_cases hup : s = ['.', '.']
  · subst hup
    cases kept with
    | nil =>
      cases rooted with
      | true => simp [keep]
      | false =>
        intro t ht
        obtain rfl : t = ['.', '.'] := by simpa [keep] using ht
        exact ⟨hnil, hhere, fun hrooted => absurd hrooted Bool.false_ne_true⟩
    | cons last kept =>
      by_cases hlast : last = ['.', '.']
      · subst hlast
        cases rooted with
        | true => exact absurd rfl ((hk _ List.mem_cons_self).ne_up rfl)
        | false =>
          intro t ht
          obtain rfl | ht : t = ['.', '.'] ∨ t ∈ ['.', '.'] :: kept := by simpa [keep] using ht
          · exact ⟨hnil, hhere, fun hrooted => absurd hrooted Bool.false_ne_true⟩
          · exact hk t ht
      · rw [keep_back hlast]
        exact fun t ht => hk t (List.mem_cons_of_mem _ ht)
  · rw [keep_on (by simp [hnil, hhere, hup])]
    intro t ht
    rcases List.mem_cons.mp ht with rfl | ht
    · exact ⟨hnil, hhere, fun _ => hup⟩
    · exact hk t ht

theorem shortensTo_keep (hk : ∀ s ∈ kept, IsKept rooted s) (s : List Char) (back : List (List Char)) :
    ShortensTo rooted (kept.reverse ++ s :: back) ((keep rooted kept s).reverse ++ back) := by
  by_cases hidle : s = [] ∨ s = ['.']
  · rw [keep_idle hidle]
    exact .single (.drop _ _ hidle)
  obtain ⟨hnil, hhere⟩ := not_or.mp hidle
  by_cases hup : s = ['.', '.']
  · subst hup
    cases kept with
    | nil =>
      cases rooted with
      | true => exact .single (.stay back rfl)
      | false => exact .refl
    | cons last kept =>
      have hlast := hk last List.mem_cons_self
      by_cases hclimb : last = ['.', '.']
      · subst hclimb
        cases rooted with
        | true => exact absurd rfl (hlast.ne_up rfl)
        | false => simpa [keep] using Relation.ReflTransGen.refl
      · rw [keep_back hclimb, List.reverse_cons, List.append_assoc]
        exact .single (.undo _ _ (by simp [hlast.ne_nil, hlast.ne_here, hclimb]))
  · rw [keep_on (by simp [hnil, hhere, hup])]
    simpa using Relation.ReflTransGen.refl

/-- The induction is on the segments not taken up yet; those kept stand in front of them. -/
theorem shortensTo_foldl_keep (hk : ∀ s ∈ kept, IsKept rooted s) (segments : List (List Char)) :
    ShortensTo rooted (kept.reverse ++ segments) (segments.foldl (keep rooted) kept).reverse := by
  induction segments generalizing kept with
  | nil => simpa using Relation.ReflTransGen.refl
  | cons s segments ih => exact (shortensTo_keep hk s segments).trans (ih (isKept_keep hk s))

theorem shortensTo_normal (path : Lexical) : ShortensTo path.rooted path.segments path.normal.segments :=
  shortensTo_foldl_keep (List.forall_mem_nil _) path.segments

/-! ### The segments that all steps come to -/

theorem length_keep_le (rooted : Bool) (kept : List (List Char)) (s : List Char) :
    (keep rooted kept s).length ≤ kept.length + 1 := by
  unfold keep
  grind

theorem length_foldl_keep_le (segments kept : List (List Char)) :
    (segments.foldl (keep rooted) kept).length ≤ kept.length + segments.length := by
  induction segments generalizing kept with
  | nil => simp
  | cons s segments ih =>
    have hkeep := length_keep_le rooted kept s
    have hrest := ih (keep rooted kept s)
    rw [List.foldl_cons, List.length_cons]
    omega

/-- What is kept is kept again. -/
theorem foldl_keep_normal (path : Lexical) :
    path.normal.segments.foldl (keep path.rooted) [] = path.segments.foldl (keep path.rooted) [] :=
  (shortensTo_normal path).foldl_keep.symm

/-- A step from what is kept would leave fewer segments to keep than are kept. -/
theorem isShortest_normal (path : Lexical) : IsShortest path.rooted path.normal.segments := by
  intro fewer hstep
  have hsame : fewer.foldl (keep path.rooted) [] = path.segments.foldl (keep path.rooted) [] :=
    hstep.foldl_keep.symm.trans (foldl_keep_normal path)
  have hle : (fewer.foldl (keep path.rooted) []).length ≤ [].length + fewer.length := length_foldl_keep_le fewer []
  have hlt := hstep.length_lt
  rw [hsame] at hle
  rw [normal, List.length_reverse] at hlt
  rw [List.length_nil] at hle
  omega

theorem IsShortest.eq (h : IsShortest rooted segments) (hto : ShortensTo rooted segments fewer) : fewer = segments := by
  rcases hto.cases_head with heq | ⟨_, hstep, -⟩
  · exact heq.symm
  · exact absurd hstep (h _)

/-- All ways of shortening a path that cannot go on have come to the same segments. -/
theorem shortest_iff (path : Lexical) {final : List (List Char)} :
    ShortensTo path.rooted path.segments final ∧ IsShortest path.rooted final ↔ final = path.normal.segments := by
  constructor
  · rintro ⟨hto, hshortest⟩
    -- The end of any way comes to what is kept of it, and that is what is kept of the path.
    have hend := shortensTo_normal ⟨path.rooted, final⟩
    rw [← hshortest.eq hend]
    simp only [normal, hto.foldl_keep]
  · rintro rfl
    exact ⟨shortensTo_normal path, isShortest_normal path⟩

/-- No way of shortening goes on for ever. -/
theorem exists_not_shortens (way : Nat → List (List Char)) : ∃ n, ¬ Shortens rooted (way n) (way (n + 1)) := by
  by_contra hall
  simp only [not_exists, not_not] at hall
  have hbound : ∀ n, (way n).length + n ≤ (way 0).length := by
    intro n
    induction n with
    | zero => simp
    | succ n ih =>
      have := (hall n).length_lt
      omega
  have := hbound ((way 0).length + 1)
  omega

/-! ### Climbs -/

/-- What cannot be shortened climbs only at its start, and not from the root. -/
theorem IsShortest.climbs (h : IsShortest rooted segments) {front : List (List Char)}
    (hclimb : segments = front ++ ['.', '.'] :: back) : rooted = false ∧ ∀ s ∈ front, s = ['.', '.'] := by
  induction front using List.reverseRecOn generalizing back with
  | nil =>
    refine ⟨?_, by simp⟩
    cases rooted with
    | true =>
      subst hclimb
      exact absurd (Shortens.stay back rfl) (h back)
    | false => rfl
  | append_singleton front s ih =>
    rw [List.append_assoc, List.singleton_append] at hclimb
    have hs : s = ['.', '.'] := by
      by_contra hup
      by_cases hidle : s = [] ∨ s = ['.']
      · exact h _ (hclimb ▸ Shortens.drop _ _ hidle)
      · obtain ⟨hnil, hhere⟩ := not_or.mp hidle
        exact h _ (hclimb ▸ Shortens.undo _ _ (by simp [hnil, hhere, hup]))
    subst hs
    obtain ⟨hrooted, hfront⟩ := ih hclimb
    refine ⟨hrooted, fun t ht => ?_⟩
    rcases List.mem_append.mp ht with ht | ht
    · exact hfront t ht
    · exact List.mem_singleton.mp ht

theorem IsShortest.not_idle (h : IsShortest rooted segments) : ∀ s ∈ segments, s ≠ [] ∧ s ≠ ['.'] := by
  intro s hs
  obtain ⟨front, back, rfl⟩ := List.mem_iff_append.mp hs
  exact ⟨fun hnil => h _ (.drop front back (Or.inl hnil)), fun hhere => h _ (.drop front back (Or.inr hhere))⟩

end Gateway.Path.Lexical
