import Gateway.Proofs.Path.Cleaning

/-! Joining clean paths. What is put behind a path is taken up behind what is kept of it, and that is the same before and after
    the path is cleaned. A path without a root is shortened alike wherever it stands, so it may be cleaned before it is put
    behind another. A rooted one may not: cleaning lets go of the climbs at its root, so what is left goes on from any base. -/

namespace Gateway.Path

open Lexical

variable {base path : String}

theorem head?_behind (h : base ≠ "") (path : String) : (base ++ "/" ++ path).toList.head? = base.toList.head? := by
  obtain ⟨c, cs, hbase⟩ := List.exists_cons_of_ne_nil fun hnil : base.toList = [] => h (String.toList_inj.mp hnil)
  simp [hbase]

theorem rooted_behind (h : base ≠ "") (path : String) :
    (shortest (base ++ "/" ++ path)).rooted = (shortest base).rooted := by
  rw [Bool.eq_iff_iff, rooted_shortest, rooted_shortest, head?_behind h]

theorem rooted_behind_congr (base path other : String) :
    (shortest (base ++ "/" ++ path)).rooted = (shortest (base ++ "/" ++ other)).rooted := by
  by_cases h : base = ""
  · rw [Bool.eq_iff_iff, rooted_shortest, rooted_shortest]
    simp [h]
  · rw [rooted_behind h, rooted_behind h]

/-- The segments of both are taken up, one after the other. -/
theorem segments_behind (base path : String) : (shortest (base ++ "/" ++ path)).segments =
    ((path.toList.splitOn '/').foldl (keep (shortest (base ++ "/" ++ path)).rooted)
      ((base.toList.splitOn '/').foldl (keep (shortest (base ++ "/" ++ path)).rooted) [])).reverse := by
  have hsplit : (base ++ "/" ++ path).toList.splitOn '/' = base.toList.splitOn '/' ++ path.toList.splitOn '/' := by
    rw [show (base ++ "/" ++ path).toList = base.toList ++ '/' :: path.toList by simp, List.splitOn_append_cons_self]
  rw [← List.foldl_append, ← hsplit]
  rfl

theorem clean_base_behind (h : base ≠ "") (path : String) :
    clean (clean base ++ "/" ++ path) = clean (base ++ "/" ++ path) := by
  have hrooted : (shortest (clean base ++ "/" ++ path)).rooted = (shortest (base ++ "/" ++ path)).rooted := by
    rw [rooted_behind h, rooted_behind (clean_ne_empty base), rooted_clean]
  refine clean_of_shortest ?_
  rw [Lexical.mk.injEq]
  refine ⟨hrooted, ?_⟩
  rw [segments_behind, segments_behind, hrooted, rooted_behind h, foldl_keep_clean]

/-- An unrooted path is taken up behind anything as the clean one is. -/
theorem foldl_keep_clean_unrooted (h : path.toList.head? ≠ some '/') (rooted : Bool) (kept : List (List Char)) :
    ((clean path).toList.splitOn '/').foldl (keep rooted) kept = (path.toList.splitOn '/').foldl (keep rooted) kept := by
  have hunrooted : (Lexical.read path.toList).rooted = false := by
    rw [← Bool.not_eq_true]
    exact mt (rooted_shortest path).mp h
  have hto := shortensTo_normal (Lexical.read path.toList)
  rw [hunrooted] at hto
  exact ((written_clean path).foldl_keep (slash_shortest path) rooted kept).trans (hto.foldl_keep_behind rooted kept).symm

theorem clean_behind_clean (h : path.toList.head? ≠ some '/') (base : String) :
    clean (base ++ "/" ++ clean path) = clean (base ++ "/" ++ path) := by
  have hrooted := rooted_behind_congr base (clean path) path
  refine clean_of_shortest ?_
  rw [Lexical.mk.injEq]
  refine ⟨hrooted, ?_⟩
  rw [segments_behind, segments_behind, hrooted, foldl_keep_clean_unrooted h]

/-- A rooted path goes on from any base through its names. -/
theorem segments_behind_rooted (hb : base ≠ "") (h : path.toList.head? = some '/') :
    (shortest (base ++ "/" ++ clean path)).segments = (shortest base).segments ++ (shortest path).segments := by
  have hrooted : (Lexical.read path.toList).rooted = true := (rooted_shortest path).mpr h
  have hnames : ∀ s ∈ (shortest path).segments, IsName s := by
    rw [shortest, normal, hrooted]
    exact isName_names path.toList
  rw [segments_behind, rooted_behind hb, (written_clean path).foldl_keep (slash_shortest path), foldl_keep_names hnames,
    List.reverse_append, List.reverse_reverse]
  rfl

theorem join_eq_clean {elements parts : List String} (h : elements.filter (· != "") = parts) (hne : parts ≠ []) :
    join elements = clean ("/".intercalate parts) := by
  obtain ⟨first, rest, rfl⟩ := List.exists_cons_of_ne_nil hne
  rw [join, h]

theorem intercalate_append {parts more : List String} (hp : parts ≠ []) (hm : more ≠ []) :
    "/".intercalate (parts ++ more) = "/".intercalate parts ++ "/" ++ "/".intercalate more := by
  induction parts with
  | nil => exact absurd rfl hp
  | cons part parts ih =>
    by_cases hparts : parts = []
    · subst hparts
      obtain ⟨next, rest, rfl⟩ := List.exists_cons_of_ne_nil hm
      rw [List.singleton_append, String.intercalate_cons_cons, String.intercalate_singleton]
    · obtain ⟨next, rest, rfl⟩ := List.exists_cons_of_ne_nil hparts
      rw [List.cons_append, List.cons_append, String.intercalate_cons_cons, ← List.cons_append, ih hparts,
        String.intercalate_cons_cons]
      simp only [String.append_assoc]

theorem intercalate_ne_empty {parts : List String} (hp : parts ≠ []) (hne : ∀ part ∈ parts, part ≠ "") :
    "/".intercalate parts ≠ "" := by
  obtain ⟨first, rest, rfl⟩ := List.exists_cons_of_ne_nil hp
  have hfirst := hne first List.mem_cons_self
  cases rest with
  | nil => simpa using hfirst
  | cons next rest => simp [String.intercalate_cons_cons, hfirst]

/-- Joining may be done in two goes. -/
theorem join_join (elements more : List String) : join (join elements :: more) = join (elements ++ more) := by
  by_cases hnil : elements.filter (· != "") = []
  · simp [join, hnil]
  have hjoin := join_eq_clean rfl hnil
  have hall : ∀ part ∈ elements.filter (· != ""), part ≠ "" := fun part hpart => by
    simpa using (List.mem_filter.mp hpart).2
  have hfirst : (join elements :: more).filter (· != "") = [join elements] ++ more.filter (· != "") :=
    List.filter_cons_of_pos (by simp [hjoin, clean_ne_empty])
  have hboth : (elements ++ more).filter (· != "") = elements.filter (· != "") ++ more.filter (· != "") :=
    List.filter_append ..
  rw [join_eq_clean hfirst (by simp), join_eq_clean hboth (by simp [hnil]), hjoin]
  by_cases hmore : more.filter (· != "") = []
  · rw [hmore, List.append_nil, List.append_nil, String.intercalate_singleton, clean_clean]
  · rw [intercalate_append hnil hmore, intercalate_append (by simp) hmore, String.intercalate_singleton,
      clean_base_behind (intercalate_ne_empty hnil hall)]

theorem join_behind (hb : base ≠ "") (path : String) : join [base, clean path] = clean (base ++ "/" ++ clean path) := by
  have hfilter : [base, clean path].filter (· != "") = [base, clean path] := by
    simp [hb, clean_ne_empty]
  rw [join_eq_clean hfilter (by simp), String.intercalate_cons_cons, String.intercalate_singleton]

/-- The segments of a clean path; `.` and `/` have none. -/
def cleanSegments (text : List Char) : List (List Char) :=
  if text = ['.'] ∨ text = ['/'] then []
  else if text.head? = some '/' then (text.splitOn '/').tail
  else text.splitOn '/'

theorem cleanSegments_clean (path : String) : cleanSegments (clean path).toList = (shortest path).segments := by
  have hs := slash_shortest path
  have hidle := (isShortest_shortest path).not_idle
  have hwritten := written_clean path
  have hhead := hwritten.head?_iff hs fun s hmem => (hidle s hmem).1
  generalize (shortest path).segments = segments at *
  generalize (shortest path).rooted = rooted at *
  generalize (clean path).toList = text at *
  rcases hwritten.splitOn_inv hs with ⟨rfl, rfl, -⟩ | ⟨rfl, rfl, -⟩ | ⟨hnil, hsplit⟩
  · cases hwritten
    rfl
  · cases hwritten with
    | here => rfl
    | on hnil => exact absurd rfl hnil
  · have hlong : ¬ (text = ['.'] ∨ text = ['/']) := by
      rintro (rfl | rfl)
      · -- A lone `.` would be one of the segments.
        have hrooted : rooted = false := by simpa using hhead
        rw [hrooted, if_neg Bool.false_ne_true, List.splitOn_eq_singleton (by decide)] at hsplit
        exact (hidle ['.'] (hsplit ▸ List.mem_singleton_self _)).2 rfl
      · have hrooted : rooted = true := hhead.mp rfl
        rw [hrooted, show ['/'] = [] ++ '/' :: [] from rfl, List.splitOn_append_cons_self, List.splitOn_nil] at hsplit
        exact (hidle [] ((List.cons.inj hsplit).2 ▸ List.mem_singleton_self _)).1 rfl
    rw [cleanSegments, if_neg hlong, hsplit]
    cases rooted with
    | true => simp [hhead.mpr rfl]
    | false => simp [mt hhead.mp Bool.false_ne_true]

/-- Cleaning early never changes a join, and a clean rooted path never takes back a segment of its base. -/
theorem join_cleaned_early :
    (∀ elements more, join ([join elements] ++ more) = join (elements ++ more)) ∧
      (∀ base path, base ≠ "" → clean (clean base ++ "/" ++ path) = clean (base ++ "/" ++ path)) ∧
      (∀ base path, path.toList.head? ≠ some '/' → clean (base ++ "/" ++ clean path) = clean (base ++ "/" ++ path)) ∧
      ∀ base path, base ≠ "" → path.toList.head? = some '/' →
        cleanSegments (join [base, clean path]).toList =
            cleanSegments (clean base).toList ++ cleanSegments (clean path).toList ∧
          ((join [base, clean path]).toList.head? = some '/' ↔ (clean base).toList.head? = some '/') := by
  refine ⟨join_join, fun base path hb => clean_base_behind hb path, fun base path h => clean_behind_clean h base,
    fun base path hb h => ?_⟩
  rw [join_behind hb, cleanSegments_clean, cleanSegments_clean, cleanSegments_clean, segments_behind_rooted hb h,
    head?_clean_iff, head?_clean_iff, head?_behind hb]
  exact ⟨rfl, Iff.rfl⟩

theorem join_cleaned_early_climbing :
    "../a" ≠ "" ∧ "x/../../y".toList.head? ≠ some '/' ∧ "/../c".toList.head? = some '/' ∧
      clean (clean "../a" ++ "/" ++ "../../b") = clean ("../a" ++ "/" ++ "../../b") ∧
      clean ("../a" ++ "/" ++ clean "x/../../y") = clean ("../a" ++ "/" ++ "x/../../y") ∧
      cleanSegments (join ["../a", clean "/../c"]).toList = [['.', '.'], ['a'], ['c']] ∧
      ((join ["../a", clean "/../c"]).toList.head? = some '/' ↔ (clean "../a").toList.head? = some '/') := by
  obtain ⟨hsegments, hroot⟩ := join_cleaned_early.2.2.2 "../a" "/../c" (by decide) (by decide)
  refine ⟨by decide, by decide, by decide, join_cleaned_early.2.1 _ _ (by decide),
    join_cleaned_early.2.2.1 _ _ (by decide), hsegments.trans ?_, hroot⟩
  decide +kernel

end Gateway.Path
