import Gateway.Proofs.Path.Directories
import Gateway.Proofs.Text.Cutting
import Gateway.Routing.Target

/-! Selection. The segments in front of a path select the target, and nothing behind them has a say in it: with other
    segments behind it the same selection gives the same target but for its remainder. -/

namespace Gateway.Target

open Gateway.Path

theorem rooted_eq (segments : List (List Char)) : rooted segments = String.ofList (fromRoot segments) := rfl

/-- The segments of a path hold no slashes, and a path of slashes only has none of them. -/
theorem segments_inv (path : List Char) : segments path ≠ [[]] ∧ ∀ s ∈ segments path, '/' ∉ s := by
  unfold segments
  split
  · simp
  · rename_i hne
    refine ⟨fun hone => hne ?_, fun s => Text.not_mem_piece⟩
    exact (List.intercalate_splitOn '/').symm.trans (by rw [hone, List.intercalate_singleton])

/-- A path consists of segments with slashes between and around them, and the segments at the two ends are not empty. -/
structure IsCut (path : List Char) (segments : List (List Char)) : Prop where
  around : ∃ front back, path = front ++ ['/'].intercalate segments ++ back ∧ (∀ c ∈ front, c = '/') ∧ ∀ c ∈ back, c = '/'
  slash : ∀ s ∈ segments, '/' ∉ s
  first : segments.head? ≠ some []
  last : segments.getLast? ≠ some []

section Cut
variable {path : List Char} {parts : List (List Char)}

/-- A path can be cut in one way only. -/
theorem segments_of_isCut (h : IsCut path parts) : segments path = parts := by
  obtain ⟨⟨front, back, rfl, hf, hb⟩, hs, hfirst, hlast⟩ := h
  have htrim : Text.trim (· == '/') (front ++ ['/'].intercalate parts ++ back) = ['/'].intercalate parts := by
    refine Text.trim_between (by simpa using hf) (by simpa using hb) (fun c hc => ?_) (fun c hc => ?_)
    · exact beq_eq_false_iff_ne.mpr fun heq => head?_intercalate_segments hs hfirst (heq ▸ hc)
    · exact beq_eq_false_iff_ne.mpr fun heq => getLast?_intercalate_segments hs hlast (heq ▸ hc)
  unfold segments
  rw [htrim]
  cases parts with
  | nil => rfl
  | cons s parts =>
    have hsplit := List.splitOn_intercalate '/' hs (List.cons_ne_nil s parts)
    split
    · rename_i hnil
      rw [hnil] at hsplit
      exact absurd (congrArg List.head? hsplit).symm hfirst
    · exact hsplit

theorem isCut_segments (path : List Char) : IsCut path (segments path) := by
  obtain ⟨hone, hslash⟩ := segments_inv path
  obtain ⟨front, back, hpath, hf, hb⟩ := Text.exists_around_trim (· == '/') path
  have hall : ['/'].intercalate (segments path) = Text.trim (· == '/') path := by
    unfold segments
    split
    · rename_i hnil
      exact hnil.symm
    · exact List.intercalate_splitOn '/'
  have hhead : ∀ c, (['/'].intercalate (segments path)).head? = some c → c ≠ '/' := fun c hc =>
    beq_eq_false_iff_ne.mp (Text.head?_trim (p := (· == '/')) (hall ▸ hc))
  have hlast : ∀ c, (['/'].intercalate (segments path)).getLast? = some c → c ≠ '/' := fun c hc =>
    beq_eq_false_iff_ne.mp (Text.getLast?_trim (p := (· == '/')) (hall ▸ hc))
  refine ⟨⟨front, back, hall ▸ hpath, by simpa using hf, by simpa using hb⟩, hslash, fun h => ?_, fun h => ?_⟩
  · obtain ⟨rest, hrest⟩ := List.head?_eq_some_iff.mp h
    rw [hrest] at hone hhead
    have hne : rest ≠ [] := fun hnil => hone (by rw [hnil])
    obtain ⟨next, more, rfl⟩ := List.exists_cons_of_ne_nil hne
    exact hhead '/' (by simp [List.intercalate_cons_cons]) rfl
  · obtain ⟨init, hinit⟩ := List.getLast?_eq_some_iff.mp h
    rw [hinit] at hone hlast
    have hne : init ≠ [] := fun hnil => hone (by rw [hnil]; rfl)
    have hslash := fromRoot_slash init
    rw [if_neg hne, fromRoot, fromRoot, List.cons_append, List.cons.injEq] at hslash
    exact hlast '/' (by rw [hslash.2, List.getLast?_concat]) rfl

end Cut

/-- A rooted path of names, with or without a slash behind it, has these names as its segments. -/
theorem segments_fromRoot {names : List (List Char)} (h : ∀ s ∈ names, IsName s) {tail : List Char}
    (ht : ∀ c ∈ tail, c = '/') : segments (fromRoot names ++ tail) = names :=
  segments_of_isCut ⟨⟨['/'], tail, rfl, by simp, ht⟩, fun s hs => (h s hs).slash, head?_ne_nil h, getLast?_ne_nil h⟩

/-- The target with another remainder. -/
def withRemainder (target : Target) (remainder : List (List Char)) (trailingSlash : Bool) : Target :=
  { target with remainder := remainder.map String.ofList, trailingSlash }

/-- A path that selects a target starts with at least four segments that do so, whatever the rest of it is. -/
theorem ofPath_inv {mount path : String} {target : Target} (h : ofPath mount path = .ok target) :
    ∃ selection rest, segments path.toList = selection ++ rest ∧ 4 ≤ selection.length ∧
      target.base = rooted selection ∧ target.remainder = rest.map String.ofList ∧
      target.trailingSlash = (path.toList.getLast? == some '/') ∧
      ∀ path' rest', segments path'.toList = selection ++ rest' →
        ofPath mount path' = .ok (target.withRemainder rest' (path'.toList.getLast? == some '/')) := by
  unfold ofPath at h
  dsimp only at h
  split at h
  · rename_i mount' space kind name rest hsegments
    split at h
    · rename_i hmount
      split at h
      · cases h
      · rename_i port remainder hkind
        obtain rfl := Except.ok.inj h
        refine ⟨[mount', space, kind, name, port], remainder, hsegments, by simp, rfl, rfl, rfl, fun path' rest' h' => ?_⟩
        simp [ofPath, h', hmount, hkind, withRemainder]
      · rename_i remainder hkind
        obtain rfl := Except.ok.inj h
        refine ⟨[mount', space, kind, name], _, hsegments, by simp, rfl, rfl, rfl, fun path' rest' h' => ?_⟩
        simp [ofPath, h', hmount, hkind, withRemainder]
    · cases h
  · cases h

/-- Behind a clean base any names, with or without a slash behind them, are the remainder of the same target. -/
theorem ofPath_clean_base {mount path : String} {target : Target} (h : ofPath mount path = .ok target)
    (hclean : clean target.base = target.base) :
    ∃ selection, (∀ s ∈ selection, IsName s) ∧ selection ≠ [] ∧ target.base = String.ofList (fromRoot selection) ∧
      ∀ names, (∀ s ∈ names, IsName s) → ∀ slash : Bool,
        ofPath mount (String.ofList (fromRoot (selection ++ names) ++ if slash then ['/'] else [])) =
          .ok (target.withRemainder names slash) := by
  obtain ⟨selection, rest, hsegments, hlength, hbase, -, -, hagain⟩ := ofPath_inv h
  have hne : selection ≠ [] := by
    rintro rfl
    simp at hlength
  have hselection : ∀ s ∈ selection, IsName s := by
    rw [hbase, rooted_eq] at hclean
    refine isName_of_clean (fun s hs => ?_) (by rintro rfl; simp at hlength) hclean
    exact (segments_inv path.toList).2 s (hsegments ▸ List.mem_append_left _ hs)
  refine ⟨selection, hselection, hne, hbase, fun names hnames slash => ?_⟩
  have hall : ∀ s ∈ selection ++ names, IsName s := fun s hs =>
    (List.mem_append.mp hs).elim (hselection s) (hnames s)
  have hall_ne : selection ++ names ≠ [] := by simp [hne]
  have hlast : (fromRoot (selection ++ names)).getLast? ≠ some '/' := mt (getLast?_fromRoot hall).mp hall_ne
  rw [hagain _ names (by rw [String.toList_ofList]; exact segments_fromRoot hall (by cases slash <;> simp)),
    String.toList_ofList]
  cases slash
  · rw [if_neg Bool.false_ne_true, List.append_nil, beq_eq_false_iff_ne.mpr hlast]
  · rw [if_pos rfl, List.getLast?_concat]
    rfl

/-- The part for the backend is the rooted path of the remainder, with the slash that the path ended in. -/
theorem toList_backendPath {target : Target} {rest : List (List Char)} (hs : ∀ s ∈ rest, '/' ∉ s)
    (hlast : rest.getLast? ≠ some []) (hr : target.remainder = rest.map String.ofList) :
    target.backendPath.toList = fromRoot rest ++ if target.trailingSlash = true ∧ rest ≠ [] then ['/'] else [] := by
  have hmap : target.remainder.map String.toList = rest := by simp [hr, Function.comp_def]
  simp only [backendPath, hmap, rooted_eq, String.toList_ofList, ne_eq, getLast?_fromRoot_segments hs hlast]
  split
  · simp
  · simp

theorem backendPath_withRemainder {target : Target} {names : List (List Char)} (h : ∀ s ∈ names, IsName s)
    (trailingSlash : Bool) : (target.withRemainder names trailingSlash).backendPath =
      String.ofList (fromRoot names ++ if trailingSlash ∧ names ≠ [] then ['/'] else []) := by
  rw [← String.toList_inj, String.toList_ofList]
  exact toList_backendPath (fun s hs => (h s hs).slash) (getLast?_ne_nil h) rfl

end Gateway.Target
