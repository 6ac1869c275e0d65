import Gateway.Proofs.Routing.Selection

/-! The grammar of proxied paths. A path selects a backend just if its segments are enough and start with the mount keyword.
    Nothing of them is lost: they are the parts of the target one by one, and the base with the part for the backend behind
    it is a path of the same segments, which selects the same target again. -/

namespace Gateway.Target

open Gateway.Path

/-- A kind segment that asks for a pod: `pod` up to the case of its letters. -/
def IsPod (segment : List Char) : Prop := segment.map Char.toLower = ['p', 'o', 'd']

/-- Segments that select a backend under a mount keyword. -/
structure Accepts (mount : String) (parts : List (List Char)) : Prop where
  mount : parts[0]? = some mount.toList
  enough : 4 ≤ parts.length
  port : (∃ kind, parts[2]? = some kind ∧ IsPod kind) → 5 ≤ parts.length

/-- What the segments of a path say of the target. -/
structure Reads (parts : List (List Char)) (target : Target) : Prop where
  space : parts[1]? = some target.space.toList
  kind : target.kind = .pod ↔ ∃ kind, parts[2]? = some kind ∧ IsPod kind
  name : parts[3]? = some target.name.toList
  /-- A pod has the fifth segment for its port, and only a pod has a port. -/
  port : target.port.map String.toList = if target.kind = .pod then parts[4]? else none
  isSome_port : target.port.isSome ↔ target.kind = .pod
  remainder : target.remainder.map String.toList = parts.drop (if target.kind = .pod then 5 else 4)

/-- What a path with some segments selects. -/
structure Describes (mount path : String) (parts : List (List Char)) (target : Target) : Prop where
  reads : Reads parts target
  trailingSlash : target.trailingSlash = true ↔ path.toList.getLast? = some '/'
  written : (target.base ++ target.backendPath).toList = '/' :: ['/'].intercalate parts ++
    if path.toList.getLast? = some '/' ∨ target.remainder = [] then ['/'] else []
  again : ofPath mount (target.base ++ target.backendPath) =
    .ok { target with trailingSlash := target.trailingSlash || target.remainder.isEmpty }

variable {mount path : String} {target : Target}

theorem ofSegment_eq_pod {segment : List Char} : Kind.ofSegment segment = .pod ↔ IsPod segment := by
  simp [Kind.ofSegment, Text.sameCaseless, IsPod]

theorem reads_of_ofPath (h : ofPath mount path = .ok target) :
    Accepts mount (segments path.toList) ∧ Reads (segments path.toList) target := by
  unfold ofPath at h
  dsimp only at h
  split at h
  · rename_i mount' space kind name rest hsegments
    rw [hsegments]
    split at h
    · rename_i hmount
      split at h
      · cases h
      · rename_i port remainder hkind
        obtain rfl := Except.ok.inj h
        refine ⟨⟨by simp [hmount], by simp, fun _ => by simp⟩, ?_⟩
        exact ⟨by simp, by simpa using ofSegment_eq_pod.mp hkind, by simp, by simp, by simp, by simp⟩
      · rename_i remainder hkind
        obtain rfl := Except.ok.inj h
        have hpod : ¬ IsPod kind := fun hp => by
          rw [ofSegment_eq_pod.mpr hp] at hkind
          cases hkind
        refine ⟨⟨by simp [hmount], by simp, fun hp => absurd hp (by simpa using hpod)⟩, ?_⟩
        exact ⟨by simp, by simpa using hpod, by simp, by simp, by simp, by simp⟩
    · cases h
  · cases h

theorem error_of_ofPath {e : RoutingError} (h : ofPath mount path = .error e) :
    ¬ Accepts mount (segments path.toList) ∧ e = .malformed path := by
  unfold ofPath at h
  dsimp only at h
  split at h
  · rename_i mount' space kind name rest hsegments
    rw [hsegments]
    split at h
    · split at h
      · rename_i hkind
        cases h
        exact ⟨fun ha => absurd (ha.port ⟨kind, rfl, ofSegment_eq_pod.mp hkind⟩) (by simp), rfl⟩
      · cases h
      · cases h
    · rename_i hmount
      cases h
      exact ⟨fun ha => hmount (Option.some.inj ha.mount), rfl⟩
  · rename_i hshort
    cases h
    refine ⟨fun ha => ?_, rfl⟩
    have hlength := ha.enough
    match hparts : segments path.toList with
    | [] | [_] | [_, _] | [_, _, _] => simp [hparts] at hlength
    | mount' :: space :: kind :: name :: rest => exact hshort mount' space kind name rest hparts

theorem toList_written {selection rest : List (List Char)} (hs : ∀ s ∈ rest, '/' ∉ s) (hlast : rest.getLast? ≠ some [])
    (hne : selection ≠ []) (hb : target.base = rooted selection) (hr : target.remainder = rest.map String.ofList) :
    (target.base ++ target.backendPath).toList = fromRoot (selection ++ rest) ++
      if target.trailingSlash = true ∨ rest = [] then ['/'] else [] := by
  rw [String.toList_append, toList_backendPath hs hlast hr, hb, rooted_eq, String.toList_ofList]
  by_cases hrest : rest = []
  · simp [hrest, fromRoot]
  · simp [hrest, fromRoot_append hne hrest]

theorem describes_of_ofPath (h : ofPath mount path = .ok target) :
    Describes mount path (segments path.toList) target := by
  obtain ⟨selection, rest, hsegments, hlength, hbase, hremainder, hslash, hagain⟩ := ofPath_inv h
  have hcut := isCut_segments path.toList
  have hne : selection ≠ [] := by
    rintro rfl
    simp at hlength
  have hs : ∀ s ∈ rest, '/' ∉ s := fun s hs => hcut.slash s (hsegments ▸ List.mem_append_right _ hs)
  have hlast : rest.getLast? ≠ some [] := fun hl => hcut.last (by rw [hsegments, List.getLast?_append, hl]; rfl)
  have hends : target.trailingSlash = true ↔ path.toList.getLast? = some '/' := by rw [hslash, beq_iff_eq]
  have hrest : target.remainder = [] ↔ rest = [] := by rw [hremainder, List.map_eq_nil_iff]
  have hwritten := toList_written hs hlast hne hbase hremainder
  rw [← hsegments] at hwritten
  have hcut' : IsCut (target.base ++ target.backendPath).toList (segments path.toList) := by
    refine ⟨⟨['/'], _, hwritten, by simp, ?_⟩, hcut.slash, hcut.first, hcut.last⟩
    split <;> simp
  refine ⟨(reads_of_ofPath h).2, hends, ?_, ?_⟩
  · simp only [hwritten, hends, hrest]
    rfl
  · -- The path that is written ends in a slash if the first one did, or if nothing stands behind the base.
    have hslash' : ((target.base ++ target.backendPath).toList.getLast? == some '/') =
        (target.trailingSlash || target.remainder.isEmpty) := by
      have hparts : segments path.toList ≠ [] := hsegments ▸ List.append_ne_nil_of_left_ne_nil hne rest
      have hroot := mt (getLast?_fromRoot_segments hcut.slash hcut.last).mp hparts
      rw [Bool.eq_iff_iff, beq_iff_eq, hwritten, Bool.or_eq_true, List.isEmpty_iff, hrest]
      by_cases hb : target.trailingSlash = true ∨ rest = []
      · simp [hb]
      · simp [hb, hroot]
    rw [hagain _ rest ((segments_of_isCut hcut').trans hsegments), hslash', withRemainder, ← hremainder]

/-- **Routing accepts its grammar and loses nothing.** Every path has just one row of segments; it selects a target if these
    are accepted, and is malformed otherwise. -/
theorem ofPath_grammar (mount path : String) : ∃ parts, (∀ other, IsCut path.toList other ↔ other = parts) ∧
    match ofPath mount path with
    | .ok target => Accepts mount parts ∧ Describes mount path parts target
    | .error e => ¬ Accepts mount parts ∧ e = .malformed path := by
  refine ⟨segments path.toList, fun other => ⟨fun h => (segments_of_isCut h).symm, fun h => h ▸ isCut_segments _⟩, ?_⟩
  cases h : ofPath mount path with
  | ok target => exact ⟨(reads_of_ofPath h).1, describes_of_ofPath h⟩
  | error e => exact error_of_ofPath h

end Gateway.Target
