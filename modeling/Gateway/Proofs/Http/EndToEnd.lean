import Gateway.Proofs.Http.Fields
import Gateway.Proofs.Http.Values

/-! What is left behind a connection. A field is left if it was there, if its name is none of those that always belong to a
    connection, and if no value of the connection's own field names it. Every part of such a value counts by itself: one that
    is no name names nothing, and takes nothing away from what the others name. -/

namespace Gateway.Http

/-- The names of fields as messages have them. -/
structure IsFieldName (name : String) : Prop where
  ne_empty : name ≠ ""
  short : name.length < 65536
  chars : ∀ c ∈ name.toList, isNameChar c = true ∧ c.toLower = c

theorem isNameChar_toLower (c : Char) : isNameChar c.toLower = isNameChar c :=
  Text.forall_toLower (P := fun c d => isNameChar d = isNameChar c) (fun _ => rfl) (by decide +kernel) c

theorem isBlank_of_isNameChar {c : Char} (h : isNameChar c = true) : Text.isBlank c = false := by
  have hlow : c.toNat < 128 := by
    rcases Bool.or_eq_true_iff.mp h with halphanum | hmark
    · exact Text.lt_of_isAlphanum halphanum
    · have hmarks : ∀ c ∈ "!#$%&'*+-.^_\u0060|~".toList, c.toNat < 128 := Text.forall_mem (by decide +kernel)
      exact hmarks c (List.contains_iff_mem.mp hmark)
  exact Text.forall_below (P := fun c => isNameChar c = true → Text.isBlank c = false) 128 (by decide +kernel) c hlow h

/-- A text gives the name that it is in lower case. -/
theorem fieldName?_eq_some_iff {cs : List Char} {name : String} :
    fieldName? cs = some name ↔ IsFieldName name ∧ cs.map Char.toLower = name.toList := by
  unfold fieldName?
  constructor
  · intro h
    split at h
    · rename_i hname
      obtain rfl := Option.some.inj h
      obtain ⟨hne, hlength, hall⟩ := hname
      refine ⟨⟨fun hempty => hne ?_, ?_, fun c hc => ?_⟩, String.toList_ofList.symm⟩
      · simpa using congrArg String.toList hempty
      · rwa [String.length_ofList, List.length_map]
      · rw [String.toList_ofList] at hc
        obtain ⟨d, hd, rfl⟩ := List.mem_map.mp hc
        exact ⟨(isNameChar_toLower d).trans (List.all_eq_true.mp hall d hd), Text.toLower_toLower d⟩
    · cases h
  · rintro ⟨hname, hlower⟩
    have hlength : cs.length = name.length := by rw [← String.length_toList, ← hlower, List.length_map]
    have hall : cs.all isNameChar = true := List.all_eq_true.mpr fun c hc => by
      rw [← isNameChar_toLower]
      exact (hname.chars _ (hlower ▸ List.mem_map_of_mem hc)).1
    have hne : cs ≠ [] := by
      rintro rfl
      exact hname.ne_empty (String.toList_inj.mp hlower.symm)
    rw [if_pos ⟨hne, hlength ▸ hname.short, hall⟩, hlower, String.ofList_toList]

/-- A text names what stands in it between two commas, or between a comma and an end, in any case and with nothing but blanks
    around it. -/
def Names (text : List Char) (name : String) : Prop :=
  ∃ before written after, Text.StandsBetween ',' text (before ++ written ++ after) ∧
    (∀ c ∈ before ++ after, Text.isBlank c = true) ∧ written.map Char.toLower = name.toList

theorem names_iff {text : List Char} {name : String} (h : IsFieldName name) :
    Names text name ↔ ∃ piece ∈ text.splitOn ',', (Text.trim Text.isBlank piece).map Char.toLower = name.toList := by
  constructor
  · rintro ⟨before, written, after, hstands, hblank, hlower⟩
    -- No character of a name is a blank, so nothing of it is cut off.
    have hinked : ∀ c ∈ written, Text.isBlank c = false := by
      intro c hc
      rw [← Text.isBlank_toLower]
      exact isBlank_of_isNameChar (h.chars _ (hlower ▸ List.mem_map_of_mem hc)).1
    refine ⟨_, Text.mem_splitOn_iff.mpr hstands, ?_⟩
    rw [Text.trim_between (fun c hc => hblank c (List.mem_append_left _ hc)) (fun c hc => hblank c (List.mem_append_right _ hc))
      (fun c hc => hinked c (List.mem_of_head? hc)) (fun c hc => hinked c (List.mem_of_getLast? hc)), hlower]
  · rintro ⟨piece, hpiece, hlower⟩
    obtain ⟨before, after, hcs, hbefore, hafter⟩ := Text.exists_around_trim Text.isBlank piece
    rw [hcs] at hpiece
    exact ⟨before, _, after, Text.mem_splitOn_iff.mp hpiece, List.forall_mem_append.mpr ⟨hbefore, hafter⟩, hlower⟩

namespace Headers
variable {h : Headers} {name : String}

/-- Some value of the connection's field is a text and names a name. -/
def Lists (h : Headers) (name : String) : Prop :=
  ∃ value ∈ h.values "connection", IsText value ∧ Names (characters value) name

theorem mem_listed_iff (hname : IsFieldName name) : name ∈ h.listed ↔ h.Lists name := by
  simp only [listed, texts, List.mem_flatMap, List.mem_filterMap, fieldName?_eq_some_iff]
  constructor
  · rintro ⟨text, ⟨value, hvalue, htext⟩, cs, hcs, -, hlower⟩
    have his : IsText value := Classical.byContradiction fun hno => by
      rw [text?_of_not_isText hno] at htext
      cases htext
    rw [text?_of_isText his] at htext
    obtain rfl := Option.some.inj htext
    rw [elements_of_isText his] at hcs
    obtain ⟨piece, hpiece, rfl⟩ := List.mem_map.mp hcs
    exact ⟨value, hvalue, his, (names_iff hname).mpr ⟨piece, hpiece, hlower⟩⟩
  · rintro ⟨value, hvalue, his, hnames⟩
    obtain ⟨piece, hpiece, hlower⟩ := (names_iff hname).mp hnames
    refine ⟨_, ⟨value, hvalue, text?_of_isText his⟩, Text.trim Text.isBlank piece, ?_, hname, hlower⟩
    rw [elements_of_isText his]
    exact List.mem_map_of_mem hpiece

theorem contains_iff : h.contains name = true ↔ h.values name ≠ [] := by
  simp only [contains, List.any_eq_true, values, ne_eq, List.map_eq_nil_iff, List.filter_eq_nil_iff, Classical.not_forall,
    Classical.not_not, exists_prop]

theorem contains_endToEnd : h.endToEnd.contains name = true ↔ h.contains name = true ∧ name ∉ h.listed ∧ name ∉ hopByHop := by
  rw [contains_iff, contains_iff, values_endToEnd]
  split
  · rename_i hgone
    simp only [ne_eq, not_true_eq_false, false_iff]
    rintro ⟨-, hlisted, hhop⟩
    exact hgone.elim hlisted hhop
  · rename_i hleft
    rw [not_or] at hleft
    exact ⟨fun hvalues => ⟨hvalues, hleft⟩, fun hvalues => hvalues.1⟩

/-- Behind a connection nothing is listed any more. -/
theorem listed_endToEnd (h : Headers) : h.endToEnd.listed = [] := by
  have hvalues : h.endToEnd.values "connection" = [] := by
    rw [values_endToEnd, if_pos (Or.inr (by decide))]
  rw [listed, texts, hvalues]
  rfl

theorem endToEnd_endToEnd (h : Headers) : h.endToEnd.endToEnd = h.endToEnd := by
  have hleft : ∀ f ∈ h.endToEnd.fields,
      (!h.endToEnd.listed.contains f.name && !hopByHop.contains f.name) = true := by
    intro f hf
    rw [listed_endToEnd]
    exact (Bool.and_eq_true_iff.mp (List.mem_filter.mp hf).2).2
  exact congrArg Headers.mk (List.filter_eq_self.mpr hleft)

/-- **What is left is an exact selection.** A name is left behind a connection just if it was there, does not always belong to
    a connection, and is not listed; what is left keeps its values and their order; and nothing more is taken away again. -/
theorem endToEnd_selects (h : Headers) :
    (∀ name, IsFieldName name → (h.endToEnd.contains name = true ↔
      h.contains name = true ∧ name ∉ hopByHop ∧ ¬ h.Lists name)) ∧
    (∀ name, h.endToEnd.contains name = true → h.endToEnd.values name = h.values name) ∧
    h.endToEnd.fields.Sublist h.fields ∧ h.endToEnd.endToEnd = h.endToEnd := by
  refine ⟨fun name hname => ?_, fun name hleft => ?_, List.filter_sublist, endToEnd_endToEnd h⟩
  · rw [contains_endToEnd, mem_listed_iff hname, and_comm (a := ¬ h.Lists name)]
  · obtain ⟨-, hlisted, hhop⟩ := contains_endToEnd.mp hleft
    rw [values_endToEnd, if_neg (not_or.mpr ⟨hlisted, hhop⟩)]

/-- A name in capitals behind two parts that are none, and a name in a value that is no text. -/
theorem endToEnd_selects_malformed :
    let h : Headers := ⟨[⟨"x-trace", "1".toUTF8⟩, ⟨"connection", "a b,, X-TRACE\t".toUTF8⟩, ⟨"accept", "*/*".toUTF8⟩,
      ⟨"x-trace", "2".toUTF8⟩, ⟨"connection", "accept,é".toUTF8⟩]⟩
    IsFieldName "x-trace" ∧ IsFieldName "accept" ∧ h.Lists "x-trace" ∧ ¬ h.endToEnd.contains "x-trace" = true ∧
      h.endToEnd.contains "accept" = true ∧ h.endToEnd.values "accept" = h.values "accept" := by
  intro h
  have htrace : IsFieldName "x-trace" := ⟨by decide, by decide, Text.forall_mem (by decide +kernel)⟩
  have haccept : IsFieldName "accept" := ⟨by decide, by decide, Text.forall_mem (by decide +kernel)⟩
  have hvalues : h.values "connection" = ["a b,, X-TRACE\t".toUTF8, "accept,é".toUTF8] := rfl
  have hlists : h.Lists "x-trace" := by
    refine ⟨"a b,, X-TRACE\t".toUTF8, hvalues ▸ List.mem_cons_self, all_isVisible_iff.mp (by decide +kernel), ?_⟩
    refine ⟨[' '], "X-TRACE".toList, ['\t'], ⟨by decide, "a b,,".toList, [], ?_, by simp, by simp⟩,
      Text.forall_mem (by decide +kernel), by decide⟩
    rw [characters, Text.toList_eq_data]
    decide +kernel
  have hspared : ¬ h.Lists "accept" := by
    rw [← mem_listed_iff haccept]
    decide +kernel
  obtain ⟨hselects, hkeeps, -, -⟩ := endToEnd_selects h
  have hleft := (hselects "accept" haccept).mpr ⟨rfl, by decide, hspared⟩
  exact ⟨htrace, haccept, hlists, fun hcontains => ((hselects "x-trace" htrace).mp hcontains).2.2 hlists, hleft,
    hkeeps "accept" hleft⟩

end Headers
end Gateway.Http
