import Gateway.Http.HopByHop

/-! Fields by name. What is done to the fields of one name leaves the values of every other name as they are, and the
    other fields in their order. -/

namespace Gateway.Http.Headers

/-- Keeping fields by their names keeps all values of a name or none. -/
theorem values_filter (h : Headers) (keep : String → Bool) (name : String) :
    (⟨h.fields.filter fun f => keep f.name⟩ : Headers).values name = if keep name then h.values name else [] := by
  simp only [values, List.filter_filter]
  by_cases hk : keep name = true
  · rw [if_pos hk]
    congr 1
    apply List.filter_congr
    intro f _
    by_cases hf : f.name = name
    · simp [hf, hk]
    · simp [hf]
  · rw [if_neg hk, List.map_eq_nil_iff, List.filter_eq_nil_iff]
    intro f _ hf
    simp only [Bool.and_eq_true, beq_iff_eq] at hf
    exact hk (hf.1 ▸ hf.2)

theorem values_remove (h : Headers) (removed name : String) :
    (h.remove removed).values name = if name = removed then [] else h.values name := by
  rw [remove, values_filter h (· != removed)]
  by_cases hn : name = removed <;> simp [hn]

theorem values_add (h : Headers) (added name : String) (value : ByteArray) :
    (h.add added value).values name = h.values name ++ if name = added then [value] else [] := by
  by_cases hn : name = added
  · simp [values, add, hn]
  · simp [values, add, hn, Ne.symm hn]

theorem values_set (h : Headers) (changed name : String) (value : ByteArray) :
    (h.set changed value).values name = if name = changed then [value] else h.values name := by
  rw [set, values_add, values_remove]
  by_cases hn : name = changed <;> simp [hn]

theorem values_setText (h : Headers) (changed name text : String) :
    (h.setText changed text).values name = if name = changed then (value? text).toList else h.values name := by
  unfold setText
  split
  · rename_i value hvalue
    rw [values_set, hvalue]
    rfl
  · rename_i hvalue
    rw [values_remove, hvalue]
    rfl

/-- Behind the connection a name has all of its values left, or none. -/
theorem values_endToEnd (h : Headers) (name : String) :
    h.endToEnd.values name = if name ∈ h.listed ∨ name ∈ hopByHop then [] else h.values name := by
  rw [endToEnd, values_filter h (fun name => !h.listed.contains name && !hopByHop.contains name)]
  by_cases hlisted : name ∈ h.listed <;> by_cases hhop : name ∈ hopByHop <;> simp [hlisted, hhop]

/-- Setting a value leaves the fields of other names in their order. -/
theorem filter_set (h : Headers) (changed : String) (value : ByteArray) {keep : String → Bool}
    (hk : keep changed = false) :
    (h.set changed value).fields.filter (fun f => keep f.name) = h.fields.filter fun f => keep f.name := by
  rw [set, add, remove, List.filter_append, List.filter_filter]
  have hnew : [(⟨changed, value⟩ : Field)].filter (fun f => keep f.name) = [] := by simp [hk]
  rw [hnew, List.append_nil]
  apply List.filter_congr
  intro f _
  by_cases hf : f.name = changed
  · simp [hf, hk]
  · simp [hf]

end Gateway.Http.Headers
