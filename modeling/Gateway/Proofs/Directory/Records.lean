import Gateway.Proofs.Directory.Table
import Gateway.Proofs.Text.Order

/-! Records as they have been registered. A lookup finds what has been registered last for its key. A listing holds what
    the lookups find, strictly in the order of keys, and there is one way only to put entries in that order; so it does
    not tell how they came. -/

namespace Gateway

/-! ### Keys -/

namespace Key

/-- Namespaces come first, then names, both by the order of their bytes. -/
def Precedes (a b : Key) : Prop :=
  a.space.toUTF8.toList < b.space.toUTF8.toList ∨ a.space = b.space ∧ a.name.toUTF8.toList < b.name.toUTF8.toList

variable {a b c : Key}

theorem precedes_iff : a.Precedes b ↔ a.space < b.space ∨ a.space = b.space ∧ a.name < b.name := by
  rw [Precedes, ← Text.lt_iff_toUTF8, ← Text.lt_iff_toUTF8]

theorem le_iff : a.le b = true ↔ a.space < b.space ∨ a.space = b.space ∧ a.name ≤ b.name := by
  simp [le]

theorem le_total (a b : Key) : (a.le b || b.le a) = true := by
  rw [Bool.or_eq_true, le_iff, le_iff]
  by_cases hs : a.space = b.space
  · rcases String.le_total a.name b.name with h | h
    · exact Or.inl (Or.inr ⟨hs, h⟩)
    · exact Or.inr (Or.inr ⟨hs.symm, h⟩)
  · rcases String.le_total a.space b.space with h | h
    · exact Or.inl (Or.inl (Std.lt_of_le_of_ne h hs))
    · exact Or.inr (Or.inl (Std.lt_of_le_of_ne h (Ne.symm hs)))

theorem le_trans (a b c : Key) (hab : a.le b = true) (hbc : b.le c = true) : a.le c = true := by
  rw [le_iff] at *
  rcases hab with hab | ⟨hab, hname⟩ <;> rcases hbc with hbc | ⟨hbc, hname'⟩
  · exact Or.inl (String.lt_trans hab hbc)
  · exact Or.inl (hbc ▸ hab)
  · exact Or.inl (hab ▸ hbc)
  · exact Or.inr ⟨hab.trans hbc, String.le_trans hname hname'⟩

theorem precedes_of_le (h : a.le b = true) (hne : a ≠ b) : a.Precedes b := by
  rw [precedes_iff]
  rcases le_iff.mp h with hs | ⟨hs, hn⟩
  · exact Or.inl hs
  · refine Or.inr ⟨hs, Std.lt_of_le_of_ne hn fun heq => hne ?_⟩
    cases a
    cases b
    simp_all

theorem Precedes.asymm (h : a.Precedes b) : ¬ b.Precedes a := by
  rw [precedes_iff] at *
  rintro (hs | ⟨hs, hn⟩)
  · rcases h with h | ⟨h, -⟩
    · exact String.lt_asymm h hs
    · exact String.lt_irrefl _ (h ▸ hs)
  · rcases h with h | ⟨-, h⟩
    · exact String.lt_irrefl _ (hs ▸ h)
    · exact String.lt_asymm h hn

end Key

/-! ### Records -/

namespace Records
variable {α : Type} {r : Records α} {key : Key} {record : α}

/-- The entries of a listing go strictly by their keys. -/
def Ordered (entries : List (Key × α)) : Prop := entries.Pairwise fun a b => a.1.Precedes b.1

theorem Ordered.nodup {entries : List (Key × α)} (h : Ordered entries) : entries.Nodup :=
  h.imp fun hab heq => (heq ▸ hab).asymm (heq ▸ hab)

/-- There is one way only to put entries in order. -/
theorem Ordered.eq_of_mem_iff {xs ys : List (Key × α)} (hx : Ordered xs) (hy : Ordered ys)
    (h : ∀ e, e ∈ xs ↔ e ∈ ys) : xs = ys := by
  refine List.Perm.eq_of_pairwise (fun a b _ _ hab hba => absurd hba hab.asymm) hx hy ?_
  exact (List.perm_ext_iff_of_nodup hx.nodup hy.nodup).mpr h

/-- No key has two records. -/
def Distinct (r : Records α) : Prop := (r.entries.map (·.1)).Nodup

theorem distinct_empty : (empty : Records α).Distinct := List.nodup_nil

theorem distinct_register (h : r.Distinct) (key : Key) (record : α) : (r.register key record).Distinct := by
  rw [Distinct, register, List.map_cons, List.nodup_cons]
  refine ⟨?_, h.sublist (List.filter_sublist.map _)⟩
  intro hmem
  obtain ⟨e, he, hkey⟩ := List.mem_map.mp hmem
  simp [hkey] at he

theorem lookup_cons (e : Key × α) (entries : List (Key × α)) (key : Key) :
    (e :: entries).lookup key = if key = e.1 then some e.2 else entries.lookup key := by
  by_cases h : key = e.1
  · rw [if_pos h, h, List.lookup_cons, beq_self_eq_true]
  · rw [List.lookup_cons, beq_eq_false_iff_ne.mpr h, if_neg h]

/-- A lookup sees nothing but the entries of its key, and these as they come. -/
theorem lookup_filter (keep : Key → Bool) (entries : List (Key × α)) (key : Key) :
    (entries.filter (keep ·.1)).lookup key = if keep key then entries.lookup key else none := by
  induction entries with
  | nil => simp
  | cons e entries ih =>
    rw [lookup_cons]
    by_cases hkeep : keep e.1 = true
    · rw [List.filter_cons_of_pos (by exact hkeep), lookup_cons, ih]
      by_cases h : key = e.1
      · simp [h, hkeep]
      · simp [h]
    · rw [List.filter_cons_of_neg (by exact hkeep), ih]
      by_cases h : key = e.1
      · simp [h, hkeep]
      · simp [h]

theorem find?_register (r : Records α) (key k : Key) (record : α) :
    (r.register key record).find? k = if k = key then some record else r.find? k := by
  rw [find?, register, lookup_cons, lookup_filter (· != key)]
  by_cases h : k = key
  · simp [h]
  · simp [h, find?]

theorem find?_eq_some_iff (h : r.Distinct) : r.find? key = some record ↔ (key, record) ∈ r.entries := by
  refine ⟨mem_of_find?, fun hmem => ?_⟩
  obtain ⟨front, back, hentries⟩ := List.append_of_mem hmem
  refine List.lookup_eq_some_iff.mpr ⟨front, back, hentries, fun e he => bne_iff_ne.mpr fun heq => ?_⟩
  rw [Distinct, hentries, List.map_append, List.nodup_append] at h
  exact h.2.2 e.1 (List.mem_map_of_mem he) key (by simp) heq.symm

theorem mem_listing {space : Option String} {e : Key × α} :
    e ∈ r.listing space ↔ e ∈ r.entries ∧ ∀ s, space = some s → e.1.space = s := by
  rw [listing, List.mem_mergeSort, List.mem_filter]
  cases space with
  | none => simp
  | some s => simp only [Option.all_some, beq_iff_eq, Option.some.injEq, forall_eq', eq_comm (b := s)]

/-- Sorting puts entries of different keys in order. -/
theorem ordered_mergeSort {entries : List (Key × α)} (h : (entries.map (·.1)).Nodup) :
    Ordered (entries.mergeSort fun a b => a.1.le b.1) := by
  let le (a b : Key × α) : Bool := a.1.le b.1
  have htrans : ∀ a b c, le a b = true → le b c = true → le a c = true := fun a b c => Key.le_trans a.1 b.1 c.1
  have htotal : ∀ a b, (le a b || le b a) = true := fun a b => Key.le_total a.1 b.1
  have hsorted : (entries.mergeSort le).Pairwise fun a b => le a b = true :=
    List.pairwise_mergeSort htrans htotal entries
  have hkeys : (entries.mergeSort le).Pairwise fun a b => a.1 ≠ b.1 :=
    List.pairwise_map.mp (((List.mergeSort_perm entries le).map _).nodup_iff.mpr h)
  exact hsorted.imp₂ (fun _ _ hle hne => Key.precedes_of_le hle hne) hkeys

theorem ordered_listing (h : r.Distinct) (space : Option String) : Ordered (r.listing space) :=
  ordered_mergeSort (h.sublist (List.filter_sublist.map _))

/-- The listing of a namespace is cut out of the whole listing. -/
theorem listing_some (h : r.Distinct) (space : String) :
    r.listing (some space) = (r.listing none).filter (·.1.space == space) := by
  refine (ordered_listing h _).eq_of_mem_iff ((ordered_listing h none).filter _) fun e => ?_
  simp [mem_listing]

/-! ### Records as they have been registered -/

/-- The records after some registrations, from the first to the last. -/
def after (registered : List (Key × α)) : Records α := registered.foldl (fun r e => r.register e.1 e.2) empty

theorem distinct_after (registered : List (Key × α)) : (after registered).Distinct := by
  -- The records vary in the induction: each registration leaves distinct ones behind.
  suffices h : ∀ r : Records α, r.Distinct → (registered.foldl (fun r e => r.register e.1 e.2) r).Distinct from
    h empty distinct_empty
  induction registered with
  | nil => exact fun r hr => hr
  | cons e registered ih => exact fun r hr => ih _ (distinct_register hr e.1 e.2)

theorem find?_after (registered : List (Key × α)) (key : Key) :
    (after registered).find? key = registered.reverse.lookup key := by
  -- For the induction there may be records in front: they count where nothing has been registered since.
  suffices h : ∀ r : Records α, (registered.foldl (fun r e => r.register e.1 e.2) r).find? key =
      (registered.reverse.lookup key).or (r.find? key) from (h empty).trans (Option.or_none)
  induction registered with
  | nil => exact fun r => rfl
  | cons e registered ih =>
    intro r
    rw [List.foldl_cons, ih, find?_register, List.reverse_cons, List.lookup_append, lookup_cons, Option.or_assoc]
    by_cases h : key = e.1
    · simp [h]
    · simp [h]

/-- What is found for a key is what was registered last for it. -/
theorem find?_after_eq_some_iff {registered : List (Key × α)} : (after registered).find? key = some record ↔
    ∃ front back, registered = front ++ (key, record) :: back ∧ ∀ later, (key, later) ∉ back := by
  rw [find?_after, List.lookup_eq_some_iff]
  constructor
  · rintro ⟨back, front, hreverse, hback⟩
    refine ⟨front.reverse, back.reverse, ?_, fun later hmem => ?_⟩
    · rw [← List.reverse_reverse registered, hreverse]
      simp
    · simpa using hback _ (List.mem_reverse.mp hmem)
  · rintro ⟨front, back, rfl, hback⟩
    refine ⟨back.reverse, front.reverse, by simp, fun e he => bne_iff_ne.mpr ?_⟩
    rintro rfl
    exact hback e.2 (List.mem_reverse.mp he)

theorem find?_after_eq_none_iff {registered : List (Key × α)} :
    (after registered).find? key = none ↔ ∀ record, (key, record) ∉ registered := by
  rw [find?_after, List.lookup_eq_none_iff]
  constructor
  · intro h record hmem
    simpa using h _ (List.mem_reverse.mpr hmem)
  · intro h e he
    refine bne_iff_ne.mpr ?_
    rintro rfl
    exact h e.2 (List.mem_reverse.mp he)

/-- Registrations that come in the same order for each key make the same records. -/
theorem find?_after_congr {a b : List (Key × α)}
    (h : ∀ key, a.filter (·.1 == key) = b.filter (·.1 == key)) (key : Key) :
    (after a).find? key = (after b).find? key := by
  have hseen : ∀ registered : List (Key × α),
      registered.reverse.lookup key = (registered.filter (·.1 == key)).reverse.lookup key := by
    intro registered
    rw [← List.filter_reverse, lookup_filter (· == key), if_pos (beq_self_eq_true key)]
  rw [find?_after, find?_after, hseen a, hseen b, h key]

theorem listing_congr {a b : Records α} (ha : a.Distinct) (hb : b.Distinct) (h : ∀ key, a.find? key = b.find? key)
    (space : Option String) : a.listing space = b.listing space := by
  refine (ordered_listing ha space).eq_of_mem_iff (ordered_listing hb space) fun e => ?_
  rw [mem_listing, mem_listing, ← find?_eq_some_iff ha, ← find?_eq_some_iff hb, h]

end Records

end Gateway
