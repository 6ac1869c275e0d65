import Gateway.Proofs.Routing.Patterns

/-! When two patterns conflict. The names do not matter: all that counts is the shape of a pattern, and whether it takes
    the rest of the path. -/

namespace Gateway.Pattern

variable {text : String} {p q : Pattern}

/-! ### Shapes -/

/-- A pattern without its names. -/
def shape (p : Pattern) : List (Option Char) := p.map fun
  | .plain c => some c
  | _ => none

@[simp] theorem shape_nil : shape [] = [] := rfl
@[simp] theorem shape_plain (c : Char) (p : Pattern) : shape (.plain c :: p) = some c :: shape p := rfl
@[simp] theorem shape_segment (name : String) (p : Pattern) : shape (.segment name :: p) = none :: shape p := rfl
@[simp] theorem shape_tail (name : String) (p : Pattern) : shape (.tail name :: p) = none :: shape p := rfl
@[simp] theorem shape_append (p q : Pattern) : shape (p ++ q) = shape p ++ shape q := List.map_append

theorem some_mem_shape {c : Char} : some c ∈ p.shape ↔ .plain c ∈ p := by
  induction p with
  | nil => simp
  | cons piece p ih => cases piece <;> simp [ih]

theorem getLast?_shape {c : Char} : p.shape.getLast? = some (some c) ↔ p.getLast? = some (.plain c) := by
  rw [shape, List.getLast?_map]
  cases p.getLast? with
  | none => simp
  | some piece => cases piece <;> simp

theorem eq_of_shape {cs : List Char} (h : p.shape = cs.map some) : p = cs.map .plain := by
  induction p generalizing cs with
  | nil => simpa using h
  | cons piece p ih =>
    cases cs with
    | nil => cases piece <;> simp at h
    | cons c cs =>
      cases piece with
      | plain d =>
        obtain ⟨hc, htail⟩ := List.cons.inj h
        rw [ih htail, Option.some.inj hc, List.map_cons]
      | segment name => simp at h
      | tail name => simp at h

/-- A pattern without names is known by its text. -/
theorem IsStem.shape_eq_iff (h : IsStem text p) {cs : List Char} (hordinary : IsOrdinary cs) :
    p.shape = cs.map some ↔ text.toList = cs := by
  constructor
  · intro hshape
    exact toList_of_plain hordinary (eq_of_shape hshape ▸ h.reads)
  · rintro rfl
    have hreads := ofText_eq_ok_iff.mp h.reads
    have hplain := (isStem_of_ordinary hreads.rooted hreads.unmarked hordinary).reads
    obtain rfl := Except.ok.inj (h.reads.symm.trans hplain)
    rw [shape, List.map_map]
    rfl

/-- It takes the rest of the path at its end. -/
def EndsInTail (p : Pattern) : Prop := ∃ name, p.getLast? = some (.tail name)

/-- Nowhere else does it. -/
def TailLast : Pattern → Prop
  | [] => True
  | .tail _ :: rest => rest = []
  | _ :: rest => TailLast rest

theorem endsInTail_cons_plain {c : Char} : EndsInTail (.plain c :: p) ↔ EndsInTail p := by
  cases p <;> simp [EndsInTail]

theorem endsInTail_cons_segment {name : String} : EndsInTail (.segment name :: p) ↔ EndsInTail p := by
  cases p <;> simp [EndsInTail]

/-- **Patterns conflict by their shapes.** They are the same, or one of them takes the rest of a path and begins the other. -/
theorem conflicts_iff (hp : TailLast p) (hq : TailLast q) :
    p.conflicts q = true ↔
      p.shape = q.shape ∨ (EndsInTail p ∧ p.shape <+: q.shape) ∨ (EndsInTail q ∧ q.shape <+: p.shape) := by
  induction p generalizing q with
  | nil =>
    cases q with
    | nil => simp [conflicts]
    | cons piece q => cases piece <;> simp [conflicts, EndsInTail]
  | cons piece p ih =>
    cases q with
    | nil => cases piece <;> simp [conflicts, EndsInTail]
    | cons piece' q =>
      cases piece with
      | plain c =>
        cases piece' with
        | plain d =>
          have h := ih (q := q) hp hq
          simp only [conflicts, Bool.and_eq_true, beq_iff_eq, h, shape_plain, List.cons.injEq, Option.some.injEq,
            endsInTail_cons_plain, List.cons_prefix_cons]
          constructor
          · rintro ⟨rfl, h⟩
            simpa using h
          · rintro (⟨rfl, h⟩ | ⟨ht, rfl, h⟩ | ⟨ht, rfl, h⟩)
            · exact ⟨rfl, Or.inl h⟩
            · exact ⟨rfl, Or.inr (Or.inl ⟨ht, h⟩)⟩
            · exact ⟨rfl, Or.inr (Or.inr ⟨ht, h⟩)⟩
        | segment name => simp [conflicts]
        | tail name => simp [conflicts]
      | segment name =>
        cases piece' with
        | plain d => simp [conflicts]
        | segment name' =>
          have h := ih (q := q) hp hq
          simpa only [conflicts, shape_segment, List.cons.injEq, true_and, endsInTail_cons_segment, List.cons_prefix_cons]
            using h
        | tail name' =>
          obtain rfl : q = [] := hq
          simp [conflicts, EndsInTail]
      | tail name =>
        obtain rfl : p = [] := hp
        cases piece' with
        | plain d => simp [conflicts]
        | segment name' => simp [conflicts, EndsInTail]
        | tail name' =>
          obtain rfl : q = [] := hq
          simp [conflicts]

theorem conflicts_comm (p q : Pattern) : p.conflicts q = q.conflicts p := by
  induction p generalizing q with
  | nil =>
    cases q with
    | nil => rfl
    | cons piece q => cases piece <;> rfl
  | cons piece p ih =>
    cases q with
    | nil => cases piece <;> rfl
    | cons piece' q => cases piece <;> cases piece' <;> simp [conflicts, ih q, BEq.comm]

/-! ### Stems and what lies below them -/

@[simp] theorem shape_slashed (p : Pattern) : p.slashed.shape = p.shape ++ [some '/'] := shape_append p [.plain '/']

@[simp] theorem shape_below (p : Pattern) (name : String) : (p.below name).shape = p.shape ++ [some '/', none] :=
  shape_append p [.plain '/', .tail name]

theorem NoTail.tailLast_append (h : NoTail p) (hq : TailLast q) : TailLast (p ++ q) := by
  induction p with
  | nil => exact hq
  | cons piece p ih =>
    have hrest := ih h.rest
    cases piece with
    | plain c => exact hrest
    | segment name => exact hrest
    | tail name => exact absurd List.mem_cons_self (h name)

theorem NoTail.tailLast (h : NoTail p) : TailLast p := by
  have happ := h.tailLast_append (q := []) trivial
  rwa [List.append_nil] at happ

theorem NoTail.tailLast_below (h : NoTail p) (name : String) : TailLast (p.below name) := h.tailLast_append rfl

theorem NoTail.not_endsInTail (h : NoTail p) : ¬ EndsInTail p := fun ⟨name, hlast⟩ => h name (List.mem_of_getLast? hlast)

theorem NoTail.slashed (h : NoTail p) : NoTail p.slashed := by simpa [NoTail, Pattern.slashed] using h

theorem endsInTail_below (p : Pattern) (name : String) : EndsInTail (p.below name) := ⟨name, by simp [below]⟩

theorem prefix_slash_iff {xs ys : List (Option Char)} :
    xs ++ [some '/', none] <+: ys ++ [some '/'] ↔ xs ++ [some '/', none] <+: ys := by
  refine ⟨fun h => (List.prefix_concat_iff.mp h).resolve_left fun heq => ?_, fun h => h.trans (List.prefix_append ys _)⟩
  have hlast := congrArg List.getLast? heq
  simp at hlast

theorem prefix_below_iff {xs ys : List (Option Char)} :
    xs ++ [some '/', none] <+: ys ++ [some '/', none] ↔ xs = ys ∨ xs ++ [some '/', none] <+: ys := by
  rw [List.append_cons ys, List.prefix_concat_iff, prefix_slash_iff, ← List.append_cons, List.append_left_inj]

theorem conflicts_stems (hp : NoTail p) (hq : NoTail q) : p.conflicts q = true ↔ p.shape = q.shape := by
  rw [conflicts_iff hp.tailLast hq.tailLast]
  simp [hp.not_endsInTail, hq.not_endsInTail]

theorem conflicts_below_stem (hp : NoTail p) (hq : NoTail q) (name : String) :
    (p.below name).conflicts q = true ↔ p.shape ++ [some '/', none] <+: q.shape := by
  rw [conflicts_iff (hp.tailLast_below name) hq.tailLast, shape_below]
  simp only [endsInTail_below, hq.not_endsInTail, true_and, false_and, or_false]
  exact or_iff_right_of_imp fun heq => heq ▸ List.prefix_rfl

theorem conflicts_stem_below (hp : NoTail p) (hq : NoTail q) (name : String) :
    p.conflicts (q.below name) = true ↔ q.shape ++ [some '/', none] <+: p.shape := by
  rw [conflicts_comm, conflicts_below_stem hq hp]

theorem conflicts_below_below (hp : NoTail p) (hq : NoTail q) (name name' : String) :
    (p.below name).conflicts (q.below name') = true ↔ p.shape = q.shape ∨
      p.shape ++ [some '/', none] <+: q.shape ∨ q.shape ++ [some '/', none] <+: p.shape := by
  rw [conflicts_iff (hp.tailLast_below name) (hq.tailLast_below name'), shape_below, shape_below]
  simp only [endsInTail_below, true_and, prefix_below_iff, List.append_left_inj]
  grind

theorem IsStem.exists_shape (h : IsStem text p) {cs : List Char} (htext : text.toList = '/' :: cs) :
    ∃ xs, p.shape = some '/' :: xs ∧ ∀ c, some c ∈ xs → c ∈ cs := by
  have hdenotes := (ofText_eq_ok_iff.mp h.reads).denotes
  have hmarks : marks text.toList = slashMark :: marks cs := by rw [htext, ← List.nil_append ('/' :: cs), marks_slash]; rfl
  rw [hmarks] at hdenotes
  cases hdenotes with
  | @plain _ _ q _ _ hq =>
    refine ⟨q.shape, rfl, fun c hc => ?_⟩
    obtain ⟨m, hm, rfl⟩ := hq.mem_plain (some_mem_shape.mp hc)
    exact char_mem_of_mem_marks hm

theorem IsStem.getLast?_shape_ne (h : IsStem text p) (hlast : text.toList.getLast? ≠ some '/') :
    p.shape.getLast? ≠ some (some '/') := by
  intro heq
  obtain ⟨m, hm, hchar⟩ := (ofText_eq_ok_iff.mp h.reads).denotes.getLast? (getLast?_shape.mp heq)
  refine hlast ?_
  rw [← getLast?_marks, hm, Option.map_some, hchar]

end Gateway.Pattern
