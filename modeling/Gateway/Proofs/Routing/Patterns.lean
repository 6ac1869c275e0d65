import Gateway.Proofs.Path.Directories
import Gateway.Proofs.Results
import Gateway.Routing.Pattern
import Mathlib.Data.List.Chain

/-! What patterns are read from. The marks of a pattern are a grammar, in which a slash and more can follow just if nothing
    before takes the rest of the path. -/

namespace Gateway.Pattern

/-- The path with a slash behind it. -/
def slashed (p : Pattern) : Pattern := p ++ [.plain '/']

/-- Everything below the path. -/
def below (p : Pattern) (name : String) : Pattern := p ++ [.plain '/', .tail name]

/-- Nothing takes the rest of the path. -/
def NoTail (p : Pattern) : Prop := ∀ name, Piece.tail name ∉ p

theorem NoTail.rest {piece : Piece} {p : Pattern} (h : NoTail (piece :: p)) : NoTail p :=
  fun name hmem => h name (List.mem_cons_of_mem piece hmem)

/-! ### The grammar -/

/-- Marks that a name may hold behind its first character. -/
def IsName (name : List Mark) : Prop := ∀ m ∈ name, m ≠ ⟨'}', true⟩ ∧ m.char ≠ '*' ∧ m.char ≠ '/'

inductive Denotes : List Mark → Pattern → Prop
  | nil : Denotes [] []
  | plain {m : Mark} {rest : List Mark} {p : Pattern} (hclose : m ≠ ⟨'}', true⟩) (hopen : m ≠ ⟨'{', true⟩)
      (h : Denotes rest p) : Denotes (m :: rest) (.plain m.char :: p)
  | segment {first : Mark} {name rest : List Mark} {p : Pattern} (hfirst : first.char ≠ '}') (hstar : first.char ≠ '*')
      (hname : IsName name) (hrest : ∀ m, rest.head? = some m → m.char = '/') (h : Denotes rest p) :
      Denotes (⟨'{', true⟩ :: first :: (name ++ ⟨'}', true⟩ :: rest))
        (.segment (String.ofList (first.char :: name.map Mark.char)) :: p)
  | tail {first : Mark} {name : List Mark} (hstar : first.char = '*') (hname : IsName name) (hne : name ≠ []) :
      Denotes (⟨'{', true⟩ :: first :: (name ++ [⟨'}', true⟩])) [.tail (String.ofList (name.map Mark.char))]

theorem nameRest?_append {name : List Mark} (h : IsName name) (rest : List Mark) :
    nameRest? (name ++ ⟨'}', true⟩ :: rest) = some (name.map Mark.char, rest) := by
  induction name with
  | nil => simp [nameRest?]
  | cons m name ih =>
    obtain ⟨hclose, hmark⟩ := h m List.mem_cons_self
    rw [List.cons_append, nameRest?, if_neg hclose, if_neg (not_or.mpr hmark),
      ih fun m' hm' => h m' (List.mem_cons_of_mem m hm')]
    rfl

theorem nameRest?_inv {marks rest : List Mark} {name : List Char} (h : nameRest? marks = some (name, rest)) :
    ∃ name', IsName name' ∧ name = name'.map Mark.char ∧ marks = name' ++ ⟨'}', true⟩ :: rest := by
  induction marks generalizing name with
  | nil => cases h
  | cons m marks ih =>
    rw [nameRest?] at h
    split at h
    · rename_i hclose
      cases h
      exact ⟨[], by simp [IsName], rfl, by rw [hclose, List.nil_append]⟩
    · rename_i hclose
      split at h
      · cases h
      · rename_i hmark
        obtain ⟨⟨name, rest'⟩, h', heq⟩ := Option.map_eq_some_iff.mp h
        obtain ⟨rfl, rfl⟩ := Prod.mk.inj heq
        obtain ⟨name', hname', rfl, rfl⟩ := ih h'
        refine ⟨m :: name', ?_, rfl, rfl⟩
        intro m' hm'
        rcases List.mem_cons.mp hm' with rfl | hm'
        · exact ⟨hclose, not_or.mp hmark⟩
        · exact hname' m' hm'

theorem ofMarks_plain {m : Mark} (hclose : m ≠ ⟨'}', true⟩) (hopen : m ≠ ⟨'{', true⟩) (rest : List Mark) :
    ofMarks (m :: rest) = do return .plain m.char :: (← ofMarks rest) := by
  rw [ofMarks.eq_def]
  simp only [if_neg hclose, if_pos hopen]

theorem ofMarks_named {first : Mark} {name : List Mark} (hfirst : first.char ≠ '}') (hname : IsName name)
    (rest : List Mark) : ofMarks (⟨'{', true⟩ :: first :: (name ++ ⟨'}', true⟩ :: rest)) = do
      return (← named first.char (name.map Mark.char) rest) :: (← ofMarks rest) := by
  rw [ofMarks, if_neg (by decide), if_neg (by decide)]
  simp only [if_neg hfirst]
  split
  · rename_i hnone
    rw [nameRest?_append hname] at hnone
    cases hnone
  · rename_i hsome
    rw [nameRest?_append hname] at hsome
    cases hsome
    rfl

/-- What stands between braces takes the rest of a segment, or of the whole path. -/
theorem named_inv {first : Char} {name : List Char} {rest : List Mark} {piece : Piece}
    (h : named first name rest = .ok piece) :
    (first ≠ '*' ∧ (∀ m, rest.head? = some m → m.char = '/') ∧ piece = .segment (String.ofList (first :: name))) ∨
      (first = '*' ∧ name ≠ [] ∧ rest = [] ∧ piece = .tail (String.ofList name)) := by
  rw [named] at h
  split at h
  · rename_i hstar
    split at h
    · cases h
    · rename_i hne
      split at h
      · rename_i hrest
        exact Or.inr ⟨hstar, hne, hrest, (Except.ok.inj h).symm⟩
      · cases h
  · rename_i hstar
    split at h
    · rename_i hrest
      exact Or.inl ⟨hstar, by simpa [Option.all_eq_true] using hrest, (Except.ok.inj h).symm⟩
    · cases h

theorem denotes_of_ofMarks {marks : List Mark} {p : Pattern} (h : ofMarks marks = .ok p) : Denotes marks p := by
  induction marks using ofMarks.induct generalizing p with
  | case1 =>
    rw [ofMarks] at h
    cases h
    exact .nil
  | case2 rest =>
    rw [ofMarks.eq_def] at h
    cases h
  | case3 m rest hclose hopen ih =>
    rw [ofMarks_plain hclose hopen] at h
    obtain ⟨p, hp, heq⟩ := bind_eq_ok.mp h
    cases heq
    exact .plain hclose hopen (ih hp)
  | case4 m hclose hopen =>
    rw [ofMarks, if_neg hclose, if_neg hopen] at h
    cases h
  | case5 m hclose hopen first rest hfirst =>
    rw [ofMarks, if_neg hclose, if_neg hopen, if_pos hfirst] at h
    cases h
  | case6 m hclose hopen first rest hfirst hname =>
    rw [ofMarks, if_neg hclose, if_neg hopen, if_neg hfirst] at h
    split at h
    · cases h
    · rename_i hsome
      rw [hname] at hsome
      cases hsome
  | case7 m hclose hopen first rest hfirst name rest' hname ih =>
    obtain rfl := Decidable.not_not.mp hopen
    obtain ⟨name, hisName, rfl, rfl⟩ := nameRest?_inv hname
    rw [ofMarks_named hfirst hisName] at h
    obtain ⟨piece, hpiece, h⟩ := bind_eq_ok.mp h
    obtain ⟨p, hp, heq⟩ := bind_eq_ok.mp h
    cases heq
    rcases named_inv hpiece with ⟨hstar, hrest, rfl⟩ | ⟨hstar, hne, rfl, rfl⟩
    · exact .segment hfirst hstar hisName hrest (ih hp)
    · rw [ofMarks] at hp
      cases hp
      exact .tail hstar hisName (mt List.map_eq_nil_iff.mpr hne)

theorem ofMarks_of_denotes {marks : List Mark} {p : Pattern} (h : Denotes marks p) : ofMarks marks = .ok p := by
  induction h with
  | nil => rw [ofMarks]
  | plain hclose hopen _ ih =>
    rw [ofMarks_plain hclose hopen, ih]
    rfl
  | @segment first name rest p hfirst hstar hname hrest _ ih =>
    have hfollows : (rest.head?.all fun m => m.char == '/') = true := by simpa [Option.all_eq_true] using hrest
    rw [ofMarks_named hfirst hname, named, if_neg hstar, if_pos hfollows, ih]
    rfl
  | @tail first name hstar hname hne =>
    have hfirst : first.char ≠ '}' := by
      rw [hstar]
      decide
    rw [ofMarks_named hfirst hname, named, if_pos hstar, if_neg (mt List.map_eq_nil_iff.mp hne), if_pos rfl, ofMarks]
    rfl

theorem ofMarks_eq_ok_iff {marks : List Mark} {p : Pattern} : ofMarks marks = .ok p ↔ Denotes marks p :=
  ⟨denotes_of_ofMarks, ofMarks_of_denotes⟩

/-! ### Following a pattern -/

def slashMark : Mark := ⟨'/', false⟩

theorem getLast?_braced (first : Mark) (name : List Mark) :
    (⟨'{', true⟩ :: first :: (name ++ [⟨'}', true⟩]) : List Mark).getLast? = some ⟨'}', true⟩ := by
  rw [← List.cons_append, ← List.cons_append, List.getLast?_concat]

theorem slash_ne_braced {xs : List Mark} {first : Mark} {name : List Mark} :
    xs ++ [slashMark] ≠ ⟨'{', true⟩ :: first :: (name ++ [⟨'}', true⟩]) := by
  intro heq
  have hlast := congrArg List.getLast? heq
  rw [List.getLast?_concat, getLast?_braced] at hlast
  cases hlast

theorem Denotes.append {xs ys : List Mark} {p q : Pattern} (hp : Denotes xs p) (hnone : NoTail p) (hq : Denotes ys q) :
    Denotes (xs ++ slashMark :: ys) (p ++ .plain '/' :: q) := by
  induction hp with
  | nil => exact .plain (by decide) (by decide) hq
  | plain hclose hopen _ ih =>
    exact .plain hclose hopen (ih hnone.rest)
  | segment hfirst hstar hname hrest _ ih =>
    rename_i first name rest p _
    have hrest' : ∀ m, (rest ++ slashMark :: ys).head? = some m → m.char = '/' := by
      intro m hm
      rw [List.head?_append, Option.or_eq_some_iff] at hm
      rcases hm with hm | ⟨-, hm⟩
      · exact hrest m hm
      · obtain rfl := Option.some.inj hm
        rfl
    have h := Denotes.segment hfirst hstar hname hrest' (ih hnone.rest)
    simpa using h
  | tail => exact absurd List.mem_cons_self (hnone _)

/-- A slash follows only what takes no rest of a path. -/
theorem Denotes.of_slash {xs : List Mark} {q : Pattern} (h : Denotes (xs ++ [slashMark]) q) :
    ∃ p, Denotes xs p ∧ NoTail p ∧ q = p.slashed := by
  generalize hms : xs ++ [slashMark] = ms at h
  induction h generalizing xs with
  | nil => simp at hms
  | @plain m rest q hclose hopen h ih =>
    cases xs with
    | nil =>
      obtain ⟨rfl, rfl⟩ := List.cons.inj hms
      cases h
      exact ⟨[], .nil, fun name => List.not_mem_nil, rfl⟩
    | cons m' xs =>
      obtain ⟨rfl, htail⟩ := List.cons.inj hms
      obtain ⟨p, hp, hnone, rfl⟩ := ih htail
      exact ⟨.plain m'.char :: p, .plain hclose hopen hp, by simpa [NoTail] using hnone, rfl⟩
  | @segment first name rest q hfirst hstar hname hrest h ih =>
    rcases List.eq_nil_or_concat' rest with rfl | ⟨rest, last, rfl⟩
    · exact absurd hms slash_ne_braced
    · have hsplit : xs ++ [slashMark] = (⟨'{', true⟩ :: first :: (name ++ ⟨'}', true⟩ :: rest)) ++ [last] := by
        simpa using hms
      obtain ⟨rfl, hlast⟩ := List.append_inj' hsplit rfl
      obtain rfl := List.singleton_inj.mp hlast
      obtain ⟨p, hp, hnone, rfl⟩ := ih rfl
      have hrest' : ∀ m, rest.head? = some m → m.char = '/' := by
        intro m hm
        exact hrest m (by rw [List.head?_append, hm]; rfl)
      refine ⟨.segment (String.ofList (first.char :: name.map Mark.char)) :: p, ?_, by simpa [NoTail] using hnone, rfl⟩
      exact .segment hfirst hstar hname hrest' hp
  | tail => exact absurd hms slash_ne_braced

/-! ### What a pattern tells of its marks -/

theorem Denotes.mem_plain {ms : List Mark} {p : Pattern} (h : Denotes ms p) {c : Char} (hc : .plain c ∈ p) :
    ∃ m ∈ ms, m.char = c := by
  induction h with
  | nil => cases hc
  | @plain m rest p hclose hopen h ih =>
    rcases List.mem_cons.mp hc with heq | hc
    · exact ⟨m, List.mem_cons_self, (Piece.plain.inj heq).symm⟩
    · obtain ⟨m', hm', heq⟩ := ih hc
      exact ⟨m', List.mem_cons_of_mem m hm', heq⟩
  | segment hfirst hstar hname hrest h ih =>
    rcases List.mem_cons.mp hc with heq | hc
    · cases heq
    · obtain ⟨m, hm, heq⟩ := ih hc
      exact ⟨m, by simp [hm], heq⟩
  | tail => simp at hc

theorem Denotes.getLast? {ms : List Mark} {p : Pattern} (h : Denotes ms p) {c : Char}
    (hc : p.getLast? = some (.plain c)) : ∃ m, ms.getLast? = some m ∧ m.char = c := by
  induction h with
  | nil => cases hc
  | @plain m rest p hclose hopen h ih =>
    cases p with
    | nil =>
      cases h
      exact ⟨m, rfl, by simpa using hc⟩
    | cons piece p =>
      rw [List.getLast?_cons_cons] at hc
      obtain ⟨m', hm', heq⟩ := ih hc
      exact ⟨m', by rw [List.getLast?_cons, hm']; rfl, heq⟩
  | @segment first name rest p hfirst hstar hname hrest h ih =>
    cases p with
    | nil => simp at hc
    | cons piece p =>
      rw [List.getLast?_cons_cons] at hc
      obtain ⟨m, hm, heq⟩ := ih hc
      exact ⟨m, by simp [List.getLast?_cons, hm], heq⟩
  | tail => simp at hc

/-- Where an opening brace does not take the rest of the path. -/
def Closed (a b : Mark) : Prop := a = ⟨'{', true⟩ → b.char ≠ '*'

theorem isChain_of_noStar {ms : List Mark} (h : ∀ m ∈ ms, m.char ≠ '*') : ms.IsChain Closed := by
  induction ms with
  | nil => exact .nil
  | cons m ms ih =>
    refine List.isChain_cons.mpr ⟨fun m' hm' _ => ?_, ih fun m' hm' => h m' (List.mem_cons_of_mem m hm')⟩
    exact h m' (List.mem_cons_of_mem m (List.mem_of_head? hm'))

theorem Denotes.isChain {ms : List Mark} {p : Pattern} (h : Denotes ms p) (hnone : NoTail p) : ms.IsChain Closed := by
  induction h with
  | nil => exact .nil
  | @plain m rest p hclose hopen h ih =>
    have hrest := ih hnone.rest
    exact List.isChain_cons.mpr ⟨fun _ _ heq => absurd heq hopen, hrest⟩
  | @segment first name rest p hfirst hstar hname hfollows h ih =>
    have hrest := ih hnone.rest
    have hfront : List.IsChain Closed (⟨'{', true⟩ :: first :: (name ++ [⟨'}', true⟩])) := by
      refine isChain_of_noStar fun m hm => ?_
      simp only [List.mem_cons, List.mem_append, List.not_mem_nil, or_false] at hm
      rcases hm with rfl | rfl | hm | rfl
      · decide
      · exact hstar
      · exact (hname m hm).2.1
      · decide
    have hchain := List.isChain_append.mpr ⟨hfront, hrest, fun a ha b _ heq => ?_⟩
    · rwa [List.cons_append, List.cons_append, List.append_assoc, List.singleton_append] at hchain
    · rw [getLast?_braced] at ha
      cases ha
      cases heq
  | tail => exact absurd List.mem_cons_self (hnone _)

/-- Marks that mean themselves. -/
theorem denotes_map {ms : List Mark} (h : ∀ m ∈ ms, m.isBrace = false) : Denotes ms (ms.map fun m => .plain m.char) := by
  induction ms with
  | nil => exact .nil
  | cons m ms ih =>
    have hm : m.isBrace = false := h m List.mem_cons_self
    refine .plain ?_ ?_ (ih fun m' hm' => h m' (List.mem_cons_of_mem m hm'))
    all_goals
      rintro rfl
      cases hm

theorem Denotes.of_plain {ms : List Mark} {cs : List Char} (h : Denotes ms (cs.map .plain)) : ms.map Mark.char = cs := by
  induction cs generalizing ms with
  | nil =>
    cases h
    rfl
  | cons c cs ih =>
    cases h with
    | plain _ _ h => rw [List.map_cons, ih h]

/-! ### Marks of texts -/

theorem exists_cons_of_append {rest back tail : List Char} {c : Char} (hc : c ≠ '/') (h : rest ++ '/' :: back = c :: tail) :
    ∃ rest', rest = c :: rest' := by
  cases rest with
  | nil => exact absurd (List.cons.inj h).1.symm hc
  | cons c' rest =>
    obtain ⟨rfl, -⟩ := List.cons.inj h
    exact ⟨rest, rfl⟩

/-- A slash ends what two braces could be read as one in. -/
theorem marks_slash (front back : List Char) : marks (front ++ '/' :: back) = marks front ++ slashMark :: marks back := by
  induction front using marks.induct with
  | case1 rest ih | case2 rest ih => simp [marks, ih]
  | case3 c rest hopen hclose ih =>
    have hopen' : ∀ rest', c = '{' → rest ++ '/' :: back = '{' :: rest' → False := by
      intro rest' hc heq
      obtain ⟨rest, rfl⟩ := exists_cons_of_append (by decide) heq
      exact hopen rest hc rfl
    have hclose' : ∀ rest', c = '}' → rest ++ '/' :: back = '}' :: rest' → False := by
      intro rest' hc heq
      obtain ⟨rest, rfl⟩ := exists_cons_of_append (by decide) heq
      exact hclose rest hc rfl
    rw [List.cons_append, marks.eq_3 c _ hopen' hclose', marks.eq_3 c rest hopen hclose, ih, List.cons_append]
  | case4 => simp [marks, slashMark]

theorem char_mem_of_mem_marks {cs : List Char} {m : Mark} (h : m ∈ marks cs) : m.char ∈ cs := by
  induction cs using marks.induct with
  | case1 rest ih | case2 rest ih =>
    rw [marks] at h
    rcases List.mem_cons.mp h with rfl | h
    · exact List.mem_cons_self
    · exact List.mem_cons_of_mem _ (List.mem_cons_of_mem _ (ih h))
  | case3 c rest hopen hclose ih =>
    rw [marks.eq_3 c rest hopen hclose] at h
    rcases List.mem_cons.mp h with rfl | h
    · exact List.mem_cons_self
    · exact List.mem_cons_of_mem _ (ih h)
  | case4 => cases h

theorem getLast?_marks (cs : List Char) : (marks cs).getLast?.map Mark.char = cs.getLast? := by
  induction cs using marks.induct with
  | case1 rest ih | case2 rest ih =>
    rw [marks, List.getLast?_cons, List.getLast?_cons_cons, List.getLast?_cons, ← ih]
    cases (marks rest).getLast? <;> rfl
  | case3 c rest hopen hclose ih =>
    rw [marks.eq_3 c rest hopen hclose, List.getLast?_cons, List.getLast?_cons, ← ih]
    cases (marks rest).getLast? <;> rfl
  | case4 => rfl

/-- A text without braces. -/
def IsOrdinary (cs : List Char) : Prop := '{' ∉ cs ∧ '}' ∉ cs

instance (cs : List Char) : Decidable (IsOrdinary cs) := inferInstanceAs (Decidable ('{' ∉ cs ∧ '}' ∉ cs))

theorem IsOrdinary.of_cons {c : Char} {cs : List Char} (h : IsOrdinary (c :: cs)) : (c ≠ '{' ∧ c ≠ '}') ∧ IsOrdinary cs := by
  simp only [IsOrdinary, List.mem_cons, not_or] at h
  exact ⟨⟨Ne.symm h.1.1, Ne.symm h.2.1⟩, h.1.2, h.2.2⟩

theorem marks_of_ordinary {cs : List Char} (h : IsOrdinary cs) : marks cs = cs.map fun c => ⟨c, false⟩ := by
  induction cs with
  | nil => rfl
  | cons c cs ih =>
    obtain ⟨⟨hopen, hclose⟩, hrest⟩ := h.of_cons
    rw [marks.eq_3 c cs (fun _ hc => absurd hc hopen) (fun _ hc => absurd hc hclose), ih hrest]
    simp [hopen, hclose]

/-- Only doubled braces lose a character. -/
theorem eq_of_marks {cs : List Char} (h : IsOrdinary ((marks cs).map Mark.char)) : (marks cs).map Mark.char = cs := by
  induction cs using marks.induct with
  | case1 rest | case2 rest => simp [IsOrdinary, marks] at h
  | case3 c rest hopen hclose ih =>
    rw [marks.eq_3 c rest hopen hclose, List.map_cons] at h ⊢
    rw [ih h.of_cons.2]
  | case4 => rfl

/-! ### Texts -/

def IsUnmarked (segment : List Char) : Prop := segment.head? ≠ some ':' ∧ segment.head? ≠ some '*'

instance (segment : List Char) : Decidable (IsUnmarked segment) :=
  inferInstanceAs (Decidable (segment.head? ≠ some ':' ∧ segment.head? ≠ some '*'))

structure Reads (text : String) (p : Pattern) : Prop where
  rooted : text.toList.head? = some '/'
  unmarked : ∀ s ∈ segments text.toList, IsUnmarked s
  denotes : Denotes (marks text.toList) p
  few : p.openSegments ≤ mostOpenSegments

theorem any_marked_eq_false {pieces : List (List Char)} :
    (pieces.any fun s => s.head?.any fun c => c == ':' || c == '*') = false ↔ ∀ s ∈ pieces, IsUnmarked s := by
  rw [List.any_eq_false]
  refine forall₂_congr fun s _ => ?_
  cases hs : s.head? with
  | none => simp [IsUnmarked, hs]
  | some c => simp [IsUnmarked, hs]

theorem ofText_eq_ok_iff {text : String} {p : Pattern} : ofText text = .ok p ↔ Reads text p := by
  unfold ofText
  dsimp only
  constructor
  · intro h
    split at h
    · cases h
    · rename_i hroot
      split at h
      · cases h
      · rename_i hmarked
        obtain ⟨q, hq, h⟩ := bind_eq_ok.mp h
        split at h
        · rename_i hfew
          cases h
          have hunmarked := any_marked_eq_false.mp (Bool.eq_false_iff.mpr hmarked)
          exact ⟨Decidable.not_not.mp hroot, hunmarked, ofMarks_eq_ok_iff.mp hq, hfew⟩
        · cases h
  · rintro ⟨hroot, hunmarked, hdenotes, hfew⟩
    rw [if_neg (not_not_intro hroot), if_neg (Bool.eq_false_iff.mp (any_marked_eq_false.mpr hunmarked)),
      ofMarks_eq_ok_iff.mpr hdenotes]
    exact if_pos hfew

/-- The text of a pattern that more can follow. -/
structure IsStem (text : String) (p : Pattern) : Prop where
  reads : ofText text = .ok p
  noTail : NoTail p

variable {text : String} {p q : Pattern}

theorem segments_slash (front back : List Char) : segments (front ++ '/' :: back) = segments front ++ segments back :=
  List.splitOn_append_cons_self front back

theorem openSegments_slash (p q : Pattern) :
    openSegments (p ++ .plain '/' :: q) = p.openSegments + q.openSegments := by
  simp [openSegments, List.countP_append]

/-- Behind a stem and a slash, what is left is read as if it stood alone. -/
theorem IsStem.append (h : IsStem text p) {rest : String} (hrest : ∀ s ∈ segments rest.toList, IsUnmarked s)
    (hq : Denotes (marks rest.toList) q) (hnone : q.openSegments = 0) :
    ofText (text ++ "/" ++ rest) = .ok (p ++ .plain '/' :: q) := by
  obtain ⟨hroot, hunmarked, hp, hfew⟩ := ofText_eq_ok_iff.mp h.reads
  have hlist : (text ++ "/" ++ rest).toList = text.toList ++ '/' :: rest.toList := by simp
  refine ofText_eq_ok_iff.mpr ⟨?_, ?_, ?_, ?_⟩
  · rw [hlist, List.head?_append, hroot]
    rfl
  · rw [hlist, segments_slash]
    intro s hs
    exact (List.mem_append.mp hs).elim (hunmarked s) (hrest s)
  · rw [hlist, marks_slash]
    exact hp.append h.noTail hq
  · rw [openSegments_slash, hnone]
    exact hfew

theorem IsStem.slash (h : IsStem text p) : ofText (text ++ "/") = .ok p.slashed := by
  have hempty : ∀ s ∈ segments "".toList, IsUnmarked s := by simp [segments, IsUnmarked]
  simpa [slashed] using h.append hempty .nil rfl

theorem IsStem.below (h : IsStem text p) (rest : String) {name : String}
    (hunmarked : ∀ s ∈ segments rest.toList, IsUnmarked s)
    (hrest : ofMarks (marks rest.toList) = .ok [.tail name]) :
    ofText (text ++ ("/" ++ rest)) = .ok (p.below name) := by
  rw [← String.append_assoc]
  exact h.append hunmarked (ofMarks_eq_ok_iff.mp hrest) rfl

theorem exists_isStem_of_slash (hroot : text.toList.head? = some '/') (h : ofText (text ++ "/") = .ok q) :
    ∃ p, IsStem text p := by
  obtain ⟨-, hunmarked, hq, hfew⟩ := ofText_eq_ok_iff.mp h
  have hlist : (text ++ "/").toList = text.toList ++ '/' :: [] := by simp
  rw [hlist, marks_slash] at hq
  rw [hlist, segments_slash] at hunmarked
  obtain ⟨p, hp, hnone, rfl⟩ := hq.of_slash
  rw [slashed, openSegments_slash] at hfew
  have hreads : Reads text p := ⟨hroot, fun s hs => hunmarked s (List.mem_append_left _ hs), hp, hfew⟩
  exact ⟨p, ofText_eq_ok_iff.mpr hreads, hnone⟩

theorem isStem_of_ordinary (hroot : text.toList.head? = some '/') (hunmarked : ∀ s ∈ segments text.toList, IsUnmarked s)
    (hordinary : IsOrdinary text.toList) : IsStem text (text.toList.map .plain) := by
  have hdenotes : Denotes (marks text.toList) (text.toList.map .plain) := by
    rw [marks_of_ordinary hordinary]
    have hmap : Denotes (text.toList.map fun c => ⟨c, false⟩) _ := denotes_map (by simp)
    rwa [List.map_map] at hmap
  have hfew : openSegments (text.toList.map .plain) = 0 := by simp [openSegments, List.countP_map]
  exact ⟨ofText_eq_ok_iff.mpr ⟨hroot, hunmarked, hdenotes, by simp [hfew]⟩, by simp [NoTail]⟩

/-- What is written without names is written in one way. -/
theorem toList_of_plain {cs : List Char} (hordinary : IsOrdinary cs) (h : ofText text = .ok (cs.map .plain)) :
    text.toList = cs := by
  have hcs := (ofText_eq_ok_iff.mp h).denotes.of_plain
  exact (eq_of_marks (hcs ▸ hordinary)).symm.trans hcs

/-- A segment of a rooted text stands behind a slash. -/
theorem exists_slash_append {cs s : List Char} (hroot : cs.head? = some '/') (hs : s ∈ segments cs) (hne : s ≠ []) :
    ∃ front back, cs = front ++ '/' :: s ++ back := by
  obtain ⟨rest, rfl⟩ := List.head?_eq_some_iff.mp hroot
  have hs : s ∈ rest.splitOn '/' := by
    have hsplit := segments_slash [] rest
    rw [List.nil_append] at hsplit
    rw [hsplit] at hs
    exact (List.mem_append.mp hs).resolve_left (by simpa [segments] using hne)
  obtain ⟨before, after, hsplit⟩ := List.mem_iff_append.mp hs
  have hrest : '/' :: rest = Path.fromRoot (before ++ s :: after) := by
    rw [Path.fromRoot, ← hsplit, List.intercalate_splitOn]
  obtain ⟨back, hback⟩ : ∃ back, Path.fromRoot (s :: after) = '/' :: s ++ back := by
    by_cases hafter : after = []
    · exact ⟨[], by simp [hafter, Path.fromRoot]⟩
    · exact ⟨_, Path.fromRoot_cons hafter s⟩
  by_cases hbefore : before = []
  · exact ⟨[], back, by rw [hrest, hbefore, List.nil_append, hback, List.nil_append]⟩
  · exact ⟨Path.fromRoot before, back, by rw [hrest, Path.fromRoot_append hbefore (by simp), hback, List.append_assoc]⟩

/-- No segment of a stem takes the rest of the path. -/
theorem IsStem.not_prefix (h : IsStem text p) {s : List Char} (hs : s ∈ segments text.toList) : ¬ ['{', '*'] <+: s := by
  rintro ⟨rest, rfl⟩
  have hreads := ofText_eq_ok_iff.mp h.reads
  have hchain := hreads.denotes.isChain h.noTail
  obtain ⟨front, back, hfront⟩ := exists_slash_append hreads.rooted hs (by simp)
  have hmarks : marks text.toList = marks front ++ slashMark :: ⟨'{', true⟩ :: ⟨'*', false⟩ :: marks (rest ++ back) := by
    rw [hfront, List.append_assoc, List.cons_append, marks_slash]
    rfl
  rw [hmarks] at hchain
  obtain ⟨-, hchain, -⟩ := List.isChain_append.mp hchain
  obtain ⟨-, hchain⟩ := List.isChain_cons_cons.mp hchain
  exact (List.isChain_cons_cons.mp hchain).1 rfl rfl

end Gateway.Pattern
