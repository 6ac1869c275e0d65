import Gateway.Proofs.Path.Names
import Gateway.Proofs.Text.Ascii
import Gateway.Proofs.Text.Cutting
import Gateway.Url.Resolution

/-! The segments of a URL's path. Once read, a segment is settled: nothing in it separates segments or has to be escaped,
    and it is no dot segment, escaped dots included. Settled segments stay what they are when they are read again, and so
    a walk through them only goes on. -/

namespace Gateway.Url

open Gateway.Path

/-! ### Escapes -/

theorem escape_of_forall {set : Char → Bool} {cs : List Char} (h : ∀ c ∈ cs, set c = false) : escape set cs = cs := by
  induction cs with
  | nil => rfl
  | cons c cs ih =>
    rw [escape, List.flatMap_cons, escapeChar, if_neg (by simp [h c List.mem_cons_self])]
    exact congrArg (c :: ·) (ih fun c hc => h c (List.mem_cons_of_mem _ hc))

/-- The characters of an escape. -/
def isEscapeChar (c : Char) : Bool := "%0123456789ABCDEF".toList.contains c

theorem isEscapeChar_of_mem_escapeByte (b : UInt8) : ∀ c ∈ escapeByte b, isEscapeChar c = true := by
  have hall : ∀ n : Fin 256, (escapeByte (UInt8.ofNat n)).all isEscapeChar = true := by decide +kernel
  simpa using hall ⟨b.toNat, b.toNat_lt⟩

/-- What an escaped text holds stood there before and is allowed, or belongs to an escape. -/
theorem mem_escape {set : Char → Bool} {cs : List Char} {c : Char} (h : c ∈ escape set cs) :
    (c ∈ cs ∧ set c = false) ∨ isEscapeChar c = true := by
  obtain ⟨d, hd, hc⟩ := List.mem_flatMap.mp h
  unfold escapeChar at hc
  split at hc
  · obtain ⟨b, -, hb⟩ := List.mem_flatMap.mp hc
    exact Or.inr (isEscapeChar_of_mem_escapeByte b c hb)
  · rename_i hset
    obtain rfl := List.mem_singleton.mp hc
    exact Or.inl ⟨hd, by simpa using hset⟩

theorem pathSet_of_isEscapeChar {c : Char} (h : isEscapeChar c = true) : pathSet c = false := by
  have hall : ∀ d ∈ "%0123456789ABCDEF".toList, pathSet d = false := Text.forall_mem (by decide +kernel)
  exact hall c (by simpa [isEscapeChar] using h)

/-! ### Dot segments -/

/-- The percent signs of a text are those of escaped dots. -/
def OnlyDotsEscaped (cs : List Char) : Prop := ∀ rest, ('%' :: rest) <:+ cs → ∃ more, rest = '2' :: 'e' :: more

theorem OnlyDotsEscaped.tail {c : Char} {cs : List Char} (h : OnlyDotsEscaped (c :: cs)) : OnlyDotsEscaped cs :=
  fun rest hr => h rest (hr.trans (List.suffix_cons c cs))

/-- Only a dot is escaped like a dot. -/
theorem eq_dot_of_escapeByte {b : UInt8} (h : (escapeByte b).map Char.toLower = ['%', '2', 'e']) : b = 0x2e := by
  have hall : ∀ n : Fin 256, (escapeByte (UInt8.ofNat n)).map Char.toLower = ['%', '2', 'e'] → n.val = 0x2e := by
    decide +kernel
  have := hall ⟨b.toNat, b.toNat_lt⟩ (by simpa using h)
  exact UInt8.toNat_inj.mp this

theorem ofNat_ne_dot {n : Nat} (h : n % 256 ≠ 0x2e) : UInt8.ofNat n ≠ 0x2e := by
  intro heq
  have := congrArg UInt8.toNat heq
  simp only [UInt8.toNat_ofNat'] at this
  exact h this

/-- A character other than the dot starts with another byte. -/
theorem exists_utf8EncodeChar {c : Char} (h : c ≠ '.') :
    ∃ b bytes, String.utf8EncodeChar c = b :: bytes ∧ b ≠ 0x2e := by
  have hval : c.val.toNat ≠ 0x2e := fun heq => h (Char.ext (UInt32.toNat_inj.mp heq))
  unfold String.utf8EncodeChar
  dsimp only
  split
  · exact ⟨_, _, rfl, ofNat_ne_dot (by omega)⟩
  · split
    · exact ⟨_, _, rfl, ofNat_ne_dot (by omega)⟩
    · split <;> exact ⟨_, _, rfl, ofNat_ne_dot (by omega)⟩

/-- Escaping makes no dots that were not there, escaped or not. -/
theorem eq_of_escape {segment dots : List Char} (hd : OnlyDotsEscaped dots)
    (h : (escape pathSet segment).map Char.toLower = dots) : segment.map Char.toLower = dots := by
  induction segment generalizing dots with
  | nil => exact h
  | cons c cs ih =>
    rw [escape, List.flatMap_cons, List.map_append] at h
    by_cases hc : pathSet c = true
    · -- An escape would be that of a dot, but a dot is not escaped.
      exfalso
      have hdot : c ≠ '.' := by
        rintro rfl
        exact absurd hc (by decide +kernel)
      obtain ⟨b, bytes, hb, hne⟩ := exists_utf8EncodeChar hdot
      rw [escapeChar, if_pos hc, hb, List.flatMap_cons, List.map_append, List.append_assoc] at h
      obtain ⟨x, y, hxy⟩ : ∃ x y, (escapeByte b).map Char.toLower = ['%', x, y] := ⟨_, _, rfl⟩
      rw [hxy] at h
      obtain ⟨more, hmore⟩ : ∃ more, x :: y :: _ = '2' :: 'e' :: more := hd _ ⟨[], h⟩
      obtain ⟨hx, hmore⟩ := List.cons.inj hmore
      rw [hx, (List.cons.inj hmore).1] at hxy
      exact hne (eq_dot_of_escapeByte hxy)
    · rw [escapeChar, if_neg hc] at h
      obtain rfl := h
      rw [List.map_cons, ih hd.tail rfl]
      rfl

/-- The forms of the segment that stays where it is, and of the one that climbs. -/
def hereForms : List (List Char) := [".", "%2e"].map String.toList

def upForms : List (List Char) := ["..", ".%2e", "%2e.", "%2e%2e"].map String.toList

theorem onlyDotsEscaped_of_mem {form : List Char} (h : form ∈ hereForms ++ upForms) : OnlyDotsEscaped form := by
  intro rest hr
  simp only [hereForms, upForms, List.map_cons, List.map_nil, List.mem_append, List.mem_cons, List.not_mem_nil,
    or_false] at h
  rcases h with (rfl | rfl) | rfl | rfl | rfl | rfl <;> simp [List.suffix_cons_iff] at hr
  · exact ⟨[], hr⟩
  · exact ⟨[], hr⟩
  · exact ⟨['.'], hr⟩
  · rcases hr with rfl | rfl <;> exact ⟨_, rfl⟩

theorem dotSegment?_eq (segment : List Char) : dotSegment? segment =
    if segment.map Char.toLower ∈ hereForms then some .here
    else if segment.map Char.toLower ∈ upForms then some .up else none := by
  simp only [dotSegment?, ← List.contains_iff_mem]
  rfl

theorem dotSegment?_eq_none {segment : List Char} :
    dotSegment? segment = none ↔ segment.map Char.toLower ∉ hereForms ++ upForms := by
  rw [dotSegment?_eq, List.mem_append, not_or]
  split
  · simp_all
  · split <;> simp_all

theorem dotSegment?_escape {segment : List Char} (h : dotSegment? segment = none) :
    dotSegment? (escape pathSet segment) = none := by
  rw [dotSegment?_eq_none] at h ⊢
  exact fun hmem => h (eq_of_escape (onlyDotsEscaped_of_mem hmem) rfl ▸ hmem)

/-! ### Settled segments -/

/-- A segment as it stands in a URL that has been read. -/
structure IsSettled (segment : List Char) : Prop where
  separator : ∀ c ∈ segment, isSeparator true c = false
  escaped : ∀ c ∈ segment, pathSet c = false
  dot : dotSegment? segment = none

theorem isSettled_nil : IsSettled [] := ⟨by simp, by simp, by decide +kernel⟩

theorem separator_of_isEscapeChar {c : Char} (h : isEscapeChar c = true) : isSeparator true c = false := by
  have hall : ∀ d ∈ "%0123456789ABCDEF".toList, isSeparator true d = false := Text.forall_mem (by decide +kernel)
  exact hall c (by simpa [isEscapeChar] using h)

/-- A segment is settled when it has been escaped. -/
theorem isSettled_escape {segment : List Char} (hs : ∀ c ∈ segment, isSeparator true c = false)
    (hd : dotSegment? segment = none) : IsSettled (escape pathSet segment) where
  separator c hc := by
    rcases mem_escape hc with ⟨hmem, -⟩ | hesc
    · exact hs c hmem
    · exact separator_of_isEscapeChar hesc
  escaped c hc := by
    rcases mem_escape hc with ⟨-, hset⟩ | hesc
    · exact hset
    · exact pathSet_of_isEscapeChar hesc
  dot := dotSegment?_escape hd

theorem IsSettled.slash {segment : List Char} (h : IsSettled segment) : '/' ∉ segment := by
  intro hmem
  exact absurd (h.separator '/' hmem) (by decide)

section Taking
variable {kept segments more : List (List Char)}

theorem takeSegments_cons_settled {segment : List Char} (h : IsSettled segment) (kept rest : List (List Char)) :
    takeSegments kept (segment :: rest) = takeSegments (segment :: kept) rest := by
  rw [takeSegments, h.dot]
  dsimp only
  rw [escape_of_forall h.escaped]

theorem takeSegments_settled (h : ∀ s ∈ segments, IsSettled s) (kept more : List (List Char)) :
    takeSegments kept (segments ++ more) = takeSegments (segments.reverse ++ kept) more := by
  induction segments generalizing kept with
  | nil => rfl
  | cons s segments ih =>
    rw [List.cons_append, takeSegments_cons_settled (h s List.mem_cons_self),
      ih fun s hs => h s (List.mem_cons_of_mem _ hs)]
    simp

/-- Whatever segments are taken, what they leave is settled. -/
theorem isSettled_takeSegments (hk : ∀ s ∈ kept, IsSettled s)
    (hs : ∀ s ∈ segments, ∀ c ∈ s, isSeparator true c = false) : ∀ s ∈ takeSegments kept segments, IsSettled s := by
  induction segments generalizing kept with
  | nil => exact hk
  | cons segment rest ih =>
    have hrest : ∀ s ∈ rest, ∀ c ∈ s, isSeparator true c = false := fun s h => hs s (List.mem_cons_of_mem _ h)
    have htail : ∀ s ∈ kept.tail, IsSettled s := fun s h => hk s (List.mem_of_mem_tail h)
    have hcons {first : List Char} {kept : List (List Char)} (hf : IsSettled first) (hk : ∀ s ∈ kept, IsSettled s) :
        ∀ s ∈ first :: kept, IsSettled s := by
      intro s h
      rcases List.mem_cons.mp h with rfl | h
      · exact hf
      · exact hk s h
    rw [takeSegments]
    refine ih ?_ hrest
    cases hd : dotSegment? segment with
    | none => exact hcons (isSettled_escape (hs segment List.mem_cons_self) hd) hk
    | some dot =>
      cases dot with
      | here =>
        dsimp only
        split
        · exact hcons isSettled_nil hk
        · exact hk
      | up =>
        dsimp only
        split
        · exact hcons isSettled_nil htail
        · exact htail

end Taking

/-! ### Walks -/

theorem separator_of_mem_cutSegments {cs segment : List Char} (h : segment ∈ cutSegments true cs) :
    ∀ c ∈ segment, isSeparator true c = false := by
  intro c hc
  obtain ⟨d, -, hd⟩ := List.mem_map.mp (Text.mem_of_mem_piece h hc)
  split at hd
  · exact absurd (hd ▸ hc) (Text.not_mem_piece h)
  · rename_i hsep
    rw [← hd]
    simpa using hsep

theorem cutSegments_ne_nil (special : Bool) (cs : List Char) : cutSegments special cs ≠ [] := List.splitOn_ne_nil _ _

theorem cutSegments_slash (front back : List Char) :
    cutSegments true (front ++ '/' :: back) = cutSegments true front ++ cutSegments true back := by
  rw [cutSegments, List.map_append, List.map_cons, if_pos (by decide), List.splitOn_append_cons_self]
  rfl

theorem cutSegments_of_forall {segment : List Char} (h : ∀ c ∈ segment, isSeparator true c = false) :
    cutSegments true segment = [segment] := by
  have hsame : (segment.map fun c => if isSeparator true c then '/' else c) = segment := by
    refine (List.map_congr_left fun c hc => ?_).trans (List.map_id segment)
    rw [if_neg (by simp [h c hc])]
    rfl
  rw [cutSegments, hsame, List.splitOn_eq_singleton]
  exact fun hmem => absurd (h '/' hmem) (by decide)

/-- Segments without separators in them are found again between slashes. -/
theorem cutSegments_intercalate {segments : List (List Char)} (hne : segments ≠ [])
    (h : ∀ s ∈ segments, ∀ c ∈ s, isSeparator true c = false) :
    cutSegments true (['/'].intercalate segments) = segments := by
  induction segments with
  | nil => exact absurd rfl hne
  | cons s segments ih =>
    have hs := cutSegments_of_forall (h s List.mem_cons_self)
    cases segments with
    | nil => rwa [List.intercalate_singleton]
    | cons next segments =>
      rw [List.intercalate_cons_cons, List.append_assoc, List.singleton_append, cutSegments_slash, hs,
        ih (by simp) fun s hs => h s (List.mem_cons_of_mem _ hs)]
      rfl

theorem readSegments_eq_walk (cs : List Char) : readSegments true cs = walk [] (cutSegments true cs) := rfl

section Walk
variable {place segments : List (List Char)}

theorem walk_settled_append (h : ∀ s ∈ segments, IsSettled s) (place more : List (List Char)) :
    walk place (segments ++ more) = walk (place ++ segments) more := by
  rw [walk, takeSegments_settled h, walk, List.reverse_append]

theorem walk_settled (h : ∀ s ∈ segments, IsSettled s) (place : List (List Char)) :
    walk place segments = place ++ segments := by
  have hall := walk_settled_append h place []
  rw [List.append_nil] at hall
  rw [hall]
  simp [walk, takeSegments]

theorem isSettled_walk (hp : ∀ s ∈ place, IsSettled s)
    (hs : ∀ s ∈ segments, ∀ c ∈ s, isSeparator true c = false) : ∀ s ∈ walk place segments, IsSettled s := by
  intro s h
  exact isSettled_takeSegments (fun s hs => hp s (List.mem_reverse.mp hs)) hs s (List.mem_reverse.mp h)

/-- A walk without climbs stays behind where it starts. -/
theorem prefix_walk (h : ∀ s ∈ segments, dotSegment? s ≠ some .up) (place : List (List Char)) :
    place <+: walk place segments := by
  -- For the induction the segments kept so far vary: without climbs each segment only puts more in front of them.
  suffices hsuffix : ∀ kept, kept <:+ takeSegments kept segments by
    rw [walk, ← List.reverse_suffix, List.reverse_reverse]
    exact hsuffix place.reverse
  induction segments with
  | nil => exact fun kept => List.suffix_rfl
  | cons segment rest ih =>
    intro kept
    have ih := ih fun s hs => h s (List.mem_cons_of_mem _ hs)
    have hcons : ∀ s : List Char, kept <:+ takeSegments (s :: kept) rest := fun s =>
      (List.suffix_cons s kept).trans (ih (s :: kept))
    rw [takeSegments]
    cases hd : dotSegment? segment with
    | none => exact hcons _
    | some dot =>
      cases dot with
      | here =>
        dsimp only
        split
        · exact hcons []
        · exact ih kept
      | up => exact absurd hd (h segment List.mem_cons_self)

end Walk

theorem pieces_segmentsRoute (segments : List (List Char)) : (segmentsRoute segments).pieces = segments := by
  simp [segmentsRoute, Route.pieces, Function.comp_def]

theorem join_slashes {segments : List (List Char)} (hne : segments ≠ []) :
    String.join ((segments.map String.ofList).map ("/" ++ ·)) = String.ofList (fromRoot segments) := by
  induction segments with
  | nil => exact absurd rfl hne
  | cons s segments ih =>
    cases segments with
    | nil => simp [String.join_cons, fromRoot]
    | cons next segments =>
      rw [List.map_cons, List.map_cons, String.join_cons, ih (by simp), ← String.toList_inj]
      simp [fromRoot]

theorem path_of_segments {url : Url} {segments : List (List Char)} (hr : url.route = segmentsRoute segments)
    (hne : segments ≠ []) : url.path = String.ofList (fromRoot segments) := by
  rw [path, hr]
  exact join_slashes hne

end Gateway.Url
