import Gateway.Http.Coding
import Gateway.Proofs.Http.Values
import Gateway.Proofs.Results

/-! Tokens of codings. Values mean what they list in one line, with commas between them, and of that only the tokens count,
    in lower case and without those that say nothing. So it does not show how the tokens are spread over the values, in which
    case they are written, and whether tokens that say nothing stand between them. -/

namespace Gateway.Http.Coding

/-- The token of a piece of a list. -/
def word (piece : List Char) : String := String.ofList ((Text.trim Text.isBlank piece).map Char.toLower)

/-- The values in one line. -/
def line (values : List ByteArray) : List Char := [','].intercalate (values.map characters)

/-- The tokens of a line, in their order, but for those that say nothing. -/
def listed (line : List Char) : List String :=
  ((line.splitOn ',').map word).filter fun token => token ≠ "" ∧ token ≠ "identity"

variable {value a b : ByteArray} {values others front back : List ByteArray} {tokens : List String}

/-! ### Lines -/

theorem listed_append (a b : List Char) : listed (a ++ ',' :: b) = listed a ++ listed b := by
  rw [listed, List.splitOn_append_cons_self, List.map_append, List.filter_append]
  rfl

theorem listed_line (values : List ByteArray) : listed (line values) = values.flatMap fun value => listed (characters value) := by
  induction values with
  | nil => decide +kernel
  | cons value values ih =>
    cases values with
    | nil => simp [line]
    | cons next values =>
      rw [line, List.map_cons, List.map_cons, List.intercalate_cons_cons, List.append_assoc, List.singleton_append,
        listed_append, ← List.map_cons, List.flatMap_cons, ← ih]
      rfl

theorem listed_lower (cs : List Char) : listed (cs.map Char.toLower) = listed cs := by
  have hword : ∀ piece : List Char, word (piece.map Char.toLower) = word piece := by
    intro piece
    rw [word, Text.trim_map Text.isBlank_toLower, List.map_map]
    congr 2
    funext c
    exact Text.toLower_toLower c
  rw [listed, Text.splitOn_map Text.toLower_eq_comma_iff, List.map_map]
  congr 2
  funext piece
  exact hword piece

/-- Where nothing but one token stands that says nothing, nothing is listed. -/
theorem listed_of_word {cs : List Char} (h : word cs = "" ∨ word cs = "identity") : listed cs = [] := by
  have hcomma : ',' ∉ cs := by
    intro hmem
    obtain ⟨before, after, hcs, hbefore, hafter⟩ := Text.exists_around_trim Text.isBlank cs
    rw [hcs, List.append_assoc] at hmem
    rcases List.mem_append.mp hmem with hmem | hmem
    · exact absurd (hbefore _ hmem) (by decide)
    · rcases List.mem_append.mp hmem with hmem | hmem
      · have hlower : ',' ∈ (word cs).toList := by
          rw [word, String.toList_ofList]
          exact List.mem_map_of_mem (f := Char.toLower) hmem
        rcases h with h | h <;> rw [h] at hlower <;> exact absurd hlower (by decide)
      · exact absurd (hafter _ hmem) (by decide)
  rw [listed, List.splitOn_eq_singleton hcomma]
  rcases h with h | h <;> simp [h]

/-! ### What is read -/

theorem tokens_of_isText (h : IsText value) : Coding.tokens (String.ofList (characters value)) = listed (characters value) := by
  rw [Coding.tokens, elements_of_isText h, listed, List.map_map]
  congr 1
  funext token
  rw [Bool.eq_iff_iff]
  simp

theorem allTokens_of_isText (h : ∀ value ∈ values, IsText value) : allTokens values = .ok (listed (line values)) := by
  rw [listed_line]
  induction values with
  | nil => rfl
  | cons value values ih =>
    have hvalue := h value List.mem_cons_self
    rw [allTokens, text?_of_isText hvalue]
    dsimp only
    rw [ih fun v hv => h v (List.mem_cons_of_mem _ hv), tokens_of_isText hvalue]
    rfl

/-- The first value that is no text is refused. -/
theorem allTokens_of_not_isText (hfront : ∀ value ∈ front, IsText value) (hvalue : ¬ IsText value) (back : List ByteArray) :
    allTokens (front ++ value :: back) = .error ⟨String.ofList (Text.ofUtf8Lossy value)⟩ := by
  induction front with
  | nil => rw [List.nil_append, allTokens, text?_of_not_isText hvalue]
  | cons first front ih =>
    rw [List.cons_append, allTokens, text?_of_isText (hfront first List.mem_cons_self)]
    dsimp only
    rw [ih fun v hv => hfront v (List.mem_cons_of_mem _ hv)]
    rfl

/-- What values mean. They name no coding, or the one that is understood, by either of its names; or they are refused, for
    the first value that is no text or else for all that they list. -/
inductive Means (values : List ByteArray) : Except UnsupportedCoding Coding → Prop
  | identity : (∀ value ∈ values, IsText value) → listed (line values) = [] → Means values (.ok .identity)
  | gzip : (∀ value ∈ values, IsText value) → listed (line values) = ["gzip"] ∨ listed (line values) = ["x-gzip"] →
      Means values (.ok .gzip)
  | illegible {front back : List ByteArray} {value : ByteArray} : values = front ++ value :: back →
      (∀ value ∈ front, IsText value) → ¬ IsText value → Means values (.error ⟨String.ofList (Text.ofUtf8Lossy value)⟩)
  | unsupported : (∀ value ∈ values, IsText value) → listed (line values) ≠ [] →
      ¬ (listed (line values) = ["gzip"] ∨ listed (line values) = ["x-gzip"]) →
      Means values (.error ⟨", ".intercalate (listed (line values))⟩)

theorem ofValues_of_isText (h : ∀ value ∈ values, IsText value) : ofValues values = ofTokens (listed (line values)) := by
  rw [ofValues, allTokens_of_isText h]
  rfl

theorem ofTokens_gzip (h : tokens = ["gzip"] ∨ tokens = ["x-gzip"]) : ofTokens tokens = .ok .gzip := by
  rcases h with rfl | rfl <;> rfl

theorem ofTokens_unsupported (hsome : tokens ≠ []) (hother : ¬ (tokens = ["gzip"] ∨ tokens = ["x-gzip"])) :
    ofTokens tokens = .error ⟨", ".intercalate tokens⟩ := by
  cases tokens with
  | nil => exact absurd rfl hsome
  | cons token rest =>
    cases rest with
    | nil =>
      rw [ofTokens, if_neg (by simpa using hother), String.intercalate_singleton]
    | cons second rest => rfl

theorem exists_first_not_isText (h : ¬ ∀ value ∈ values, IsText value) :
    ∃ front value back, values = front ++ value :: back ∧ (∀ value ∈ front, IsText value) ∧ ¬ IsText value := by
  induction values with
  | nil => exact absurd (by simp) h
  | cons value values ih =>
    by_cases hvalue : IsText value
    · obtain ⟨front, first, back, rfl, hfront, hfirst⟩ := ih fun hrest => h (List.forall_mem_cons.mpr ⟨hvalue, hrest⟩)
      exact ⟨value :: front, first, back, rfl, List.forall_mem_cons.mpr ⟨hvalue, hfront⟩, hfirst⟩
    · exact ⟨[], value, values, rfl, by simp, hvalue⟩

theorem ofValues_eq_iff {result : Except UnsupportedCoding Coding} : ofValues values = result ↔ Means values result := by
  constructor
  · rintro rfl
    by_cases h : ∀ value ∈ values, IsText value
    · rw [ofValues_of_isText h]
      by_cases hnone : listed (line values) = []
      · rw [hnone]
        exact .identity h hnone
      · by_cases hgzip : listed (line values) = ["gzip"] ∨ listed (line values) = ["x-gzip"]
        · rw [ofTokens_gzip hgzip]
          exact .gzip h hgzip
        · rw [ofTokens_unsupported hnone hgzip]
          exact .unsupported h hnone hgzip
    · obtain ⟨front, value, back, heq, hfront, hvalue⟩ := exists_first_not_isText h
      rw [ofValues, heq, allTokens_of_not_isText hfront hvalue]
      exact .illegible rfl hfront hvalue
  · intro h
    cases h with
    | identity h hnone => rw [ofValues_of_isText h, hnone]; rfl
    | gzip h hgzip => rw [ofValues_of_isText h, ofTokens_gzip hgzip]
    | illegible heq hfront hvalue =>
      rw [ofValues, heq, allTokens_of_not_isText hfront hvalue]
      rfl
    | unsupported h hnone hgzip => rw [ofValues_of_isText h, ofTokens_unsupported hnone hgzip]

/-! ### Other spellings -/

/-- A value of one token that says nothing, with any blanks around it. -/
def SaysNothing (value : ByteArray) : Prop :=
  IsText value ∧ (word (characters value) = "" ∨ word (characters value) = "identity")

/-- Values that list the same in another way: cut at a comma or put together at one, in other case, or with values in between
    that say nothing. Such a token comes to stand within a value when the value is cut and put together again. -/
inductive Respelled : List ByteArray → List ByteArray → Prop
  | cut (front back : List ByteArray) (a b : ByteArray) :
      Respelled (front ++ (a ++ ",".toUTF8 ++ b) :: back) (front ++ a :: b :: back)
  | recase (front back : List ByteArray) {a b : ByteArray} :
      (characters a).map Char.toLower = (characters b).map Char.toLower → Respelled (front ++ a :: back) (front ++ b :: back)
  | insert (front back : List ByteArray) {value : ByteArray} :
      SaysNothing value → Respelled (front ++ back) (front ++ value :: back)
  | refl (values : List ByteArray) : Respelled values values
  | symm {values others : List ByteArray} : Respelled values others → Respelled others values
  | trans {values others more : List ByteArray} : Respelled values others → Respelled others more → Respelled values more

theorem isText_comma : IsText ",".toUTF8 := by
  rw [← all_isVisible_iff]
  decide +kernel

theorem characters_comma : characters ",".toUTF8 = [','] := by
  rw [characters, Text.toList_eq_data]
  decide +kernel

theorem isText_iff_lower : IsText value ↔
    ∀ c ∈ (characters value).map Char.toLower, isVisible (UInt8.ofNat c.toNat) = true := by
  have hbyte : ∀ b : UInt8, isVisible (UInt8.ofNat (Char.ofNat b.toNat).toLower.toNat) = isVisible b :=
    Text.forall_byte (by decide +kernel)
  simp only [IsText, characters, List.map_map, List.forall_mem_map, Function.comp_apply, hbyte]

theorem Respelled.isText_iff (h : Respelled values others) :
    (∀ value ∈ values, IsText value) ↔ ∀ value ∈ others, IsText value := by
  induction h with
  | cut front back a b =>
    simp only [List.forall_mem_append, List.forall_mem_cons, isText_append, isText_comma, and_true, and_assoc]
  | recase front back hcase =>
    simp only [List.forall_mem_append, List.forall_mem_cons, isText_iff_lower, hcase]
  | insert front back hvalue => simp only [List.forall_mem_append, List.forall_mem_cons, hvalue.1, true_and]
  | refl values => rfl
  | symm _ ih => exact ih.symm
  | trans _ _ ih ih' => exact ih.trans ih'

theorem Respelled.listed_eq (h : Respelled values others) : listed (line values) = listed (line others) := by
  induction h with
  | cut front back a b =>
    simp only [listed_line, List.flatMap_append, List.flatMap_cons, characters_append, characters_comma, List.append_assoc,
      List.singleton_append, listed_append]
  | recase front back hcase =>
    simp only [listed_line, List.flatMap_append, List.flatMap_cons]
    rw [← listed_lower, hcase, listed_lower]
  | insert front back hvalue =>
    simp only [listed_line, List.flatMap_append, List.flatMap_cons, listed_of_word hvalue.2, List.nil_append]
  | refl values => rfl
  | symm _ ih => exact ih.symm
  | trans _ _ ih ih' => exact ih.trans ih'

theorem Respelled.toOption_eq (h : Respelled values others) : (ofValues others).toOption = (ofValues values).toOption := by
  by_cases htext : ∀ value ∈ values, IsText value
  · rw [ofValues_of_isText htext, ofValues_of_isText (h.isText_iff.mp htext), h.listed_eq]
  · have hrefused : ∀ {values : List ByteArray}, ¬ (∀ value ∈ values, IsText value) → (ofValues values).toOption = none := by
      intro values htext
      obtain ⟨front, value, back, rfl, hfront, hvalue⟩ := exists_first_not_isText htext
      rw [ofValues_eq_iff.mpr (.illegible rfl hfront hvalue)]
      rfl
    rw [hrefused htext, hrefused (mt h.isText_iff.mpr htext)]

/-- **The coding depends only on the tokens.** It is what the values of its field mean, which are all that is read of the
    fields; and in another spelling they mean the same coding, or are refused as before. -/
theorem ofHeaders_means (h : Headers) :
    (∀ result, ofHeaders h = result ↔ Means (h.values "content-encoding") result) ∧
      ∀ others : Headers, Respelled (h.values "content-encoding") (others.values "content-encoding") →
        (ofHeaders others).toOption = (ofHeaders h).toOption :=
  ⟨fun _ => ofValues_eq_iff, fun _ hrespelled => hrespelled.toOption_eq⟩

/-- A value that says nothing stands behind a list, and `identity` in it. -/
theorem ofHeaders_means_spread :
    let h : Headers := ⟨[⟨"content-encoding", "identity,\tGZip ".toUTF8⟩, ⟨"content-encoding", " ".toUTF8⟩]⟩
    let others : Headers := ⟨[⟨"content-encoding", "\tgzip ".toUTF8⟩]⟩
    Respelled (h.values "content-encoding") (others.values "content-encoding") ∧ ofHeaders h = .ok .gzip ∧
      (ofHeaders others).toOption = some .gzip := by
  intro h others
  have hidentity : SaysNothing "identity".toUTF8 := by
    refine ⟨all_isVisible_iff.mp (by decide +kernel), Or.inr ?_⟩
    rw [characters, Text.toList_eq_data]
    decide +kernel
  have hspace : SaysNothing " ".toUTF8 := by
    refine ⟨all_isVisible_iff.mp (by decide +kernel), Or.inl ?_⟩
    rw [characters, Text.toList_eq_data]
    decide +kernel
  have hcase : (characters "\tGZip ".toUTF8).map Char.toLower = (characters "\tgzip ".toUTF8).map Char.toLower := by
    rw [characters, characters, Text.toList_eq_data, Text.toList_eq_data]
    decide +kernel
  have hrespelled : Respelled (h.values "content-encoding") (others.values "content-encoding") := by
    have hbehind : Respelled (h.values "content-encoding") ["identity".toUTF8 ++ ",".toUTF8 ++ "\tGZip ".toUTF8] :=
      (Respelled.insert [_] [] hspace).symm
    exact (hbehind.trans (.cut [] [] _ _)).trans ((Respelled.insert [] [_] hidentity).symm.trans (.recase [] [] hcase))
  have hgzip : ofHeaders others = .ok .gzip := by
    refine ((ofHeaders_means others).1 _).mpr (.gzip ?_ (Or.inl ?_))
    · intro value hvalue
      obtain rfl := List.mem_singleton.mp hvalue
      exact all_isVisible_iff.mp (by decide +kernel)
    · rw [show others.values "content-encoding" = ["\tgzip ".toUTF8] from rfl, line, List.map_singleton, characters,
        Text.toList_eq_data]
      decide +kernel
  have hsame := (ofHeaders_means h).2 others hrespelled
  rw [hgzip] at hsame
  exact ⟨hrespelled, eq_ok_of_toOption hsame.symm, hgzip ▸ rfl⟩

end Gateway.Http.Coding
