import Gateway.Http.Headers
import Gateway.Proofs.Text.Pieces
import Gateway.Proofs.Text.Utf8

/-! Values that are texts. A value whose bytes are all visible is read as their characters, one for each byte, and one with
    another byte is not read at all. The only blanks in such a text are spaces and tabs, so these are all that has to be cut off
    around the elements of a list. -/

namespace Gateway.Http

/-- A value is a text if all of its bytes are visible. -/
def IsText (value : ByteArray) : Prop := ∀ b ∈ value.toList, isVisible b = true

/-- What the bytes of a value stand for. -/
def characters (value : ByteArray) : List Char := value.toList.map fun b => Char.ofNat b.toNat

variable {value a b : ByteArray}

theorem characters_append (a b : ByteArray) : characters (a ++ b) = characters a ++ characters b := by
  rw [characters, Text.toList_append, List.map_append]
  rfl

theorem isText_append : IsText (a ++ b) ↔ IsText a ∧ IsText b := by
  rw [IsText, Text.toList_append, List.forall_mem_append]
  rfl

/-- The characters of a text are written as its bytes. -/
theorem toUTF8_characters (h : IsText value) : (String.ofList (characters value)).toUTF8 = value := by
  have hbyte : ∀ b : UInt8, isVisible b = true → String.utf8EncodeChar (Char.ofNat b.toNat) = [b] :=
    Text.forall_byte (by decide +kernel)
  have hbytes : ∀ bytes : List UInt8, (∀ b ∈ bytes, isVisible b = true) →
      (bytes.map fun b => Char.ofNat b.toNat).flatMap String.utf8EncodeChar = bytes := by
    intro bytes hbytes
    induction bytes with
    | nil => rfl
    | cons b bytes ih =>
      rw [List.map_cons, List.flatMap_cons, hbyte b (hbytes b List.mem_cons_self),
        ih fun c hc => hbytes c (List.mem_cons_of_mem _ hc)]
      rfl
  rw [← Text.toByteArray_toList (String.ofList _).toUTF8, Text.toList_toUTF8, characters, hbytes _ h, Text.toByteArray_toList]

theorem all_isVisible_iff : value.data.all isVisible = true ↔ IsText value := by
  rw [Array.all_eq_true_iff_forall_mem, IsText, Text.toList_eq_data]
  simp only [Array.mem_toList_iff]

theorem text?_of_isText (h : IsText value) : text? value = some (String.ofList (characters value)) := by
  have hread := Text.fromUTF8?_toUTF8 (String.ofList (characters value))
  rw [toUTF8_characters h] at hread
  rw [text?, if_pos (all_isVisible_iff.mpr h), hread]

theorem text?_of_not_isText (h : ¬ IsText value) : text? value = none := if_neg (mt all_isVisible_iff.mp h)

/-- Spaces and tabs are the only blanks of a text. -/
theorem isBlank_of_isText (h : IsText value) {c : Char} (hc : c ∈ characters value) :
    (c == ' ' || c == '\t') = Text.isBlank c := by
  have hbyte : ∀ b : UInt8, isVisible b = true →
      (Char.ofNat b.toNat == ' ' || Char.ofNat b.toNat == '\t') = Text.isBlank (Char.ofNat b.toNat) :=
    Text.forall_byte (by decide +kernel)
  obtain ⟨b, hb, rfl⟩ := List.mem_map.mp hc
  exact hbyte b (h b hb)

/-- The elements of a text are its pieces between commas, without the blanks around them. -/
theorem elements_of_isText (h : IsText value) : elements (String.ofList (characters value)) =
    ((characters value).splitOn ',').map (Text.trim Text.isBlank) := by
  rw [elements, String.toList_ofList]
  refine List.map_congr_left fun piece hpiece => Text.trim_congr fun c hc => ?_
  exact isBlank_of_isText h (Text.mem_of_mem_piece hpiece hc)

end Gateway.Http
