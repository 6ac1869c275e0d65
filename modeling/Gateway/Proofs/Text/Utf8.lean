import Gateway.Proofs.Text.Ascii

/-! The bytes of texts. A byte array is the list of its bytes, a text that is written in UTF-8 is read as itself, and the
    characters of ASCII are written as one byte each. -/

namespace Gateway.Text

theorem toListLoop_eq (bs : ByteArray) (i : Nat) (acc : List UInt8) :
    ByteArray.toList.loop bs i acc = acc.reverse ++ bs.data.toList.drop i := by
  fun_induction ByteArray.toList.loop bs i acc with
  | case1 i acc h ih =>
    have hdrop : bs.data.toList.drop i = bs.get! i :: bs.data.toList.drop (i + 1) := by
      have hget : bs.get! i = bs.data[i]! := rfl
      rw [List.drop_eq_getElem_cons (by simpa using h), hget, getElem!_pos bs.data i (by simpa using h)]
      simp
    rw [ih, hdrop]
    simp
  | case2 i acc h => rw [List.drop_of_length_le (by simpa using h), List.append_nil]

theorem toList_eq_data (bs : ByteArray) : bs.toList = bs.data.toList := by
  rw [ByteArray.toList, toListLoop_eq]
  simp

theorem length_toList (bs : ByteArray) : bs.toList.length = bs.size := by
  rw [toList_eq_data, Array.length_toList, ByteArray.size_data]

theorem toList_append (a b : ByteArray) : (a ++ b).toList = a.toList ++ b.toList := by
  rw [toList_eq_data, toList_eq_data, toList_eq_data, ByteArray.data_append, Array.toList_append]

theorem toByteArray_toList (bs : ByteArray) : bs.toList.toByteArray = bs := by
  apply ByteArray.ext
  rw [List.data_toByteArray, toList_eq_data]

theorem toList_toUTF8 (cs : List Char) : (String.ofList cs).toUTF8.toList = cs.flatMap String.utf8EncodeChar := by
  rw [toList_eq_data]
  show (String.ofList cs).toByteArray.data.toList = _
  rw [String.toByteArray_ofList, List.utf8Encode, List.data_toByteArray]

theorem mem_toUTF8 {s : String} {b : UInt8} : b ∈ s.toUTF8.toList ↔ ∃ c ∈ s.toList, b ∈ String.utf8EncodeChar c := by
  have h := toList_toUTF8 s.toList
  rw [String.ofList_toList] at h
  rw [h, List.mem_flatMap]

theorem toUTF8_of_fromUTF8? {bytes : ByteArray} {s : String} (h : String.fromUTF8? bytes = some s) : s.toUTF8 = bytes := by
  unfold String.fromUTF8? at h
  split at h
  · obtain rfl := Option.some.inj h
    rfl
  · cases h

theorem fromUTF8?_toUTF8 (s : String) : String.fromUTF8? s.toUTF8 = some s := dif_pos s.isValidUTF8

theorem utf8EncodeChar_of_lt {c : Char} (h : c.toNat < 128) : String.utf8EncodeChar c = [UInt8.ofNat c.toNat] :=
  forall_below (P := fun c => String.utf8EncodeChar c = [UInt8.ofNat c.toNat]) 128 (by decide +kernel) c h

end Gateway.Text
