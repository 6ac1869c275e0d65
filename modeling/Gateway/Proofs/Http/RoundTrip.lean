import Gateway.Proofs.Http.Coding

/-! Bodies that are encoded and decoded again. What has been encoded comes back, also where several bodies were encoded one
    behind the other, and is refused for nothing but its size. How a body is compressed does not matter: a member has its head,
    its checksum and its length from the body, and the text in between may be any that is inflated to it. -/

namespace Gateway.Http.Coding

open Gateway.Gzip (contents joined)

variable {limit : Nat} {body content : ByteArray} {coding : Coding} {write : Nat → ByteArray → ByteArray}
  {parts : List (Nat × ByteArray)}

/-- What a body may be encoded to at a level. -/
def Writes (level : Nat) (body bytes : ByteArray) : Coding → Prop
  | identity => bytes = body
  | gzip => Gzip.Writes level body bytes

theorem head_min (level : Nat) : Gzip.head (min level 9) = Gzip.head level := by
  rcases Nat.le_total level 9 with hle | hle
  · rw [Nat.min_eq_left hle]
  · rw [Nat.min_eq_right hle, Gzip.head, Gzip.head, if_pos hle]
    rfl

theorem writes_encode (coding : Coding) (level : Nat) (body : ByteArray) :
    coding.Writes level body (coding.encode level body) := by
  cases coding with
  | identity => rfl
  | gzip =>
    obtain ⟨text, htext, hbytes⟩ := Gzip.writes_encode (min level 9) body
    exact ⟨text, htext, head_min level ▸ hbytes⟩

/-- What writers make of several bodies holds them all. -/
theorem sound_joined (hwrite : ∀ level body, coding.Writes level body (write level body)) (hne : parts ≠ []) :
    coding.Sound (joined write parts) (contents parts) := by
  cases coding with
  | gzip => exact Gzip.members_joined hwrite hne
  | identity =>
    obtain rfl : write = fun _ body => body := funext fun level => funext fun body => hwrite level body
    rfl

/-- A sound body is refused for nothing but its size. -/
theorem decode_of_sound (h : coding.Sound body content) (hlimit : limit + 1 < UInt64.size) :
    decode limit body coding = if content.size ≤ limit then .ok content else .error (.tooLarge limit) := by
  cases coding with
  | gzip => exact (decode_gzip hlimit body).trans (Gzip.decode_of_members h limit)
  | identity =>
    obtain rfl : content = body := h
    by_cases hsize : content.size ≤ limit
    · exact (if_neg (Nat.not_lt_of_le hsize)).trans (if_pos hsize).symm
    · exact (if_pos (Nat.lt_of_not_le hsize)).trans (if_neg hsize).symm

/-- **Decoding undoes encoding.** Bodies that were encoded one behind the other, each at a level of its own, are decoded to
    what they are together, or refused if that is more than the limit. So are those of every other writer of members. -/
theorem decode_joined (coding : Coding) {parts : List (Nat × ByteArray)} (hne : parts ≠ []) {limit : Nat}
    (hlimit : limit + 1 < UInt64.size) :
    let answer : Except Gzip.DecodeError ByteArray :=
      if (contents parts).size ≤ limit then .ok (contents parts) else .error (.tooLarge limit)
    decode limit (joined (fun level body => coding.encode level body) parts) coding = answer ∧
      (∀ level body, coding.Writes level body (coding.encode level body)) ∧
      ∀ write : Nat → ByteArray → ByteArray, (∀ level body, coding.Writes level body (write level body)) →
        decode limit (joined write parts) coding = answer :=
  ⟨decode_of_sound (sound_joined (writes_encode coding) hne) hlimit, writes_encode coding,
    fun _ hwrite => decode_of_sound (sound_joined hwrite hne) hlimit⟩

/-- A writer that knows how to compress ten times the same byte: one of them, and a copy from one byte back. -/
def terse (level : Nat) (body : ByteArray) : ByteArray :=
  if body.toList = List.replicate 10 97 then
    (Gzip.head level ++ [0x4b, 0x4c, 0x84, 0x01, 0x00] ++ Gzip.tail body).toByteArray
  else Gzip.encode level body

set_option maxRecDepth 4000 in
theorem inflate_terse (rest : List UInt8) : Gzip.inflate Gzip.windowSize ([0x4b, 0x4c, 0x84, 0x01, 0x00] ++ rest) =
    .finished (List.replicate 10 97).toByteArray rest := rfl

theorem writes_terse (level : Nat) (body : ByteArray) : Coding.gzip.Writes level body (terse level body) := by
  unfold terse
  split
  · rename_i hbody
    have hten : body = (List.replicate 10 97).toByteArray := by rw [← hbody, Text.toByteArray_toList]
    refine ⟨_, ⟨Gzip.windowSize, fun rest => hten ▸ inflate_terse rest⟩, ?_⟩
    rw [Text.toList_eq_data, List.data_toByteArray]
  · exact Gzip.writes_encode level body

/-- Three members, the second one of nothing, under the limit that they just keep and under the one below. -/
theorem decode_joined_three :
    let parts : List (Nat × ByteArray) := [(200, "aaaaaaaaaa".toUTF8), (0, .empty), (9, "<p>".toUTF8)]
    parts ≠ [] ∧ 13 + 1 < UInt64.size ∧ (∀ level body, Coding.gzip.Writes level body (terse level body)) ∧
      decode 13 (joined (fun level body => Coding.gzip.encode level body) parts) .gzip = .ok "aaaaaaaaaa<p>".toUTF8 ∧
      decode 12 (joined (fun level body => Coding.gzip.encode level body) parts) .gzip = .error (.tooLarge 12) ∧
      decode 13 (joined terse parts) .gzip = .ok "aaaaaaaaaa<p>".toUTF8 := by
  intro parts
  have hne : parts ≠ [] := List.cons_ne_nil _ _
  have hcontents : contents parts = "aaaaaaaaaa<p>".toUTF8 := ByteArray.ext (by decide +kernel)
  have hkept : (contents parts).size ≤ 13 := by rw [hcontents]; decide +kernel
  have hover : ¬ (contents parts).size ≤ 12 := by rw [hcontents]; decide +kernel
  obtain ⟨hencoded, -, hwritten⟩ := decode_joined .gzip hne (show 13 + 1 < UInt64.size by decide)
  refine ⟨hne, by decide, writes_terse, ?_, ?_, ?_⟩
  · rw [hencoded, if_pos hkept, hcontents]
  · rw [(decode_joined .gzip hne (show 12 + 1 < UInt64.size by decide)).1, if_neg hover]
  · rw [hwritten terse writes_terse, if_pos hkept, hcontents]

end Gateway.Http.Coding
