import Gateway.Proofs.Gzip.Bound
import Gateway.Proofs.Gzip.Deflated

/-! What compressed bytes hold. They are a row of members, each sound to its last byte, and hold what comes out of these one
    behind the other. The limit has no part in it: bytes are decoded to what they hold under every limit that is not less than
    that, and to nothing else. And a body that is encoded is held. -/

namespace Gateway.Gzip

/-- Compressed bytes hold a content if they are decoded to it, given room enough. -/
def Holds (bytes content : ByteArray) : Prop := ∃ limit, decode limit bytes = .ok content

variable {limit total fuel : Nat} {bytes rest : List UInt8} {out content : ByteArray}

theorem lt_bound (limit : Nat) : limit < bound limit := by
  unfold bound windowSize
  omega

/-! ### Members -/

/-- The checksum and the length of what was compressed, as they stand behind the compressed text. -/
def tail (out : ByteArray) : List UInt8 := littleEndian (checksum out) ++ littleEndian (UInt32.ofNat out.size)

theorem length_tail (out : ByteArray) : (tail out).length = 8 := rfl

theorem checkTail_eq_ok_iff {behind : List UInt8} : checkTail out behind = .ok rest ↔ behind = tail out ++ rest := by
  unfold checkTail
  constructor
  · intro h
    split at h
    · cases h
    · split at h
      · rename_i htake
        cases h
        rw [tail, ← htake, List.take_append_drop]
      · cases h
  · rintro rfl
    rw [if_neg (by rw [List.length_append, length_tail]; omega), ← tail, List.take_left' (length_tail out), if_pos rfl,
      List.drop_left' (length_tail out)]

/-- A member that is sound to its last byte: what its text inflates to stands in the checksum and the length behind it. -/
def IsMember (bytes : List UInt8) (out : ByteArray) (rest : List UInt8) : Prop :=
  ∃ text bound, skipHead bytes = .ok text ∧ inflate bound text = .finished out (tail out ++ rest)

theorem decodeMember_eq_ok_iff :
    decodeMember limit total bytes = .ok (out, rest) ↔ IsMember bytes out rest ∧ out.size ≤ limit := by
  constructor
  · intro h
    unfold decodeMember at h
    obtain ⟨text, hhead, h⟩ := bind_eq_ok.mp h
    cases hinflate : inflate (bound limit) text with
    | stopped => simp [hinflate] at h
    | faulty fault out' => cases fault <;> simp [hinflate] at h
    | finished out' behind =>
      rw [hinflate] at h
      dsimp only at h
      split at h
      · cases h
      · rename_i hsize
        obtain ⟨rest', htail, h⟩ := bind_eq_ok.mp h
        cases h
        exact ⟨⟨text, _, hhead, checkTail_eq_ok_iff.mp htail ▸ hinflate⟩, Nat.le_of_not_lt hsize⟩
  · rintro ⟨⟨text, b, hhead, hinflate⟩, hsize⟩
    rw [decodeMember, bind_eq_ok]
    refine ⟨text, hhead, ?_⟩
    rw [inflate_of_lt hinflate (Nat.lt_of_le_of_lt hsize (lt_bound limit))]
    dsimp only
    rw [if_neg (Nat.not_lt_of_le hsize), checkTail_eq_ok_iff.mpr rfl]
    rfl

theorem length_of_isMember (h : IsMember bytes out rest) : rest.length < bytes.length := by
  obtain ⟨text, b, hhead, hinflate⟩ := h
  have hskipped := (skips_skipHead bytes).le text hhead
  have hinflated := length_inflate hinflate
  rw [List.length_append] at hinflated
  omega

/-! ### Bodies -/

/-- Members one behind the other up to the end, and what they hold together. -/
inductive Members : List UInt8 → ByteArray → Prop
  | last {bytes : List UInt8} {out : ByteArray} : IsMember bytes out [] → Members bytes out
  | cons {bytes rest : List UInt8} {out content : ByteArray} :
      IsMember bytes out rest → rest ≠ [] → Members rest content → Members bytes (out ++ content)

/-- The induction is on the fuel, of which each member takes one and at least one byte. -/
theorem decodeMembers_eq_ok_iff (hfuel : bytes.length < fuel) (hout : out.size ≤ limit) :
    decodeMembers limit fuel out bytes = .ok content ↔
      ∃ more, Members bytes more ∧ content = out ++ more ∧ content.size ≤ limit := by
  induction fuel generalizing out bytes with
  | zero => cases hfuel
  | succ fuel ih =>
    have hbehind : ∀ {first rest}, IsMember bytes first rest → rest.length < fuel := fun hmember =>
      Nat.lt_of_lt_of_le (length_of_isMember hmember) (Nat.le_of_lt_succ hfuel)
    have hroom : ∀ {first : ByteArray}, first.size ≤ limit - out.size ↔ (out ++ first).size ≤ limit := by
      intro first
      rw [ByteArray.size_append]
      omega
    rw [decodeMembers, bind_eq_ok]
    constructor
    · rintro ⟨⟨first, rest⟩, hfirst, h⟩
      obtain ⟨hmember, hsize⟩ := decodeMember_eq_ok_iff.mp hfirst
      dsimp only at h
      split at h
      · rename_i hrest
        subst hrest
        cases h
        exact ⟨first, .last hmember, rfl, hroom.mp hsize⟩
      · rename_i hrest
        obtain ⟨more, hmore, rfl, hle⟩ := (ih (hbehind hmember) (hroom.mp hsize)).mp h
        exact ⟨first ++ more, .cons hmember hrest hmore, ByteArray.append_assoc, hle⟩
    · rintro ⟨more, hmembers, rfl, hle⟩
      cases hmembers with
      | last hmember =>
        exact ⟨(more, []), decodeMember_eq_ok_iff.mpr ⟨hmember, hroom.mpr hle⟩, if_pos rfl⟩
      | @cons _ rest first content hmember hrest hmore =>
        have happend : (out ++ first).size ≤ limit := by
          rw [← ByteArray.append_assoc, ByteArray.size_append] at hle
          omega
        refine ⟨(first, rest), decodeMember_eq_ok_iff.mpr ⟨hmember, hroom.mpr happend⟩, (if_neg hrest).trans ?_⟩
        exact (ih (hbehind hmember) happend).mpr ⟨content, hmore, ByteArray.append_assoc.symm, hle⟩

theorem decode_eq_ok_iff {bytes : ByteArray} :
    decode limit bytes = .ok content ↔ Members bytes.toList content ∧ content.size ≤ limit := by
  rw [decode, decodeMembers_eq_ok_iff (by rw [Text.length_toList]; exact Nat.lt_succ_self _) (Nat.zero_le _)]
  simp only [ByteArray.empty_append]
  constructor
  · rintro ⟨more, hmore, rfl, hle⟩
    exact ⟨hmore, hle⟩
  · rintro ⟨hmore, hle⟩
    exact ⟨content, hmore, rfl, hle⟩

theorem holds_iff_members {bytes : ByteArray} : Holds bytes content ↔ Members bytes.toList content :=
  ⟨fun ⟨_, h⟩ => (decode_eq_ok_iff.mp h).1, fun h => ⟨_, decode_eq_ok_iff.mpr ⟨h, Nat.le_refl _⟩⟩⟩

/-- The limit has no part in what is decoded, if it is not less than that. -/
theorem holds_iff {bytes : ByteArray} :
    Holds bytes content ↔ ∀ limit, content.size ≤ limit → decode limit bytes = .ok content :=
  ⟨fun h _ hle => decode_eq_ok_iff.mpr ⟨holds_iff_members.mp h, hle⟩, fun h => ⟨_, h _ (Nat.le_refl _)⟩⟩

/-! ### Encoding -/

theorem skipHead_head (level : Nat) (rest : List UInt8) : skipHead (head level ++ rest) = .ok rest := by
  rfl

theorem toList_encode (level : Nat) (body : ByteArray) : (encode level body).toList =
    head level ++ ((deflate level body).data.toList ++ tail body) := by
  rw [Text.toList_eq_data, encode, tail]
  simp only [ByteArray.data_append, List.data_toByteArray, Array.toList_append, List.append_assoc]

/-- A short body that is not compressed makes one block. -/
theorem size_encode {body : ByteArray} (h : body.size ≤ 65535) : (encode 0 body).size = body.size + 23 := by
  rw [← Text.length_toList body] at h
  rw [← Text.length_toList, toList_encode, deflate, if_pos rfl, List.data_toByteArray, storedBlocks, if_pos h,
    ← Text.length_toList body]
  simp only [List.length_append, length_storedBlock, length_tail, head, List.length_cons, List.length_nil]
  omega

/-- A compressed text of a content: whatever follows it, this is what it is inflated to. -/
def IsText (text : List UInt8) (content : ByteArray) : Prop :=
  ∃ bound, ∀ rest, inflate bound (text ++ rest) = .finished content rest

/-- A member as it is written at a level: the head, a compressed text of the content, the checksum and the length. The text
    is up to the writer. -/
def Writes (level : Nat) (content bytes : ByteArray) : Prop :=
  ∃ text, IsText text content ∧ bytes.toList = head level ++ text ++ tail content

theorem isText_deflate (level : Nat) (body : ByteArray) : IsText (deflate level body).data.toList body :=
  ⟨body.size + 1, inflate_deflate level (Nat.lt_succ_self _)⟩

theorem writes_encode (level : Nat) (body : ByteArray) : Writes level body (encode level body) :=
  ⟨_, isText_deflate level body, by rw [toList_encode, List.append_assoc]⟩

section
variable {level : Nat} {body bytes : ByteArray} {write : Nat → ByteArray → ByteArray} {parts : List (Nat × ByteArray)}

/-- What is written is a member, whatever follows it. -/
theorem isMember_of_writes (h : Writes level body bytes) (rest : List UInt8) : IsMember (bytes.toList ++ rest) body rest := by
  obtain ⟨text, ⟨bound, hinflate⟩, hbytes⟩ := h
  rw [hbytes, List.append_assoc, List.append_assoc]
  exact ⟨_, bound, skipHead_head level _, hinflate _⟩

theorem ne_nil_of_writes (h : Writes level body bytes) : bytes.toList ≠ [] := by
  obtain ⟨text, -, hbytes⟩ := h
  rw [hbytes]
  exact List.cons_ne_nil _ _

/-- What a writer makes of some bodies, each at a level of its own, one behind the other. -/
def joined (write : Nat → ByteArray → ByteArray) (parts : List (Nat × ByteArray)) : ByteArray :=
  parts.foldr (fun part bytes => write part.1 part.2 ++ bytes) .empty

/-- What the bodies are together. -/
def contents (parts : List (Nat × ByteArray)) : ByteArray := parts.foldr (fun part all => part.2 ++ all) .empty

theorem toList_joined (part : Nat × ByteArray) (parts : List (Nat × ByteArray)) :
    (joined write (part :: parts)).toList = (write part.1 part.2).toList ++ (joined write parts).toList := by
  rw [← Text.toList_append]
  rfl

theorem joined_ne_nil (hwrite : ∀ level body, Writes level body (write level body)) (hne : parts ≠ []) :
    (joined write parts).toList ≠ [] := by
  obtain ⟨part, parts, rfl⟩ := List.exists_cons_of_ne_nil hne
  rw [toList_joined]
  exact List.append_ne_nil_of_left_ne_nil (ne_nil_of_writes (hwrite _ _)) _

theorem members_joined (hwrite : ∀ level body, Writes level body (write level body)) (hne : parts ≠ []) :
    Members (joined write parts).toList (contents parts) := by
  induction parts with
  | nil => exact absurd rfl hne
  | cons part parts ih =>
    have hmember := isMember_of_writes (hwrite part.1 part.2) (joined write parts).toList
    rw [← toList_joined] at hmember
    by_cases hparts : parts = []
    · subst hparts
      have hend : (joined write []).toList = [] := Text.toList_eq_data _
      rw [contents, List.foldr_cons, List.foldr_nil, ByteArray.append_empty]
      exact .last (hend ▸ hmember)
    · exact .cons hmember (joined_ne_nil hwrite hparts) (ih hparts)

theorem holds_joined (hne : parts ≠ []) : Holds (joined encode parts) (contents parts) :=
  holds_iff_members.mpr (members_joined writes_encode hne)

end

/-- What is encoded is held. -/
theorem holds_encode (level : Nat) (body : ByteArray) : Holds (encode level body) body := by
  have h := holds_joined (List.cons_ne_nil (level, body) [])
  simpa only [joined, contents, List.foldr_cons, List.foldr_nil, ByteArray.append_empty] using h

end Gateway.Gzip
