import Gateway.Http.Cause
import Mathlib.Algebra.GroupWithZero.Nat
import Mathlib.Data.List.Chain

/-! What an account tells of. Whether a cause is added to it or not, the account ends with the text of that cause as soon as its
    turn has come, and all that follows is put behind. So the text of every cause stands in the whole, in the order of the
    causes, also where one text holds another one or is empty. -/

namespace Gateway.Http

/-- A message ends with a text. -/
def EndsWith (message text : String) : Prop := ∃ front, message = front ++ text

/-- A text stands in a message and ends at a position. -/
def EndsAt (message text : String) (position : Nat) : Prop :=
  ∃ front back, message = front ++ text ++ back ∧ (front ++ text).length = position

/-- A message with causes behind it, a colon in front of each. -/
def withCauses (message : String) (told : List String) : String := message ++ String.join (told.map (": " ++ ·))

/-- The causes that are told of behind a message. Each has its turn, and is passed over just if the message that has come about
    so far ends with its text. -/
inductive Tells : String → List String → List String → Prop
  | nothing {message} : Tells message [] []
  | passOver {message cause causes told} (hends : EndsWith message cause) (hrest : Tells message causes told) :
      Tells message (cause :: causes) told
  | tell {message cause causes told} (hends : ¬ EndsWith message cause)
      (hrest : Tells (message ++ ": " ++ cause) causes told) : Tells message (cause :: causes) (cause :: told)

variable {message text cause : String} {position : Nat}

/-! ### Ends and positions -/

theorem isSuffixOf_iff_endsWith : text.toList.isSuffixOf message.toList = true ↔ EndsWith message text := by
  rw [List.isSuffixOf_iff_suffix]
  constructor
  · rintro ⟨front, hfront⟩
    exact ⟨String.ofList front, String.toList_inj.mp (by rw [String.toList_append, String.toList_ofList, hfront])⟩
  · rintro ⟨front, rfl⟩
    exact ⟨front.toList, String.toList_append.symm⟩

theorem EndsWith.refl (message : String) : EndsWith message message := ⟨"", String.empty_append.symm⟩

theorem EndsWith.append (front : String) (h : EndsWith message text) : EndsWith (front ++ message) text := by
  obtain ⟨middle, rfl⟩ := h
  exact ⟨front ++ middle, String.append_assoc.symm⟩

theorem EndsWith.trans {inner : String} (h : EndsWith message text) (hinner : EndsWith text inner) :
    EndsWith message inner := by
  obtain ⟨front, rfl⟩ := h
  exact hinner.append front

instance : Trans EndsWith EndsWith EndsWith := ⟨EndsWith.trans⟩

/-- What a text ends with ends where the text does. -/
theorem EndsAt.of_endsWith {inner : String} (h : EndsAt message text position) (hinner : EndsWith text inner) :
    EndsAt message inner position := by
  obtain ⟨front, back, hmessage, hposition⟩ := h
  obtain ⟨middle, hmiddle⟩ := hinner.append front
  rw [hmiddle] at hmessage hposition
  exact ⟨middle, back, hmessage, hposition⟩

theorem EndsAt.length_le (h : EndsAt message text position) : text.length ≤ position := by
  obtain ⟨front, -, -, rfl⟩ := h
  rw [String.length_append]
  exact Nat.le_add_left _ _

/-! ### One cause -/

theorem addCause_of_endsWith (h : EndsWith message cause) : addCause message cause = message :=
  if_pos (isSuffixOf_iff_endsWith.mpr h)

theorem addCause_of_not_endsWith (h : ¬ EndsWith message cause) : addCause message cause = message ++ ": " ++ cause :=
  if_neg (mt isSuffixOf_iff_endsWith.mp h)

/-- A message ends with the cause that has had its turn. -/
theorem endsWith_addCause (message cause : String) : EndsWith (addCause message cause) cause := by
  by_cases h : EndsWith message cause
  · rwa [addCause_of_endsWith h]
  · rw [addCause_of_not_endsWith h]
    exact (EndsWith.refl cause).append _

theorem exists_addCause (message cause : String) : ∃ rest, addCause message cause = message ++ rest := by
  by_cases h : EndsWith message cause
  · exact ⟨"", by rw [addCause_of_endsWith h, String.append_empty]⟩
  · exact ⟨": " ++ cause, by rw [addCause_of_not_endsWith h, String.append_assoc]⟩

theorem addCause_eq_self_iff : addCause message cause = message ↔ EndsWith message cause :=
  ⟨fun h => h ▸ endsWith_addCause message cause, addCause_of_endsWith⟩

/-! ### All causes -/

variable {causes : List String}

@[simp] theorem account_nil : account message [] = message := rfl

@[simp] theorem account_cons : account message (cause :: causes) = account (addCause message cause) causes := rfl

theorem account_append (message : String) (causes more : List String) :
    account message (causes ++ more) = account (account message causes) more := List.foldl_append

theorem exists_account (message : String) (causes : List String) : ∃ rest, account message causes = message ++ rest := by
  induction causes generalizing message with
  | nil => exact ⟨"", String.append_empty.symm⟩
  | cons cause causes ih =>
    obtain ⟨added, hadded⟩ := exists_addCause message cause
    obtain ⟨rest, hrest⟩ := ih (addCause message cause)
    exact ⟨added ++ rest, by rw [account_cons, hrest, hadded, String.append_assoc]⟩

theorem exists_tells (message : String) (causes : List String) :
    ∃ told, Tells message causes told ∧ account message causes = withCauses message told := by
  induction causes generalizing message with
  | nil => exact ⟨[], .nothing, String.append_empty.symm⟩
  | cons cause causes ih =>
    obtain ⟨told, htells, htold⟩ := ih (addCause message cause)
    rw [account_cons]
    by_cases h : EndsWith message cause
    · rw [addCause_of_endsWith h] at htells htold ⊢
      exact ⟨told, .passOver h htells, htold⟩
    · rw [addCause_of_not_endsWith h] at htells htold ⊢
      refine ⟨cause :: told, .tell h htells, htold.trans ?_⟩
      simp only [withCauses, List.map_cons, String.join_cons, String.append_assoc]

theorem endsWith_account (message : String) (causes : List String) :
    EndsWith (account message causes) ((message :: causes).getLast (List.cons_ne_nil _ _)) := by
  rcases causes.eq_nil_or_concat with rfl | ⟨front, last, rfl⟩
  · exact EndsWith.refl message
  · simpa [account_append] using endsWith_addCause (account message front) last

/-- The message and its causes stand in the account, and none ends in front of the one before it. -/
theorem exists_positions (message : String) (causes : List String) : ∃ positions : List Nat,
    List.Forall₂ (EndsAt (account message causes)) (message :: causes) positions ∧ positions.Pairwise (· ≤ ·) := by
  induction causes generalizing message with
  | nil => exact ⟨[message.length], .cons ⟨"", "", by simp, by simp⟩ .nil, List.pairwise_singleton _ _⟩
  | cons cause causes ih =>
    obtain ⟨positions, hpositions, hsorted⟩ := ih (addCause message cause)
    obtain ⟨first, others, hfirst, hothers, rfl⟩ := List.forall₂_cons_left_iff.mp hpositions
    -- After its turn the message ends with the cause, and it starts with what it was before.
    have hcause : EndsAt (account message (cause :: causes)) cause first :=
      hfirst.of_endsWith (endsWith_addCause message cause)
    have hmessage : EndsAt (account message (cause :: causes)) message message.length := by
      obtain ⟨rest, hrest⟩ := exists_account message (cause :: causes)
      exact ⟨"", rest, by simp [hrest], by simp⟩
    have hle : message.length ≤ first := by
      obtain ⟨added, hadded⟩ := exists_addCause message cause
      have hlength := hfirst.length_le
      rw [hadded, String.length_append] at hlength
      omega
    refine ⟨message.length :: first :: others, .cons hmessage (.cons hcause hothers), ?_⟩
    refine List.pairwise_cons.mpr ⟨fun other hother => ?_, hsorted⟩
    rcases List.mem_cons.mp hother with rfl | hother
    · exact hle
    · exact hle.trans (List.rel_of_pairwise_cons hsorted hother)

/-- Nothing is told of just if the message ends with every cause. -/
theorem account_eq_self_iff : account message causes = message ↔ ∀ cause ∈ causes, EndsWith message cause := by
  induction causes with
  | nil => simp
  | cons cause causes ih =>
    rw [account_cons, List.forall_mem_cons, ← ih]
    constructor
    · intro h
      have hsame : addCause message cause = message := by
        obtain ⟨added, hadded⟩ := exists_addCause message cause
        obtain ⟨rest, hrest⟩ := exists_account (addCause message cause) causes
        rw [h, hadded, String.append_assoc, eq_comm, String.append_eq_left_iff, String.append_eq_empty_iff] at hrest
        rw [hadded, hrest.1, String.append_empty]
      exact ⟨addCause_eq_self_iff.mp hsame, by rwa [hsame] at h⟩
    · rintro ⟨hends, hrest⟩
      rwa [addCause_of_endsWith hends]

/-- However texts are measured, in characters or in bytes, an account has no more than all of them and two for each cause. -/
theorem size_account_le {size : String → Nat} (happend : ∀ a b, size (a ++ b) = size a + size b) (hcolon : size ": " = 2)
    (message : String) (causes : List String) :
    size (account message causes) ≤ ((message :: causes).map size).sum + 2 * causes.length := by
  induction causes generalizing message with
  | nil => simp
  | cons cause causes ih =>
    have hstep : size (addCause message cause) ≤ size message + 2 + size cause := by
      by_cases h : EndsWith message cause
      · rw [addCause_of_endsWith h]
        omega
      · rw [addCause_of_not_endsWith h, happend, happend, hcolon]
    have hrun := ih (addCause message cause)
    simp only [account_cons, List.map_cons, List.sum_cons, List.length_cons] at hrun ⊢
    omega

/-- **An account drops no cause.** It is the text of the failure with a colon and the text of a cause behind it for each cause
    that the message so far does not end with; it starts with the failure, ends with the last cause, and holds the text of
    every cause, none of which ends in front of the one before it; nothing is told twice where each text ends with the next
    one; and it has no more characters, and no more bytes, than all texts and their colons. -/
theorem account_drops_none (failure : String) (causes : List String) :
    (∃ told, Tells failure causes told ∧ account failure causes = withCauses failure told) ∧
    (∃ rest, account failure causes = failure ++ rest) ∧
    (∃ positions : List Nat, List.Forall₂ (EndsAt (account failure causes)) (failure :: causes) positions ∧
      positions.Pairwise (· ≤ ·)) ∧
    EndsWith (account failure causes) ((failure :: causes).getLast (List.cons_ne_nil _ _)) ∧
    ((failure :: causes).IsChain EndsWith → account failure causes = failure) ∧
    (account failure causes).length ≤ ((failure :: causes).map String.length).sum + 2 * causes.length ∧
    (account failure causes).utf8ByteSize ≤ ((failure :: causes).map String.utf8ByteSize).sum + 2 * causes.length := by
  refine ⟨exists_tells failure causes, exists_account failure causes, exists_positions failure causes,
    endsWith_account failure causes, fun hchain => ?_, ?_, ?_⟩
  · exact account_eq_self_iff.mpr fun cause hcause => List.rel_of_pairwise_cons hchain.pairwise hcause
  · exact size_account_le String.length_append rfl failure causes
  · exact size_account_le (fun _ _ => String.utf8ByteSize_append) rfl failure causes

/-- Texts that each end with the next one, the last of them empty. -/
theorem account_drops_none_nested :
    let failure := "failed to decode body: connection refused"
    let causes := ["connection refused", "refused", ""]
    (failure :: causes).IsChain EndsWith ∧ account failure causes = failure := by
  intro failure causes
  have hchain : (failure :: causes).IsChain EndsWith :=
    .cons_cons ⟨"failed to decode body: ", by decide⟩ (.cons_cons ⟨"connection ", by decide⟩
      (.cons_cons ⟨"refused", by decide⟩ (.singleton _)))
  obtain ⟨-, -, -, -, halone, -, -⟩ := account_drops_none failure causes
  exact ⟨hchain, halone hchain⟩

/-- A text that stands in the message is told once more if the message does not end with it. -/
example : account "a" ["b", "b", "a", ""] = "a: b: a" := by decide

end Gateway.Http
