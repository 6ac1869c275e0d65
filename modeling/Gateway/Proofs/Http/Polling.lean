import Gateway.Proofs.Http.Content

/-! Asking a body. What it gives is the event behind its next waits, and what it has left are the events behind that; so
    the part and the content that is left make up the content. It gives nothing as long as a wait lasts, and it has
    fewer events left when none does. -/

namespace Gateway.Http

/-- The content of a part alone. -/
def Poll.content (p : Poll) : Body.Content := Body.contentOf p.event?.toList

namespace Body

/-- A wait that has begun lasts at a moment. -/
def IsBusy (b : Body) (now : Nat) : Prop := b.busyUntil.any (now < ·) = true

theorem exists_waits_pollEvents (now : Nat) (events : List Event) :
    ∃ waits, OnlyWaits waits ∧
      events = waits ++ (pollEvents now events).1.event?.toList ++ (pollEvents now events).2.1 := by
  fun_induction pollEvents now events with
  | case1 => exact ⟨[], by simp, rfl⟩
  | case2 bytes rest => exact ⟨[], by simp, rfl⟩
  | case3 headers rest => exact ⟨[], by simp, rfl⟩
  | case4 reason rest => exact ⟨[], by simp, rfl⟩
  | case5 rest ih =>
    obtain ⟨waits, hw, heq⟩ := ih
    exact ⟨.wait 0 :: waits, by simpa using hw, by simpa using heq⟩
  | case6 time rest h => exact ⟨[.wait time], by simp, rfl⟩

theorem pollEvents_ended {now : Nat} {events : List Event} (h : (pollEvents now events).1 = .ended) :
    (pollEvents now events).2.1 = [] := by
  fun_induction pollEvents now events <;> simp_all

/-- What a body gives stands behind waits in front of what it has left. -/
theorem exists_waits_poll {now : Nat} {b c : Body} {p : Poll} (hp : b.poll now = (p, c)) :
    ∃ waits, OnlyWaits waits ∧ b.events = waits ++ p.event?.toList ++ c.events := by
  unfold poll at hp
  split at hp
  · obtain ⟨rfl, rfl⟩ := Prod.mk.inj hp
    exact ⟨[], onlyWaits_nil, rfl⟩
  · obtain ⟨rfl, rfl⟩ := Prod.mk.inj hp
    exact exists_waits_pollEvents now b.events

section Poll
variable {now : Nat} {b c : Body} {p : Poll} {headers : Headers}

/-- What is taken for an answer has just the data and the failure of the answer, and the failure is its end. -/
theorem exists_taken_poll (hp : b.poll now = (p, c)) :
    ∃ taken, b.events = taken ++ c.events ∧ dataOf taken = dataOf p.event?.toList ∧
      failuresOf taken = failuresOf p.event?.toList ∧
      ∀ reason, p = .failure reason → ∃ before, taken = before ++ [.failure reason] := by
  obtain ⟨waits, hw, heq⟩ := exists_waits_poll hp
  refine ⟨waits ++ p.event?.toList, heq, ?_, ?_, fun reason hf => ⟨waits, by rw [hf]; rfl⟩⟩
  · rw [dataOf_append, dataOf_waits hw, ByteArray.empty_append]
  · rw [failuresOf_append, failuresOf_waits hw, List.nil_append]

/-- The part and the content that is left make up the content. -/
theorem content_poll (hp : b.poll now = (p, c)) : b.content = p.content.followedBy c.content := by
  obtain ⟨waits, hw, heq⟩ := exists_waits_poll hp
  rw [content, heq, contentOf_append, contentOf_append, contentOf_waits hw, Content.empty_followedBy]
  rfl

theorem trailersLast_poll (h : TrailersLast b.events) (hp : b.poll now = (p, c)) : TrailersLast c.events := by
  obtain ⟨waits, -, heq⟩ := exists_waits_poll hp
  exact trailersLast_append (heq ▸ h)

/-- A part uses up its event. -/
theorem length_of_poll (hp : b.poll now = (p, c)) (h : p ≠ .pending) (he : p ≠ .ended) :
    c.events.length < b.events.length := by
  have hl := @length_poll now b
  rw [hp] at hl
  exact hl h he

/-- Behind trailers nothing is left but waits. -/
theorem onlyWaits_poll_trailers (h : TrailersLast b.events) (hp : b.poll now = (.trailers headers, c)) :
    OnlyWaits c.events := by
  obtain ⟨waits, -, heq⟩ := exists_waits_poll hp
  rw [List.append_assoc] at heq
  have hlast : TrailersLast (.trailers headers :: c.events) := trailersLast_append (heq ▸ h)
  exact hlast

/-- Behind the end nothing is left. -/
theorem poll_ended (hp : b.poll now = (.ended, c)) : c.events = [] := by
  unfold poll at hp
  split at hp
  · cases hp
  · obtain ⟨hanswer, rfl⟩ := Prod.mk.inj hp
    exact pollEvents_ended hanswer

theorem onlyWaits_poll_ended (hp : b.poll now = (.ended, c)) : OnlyWaits c.events := by
  rw [poll_ended hp]
  exact onlyWaits_nil

theorem content_poll_ended (hp : b.poll now = (.ended, c)) : b.content = ⟨.empty, none, none⟩ := by
  rw [content_poll hp, content, poll_ended hp]
  rfl

end Poll

theorem poll_of_isBusy {now : Nat} {b : Body} (h : b.IsBusy now) : b.poll now = (.pending, b) := if_pos h

theorem poll_of_not_isBusy {now : Nat} {b : Body} (h : ¬ b.IsBusy now) : b.poll now =
    ((pollEvents now b.events).1,
      { b with events := (pollEvents now b.events).2.1, busyUntil := (pollEvents now b.events).2.2 }) := if_neg h

theorem not_isBusy_of_le {now : Nat} {b : Body} (h : b.busyUntil.getD 0 ≤ now) : ¬ b.IsBusy now := by
  intro hb
  cases hu : b.busyUntil with
  | none => simp [IsBusy, hu] at hb
  | some time =>
    simp only [IsBusy, hu, Option.any_some, decide_eq_true_eq] at hb
    simp only [hu, Option.getD_some] at h
    exact absurd hb (Nat.not_lt_of_le h)

/-- In no wait a body has fewer events left when it has been asked, or ends. -/
theorem length_poll_lt {now : Nat} {b : Body} (h : ¬ b.IsBusy now) :
    (b.poll now).2.events.length < b.events.length ∨ (b.poll now).1 = .ended := by
  rw [poll_of_not_isBusy h]
  cases hb : b.events with
  | nil => exact Or.inr rfl
  | cons e events => exact Or.inl ((length_pollEvents now (e :: events)).2 (List.cons_ne_nil e events))

end Body
end Gateway.Http
