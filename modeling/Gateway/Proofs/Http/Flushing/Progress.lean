import Gateway.Proofs.Http.Flushing.Run

/-! A run comes to the end. Every question uses something up, an event of the inner body or what is held, unless the inner
    body is in a wait; and a clock that goes on passes every wait. -/

namespace Gateway.Http.Flushing

/-- What questions can still use up. An event may leave bytes and a deadline behind, so it counts three times. -/
def fuel (f : Flushing) : Nat :=
  3 * f.inner.events.length + f.deadline.isSome.toNat + f.trailers.isSome.toNat +
    (!f.buffer.isEmpty).toNat + (!f.done).toNat

/-- An answer uses something up, is the end, or comes while the inner body waits. -/
def Advances (f : Flushing) (now : Nat) (answer : Poll × Flushing) : Prop :=
  answer.2.fuel < f.fuel ∨ answer.1 = .ended ∨
    (f.inner.IsBusy now ∧ answer.2.inner = f.inner ∧ answer.2.fuel = f.fuel)

variable {f g : Flushing} {now : Nat} {inner : Body}

theorem Advances.of_fuel_lt {answer : Poll × Flushing} (h : Advances g now answer) (hlt : g.fuel < f.fuel) :
    Advances f now answer := by
  rcases h with h | h | ⟨-, -, h⟩
  · exact Or.inl (Nat.lt_trans h hlt)
  · exact Or.inr (Or.inl h)
  · exact Or.inl (h ▸ hlt)

theorem fuel_inner (hl : inner.events.length < f.inner.events.length) : fuel { f with inner } + 3 ≤ f.fuel := by
  simp only [fuel]
  omega

theorem fuel_gather (bytes : ByteArray) : (f.gather now bytes).fuel ≤ f.fuel + 2 := by
  have hd := Bool.toNat_le (f.gather now bytes).deadline.isSome
  have hb := Bool.toNat_le (!(f.gather now bytes).buffer.isEmpty)
  have hi : (f.gather now bytes).inner = f.inner := rfl
  have ht : (f.gather now bytes).trailers = f.trailers := rfl
  have ho : (f.gather now bytes).done = f.done := rfl
  rw [fuel, fuel, hi, ht, ho]
  omega

theorem fuel_flush : f.flush.2.fuel + f.deadline.isSome.toNat + (!f.buffer.isEmpty).toNat = f.fuel := by
  have hb : ByteArray.empty.isEmpty = true := rfl
  simp only [fuel, flush, hb, Option.isSome_none, Bool.toNat_false, Bool.not_true]
  omega

theorem drain_uses : f.drain.2.fuel < f.fuel ∨ f.drain.1 = .ended := by
  unfold drain
  split
  · rename_i hb
    have := fuel_flush (f := f)
    simp only [hb, Bool.not_false, Bool.toNat_true] at this
    exact Or.inl (by omega)
  · split
    · rename_i headers ht
      refine Or.inl ?_
      simp only [fuel, ht, Option.isSome_none, Option.isSome_some, Bool.toNat_false, Bool.toNat_true]
      omega
    · exact Or.inr rfl

theorem idle_uses (now : Nat) :
    (f.idle now).2.fuel < f.fuel ∨ ((f.idle now).2.inner = f.inner ∧ (f.idle now).2.fuel = f.fuel) := by
  unfold idle
  split
  · exact Or.inr ⟨rfl, rfl⟩
  · rename_i d hd
    split
    · have := fuel_flush (f := f)
      simp only [hd, Option.isSome_some, Bool.toNat_true] at this
      exact Or.inl (by omega)
    · exact Or.inr ⟨rfl, by simp [fuel, hd]⟩

/-- A part of the inner body uses up its event. -/
theorem fuel_part {part : Poll} (hp : f.inner.poll now = (part, inner)) (h : part ≠ .pending) (he : part ≠ .ended) :
    fuel { f with inner } + 3 ≤ f.fuel := fuel_inner (Body.length_of_poll hp h he)

theorem fuel_done (hd : f.done = false) (trailers : Option Headers) :
    fuel { f with trailers, done := true } ≤ f.fuel := by
  have ht := Bool.toNat_le trailers.isSome
  simp only [fuel, hd, Bool.not_true, Bool.not_false, Bool.toNat_true, Bool.toNat_false]
  omega

theorem fuel_ended (hd : f.done = false) (hp : f.inner.poll now = (.ended, inner)) :
    fuel { f with inner, done := true } < f.fuel := by
  have he : inner.events = [] := Body.poll_ended hp
  simp only [fuel, he, hd, List.length_nil, Bool.not_true, Bool.not_false, Bool.toNat_true, Bool.toNat_false]
  omega

/-- The inner body is in a wait, or it has come upon one. -/
theorem waits_inner (hp : f.inner.poll now = (.pending, inner)) :
    (f.inner.IsBusy now ∧ inner = f.inner) ∨ inner.events.length < f.inner.events.length := by
  by_cases hb : f.inner.IsBusy now
  · rw [Body.poll_of_isBusy hb] at hp
    cases hp
    exact Or.inl ⟨hb, rfl⟩
  · have hl := Body.length_poll_lt hb
    rw [hp] at hl
    rcases hl with hl | hl
    · exact Or.inr hl
    · cases hl

theorem Advances.of_drain (h : fuel g < f.fuel) : Advances f now g.drain := by
  rcases drain_uses (f := g) with hg | hg
  · exact Or.inl (Nat.lt_trans hg h)
  · exact Or.inr (Or.inl hg)

theorem advances_pollGathering : Advances f now (pollGathering now f) := by
  fun_induction pollGathering now f with
  | case1 f hd =>
    rcases drain_uses (f := f) with h | h
    · exact Or.inl h
    · exact Or.inr (Or.inl h)
  | case2 f hd bytes inner hp hb ih =>
    have hpart := fuel_part hp (by simp) (by simp)
    exact ih.of_fuel_lt (by omega)
  | case3 f hd bytes inner hp hb g hg =>
    have hpart := fuel_part hp (by simp) (by simp)
    have hgather : g.fuel ≤ _ := fuel_gather bytes
    have hflush := fuel_flush (f := g)
    exact Or.inl (by omega)
  | case4 f hd bytes inner hp hb g hg ih =>
    have hpart := fuel_part hp (by simp) (by simp)
    have hgather : g.fuel ≤ _ := fuel_gather bytes
    exact ih.of_fuel_lt (by omega)
  | case5 f hd headers inner hp =>
    have hpart := fuel_part hp (by simp) (by simp)
    have hdone := fuel_done (f := { f with inner }) (by simpa using hd) (some headers)
    exact .of_drain (Nat.lt_of_le_of_lt hdone (by omega))
  | case6 f hd reason inner hp =>
    have hpart := fuel_part hp (by simp) (by simp)
    exact Or.inl (Nat.lt_of_lt_of_le (Nat.lt_add_of_pos_right (by decide)) hpart)
  | case7 f hd inner hp => exact .of_drain (fuel_ended (by simpa using hd) hp)
  | case8 f hd inner hp =>
    have hidle := idle_uses now (f := { f with inner })
    rcases waits_inner hp with ⟨hb, rfl⟩ | hl
    · rcases hidle with hidle | ⟨hinner, hfuel⟩
      · exact Or.inl hidle
      · exact Or.inr (Or.inr ⟨hb, hinner, hfuel⟩)
    · have hwait := fuel_inner (f := f) hl
      exact Or.inl (by omega)

theorem advances_inner : Advances f now ((f.inner.poll now).1, { f with inner := (f.inner.poll now).2 }) := by
  by_cases hb : f.inner.IsBusy now
  · rw [Body.poll_of_isBusy hb]
    exact Or.inr (Or.inr ⟨hb, rfl, rfl⟩)
  · rcases Body.length_poll_lt hb with hl | he
    · have hwait := fuel_inner (f := f) hl
      exact Or.inl (Nat.lt_of_lt_of_le (Nat.lt_add_of_pos_right (by decide)) hwait)
    · exact Or.inr (Or.inl he)

theorem advances_poll (now : Nat) : Advances f now (f.poll now) := by
  unfold poll
  split
  · exact advances_inner
  · exact advances_pollGathering

variable {clock : Nat → Nat}

/-- After any number of questions there is an answer that uses something up or is the end. -/
theorem exists_use (hclock : GoesOn clock) (m : Nat) :
    ∃ n, m ≤ n ∧ (given f clock n = .ended ∨ (after f clock (n + 1)).fuel < (after f clock m).fuel) := by
  refine Classical.byContradiction fun hno => ?_
  have hstuck (n : Nat) (hmn : m ≤ n) :
      given f clock n ≠ .ended ∧ ¬ (after f clock (n + 1)).fuel < (after f clock m).fuel :=
    ⟨fun h => hno ⟨n, hmn, Or.inl h⟩, fun h => hno ⟨n, hmn, Or.inr h⟩⟩
  -- Then the inner body stays in the wait that it is in, and the clock passes that.
  have hsame (n : Nat) (hmn : m ≤ n) :
      (after f clock n).inner = (after f clock m).inner ∧ (after f clock n).fuel = (after f clock m).fuel := by
    induction hmn with
    | refl => exact ⟨rfl, rfl⟩
    | @step n hmn ih =>
      obtain ⟨hend, hfuel⟩ := hstuck n hmn
      rcases advances_poll (clock n) (f := after f clock n) with h | h | ⟨-, hinner, hf⟩
      · exact absurd (ih.2 ▸ h) hfuel
      · exact absurd h hend
      · exact ⟨hinner.trans ih.1, hf.trans ih.2⟩
  obtain ⟨k, hmk, htime⟩ := hclock m ((after f clock m).inner.busyUntil.getD 0)
  obtain ⟨hinner, hf⟩ := hsame k hmk
  obtain ⟨hend, hfuel⟩ := hstuck k hmk
  rcases advances_poll (clock k) (f := after f clock k) with h | h | ⟨hbusy, -, -⟩
  · exact hfuel (hf ▸ h)
  · exact hend h
  · exact Body.not_isBusy_of_le htime (hinner ▸ hbusy)

theorem exists_ended (hclock : GoesOn clock) : ∃ n, given f clock n = .ended := by
  suffices h : ∀ d m, (after f clock m).fuel = d → ∃ n, given f clock n = .ended from h _ 0 rfl
  intro d
  induction d using Nat.strongRecOn with
  | _ d ih =>
    intro m hm
    obtain ⟨n, -, h | h⟩ := exists_use (f := f) hclock m
    · exact ⟨n, h⟩
    · exact ih _ (hm ▸ h) (n + 1) rfl

end Gateway.Http.Flushing
