import Gateway.Http.Flushing
import Gateway.Proofs.Http.Polling

/-! What a question takes from the inner body. Whatever the inner body is, the bytes that were held and those that are taken
    are given out or held in the end, in that order; and a failure that is taken is the answer, at once. -/

namespace Gateway.Http.Flushing

/-- For an answer these events have been taken from the inner body. -/
structure Takes (f : Flushing) (answer : Poll × Flushing) (taken : List Event) : Prop where
  events : f.inner.events = taken ++ answer.2.inner.events
  data : f.buffer ++ Body.dataOf taken = Body.dataOf answer.1.event?.toList ++ answer.2.buffer
  failures : Body.failuresOf taken = Body.failuresOf answer.1.event?.toList
  /-- A failure is the end of what is taken. -/
  failure : ∀ reason, answer.1 = .failure reason → ∃ before, taken = before ++ [.failure reason]
  /-- With data all that was held is given out. -/
  emptied : 0 < f.interval → ∀ bytes, answer.1 = .data bytes → answer.2.buffer = .empty
  passing : f.interval = 0 → answer.2.buffer = f.buffer

variable {f g : Flushing} {now : Nat} {answer : Poll × Flushing} {taken more : List Event}

theorem interval_drain : f.drain.2.interval = f.interval := by
  unfold drain
  repeat' split
  all_goals rfl

theorem interval_idle : (f.idle now).2.interval = f.interval := by
  unfold idle
  repeat' split
  all_goals rfl

theorem interval_pollGathering : (pollGathering now f).2.interval = f.interval := by
  fun_induction pollGathering now f with
  | case1 f hd => exact interval_drain
  | case2 f hd bytes inner hp hb ih => exact ih
  | case3 f hd bytes inner hp hb g hg => rfl
  | case4 f hd bytes inner hp hb g hg ih => exact ih
  | case5 f hd headers inner hp => exact interval_drain
  | case6 f hd reason inner hp => rfl
  | case7 f hd inner hp => exact interval_drain
  | case8 f hd inner hp => exact interval_idle

theorem interval_poll : (f.poll now).2.interval = f.interval := by
  unfold poll
  split
  · rfl
  · exact interval_pollGathering

theorem takes_flush (hi : 0 < f.interval) : Takes f f.flush [] where
  events := rfl
  data := by
    show f.buffer ++ .empty = f.buffer ++ .empty ++ .empty
    rw [ByteArray.append_empty, ByteArray.append_empty]
  failures := rfl
  failure _ hp := by cases hp
  emptied _ _ _ := rfl
  passing h0 := absurd h0 (Nat.ne_of_gt hi)

/-- Nothing is taken for an answer that leaves the inner body and what is held as they are. -/
theorem takes_nothing (h : answer.1 = .pending ∨ (∃ headers, answer.1 = .trailers headers) ∨ answer.1 = .ended)
    (hinner : answer.2.inner = f.inner) (hbuffer : answer.2.buffer = f.buffer) : Takes f answer [] where
  events := by rw [hinner, List.nil_append]
  data := by
    have hdata : Body.dataOf answer.1.event?.toList = .empty := by
      rcases h with h | ⟨headers, h⟩ | h <;> rw [h] <;> rfl
    rw [hdata, hbuffer, ByteArray.empty_append]
    exact ByteArray.append_empty
  failures := by rcases h with h | ⟨headers, h⟩ | h <;> rw [h] <;> rfl
  failure _ hp := by rcases h with h | ⟨headers, h⟩ | h <;> rw [h] at hp <;> cases hp
  emptied _ _ hp := by rcases h with h | ⟨headers, h⟩ | h <;> rw [h] at hp <;> cases hp
  passing _ := hbuffer

theorem takes_drain (hi : 0 < f.interval) : Takes f f.drain [] := by
  unfold drain
  split
  · exact takes_flush hi
  · split
    · exact takes_nothing (Or.inr (Or.inl ⟨_, rfl⟩)) rfl rfl
    · exact takes_nothing (Or.inr (Or.inr rfl)) rfl rfl

/-- What is given out there is no wait for. -/
theorem drain_ne_pending : f.drain.1 ≠ .pending := by
  unfold drain
  repeat' split
  all_goals simp [flush]

theorem takes_idle (hi : 0 < f.interval) : Takes f (f.idle now) [] := by
  unfold idle
  split
  · exact takes_nothing (Or.inl rfl) rfl rfl
  · split
    · exact takes_flush hi
    · exact takes_nothing (Or.inl rfl) rfl rfl

/-- What is taken first, with what is held in between. -/
theorem Takes.behind (h : Takes g answer more) (hi : g.interval = f.interval) (hpos : 0 < f.interval)
    (hevents : f.inner.events = taken ++ g.inner.events) (hbuffer : g.buffer = f.buffer ++ Body.dataOf taken)
    (hfailures : Body.failuresOf taken = []) : Takes f answer (taken ++ more) where
  events := by rw [hevents, h.events, List.append_assoc]
  data := by rw [Body.dataOf_append, ← ByteArray.append_assoc, ← hbuffer, h.data]
  failures := by rw [Body.failuresOf_append, hfailures, List.nil_append, h.failures]
  failure reason hp := by
    obtain ⟨before, rfl⟩ := h.failure reason hp
    exact ⟨taken ++ before, (List.append_assoc _ _ _).symm⟩
  emptied _ := h.emptied (hi ▸ hpos)
  passing h0 := absurd h0 (Nat.ne_of_gt hpos)

section Inner
variable {part : Poll} {inner : Body}

/-- An answer behind a part of the inner body that is held or says nothing. -/
theorem exists_takes_behind (hpos : 0 < f.interval) (hp : f.inner.poll now = (part, inner))
    (hfailures : Body.failuresOf part.event?.toList = []) (h : ∃ more, Takes g answer more)
    (hi : g.interval = f.interval) (hinner : g.inner = inner)
    (hbuffer : g.buffer = f.buffer ++ Body.dataOf part.event?.toList) : ∃ taken, Takes f answer taken := by
  obtain ⟨taken, hevents, hdata, hf, -⟩ := Body.exists_taken_poll hp
  obtain ⟨more, h⟩ := h
  exact ⟨taken ++ more, h.behind hi hpos (hinner ▸ hevents) (hdata ▸ hbuffer) (hf.trans hfailures)⟩

theorem exists_takes_failure {reason : String} (hp : f.inner.poll now = (.failure reason, inner)) :
    ∃ taken, Takes f (.failure reason, { f with inner }) taken := by
  obtain ⟨taken, hevents, hdata, hfailures, hlast⟩ := Body.exists_taken_poll hp
  refine ⟨taken, hevents, ?_, hfailures, fun other ho => hlast other ho, fun _ _ hb => ?_, fun _ => rfl⟩
  · rw [hdata]
    exact ByteArray.append_empty.trans ByteArray.empty_append.symm
  · cases hb

/-- Without an interval nothing is held. -/
theorem exists_takes_inner (hi : f.interval = 0) (hb : f.buffer = .empty) (hp : f.inner.poll now = (part, inner)) :
    ∃ taken, Takes f (part, { f with inner }) taken := by
  obtain ⟨taken, hevents, hdata, hfailures, hlast⟩ := Body.exists_taken_poll hp
  refine ⟨taken, hevents, ?_, hfailures, hlast, fun hpos => absurd hi (Nat.ne_of_gt hpos), fun _ => rfl⟩
  rw [hb, hdata, ByteArray.empty_append, ByteArray.append_empty]

end Inner

theorem exists_takes_pollGathering (hi : 0 < f.interval) : ∃ taken, Takes f (pollGathering now f) taken := by
  fun_induction pollGathering now f with
  | case1 f hd => exact ⟨[], takes_drain hi⟩
  | case2 f hd bytes inner hp hb ih =>
    refine exists_takes_behind hi hp rfl (ih hi) rfl rfl ?_
    rw [isEmpty_iff.mp hb]
    exact ByteArray.append_empty.symm
  | case3 f hd bytes inner hp hb g hg =>
    refine exists_takes_behind hi hp rfl ⟨[], takes_flush hi⟩ rfl rfl ?_
    exact congrArg (f.buffer ++ ·) ByteArray.append_empty.symm
  | case4 f hd bytes inner hp hb g hg ih =>
    refine exists_takes_behind hi hp rfl (ih hi) rfl rfl ?_
    exact congrArg (f.buffer ++ ·) ByteArray.append_empty.symm
  | case5 f hd headers inner hp =>
    exact exists_takes_behind hi hp rfl ⟨[], takes_drain hi⟩ rfl rfl ByteArray.append_empty.symm
  | case6 f hd reason inner hp => exact exists_takes_failure hp
  | case7 f hd inner hp =>
    exact exists_takes_behind hi hp rfl ⟨[], takes_drain hi⟩ rfl rfl ByteArray.append_empty.symm
  | case8 f hd inner hp =>
    exact exists_takes_behind hi hp rfl ⟨[], takes_idle hi⟩ rfl rfl ByteArray.append_empty.symm

theorem exists_takes_poll (now : Nat) (h : f.interval = 0 → f.buffer = .empty) :
    ∃ taken, Takes f (f.poll now) taken := by
  unfold poll
  split
  · rename_i hi
    exact exists_takes_inner hi (h hi) rfl
  · rename_i hi
    exact exists_takes_pollGathering (Nat.pos_of_ne_zero hi)

end Gateway.Http.Flushing
