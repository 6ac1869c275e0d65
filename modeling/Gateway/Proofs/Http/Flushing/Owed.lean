import Gateway.Http.Flushing
import Gateway.Proofs.Http.Polling

/-! What a flushing body owes its reader: the bytes it holds and, until the inner body is done, what that has left. A part
    and what is owed after it make up what was owed before. Only a failure breaks the order: it passes in front of the
    bytes that are held. -/

namespace Gateway.Http.Flushing

/-- What the reader has still to get. -/
def owed (f : Flushing) : Body.Content :=
  if f.done then ⟨f.buffer, f.trailers, none⟩
  else ⟨f.buffer ++ f.inner.content.data, f.inner.content.trailers, f.inner.content.failure⟩

/-- What holds of a flushing body whose inner body has trailers last, if it has any. -/
structure Sound (f : Flushing) : Prop where
  trailersLast : Body.TrailersLast f.inner.events
  /-- An inner body that is done has nothing more to say. -/
  quiet : f.done = true → Body.OnlyWaits f.inner.events
  /-- Trailers are held only when the inner body is done. -/
  trailers : f.done = false → f.trailers = none
  /-- Only bytes have a deadline. -/
  deadline : f.deadline.isSome → f.buffer ≠ .empty
  /-- Without an interval nothing is held. -/
  passing : f.interval = 0 → f.done = false ∧ f.buffer = .empty

/-- Nothing is left to give. -/
structure Spent (f : Flushing) : Prop where
  done : f.done = true
  buffer : f.buffer = .empty
  trailers : f.trailers = none

/-- A part and what is owed after it make up what was owed before, and a failure passes in front of what is held. -/
structure Gives (f : Flushing) (answer : Poll × Flushing) : Prop where
  sound : answer.2.Sound
  passes : (∀ reason, answer.1 ≠ .failure reason) → f.owed = answer.1.content.followedBy answer.2.owed
  breaks : ∀ reason, answer.1 = .failure reason → f.owed = ⟨answer.2.buffer, none, some reason⟩
  /-- With an interval no part is empty. -/
  nonempty : 0 < f.interval → ∀ bytes, answer.1 = .data bytes → bytes ≠ .empty
  /-- With an interval the trailers and the end are the last there is. -/
  spent : 0 < f.interval → (∃ headers, answer.1 = .trailers headers) ∨ answer.1 = .ended → answer.2.Spent

variable {f g : Flushing} {now : Nat} {bytes : ByteArray} {inner : Body}

theorem poll_passing (hi : f.interval = 0) :
    f.poll now = ((f.inner.poll now).1, { f with inner := (f.inner.poll now).2 }) := by rw [poll, if_pos hi]

theorem poll_gathering (hi : 0 < f.interval) : f.poll now = pollGathering now f := by
  rw [poll, if_neg (Nat.ne_of_gt hi)]

theorem owed_done (h : f.done = true) : f.owed = ⟨f.buffer, f.trailers, none⟩ := by simp [owed, h]

theorem owed_open (h : f.done = false) :
    f.owed = ⟨f.buffer ++ f.inner.content.data, f.inner.content.trailers, f.inner.content.failure⟩ := by simp [owed, h]

theorem Spent.owed (h : f.Spent) : f.owed = ⟨.empty, none, none⟩ := by
  rw [owed_done h.done, h.buffer, h.trailers]

theorem Gives.of_owed {answer : Poll × Flushing} (h : Gives g answer) (ho : f.owed = g.owed)
    (hi : f.interval = g.interval) : Gives f answer :=
  ⟨h.sound, ho ▸ h.passes, ho ▸ h.breaks, hi ▸ h.nonempty, hi ▸ h.spent⟩

/-! ### Giving out -/

theorem flush_sound (h : f.Sound) : f.flush.2.Sound where
  trailersLast := h.trailersLast
  quiet := h.quiet
  trailers := h.trailers
  deadline hd := by cases hd
  passing hi := ⟨(h.passing hi).1, rfl⟩

theorem owed_flush : f.owed = (Poll.data f.buffer).content.followedBy f.flush.2.owed := by
  cases hd : f.done with
  | true =>
    rw [owed_done hd, owed_done (f := f.flush.2) hd]
    simp [Poll.content, Poll.event?, Body.Content.followedBy, flush]
  | false =>
    rw [owed_open hd, owed_open (f := f.flush.2) hd]
    simp [Poll.content, Poll.event?, Body.Content.followedBy, flush]

theorem gives_flush (h : f.Sound) (hb : f.buffer ≠ .empty) : Gives f f.flush where
  sound := flush_sound h
  passes _ := owed_flush
  breaks _ hf := by cases hf
  nonempty _ bytes hp := by
    cases hp
    exact hb
  spent _ hp := by rcases hp with ⟨headers, hp⟩ | hp <;> cases hp

theorem gives_trailers {headers : Headers} (h : f.Sound) (hd : f.done = true) (hb : f.buffer = .empty)
    (ht : f.trailers = some headers) : Gives f (.trailers headers, { f with trailers := none }) where
  sound := ⟨h.trailersLast, h.quiet, fun _ => rfl, h.deadline, h.passing⟩
  passes _ := by
    rw [owed_done hd, owed_done (f := { f with trailers := none }) hd, hb, ht]
    rfl
  breaks _ hf := by cases hf
  nonempty _ _ hp := by cases hp
  spent _ _ := ⟨hd, hb, rfl⟩

theorem gives_ended (h : f.Sound) (hs : f.Spent) : Gives f (.ended, f) where
  sound := h
  passes _ := Body.Content.empty_followedBy.symm
  breaks _ hf := by cases hf
  nonempty _ _ hp := by cases hp
  spent _ _ := hs

theorem gives_drain (h : f.Sound) (hd : f.done = true) : Gives f f.drain := by
  unfold drain
  split
  · rename_i hb
    exact gives_flush h fun he => hb (isEmpty_iff.mpr he)
  · rename_i hb
    have hb : f.buffer = .empty := isEmpty_iff.mp (by simpa using hb)
    split
    · rename_i headers ht
      exact gives_trailers h hd hb ht
    · rename_i ht
      exact gives_ended h ⟨hd, hb, ht⟩

/-- Waiting changes nothing of what is owed. -/
theorem gives_pending (h : g.Sound) (ho : f.owed = g.owed) : Gives f (.pending, g) where
  sound := h
  passes _ := ho.trans Body.Content.empty_followedBy.symm
  breaks _ hf := by cases hf
  nonempty _ _ hp := by cases hp
  spent _ hp := by rcases hp with ⟨headers, hp⟩ | hp <;> cases hp

theorem gives_idle (h : f.Sound) : Gives f (f.idle now) := by
  unfold idle
  split
  · exact gives_pending h rfl
  · rename_i d hd
    have hb : f.buffer ≠ .empty := h.deadline (by simp [hd])
    split
    · exact gives_flush h hb
    · exact gives_pending ⟨h.trailersLast, h.quiet, h.trailers, fun _ => hb, h.passing⟩ rfl

/-! ### Taking from the inner body, and asking -/

section Inner
variable {answer : Poll} {inner : Body} {bytes : ByteArray} {headers : Headers} {reason : String}

theorem sound_inner (h : f.Sound) (hd : f.done = false) (hp : f.inner.poll now = (answer, inner)) :
    Sound { f with inner } where
  trailersLast := Body.trailersLast_poll h.trailersLast hp
  quiet hd' := by cases hd.symm.trans hd'
  trailers := h.trailers
  deadline := h.deadline
  passing := h.passing

theorem owed_inner_empty (hd : f.done = false) (hp : f.inner.poll now = (answer, inner))
    (ha : answer.content = ⟨.empty, none, none⟩) : f.owed = owed { f with inner } := by
  rw [owed_open hd, owed_open (f := { f with inner }) hd, Body.content_poll hp, ha, Body.Content.empty_followedBy]

theorem owed_gather (hd : f.done = false) (hp : f.inner.poll now = (.data bytes, inner)) :
    f.owed = owed ({ f with inner }.gather now bytes) := by
  have hg : ({ f with inner }.gather now bytes).done = false := hd
  rw [owed_open hd, owed_open hg, Body.content_poll hp]
  simp [Poll.content, Poll.event?, Body.Content.followedBy, gather, ByteArray.append_assoc]

theorem buffer_gather_ne (hb : bytes ≠ .empty) : (f.gather now bytes).buffer ≠ .empty := by
  intro he
  have hs := congrArg ByteArray.size he
  simp only [gather, ByteArray.size_append, ByteArray.size_empty] at hs
  exact hb (ByteArray.size_eq_zero_iff.mp (by omega))

theorem sound_gather (h : f.Sound) (hi : 0 < f.interval) (hb : bytes ≠ .empty) : (f.gather now bytes).Sound where
  trailersLast := h.trailersLast
  quiet := h.quiet
  trailers := h.trailers
  deadline _ := buffer_gather_ne hb
  passing h0 := absurd h0 (Nat.ne_of_gt hi)

theorem owed_inner_trailers (h : f.Sound) (hd : f.done = false) (hp : f.inner.poll now = (.trailers headers, inner)) :
    f.owed = owed { f with inner, trailers := some headers, done := true } := by
  have hlast : inner.content = ⟨.empty, none, none⟩ :=
    Body.contentOf_waits (Body.onlyWaits_poll_trailers h.trailersLast hp)
  rw [owed_open hd, Body.content_poll hp, hlast]
  simp [owed, Poll.content, Poll.event?, Body.Content.followedBy]

theorem owed_inner_ended (h : f.Sound) (hd : f.done = false) (hp : f.inner.poll now = (.ended, inner)) :
    f.owed = owed { f with inner, done := true } := by
  rw [owed_open hd, Body.content_poll_ended hp]
  simp [owed, h.trailers hd]

theorem owed_inner_failure (hd : f.done = false) (hp : f.inner.poll now = (.failure reason, inner)) :
    f.owed = ⟨f.buffer, none, some reason⟩ := by
  rw [owed_open hd, Body.content_poll hp]
  simp [Poll.content, Poll.event?, Body.Content.followedBy]

/-- The inner body is done; what is held stays. -/
theorem sound_done (h : f.Sound) (hi : 0 < f.interval) (hq : Body.OnlyWaits f.inner.events) (trailers : Option Headers) :
    Sound { f with trailers, done := true } where
  trailersLast := h.trailersLast
  quiet _ := hq
  trailers hd := by cases hd
  deadline := h.deadline
  passing h0 := absurd h0 (Nat.ne_of_gt hi)

theorem gives_failure (h : f.Sound) (hd : f.done = false) (hp : f.inner.poll now = (.failure reason, inner)) :
    Gives f (.failure reason, { f with inner }) where
  sound := sound_inner h hd hp
  passes hf := absurd rfl (hf reason)
  breaks _ hf := by
    cases hf
    exact owed_inner_failure hd hp
  nonempty _ _ hf := by cases hf
  spent _ hf := by rcases hf with ⟨headers, hf⟩ | hf <;> cases hf

end Inner

/-- With an interval. The induction is on what the inner body has left: empty data and bytes that are only gathered change
    nothing of what is owed, and everything else ends the round. -/
theorem gives_pollGathering (h : f.Sound) (hi : 0 < f.interval) : Gives f (pollGathering now f) := by
  fun_induction pollGathering now f with
  | case1 f hd => exact gives_drain h hd
  | case2 f hd bytes inner hp hb ih =>
    have hd : f.done = false := by simpa using hd
    have ha : (Poll.data bytes).content = ⟨.empty, none, none⟩ := by
      rw [isEmpty_iff.mp hb]
      rfl
    exact (ih (sound_inner h hd hp) hi).of_owed (owed_inner_empty hd hp ha) rfl
  | case3 f hd bytes inner hp hb g hg =>
    have hd : f.done = false := by simpa using hd
    have hb : bytes ≠ .empty := mt isEmpty_iff.mpr hb
    have hs : g.Sound := sound_gather (sound_inner h hd hp) hi hb
    exact (gives_flush hs (buffer_gather_ne hb)).of_owed (owed_gather hd hp) rfl
  | case4 f hd bytes inner hp hb g hg ih =>
    have hd : f.done = false := by simpa using hd
    have hs : g.Sound := sound_gather (sound_inner h hd hp) hi (mt isEmpty_iff.mpr hb)
    exact (ih hs hi).of_owed (owed_gather hd hp) rfl
  | case5 f hd headers inner hp =>
    have hd : f.done = false := by simpa using hd
    have hs := sound_done (sound_inner h hd hp) hi (Body.onlyWaits_poll_trailers h.trailersLast hp) (some headers)
    exact (gives_drain hs rfl).of_owed (owed_inner_trailers h hd hp) rfl
  | case6 f hd reason inner hp =>
    have hd : f.done = false := by simpa using hd
    exact gives_failure h hd hp
  | case7 f hd inner hp =>
    have hd : f.done = false := by simpa using hd
    have hs := sound_done (sound_inner h hd hp) hi (Body.onlyWaits_poll_ended hp) f.trailers
    exact (gives_drain hs rfl).of_owed (owed_inner_ended h hd hp) rfl
  | case8 f hd inner hp =>
    have hd : f.done = false := by simpa using hd
    exact (gives_idle (sound_inner h hd hp)).of_owed (owed_inner_empty hd hp rfl) rfl

/-- Without an interval. -/
theorem gives_inner {p : Poll} (h : f.Sound) (hi : f.interval = 0) (hp : f.inner.poll now = (p, inner)) :
    Gives f (p, { f with inner }) where
  sound := sound_inner h (h.passing hi).1 hp
  passes _ := by
    obtain ⟨hd, hb⟩ := h.passing hi
    rw [owed_open hd, owed_open (f := { f with inner }) hd, hb, Body.content_poll hp]
    simp
  breaks reason hf := owed_inner_failure (h.passing hi).1 (hp.trans (Prod.ext hf rfl))
  nonempty h0 := absurd hi (Nat.ne_of_gt h0)
  spent h0 := absurd hi (Nat.ne_of_gt h0)

theorem gives_poll (h : f.Sound) : Gives f (f.poll now) := by
  unfold poll
  split
  · rename_i hi
    exact gives_inner h hi rfl
  · rename_i hi
    exact gives_pollGathering h (Nat.pos_of_ne_zero hi)

end Gateway.Http.Flushing
