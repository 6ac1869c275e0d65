import Gateway.Proofs.Http.Flushing.Taking
import Gateway.Proofs.Http.Flushing.Owed

/-! What always holds of a flushing body. Just the bytes that are held have a deadline, they are fewer than fill the buffer,
    and trailers wait only behind the end of the inner body; without an interval nothing is ever kept. Every question keeps
    this, whatever the inner body answers and whenever it is asked, and bytes that stay behind a question are watched. -/

namespace Gateway.Http.Flushing

/-- What always holds of a flushing body. -/
structure Kept (f : Flushing) : Prop where
  /-- Just held bytes have a deadline. -/
  armed : f.deadline.isSome ↔ f.buffer ≠ .empty
  small : f.buffer.size < fullSize
  /-- Trailers are held only when the inner body is done. -/
  trailers : f.trailers.isSome → f.done = true
  /-- Without an interval nothing has changed since the start. -/
  passing : f.interval = 0 → f.buffer = .empty ∧ f.deadline = none ∧ f.trailers = none ∧ f.done = false

/-- One body comes from another by questions at any moments. What the inner body is may change between them in any way. -/
inductive Reaches (f : Flushing) : Flushing → Prop
  | start : Reaches f f
  | poll {g : Flushing} (now : Nat) : Reaches f g → Reaches f (g.poll now).2
  | change {g : Flushing} (inner : Body) : Reaches f g → Reaches f { g with inner }

/-- The answer is that of waiting for the deadline, which has not passed. -/
def Waits (now : Nat) (answer : Poll × Flushing) : Prop :=
  ∃ (h : Flushing) (d : Deadline), answer = h.idle now ∧ h.deadline = some d ∧ now < d.due ∧
    answer.2.deadline = some { d with watched := true }

variable {f g : Flushing} {now : Nat} {bytes : ByteArray}

/-! ### Steps -/

theorem kept_start (interval : Nat) (inner : Body) : Kept { interval, inner } where
  armed := ⟨nofun, fun h => absurd rfl h⟩
  small := (by decide : 0 < fullSize)
  trailers := nofun
  passing _ := ⟨rfl, rfl, rfl, rfl⟩

theorem kept_inner (h : f.Kept) (inner : Body) : Kept { f with inner } := ⟨h.armed, h.small, h.trailers, h.passing⟩

theorem kept_flush (hi : 0 < f.interval) (ht : f.trailers.isSome → f.done = true) : f.flush.2.Kept where
  armed := ⟨nofun, fun h => absurd rfl h⟩
  small := (by decide : 0 < fullSize)
  trailers := ht
  passing h0 := absurd h0 (Nat.ne_of_gt hi)

/-- Bytes that do not fill the buffer are gathered. -/
theorem kept_gather (h : f.Kept) (hi : 0 < f.interval) (hb : ¬ bytes.isEmpty)
    (hg : ¬ (fullSize ≤ (f.gather now bytes).buffer.size ∨ (f.gather now bytes).isOverdue now)) :
    (f.gather now bytes).Kept where
  armed := by
    refine ⟨fun _ => buffer_gather_ne (mt isEmpty_iff.mpr hb), fun _ => ?_⟩
    by_cases he : f.buffer = .empty
    · simp [gather, isEmpty_iff, he]
    · simpa [gather, isEmpty_iff, he] using h.armed.mpr he
  small := Nat.lt_of_not_le fun hle => hg (Or.inl hle)
  trailers := h.trailers
  passing h0 := absurd h0 (Nat.ne_of_gt hi)

/-- The inner body is done, perhaps with trailers. -/
theorem kept_finish (h : f.Kept) (hi : 0 < f.interval) (trailers : Option Headers) :
    Kept { f with trailers, done := true } where
  armed := h.armed
  small := h.small
  trailers _ := rfl
  passing h0 := absurd h0 (Nat.ne_of_gt hi)

theorem kept_drain (h : f.Kept) (hi : 0 < f.interval) : f.drain.2.Kept := by
  unfold drain
  split
  · exact kept_flush hi h.trailers
  · split
    · exact ⟨h.armed, h.small, nofun, fun h0 => absurd h0 (Nat.ne_of_gt hi)⟩
    · exact h

theorem kept_idle (h : f.Kept) (hi : 0 < f.interval) : (f.idle now).2.Kept := by
  unfold idle
  split
  · exact h
  · rename_i d hd
    split
    · exact kept_flush hi h.trailers
    · exact ⟨⟨fun _ => h.armed.mp (hd ▸ rfl), fun _ => rfl⟩, h.small, h.trailers, fun h0 => absurd h0 (Nat.ne_of_gt hi)⟩

theorem kept_pollGathering (h : f.Kept) (hi : 0 < f.interval) : (pollGathering now f).2.Kept := by
  fun_induction pollGathering now f with
  | case1 f hd => exact kept_drain h hi
  | case2 f hd bytes inner hp hb ih => exact ih (kept_inner h inner) hi
  | case3 f hd bytes inner hp hb g hg => exact kept_flush hi h.trailers
  | case4 f hd bytes inner hp hb g hg ih => exact ih (kept_gather (kept_inner h inner) hi hb hg) hi
  | case5 f hd headers inner hp => exact kept_drain (kept_finish (kept_inner h inner) hi (some headers)) hi
  | case6 f hd reason inner hp => exact kept_inner h inner
  | case7 f hd inner hp => exact kept_drain (kept_finish (kept_inner h inner) hi f.trailers) hi
  | case8 f hd inner hp => exact kept_idle (kept_inner h inner) hi

theorem kept_poll (h : f.Kept) (now : Nat) : (f.poll now).2.Kept := by
  rcases Nat.eq_zero_or_pos f.interval with hi | hi
  · exact poll_passing hi ▸ kept_inner h _
  · exact poll_gathering hi ▸ kept_pollGathering h hi

theorem done_drain : f.drain.2.done = f.done := by
  unfold drain
  repeat' split
  all_goals rfl

theorem done_poll (h : f.done = true) (now : Nat) : (f.poll now).2.done = true := by
  unfold poll
  split
  · exact h
  · rw [pollGathering, if_pos h, done_drain, h]

theorem waits_idle (h : f.Kept) (hp : (f.idle now).1 = .pending) (hb : (f.idle now).2.buffer ≠ .empty) :
    Waits now (f.idle now) := by
  cases hd : f.deadline with
  | none =>
    have hidle : f.idle now = (.pending, f) := by rw [idle, hd]
    rw [hidle] at hb
    exact absurd (h.armed.mpr hb) (by simp [hd])
  | some d =>
    have hidle : f.idle now = if d.due ≤ now then f.flush else
      (.pending, { f with deadline := some { d with watched := true } }) := by rw [idle, hd]
    by_cases hdue : d.due ≤ now
    · rw [hidle, if_pos hdue] at hp
      cases hp
    · exact ⟨f, d, rfl, hd, Nat.lt_of_not_le hdue, by rw [hidle, if_neg hdue]⟩

theorem waits_pollGathering (h : f.Kept) (hi : 0 < f.interval) (hp : (pollGathering now f).1 = .pending)
    (hb : (pollGathering now f).2.buffer ≠ .empty) : Waits now (pollGathering now f) := by
  -- Nothing but the last case waits; the invariant is carried to it, so that what is held there has a deadline.
  fun_induction pollGathering now f with
  | case1 f hd => exact absurd hp drain_ne_pending
  | case2 f hd bytes inner hq he ih => exact ih (kept_inner h inner) hi hp hb
  | case3 f hd bytes inner hq he g hg => cases hp
  | case4 f hd bytes inner hq he g hg ih => exact ih (kept_gather (kept_inner h inner) hi he hg) hi hp hb
  | case5 f hd headers inner hq => exact absurd hp drain_ne_pending
  | case6 f hd reason inner hq => cases hp
  | case7 f hd inner hq => exact absurd hp drain_ne_pending
  | case8 f hd inner hq => exact waits_idle (kept_inner h inner) hp hb

theorem waits_poll (h : f.Kept) (hp : (f.poll now).1 = .pending) (hb : (f.poll now).2.buffer ≠ .empty) :
    Waits now (f.poll now) := by
  rcases Nat.eq_zero_or_pos f.interval with hi | hi
  · exact absurd ((kept_poll h now).passing (interval_poll.trans hi)).1 hb
  · rw [poll_gathering hi] at hp hb ⊢
    exact waits_pollGathering h hi hp hb

/-! ### Runs -/

namespace Reaches

theorem kept (h : Reaches f g) (hf : f.Kept) : g.Kept := by
  induction h with
  | start => exact hf
  | poll now _ ih => exact kept_poll ih now
  | change inner _ ih => exact kept_inner ih inner

theorem done (h : Reaches f g) (hf : f.done = true) : g.done = true := by
  induction h with
  | start => exact hf
  | poll now _ ih => exact done_poll ih now
  | change _ _ ih => exact ih

theorem interval_eq (h : Reaches f g) : g.interval = f.interval := by
  induction h with
  | start => rfl
  | poll now _ ih => exact interval_poll.trans ih
  | change _ _ ih => exact ih

end Reaches

/-- **Held bytes always have a deadline that somebody watches.** Take any interval and any inner body, ask at any moments,
    and let the inner body become any other between the questions. After each question the invariant holds and the interval
    is the same; an inner body that is done stays done; and if nothing came though bytes are held, then the question has
    waited for their deadline, which has not passed. -/
theorem question_keeps {interval : Nat} {inner : Body} (h : Reaches { interval, inner } f) (now : Nat) :
    (f.poll now).2.Kept ∧ (f.poll now).2.interval = interval ∧
      (f.done = true → ∀ g, Reaches (f.poll now).2 g → g.done = true) ∧
      ((f.poll now).1 = .pending → (f.poll now).2.buffer ≠ .empty → Waits now (f.poll now)) := by
  have hkept : f.Kept := h.kept (kept_start interval inner)
  refine ⟨kept_poll hkept now, interval_poll.trans h.interval_eq, fun hdone g hg => hg.done (done_poll hdone now), ?_⟩
  exact waits_poll hkept

/-- Two bytes that wait behind the first question. -/
theorem question_keeps_waiting :
    let start : Flushing := { interval := 50, inner := { events := [.data ⟨#[97, 98]⟩, .wait 80, .failure "reset"] } }
    Reaches start start ∧ (start.poll 0).1 = .pending ∧ (start.poll 0).2.buffer = ⟨#[97, 98]⟩ ∧
      (start.poll 0).2.Kept ∧ Waits 0 (start.poll 0) := by
  intro start
  have hpoll : start.poll 0 = (.pending, { start with
      inner := { events := [.failure "reset"], busyUntil := some 80 },
      buffer := ⟨#[97, 98]⟩, deadline := some ⟨50, true⟩ }) := by
    have hbytes : ByteArray.isEmpty ⟨#[97, 98]⟩ = false := rfl
    have hsize : ByteArray.size ⟨#[97, 98]⟩ = 2 := rfl
    have hempty : ByteArray.isEmpty .empty = true := rfl
    simp [poll, pollGathering, Body.poll, Body.pollEvents, start, gather, isOverdue, idle, fullSize, hbytes, hsize, hempty]
  obtain ⟨hkept, -, -, hwaits⟩ := question_keeps (f := start) .start 0
  refine ⟨.start, congrArg Prod.fst hpoll, congrArg (·.2.buffer) hpoll, hkept, hwaits (congrArg Prod.fst hpoll) ?_⟩
  rw [hpoll]
  exact fun h => absurd (congrArg ByteArray.size h) (by decide)

end Gateway.Http.Flushing
