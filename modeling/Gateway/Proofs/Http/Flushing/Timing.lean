import Gateway.Proofs.Http.Arrivals
import Gateway.Proofs.Http.Flushing.Owed

/-! When bytes are given out. A body that is asked no later than it asked to be holds what has arrived since it gave out
    data last, and its deadline is that of the first of these bytes. An answer gives them out on time, or asks for a later
    moment. -/

namespace Gateway.Http.Flushing

open Body (Arrival bytesOf)

/-- Some arrivals are given out together on time. -/
structure OnTime (interval finish : Nat) (batch : List Arrival) (time : Nat) (bytes : ByteArray) : Prop where
  bytes_eq : bytes = bytesOf batch
  nonempty : batch ≠ []
  /-- None of them has waited longer than the interval. -/
  prompt : ∀ a ∈ batch, a.time ≤ time ∧ time ≤ a.time + interval
  /-- Too few bytes to fill the buffer go when the interval of the first is over, or the body is. -/
  few : bytes.size < fullSize → time = finish ∨ ∃ first rest, batch = first :: rest ∧ time = first.time + interval
  /-- Others go when the last of them arrives, and it has filled the buffer. -/
  full : fullSize ≤ bytes.size →
    ∃ before last, batch = before ++ [last] ∧ time = last.time ∧ (bytesOf before).size < fullSize

/-- What holds of a body besides what it holds back. -/
structure Expecting (interval finish : Nat) (f : Flushing) (now : Nat) (coming : List Arrival) : Prop where
  interval_eq : f.interval = interval
  inner : f.done = false → f.inner.Promises now coming finish
  done : f.done = true → coming = [] ∧ now = finish

/-- The deadline of the first byte. Nobody waits for it yet only if the byte has just come. -/
structure Armed (interval : Nat) (deadline : Option Deadline) (now : Nat) (first : Arrival) : Prop where
  due : ∃ watched, deadline = some ⟨first.time + interval, watched⟩ ∧ (watched = false → first.time = now)
  inTime : now ≤ first.time + interval

/-- A body holds some arrivals back and expects some others. -/
structure Holding (interval finish : Nat) (f : Flushing) (now : Nat) (held coming : List Arrival) : Prop extends
    Expecting interval finish f now coming where
  buffer_eq : f.buffer = bytesOf held
  small : f.buffer.size < fullSize
  nonempty : f.buffer = .empty → held = []
  past : ∀ a ∈ held, a.time ≤ now
  armed : ∀ first rest, held = first :: rest → Armed interval f.deadline now first ∧ ∀ a ∈ rest, first.time ≤ a.time
  unarmed : held = [] → f.deadline = none

/-- What an answer makes of the arrivals that are held back or still to come. -/
inductive Answers (interval finish now : Nat) : List Arrival → Poll × Flushing → Prop
  | data {batch rest bytes g} : OnTime interval finish batch now bytes → Holding interval finish g now [] rest →
      Answers interval finish now (batch ++ rest) (.data bytes, g)
  | trailers {headers g} : now = finish → g.interval = interval → g.Spent →
      Answers interval finish now [] (.trailers headers, g)
  | ended {g} : now = finish → Answers interval finish now [] (.ended, g)
  | pending {later held coming g} : g.wake = some later → now < later → Holding interval finish g later held coming →
      Answers interval finish now (held ++ coming) (.pending, g)

variable {interval finish now : Nat} {f : Flushing} {held coming rest : List Arrival} {bytes : ByteArray} {inner : Body}

/-! ### Giving out -/

theorem Holding.prompt (h : Holding interval finish f now held coming) :
    ∀ a ∈ held, a.time ≤ now ∧ now ≤ a.time + interval := by
  intro a ha
  refine ⟨h.past a ha, ?_⟩
  obtain ⟨first, rest, rfl⟩ := List.exists_cons_of_ne_nil (List.ne_nil_of_mem ha)
  obtain ⟨harmed, hfirst⟩ := h.armed first rest rfl
  rcases List.mem_cons.mp ha with rfl | ha
  · exact harmed.inTime
  · exact Nat.le_trans harmed.inTime (Nat.add_le_add_right (hfirst a ha) interval)

theorem holding_flush (h : Expecting interval finish f now coming) : Holding interval finish f.flush.2 now [] coming where
  interval_eq := h.interval_eq
  inner := h.inner
  done := h.done
  buffer_eq := rfl
  small := (by decide : 0 < fullSize)
  nonempty _ := rfl
  past _ ha := by cases ha
  armed _ _ hc := by cases hc
  unarmed _ := rfl

theorem Holding.answers_flush (h : Holding interval finish f now held coming) (hne : held ≠ [])
    (htime : now = finish ∨ ∃ first rest, held = first :: rest ∧ now = first.time + interval) :
    Answers interval finish now (held ++ coming) f.flush := by
  refine .data ⟨h.buffer_eq, hne, h.prompt, fun _ => htime, fun hfull => ?_⟩ (holding_flush h.toExpecting)
  exact absurd h.small (Nat.not_lt_of_le hfull)

theorem Holding.answers_drain (h : Holding interval finish f now held coming) (hd : f.done = true) :
    Answers interval finish now (held ++ coming) f.drain := by
  obtain ⟨hcoming, hnow⟩ := h.done hd
  unfold drain
  split
  · rename_i hb
    refine h.answers_flush (fun hnil => hb ?_) (Or.inl hnow)
    rw [h.buffer_eq, hnil]
    rfl
  · rename_i hb
    have hb : f.buffer = .empty := isEmpty_iff.mp (by simpa using hb)
    rw [h.nonempty hb, hcoming, List.nil_append]
    split
    · exact .trailers hnow h.interval_eq ⟨hd, hb, rfl⟩
    · exact .ended hnow

/-! ### Waiting -/

/-- A body that waits for its deadline may be asked again when the first of its waits ends. -/
theorem Holding.later {time later : Nat} (h : Holding interval finish f now held coming) (hd : f.done = false)
    (hb : f.inner.busyUntil = some time) (hw : ∀ d, f.deadline = some d → d.watched = true ∧ later ≤ d.due)
    (hnow : now ≤ later) (hl : later ≤ time) : Holding interval finish f later held coming where
  interval_eq := h.interval_eq
  inner _ := (h.inner hd).later hb hl
  done ht := by cases hd.symm.trans ht
  buffer_eq := h.buffer_eq
  small := h.small
  nonempty := h.nonempty
  past a ha := Nat.le_trans (h.past a ha) hnow
  armed first rest hc := by
    obtain ⟨⟨⟨watched, hdue, -⟩, -⟩, hfirst⟩ := h.armed first rest hc
    obtain ⟨hwatched, hin⟩ := hw _ hdue
    refine ⟨⟨⟨watched, hdue, fun hf => ?_⟩, hin⟩, hfirst⟩
    cases hwatched.symm.trans hf
  unarmed := h.unarmed

theorem wake_eq {time : Nat} (hb : f.inner.busyUntil = some time) :
    f.wake = some (match f.deadline with | none => time | some d => min time d.due) := by
  unfold wake
  rw [hb]
  cases f.deadline <;> rfl

/-- Nothing comes before the end of a wait. -/
theorem Holding.answers_idle {time : Nat} (h : Holding interval finish f now held coming) (hd : f.done = false)
    (hb : f.inner.busyUntil = some time) (hlt : now < time) : Answers interval finish now (held ++ coming) (f.idle now) := by
  unfold idle
  cases held with
  | nil =>
    have hnone := h.unarmed rfl
    have hwake : f.wake = some time := by rw [wake_eq hb, hnone]
    rw [hnone]
    refine .pending hwake hlt (h.later hd hb (fun d hdue => ?_) (Nat.le_of_lt hlt) (Nat.le_refl time))
    cases hnone.symm.trans hdue
  | cons first rest =>
    obtain ⟨⟨⟨watched, hdue, -⟩, hin⟩, hfirst⟩ := h.armed first rest rfl
    rw [hdue]
    by_cases hover : first.time + interval ≤ now
    · simp only [if_pos hover]
      exact h.answers_flush (List.cons_ne_nil first rest) (Or.inr ⟨first, rest, rfl, Nat.le_antisymm hin hover⟩)
    · simp only [if_neg hover]
      let g : Flushing := { f with deadline := some ⟨first.time + interval, true⟩ }
      have hwake : g.wake = some (min time (first.time + interval)) := wake_eq hb
      have hg : Holding interval finish g now (first :: rest) coming := { h with
        armed := fun a _ hc => by
          obtain ⟨rfl, rfl⟩ := List.cons.inj hc
          exact ⟨⟨⟨true, rfl, fun hf => by cases hf⟩, hin⟩, hfirst⟩
        unarmed := fun hnil => by cases hnil }
      have hsoon : now < min time (first.time + interval) := Nat.lt_min.mpr ⟨hlt, Nat.lt_of_not_le hover⟩
      refine .pending hwake hsoon (hg.later hd hb (fun d hd => ?_) (Nat.le_of_lt hsoon) (Nat.min_le_left _ _))
      cases hd
      exact ⟨rfl, Nat.min_le_right _ _⟩

/-! ### Taking from the inner body, and asking -/

theorem Holding.of_inner (h : Holding interval finish f now held coming) (hd : f.done = false)
    (hp : inner.Promises now rest finish) : Holding interval finish { f with inner } now held rest :=
  { h with inner := fun _ => hp, done := fun ht => by cases hd.symm.trans ht }

theorem Holding.of_done (h : Holding interval now f now held []) (inner : Body) (trailers : Option Headers) :
    Holding interval now { f with inner, trailers, done := true } now held [] :=
  { h with inner := fun hf => (by cases hf), done := fun _ => ⟨rfl, rfl⟩ }

theorem bytesOf_held (h : f.buffer = bytesOf held) :
    (f.gather now bytes).buffer = bytesOf (held ++ [⟨now, bytes⟩]) := by
  rw [Body.bytesOf_append, ← h]
  exact congrArg (f.buffer ++ ·) ByteArray.append_empty.symm

/-- The first byte sets the deadline, and the others leave it. -/
theorem Holding.deadline_gather (h : Holding interval finish f now held coming) {first : Arrival} {after : List Arrival}
    (hc : held ++ [⟨now, bytes⟩] = first :: after) : Armed interval (f.gather now bytes).deadline now first := by
  cases held with
  | nil =>
    obtain ⟨rfl, rfl⟩ := List.cons.inj hc
    have hb : f.buffer = .empty := h.buffer_eq
    exact ⟨⟨false, by simp [gather, isEmpty_iff, hb, h.interval_eq], fun _ => rfl⟩, Nat.le_add_right now interval⟩
  | cons a held =>
    obtain ⟨rfl, rfl⟩ := List.cons.inj hc
    have hb : f.buffer ≠ .empty := fun hb => by cases h.nonempty hb
    have hsame : (f.gather now bytes).deadline = f.deadline := by simp [gather, isEmpty_iff, hb]
    rw [hsame]
    exact (h.armed a held rfl).1

theorem Holding.times_gather (h : Holding interval finish f now held coming) {first : Arrival} {after : List Arrival}
    (hc : held ++ [⟨now, bytes⟩] = first :: after) : ∀ a ∈ after, first.time ≤ a.time := by
  cases held with
  | nil =>
    obtain ⟨rfl, rfl⟩ := List.cons.inj hc
    exact fun _ ha => by cases ha
  | cons a held =>
    obtain ⟨rfl, rfl⟩ := List.cons.inj hc
    intro b hb
    rcases List.mem_append.mp hb with hb | hb
    · exact (h.armed a held rfl).2 b hb
    · rw [List.mem_singleton.mp hb]
      exact h.past a List.mem_cons_self

theorem Holding.past_gather (h : Holding interval finish f now held coming) :
    ∀ a ∈ held ++ [⟨now, bytes⟩], a.time ≤ now := by
  intro a ha
  rcases List.mem_append.mp ha with ha | ha
  · exact h.past a ha
  · obtain rfl := List.mem_singleton.mp ha
    exact Nat.le_refl now

theorem Armed.of_isOverdue {first : Arrival} (h : Armed interval f.deadline now first) (ho : f.isOverdue now = true) :
    now = first.time + interval := by
  obtain ⟨⟨watched, hdue, -⟩, hin⟩ := h
  simp only [isOverdue, hdue, Option.any_some, Bool.and_eq_true, decide_eq_true_eq] at ho
  exact Nat.le_antisymm hin ho.2

/-- Gathered bytes that do not fill the buffer, and whose deadline has not passed, are held back with the others. -/
theorem Holding.gather (h : Holding interval finish f now held rest) (hb : bytes.isEmpty = false)
    (hg : ¬ (fullSize ≤ (f.gather now bytes).buffer.size ∨ (f.gather now bytes).isOverdue now = true)) :
    Holding interval finish (f.gather now bytes) now (held ++ [⟨now, bytes⟩]) rest where
  interval_eq := h.interval_eq
  inner := h.inner
  done := h.done
  buffer_eq := bytesOf_held h.buffer_eq
  small := Nat.lt_of_not_le fun hfull => hg (Or.inl hfull)
  nonempty he := absurd he (buffer_gather_ne fun hnil => by simp [hnil, ByteArray.isEmpty] at hb)
  past := h.past_gather
  armed _ _ hc := ⟨h.deadline_gather hc, h.times_gather hc⟩
  unarmed hnil := absurd hnil (by simp)

/-- Otherwise they are given out with the others. -/
theorem Holding.answers_gather (h : Holding interval finish f now held rest)
    (hg : fullSize ≤ (f.gather now bytes).buffer.size ∨ (f.gather now bytes).isOverdue now = true) :
    Answers interval finish now (held ++ ⟨now, bytes⟩ :: rest) (f.gather now bytes).flush := by
  have hne : held ++ [⟨now, bytes⟩] ≠ [] := by simp
  obtain ⟨first, after, hc⟩ := List.exists_cons_of_ne_nil hne
  have harmed := h.deadline_gather hc
  rw [List.append_cons]
  refine .data ⟨bytesOf_held h.buffer_eq, hne, fun a ha => ⟨h.past_gather a ha, ?_⟩, fun hfew => Or.inr ?_, fun _ => ?_⟩
    (holding_flush ⟨h.interval_eq, h.inner, h.done⟩)
  · rcases List.mem_append.mp ha with ha | ha
    · exact (h.prompt a ha).2
    · rw [List.mem_singleton.mp ha]
      exact Nat.le_add_right now interval
  · rcases hg with hfull | hover
    · exact absurd hfew (Nat.not_lt_of_le hfull)
    · exact ⟨first, after, hc, harmed.of_isOverdue hover⟩
  · exact ⟨held, ⟨now, bytes⟩, rfl, rfl, h.buffer_eq ▸ h.small⟩

theorem Holding.honours {part : Poll} (h : Holding interval finish f now held coming) (hd : f.done = false)
    (hp : f.inner.poll now = (part, inner)) : Body.Honours now coming finish (part, inner) :=
  hp ▸ Body.honours_poll (h.inner hd)

/-- The induction is on what the inner body has left: each of its parts joins what is held back, until one answers. So all
    that is held back or still to come stays the same. -/
theorem answers_pollGathering {all : List Arrival}
    (h : ∃ held coming, all = held ++ coming ∧ Holding interval finish f now held coming) :
    Answers interval finish now all (pollGathering now f) := by
  fun_induction pollGathering now f with
  | case1 f hd =>
    obtain ⟨held, coming, rfl, h⟩ := h
    exact h.answers_drain hd
  | case2 f hd bytes inner hp hb ih =>
    obtain ⟨held, coming, rfl, h⟩ := h
    have hd : f.done = false := by simpa using hd
    cases h.honours hd hp with
    | empty _ hinner => exact ih ⟨held, coming, rfl, h.of_inner hd hinner⟩
    | data hne _ => cases hne.symm.trans hb
  | case3 f hd bytes inner hp hb g hg =>
    obtain ⟨held, coming, rfl, h⟩ := h
    have hd : f.done = false := by simpa using hd
    cases h.honours hd hp with
    | empty hnil _ => exact absurd hnil hb
    | data _ hinner => exact (h.of_inner hd hinner).answers_gather hg
  | case4 f hd bytes inner hp hb g hg ih =>
    obtain ⟨held, coming, rfl, h⟩ := h
    have hd : f.done = false := by simpa using hd
    cases h.honours hd hp with
    | empty hnil _ => exact absurd hnil hb
    | data hne hinner => exact ih ⟨_, _, List.append_cons _ _ _, (h.of_inner hd hinner).gather hne hg⟩
  | case5 f hd headers inner hp =>
    obtain ⟨held, coming, rfl, h⟩ := h
    cases h.honours (by simpa using hd) hp
    exact (h.of_done inner (some headers)).answers_drain rfl
  | case6 f hd reason inner hp =>
    obtain ⟨held, coming, rfl, h⟩ := h
    cases h.honours (by simpa using hd) hp
  | case7 f hd inner hp =>
    obtain ⟨held, coming, rfl, h⟩ := h
    cases h.honours (by simpa using hd) hp
    exact (h.of_done inner f.trailers).answers_drain rfl
  | case8 f hd inner hp =>
    obtain ⟨held, coming, rfl, h⟩ := h
    have hd : f.done = false := by simpa using hd
    cases h.honours hd hp with
    | pending hbusy hlt hlater => exact (h.of_inner hd (hlater now (Nat.le_of_lt hlt))).answers_idle hd hbusy hlt

theorem answers_poll (hi : 0 < interval) (h : Holding interval finish f now held coming) :
    Answers interval finish now (held ++ coming) (f.poll now) := by
  rw [poll_gathering (h.interval_eq ▸ hi)]
  exact answers_pollGathering ⟨held, coming, rfl, h⟩

end Gateway.Http.Flushing
