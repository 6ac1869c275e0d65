import Gateway.Proofs.Http.Flushing.Progress
import Gateway.Proofs.Http.Flushing.Timing

/-! A reader who asks whenever there may be something gets all bytes on time. It waits for no more moments than there are
    events left, and one for the deadline; and every part of data takes at least one arrival away. -/

namespace Gateway.Http.Flushing

open Body (Arrival arrivals bytesOf)

/-- The inner body is in a wait, and the deadline has not passed. -/
def Blocked (f : Flushing) (now : Nat) : Prop := f.inner.IsBusy now ∧ ∀ d, f.deadline = some d → now < d.due

/-- What a reader gets of some arrivals: all of them, batch by batch and in their order, then perhaps trailers, and the end. -/
inductive Punctual (interval finish : Nat) : List Arrival → List Reading → Prop
  | data {batch coming bytes reading readings} : reading.part = .data bytes →
      OnTime interval finish batch reading.time bytes → Punctual interval finish coming readings →
      Punctual interval finish (batch ++ coming) (reading :: readings)
  | trailers {headers last reading} : reading.part = .trailers headers → reading.time = finish → last.part = .ended →
      last.time = finish → Punctual interval finish [] [reading, last]
  | ended {last} : last.part = .ended → last.time = finish → Punctual interval finish [] [last]

variable {interval finish now later : Nat} {f : Flushing} {held coming : List Arrival}

theorem idle_pending (h : (f.idle now).1 = .pending) :
    (f.idle now).2.inner = f.inner ∧ ∀ d, f.deadline = some d → now < d.due := by
  unfold idle at h ⊢
  split
  · rename_i hnone
    exact ⟨rfl, fun d hd => by cases hnone.symm.trans hd⟩
  · rename_i d hd
    by_cases hover : d.due ≤ now
    · simp [hd, hover, flush] at h
    · rw [if_neg hover]
      exact ⟨rfl, fun d' hd' => by cases hd.symm.trans hd'; exact Nat.lt_of_not_le hover⟩

theorem length_pollGathering_le (now : Nat) (f : Flushing) (hi : 0 < f.interval) :
    (pollGathering now f).2.inner.events.length ≤ f.inner.events.length := by
  obtain ⟨taken, ht⟩ := @exists_takes_pollGathering f now hi
  rw [ht.events, List.length_append]
  exact Nat.le_add_left _ _

/-- Whoever has to wait was blocked, or has come upon a wait. -/
theorem pending_pollGathering (hi : 0 < f.interval) (h : (pollGathering now f).1 = .pending) :
    f.Blocked now ∨ (pollGathering now f).2.inner.events.length < f.inner.events.length := by
  fun_induction pollGathering now f with
  | case1 f hd => exact absurd h drain_ne_pending
  | case2 f hd bytes inner hp hb ih =>
    have hpart := Body.length_of_poll hp (by simp) (by simp)
    exact Or.inr (Nat.lt_of_le_of_lt (length_pollGathering_le now { f with inner } hi) hpart)
  | case3 f hd bytes inner hp hb g hg => cases h
  | case4 f hd bytes inner hp hb g hg ih =>
    have hpart := Body.length_of_poll hp (by simp) (by simp)
    exact Or.inr (Nat.lt_of_le_of_lt (length_pollGathering_le now g hi) hpart)
  | case5 f hd headers inner hp => exact absurd h drain_ne_pending
  | case6 f hd reason inner hp => cases h
  | case7 f hd inner hp => exact absurd h drain_ne_pending
  | case8 f hd inner hp =>
    obtain ⟨hinner, hdue⟩ := idle_pending h
    rw [hinner]
    rcases waits_inner hp with ⟨hbusy, rfl⟩ | hlt
    · exact Or.inl ⟨hbusy, hdue⟩
    · exact Or.inr hlt

theorem pending_poll (hi : 0 < f.interval) {g : Flushing} (hp : f.poll now = (.pending, g)) :
    g.inner.events.length ≤ f.inner.events.length ∧
      (f.Blocked now ∨ g.inner.events.length < f.inner.events.length) := by
  rw [poll_gathering hi] at hp
  have hle := length_pollGathering_le now f hi
  have hwaits := pending_pollGathering hi (congrArg Prod.fst hp)
  rw [hp] at hle hwaits
  exact ⟨hle, hwaits⟩

theorem not_blocked_wake (h : f.wake = some later) : ¬ f.Blocked later := by
  rintro ⟨hbusy, hdue⟩
  obtain ⟨time, hu, hlt⟩ := (Option.any_eq_true _ _).mp hbusy
  have hlt : later < time := of_decide_eq_true hlt
  rw [wake_eq hu] at h
  cases hd : f.deadline with
  | none =>
    rw [hd] at h
    cases h
    exact Nat.lt_irrefl _ hlt
  | some d =>
    rw [hd] at h
    have hmin : min time d.due = later := Option.some.inj h
    have := hdue d hd
    omega

/-- The induction is on the events that are left: a body that has been woken is not blocked, so it gives an answer or comes
    upon another wait. -/
theorem exists_await (hi : 0 < interval) (h : Holding interval finish f now held coming) {fuel : Nat}
    (hl : f.inner.events.length ≤ fuel) (hb : f.Blocked now → f.inner.events.length < fuel) :
    ∃ time answer, await fuel now f = (time, answer) ∧ Answers interval finish time (held ++ coming) answer ∧
      answer.1 ≠ .pending := by
  induction fuel generalizing f now held coming with
  | zero =>
    refine ⟨now, f.poll now, rfl, answers_poll hi h, fun hp => ?_⟩
    rcases (pending_poll (h.interval_eq ▸ hi) (Prod.ext hp rfl)).2 with hblocked | hlt
    · exact Nat.not_lt_zero _ (hb hblocked)
    · exact Nat.not_lt_zero _ (Nat.lt_of_lt_of_le hlt hl)
  | succ fuel ih =>
    have hanswer := answers_poll hi h
    rw [await]
    cases hp : f.poll now with
    | mk part g =>
      rw [hp] at hanswer
      generalize held ++ coming = all at hanswer ⊢
      cases hanswer with
      | data hon hg => exact ⟨now, _, rfl, .data hon hg, by simp⟩
      | trailers hnow hinterval hs => exact ⟨now, _, rfl, .trailers hnow hinterval hs, by simp⟩
      | ended hnow => exact ⟨now, _, rfl, .ended hnow, by simp⟩
      | pending hwake hlt hg =>
        obtain ⟨hle, hwaits⟩ := pending_poll (h.interval_eq ▸ hi) hp
        have hless : g.inner.events.length ≤ fuel := by
          rcases hwaits with hblocked | hless
          · exact Nat.le_of_lt_succ (Nat.lt_of_le_of_lt hle (hb hblocked))
          · exact Nat.le_of_lt_succ (Nat.lt_of_lt_of_le hless hl)
        simp only [hwake, Option.getD_some]
        exact ih hg hless fun hblocked => absurd hblocked (not_blocked_wake hwake)

theorem readings_spent {limit : Nat} (hi : 0 < f.interval) (hs : f.Spent) (hl : 0 < limit) :
    ∃ last, readings limit now f = [last] ∧ last.part = .ended ∧ last.time = now := by
  obtain ⟨limit, rfl⟩ := Nat.exists_eq_add_of_lt hl
  refine ⟨⟨f.saysEnd, f.hint, now, .ended⟩, ?_, rfl, rfl⟩
  simp only [readings, await, poll_spent hs hi]

theorem punctual_of_holding (hi : 0 < interval) (h : Holding interval finish f now [] coming) {limit : Nat}
    (hl : coming.length + 2 ≤ limit) : Punctual interval finish coming (readings limit now f) := by
  induction limit generalizing f now coming with
  | zero => omega
  | succ limit ih =>
    obtain ⟨time, ⟨part, g⟩, hawait, hanswer, hpending⟩ :=
      exists_await hi h (Nat.le_add_right _ 2) fun _ => Nat.lt_add_of_pos_right (by decide)
    rw [List.nil_append] at hanswer
    simp only [readings, hawait]
    cases hanswer with
    | @data batch rest bytes _ hon hg =>
      have hne : 0 < batch.length := List.length_pos_iff.mpr hon.nonempty
      rw [List.length_append] at hl
      exact .data rfl hon (ih hg (by omega))
    | trailers hnow hinterval hs =>
      obtain ⟨last, hlast, hend, htime⟩ := readings_spent (hinterval ▸ hi) hs (show 0 < limit by omega)
      rw [hlast]
      exact .trailers rfl hnow hend (htime.trans hnow)
    | ended hnow => exact .ended rfl hnow
    | pending => exact absurd rfl hpending

theorem holding_start (interval start : Nat) (sized : Bool) {events : List Event} (ht : Body.TrailersLast events)
    (hf : Body.failuresOf events = []) : Holding interval (Body.finish start events)
      { interval, inner := { events, sized } } start [] (arrivals start events) where
  interval_eq := rfl
  inner _ := Body.promises_start start rfl ht hf
  done hd := by cases hd
  buffer_eq := rfl
  small := (by decide : 0 < fullSize)
  nonempty _ := rfl
  past _ ha := by cases ha
  armed _ _ hc := by cases hc
  unarmed _ := rfl

/-- **No byte waits longer than the interval, and none is given out apart without need.** Take any positive interval and any
    events with trailers last, if there are any, that do not fail, with waits anywhere. All of the data arrives, and a reader
    who asks whenever there may be something gets it in batches that are on time, and comes to the end. -/
theorem punctual_readings {interval : Nat} (hi : 0 < interval) {events : List Event} (ht : Body.TrailersLast events)
    (hf : Body.failuresOf events = []) (sized : Bool) (start : Nat) {limit : Nat} (hl : events.length + 2 ≤ limit) :
    bytesOf (arrivals start events) = Body.dataOf events ∧
      Punctual interval (Body.finish start events) (arrivals start events)
        (readings limit start { interval, inner := { events, sized } }) := by
  refine ⟨Body.bytesOf_arrivals start events, punctual_of_holding hi (holding_start interval start sized ht hf) ?_⟩
  exact Nat.le_trans (Nat.add_le_add_right (Body.length_arrivals_le start events) 2) hl

/-- Bytes, others when the interval of the first is over, an empty part, others long after that, and trailers. -/
theorem punctual_readings_tie :
    let events : List Event := [.data "ab".toUTF8, .wait 50, .data "c".toUTF8, .data .empty, .wait 80, .data "d".toUTF8,
      .trailers ⟨[⟨"grpc-status", "0".toUTF8⟩]⟩]
    0 < 50 ∧ Body.TrailersLast events ∧ Body.failuresOf events = [] ∧ events.length + 2 ≤ 9 ∧
      Body.finish 0 events = 130 ∧ arrivals 0 events = [⟨0, "ab".toUTF8⟩, ⟨50, "c".toUTF8⟩, ⟨130, "d".toUTF8⟩] ∧
      Punctual 50 (Body.finish 0 events) (arrivals 0 events)
        (readings 9 0 { interval := 50, inner := { events, sized := false } }) := by
  intro events
  have ht : Body.TrailersLast events := Body.onlyWaits_nil
  have hf : Body.failuresOf events = [] := rfl
  have harrivals : arrivals 0 events = [⟨0, "ab".toUTF8⟩, ⟨50, "c".toUTF8⟩, ⟨130, "d".toUTF8⟩] := rfl
  have hpunctual := (punctual_readings (by decide : 0 < 50) ht hf false 0 (Nat.le_refl 9)).2
  exact ⟨by decide, ht, hf, Nat.le_refl 9, rfl, harrivals, hpunctual⟩

end Gateway.Http.Flushing
