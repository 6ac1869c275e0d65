import Gateway.Proofs.Http.Flushing.Progress

/-! What a flushing body says of what is left. The bytes that it holds and those that the inner body has left are given out, and
    no others; so bounds of the one are bounds of the other with the held bytes added, as long as the sums are words. Only data
    behind trailers is never given out, for trailers are taken for the end. -/

namespace Gateway.Http

namespace Body

/-! ### Bounds -/

/-- A number is within the bounds. -/
def Hint.Admits (h : Hint) (n : Nat) : Prop := h.lower ≤ n ∧ ∀ upper, h.upper = some upper → n ≤ upper

/-- The bounds with `n` added are words. -/
structure Hint.Fits (h : Hint) (n : Nat) : Prop where
  lower : h.lower + n < UInt64.size
  upper : ∀ upper, h.upper = some upper → upper + n < UInt64.size

/-- The bounds of a number that is known. -/
def Hint.exactly (n : Nat) : Hint := ⟨n, some n⟩

theorem left_eq (b : Body) : b.left = (dataOf b.events).size := by
  rw [left]
  induction b.events with
  | nil => rfl
  | cons e events ih =>
    rw [List.foldr_cons, ih]
    cases e with
    | data bytes => exact ByteArray.size_append.symm
    | trailers headers => exact Nat.zero_add _
    | failure reason => exact Nat.zero_add _
    | wait time => exact Nat.zero_add _

/-- What a body says of its own is true. -/
theorem admits_hint (b : Body) : b.hint.Admits b.left := by
  unfold hint
  split
  · exact ⟨Nat.le_refl _, fun upper h => Nat.le_of_eq (Option.some.inj h)⟩
  · exact ⟨Nat.zero_le _, nofun⟩

theorem poll_of_saysEnd {b : Body} (h : b.saysEnd = true) (now : Nat) : (b.poll now).1 = .ended := by
  simp only [saysEnd, Bool.and_eq_true, List.isEmpty_iff, Option.isNone_iff_eq_none] at h
  obtain ⟨⟨-, hevents⟩, hbusy⟩ := h
  simp [poll, hbusy, hevents, pollEvents]

/-! ### Data behind trailers -/

/-- No data stands behind trailers. -/
def DataFirst (events : List Event) : Prop :=
  ∀ before headers behind, events = before ++ .trailers headers :: behind → dataOf behind = .empty

theorem dataFirst_append {xs ys : List Event} (h : DataFirst (xs ++ ys)) : DataFirst ys := by
  rintro before headers behind rfl
  exact h (xs ++ before) headers behind (List.append_assoc _ _ _).symm

theorem dataFirst_poll {now : Nat} {b c : Body} {p : Poll} (h : DataFirst b.events) (hp : b.poll now = (p, c)) :
    DataFirst c.events := by
  obtain ⟨waits, -, heq⟩ := exists_waits_poll hp
  exact dataFirst_append (heq ▸ h)

theorem dataOf_behind_trailers {now : Nat} {b c : Body} {headers : Headers} (h : DataFirst b.events)
    (hp : b.poll now = (.trailers headers, c)) : dataOf c.events = .empty := by
  obtain ⟨waits, -, heq⟩ := exists_waits_poll hp
  exact h waits headers c.events (heq.trans (List.append_assoc _ _ _))

end Body

namespace Flushing

/-- The bytes that are held and those that the inner body has left. -/
def stored (f : Flushing) : Nat := f.buffer.size + f.inner.left

/-- Where trailers may have come, no data is behind them. -/
structure Tidy (f : Flushing) : Prop where
  coming : Body.DataFirst f.inner.events
  done : f.done = true → Body.dataOf f.inner.events = .empty

variable {f g : Flushing} {clock : Nat → Nat} {now : Nat} {inner : Body} {part : Poll}

/-! ### What is stored is given out -/

theorem stored_takes {answer : Poll × Flushing} {taken : List Event} (h : Takes f answer taken) :
    f.stored = (Body.dataOf answer.1.event?.toList).size + answer.2.stored := by
  have hdata := congrArg ByteArray.size h.data
  simp only [ByteArray.size_append] at hdata
  rw [stored, stored, Body.left_eq, Body.left_eq, h.events, Body.dataOf_append, ByteArray.size_append]
  omega

/-- The law of a run: what was stored has been given out or is still stored. -/
theorem stored_after (clock : Nat → Nat) (h : f.interval = 0 → f.buffer = .empty) (n : Nat) :
    f.stored = (Body.dataOf (parts f clock n)).size + (after f clock n).stored ∧
      ((after f clock n).interval = 0 → (after f clock n).buffer = .empty) := by
  induction n with
  | zero => exact ⟨(Nat.zero_add _).symm, h⟩
  | succ n ih =>
    obtain ⟨hlaw, hpassing⟩ := ih
    obtain ⟨taken, ht⟩ := exists_takes_poll (clock n) hpassing
    refine ⟨?_, fun h0 => ?_⟩
    · rw [hlaw, stored_takes ht, parts_succ, Body.dataOf_append, ByteArray.size_append, Nat.add_assoc]
      rfl
    · have hi : (after f clock n).interval = 0 := interval_poll.symm.trans h0
      exact (ht.passing hi).trans (hpassing hi)

/-! ### At the end nothing is stored -/

theorem tidy_drain (h : f.Tidy) : f.drain.2.Tidy := by
  unfold drain
  repeat' split
  all_goals exact ⟨h.coming, h.done⟩

theorem tidy_idle (h : f.Tidy) : (f.idle now).2.Tidy := by
  unfold idle
  repeat' split
  all_goals exact ⟨h.coming, h.done⟩

/-- A part that leaves the inner body open. -/
theorem tidy_inner (h : f.Tidy) (hd : f.done = false) (hp : f.inner.poll now = (part, inner)) : Tidy { f with inner } where
  coming := Body.dataFirst_poll h.coming hp
  done ht := by cases hd.symm.trans ht

theorem tidy_pollGathering (h : f.Tidy) : (pollGathering now f).2.Tidy := by
  fun_induction pollGathering now f with
  | case1 f hd => exact tidy_drain h
  | case2 f hd bytes inner hp hb ih => exact ih (tidy_inner h (by simpa using hd) hp)
  | case3 f hd bytes inner hp hb g hg =>
    have hinner := tidy_inner h (by simpa using hd) hp
    exact ⟨hinner.coming, hinner.done⟩
  | case4 f hd bytes inner hp hb g hg ih =>
    have hinner := tidy_inner h (by simpa using hd) hp
    exact ih ⟨hinner.coming, hinner.done⟩
  | case5 f hd headers inner hp =>
    exact tidy_drain ⟨Body.dataFirst_poll h.coming hp, fun _ => Body.dataOf_behind_trailers h.coming hp⟩
  | case6 f hd reason inner hp => exact tidy_inner h (by simpa using hd) hp
  | case7 f hd inner hp =>
    have hempty : Body.dataOf inner.events = .empty := by rw [Body.poll_ended hp]; rfl
    exact tidy_drain ⟨Body.dataFirst_poll h.coming hp, fun _ => hempty⟩
  | case8 f hd inner hp => exact tidy_idle (tidy_inner h (by simpa using hd) hp)

theorem tidy_after (hi : 0 < f.interval) (h : f.Tidy) (n : Nat) : (after f clock n).Tidy := by
  induction n with
  | zero => exact h
  | succ n ih =>
    rw [after, poll_gathering ((interval_after n).symm ▸ hi)]
    exact tidy_pollGathering ih

theorem ended_drain (h : f.drain.1 = .ended) : f.drain.2 = f ∧ f.buffer = .empty ∧ f.trailers = none := by
  unfold drain at h ⊢
  split at h
  · cases h
  · rename_i hb
    rw [if_neg hb]
    cases ht : f.trailers with
    | some headers => simp [ht] at h
    | none => exact ⟨rfl, isEmpty_iff.mp (by simpa using hb), rfl⟩

theorem ended_pollGathering (h : (pollGathering now f).1 = .ended) :
    (pollGathering now f).2.done = true ∧ (pollGathering now f).2.buffer = .empty := by
  have hdrain {g : Flushing} (hd : g.done = true) (hg : g.drain.1 = .ended) :
      g.drain.2.done = true ∧ g.drain.2.buffer = .empty := by
    obtain ⟨hsame, hb, -⟩ := ended_drain hg
    rw [hsame]
    exact ⟨hd, hb⟩
  fun_induction pollGathering now f with
  | case1 f hd => exact hdrain hd h
  | case2 f hd bytes inner hp hb ih => exact ih h
  | case3 f hd bytes inner hp hb g hg => cases h
  | case4 f hd bytes inner hp hb g hg ih => exact ih h
  | case5 f hd headers inner hp => exact hdrain rfl h
  | case6 f hd reason inner hp => cases h
  | case7 f hd inner hp => exact hdrain rfl h
  | case8 f hd inner hp =>
    unfold idle at h
    split at h
    · cases h
    · split at h <;> cases h

theorem stored_ended (hb : f.interval = 0 → f.buffer = .empty) (h : 0 < f.interval → f.Tidy)
    (hp : (f.poll now).1 = .ended) : (f.poll now).2.stored = 0 := by
  rw [stored, Body.left_eq]
  rcases Nat.eq_zero_or_pos f.interval with hi | hi
  · rw [poll_passing hi] at hp ⊢
    have hevents : (f.inner.poll now).2.events = [] := Body.poll_ended (Prod.ext hp rfl)
    simp [hb hi, hevents, Body.dataOf]
  · rw [poll_gathering hi] at hp ⊢
    obtain ⟨hdone, hbuffer⟩ := ended_pollGathering hp
    rw [hbuffer, (tidy_pollGathering (h hi)).done hdone]
    rfl

/-- At the end a reader has all that was stored. -/
theorem given_of_ended (hb : f.interval = 0 → f.buffer = .empty) (h : 0 < f.interval → f.Tidy) {m : Nat}
    (hg : given f clock m = .ended) : (Body.dataOf (parts f clock m)).size = f.stored := by
  -- The law at the moment behind the end: the end itself gives out nothing, and behind it nothing is stored.
  obtain ⟨hlaw, -⟩ := stored_after clock hb (m + 1)
  have hparts : parts f clock (m + 1) = parts f clock m := by
    rw [parts_succ, hg]
    exact List.append_nil _
  have hend : (after f clock (m + 1)).stored = 0 :=
    stored_ended (stored_after clock hb m).2 (fun hi => tidy_after (interval_after m ▸ hi) (h (interval_after m ▸ hi)) m) hg
  rw [hlaw, hparts, hend, Nat.add_zero]

theorem drain_nothing (hb : f.buffer = .empty) (ht : f.trailers = none) : f.drain = (.ended, f) := by
  rw [drain, if_neg (by simp [isEmpty_iff, hb]), ht]

theorem pollGathering_ended (hd : f.done = false) (hp : f.inner.poll now = (.ended, inner)) :
    pollGathering now f = drain { f with inner, done := true } := by
  rw [pollGathering, if_neg (by simp [hd])]
  split <;> simp_all

/-- Who hears that nothing comes any more is given the end next, if the inner body may be believed. -/
theorem poll_of_saysEndWith {ends : Bool} (hends : ends = true → (f.inner.poll now).1 = .ended)
    (h : f.saysEndWith ends = true) : (f.poll now).1 = .ended := by
  rcases Nat.eq_zero_or_pos f.interval with hi | hi
  · rw [saysEndWith, if_pos hi] at h
    rw [poll_passing hi]
    exact hends h
  · rw [saysEndWith, if_neg (Nat.ne_of_gt hi)] at h
    simp only [Bool.and_eq_true, Bool.or_eq_true, isEmpty_iff, Option.isNone_iff_eq_none] at h
    obtain ⟨⟨hb, ht⟩, hend⟩ := h
    rw [poll_gathering hi]
    cases hd : f.done with
    | true => rw [pollGathering, if_pos hd, drain_nothing hb ht]
    | false =>
      have hinner : (f.inner.poll now).1 = .ended := hends (hend.resolve_left (by simp [hd]))
      let g : Flushing := { f with inner := (f.inner.poll now).2, done := true }
      have hnothing : g.drain = (.ended, g) := drain_nothing hb ht
      rw [pollGathering_ended hd (Prod.ext hinner rfl), hnothing]

/-! ### Truth -/

/-- What a body says of what is left is true, whatever the inner body says of its own, if that is true. -/
structure Truthful (interval : Nat) (inner : Body) (f : Flushing) : Prop where
  /-- As long as the sums are words there is an answer. However long a reader asks, it gets no more data than the upper bound
  says, and what it has got at the end is within the bounds. -/
  bounds : ∀ h : Body.Hint, h.Admits f.inner.left → h.Fits f.buffer.size → ∃ told, f.hintWith h = some told ∧
    (∀ upper, told.upper = some upper → ∀ clock m, (Body.dataOf (parts f clock m)).size ≤ upper) ∧
    ((0 < interval → Body.DataFirst inner.events) → ∀ clock m, given f clock m = .ended →
      told.Admits (Body.dataOf (parts f clock m)).size)
  /-- If the inner body knows what it has left, this is known. -/
  exact : (0 < interval → Body.DataFirst inner.events) → inner.left < UInt64.size → ∀ clock m, given f clock m = .ended →
    f.hintWith (.exactly f.inner.left) = some (.exactly (Body.dataOf (parts f clock m)).size)
  /-- The sum is a word if the whole length was. -/
  fits : inner.left < UInt64.size → f.inner.left + f.buffer.size < UInt64.size
  /-- Behind the word that nothing comes any more stands the end. -/
  ends : ∀ ends now, (ends = true → (f.inner.poll now).1 = .ended) → f.saysEndWith ends = true →
    (f.poll now).1 = .ended
  /-- The end comes if the clock goes on. -/
  finishes : ∀ clock, GoesOn clock → ∃ m, given f clock m = .ended
  /-- The words of the inner body here are true. -/
  inner : f.inner.hint.Admits f.inner.left ∧ ∀ now, f.inner.saysEnd = true → (f.inner.poll now).1 = .ended

theorem stored_eq : f.stored = f.inner.left + f.buffer.size := Nat.add_comm _ _

/-- Sums that are words are the sums. -/
theorem hintWith_of_fits {h : Body.Hint} {n : Nat} (hinner : h.Admits n) (hfits : h.Fits f.buffer.size) :
    f.hintWith h = some ⟨h.lower + f.buffer.size, h.upper.map (· + f.buffer.size)⟩ := by
  obtain ⟨lower, upper⟩ := h
  have hlower : (lower + f.buffer.size) % UInt64.size = lower + f.buffer.size := Nat.mod_eq_of_lt hfits.lower
  rw [hintWith, hlower]
  cases upper with
  | none => rfl
  | some upper =>
    have hle : lower ≤ upper := Nat.le_trans hinner.1 (hinner.2 upper rfl)
    dsimp only
    rw [Nat.mod_eq_of_lt (hfits.upper upper rfl), if_neg (Nat.not_lt_of_le (Nat.add_le_add_right hle _))]
    rfl

theorem exists_hintWith {h : Body.Hint} (hinner : h.Admits f.inner.left) (hfits : h.Fits f.buffer.size) :
    ∃ told, f.hintWith h = some told ∧ told.Admits f.stored := by
  refine ⟨_, hintWith_of_fits hinner hfits, ?_, fun upper hupper => ?_⟩
  · exact stored_eq ▸ Nat.add_le_add_right hinner.1 _
  · obtain ⟨bound, hbound, rfl⟩ := Option.map_eq_some_iff.mp hupper
    exact stored_eq ▸ Nat.add_le_add_right (hinner.2 bound hbound) _

theorem hintWith_exactly (hfits : f.inner.left + f.buffer.size < UInt64.size) :
    f.hintWith (.exactly f.inner.left) = some (.exactly f.stored) := by
  have hinner : (Body.Hint.exactly f.inner.left).Admits f.inner.left :=
    ⟨Nat.le_refl _, fun upper h => Nat.le_of_eq (Option.some.inj h)⟩
  rw [hintWith_of_fits hinner ⟨hfits, fun upper h => Option.some.inj h ▸ hfits⟩, stored_eq]
  rfl

theorem size_parts_le (hb : f.interval = 0 → f.buffer = .empty) (m : Nat) :
    (Body.dataOf (parts f clock m)).size ≤ f.stored :=
  (stored_after clock hb m).1 ▸ Nat.le_add_right _ _

/-- **What a flushing body says of what is left is true.** Take any interval and any inner body, ask any number of questions
    at any moments, and look at what is said then: the upper bound and the end may be relied on, and so may the lower bound
    if no data stands behind trailers or there is no interval, whatever the moments are at which a reader goes on. -/
theorem truthful_after (interval : Nat) (inner : Body) (past : Nat → Nat) (n : Nat) :
    Truthful interval inner (after { interval, inner } past n) := by
  let start : Flushing := { interval, inner }
  obtain ⟨hlaw, hb⟩ := stored_after (f := start) past (fun _ => rfl) n
  have hinterval : (after start past n).interval = interval := interval_after n
  have htidy (h : 0 < interval → Body.DataFirst inner.events) :
      0 < (after start past n).interval → (after start past n).Tidy := by
    intro hi
    rw [hinterval] at hi
    exact tidy_after hi ⟨h hi, fun hd => by cases hd⟩ n
  have hfits (hlt : inner.left < UInt64.size) :
      (after start past n).inner.left + (after start past n).buffer.size < UInt64.size := by
    have hstart : start.stored = inner.left := Nat.zero_add _
    rw [← stored_eq]
    omega
  constructor
  case bounds =>
    intro h hinner hwords
    obtain ⟨told, htold, hadmits⟩ := exists_hintWith hinner hwords
    refine ⟨told, htold, fun upper hupper clock m => ?_, fun hfirst clock m hg => ?_⟩
    · exact Nat.le_trans (size_parts_le hb m) (hadmits.2 upper hupper)
    · rw [given_of_ended hb (htidy hfirst) hg]
      exact hadmits
  case exact =>
    intro hfirst hlt clock m hg
    rw [given_of_ended hb (htidy hfirst) hg]
    exact hintWith_exactly (hfits hlt)
  case fits => exact hfits
  case ends => exact fun ends now => poll_of_saysEndWith
  case finishes => exact fun clock hclock => exists_ended hclock
  case inner => exact ⟨Body.admits_hint _, fun now h => Body.poll_of_saysEnd h now⟩

/-- Data behind trailers is counted and never given out: what an inner body truly has left is not always given out. -/
theorem not_admits_behind_trailers :
    let f : Flushing := { interval := 200, inner := { events :=
      [.trailers ⟨[⟨"grpc-status", "0".toUTF8⟩]⟩, .data ⟨#[97, 98, 99]⟩] } }
    f.inner.hint.Admits f.inner.left ∧ f.hint = .exactly 3 ∧ given f (fun _ => 0) 1 = .ended ∧
      (Body.dataOf (parts f (fun _ => 0) 1)).size = 0 ∧ ¬ f.hint.Admits (Body.dataOf (parts f (fun _ => 0) 1)).size := by
  intro f
  let headers : Headers := ⟨[⟨"grpc-status", "0".toUTF8⟩]⟩
  let g : Flushing := { f with inner := { events := [.data ⟨#[97, 98, 99]⟩] }, done := true }
  have hempty : ByteArray.isEmpty .empty = true := rfl
  have hfirst : f.poll 0 = (.trailers headers, g) := by
    simp [poll, pollGathering, Body.poll, Body.pollEvents, drain, hempty, f, g, headers]
  have hsecond : g.poll 0 = (.ended, g) := poll_spent ⟨rfl, rfl, rfl⟩ (by decide)
  have hafter : after f (fun _ => 0) 1 = g := congrArg Prod.snd hfirst
  have hparts : parts f (fun _ => 0) 1 = [.trailers headers] := by
    rw [parts_succ, given, after, hfirst]
    rfl
  have hsize : (Body.dataOf (parts f (fun _ => 0) 1)).size = 0 := by rw [hparts]; rfl
  refine ⟨Body.admits_hint _, rfl, ?_, hsize, fun h => ?_⟩
  · rw [given, hafter, hsecond]
  · rw [hsize] at h
    exact absurd h.1 (by decide)

end Flushing
end Gateway.Http
