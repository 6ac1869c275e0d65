import Gateway.Proofs.Http.Flushing.Complete

/-! A failure overtakes what is held. It passes at once, in front of the bytes that have been gathered since data was given
    out last, so a reader who stops at it lacks just these; a reader of the inner body itself, or one without an interval,
    lacks none. -/

namespace Gateway.Http.Flushing

variable {f : Flushing} {clock : Nat → Nat} {m n : Nat} {reason : String}

/-- No data has been given out since a question, which is the first one or stands right behind data. -/
structure SilentSince (f : Flushing) (clock : Nat → Nat) (m n : Nat) : Prop where
  le : m ≤ n
  first : m = 0 ∨ ∃ k bytes, m = k + 1 ∧ given f clock k = .data bytes
  silent : ∀ i, m ≤ i → i < n → ∀ bytes, given f clock i ≠ .data bytes

theorem exists_silentSince (f : Flushing) (clock : Nat → Nat) (n : Nat) : ∃ m, SilentSince f clock m n := by
  induction n with
  | zero => exact ⟨0, Nat.le_refl 0, Or.inl rfl, fun i _ hi => absurd hi (Nat.not_lt_zero i)⟩
  | succ n ih =>
    by_cases hg : ∃ bytes, given f clock n = .data bytes
    · obtain ⟨bytes, hg⟩ := hg
      exact ⟨n + 1, Nat.le_refl _, Or.inr ⟨n, bytes, rfl, hg⟩, fun i hmi hi => absurd hi (Nat.not_lt_of_le hmi)⟩
    · obtain ⟨m, hle, hfirst, hsilent⟩ := ih
      refine ⟨m, Nat.le_succ_of_le hle, hfirst, fun i hmi hi bytes hd => ?_⟩
      rcases Nat.lt_succ_iff_lt_or_eq.mp hi with hi | rfl
      · exact hsilent i hmi hi bytes hd
      · exact hg ⟨bytes, hd⟩

theorem dataOf_event {p : Poll} (h : ∀ bytes, p ≠ .data bytes) : Body.dataOf p.event?.toList = .empty := by
  cases p with
  | data bytes => exact absurd rfl (h bytes)
  | _ => rfl

/-- Right behind data, and at the first question, nothing is held. -/
theorem buffer_first (hb : f.buffer = .empty) (hm : m = 0 ∨ ∃ k bytes, m = k + 1 ∧ given f clock k = .data bytes) :
    (after f clock m).buffer = .empty := by
  rcases hm with rfl | ⟨k, bytes, rfl, hg⟩
  · exact hb
  · obtain ⟨taken, ht⟩ := exists_takes_given clock hb k
    rcases Nat.eq_zero_or_pos (after f clock k).interval with h0 | hpos
    · exact (ht.passing h0).trans (buffer_after hb k h0)
    · exact ht.emptied hpos bytes hg

/-- What is taken while no data is given out is held. -/
theorem exists_taken_silent (hb : f.buffer = .empty) (hm : SilentSince f clock m n) :
    ∃ taken, (after f clock m).inner.events = taken ++ (after f clock n).inner.events ∧
      Body.dataOf taken = (after f clock n).buffer := by
  obtain ⟨hle, hfirst, hsilent⟩ := hm
  induction hle with
  | refl => exact ⟨[], rfl, (buffer_first hb hfirst).symm⟩
  | @step n hmn ih =>
    obtain ⟨taken, hevents, hdata⟩ := ih fun i hmi hi => hsilent i hmi (Nat.lt_succ_of_lt hi)
    obtain ⟨more, ht⟩ := exists_takes_given clock hb n
    refine ⟨taken ++ more, by rw [hevents, ht.events, List.append_assoc], ?_⟩
    rw [Body.dataOf_append, hdata, ht.data, dataOf_event (hsilent n hmn (Nat.lt_succ_self n)), ByteArray.empty_append]

/-- For a failure the inner body is read up to that failure, and the bytes in front of it are held. -/
theorem exists_taken_failure (hb : f.buffer = .empty) (hg : given f clock n = .failure reason) :
    ∃ before, (after f clock n).inner.events = before ++ .failure reason :: (after f clock (n + 1)).inner.events ∧
      (after f clock n).buffer ++ Body.dataOf before = (after f clock (n + 1)).buffer ∧ Body.failuresOf before = [] := by
  obtain ⟨taken, ht⟩ := exists_takes_given clock hb n
  obtain ⟨before, rfl⟩ := ht.failure reason hg
  refine ⟨before, ?_, ?_, ?_⟩
  · rw [ht.events, List.append_assoc]
    rfl
  · have hdata := ht.data
    rw [hg, Body.dataOf_append] at hdata
    exact (congrArg (_ ++ ·) ByteArray.append_empty.symm).trans (hdata.trans ByteArray.empty_append)
  · have hfailures := ht.failures
    rw [hg, Body.failuresOf_append] at hfailures
    exact List.append_left_eq_self.mp hfailures

/-- What a reader has and lacks when a failure comes. -/
structure Overtaken (f : Flushing) (clock : Nat → Nat) (n : Nat) (reason : String) (m : Nat) (before since : List Event) :
    Prop where
  /-- The inner body gave some events before this failure, and the reader has had the failures among them. -/
  taken : f.inner.events = before ++ .failure reason :: (after f clock (n + 1)).inner.events
  failures : Body.failuresOf before = Body.failuresOf (parts f clock n)
  /-- Some of them it gave since the reader was given data last. -/
  silent : SilentSince f clock m n
  lately : (after f clock m).inner.events = since ++ .failure reason :: (after f clock (n + 1)).inner.events
  /-- The reader has the bytes of the former, but for those of the latter. -/
  data : Body.dataOf before = Body.dataOf (parts f clock n) ++ Body.dataOf since
  complete : Body.dataOf (parts f clock n) = Body.dataOf before ↔ Body.dataOf since = .empty
  passing : f.interval = 0 → Body.dataOf since = .empty
  /-- If nothing has failed before, the reader has what a reader of the inner body has who stops there, or lacks these. -/
  first : Unbroken f clock n → f.inner.content.failure = some reason ∧
    ((received f clock n).data = f.inner.content.data ↔ Body.dataOf since = .empty)

theorem append_eq_left_iff {a b : ByteArray} : a = a ++ b ↔ b = .empty := by
  constructor
  · intro h
    exact (ByteArray.append_right_inj a).mp (h.symm.trans ByteArray.append_empty.symm)
  · intro h
    rw [h, ByteArray.append_empty]

/-- What a reader of the inner body has who stops at its first failure. -/
theorem content_behind {before rest : List Event} (h : f.inner.events = before ++ .failure reason :: rest)
    (hb : Body.failuresOf before = []) :
    f.inner.content.data = Body.dataOf before ∧ f.inner.content.failure = some reason := by
  obtain ⟨hdata, hfailure⟩ := Body.contentOf_of_failuresOf hb
  rw [Body.content, h, Body.contentOf_append, Body.Content.followedBy_of_none hfailure, hdata]
  exact ⟨ByteArray.append_empty, rfl⟩

theorem exists_overtaken (hb : f.buffer = .empty) (hg : given f clock n = .failure reason) :
    ∃ m before since, Overtaken f clock n reason m before since := by
  obtain ⟨m, hm⟩ := exists_silentSince f clock n
  obtain ⟨taken, htaken, hdata, hfailures⟩ := exists_taken_after clock hb n
  obtain ⟨silent, hsilent, hheld⟩ := exists_taken_silent hb hm
  obtain ⟨last, hlast, hbuffer, hnone⟩ := exists_taken_failure hb hg
  have hbefore : f.inner.events = (taken ++ last) ++ .failure reason :: (after f clock (n + 1)).inner.events := by
    rw [htaken, hlast, List.append_assoc]
  have hfail : Body.failuresOf (taken ++ last) = Body.failuresOf (parts f clock n) := by
    rw [Body.failuresOf_append, hfailures, hnone, List.append_nil]
  have hsince : Body.dataOf (silent ++ last) = (after f clock (n + 1)).buffer := by
    rw [Body.dataOf_append, hheld, hbuffer]
  have hall : Body.dataOf (taken ++ last) = Body.dataOf (parts f clock n) ++ Body.dataOf (silent ++ last) := by
    rw [Body.dataOf_append, hdata, ByteArray.append_assoc, hbuffer, hsince]
  refine ⟨m, taken ++ last, silent ++ last, hbefore, hfail, hm, ?_, hall, ?_, fun hi => ?_, fun hn => ?_⟩
  · rw [hsilent, hlast, List.append_assoc]
  · rw [hall]
    exact append_eq_left_iff
  · rw [hsince]
    exact buffer_after hb (n + 1) ((interval_after (n + 1)).trans hi)
  · have hparts := failuresOf_parts hn
    obtain ⟨hcontent, hfailure⟩ := content_behind hbefore (hfail.trans hparts)
    refine ⟨hfailure, ?_⟩
    rw [received, (Body.contentOf_of_failuresOf hparts).1, hcontent, hall]
    exact append_eq_left_iff

theorem quiet_ended (h : f.Sound) (hg : given f clock n = .ended) :
    Body.OnlyWaits (after f clock (n + 1)).inner.events := by
  rcases Nat.eq_zero_or_pos f.interval with h0 | hpos
  · have hi : (after f clock n).interval = 0 := (interval_after n).trans h0
    rw [given, poll_passing hi] at hg
    rw [after, poll_passing hi]
    exact Body.onlyWaits_poll_ended (Prod.ext hg rfl)
  · exact (sound_after h (n + 1)).quiet (spent_ended h hpos hg).done

/-- A reader comes upon every failure if the clock goes on. -/
theorem exists_all_failures (h : f.Sound) (hb : f.buffer = .empty) (hclock : GoesOn clock) :
    ∃ n, Body.failuresOf (parts f clock n) = Body.failuresOf f.inner.events := by
  obtain ⟨n, hend⟩ := exists_ended (f := f) hclock
  obtain ⟨taken, htaken, -, hfailures⟩ := exists_taken_after clock hb (n + 1)
  refine ⟨n + 1, ?_⟩
  rw [← hfailures, htaken, Body.failuresOf_append, Body.failuresOf_waits (quiet_ended h hend), List.append_nil]

/-- Bytes that do not fill the buffer are overtaken by a failure that stands right behind them. -/
theorem given_failure_behind_data (clock : Nat → Nat) (reason : String) {interval : Nat} (hi : 0 < interval)
    {bytes : ByteArray} (hb : bytes ≠ .empty) (hs : bytes.size < fullSize) :
    given { interval, inner := { events := [.data bytes, .failure reason] } } clock 0 = .failure reason := by
  rw [given, after, poll, if_neg (Nat.ne_of_gt hi)]
  simp [pollGathering, Body.poll, Body.pollEvents, gather, isOverdue, ByteArray.isEmpty, hb, Nat.not_le_of_lt hs]

/-- **A failure overtakes what is held, and nothing else is lost.** Take any interval and any inner body, and ask at any
    moments. When a failure comes the reader has the bytes that the inner body gave before it if, and only if, none of them
    came since data was given out last; otherwise those are what it lacks. Every failure comes. -/
theorem failure_overtakes (interval : Nat) (inner : Body) (clock : Nat → Nat) :
    (∀ n reason, given { interval, inner } clock n = .failure reason →
      ∃ m before since, Overtaken { interval, inner } clock n reason m before since) ∧
    (Body.TrailersLast inner.events → GoesOn clock →
      ∃ n, Body.failuresOf (parts { interval, inner } clock n) = Body.failuresOf inner.events) := by
  refine ⟨fun n reason hg => exists_overtaken rfl hg, fun h hclock => ?_⟩
  exact exists_all_failures (sound_start interval h) rfl hclock

/-- Three bytes and a failure right behind them. -/
theorem failure_overtakes_three :
    let f : Flushing := { interval := 200, inner := { events := [.data "abc".toUTF8, .failure "boom"] } }
    given f (fun _ => 0) 0 = .failure "boom" ∧ ∃ m before since, Overtaken f (fun _ => 0) 0 "boom" m before since := by
  intro f
  have hg : given f (fun _ => 0) 0 = .failure "boom" :=
    given_failure_behind_data _ _ (by decide) (by decide +kernel) (by decide +kernel)
  exact ⟨hg, (failure_overtakes 200 f.inner fun _ => 0).1 0 "boom" hg⟩

/-- So a reader who stops at the first failure need not have what a reader of the inner body has. -/
theorem not_received_before_failure :
    ¬ ∀ (interval : Nat) (inner : Body) (clock : Nat → Nat) (n : Nat) (reason : String),
      (∀ headers, Event.trailers headers ∉ inner.events) → Unbroken { interval, inner } clock n →
        given { interval, inner } clock n = .failure reason →
          (received { interval, inner } clock n).data = inner.content.data := by
  intro hall
  have hg := given_failure_behind_data (fun _ => 0) "boom" (show 0 < 200 by decide)
    (show "abc".toUTF8 ≠ .empty by decide +kernel) (by decide +kernel)
  have hdata := hall _ _ _ _ _ (by simp) unbroken_zero hg
  exact absurd hdata (by decide +kernel)

end Gateway.Http.Flushing
