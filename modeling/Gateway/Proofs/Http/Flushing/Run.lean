import Gateway.Proofs.Http.Flushing.Owed
import Gateway.Proofs.Http.Flushing.Taking

/-! A reader's run: question after question, each at the moment that a clock gives for it. What has been received and what
    is owed make up what was owed at first, as long as nothing has failed. The clock may stand still or go back; a reader
    comes to the end when it goes on. -/

namespace Gateway.Http.Flushing

/-- The body after so many questions. -/
def after (f : Flushing) (clock : Nat → Nat) : Nat → Flushing
  | 0 => f
  | n + 1 => ((after f clock n).poll (clock n)).2

/-- The answer to a question. -/
def given (f : Flushing) (clock : Nat → Nat) (n : Nat) : Poll := ((after f clock n).poll (clock n)).1

/-- The parts that a reader has after so many questions, and the failures. -/
def parts (f : Flushing) (clock : Nat → Nat) (n : Nat) : List Event :=
  (List.range n).filterMap fun i => (given f clock i).event?

/-- Their content. -/
def received (f : Flushing) (clock : Nat → Nat) (n : Nat) : Body.Content := Body.contentOf (parts f clock n)

/-- None of so many answers is a failure. -/
def Unbroken (f : Flushing) (clock : Nat → Nat) (n : Nat) : Prop :=
  ∀ i < n, ∀ reason, given f clock i ≠ .failure reason

/-- The clock passes every moment, again and again. -/
def GoesOn (clock : Nat → Nat) : Prop := ∀ n time, ∃ k, n ≤ k ∧ time ≤ clock k

variable {f : Flushing} {clock : Nat → Nat}

theorem parts_succ (f : Flushing) (clock : Nat → Nat) (n : Nat) :
    parts f clock (n + 1) = parts f clock n ++ (given f clock n).event?.toList := by
  rw [parts, List.range_succ, List.filterMap_append]
  rfl

theorem received_succ (f : Flushing) (clock : Nat → Nat) (n : Nat) :
    received f clock (n + 1) = (received f clock n).followedBy (given f clock n).content := by
  rw [received, parts_succ, Body.contentOf_append]
  rfl

theorem sound_after (h : f.Sound) (n : Nat) : (after f clock n).Sound := by
  induction n with
  | zero => exact h
  | succ n ih => exact (gives_poll ih).sound

theorem gives_given (h : f.Sound) (n : Nat) : Gives (after f clock n) (given f clock n, after f clock (n + 1)) :=
  gives_poll (sound_after h n)

theorem interval_after (n : Nat) : (after f clock n).interval = f.interval := by
  induction n with
  | zero => rfl
  | succ n ih => exact interval_poll.trans ih

theorem Unbroken.mono {m n : Nat} (h : Unbroken f clock n) (hmn : m ≤ n) : Unbroken f clock m :=
  fun i hi => h i (Nat.lt_of_lt_of_le hi hmn)

theorem unbroken_zero : Unbroken f clock 0 := fun i hi => absurd hi (Nat.not_lt_zero i)

theorem Unbroken.succ {n : Nat} (h : Unbroken f clock n) (hg : ∀ reason, given f clock n ≠ .failure reason) :
    Unbroken f clock (n + 1) := by
  intro i hi
  rcases Nat.lt_succ_iff_lt_or_eq.mp hi with hi | rfl
  · exact h i hi
  · exact hg

theorem failuresOf_parts {n : Nat} (hn : Unbroken f clock n) : Body.failuresOf (parts f clock n) = [] := by
  induction n with
  | zero => rfl
  | succ n ih =>
    rw [parts_succ, Body.failuresOf_append, ih (hn.mono (Nat.le_succ n)), List.nil_append]
    cases hg : given f clock n with
    | failure reason => exact absurd hg (hn n (Nat.lt_succ_self n) reason)
    | _ => rfl

theorem received_unbroken {n : Nat} (hn : Unbroken f clock n) : (received f clock n).failure = none :=
  (Body.contentOf_of_failuresOf (failuresOf_parts hn)).2

/-- The law of a run. -/
theorem owed_after (h : f.Sound) (n : Nat) (hn : Unbroken f clock n) :
    f.owed = (received f clock n).followedBy (after f clock n).owed := by
  induction n with
  | zero => exact Body.Content.empty_followedBy.symm
  | succ n ih =>
    have hstep := (gives_given h n).passes (hn n (Nat.lt_succ_self n))
    rw [ih (hn.mono (Nat.le_succ n)), hstep, ← Body.Content.followedBy_assoc, ← received_succ]

/-- Without an interval nothing is ever held. -/
theorem buffer_after (hb : f.buffer = .empty) (n : Nat) :
    (after f clock n).interval = 0 → (after f clock n).buffer = .empty := by
  induction n with
  | zero => exact fun _ => hb
  | succ n ih =>
    intro hi
    have h0 : (after f clock n).interval = 0 := interval_poll.symm.trans hi
    obtain ⟨taken, ht⟩ := exists_takes_poll (clock n) ih
    exact (ht.passing h0).trans (ih h0)

theorem exists_takes_given (clock : Nat → Nat) (hb : f.buffer = .empty) (n : Nat) :
    ∃ taken, Takes (after f clock n) (given f clock n, after f clock (n + 1)) taken :=
  exists_takes_poll (clock n) (buffer_after hb n)

/-- What has been taken after so many questions has been given out, but for what is held. -/
theorem exists_taken_after (clock : Nat → Nat) (hb : f.buffer = .empty) (n : Nat) :
    ∃ taken, f.inner.events = taken ++ (after f clock n).inner.events ∧
      Body.dataOf taken = Body.dataOf (parts f clock n) ++ (after f clock n).buffer ∧
      Body.failuresOf taken = Body.failuresOf (parts f clock n) := by
  induction n with
  | zero => exact ⟨[], rfl, (congrArg (ByteArray.empty ++ ·) hb).symm, rfl⟩
  | succ n ih =>
    obtain ⟨taken, hevents, hdata, hfailures⟩ := ih
    obtain ⟨more, ht⟩ := exists_takes_given clock hb n
    refine ⟨taken ++ more, ?_, ?_, ?_⟩
    · rw [hevents, ht.events, List.append_assoc]
    · rw [Body.dataOf_append, hdata, ByteArray.append_assoc, ht.data, parts_succ, Body.dataOf_append,
        ByteArray.append_assoc]
    · rw [Body.failuresOf_append, hfailures, ht.failures, parts_succ, Body.failuresOf_append]

theorem poll_spent {now : Nat} (h : f.Spent) (hi : 0 < f.interval) : f.poll now = (.ended, f) := by
  rw [poll_gathering hi, pollGathering, if_pos h.done, drain]
  simp [h.buffer, h.trailers, isEmpty_iff]

/-- When nothing is left to give, the inner body is asked no more: any other body might stand in its place. -/
theorem poll_spent_any {now : Nat} (h : f.Spent) (hi : 0 < f.interval) (other : Body) :
    poll now { f with inner := other } = (.ended, { f with inner := other }) :=
  poll_spent ⟨h.done, h.buffer, h.trailers⟩ hi

/-- A body that has nothing left to give stays as it is. -/
theorem after_spent (hi : 0 < f.interval) {m n : Nat} (hs : (after f clock m).Spent) (hmn : m ≤ n) :
    after f clock n = after f clock m ∧ given f clock n = .ended := by
  have hpoll (now : Nat) : (after f clock m).poll now = (.ended, after f clock m) :=
    poll_spent hs ((interval_after m).symm ▸ hi)
  have hafter : after f clock n = after f clock m := by
    induction hmn with
    | refl => rfl
    | @step n hmn ih => rw [after, ih, hpoll]
  exact ⟨hafter, by rw [given, hafter, hpoll]⟩

end Gateway.Http.Flushing
