import Gateway.Proofs.Http.Polling

/-! When a body delivers. The waits in front of an event add up to the moment at which it comes, for a reader who asks a
    body that is in a wait no later than at its end. -/

namespace Gateway.Http.Body

/-- Bytes and the moment at which they come. -/
structure Arrival where
  time : Nat
  bytes : ByteArray

/-- What some events deliver from a moment on. Empty data delivers nothing. -/
def arrivals (now : Nat) : List Event → List Arrival
  | [] => []
  | .data bytes :: rest => if bytes.isEmpty then arrivals now rest else ⟨now, bytes⟩ :: arrivals now rest
  | .trailers _ :: rest => arrivals now rest
  | .failure _ :: rest => arrivals now rest
  | .wait time :: rest => arrivals (now + time) rest

/-- The moment at which they give trailers or end. -/
def finish (now : Nat) : List Event → Nat
  | [] => now
  | .data _ :: rest => finish now rest
  | .trailers _ :: _ => now
  | .failure _ :: rest => finish now rest
  | .wait time :: rest => finish (now + time) rest

/-- All of the bytes, in their order. -/
def bytesOf (batch : List Arrival) : ByteArray := batch.foldr (·.bytes ++ ·) .empty

theorem bytesOf_append (xs ys : List Arrival) : bytesOf (xs ++ ys) = bytesOf xs ++ bytesOf ys := by
  induction xs with
  | nil => exact ByteArray.empty_append.symm
  | cons x xs ih =>
    rw [List.cons_append, bytesOf, List.foldr_cons, ← bytesOf, ih, ← ByteArray.append_assoc]
    rfl

/-- The bytes that come are the data. -/
theorem bytesOf_arrivals (now : Nat) (events : List Event) : bytesOf (arrivals now events) = dataOf events := by
  fun_induction arrivals now events with
  | case1 => rfl
  | case2 now bytes rest hb ih => rw [dataOf, isEmpty_iff.mp hb, ByteArray.empty_append, ih]
  | case3 now bytes rest hb ih => rw [dataOf, ← ih, bytesOf, List.foldr_cons, ← bytesOf]
  | case4 now headers rest ih => exact ih
  | case5 now reason rest ih => exact ih
  | case6 now time rest ih => exact ih

theorem arrivals_waits (now : Nat) {events : List Event} (h : OnlyWaits events) : arrivals now events = [] := by
  induction events generalizing now with
  | nil => rfl
  | cons e events ih =>
    obtain ⟨⟨time, rfl⟩, hrest⟩ := onlyWaits_cons.mp h
    exact ih (now + time) hrest

theorem length_arrivals_le (now : Nat) (events : List Event) : (arrivals now events).length ≤ events.length := by
  fun_induction arrivals now events <;> grind

/-- From a moment on a body delivers just these and is done then. -/
structure Promises (b : Body) (now : Nat) (coming : List Arrival) (done : Nat) : Prop where
  /-- The wait that has begun is not over yet, or just now. -/
  awake : ∀ time, b.busyUntil = some time → now ≤ time
  arrivals : arrivals (b.busyUntil.getD now) b.events = coming
  finish : finish (b.busyUntil.getD now) b.events = done
  trailersLast : TrailersLast b.events
  unfailing : failuresOf b.events = []

/-- What an answer makes of it: the first of what was to come, the end of all, or a wait until some moment. -/
inductive Honours (now : Nat) : List Arrival → Nat → Poll × Body → Prop
  | empty {bytes coming done c} : bytes.isEmpty = true → Promises c now coming done →
      Honours now coming done (.data bytes, c)
  | data {bytes coming done c} : bytes.isEmpty = false → Promises c now coming done →
      Honours now (⟨now, bytes⟩ :: coming) done (.data bytes, c)
  | trailers {headers c} : Honours now [] now (.trailers headers, c)
  | ended {c} : Honours now [] now (.ended, c)
  | pending {time coming done c} : c.busyUntil = some time → now < time →
      (∀ later ≤ time, Promises c later coming done) → Honours now coming done (.pending, c)

variable {now : Nat} {b : Body} {coming : List Arrival} {done : Nat}

theorem promises_start (now : Nat) (hb : b.busyUntil = none) (ht : TrailersLast b.events)
    (hf : failuresOf b.events = []) : b.Promises now (arrivals now b.events) (finish now b.events) where
  awake time hu := by cases hb.symm.trans hu
  arrivals := by rw [hb, Option.getD_none]
  finish := by rw [hb, Option.getD_none]
  trailersLast := ht
  unfailing := hf

/-- While a wait lasts the promise stays. -/
theorem Promises.later {time later : Nat} (h : b.Promises now coming done) (hb : b.busyUntil = some time)
    (hl : later ≤ time) : b.Promises later coming done where
  awake t ht := by
    cases hb.symm.trans ht
    exact hl
  arrivals := by
    rw [← h.arrivals, hb]
    rfl
  finish := by
    rw [← h.finish, hb]
    rfl
  trailersLast := h.trailersLast
  unfailing := h.unfailing

theorem honours_pollEvents (now : Nat) (b : Body) {events : List Event} (ht : TrailersLast events)
    (hf : failuresOf events = []) : Honours now (arrivals now events) (finish now events)
      ((pollEvents now events).1,
        { b with events := (pollEvents now events).2.1, busyUntil := (pollEvents now events).2.2 }) := by
  fun_induction pollEvents now events with
  | case1 => exact .ended
  | case2 bytes rest =>
    have hrest := promises_start (b := { b with events := rest, busyUntil := none }) now rfl ht hf
    rw [arrivals, finish]
    split
    · rename_i hb
      exact .empty hb hrest
    · rename_i hb
      exact .data (Bool.eq_false_iff.mpr hb) hrest
  | case3 headers rest =>
    rw [arrivals, arrivals_waits now ht]
    exact .trailers
  | case4 reason rest => cases hf
  | case5 rest ih => exact ih ht hf
  | case6 time rest h =>
    refine .pending rfl (Nat.lt_add_of_pos_right (Nat.pos_of_ne_zero h)) fun later hl => ?_
    exact ⟨fun t hu => by cases hu; exact hl, rfl, rfl, ht, hf⟩

theorem honours_poll (h : b.Promises now coming done) : Honours now coming done (b.poll now) := by
  by_cases hb : b.IsBusy now
  · rw [poll_of_isBusy hb]
    obtain ⟨time, hu, hlt⟩ := (Option.any_eq_true _ _).mp hb
    exact .pending hu (of_decide_eq_true hlt) fun later hl => h.later hu hl
  · rw [poll_of_not_isBusy hb, ← h.arrivals, ← h.finish]
    have hnow : b.busyUntil.getD now = now := by
      cases hu : b.busyUntil with
      | none => rfl
      | some time =>
        have hover : ¬ now < time := fun hlt => hb (by simpa [IsBusy, hu] using hlt)
        exact Nat.le_antisymm (Nat.le_of_not_lt hover) (h.awake time hu)
    rw [hnow]
    exact honours_pollEvents now b h.trailersLast h.unfailing

end Gateway.Http.Body
