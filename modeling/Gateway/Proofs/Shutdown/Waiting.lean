import Gateway.Shutdown

/-! Waiting for the shutdown. What has been done with a coordinator, with the answers, says what the next answer is: a waiter
    is released just if a handle that was held has triggered the shutdown since the waiter subscribed, or if no handle is
    held any more. How often, through which handle, and what other waiters did does not matter. -/

namespace Gateway

namespace Broadcast

theorem receive_eq_nothing {c : Broadcast} {before : Nat} :
    c.receive before = .nothing ↔ c.taken ≤ before ∧ c.senders ≠ 0 := by
  unfold receive
  split
  · rename_i hle
    split <;> simp_all
  · rename_i hlt
    split <;> simp [hlt]

end Broadcast

namespace Shutdown

/-! ### Logs -/

/-- Operations with their answers, in the order in which they were done. -/
abbrev Log := List (Operation × Answer)

def log (s : Shutdown) (operations : List Operation) : Log := operations.zip (s.answers operations)

/-- The coordinator behind some operations. -/
def after (s : Shutdown) (operations : List Operation) : Shutdown := operations.foldl (fun s o => (s.step o).1) s

/-- The first handle is there from the start, the others are clones. -/
def Made (log : Log) (h : Nat) : Prop := h = 0 ∨ ∃ h', (.clone h', .number h) ∈ log

def Held (log : Log) (h : Nat) : Prop := Made log h ∧ (.drop h, .done) ∉ log

/-- A waiter waits that has been released by none of the operations since it subscribed. -/
def Waits (log : Log) (w : Nat) (since : Log) : Prop :=
  (∃ before h, log = before ++ (.subscribe h, .number w) :: since) ∧ (.poll w, .ready) ∉ since

/-- What releases a waiter: the shutdown has been triggered since it subscribed, or no handle is left. -/
def Released (log since : Log) : Prop := (∃ h, (.trigger h, .done) ∈ since) ∨ ∀ h, ¬ Held log h

theorem answers_append (s : Shutdown) (xs ys : List Operation) :
    s.answers (xs ++ ys) = s.answers xs ++ (s.after xs).answers ys := by
  induction xs generalizing s with
  | nil => rfl
  | cons x xs ih => exact congrArg ((s.step x).2 :: ·) (ih (s.step x).1)

theorem waits_append {log : Log} {e : Operation × Answer} {w : Nat} {since : Log} :
    Waits (log ++ [e]) w since ↔ (since = [] ∧ ∃ h, e = (.subscribe h, .number w)) ∨
      ∃ earlier, since = earlier ++ [e] ∧ Waits log w earlier ∧ e ≠ (.poll w, .ready) := by
  constructor
  · rintro ⟨⟨before, h, hlog⟩, hnot⟩
    rcases List.eq_nil_or_concat since with rfl | ⟨earlier, last, rfl⟩
    · exact Or.inl ⟨rfl, h, (List.append_inj' hlog rfl).2 |> List.cons.inj |>.1⟩
    · rw [List.concat_eq_append] at hlog hnot ⊢
      rw [← List.cons_append, ← List.append_assoc] at hlog
      obtain ⟨hfront, hlast⟩ := List.append_inj' hlog rfl
      obtain rfl := (List.cons.inj hlast).1
      simp only [List.mem_append, List.mem_singleton, not_or] at hnot
      exact Or.inr ⟨earlier, rfl, ⟨⟨before, h, hfront⟩, hnot.1⟩, Ne.symm hnot.2⟩
  · rintro (⟨rfl, h, rfl⟩ | ⟨earlier, rfl, ⟨⟨before, h, rfl⟩, hnot⟩, hne⟩)
    · exact ⟨⟨log, h, rfl⟩, List.not_mem_nil⟩
    · refine ⟨⟨before, h, by rw [List.append_assoc, List.cons_append]⟩, ?_⟩
      simp only [List.mem_append, List.mem_singleton, not_or]
      exact ⟨hnot, Ne.symm hne⟩

/-- What an operation can do, with its answer. -/
inductive Happens (s : Shutdown) : Operation → Answer → Shutdown → Prop
  | subscribed {h : Nat} (held : s.holds h = true) : Happens s (.subscribe h) (.number s.waiters.length) s.subscribe
  | triggered {h : Nat} (held : s.holds h = true) : Happens s (.trigger h) .done s.trigger
  | cloned {h : Nat} (held : s.holds h = true) : Happens s (.clone h) (.number s.handles.length) s.clone
  | dropped {h : Nat} (held : s.holds h = true) : Happens s (.drop h) .done (s.drop h)
  | released {w before : Nat} (waits : s.waiters[w]?.join = some before) (found : s.channel.receive before ≠ .nothing) :
    Happens s (.poll w) .ready (s.release w)
  | pending {w before : Nat} (waits : s.waiters[w]?.join = some before) (found : s.channel.receive before = .nothing) :
    Happens s (.poll w) .pending s
  | gone {o : Operation} : Happens s o .gone s

theorem happens_step (s : Shutdown) (o : Operation) : Happens s o (s.step o).2 (s.step o).1 := by
  cases o with
  | subscribe h =>
    simp only [step]
    split
    · rename_i held
      exact .subscribed held
    · exact .gone
  | trigger h =>
    simp only [step]
    split
    · rename_i held
      exact .triggered held
    · exact .gone
  | clone h =>
    simp only [step]
    split
    · rename_i held
      exact .cloned held
    · exact .gone
  | drop h =>
    simp only [step]
    split
    · rename_i held
      exact .dropped held
    · exact .gone
  | poll w =>
    rw [step]
    split
    · exact .gone
    · rename_i before waits
      split
      · rename_i found
        exact .pending waits found
      · rename_i found
        exact .released waits found

/-! ### Handles -/

/-- The handles of a coordinator as its log has them. -/
structure TracksHandles (log : Log) (s : Shutdown) : Prop where
  made : ∀ h, Made log h ↔ h < s.handles.length
  dropped : ∀ h, (.drop h, .done) ∈ log ↔ s.handles[h]? = some false
  senders : s.channel.senders = s.handles.count true

variable {log : Log} {s s' : Shutdown}

theorem holds_iff {h : Nat} : s.holds h = true ↔ s.handles[h]? = some true := by
  rw [holds]
  cases s.handles[h]? <;> simp

theorem TracksHandles.held_iff (hs : TracksHandles log s) {h : Nat} : Held log h ↔ s.holds h = true := by
  rw [Held, hs.made, hs.dropped, holds_iff]
  by_cases hlt : h < s.handles.length
  · rw [List.getElem?_eq_getElem hlt]
    simp [hlt]
  · rw [List.getElem?_eq_none (Nat.le_of_not_lt hlt)]
    simp [hlt]

theorem TracksHandles.senders_eq_zero (hs : TracksHandles log s) : s.channel.senders = 0 ↔ ∀ h, ¬ Held log h := by
  rw [hs.senders, List.count_eq_zero]
  simp only [hs.held_iff, holds_iff, List.mem_iff_getElem?, not_exists]

/-- What makes no handle and drops none. -/
theorem TracksHandles.quiet (hs : TracksHandles log s) {e : Operation × Answer} (hmade : ∀ h n, e ≠ (.clone h, .number n))
    (hdropped : ∀ h, e ≠ (.drop h, .done)) (hhandles : s'.handles = s.handles)
    (hsenders : s'.channel.senders = s.channel.senders) : TracksHandles (log ++ [e]) s' where
  made h := by
    rw [hhandles, ← hs.made]
    simp [Made, Ne.symm (hmade _ _)]
  dropped h := by
    rw [hhandles, ← hs.dropped]
    simp [Ne.symm (hdropped _)]
  senders := by rw [hsenders, hhandles, hs.senders]

theorem TracksHandles.happens (hs : TracksHandles log s) {o : Operation} {a : Answer} (h : Happens s o a s') :
    TracksHandles (log ++ [(o, a)]) s' := by
  cases h with
  | subscribed => exact hs.quiet (by simp) (by simp) rfl rfl
  | triggered =>
    refine hs.quiet (by simp) (by simp) rfl ?_
    rw [trigger, Broadcast.send]
    split <;> rfl
  | released => exact hs.quiet (by simp) (by simp) rfl rfl
  | pending => exact hs.quiet (by simp) (by simp) rfl rfl
  | gone => exact hs.quiet (by simp) (by simp) rfl rfl
  | @cloned h held =>
    have hlength : s.clone.handles.length = s.handles.length + 1 := by simp [clone]
    refine ⟨fun h' => ?_, fun h' => ?_, ?_⟩
    · have hnew : Made (log ++ [(.clone h, .number s.handles.length)]) h' ↔ Made log h' ∨ h' = s.handles.length := by
        simp only [Made, List.mem_append, List.mem_singleton, Prod.mk.injEq, Operation.clone.injEq, Answer.number.injEq,
          exists_or, exists_eq_left, or_assoc]
      rw [hnew, hs.made, hlength, Nat.lt_succ_iff_lt_or_eq]
    · have hold : (s.handles ++ [true])[h']? = some false ↔ s.handles[h']? = some false := by
        rcases Nat.lt_or_ge h' s.handles.length with hlt | hge
        · rw [List.getElem?_append_left hlt]
        · rw [List.getElem?_append_right hge, List.getElem?_eq_none hge, List.getElem?_singleton]
          split <;> simp
      rw [show s.clone.handles = s.handles ++ [true] from rfl, hold, ← hs.dropped]
      simp
    · simp [clone, Broadcast.addSender, hs.senders]
  | @dropped h held =>
    have hget : s.handles[h]? = some true := holds_iff.mp held
    refine ⟨fun h' => ?_, fun h' => ?_, ?_⟩
    · have hmade := hs.made h'
      simpa [Made, drop] using hmade
    · have hlt : h < s.handles.length := (List.getElem?_eq_some_iff.mp hget).1
      have hnew : (s.handles.set h false)[h']? = some false ↔ s.handles[h']? = some false ∨ h' = h := by
        by_cases heq : h' = h
        · simp [heq, hlt]
        · simp [heq, Ne.symm heq]
      rw [show (s.drop h).handles = s.handles.set h false from rfl, hnew, ← hs.dropped]
      simp
    · obtain ⟨hlt, htrue⟩ := List.getElem?_eq_some_iff.mp hget
      have hcount : (s.handles.set h false).count true = s.handles.count true - 1 := by
        rw [List.count_set hlt, htrue]
        simp
      rw [show (s.drop h).handles = s.handles.set h false from rfl, hcount, ← hs.senders]
      rfl

/-! ### Waiters -/

/-- The waiters of a coordinator as its log has them. -/
structure TracksWaiters (log : Log) (s : Shutdown) : Prop where
  receivers : s.channel.receivers = s.waiters.countP Option.isSome
  numbered : ∀ h w, (.subscribe h, .number w) ∈ log → w < s.waiters.length
  /-- A message that a waiter has not seen is a trigger since it subscribed. -/
  waits : ∀ w since, Waits log w since → ∃ before, s.waiters[w]?.join = some before ∧ before ≤ s.channel.taken ∧
    (before < s.channel.taken ↔ ∃ h, (.trigger h, .done) ∈ since)
  waiting : ∀ w before, s.waiters[w]?.join = some before → ∃ since, Waits log w since

theorem exists_waiter {w before : Nat} (hw : s.waiters[w]?.join = some before) : s.waiters[w]? = some (some before) :=
  Option.join_eq_some_iff.mp hw

theorem TracksWaiters.receivers_ne_zero (hs : TracksWaiters log s) {w before : Nat}
    (hw : s.waiters[w]?.join = some before) : s.channel.receivers ≠ 0 := by
  rw [hs.receivers]
  exact Nat.ne_of_gt (List.countP_pos_iff.mpr ⟨_, List.mem_of_getElem? (exists_waiter hw), rfl⟩)

theorem TracksWaiters.quiet (hs : TracksWaiters log s) {e : Operation × Answer}
    (hsubscribed : ∀ h w, e ≠ (.subscribe h, .number w)) (htriggered : ∀ h, e ≠ (.trigger h, .done))
    (hreleased : ∀ w, e ≠ (.poll w, .ready)) (hwaiters : s'.waiters = s.waiters)
    (hreceivers : s'.channel.receivers = s.channel.receivers) (htaken : s'.channel.taken = s.channel.taken) :
    TracksWaiters (log ++ [e]) s' where
  receivers := by rw [hreceivers, hwaiters, hs.receivers]
  numbered h w hmem := by
    rw [hwaiters]
    rcases List.mem_append.mp hmem with hmem | hmem
    · exact hs.numbered h w hmem
    · exact absurd (List.mem_singleton.mp hmem).symm (hsubscribed h w)
  waits w since hw := by
    rcases waits_append.mp hw with ⟨-, h, he⟩ | ⟨earlier, rfl, hw, -⟩
    · exact absurd he (hsubscribed h w)
    · obtain ⟨before, hbefore, hle, hlt⟩ := hs.waits w earlier hw
      refine ⟨before, hwaiters ▸ hbefore, htaken ▸ hle, ?_⟩
      rw [htaken, hlt]
      simp [Ne.symm (htriggered _)]
  waiting w before hbefore := by
    obtain ⟨since, hw⟩ := hs.waiting w before (hwaiters ▸ hbefore)
    exact ⟨since ++ [e], waits_append.mpr (Or.inr ⟨since, rfl, hw, hreleased w⟩)⟩

theorem TracksWaiters.subscribed (hs : TracksWaiters log s) (h : Nat) :
    TracksWaiters (log ++ [(.subscribe h, .number s.waiters.length)]) s.subscribe where
  receivers := by simp [subscribe, Broadcast.subscribe, hs.receivers]
  numbered h' w hmem := by
    rw [show s.subscribe.waiters = s.waiters ++ [some s.channel.taken] from rfl, List.length_append]
    rcases List.mem_append.mp hmem with hmem | hmem
    · exact Nat.lt_succ_of_lt (hs.numbered h' w hmem)
    · simp only [List.mem_singleton, Prod.mk.injEq, Answer.number.injEq] at hmem
      exact hmem.2 ▸ Nat.lt_succ_self _
  waits w since hw := by
    rw [show s.subscribe.waiters = s.waiters ++ [some s.channel.taken] from rfl]
    rcases waits_append.mp hw with ⟨rfl, h', he⟩ | ⟨earlier, rfl, hw, -⟩
    · obtain rfl : s.waiters.length = w := by simpa using congrArg Prod.snd he
      exact ⟨s.channel.taken, by simp, Nat.le_refl _, by simp [subscribe, Broadcast.subscribe]⟩
    · obtain ⟨before, hbefore, hle, hlt⟩ := hs.waits w earlier hw
      have hw' : w < s.waiters.length := (List.getElem?_eq_some_iff.mp (exists_waiter hbefore)).1
      refine ⟨before, by rw [List.getElem?_append_left hw', hbefore], hle, ?_⟩
      simpa [subscribe, Broadcast.subscribe] using hlt
  waiting w before hbefore := by
    rw [show s.subscribe.waiters = s.waiters ++ [some s.channel.taken] from rfl] at hbefore
    rcases Nat.lt_trichotomy w s.waiters.length with hlt | rfl | hgt
    · rw [List.getElem?_append_left hlt] at hbefore
      obtain ⟨since, hw⟩ := hs.waiting w before hbefore
      exact ⟨_, waits_append.mpr (Or.inr ⟨since, rfl, hw, by simp⟩)⟩
    · exact ⟨[], waits_append.mpr (Or.inl ⟨rfl, h, rfl⟩)⟩
    · rw [List.getElem?_eq_none (by rw [List.length_append]; exact hgt)] at hbefore
      cases hbefore

theorem TracksWaiters.triggered (hs : TracksWaiters log s) (h : Nat) :
    TracksWaiters (log ++ [(.trigger h, .done)]) s.trigger where
  receivers := by
    rw [trigger, Broadcast.send]
    split <;> exact hs.receivers
  numbered h' w hmem := hs.numbered h' w (by simpa using hmem)
  waits w since hw := by
    rcases waits_append.mp hw with ⟨-, h', he⟩ | ⟨earlier, rfl, hw, -⟩
    · cases he
    · obtain ⟨before, hbefore, hle, -⟩ := hs.waits w earlier hw
      -- As long as somebody waits, no trigger is dropped.
      have htaken : s.trigger.channel.taken = s.channel.taken + 1 := by
        simp [trigger, Broadcast.send, hs.receivers_ne_zero hbefore]
      exact ⟨before, hbefore, by omega, iff_of_true (by omega) ⟨h, by simp⟩⟩
  waiting w before hbefore := by
    obtain ⟨since, hw⟩ := hs.waiting w before hbefore
    exact ⟨_, waits_append.mpr (Or.inr ⟨since, rfl, hw, by simp⟩)⟩

theorem TracksWaiters.released (hs : TracksWaiters log s) {w before : Nat} (hw : s.waiters[w]?.join = some before) :
    TracksWaiters (log ++ [(.poll w, .ready)]) (s.release w) where
  receivers := by
    obtain ⟨hlt, hget⟩ := List.getElem?_eq_some_iff.mp (exists_waiter hw)
    rw [show (s.release w).waiters = s.waiters.set w none from rfl, List.countP_set hlt, hget, ← hs.receivers]
    rfl
  numbered h w' hmem := by
    rw [show (s.release w).waiters = s.waiters.set w none from rfl, List.length_set]
    exact hs.numbered h w' (by simpa using hmem)
  waits w' since hw' := by
    rcases waits_append.mp hw' with ⟨-, h, he⟩ | ⟨earlier, rfl, hw', hne⟩
    · cases he
    · obtain ⟨before, hbefore, hle, hlt⟩ := hs.waits w' earlier hw'
      have hother : w ≠ w' := fun heq => hne (by rw [heq])
      refine ⟨before, ?_, hle, ?_⟩
      · rw [show (s.release w).waiters = s.waiters.set w none from rfl, List.getElem?_set_ne hother, hbefore]
      · simpa [release, Broadcast.unsubscribe] using hlt
  waiting w' before hbefore := by
    rw [show (s.release w).waiters = s.waiters.set w none from rfl] at hbefore
    by_cases hother : w = w'
    · subst hother
      rw [List.getElem?_set_self (List.getElem?_eq_some_iff.mp (exists_waiter hw)).1] at hbefore
      cases hbefore
    · rw [List.getElem?_set_ne hother] at hbefore
      obtain ⟨since, hw'⟩ := hs.waiting w' before hbefore
      exact ⟨_, waits_append.mpr (Or.inr ⟨since, rfl, hw', by simpa using hother⟩)⟩

theorem TracksWaiters.happens (hs : TracksWaiters log s) {o : Operation} {a : Answer} (h : Happens s o a s') :
    TracksWaiters (log ++ [(o, a)]) s' := by
  cases h with
  | subscribed => exact hs.subscribed _
  | triggered => exact hs.triggered _
  | released hw => exact hs.released hw
  | cloned => exact hs.quiet (by simp) (by simp) (by simp) rfl rfl rfl
  | dropped => exact hs.quiet (by simp) (by simp) (by simp) rfl rfl rfl
  | pending => exact hs.quiet (by simp) (by simp) (by simp) rfl rfl rfl
  | gone => exact hs.quiet (by simp) (by simp) (by simp) rfl rfl rfl

/-! ### Every history -/

/-- What every step keeps holds behind all operations. -/
theorem kept_after {P : Log → Shutdown → Prop}
    (hstep : ∀ {log s s' o a}, P log s → Happens s o a s' → P (log ++ [(o, a)]) s') (h : P log s)
    (operations : List Operation) : P (log ++ s.log operations) (s.after operations) := by
  induction operations generalizing log s with
  | nil =>
    rw [show s.log [] = [] from rfl, List.append_nil]
    exact h
  | cons o rest ih =>
    have hrest := ih (hstep h (happens_step s o))
    rwa [List.append_assoc] at hrest

theorem tracksHandles_fresh : TracksHandles [] fresh where
  made h := by simp [fresh, Made]
  dropped h := by cases h <;> simp [fresh]
  senders := rfl

theorem tracksWaiters_fresh : TracksWaiters [] fresh where
  receivers := rfl
  numbered _ _ hmem := (List.not_mem_nil hmem).elim
  waits w since hw := by
    obtain ⟨⟨front, h, hlog⟩, -⟩ := hw
    simp at hlog
  waiting w before hw := by cases hw

theorem step_poll {w before : Nat} (hw : s.waiters[w]?.join = some before) :
    (s.step (.poll w)).2 = if s.channel.receive before = .nothing then .pending else .ready := by
  simp only [step, hw]
  split
  · rename_i hnothing
    rw [if_pos hnothing]
  · rename_i hfound
    rw [if_neg hfound]

/-- A waiter finds nothing as long as nothing releases it. -/
theorem receive_eq_nothing_iff (hh : TracksHandles log s) (hw : TracksWaiters log s) {w : Nat} {since : Log}
    (hwaits : Waits log w since) :
    ∃ before, s.waiters[w]?.join = some before ∧ (s.channel.receive before = .nothing ↔ ¬ Released log since) := by
  obtain ⟨before, hbefore, -, hlt⟩ := hw.waits w since hwaits
  refine ⟨before, hbefore, ?_⟩
  rw [Broadcast.receive_eq_nothing, Released, ← hlt, ← hh.senders_eq_zero, not_or, Nat.not_lt]

/-- **The shutdown is never missed and never early.** Whatever has been done with a coordinator and its handles, a trigger
    counts just if its handle is held. A waiter that still waits is released when it is polled if the shutdown has been
    triggered since it subscribed, or if no handle is held; else it goes on waiting. -/
theorem poll_answers (past : List Operation) :
    (∀ h, ∃ answer, fresh.answers (past ++ [.trigger h]) = fresh.answers past ++ [answer] ∧
      (answer = .done ↔ Held (fresh.log past) h)) ∧
    ∀ w, ∃ answer, fresh.answers (past ++ [.poll w]) = fresh.answers past ++ [answer] ∧
      (∀ since, Waits (fresh.log past) w since →
        (answer = .ready ↔ Released (fresh.log past) since) ∧ (answer = .pending ↔ ¬ Released (fresh.log past) since)) ∧
      ((∀ since, ¬ Waits (fresh.log past) w since) → answer = .gone) := by
  have hh : TracksHandles (fresh.log past) (fresh.after past) :=
    kept_after (fun h => h.happens) tracksHandles_fresh past
  have hw : TracksWaiters (fresh.log past) (fresh.after past) :=
    kept_after (fun h => h.happens) tracksWaiters_fresh past
  refine ⟨fun h => ⟨_, answers_append fresh past [.trigger h], ?_⟩,
    fun w => ⟨_, answers_append fresh past [.poll w], fun since hwaits => ?_, fun hnone => ?_⟩⟩
  · rw [hh.held_iff, step]
    split <;> simp_all
  · obtain ⟨before, hbefore, hnothing⟩ := receive_eq_nothing_iff hh hw hwaits
    rw [step_poll hbefore]
    by_cases hreleased : Released (fresh.log past) since
    · simp [hnothing, hreleased]
    · simp [hnothing, hreleased]
  · have hgone : (fresh.after past).waiters[w]?.join = none := by
      refine Option.eq_none_iff_forall_ne_some.mpr fun before hbefore => ?_
      obtain ⟨since, hwaits⟩ := hw.waiting w before hbefore
      exact hnone since hwaits
    simp only [step, hgone]

/-- A waiter that has missed a trigger is released as well. -/
example : fresh.answers [.subscribe 0, .trigger 0, .trigger 0, .poll 0] = [.number 0, .done, .done, .ready] := by decide

end Shutdown
end Gateway
