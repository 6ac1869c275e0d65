import Gateway.Proofs.Http.Flushing.Progress

/-! A reader of a body that does not fail gets all of it: the same bytes in the same order, whatever the moments at which it
    asks, then the trailers, then the end, and the end from then on. -/

namespace Gateway.Http.Flushing

variable {f : Flushing} {clock : Nat → Nat} {n : Nat}

theorem sound_start (interval : Nat) {inner : Body} (h : Body.TrailersLast inner.events) : Sound { interval, inner } where
  trailersLast := h
  quiet hd := by cases hd
  trailers _ := rfl
  deadline hd := by cases hd
  passing _ := ⟨rfl, rfl⟩

theorem owed_start (interval : Nat) (inner : Body) : owed { interval, inner } = inner.content := by
  rw [owed_open rfl, ByteArray.empty_append]

/-- The failure that comes first is the failure that is owed. -/
theorem failure_owed (h : f.Sound) (hn : Unbroken f clock n) {reason : String} (hg : given f clock n = .failure reason) :
    f.owed = (received f clock n).followedBy ⟨(after f clock (n + 1)).buffer, none, some reason⟩ := by
  rw [owed_after h n hn, (gives_given h n).breaks reason hg]

theorem unbroken (clock : Nat → Nat) (h : f.Sound) (hf : f.owed.failure = none) (n : Nat) : Unbroken f clock n := by
  induction n with
  | zero => exact unbroken_zero
  | succ n ih =>
    refine ih.succ fun reason hg => ?_
    rw [failure_owed h ih hg, Body.Content.failure_followedBy (received_unbroken ih)] at hf
    cases hf

theorem spent_trailers (h : f.Sound) (hi : 0 < f.interval) {headers : Headers}
    (hg : given f clock n = .trailers headers) : (after f clock (n + 1)).Spent :=
  (gives_given h n).spent ((interval_after n).symm ▸ hi) (Or.inl ⟨headers, hg⟩)

theorem spent_ended (h : f.Sound) (hi : 0 < f.interval) (hg : given f clock n = .ended) :
    (after f clock (n + 1)).Spent :=
  (gives_given h n).spent ((interval_after n).symm ▸ hi) (Or.inr hg)

/-- When nothing is left to give, the reader has got all there was. -/
theorem received_spent (h : f.Sound) (hn : Unbroken f clock n) (hs : (after f clock n).Spent) :
    received f clock n = f.owed := by
  rw [owed_after h n hn, hs.owed, Body.Content.followedBy_empty]

theorem mem_of_trailers {events : List Event} {headers : Headers} (h : (Body.contentOf events).trailers = some headers) :
    Event.trailers headers ∈ events := by
  induction events with
  | nil => cases h
  | cons e events ih =>
    cases e with
    | data bytes => exact List.mem_cons_of_mem _ (ih h)
    | trailers other =>
      rw [Body.contentOf_trailers] at h
      rcases Option.or_eq_some_iff.mp h with h | ⟨-, h⟩
      · exact List.mem_cons_of_mem _ (ih h)
      · cases h
        exact List.mem_cons_self
    | failure reason => cases h
    | wait time => exact List.mem_cons_of_mem _ (ih h)

/-- Behind trailers nothing is given but the end. -/
theorem given_behind_trailers (h : f.Sound) (hi : 0 < f.interval) {headers : Headers}
    (hg : given f clock n = .trailers headers) {m : Nat} (hnm : n < m) : given f clock m = .ended :=
  (after_spent hi (spent_trailers h hi hg) hnm).2

/-- Trailers that a reader has were given to it. -/
theorem exists_given_trailers {headers : Headers} (h : (received f clock n).trailers = some headers) :
    ∃ k < n, given f clock k = .trailers headers := by
  obtain ⟨k, hk, he⟩ := List.mem_filterMap.mp (mem_of_trailers h)
  refine ⟨k, List.mem_range.mp hk, ?_⟩
  cases hg : given f clock k <;> rw [hg] at he <;> cases he
  rfl

/-- A reader gets a content, part by part. -/
structure Delivers (f : Flushing) (clock : Nat → Nat) (content : Body.Content) : Prop where
  unbroken : ∀ n reason, given f clock n ≠ .failure reason
  nonempty : ∀ n bytes, given f clock n = .data bytes → bytes ≠ .empty
  /-- At every moment the reader has the first bytes of the data. -/
  inOrder : ∀ n, ∃ rest, content.data = (received f clock n).data ++ rest
  /-- The trailers come once, unchanged, and behind all of the data. -/
  trailers : ∀ n headers, given f clock n = .trailers headers →
    content.trailers = some headers ∧ (received f clock n).data = content.data ∧
      ∀ m, m ≠ n → ∀ other, given f clock m ≠ .trailers other
  /-- At the end the reader has everything, and the trailers were among it if there are any. -/
  everything : ∀ n, given f clock n = .ended → received f clock n = content ∧
    ∀ headers, content.trailers = some headers → ∃ k < n, given f clock k = .trailers headers
  /-- Behind the end there is nothing but the end, and the inner body has no part in it. -/
  ended : ∀ n, given f clock n = .ended → ∀ m, n ≤ m → given f clock m = .ended ∧
    ∀ now inner, poll now { after f clock (m + 1) with inner } = (.ended, { after f clock (m + 1) with inner })
  /-- The end comes if the clock goes on. -/
  ends : GoesOn clock → ∃ n, given f clock n = .ended

theorem delivers_owed (clock : Nat → Nat) (h : f.Sound) (hi : 0 < f.interval) (hf : f.owed.failure = none) :
    Delivers f clock f.owed where
  unbroken n := unbroken clock h hf (n + 1) n (Nat.lt_succ_self n)
  nonempty n := (gives_given h n).nonempty ((interval_after n).symm ▸ hi)
  inOrder n := by
    have hn := unbroken clock h hf n
    rw [owed_after h n hn, Body.Content.followedBy_of_none (received_unbroken hn)]
    exact ⟨_, rfl⟩
  trailers n headers hg := by
    have hn := unbroken clock h hf n
    have hall := received_spent h (unbroken clock h hf (n + 1)) (spent_trailers h hi hg)
    rw [received_succ, hg, Body.Content.followedBy_of_none (received_unbroken hn)] at hall
    refine ⟨?_, ?_, fun m hmn other ho => ?_⟩
    · rw [← hall]
      rfl
    · rw [← hall]
      exact ByteArray.append_empty.symm
    · rcases Nat.lt_or_gt_of_ne hmn with hlt | hlt
      · rw [given_behind_trailers h hi ho hlt] at hg
        cases hg
      · rw [given_behind_trailers h hi hg hlt] at ho
        cases ho
  everything n hg := by
    have hall := received_spent h (unbroken clock h hf (n + 1)) (spent_ended h hi hg)
    rw [received_succ, hg] at hall
    have hrec : received f clock n = f.owed := Body.Content.followedBy_empty.symm.trans hall
    exact ⟨hrec, fun headers ht => exists_given_trailers (hrec ▸ ht)⟩
  ended n hg m hnm := by
    have hend : given f clock m = .ended := by
      rcases Nat.eq_or_lt_of_le hnm with rfl | hlt
      · exact hg
      · exact (after_spent hi (spent_ended h hi hg) hlt).2
    refine ⟨hend, fun now inner => poll_spent_any (spent_ended h hi hend) ?_ inner⟩
    exact (interval_after (m + 1)).symm ▸ hi
  ends := exists_ended

/-- **Flushing loses, repeats and reorders nothing.** Take any positive interval, any inner body that does not fail and has
    trailers last, if it has any, with waits anywhere, and ask at any moments. -/
theorem delivers_content {interval : Nat} (hi : 0 < interval) {inner : Body} (h : Body.TrailersLast inner.events)
    (hf : inner.content.failure = none) (clock : Nat → Nat) : Delivers { interval, inner } clock inner.content := by
  have hd := delivers_owed clock (sound_start interval h) hi (by rwa [owed_start])
  rwa [owed_start] at hd

/-- Data in pieces, an empty one among them, with a wait that lasts longer than the interval, and trailers. -/
theorem delivers_content_pieces :
    let inner : Body := { events := [.data "ab".toUTF8, .wait 80, .data .empty, .data "c".toUTF8,
      .trailers ⟨[⟨"grpc-status", "0".toUTF8⟩]⟩] }
    0 < 50 ∧ Body.TrailersLast inner.events ∧ inner.content.failure = none ∧
      Delivers { interval := 50, inner } (fun n => 20 * n) inner.content := by
  intro inner
  have h : Body.TrailersLast inner.events := by simp [inner, Body.TrailersLast]
  exact ⟨by decide, h, rfl, delivers_content (by decide) h rfl _⟩

end Gateway.Http.Flushing
