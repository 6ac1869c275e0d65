import Gateway.Command.Startup

/-! A signal while the program starts. The signal may come before the server has subscribed; the trigger goes to nobody then,
    and the server waits for another one, which never comes. What counts is which of the two is first: the phases below
    are where the tasks can be, and each turn leads from one to the next. -/

namespace Gateway.Command.Startup

open Shutdown

def after (s : Startup) (turns : List Task) : Startup := turns.foldl turn s

/-- What is done to the coordinator in some turns, in this order. -/
def operations (s : Startup) : List Task → List Operation
  | [] => []
  | t :: rest => (s.operation? t).toList ++ (s.turn t).operations rest

theorem after_append (s : Startup) (xs ys : List Task) : s.after (xs ++ ys) = (s.after xs).after ys :=
  List.foldl_append

theorem operations_append (s : Startup) (xs ys : List Task) :
    s.operations (xs ++ ys) = s.operations xs ++ (s.after xs).operations ys := by
  induction xs generalizing s with
  | nil => rfl
  | cons t xs ih =>
    rw [List.cons_append, operations, operations, ih, List.append_assoc]
    rfl

/-- The server subscribes, and the shutdown is triggered afterwards. -/
def SubscribesFirst (done : List Operation) : Prop := [.subscribe 0, .trigger 1].Sublist done

instance (done : List Operation) : Decidable (SubscribesFirst done) := inferInstanceAs (Decidable (List.Sublist _ _))

theorem subscribesFirst_append {done : List Operation} {o : Operation} :
    SubscribesFirst (done ++ [o]) ↔ SubscribesFirst done ∨ .subscribe 0 ∈ done ∧ o = .trigger 1 := by
  constructor
  · intro h
    obtain ⟨front, back, heq, hfront, hback⟩ := List.sublist_append_iff.mp h
    cases hback with
    | cons _ hnil =>
      rw [List.sublist_nil.mp hnil, List.append_nil] at heq
      subst heq
      exact Or.inl hfront
    | cons_cons _ hnil =>
      rw [List.sublist_nil.mp hnil] at heq
      have hsplit : [Operation.subscribe 0] ++ [.trigger 1] = front ++ [o] := heq
      obtain ⟨rfl, hlast⟩ := List.append_inj' hsplit rfl
      exact Or.inr ⟨List.singleton_sublist.mp hfront, (List.singleton_inj.mp hlast).symm⟩
  · rintro (h | ⟨hs, rfl⟩)
    · exact h.trans (List.sublist_append_left done [o])
    · exact (List.singleton_sublist.mpr hs).append (List.Sublist.refl [Operation.trigger 1])

/-! ### Phases -/

/-- What the task of the signal has to do up to its trigger. -/
def awaiting (waits : Bool) : List (Option Operation) :=
  (if waits then [none] else []) ++ [some (.trigger 1), some (.drop 1)]

/-- What it has to do behind its trigger. -/
def leaving (dropped : Bool) : List (Option Operation) := if dropped then [] else [some (.drop 1)]

/-- What the server has to do before it serves. -/
def building (builds : Bool) : List (Option Operation) := (if builds then [none] else []) ++ [some (.subscribe 0)]

/-- The coordinator with its two handles, of which the second may be dropped. -/
def coordinator (dropped : Bool) (receivers taken : Nat) (waiters : List (Option Nat)) : Shutdown :=
  ⟨⟨if dropped then 1 else 2, receivers, taken⟩, [true, !dropped], waiters⟩

/-- Where the tasks can be when so much has been `done` to the coordinator, and when the waiter has been `released` or not. -/
inductive Phase (done : List Operation) (released : Prop) : Startup → Prop
  /-- Neither has come to the coordinator. -/
  | apart (waits builds : Bool) (hr : ¬ released) (hs : .subscribe 0 ∉ done) (ht : .trigger 1 ∉ done) :
    Phase done released ⟨coordinator false 0 0 [], awaiting waits, building builds⟩
  /-- The server has subscribed. -/
  | listening (waits : Bool) (hr : ¬ released) (hs : .subscribe 0 ∈ done) (ht : .trigger 1 ∉ done) :
    Phase done released ⟨coordinator false 1 0 [some 0], awaiting waits, []⟩
  /-- The trigger has reached the server. -/
  | told (dropped : Bool) (hr : ¬ released) (h : SubscribesFirst done) :
    Phase done released ⟨coordinator dropped 1 1 [some 0], leaving dropped, []⟩
  /-- The server knows. -/
  | ended (dropped : Bool) (hr : released) (h : SubscribesFirst done) :
    Phase done released ⟨coordinator dropped 0 1 [none], leaving dropped, []⟩
  /-- The trigger has gone to nobody. -/
  | unheard (dropped builds : Bool) (hr : ¬ released) (hs : .subscribe 0 ∉ done) (ht : .trigger 1 ∈ done) :
    Phase done released ⟨coordinator dropped 0 0 [], leaving dropped, building builds⟩
  /-- The server has subscribed behind it. -/
  | missed (dropped : Bool) (hr : ¬ released) (hs : .subscribe 0 ∈ done) (ht : .trigger 1 ∈ done)
      (h : ¬ SubscribesFirst done) :
    Phase done released ⟨coordinator dropped 1 0 [some 0], leaving dropped, []⟩

variable {done : List Operation} {released : Prop} {s s' : Startup} {t : Task}

/-- A turn that leaves the coordinator alone. -/
theorem Phase.of_idle (hidle : s.operation? t = none) (hturn : s.turn t = s') (h : Phase done released s') :
    Phase (done ++ (s.operation? t).toList) (released ∨ t = .server ∧ s.answer? t = some .ready) (s.turn t) := by
  simpa [hidle, hturn, answer?] using h

/-- A turn that does not release the waiter. -/
theorem Phase.of_work {o : Operation} {a : Answer} (ho : s.operation? t = some o) (ha : s.answer? t = some a)
    (hne : a ≠ .ready) (hturn : s.turn t = s') (h : Phase (done ++ [o]) released s') :
    Phase (done ++ (s.operation? t).toList) (released ∨ t = .server ∧ s.answer? t = some .ready) (s.turn t) := by
  simpa [ho, hturn, ha, hne] using h

theorem Phase.of_release {o : Operation} (ho : s.operation? .server = some o) (ha : s.answer? .server = some .ready)
    (hturn : s.turn .server = s') (h : Phase (done ++ [o]) True s') :
    Phase (done ++ (s.operation? .server).toList)
      (released ∨ Task.server = .server ∧ s.answer? .server = some .ready) (s.turn .server) := by
  simpa [ho, hturn, ha] using h

theorem not_subscribesFirst_append {o : Operation} (h : ¬ SubscribesFirst done) (ho : o ≠ .trigger 1) :
    ¬ SubscribesFirst (done ++ [o]) :=
  fun h' => (subscribesFirst_append.mp h').elim h fun htrigger => ho htrigger.2

theorem mem_of_subscribesFirst (h : SubscribesFirst done) : .subscribe 0 ∈ done := h.subset List.mem_cons_self

theorem phase_turn (h : Phase done released s) (t : Task) :
    Phase (done ++ (s.operation? t).toList) (released ∨ t = .server ∧ s.answer? t = some .ready) (s.turn t) := by
  cases h with
  | apart waits builds hr hs ht =>
    cases t with
    | signal =>
      cases waits with
      | true => exact .of_idle rfl rfl (.apart false builds hr hs ht)
      | false => exact .of_work rfl rfl nofun rfl (.unheard false builds hr (by simpa using hs) (by simp))
    | server =>
      cases builds with
      | true => exact .of_idle rfl rfl (.apart waits false hr hs ht)
      | false => exact .of_work rfl rfl nofun rfl (.listening waits hr (by simp) (by simpa using ht))
  | listening waits hr hs ht =>
    cases t with
    | signal =>
      cases waits with
      | true => exact .of_idle rfl rfl (.listening false hr hs ht)
      | false => exact .of_work rfl rfl nofun rfl (.told false hr (subscribesFirst_append.mpr (Or.inr ⟨hs, rfl⟩)))
    | server => exact .of_work rfl rfl nofun rfl (.listening waits hr (by simp [hs]) (by simpa using ht))
  | told dropped hr h =>
    cases t with
    | signal =>
      cases dropped with
      | true => exact .of_idle rfl rfl (.told true hr h)
      | false => exact .of_work rfl rfl nofun rfl (.told true hr (subscribesFirst_append.mpr (Or.inl h)))
    | server =>
      have hended := subscribesFirst_append (o := .poll 0).mpr (Or.inl h)
      cases dropped with
      | true => exact .of_release rfl rfl rfl (.ended true trivial hended)
      | false => exact .of_release rfl rfl rfl (.ended false trivial hended)
  | ended dropped hr h =>
    cases t with
    | signal =>
      cases dropped with
      | true => exact .of_idle rfl rfl (.ended true hr h)
      | false => exact .of_work rfl rfl nofun rfl (.ended true hr (subscribesFirst_append.mpr (Or.inl h)))
    | server => exact .of_work rfl rfl nofun rfl (.ended dropped hr (subscribesFirst_append.mpr (Or.inl h)))
  | unheard dropped builds hr hs ht =>
    cases t with
    | signal =>
      cases dropped with
      | true => exact .of_idle rfl rfl (.unheard true builds hr hs ht)
      | false => exact .of_work rfl rfl nofun rfl (.unheard true builds hr (by simpa using hs) (by simp [ht]))
    | server =>
      cases builds with
      | true => exact .of_idle rfl rfl (.unheard dropped false hr hs ht)
      | false =>
        have hnot := mt mem_of_subscribesFirst hs
        exact .of_work rfl rfl nofun rfl
          (.missed dropped hr (by simp) (by simp [ht]) (not_subscribesFirst_append hnot nofun))
  | missed dropped hr hs ht h =>
    have hpolled := not_subscribesFirst_append (o := .poll 0) h nofun
    cases dropped with
    | true =>
      cases t with
      | signal => exact .of_idle rfl rfl (.missed true hr hs ht h)
      | server => exact .of_work rfl rfl nofun rfl (.missed true hr (by simp [hs]) (by simp [ht]) hpolled)
    | false =>
      cases t with
      | signal =>
        exact .of_work rfl rfl nofun rfl
          (.missed true hr (by simp [hs]) (by simp [ht]) (not_subscribesFirst_append h nofun))
      | server => exact .of_work rfl rfl nofun rfl (.missed false hr (by simp [hs]) (by simp [ht]) hpolled)

/-! ### Every order of turns -/

/-- In one of the turns the server was told that its waiter is released. -/
def Heeded (turns : List Task) : Prop :=
  ∃ earlier, earlier ++ [.server] <+: turns ∧ (begun.after earlier).answer? .server = some .ready

theorem heeded_append (turns : List Task) (t : Task) :
    Heeded (turns ++ [t]) ↔ Heeded turns ∨ t = .server ∧ (begun.after turns).answer? t = some .ready := by
  constructor
  · rintro ⟨earlier, hprefix, hready⟩
    rcases List.prefix_concat_iff.mp hprefix with heq | hprefix
    · obtain ⟨rfl, ht⟩ := List.append_inj' heq rfl
      obtain rfl := List.singleton_inj.mp ht
      exact Or.inr ⟨rfl, hready⟩
    · exact Or.inl ⟨earlier, hprefix, hready⟩
  · rintro (⟨earlier, hprefix, hready⟩ | ⟨rfl, hready⟩)
    · exact ⟨earlier, hprefix.trans (List.prefix_append turns [t]), hready⟩
    · exact ⟨turns, List.prefix_rfl, hready⟩

theorem phase_append {past : List Task} (h : Phase (begun.operations past) (Heeded past) (begun.after past))
    (turns : List Task) :
    Phase (begun.operations (past ++ turns)) (Heeded (past ++ turns)) (begun.after (past ++ turns)) := by
  induction turns generalizing past with
  | nil => rwa [List.append_nil]
  | cons t rest ih =>
    have hturn := phase_turn h t
    rw [← heeded_append] at hturn
    have hnext : Phase (begun.operations (past ++ [t])) (Heeded (past ++ [t])) (begun.after (past ++ [t])) := by
      rw [operations_append, operations, operations, List.append_nil, after_append]
      exact hturn
    rw [List.append_cons]
    exact ih hnext

theorem phase_after (turns : List Task) : Phase (begun.operations turns) (Heeded turns) (begun.after turns) := by
  have hnot : ¬ Heeded [] := by
    rintro ⟨earlier, hprefix, -⟩
    exact absurd hprefix.length_le (by simp)
  have hbegun : Phase (begun.operations []) (Heeded []) (begun.after []) :=
    .apart true true hnot List.not_mem_nil List.not_mem_nil
  exact phase_append hbegun turns

theorem subscribesFirst_of_heeded {turns : List Task} (h : Heeded turns) : SubscribesFirst (begun.operations turns) := by
  have hphase := phase_after turns
  generalize begun.after turns = s at hphase
  cases hphase with
  | ended _ _ hfirst => exact hfirst
  | apart _ _ hr => exact absurd h hr
  | listening _ hr => exact absurd h hr
  | told _ hr => exact absurd h hr
  | unheard _ _ hr => exact absurd h hr
  | missed _ hr => exact absurd h hr

/-- **A signal that comes while the program starts is heeded just if the server has subscribed before.** When both have come
    to the coordinator, the server learns of it when it polls its waiter next, if it has not learned of it before. If the
    trigger was first the waiter is pending, and no later turn changes that. -/
theorem heeded_iff_subscribesFirst {turns : List Task} (hs : .subscribe 0 ∈ begun.operations turns)
    (ht : .trigger 1 ∈ begun.operations turns) :
    (Heeded (turns ++ [.server]) ↔ SubscribesFirst (begun.operations turns)) ∧
      (¬ SubscribesFirst (begun.operations turns) → (begun.after turns).answer? .server = some .pending) := by
  have hphase := phase_after turns
  rw [heeded_append]
  generalize begun.after turns = s at hphase
  cases hphase with
  | apart _ _ _ hs' => exact absurd hs hs'
  | listening _ _ _ ht' => exact absurd ht ht'
  | unheard _ _ _ hs' => exact absurd hs hs'
  | told dropped _ h =>
    have hready : (⟨coordinator dropped 1 1 [some 0], leaving dropped, []⟩ : Startup).answer? .server = some .ready := by
      cases dropped <;> rfl
    exact ⟨iff_of_true (Or.inr ⟨rfl, hready⟩) h, fun hnot => absurd h hnot⟩
  | ended _ hr h => exact ⟨iff_of_true (Or.inl hr) h, fun hnot => absurd h hnot⟩
  | missed dropped hr _ _ h =>
    have hpending : (⟨coordinator dropped 1 0 [some 0], leaving dropped, []⟩ : Startup).answer? .server = some .pending := by
      cases dropped <;> rfl
    refine ⟨iff_of_false ?_ h, fun _ => hpending⟩
    rintro (hheeded | ⟨-, hready⟩)
    · exact hr hheeded
    · rw [hpending] at hready
      cases hready

theorem heeded_iff_subscribesFirst_built :
    let turns : List Task := [.server, .server, .server, .signal, .signal, .signal]
    .subscribe 0 ∈ begun.operations turns ∧ .trigger 1 ∈ begun.operations turns ∧ Heeded (turns ++ [.server]) := by
  intro turns
  have hs : .subscribe 0 ∈ begun.operations turns := by decide
  have ht : .trigger 1 ∈ begun.operations turns := by decide
  exact ⟨hs, ht, (heeded_iff_subscribesFirst hs ht).1.mpr (by decide)⟩

/-- So a signal that comes while the server is built is lost. -/
theorem not_heeded_building :
    ¬ ∀ turns : List Task, .subscribe 0 ∈ begun.operations turns → .trigger 1 ∈ begun.operations turns →
      Heeded (turns ++ [.server]) := by
  intro hall
  have hheeded := hall [.signal, .signal, .signal, .server, .server] (by decide) (by decide)
  exact absurd (subscribesFirst_of_heeded hheeded) (by decide)

end Gateway.Command.Startup
