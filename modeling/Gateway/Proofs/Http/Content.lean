import Gateway.Http.Body

/-! The content of bodies. It depends on nothing but the order of the events; what a body was made of is its content;
    and the content of two rows of events is that of the first and then, unless it breaks, that of the second. -/

namespace Gateway.Http

theorem isEmpty_iff {bytes : ByteArray} : bytes.isEmpty = true ↔ bytes = .empty := by
  rw [ByteArray.isEmpty, beq_iff_eq, ByteArray.size_eq_zero_iff]

namespace Body

@[simp] theorem contentOf_nil : contentOf [] = ⟨.empty, none, none⟩ := rfl

@[simp] theorem contentOf_data (bytes : ByteArray) (rest : List Event) : contentOf (.data bytes :: rest) =
    { contentOf rest with data := bytes ++ (contentOf rest).data } := rfl

@[simp] theorem contentOf_trailers (headers : Headers) (rest : List Event) : contentOf (.trailers headers :: rest) =
    { contentOf rest with trailers := (contentOf rest).trailers.or (some headers) } := rfl

@[simp] theorem contentOf_failure (reason : String) (rest : List Event) :
    contentOf (.failure reason :: rest) = ⟨.empty, none, some reason⟩ := rfl

@[simp] theorem contentOf_wait (time : Nat) (rest : List Event) : contentOf (.wait time :: rest) = contentOf rest := rfl

@[simp] theorem content_ofBytes (bytes : ByteArray) : (ofBytes bytes).content = ⟨bytes, none, none⟩ := by
  by_cases h : bytes.isEmpty = true
  · simp [ofBytes, content, isEmpty_iff.mp h, ByteArray.isEmpty]
  · simp [ofBytes, h, content]

/-! ### One content behind another -/

namespace Content

/-- What a reader gets who goes on with a second content when the first one has come to its end. -/
def followedBy (a b : Content) : Content :=
  if a.failure.isSome then a else ⟨a.data ++ b.data, b.trailers.or a.trailers, b.failure⟩

variable {a b c : Content}

theorem followedBy_of_none (h : a.failure = none) :
    a.followedBy b = ⟨a.data ++ b.data, b.trailers.or a.trailers, b.failure⟩ := by simp [followedBy, h]

theorem failure_followedBy (h : a.failure = none) : (a.followedBy b).failure = b.failure := by
  rw [followedBy_of_none h]

@[simp] theorem empty_followedBy : (⟨.empty, none, none⟩ : Content).followedBy b = b := by
  rw [followedBy_of_none rfl]
  simp

theorem followedBy_empty : a.followedBy ⟨.empty, none, none⟩ = a := by
  cases h : a.failure with
  | none =>
    rw [followedBy_of_none h, ByteArray.append_empty, Option.none_or, ← h]
  | some reason => simp [followedBy, h]

theorem followedBy_assoc : (a.followedBy b).followedBy c = a.followedBy (b.followedBy c) := by
  cases ha : a.failure with
  | some reason => simp [followedBy, ha]
  | none =>
    cases hb : b.failure with
    | some reason =>
      rw [followedBy_of_none ha, followedBy_of_none ha]
      simp [followedBy, hb]
    | none =>
      rw [followedBy_of_none ha, followedBy_of_none ha, followedBy_of_none hb]
      simp [followedBy, hb, ByteArray.append_assoc, Option.or_assoc]

end Content

theorem contentOf_append (xs ys : List Event) : contentOf (xs ++ ys) = (contentOf xs).followedBy (contentOf ys) := by
  induction xs with
  | nil => simp
  | cons x xs ih =>
    cases x with
    | data bytes =>
      rw [List.cons_append, contentOf_data, ih, contentOf_data]
      cases h : (contentOf xs).failure <;> simp [Content.followedBy, h, ByteArray.append_assoc]
    | trailers headers =>
      rw [List.cons_append, contentOf_trailers, ih, contentOf_trailers]
      cases h : (contentOf xs).failure <;> simp [Content.followedBy, h]
    | failure reason => simp [Content.followedBy]
    | wait time => exact ih

/-! ### Data and failures -/

/-- All of the data, whatever fails in between. -/
def dataOf : List Event → ByteArray
  | [] => .empty
  | .data bytes :: rest => bytes ++ dataOf rest
  | _ :: rest => dataOf rest

def failuresOf (events : List Event) : List String :=
  events.filterMap fun
    | .failure reason => some reason
    | _ => none

theorem dataOf_append (xs ys : List Event) : dataOf (xs ++ ys) = dataOf xs ++ dataOf ys := by
  induction xs with
  | nil => exact ByteArray.empty_append.symm
  | cons x xs ih =>
    cases x with
    | data bytes => rw [List.cons_append, dataOf, dataOf, ih, ByteArray.append_assoc]
    | _ => exact ih

theorem failuresOf_append (xs ys : List Event) : failuresOf (xs ++ ys) = failuresOf xs ++ failuresOf ys :=
  List.filterMap_append

/-- As long as nothing fails a reader who stops at the first failure has all of the data. -/
theorem contentOf_of_failuresOf {events : List Event} (h : failuresOf events = []) :
    (contentOf events).data = dataOf events ∧ (contentOf events).failure = none := by
  induction events with
  | nil => exact ⟨rfl, rfl⟩
  | cons e events ih =>
    cases e with
    | data bytes =>
      obtain ⟨hdata, hfailure⟩ := ih h
      exact ⟨congrArg (bytes ++ ·) hdata, hfailure⟩
    | trailers headers => exact ih h
    | failure reason => cases h
    | wait time => exact ih h

/-! ### Waits -/

def OnlyWaits (events : List Event) : Prop := ∀ e ∈ events, ∃ time, e = .wait time

@[simp] theorem onlyWaits_nil : OnlyWaits [] := fun _ he => by cases he

@[simp] theorem onlyWaits_cons {e : Event} {events : List Event} :
    OnlyWaits (e :: events) ↔ (∃ time, e = .wait time) ∧ OnlyWaits events := List.forall_mem_cons

theorem contentOf_waits {events : List Event} (h : OnlyWaits events) : contentOf events = ⟨.empty, none, none⟩ := by
  induction events with
  | nil => rfl
  | cons e events ih =>
    obtain ⟨⟨time, rfl⟩, hrest⟩ := onlyWaits_cons.mp h
    exact ih hrest

theorem failuresOf_waits {events : List Event} (h : OnlyWaits events) : failuresOf events = [] := by
  refine List.filterMap_eq_nil_iff.mpr fun e he => ?_
  obtain ⟨time, rfl⟩ := h e he
  rfl

theorem dataOf_waits {events : List Event} (h : OnlyWaits events) : dataOf events = .empty := by
  rw [← (contentOf_of_failuresOf (failuresOf_waits h)).1, contentOf_waits h]

/-! ### Trailers at the end -/

/-- Nothing but waits stands behind trailers. -/
def TrailersLast : List Event → Prop
  | [] => True
  | .trailers _ :: rest => OnlyWaits rest
  | _ :: rest => TrailersLast rest

theorem trailersLast_waits {events : List Event} (h : OnlyWaits events) : TrailersLast events := by
  induction events with
  | nil => trivial
  | cons e events ih =>
    obtain ⟨⟨time, rfl⟩, hrest⟩ := onlyWaits_cons.mp h
    exact ih hrest

theorem trailersLast_append {xs ys : List Event} (h : TrailersLast (xs ++ ys)) : TrailersLast ys := by
  induction xs with
  | nil => exact h
  | cons x xs ih =>
    cases x with
    | trailers headers => exact trailersLast_waits fun e he => h e (List.mem_append_right _ he)
    | data bytes => exact ih h
    | failure reason => exact ih h
    | wait time => exact ih h

end Body
end Gateway.Http
