import Gateway.Proofs.Link.Walk

/-! What the walk through a page visits. The nodes that wait are a stack: a step takes the first of them and puts what is in it
    in its place, the children and behind them the contents of a template. So what waits stands for all elements still to be
    visited, in the order of the page, and none of them is visited twice. -/

namespace Gateway.Html

/-- The element that a node is. -/
def Node.element? : Node → Option (ElementName × List Attribute)
  | .element name attributes _ _ => some (name, attributes)
  | _ => none

/-- The nodes that an element holds. -/
def Node.inner : Node → List Node
  | .element _ _ children contents => children ++ contents
  | _ => []

theorem elements_eq (node : Node) : elements node = node.element?.toList ++ elementsAll node.inner := by
  cases node with
  | element name attributes children contents => simp [elements, Node.element?, Node.inner, elementsAll_append]
  | text | comment | doctype => rfl

/-- The attributes of a page, each with the tag that it stands in. -/
def attributesAll (nodes : List Node) : List (String × Attribute) :=
  (elementsAll nodes).flatMap fun element => element.2.map fun a => (element.1.tag, a)

end Gateway.Html

namespace Gateway.Link

open Html

variable {view : View}

/-! ### Attributes -/

theorem newValue?_eq_some_iff {tag value : String} {a : Attribute} : newValue? view tag a = some value ↔
    a.name ∈ (attributes? tag).getD [] ∧ reroot? view a.value = some value := by
  unfold newValue?
  by_cases hlisted : a.name ∈ (attributes? tag).getD []
  · simp [hlisted]
  · simp [hlisted]

theorem rerootAttribute_eq (tag : String) (a : Attribute) :
    rerootAttribute view tag a = { a with value := (newValue? view tag a).getD a.value } := by
  unfold rerootAttribute
  cases newValue? view tag a <;> rfl

/-- Whether an attribute is replaced that stands in a tag. -/
def isReplaced (view : View) (placed : String × Attribute) : Bool := (newValue? view placed.1 placed.2).isSome

theorem countAttributes_eq (name : ElementName) (attributes : List Attribute) :
    countAttributes view name.tag attributes = (attributes.map fun a => (name.tag, a)).countP (isReplaced view) := by
  rw [List.countP_map]
  rfl

mutual
theorem countLinks_eq : ∀ node, countLinks view node = (attributesAll [node]).countP (isReplaced view)
  | .element name attributes children contents => by
    have hchildren := countLinksAll_eq children
    have hcontents := countLinksAll_eq contents
    simp only [attributesAll] at hchildren hcontents
    simp only [countLinks, countAttributes_eq, hchildren, hcontents, attributesAll, elementsAll, elements, List.append_nil,
      List.flatMap_cons, List.flatMap_append, List.countP_append]
    omega
  | .text _ | .comment _ | .doctype _ => rfl

/-- The links of a page that are rerooted are attributes of it, each counted once. -/
theorem countLinksAll_eq : ∀ nodes, countLinksAll view nodes = (attributesAll nodes).countP (isReplaced view)
  | [] => rfl
  | node :: nodes => by
    have hnode := countLinks_eq node
    have hnodes := countLinksAll_eq nodes
    simp only [attributesAll, elementsAll, List.append_nil] at hnode hnodes
    simp only [countLinksAll, hnode, hnodes, attributesAll, elementsAll, List.flatMap_append, List.countP_append]
end

/-! ### One step -/

namespace Walk

/-- The nodes that wait to be taken up, the next one first. -/
def waiting (w : Walk) : List Node := w.frames.flatMap Frame.todo ++ w.todo

/-- The node that the next step takes up; none if it leaves an element. -/
def next? (w : Walk) : Option Node :=
  match w.frames with
  | [] => w.todo.head?
  | f :: _ => f.todo.head?

theorem waiting_put (w : Walk) (node : Node) : (w.put node).waiting = w.waiting := by
  unfold put waiting
  split
  · rfl
  · rename_i f frames hf
    simp [hf]

theorem waiting_enter (w : Walk) (node : Node) : (w.enter view node).waiting = node.inner ++ w.waiting := by
  cases node with
  | element name attributes children contents => simp [enter, waiting, Node.inner]
  | text text => exact waiting_put w _
  | comment text => exact waiting_put w _
  | doctype name => exact waiting_put w _

/-- A step leaves an element, or puts what is in the first node that waits in its place. -/
theorem waiting_step? {w v : Walk} (h : w.step? view = some v) :
    (w.next? = none ∧ v.waiting = w.waiting) ∨
      ∃ node rest, w.next? = some node ∧ w.waiting = node :: rest ∧ v.waiting = node.inner ++ rest := by
  unfold step? at h
  split at h
  · rename_i hf
    split at h
    · cases h
    · rename_i node todo ht
      obtain rfl := Option.some.inj h
      refine Or.inr ⟨node, todo, by simp [next?, hf, ht], by simp [waiting, hf, ht], ?_⟩
      rw [waiting_enter]
      simp [waiting, hf]
  · rename_i f frames hf
    split at h
    · rename_i ht
      obtain rfl := Option.some.inj h
      refine Or.inl ⟨by simp [next?, hf, ht], ?_⟩
      rw [waiting_put]
      simp [waiting, hf, ht]
    · rename_i node todo ht
      obtain rfl := Option.some.inj h
      refine Or.inr ⟨node, todo ++ frames.flatMap Frame.todo ++ w.todo, by simp [next?, hf, ht],
        by simp [waiting, hf, ht], ?_⟩
      rw [waiting_enter]
      simp [waiting]

/-! ### All steps -/

/-- The elements that a walk takes up, one after the other, as it finds them. -/
def visits (view : View) (w : Walk) : List (ElementName × List Attribute) :=
  match _h : w.step? view with
  | none => []
  | some v => (w.next?.bind Node.element?).toList ++ visits view v
termination_by w.left
decreasing_by exact left_step? _h

theorem visits_eq (w : Walk) : w.visits view = elementsAll w.waiting := by
  fun_induction visits view w with
  | case1 w h =>
    obtain ⟨hf, ht⟩ := step?_eq_none h
    simp [waiting, hf, ht, elementsAll]
  | case2 w v h ih =>
    rcases waiting_step? h with ⟨hnext, hwaiting⟩ | ⟨node, rest, hnext, hwaiting, hbehind⟩
    · rw [ih, hwaiting, hnext]
      rfl
    · rw [ih, hwaiting, hbehind, hnext, elementsAll_append, elementsAll, elements_eq, List.append_assoc]
      rfl

theorem step?_run (w : Walk) : (w.run view).step? view = none := by
  fun_induction run view w with
  | case1 w h => exact h
  | case2 w v h ih => exact ih

/-- A walk in front of a page. -/
def start (nodes : List Node) : Walk := ⟨[], [], nodes, 0⟩

end Walk

/-- The walk comes to an end, has visited every element of the page once, as it was and in the order of the page, and leaves
    the page with its links rerooted and with nothing else changed. -/
theorem rerootPage_walks_all (view : View) (nodes : List Node) :
    (Walk.run view (Walk.start nodes)).step? view = none ∧
    Walk.visits view (Walk.start nodes) = elementsAll nodes ∧
    (rerootPage view nodes).1 = rerootedAll view nodes ∧
    (rerootPage view nodes).2 = (attributesAll nodes).countP (isReplaced view) ∧
    elementsAll (rerootPage view nodes).1 = (elementsAll nodes).map (rerootElement view) ∧
    (∀ tag a, rerootAttribute view tag a = { a with value := (newValue? view tag a).getD a.value }) ∧
    ∀ tag a value, newValue? view tag a = some value ↔
      a.name ∈ (attributes? tag).getD [] ∧ reroot? view a.value = some value := by
  refine ⟨Walk.step?_run _, ?_, ?_, ?_, ?_, rerootAttribute_eq, fun _ _ _ => newValue?_eq_some_iff⟩
  · rw [Walk.visits_eq]
    rfl
  · rw [rerootPage_eq]
  · rw [rerootPage_eq, countLinksAll_eq]
  · rw [rerootPage_eq, elementsAll_rerootedAll]

end Gateway.Link
