import Gateway.Html.Node
import Gateway.Link.Attributes
import Gateway.Link.Rerooting

/-! The links of a page. `Walk` goes through a page element by element with the open elements as frames, so
    that no depth of a page matters: it reroots the link attributes of each element, counts them, and puts
    the contents of a template behind its children, where they are seen and written like these.
    `rerootedAll` says on its own what becomes of a page. -/

namespace Gateway.Link

open Html

/-! ### One element -/

/-- The new value of an attribute of the element `tag`, if it is a link that has to be rerooted. -/
def newValue? (view : View) (tag : String) (a : Attribute) : Option String :=
  if ((attributes? tag).getD []).contains a.name then reroot? view a.value else none

def rerootAttribute (view : View) (tag : String) (a : Attribute) : Attribute :=
  match newValue? view tag a with
  | some value => { a with value }
  | none => a

/-- How many attributes of an element are rerooted. -/
def countAttributes (view : View) (tag : String) (attributes : List Attribute) : Nat :=
  attributes.countP fun a => (newValue? view tag a).isSome

/-! ### The whole page at once -/

mutual
/-- A node with all links in it rerooted and the contents of templates behind their children. -/
def rerooted (view : View) : Node → Node
  | .element name attributes children contents =>
    .element name (attributes.map (rerootAttribute view name.tag))
      (rerootedAll view children ++ rerootedAll view contents) []
  | node => node

def rerootedAll (view : View) : List Node → List Node
  | [] => []
  | node :: nodes => rerooted view node :: rerootedAll view nodes
end

mutual
/-- The number of links in a node that are rerooted. -/
def countLinks (view : View) : Node → Nat
  | .element name attributes children contents =>
    countAttributes view name.tag attributes + countLinksAll view children + countLinksAll view contents
  | _ => 0

def countLinksAll (view : View) : List Node → Nat
  | [] => 0
  | node :: nodes => countLinks view node + countLinksAll view nodes
end

/-! ### The walk -/

/-- An element that the walk is in: its attributes are done, of its children those in `done`, the last
    one first. -/
structure Frame where
  name : ElementName
  attributes : List Attribute
  done : List Node
  todo : List Node

structure Walk where
  /-- The elements that the walk is in, the innermost first. -/
  frames : List Frame
  done : List Node
  todo : List Node
  count : Nat

namespace Walk

mutual
/-- The number of steps that a node takes. -/
def steps : Node → Nat
  | .element _ _ children contents => stepsAll children + stepsAll contents + 2
  | _ => 1

def stepsAll : List Node → Nat
  | [] => 0
  | node :: nodes => steps node + stepsAll nodes
end

theorem stepsAll_append (xs ys : List Node) : stepsAll (xs ++ ys) = stepsAll xs + stepsAll ys := by
  induction xs with
  | nil => simp [stepsAll]
  | cons x xs ih => simp [stepsAll, ih]; omega

/-- The number of steps that are left. -/
def left (w : Walk) : Nat := w.frames.foldr (fun f n => stepsAll f.todo + 1 + n) 0 + stepsAll w.todo

/-- Adds a finished node to what is done of the innermost element. -/
def put (w : Walk) (node : Node) : Walk :=
  match w.frames with
  | [] => { w with done := node :: w.done }
  | f :: frames => { w with frames := { f with done := node :: f.done } :: frames }

theorem left_put (w : Walk) (node : Node) : (w.put node).left = w.left := by
  unfold put left
  split <;> simp_all

/-- Takes up a node: an element becomes a frame, all else is done at once. -/
def enter (view : View) (w : Walk) : Node → Walk
  | .element name attributes children contents =>
    { w with
      frames := ⟨name, attributes.map (rerootAttribute view name.tag), [], children ++ contents⟩ :: w.frames
      count := w.count + countAttributes view name.tag attributes }
  | node => w.put node

theorem left_enter (view : View) (w : Walk) (node : Node) :
    (w.enter view node).left + 1 = w.left + steps node := by
  cases node with
  | element name attributes children contents =>
    simp [enter, left, stepsAll_append, steps]; omega
  | _ => simp [enter, left_put, steps]

/-- One step; nothing when all is done. -/
def step? (view : View) (w : Walk) : Option Walk :=
  match w.frames with
  | [] =>
    match w.todo with
    | [] => none
    | node :: todo => some ({ w with todo }.enter view node)
  | f :: frames =>
    match f.todo with
    | [] => some ({ w with frames }.put (.element f.name f.attributes f.done.reverse []))
    | node :: todo => some ({ w with frames := { f with todo } :: frames }.enter view node)

theorem left_step? {view : View} {w v : Walk} (h : w.step? view = some v) : v.left < w.left := by
  unfold step? at h
  split at h
  · rename_i hf
    split at h
    · simp at h
    · rename_i node todo ht
      obtain rfl := Option.some.inj h
      have := left_enter view { w with todo } node
      simp only [left, hf, ht, stepsAll] at this ⊢
      omega
  · rename_i f frames hf
    split at h
    · rename_i ht
      obtain rfl := Option.some.inj h
      rw [left_put]
      simp only [left, hf, ht, stepsAll, List.foldr_cons]
      omega
    · rename_i node todo ht
      obtain rfl := Option.some.inj h
      have := left_enter view { w with frames := { f with todo } :: frames } node
      simp only [left, hf, ht, stepsAll, List.foldr_cons] at this ⊢
      omega

/-- All steps that there are. -/
def run (view : View) (w : Walk) : Walk :=
  match _h : w.step? view with
  | none => w
  | some v => run view v
termination_by w.left
decreasing_by exact left_step? _h

end Walk

/-- Reroots the links of a page. Gives the page and the number of links that changed. -/
def rerootPage (view : View) (nodes : List Node) : List Node × Nat :=
  let w := Walk.run view ⟨[], [], nodes, 0⟩
  (w.done.reverse, w.count)

end Gateway.Link
