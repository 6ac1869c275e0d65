import Gateway.Html.Base
import Gateway.Link.Walk

/-! The walk through a page comes to the page with all its links rerooted. At every moment the walk stands for the page that
    it would end with: what is done, the open elements around what is done in them, and what is still to do, rerooted. A
    step changes none of it, and neither does it change how many links there are to reroot in all. -/

namespace Gateway.Html

theorem elementsAll_append (xs ys : List Node) : elementsAll (xs ++ ys) = elementsAll xs ++ elementsAll ys := by
  induction xs with
  | nil => rfl
  | cons x xs ih => simp [elementsAll, ih]

end Gateway.Html

namespace Gateway.Link

open Html

theorem rerootedAll_append (view : View) (xs ys : List Node) :
    rerootedAll view (xs ++ ys) = rerootedAll view xs ++ rerootedAll view ys := by
  induction xs with
  | nil => rfl
  | cons x xs ih => simp [rerootedAll, ih]

theorem countLinksAll_append (view : View) (xs ys : List Node) :
    countLinksAll view (xs ++ ys) = countLinksAll view xs + countLinksAll view ys := by
  induction xs with
  | nil => simp [countLinksAll]
  | cons x xs ih =>
    simp only [List.cons_append, countLinksAll, ih]
    omega

/-- What becomes of an element and its attributes. -/
def rerootElement (view : View) (element : ElementName × List Attribute) : ElementName × List Attribute :=
  (element.1, element.2.map (rerootAttribute view element.1.tag))

mutual
theorem elements_rerooted (view : View) :
    ∀ node, elements (rerooted view node) = (elements node).map (rerootElement view)
  | .element name attributes children contents => by
    simp [rerooted, elements, rerootElement, elementsAll_append, elementsAll_rerootedAll, elementsAll]
  | .text _ | .comment _ | .doctype _ => rfl

/-- The elements of a page stay in their order, also those that were the contents of a template. -/
theorem elementsAll_rerootedAll (view : View) :
    ∀ nodes, elementsAll (rerootedAll view nodes) = (elementsAll nodes).map (rerootElement view)
  | [] => rfl
  | node :: nodes => by
    simp only [rerootedAll, elementsAll, List.map_append, elements_rerooted view node, elementsAll_rerootedAll view nodes]
end

namespace Walk
variable {view : View}

/-- Some nodes inside the open elements, with what is done in these before them and what is to do behind them. -/
def inside (view : View) : List Frame → List Node → List Node
  | [], inner => inner
  | f :: frames, inner =>
    inside view frames [.element f.name f.attributes (f.done.reverse ++ inner ++ rerootedAll view f.todo) []]

/-- The page that a walk will end with. -/
def page (view : View) (w : Walk) : List Node :=
  w.done.reverse ++ inside view w.frames [] ++ rerootedAll view w.todo

/-- The number of links still to be rerooted inside the open elements. -/
def pending (view : View) : List Frame → Nat
  | [] => 0
  | f :: frames => countLinksAll view f.todo + pending view frames

/-- The number of links that a walk will have rerooted. -/
def total (view : View) (w : Walk) : Nat := w.count + pending view w.frames + countLinksAll view w.todo

theorem page_put (w : Walk) (node : Node) :
    (w.put node).page view = w.done.reverse ++ inside view w.frames [node] ++ rerootedAll view w.todo := by
  unfold put page
  split
  · rename_i hf
    simp [hf, inside]
  · rename_i f frames hf
    simp [hf, inside]

theorem total_put (w : Walk) (node : Node) : (w.put node).total view = w.total view := by
  unfold put total
  split
  · rfl
  · rename_i f frames hf
    simp [hf, pending]

theorem page_enter (w : Walk) (node : Node) : (w.enter view node).page view =
    w.done.reverse ++ inside view w.frames [rerooted view node] ++ rerootedAll view w.todo := by
  cases node with
  | element name attributes children contents =>
    simp [enter, page, inside, rerooted, rerootedAll_append]
  | text text => exact page_put w _
  | comment text => exact page_put w _
  | doctype name => exact page_put w _

theorem total_enter (w : Walk) (node : Node) :
    (w.enter view node).total view = w.total view + countLinks view node := by
  cases node with
  | element name attributes children contents =>
    simp only [enter, total, countLinks, pending, countLinksAll_append]
    omega
  | text text => exact total_put w _
  | comment text => exact total_put w _
  | doctype name => exact total_put w _

/-- A step neither changes what the walk will end with nor how many links it will have rerooted then. -/
theorem step_keeps {w v : Walk} (h : w.step? view = some v) :
    v.page view = w.page view ∧ v.total view = w.total view := by
  unfold step? at h
  split at h
  · rename_i hf
    split at h
    · cases h
    · rename_i node todo ht
      obtain rfl := Option.some.inj h
      rw [page_enter, total_enter]
      refine ⟨?_, ?_⟩
      · simp [page, hf, ht, inside, rerootedAll]
      · simp only [total, ht, countLinksAll]
        omega
  · rename_i f frames hf
    split at h
    · rename_i ht
      obtain rfl := Option.some.inj h
      rw [page_put, total_put]
      refine ⟨?_, ?_⟩
      · simp [page, hf, ht, inside, rerootedAll]
      · simp [total, pending, hf, ht, countLinksAll]
    · rename_i node todo ht
      obtain rfl := Option.some.inj h
      rw [page_enter, total_enter]
      refine ⟨?_, ?_⟩
      · simp [page, hf, ht, inside, rerootedAll]
      · simp only [total, hf, ht, countLinksAll, pending]
        omega

theorem step?_eq_none {w : Walk} (h : w.step? view = none) : w.frames = [] ∧ w.todo = [] := by
  unfold step? at h
  split at h
  · rename_i hf
    split at h
    · rename_i ht
      exact ⟨hf, ht⟩
    · cases h
  · split at h <;> cases h

/-- A walk ends with the page and the number of links that it stands for. -/
theorem run_ends (w : Walk) : (w.run view).done.reverse = w.page view ∧ (w.run view).count = w.total view := by
  fun_induction run view w with
  | case1 w h =>
    obtain ⟨hf, ht⟩ := step?_eq_none h
    exact ⟨by simp [page, hf, ht, inside, rerootedAll], by simp [total, pending, hf, ht, countLinksAll]⟩
  | case2 w v h ih =>
    obtain ⟨hpage, htotal⟩ := step_keeps h
    exact ⟨ih.1.trans hpage, ih.2.trans htotal⟩

end Walk

/-- The walk through a page gives the page with its links rerooted, and their number. -/
theorem rerootPage_eq (view : View) (nodes : List Node) :
    rerootPage view nodes = (rerootedAll view nodes, countLinksAll view nodes) := by
  obtain ⟨hpage, htotal⟩ := @Walk.run_ends view ⟨[], [], nodes, 0⟩
  rw [rerootPage, Prod.mk.injEq]
  refine ⟨hpage.trans ?_, htotal.trans ?_⟩
  · simp [Walk.page, Walk.inside]
  · simp [Walk.total, Walk.pending]

end Gateway.Link
