import Gateway.Html.Node

/-! The tree while it is being made. Nodes are moved while they are filled, so they are cells that know
    their parent and their children by number. Cell 0 is the page. Texts beside each other become one.
    `Arena.nodes` gives the finished tree. -/

namespace Gateway.Html.Tree

inductive CellContent
  | page
  /-- The contents of a template. -/
  | contents
  | text (text : String)
  | comment (text : String)
  | doctype (name : String)
  | element (name : ElementName) (attributes : List Attribute) (contents : Option Nat)

structure Cell where
  parent : Option Nat
  children : Array Nat
  content : CellContent

structure Arena where
  cells : Array Cell

namespace Arena

def empty : Arena := ⟨#[⟨none, #[], .page⟩]⟩

/-- A new cell without parent and children, and its number. -/
def alloc (a : Arena) (content : CellContent) : Arena × Nat :=
  (⟨a.cells.push ⟨none, #[], content⟩⟩, a.cells.size)

def modify (a : Arena) (n : Nat) (f : Cell → Cell) : Arena := ⟨a.cells.modify n f⟩

def name? (a : Arena) (n : Nat) : Option ElementName :=
  match a.cells[n]? with
  | some ⟨_, _, .element name _ _⟩ => some name
  | _ => none

def attributes (a : Arena) (n : Nat) : List Attribute :=
  match a.cells[n]? with
  | some ⟨_, _, .element _ attributes _⟩ => attributes
  | _ => []

def contents? (a : Arena) (n : Nat) : Option Nat :=
  match a.cells[n]? with
  | some ⟨_, _, .element _ _ contents⟩ => contents
  | _ => none

def parent? (a : Arena) (n : Nat) : Option Nat := a.cells[n]?.bind (·.parent)

def children (a : Arena) (n : Nat) : Array Nat := (a.cells[n]?.map (·.children)).getD #[]

def isText (a : Arena) (n : Nat) : Bool :=
  match a.cells[n]? with
  | some ⟨_, _, .text _⟩ => true
  | _ => false

/-! ### Moving -/

def detach (a : Arena) (n : Nat) : Arena :=
  match a.parent? n with
  | none => a
  | some p =>
    (a.modify p fun c => { c with children := c.children.filter (· != n) }).modify n
      fun c => { c with parent := none }

/-- Puts a cell without parent behind the children of `p`. -/
def append (a : Arena) (p n : Nat) : Arena :=
  (a.modify p fun c => { c with children := c.children.push n }).modify n fun c => { c with parent := some p }

/-- Puts a cell without parent among the children of `p` at the place `i`. -/
def insertAt (a : Arena) (p i n : Nat) : Arena :=
  (a.modify p fun c => { c with children := c.children.insertIdxIfInBounds i n }).modify n
    fun c => { c with parent := some p }

/-- Moves all children of `p` behind those of `q`. -/
def moveChildren (a : Arena) (p q : Nat) : Arena :=
  let moved := a.children p
  let a := a.modify p fun c => { c with children := #[] }
  let a := a.modify q fun c => { c with children := c.children ++ moved }
  moved.foldl (fun a n => a.modify n fun c => { c with parent := some q }) a

/-- Adds a text to a text. -/
def extendText (a : Arena) (n : Nat) (text : String) : Arena :=
  a.modify n fun c => match c with
    | ⟨p, cs, .text old⟩ => ⟨p, cs, .text (old ++ text)⟩
    | c => c

def appendText (a : Arena) (p : Nat) (text : String) : Arena :=
  match (a.children p).back? with
  | some last =>
    if a.isText last then a.extendText last text
    else let (a, n) := a.alloc (.text text); a.append p n
  | none => let (a, n) := a.alloc (.text text); a.append p n

/-- Puts a text before the child at the place `i`. -/
def insertText (a : Arena) (p i : Nat) (text : String) : Arena :=
  match if i = 0 then none else (a.children p)[i - 1]? with
  | some before =>
    if a.isText before then a.extendText before text
    else let (a, n) := a.alloc (.text text); a.insertAt p i n
  | none => let (a, n) := a.alloc (.text text); a.insertAt p i n

/-- Adds the attributes whose names the element does not have. -/
def addMissing (a : Arena) (n : Nat) (attributes : List Attribute) : Arena :=
  a.modify n fun c => match c with
    | ⟨p, cs, .element name old contents⟩ =>
      let added := attributes.filter fun x => !old.any fun y => y.space == x.space && y.name == x.name
      ⟨p, cs, .element name (old ++ added) contents⟩
    | c => c

/-! ### The finished tree -/

/-- An element whose insides are being put together. -/
structure Frame where
  name : ElementName
  attributes : List Attribute
  /-- Children that are finished, the last one first, and those that are not. -/
  done : List Node
  todo : List Nat
  /-- The same for the contents of a template. -/
  contentsDone : List Node
  contentsTodo : List Nat

/-- What one step of the assembly works on: the finished nodes of the page, the last one first, those
    that are not finished, and the elements that are open, the innermost first. -/
structure Assembly where
  done : List Node
  todo : List Nat
  frames : List Frame

namespace Assembly

/-- Puts a finished node where it belongs. -/
def finish (s : Assembly) (node : Node) : Assembly :=
  match s.frames with
  | [] => { s with done := node :: s.done }
  | f :: frames =>
    if f.todo = [] ∧ f.contentsTodo ≠ [] then
      let f := { f with contentsDone := node :: f.contentsDone, contentsTodo := f.contentsTodo.tail }
      { s with frames := f :: frames }
    else { s with frames := { f with done := node :: f.done, todo := f.todo.tail } :: frames }

def enter (a : Arena) (s : Assembly) (n : Nat) : Assembly :=
  match a.cells[n]? with
  | some ⟨_, children, .element name attributes contents⟩ =>
    let inside := (contents.map fun c => (a.children c).toList).getD []
    { s with frames := ⟨name, attributes, [], children.toList, [], inside⟩ :: s.frames }
  | some ⟨_, _, .text text⟩ => s.finish (.text text)
  | some ⟨_, _, .comment text⟩ => s.finish (.comment text)
  | some ⟨_, _, .doctype name⟩ => s.finish (.doctype name)
  | _ => s

/-- One step, unless nothing is left to do. -/
def step (a : Arena) (s : Assembly) : Assembly :=
  match s.frames with
  | [] =>
    match s.todo with
    | [] => s
    | n :: todo => enter a { s with todo } n
  | f :: frames =>
    match f.todo, f.contentsTodo with
    | n :: _, _ => enter a s n
    | [], n :: _ => enter a s n
    | [], [] =>
      { s with frames }.finish (.element f.name f.attributes f.done.reverse f.contentsDone.reverse)

end Assembly

def assemble (a : Arena) : Nat → Assembly → Assembly
  | 0, s => s
  | n + 1, s => assemble a n (s.step a)

/-- The page's nodes. Each cell is entered once and each element left once. -/
def nodes (a : Arena) : List Node :=
  (assemble a (2 * a.cells.size + 2) ⟨[], (a.children 0).toList, []⟩).done.reverse

end Arena
end Gateway.Html.Tree
