import Gateway.Html.Token
import Gateway.Html.Tree.Arena

/-! What the maker of a tree knows: the tree so far, the elements that are open, the formatting that goes
    on when an element is closed too early, and which rules apply to the next token. The stack of open
    elements holds the innermost first, so closing elements is dropping them from the front. -/

namespace Gateway.Html.Tree

/-- The places in a page, each with rules of its own. -/
inductive Mode
  | initial
  | beforeHtml
  | beforeHead
  | inHead
  | afterHead
  | inBody
  | text
  | inTable
  | inTableText
  | inCaption
  | inColumnGroup
  | inTableBody
  | inRow
  | inCell
  | inSelect
  | inSelectInTable
  | inTemplate
  | afterBody
  | inFrameset
  | afterFrameset
  | afterAfterBody
  | afterAfterFrameset
deriving DecidableEq, Repr

/-- A formatting element that goes on, with the tag that it came from, or a border that formatting does
    not cross. -/
inductive Formatting
  | marker
  | element (node : Nat) (tag : Tag)
deriving DecidableEq, Repr

structure Builder where
  arena : Arena
  mode : Mode
  /-- The rules to go back to behind a text. -/
  previous : Mode
  /-- The rules for the open templates, the innermost first. -/
  templateModes : List Mode
  /-- The open elements, the innermost first. -/
  stack : List Nat
  /-- The formatting that goes on, the latest first. -/
  formatting : List Formatting
  head : Option Nat
  form : Option Nat
  /-- The text between the parts of a table, the last piece first. -/
  tableText : List (List Char)
  /-- A frameset may still take the place of the body. -/
  framesetOk : Bool
  /-- The page is laid out as old browsers did. -/
  oldLayout : Bool
  /-- A line end at the start of the next text does not count. -/
  skipLine : Bool
  /-- What does not belong into a table is put in front of it. -/
  fostering : Bool
  /-- How the next text is read. -/
  content : Content

/-- What follows when a token has been taken: the next one, or a token that other rules take. -/
inductive Next
  | done
  | again (token : Token)

abbrev Build := StateM Builder

namespace Builder

def empty : Builder := {
  arena := .empty, mode := .initial, previous := .initial, templateModes := [], stack := []
  formatting := [], head := none, form := none, tableText := [], framesetOk := true, oldLayout := false
  skipLine := false, fostering := false, content := .markup }

/-! ### Sets of elements -/

/-- A set of elements, by name. -/
abbrev Names := ElementName → Bool

def htmlNames (tags : List String) : Names := fun n => n.space == .html && tags.contains n.tag

/-- Elements of mathematics that hold text. -/
def holdsMathText : Names := fun n => n.space == .mathml && ["mi", "mo", "mn", "ms", "mtext"].contains n.tag

/-- Elements of drawings that hold elements of pages. -/
def holdsHtml : Names := fun n => n.space == .svg && ["foreignObject", "desc", "title"].contains n.tag

def defaultScope : Names := fun n =>
  htmlNames ["applet", "caption", "html", "table", "td", "th", "marquee", "object", "template"] n ||
    holdsMathText n || holdsHtml n

def listItemScope : Names := fun n => htmlNames ["ol", "ul"] n || defaultScope n
def buttonScope : Names := fun n => htmlNames ["button"] n || defaultScope n
def tableScope : Names := htmlNames ["html", "table", "template"]
def selectScope : Names := fun n => !htmlNames ["optgroup", "option"] n
def tableBodyContext : Names := htmlNames ["tbody", "tfoot", "thead", "template", "html"]
def tableRowContext : Names := htmlNames ["tr", "template", "html"]
def cells : Names := htmlNames ["td", "th"]
def headings : Names := htmlNames ["h1", "h2", "h3", "h4", "h5", "h6"]

/-- Elements whose end tags may be left out. -/
def impliedEnds : List String := ["dd", "dt", "li", "option", "optgroup", "p", "rb", "rp", "rt", "rtc"]

def thoroughImpliedEnds : List String :=
  impliedEnds ++ ["caption", "colgroup", "tbody", "td", "tfoot", "th", "thead", "tr"]

/-- Elements that end tags of other elements do not close. -/
def special : Names := htmlNames [
  "address", "applet", "area", "article", "aside", "base", "basefont", "bgsound", "blockquote", "body",
  "br", "button", "caption", "center", "col", "colgroup", "dd", "details", "dir", "div", "dl", "dt",
  "embed", "fieldset", "figcaption", "figure", "footer", "form", "frame", "frameset", "h1", "h2", "h3",
  "h4", "h5", "h6", "head", "header", "hgroup", "hr", "html", "iframe", "img", "input", "isindex", "li",
  "link", "listing", "main", "marquee", "menu", "meta", "nav", "noembed", "noframes", "noscript", "object",
  "ol", "p", "param", "plaintext", "pre", "script", "section", "select", "source", "style", "summary",
  "table", "tbody", "td", "template", "textarea", "tfoot", "th", "thead", "title", "tr", "track", "ul",
  "wbr", "xmp"]

/-! ### Looking at the stack -/

/-- The element is one of `names`. -/
def isOne (b : Builder) (names : Names) (n : Nat) : Bool := (b.arena.name? n).any names

def isHtml (b : Builder) (tag : String) (n : Nat) : Bool := b.isOne (htmlNames [tag]) n

def current? (b : Builder) : Option Nat := b.stack.head?

def currentIs (b : Builder) (names : Names) : Bool := b.stack.head?.any (b.isOne names)

def currentIsHtml (b : Builder) (tag : String) : Bool := b.currentIs (htmlNames [tag])

/-- Some element that satisfies `wanted` is open, and none of `border` stands in front of it. -/
def findInScope (border wanted : Nat → Bool) : List Nat → Bool
  | [] => false
  | n :: rest => wanted n || (!border n && findInScope border wanted rest)

def inScope (b : Builder) (scope : Names) (wanted : Nat → Bool) : Bool :=
  findInScope (b.isOne scope) wanted b.stack

def inScopeHtml (b : Builder) (scope : Names) (tag : String) : Bool := b.inScope scope (b.isHtml tag)

def isOpen (b : Builder) (tag : String) : Bool := b.stack.any (b.isHtml tag)

/-- The body, if it is open. -/
def body? (b : Builder) : Option Nat :=
  match b.stack.reverse with
  | _ :: n :: _ => if b.isHtml "body" n then some n else none
  | _ => none

/-- The rules for a select element depend on a table around it. -/
def selectMode (b : Builder) : List Nat → Mode
  | [] => .inSelect
  | n :: outer =>
    if b.isHtml "template" n then .inSelect
    else if b.isHtml "table" n then .inSelectInTable
    else selectMode b outer

/-- The rules that the innermost element asks for. -/
def modeOf (b : Builder) : List Nat → Mode
  | [] => .inBody
  | n :: outer =>
    let last := outer.isEmpty
    match b.arena.name? n with
    | some ⟨.html, tag⟩ =>
      match tag with
      | "select" => b.selectMode outer
      | "td" | "th" => if last then modeOf b outer else .inCell
      | "tr" => .inRow
      | "tbody" | "thead" | "tfoot" => .inTableBody
      | "caption" => .inCaption
      | "colgroup" => .inColumnGroup
      | "table" => .inTable
      | "template" => b.templateModes.head?.getD .inBody
      | "head" => if last then modeOf b outer else .inHead
      | "body" => .inBody
      | "frameset" => .inFrameset
      | "html" => if b.head.isSome then .afterHead else .beforeHead
      | _ => modeOf b outer
    | _ => modeOf b outer

def resetMode (b : Builder) : Mode := b.modeOf b.stack

end Builder

namespace Build
open Builder

/-! ### Closing -/

def setMode (mode : Mode) : Build Unit := modify fun b => { b with mode }

def setStack (stack : List Nat) : Build Unit := modify fun b => { b with stack }

def noFrameset : Build Unit := modify fun b => { b with framesetOk := false }

def pop : Build Unit := modify fun b => { b with stack := b.stack.tail }

/-- Closes elements up to and with the innermost one of `names`. -/
def popUntil (names : Names) : Build Unit :=
  modify fun b => { b with stack := (b.stack.dropWhile fun n => !b.isOne names n).tail }

def popUntilHtml (tag : String) : Build Unit := popUntil (htmlNames [tag])

/-- Closes the elements within the innermost one of `names`. -/
def popWithin (names : Names) : Build Unit :=
  modify fun b => { b with stack := b.stack.dropWhile fun n => !b.isOne names n }

/-- Closes the innermost elements as long as they are among `tags`. -/
def closeImplied (tags : List String) : Build Unit :=
  modify fun b => { b with stack := b.stack.dropWhile (b.isOne (htmlNames tags)) }

def closeImpliedExcept (tag : String) : Build Unit := closeImplied (impliedEnds.filter (· != tag))

def removeFromStack (n : Nat) : Build Unit := modify fun b => { b with stack := b.stack.erase n }

def closeParagraph : Build Unit := do
  closeImpliedExcept "p"
  popUntilHtml "p"

def closeParagraphInScope : Build Unit := do
  if (← get).inScopeHtml buttonScope "p" then closeParagraph

/-! ### Inserting -/

/-- Where a node goes. -/
inductive Place
  | within (parent : Nat)
  | before (sibling : Nat)

/-- In front of the innermost table, or within the contents of a template inside of it. A table that was
    taken out of the page leaves the element around it. -/
def fosterPlace (b : Builder) : List Nat → Place
  | [] => .within ((b.stack.getLast?).getD 0)
  | n :: outer =>
    if b.isHtml "template" n then .within ((b.arena.contents? n).getD n)
    else if b.isHtml "table" n then
      if (b.arena.parent? n).isSome then .before n else .within (outer.head?.getD 0)
    else fosterPlace b outer

/-- Where a node goes that belongs into `target`. -/
def placeFor (b : Builder) (target : Nat) : Place :=
  if b.fostering ∧ b.isOne (htmlNames ["table", "tbody", "tfoot", "thead", "tr"]) target then
    fosterPlace b b.stack
  else if b.isHtml "template" target then .within ((b.arena.contents? target).getD target)
  else .within target

/-- The number of the parent and the place within it. -/
def sibling? (a : Arena) (n : Nat) : Option (Nat × Nat) := do
  let p ← a.parent? n
  return (p, ← (a.children p).findIdx? (· == n))

/-- Puts a node into `target`, or where it has to go instead. -/
def insertInto (target n : Nat) : Build Unit := modify fun b =>
  { b with arena :=
    match placeFor b target with
    | .within p => b.arena.append p n
    | .before s =>
      match sibling? b.arena s with
      | some (p, i) => b.arena.insertAt p i n
      | none => b.arena }

def insertNode (n : Nat) : Build Unit := do insertInto ((← get).current?.getD 0) n

def insertText (text : List Char) : Build Unit := modify fun b =>
  let text := String.ofList text
  { b with arena :=
    match placeFor b (b.current?.getD 0) with
    | .within p => b.arena.appendText p text
    | .before s =>
      match sibling? b.arena s with
      | some (p, i) => b.arena.insertText p i text
      | none => b.arena }

def alloc (content : CellContent) : Build Nat := modifyGet fun b =>
  let (arena, n) := b.arena.alloc content
  (n, { b with arena })

/-- A new element, which stands nowhere yet. -/
def create (name : ElementName) (attributes : List Attribute) : Build Nat := do
  let contents ← if name == ⟨.html, "template"⟩ then some <$> alloc .contents else pure none
  alloc (.element name attributes contents)

def push (n : Nat) : Build Unit := modify fun b => { b with stack := n :: b.stack }

/-- Inserts an element and opens it. -/
def insertNamed (name : ElementName) (attributes : List Attribute) : Build Nat := do
  let n ← create name attributes
  insertNode n
  push n
  return n

def insertElement (tag : Tag) : Build Nat := insertNamed ⟨.html, tag.name⟩ tag.attributes

/-- Inserts an element that nothing can be in. -/
def insertEmpty (tag : Tag) : Build Nat := do
  let n ← insertElement tag
  pop
  return n

/-- Inserts an element that the page leaves out. -/
def insertImplied (tag : String) : Build Nat := insertNamed ⟨.html, tag⟩ []

def insertComment (text : String) : Build Unit := do insertNode (← alloc (.comment text))

/-- Puts a comment behind the children of `n`. -/
def appendComment (n : Nat) (text : String) : Build Unit := do
  let c ← alloc (.comment text)
  modify fun b => { b with arena := b.arena.append n c }

/-- Inserts an element whose inside is text. -/
def insertTextElement (tag : Tag) (content : Content) : Build Unit := do
  let _ ← insertElement tag
  modify fun b => { b with previous := b.mode, mode := .text, content }

end Build
end Gateway.Html.Tree
