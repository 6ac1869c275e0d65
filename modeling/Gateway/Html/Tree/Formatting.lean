import Gateway.Html.Tree.Builder

/-! Formatting. A page may close its formatting elements in any order, and close others while they are
    open. Formatting goes on behind what was closed too early (`reconstruct`), and a formatting element
    that is closed within an element inside of it is split so that each part is where it shows
    (`adopt`). -/

namespace Gateway.Html.Tree
open Builder

namespace Formatting

def node? : Formatting → Option Nat
  | marker => none
  | element n _ => some n

def isMarker (f : Formatting) : Bool := f == .marker

end Formatting

namespace Builder

/-- The formatting since the last marker, the latest first. -/
def sinceMarker (b : Builder) : List (Nat × Tag) :=
  (b.formatting.takeWhile (!·.isMarker)).filterMap fun
    | .marker => none
    | .element n tag => some (n, tag)

/-- Formatting that does not have to be started again. -/
def isMarkerOrOpen (b : Builder) : Formatting → Bool
  | .marker => true
  | .element n _ => b.stack.contains n

end Builder

namespace Build

def addMarker : Build Unit := modify fun b => { b with formatting := .marker :: b.formatting }

def clearToMarker : Build Unit :=
  modify fun b => { b with formatting := (b.formatting.dropWhile (!·.isMarker)).tail }

def removeFormatting (n : Nat) : Build Unit :=
  modify fun b => { b with formatting := b.formatting.filter (·.node? != some n) }

/-- Starts formatting again, the earliest first. -/
def startAgain (started : List Formatting) : List Formatting → Build (List Formatting)
  | [] => return started
  | .marker :: rest => startAgain (.marker :: started) rest
  | .element _ tag :: rest => do
    let n ← insertElement tag
    startAgain (.element n tag :: started) rest

/-- Starts the latest formatting again that has been closed with what was around it. -/
def reconstruct : Build Unit := do
  let b ← get
  let closed := b.formatting.takeWhile (!b.isMarkerOrOpen ·)
  if closed ≠ [] then
    let kept := b.formatting.drop closed.length
    let started ← startAgain [] closed.reverse
    modify fun b => { b with formatting := started ++ kept }

/-- The same tag up to the order of attributes. -/
def sameTag (s t : Tag) : Bool :=
  s.name == t.name && s.attributes.length == t.attributes.length && s.attributes.all t.attributes.contains

/-- Of equal formatting since the last marker, the latest three go on. -/
def insertFormatting (tag : Tag) : Build Unit := do
  let same := (← get).sinceMarker.filter fun (_, t) => sameTag tag t
  match same.drop 2 with
  | [] => pure ()
  | later :: rest => removeFormatting (((later :: rest).getLast?.getD later).1)
  let n ← insertElement tag
  modify fun b => { b with formatting := .element n tag :: b.formatting }

/-- An end tag that no rule of its own is for closes the innermost element of its name, unless a special
    element is open within it. -/
def closeOrdinary (tag : String) : Build Unit := do
  let b ← get
  let within := b.stack.takeWhile fun n => !b.isHtml tag n
  if within.length < b.stack.length ∧ ¬ within.any (b.isOne special) then
    closeImpliedExcept tag
    setStack (b.stack.drop (within.length + 1))

/-! ### Adoption -/

/-- Where the new formatting element takes its place in the formatting that goes on. -/
inductive Bookmark
  | inPlace
  | after (node : Nat)

/-- What moves through the elements between a block and the formatting element around it. -/
structure Adoption where
  /-- The node that the next element takes in. -/
  last : Nat
  bookmark : Bookmark
  /-- The elements that stay open, the outermost first. -/
  kept : List Nat

/-- Passes one element between the block and the formatting element, the `count`-th one. It stays open
    only if it is formatting that goes on, and then as a copy that takes in what was passed before. -/
def adoptThrough (block : Nat) (s : Adoption) (count n : Nat) : Build Adoption := do
  if 3 < count then
    removeFormatting n
    return s
  match (← get).formatting.find? (·.node? == some n) with
  | some (.element _ tag) =>
    let copy ← create ⟨.html, tag.name⟩ tag.attributes
    modify fun b => { b with
      formatting := b.formatting.map fun f => if f.node? = some n then .element copy tag else f
      arena := (b.arena.detach s.last).append copy s.last }
    return {
      last := copy, kept := copy :: s.kept
      bookmark := if s.last = block then .after copy else s.bookmark }
  | _ => return s

def adoptAll (block : Nat) (s : Adoption) (count : Nat) : List Nat → Build Adoption
  | [] => return s
  | n :: rest => do adoptAll block (← adoptThrough block s count n) (count + 1) rest

/-- Replaces the formatting of `old` by `new` at its place, or behind another formatting. -/
def placeFormatting (old : Nat) (new : Formatting) : Bookmark → List Formatting → List Formatting
  | .inPlace, fs => fs.map fun f => if f.node? = some old then new else f
  | .after n, fs =>
    (fs.flatMap fun f => if f.node? = some n then [new, f] else [f]).filter (·.node? != some old)

/-- Splits the formatting element `fmt`, which came from `tag`, around the block within it. The stack is
    `above`, the block, `between`, the formatting element and `outer`. -/
def splitAround (fmt : Nat) (tag : Tag) (above : List Nat) (block : Nat) (between outer : List Nat) : Build Unit := do
  let s ← adoptAll block ⟨block, .inPlace, []⟩ 1 between
  modify fun b => { b with arena := b.arena.detach s.last }
  insertInto (outer.head?.getD 0) s.last
  let new ← create ⟨.html, tag.name⟩ tag.attributes
  modify fun b => { b with
    arena := (b.arena.moveChildren block new).append block new
    formatting := placeFormatting fmt (.element new tag) s.bookmark b.formatting
    stack := above ++ new :: block :: s.kept.reverse ++ outer }

/-- One round of closing formatting; tells whether another one may be needed. -/
def adoptOnce (tag : String) : Build Bool := do
  let b ← get
  match b.sinceMarker.find? fun (_, t) => t.name == tag with
  | none =>
    closeOrdinary tag
    return false
  | some (fmt, fmtTag) =>
    let inner := b.stack.takeWhile (· != fmt)
    let outer := b.stack.drop (inner.length + 1)
    if inner.length = b.stack.length then
      removeFormatting fmt
      return false
    else if ¬ b.inScope defaultScope (· == fmt) then return false
    else
      match inner.reverse.dropWhile (fun n => !b.isOne special n) with
      | [] =>
        setStack outer
        removeFormatting fmt
        return false
      | block :: above =>
        let between := inner.drop (above.length + 1)
        splitAround fmt fmtTag above.reverse block between outer
        return true

def adoptRounds (tag : String) : Nat → Build Unit
  | 0 => return
  | n + 1 => do if ← adoptOnce tag then adoptRounds tag n

/-- Closes formatting: at most eight rounds. -/
def adopt (tag : String) : Build Unit := do
  let b ← get
  match b.current? with
  | some n =>
    if b.isHtml tag n ∧ ¬ b.formatting.any (·.node? == some n) then pop else adoptRounds tag 8
  | none => return

/-- A link within a link closes the outer one. -/
def closeOpenLink : Build Unit := do
  match (← get).sinceMarker.find? fun (_, t) => t.name == "a" with
  | none => return
  | some (n, _) =>
    adopt "a"
    removeFormatting n
    removeFromStack n

end Build
end Gateway.Html.Tree
