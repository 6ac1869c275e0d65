import Gateway.Html.Tree.Foreign

/-! The rules for the body of a page. Each start tag is of a kind that says what it closes, whether
    formatting goes on in front of it, and how it is inserted. -/

namespace Gateway.Html.Tree
open Builder

/-! ### Kinds of tags -/

inductive StartKind
  | html
  | head (start : Build.HeadStart)
  | body
  | frameset
  | block
  | heading
  | preformatted
  | form
  | listItem
  | plaintext
  | button
  | link
  | formatting
  | nobr
  | marked
  | table
  | empty
  | input
  | source
  | rule
  | image
  | textarea
  | rawBlock
  | iframe
  | noembed
  | noscript
  | select
  | option
  | rubyBase
  | rubyText
  | math
  | drawing
  | ignored
  | ordinary

def startKind (tag : String) : StartKind :=
  match Build.headStart? tag with
  | some start => .head start
  | none =>
    match tag with
    | "html" => .html
    | "body" => .body
    | "frameset" => .frameset
    | "address" | "article" | "aside" | "blockquote" | "center" | "details" | "dialog" | "dir" | "div" | "dl"
    | "fieldset" | "figcaption" | "figure" | "footer" | "header" | "hgroup" | "main" | "menu" | "nav" | "ol"
    | "p" | "section" | "summary" | "ul" => .block
    | "h1" | "h2" | "h3" | "h4" | "h5" | "h6" => .heading
    | "pre" | "listing" => .preformatted
    | "form" => .form
    | "li" | "dd" | "dt" => .listItem
    | "plaintext" => .plaintext
    | "button" => .button
    | "a" => .link
    | "b" | "big" | "code" | "em" | "font" | "i" | "s" | "small" | "strike" | "strong" | "tt" | "u" => .formatting
    | "nobr" => .nobr
    | "applet" | "marquee" | "object" => .marked
    | "table" => .table
    | "area" | "br" | "embed" | "img" | "keygen" | "wbr" => .empty
    | "input" => .input
    | "param" | "source" | "track" => .source
    | "hr" => .rule
    | "image" => .image
    | "textarea" => .textarea
    | "xmp" => .rawBlock
    | "iframe" => .iframe
    | "noembed" => .noembed
    | "noscript" => .noscript
    | "select" => .select
    | "optgroup" | "option" => .option
    | "rb" | "rtc" => .rubyBase
    | "rp" | "rt" => .rubyText
    | "math" => .math
    | "svg" => .drawing
    | "caption" | "col" | "colgroup" | "frame" | "head" | "tbody" | "td" | "tfoot" | "th" | "thead" | "tr" =>
      .ignored
    | _ => .ordinary

inductive EndKind
  | template
  | body
  | html
  | block
  | form
  | paragraph
  | listItem
  | heading
  | formatting
  | marked
  | lineBreak
  | ordinary

def endKind (tag : String) : EndKind :=
  match tag with
  | "template" => .template
  | "body" => .body
  | "html" => .html
  | "address" | "article" | "aside" | "blockquote" | "button" | "center" | "details" | "dialog" | "dir" | "div"
  | "dl" | "fieldset" | "figcaption" | "figure" | "footer" | "header" | "hgroup" | "listing" | "main" | "menu"
  | "nav" | "ol" | "pre" | "section" | "summary" | "ul" => .block
  | "form" => .form
  | "p" => .paragraph
  | "li" | "dd" | "dt" => .listItem
  | "h1" | "h2" | "h3" | "h4" | "h5" | "h6" => .heading
  | "a" | "b" | "big" | "code" | "em" | "font" | "i" | "nobr" | "s" | "small" | "strike" | "strong" | "tt"
  | "u" => .formatting
  | "applet" | "marquee" | "object" => .marked
  | "br" => .lineBreak
  | _ => .ordinary

namespace Build

/-! ### Start tags -/

/-- Inserts an element with the formatting that goes on. -/
def insertFormatted (tag : Tag) : Build Unit := do
  reconstruct
  let _ ← insertElement tag

/-- Inserts an element that closes a paragraph. -/
def insertBlock (tag : Tag) : Build Unit := do
  closeParagraphInScope
  let _ ← insertElement tag

def insertFormattedEmpty (tag : Tag) : Build Unit := do
  reconstruct
  let _ ← insertEmpty tag

def isHidden (tag : Tag) : Bool := (tag.attribute? "type").any fun t => t.toLower == "hidden"

/-- A second body only adds attributes. -/
def repeatBody (tag : Tag) : Build Unit := modify fun b =>
  match b.body? with
  | some body =>
    if b.isOpen "template" then b
    else { b with framesetOk := false, arena := b.arena.addMissing body tag.attributes }
  | none => b

/-- A frameset takes the place of a body that has nothing to show. -/
def replaceBody (tag : Tag) : Build Unit := do
  let b ← get
  match b.framesetOk, b.body? with
  | true, some body => do
    set { b with arena := b.arena.detach body, stack := b.stack.drop (b.stack.length - 1) }
    let _ ← insertElement tag
    setMode .inFrameset
  | _, _ => return

def startForm (tag : Tag) : Build Unit := do
  let inTemplate := (← get).isOpen "template"
  if inTemplate ∨ (← get).form.isNone then
    closeParagraphInScope
    let n ← insertElement tag
    if ¬ inTemplate then modify fun b => { b with form := some n }

/-- The innermost element that a new list item closes, if no special element is open within it. -/
def itemToClose? (b : Builder) (tags : List String) : List Nat → Option String
  | [] => none
  | n :: outer =>
    match b.arena.name? n with
    | some name =>
      if htmlNames tags name then some name.tag
      else if special name ∧ ¬ htmlNames ["address", "div", "p"] name then none
      else itemToClose? b tags outer
    | none => none

def startListItem (tag : Tag) : Build Unit := do
  noFrameset
  let b ← get
  match itemToClose? b (if tag.name = "li" then ["li"] else ["dd", "dt"]) b.stack with
  | some name =>
    closeImpliedExcept name
    popUntilHtml name
  | none => pure ()
  insertBlock tag

def startButton (tag : Tag) : Build Unit := do
  if (← get).inScopeHtml defaultScope "button" then
    closeImplied impliedEnds
    popUntilHtml "button"
  insertFormatted tag
  noFrameset

def startNobr (tag : Tag) : Build Unit := do
  reconstruct
  if (← get).inScopeHtml defaultScope "nobr" then
    adopt "nobr"
    reconstruct
  insertFormatting tag

/-- Within a table a select element has rules of its own. -/
def startSelect (tag : Tag) : Build Unit := do
  insertFormatted tag
  modify fun b => { b with
    framesetOk := false
    mode :=
      match b.mode with
      | .inTable | .inCaption | .inTableBody | .inRow | .inCell => .inSelectInTable
      | _ => .inSelect }

/-- Ruby text closes what its ruby element has open. -/
def startRuby (tag : Tag) (closed : List String) : Build Unit := do
  if (← get).inScopeHtml defaultScope "ruby" then closeImplied closed
  let _ ← insertElement tag

def startInBody (tag : Tag) : StartKind → Build Next
  | .html => repeatHtml tag
  | .head start => do startInHead tag start; return .done
  | .body => do repeatBody tag; return .done
  | .frameset => do replaceBody tag; return .done
  | .block => do insertBlock tag; return .done
  | .heading => do
    closeParagraphInScope
    if (← get).currentIs headings then pop
    let _ ← insertElement tag
    return .done
  | .preformatted => do
    insertBlock tag
    modify fun b => { b with skipLine := true, framesetOk := false }
    return .done
  | .form => do startForm tag; return .done
  | .listItem => do startListItem tag; return .done
  | .plaintext => do
    insertBlock tag
    modify fun b => { b with content := .plain }
    return .done
  | .button => do startButton tag; return .done
  | .link => do
    closeOpenLink
    reconstruct
    insertFormatting tag
    return .done
  | .formatting => do
    reconstruct
    insertFormatting tag
    return .done
  | .nobr => do startNobr tag; return .done
  | .marked => do
    insertFormatted tag
    addMarker
    noFrameset
    return .done
  | .table => do
    if ¬ (← get).oldLayout then closeParagraphInScope
    let _ ← insertElement tag
    noFrameset
    setMode .inTable
    return .done
  | .empty => do
    insertFormattedEmpty tag
    noFrameset
    return .done
  | .input => do
    insertFormattedEmpty tag
    if ¬ isHidden tag then noFrameset
    return .done
  | .source => do
    let _ ← insertEmpty tag
    return .done
  | .rule => do
    closeParagraphInScope
    let _ ← insertEmpty tag
    noFrameset
    return .done
  | .image => do
    insertFormattedEmpty { tag with name := "img" }
    noFrameset
    return .done
  | .textarea => do
    modify fun b => { b with skipLine := true, framesetOk := false }
    insertTextElement tag .references
    return .done
  | .rawBlock => do
    closeParagraphInScope
    reconstruct
    noFrameset
    insertTextElement tag .raw
    return .done
  | .iframe => do
    noFrameset
    insertTextElement tag .raw
    return .done
  | .noembed | .noscript => do insertTextElement tag .raw; return .done
  | .select => do startSelect tag; return .done
  | .option => do
    if (← get).currentIsHtml "option" then pop
    insertFormatted tag
    return .done
  | .rubyBase => do startRuby tag impliedEnds; return .done
  | .rubyText => do startRuby tag (impliedEnds.filter (· != "rtc")); return .done
  | .math => do enterForeign .mathml tag; return .done
  | .drawing => do enterForeign .svg tag; return .done
  | .ignored => return .done
  | .ordinary => do insertFormatted tag; return .done

/-! ### End tags -/

/-- Closes an element with what is open within it, if it is in scope. -/
def closeInScope (scope : Names) (tag : String) : Build Bool := do
  if (← get).inScopeHtml scope tag then
    closeImplied impliedEnds
    popUntilHtml tag
    return true
  else return false

/-- A form is not closed in a template; outside of one, the form that is closed need not be the innermost
    element. -/
def endForm : Build Unit := do
  let b ← get
  if b.isOpen "template" then
    let _ ← closeInScope defaultScope "form"
  else
    set { b with form := none }
    match b.form with
    | some form =>
      if b.inScope defaultScope (· == form) then
        closeImplied impliedEnds
        removeFromStack form
    | none => return

def endInBody (tag : String) : EndKind → Build Next
  | .template => do endTemplate; return .done
  | .body => do
    if (← get).inScopeHtml defaultScope "body" then setMode .afterBody
    return .done
  | .html => do
    if (← get).inScopeHtml defaultScope "body" then
      setMode .afterBody
      return .again (.endTag tag)
    else return .done
  | .block => do
    let _ ← closeInScope defaultScope tag
    return .done
  | .form => do endForm; return .done
  | .paragraph => do
    if ¬ (← get).inScopeHtml buttonScope "p" then
      let _ ← insertImplied "p"
    closeParagraph
    return .done
  | .listItem => do
    if (← get).inScopeHtml (if tag = "li" then listItemScope else defaultScope) tag then
      closeImpliedExcept tag
      popUntilHtml tag
    return .done
  | .heading => do
    let b ← get
    if b.inScope defaultScope (b.isOne headings) then
      closeImplied impliedEnds
      popUntil headings
    return .done
  | .formatting => do adopt tag; return .done
  | .marked => do
    if ← closeInScope defaultScope tag then clearToMarker
    return .done
  | .lineBreak => do
    insertFormattedEmpty ⟨"br", [], false⟩
    noFrameset
    return .done
  | .ordinary => do closeOrdinary tag; return .done

/-! ### Tokens -/

def textInBody (text : List Char) : Build Unit := do
  reconstruct
  if text.any (!isBlank ·) then noFrameset
  insertText text

def inBody (token : Token) : Build Next :=
  match token with
  | .null => return .done
  | .text text => do textInBody text; return .done
  | .comment text => do insertComment text; return .done
  | .doctype _ => return .done
  | .startTag tag => startInBody tag (startKind tag.name)
  | .endTag tag => endInBody tag (endKind tag)
  | .endOfFile => do
    if (← get).templateModes = [] then return .done else endOfTemplates

end Build
end Gateway.Html.Tree
