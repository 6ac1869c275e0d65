import Gateway.Html.Tree.Formatting

/-! The rules in front of the body: for the head of a page, and for the tags that mean the same wherever
    they stand. -/

namespace Gateway.Html.Tree
open Builder

/-- The blanks that a text starts with, and the rest of it. -/
def leadingBlanks (text : List Char) : List Char × List Char :=
  (text.takeWhile isBlank, text.dropWhile isBlank)

/-- What is left of a text is taken by other rules. -/
def Next.ofRest (text : List Char) : Next := if text = [] then .done else .again (.text text)

namespace Build

/-- Another start tag of the page itself only adds attributes. -/
def repeatHtml (tag : Tag) : Build Next := do
  let b ← get
  if ¬ b.isOpen "template" then
    match b.stack.getLast? with
    | some root => set { b with arena := b.arena.addMissing root tag.attributes }
    | none => pure ()
  return .done

/-- The tags of the head that need no head to mean something. -/
inductive HeadStart
  | empty
  | title
  | raw
  | script
  | template
deriving DecidableEq

def headStart? (tag : String) : Option HeadStart :=
  match tag with
  | "base" | "basefont" | "bgsound" | "link" | "meta" => some .empty
  | "title" => some .title
  | "noframes" | "style" => some .raw
  | "script" => some .script
  | "template" => some .template
  | _ => none

def startInHead (tag : Tag) : HeadStart → Build Unit
  | .empty => do let _ ← insertEmpty tag
  | .title => insertTextElement tag .references
  | .raw => insertTextElement tag .raw
  | .script => insertTextElement tag .script
  | .template => do
    let _ ← insertElement tag
    addMarker
    modify fun b => { b with
      framesetOk := false, mode := .inTemplate, templateModes := .inTemplate :: b.templateModes }

/-- Goes back to the rules that the innermost element asks for. -/
def resetMode : Build Unit := modify fun b => { b with mode := b.resetMode }

def endTemplate : Build Unit := do
  if (← get).isOpen "template" then
    closeImplied thoroughImpliedEnds
    popUntilHtml "template"
    clearToMarker
    modify fun b => { b with templateModes := b.templateModes.tail }
    resetMode

/-- The page ends within templates: they end too, one after the other. -/
def endOfTemplates : Build Next := do
  if (← get).isOpen "template" then
    popUntilHtml "template"
    clearToMarker
    modify fun b => { b with templateModes := b.templateModes.tail }
    resetMode
    return .again .endOfFile
  else return .done

/-- The end tags that imply what the page has left out. -/
def impliesStart (tag : String) : Bool := ["head", "body", "html", "br"].contains tag

def createRoot (attributes : List Attribute) : Build Unit := do
  let n ← create ⟨.html, "html"⟩ attributes
  modify fun b => { b with arena := b.arena.append 0 n }
  push n

def initial (token : Token) : Build Next :=
  match token with
  | .text text =>
    match leadingBlanks text with
    | (_, []) => return .done
    | (_, rest) => do
      modify fun b => { b with oldLayout := true, mode := .beforeHtml }
      return .again (.text rest)
  | .comment text => do appendComment 0 text; return .done
  | token => do
    modify fun b => { b with oldLayout := true, mode := .beforeHtml }
    return .again token

def beforeHtml (token : Token) : Build Next :=
  let implied (token : Token) : Build Next := do
    createRoot []
    setMode .beforeHead
    return .again token
  match token with
  | .text text =>
    match leadingBlanks text with
    | (_, []) => return .done
    | (_, rest) => implied (.text rest)
  | .comment text => do appendComment 0 text; return .done
  | .startTag tag =>
    if tag.name = "html" then do
      createRoot tag.attributes
      setMode .beforeHead
      return .done
    else implied token
  | .endTag tag => if impliesStart tag then implied token else return .done
  | token => implied token

def beforeHead (token : Token) : Build Next :=
  let enter (n : Nat) : Build Unit := modify fun b => { b with head := some n, mode := .inHead }
  let implied (token : Token) : Build Next := do
    enter (← insertImplied "head")
    return .again token
  match token with
  | .text text =>
    match leadingBlanks text with
    | (_, []) => return .done
    | (_, rest) => implied (.text rest)
  | .comment text => do insertComment text; return .done
  | .startTag tag =>
    if tag.name = "html" then repeatHtml tag
    else if tag.name = "head" then do
      enter (← insertElement tag)
      return .done
    else implied token
  | .endTag tag => if impliesStart tag then implied token else return .done
  | token => implied token

def inHead (token : Token) : Build Next :=
  let leave (token : Token) : Build Next := do
    pop
    setMode .afterHead
    return .again token
  match token with
  | .text text =>
    match leadingBlanks text with
    | (blanks, rest) => do
      if blanks ≠ [] then insertText blanks
      if rest = [] then return .done else leave (.text rest)
  | .comment text => do insertComment text; return .done
  | .startTag tag =>
    if tag.name = "html" then repeatHtml tag
    else if tag.name = "head" then return .done
    else if tag.name = "noscript" then do
      insertTextElement tag .raw
      return .done
    else
      match headStart? tag.name with
      | some start => do
        startInHead tag start
        return .done
      | none => leave token
  | .endTag tag =>
    if tag = "head" then do
      pop
      setMode .afterHead
      return .done
    else if tag = "template" then do
      endTemplate
      return .done
    else if impliesStart tag then leave token
    else return .done
  | token => leave token

/-- Tags of the head behind it still go into it. -/
def intoHead (tag : Tag) (start : HeadStart) : Build Unit := do
  match (← get).head with
  | none => startInHead tag start
  | some head =>
    push head
    startInHead tag start
    removeFromStack head

def afterHead (token : Token) : Build Next :=
  let implied (token : Token) : Build Next := do
    let _ ← insertImplied "body"
    setMode .inBody
    return .again token
  match token with
  | .text text =>
    match leadingBlanks text with
    | (blanks, rest) => do
      if blanks ≠ [] then insertText blanks
      if rest = [] then return .done else implied (.text rest)
  | .comment text => do insertComment text; return .done
  | .startTag tag =>
    match tag.name with
    | "html" => repeatHtml tag
    | "head" => return .done
    | "body" => do
      let _ ← insertElement tag
      noFrameset
      setMode .inBody
      return .done
    | "frameset" => do
      let _ ← insertElement tag
      setMode .inFrameset
      return .done
    | name =>
      match headStart? name with
      | some start => do
        intoHead tag start
        return .done
      | none => implied token
  | .endTag tag =>
    if tag = "template" then do
      endTemplate
      return .done
    else if impliesStart tag ∧ tag ≠ "head" then implied token
    else return .done
  | token => implied token

end Build
end Gateway.Html.Tree
