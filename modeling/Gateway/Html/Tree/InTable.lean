import Gateway.Html.Tree.InBody

/-! The rules for tables. Only the parts of a table stand in it; parts that the page leaves out are put
    in, parts of an outer level close the inner ones, and everything else is put in front of the table. -/

namespace Gateway.Html.Tree
open Builder

namespace Build

/-! ### Text and strangers -/

/-- Takes a token by the rules of the body and puts what does not belong into the table in front of it. -/
def fosterInBody (token : Token) : Build Next := do
  modify fun b => { b with fostering := true }
  let next ← inBody token
  modify fun b => { b with fostering := false }
  return next

/-- Text directly in a part of a table is gathered first: it may be blank. -/
def charactersInTable (token : Token) : Build Next := do
  if (← get).currentIs (htmlNames ["table", "tbody", "tfoot", "thead", "tr"]) then
    modify fun b => { b with previous := b.mode, mode := .inTableText }
    return .again token
  else fosterInBody token

/-- Gathered text that is not blank goes in front of the table. -/
def inTableText (token : Token) : Build Next :=
  match token with
  | .null => return .done
  | .text text => do
    modify fun b => { b with tableText := text :: b.tableText }
    return .done
  | token => do
    let b ← get
    let gathered := b.tableText.reverse.flatten
    set { b with tableText := [], mode := b.previous }
    if gathered.any (!isBlank ·) then
      let _ ← fosterInBody (.text gathered)
    else if gathered ≠ [] then insertText gathered
    return .again token

/-! ### The table itself -/

def startInTable (tag : Tag) : Build Next := do
  let closeWithin := popWithin tableScope
  match tag.name with
  | "caption" =>
    closeWithin
    addMarker
    let _ ← insertElement tag
    setMode .inCaption
    return .done
  | "colgroup" =>
    closeWithin
    let _ ← insertElement tag
    setMode .inColumnGroup
    return .done
  | "col" =>
    closeWithin
    let _ ← insertImplied "colgroup"
    setMode .inColumnGroup
    return .again (.startTag tag)
  | "tbody" | "tfoot" | "thead" =>
    closeWithin
    let _ ← insertElement tag
    setMode .inTableBody
    return .done
  | "td" | "th" | "tr" =>
    closeWithin
    let _ ← insertImplied "tbody"
    setMode .inTableBody
    return .again (.startTag tag)
  | "table" =>
    if (← get).inScopeHtml tableScope "table" then
      popUntilHtml "table"
      resetMode
      return .again (.startTag tag)
    else return .done
  | "style" | "script" | "template" =>
    match headStart? tag.name with
    | some start => startInHead tag start
    | none => pure ()
    return .done
  | "input" =>
    if isHidden tag then
      let _ ← insertEmpty tag
      return .done
    else fosterInBody (.startTag tag)
  | "form" =>
    let b ← get
    if ¬ b.isOpen "template" ∧ b.form.isNone then
      let n ← insertEmpty tag
      modify fun b => { b with form := some n }
    return .done
  | _ => fosterInBody (.startTag tag)

def endInTable (tag : String) : Build Next := do
  match tag with
  | "table" =>
    if (← get).inScopeHtml tableScope "table" then
      popUntilHtml "table"
      resetMode
    return .done
  | "body" | "caption" | "col" | "colgroup" | "html" | "tbody" | "td" | "tfoot" | "th" | "thead" | "tr" =>
    return .done
  | "template" => do endTemplate; return .done
  | _ => fosterInBody (.endTag tag)

def inTable (token : Token) : Build Next :=
  match token with
  | .null | .text _ => charactersInTable token
  | .comment text => do insertComment text; return .done
  | .startTag tag => startInTable tag
  | .endTag tag => endInTable tag
  | .endOfFile => inBody token
  | .doctype _ => return .done

/-! ### Captions and columns -/

/-- The tags that only parts of a table have. -/
def isTablePart (tag : String) : Bool :=
  ["caption", "col", "colgroup", "tbody", "td", "tfoot", "th", "thead", "tr"].contains tag

/-- Closes the caption; tells whether one was open. -/
def closeCaption : Build Bool := do
  if ← closeInScope tableScope "caption" then
    clearToMarker
    setMode .inTable
    return true
  else return false

def inCaption (token : Token) : Build Next :=
  match token with
  | .startTag tag =>
    if isTablePart tag.name then do
      if ← closeCaption then return .again token else return .done
    else inBody token
  | .endTag tag =>
    if tag = "table" then do
      if ← closeCaption then return .again token else return .done
    else if tag = "caption" then do
      let _ ← closeCaption
      return .done
    else if isTablePart tag ∨ tag = "body" ∨ tag = "html" then return .done
    else inBody token
  | token => inBody token

def inColumnGroup (token : Token) : Build Next :=
  let leave (token : Token) : Build Next := do
    if (← get).currentIsHtml "colgroup" then
      pop
      setMode .inTable
      return .again token
    else return .done
  match token with
  | .text text => do
    if (← get).currentIsHtml "colgroup" then
      let (blanks, rest) := leadingBlanks text
      if blanks ≠ [] then insertText blanks
      if rest = [] then return .done else leave (.text rest)
    else
      let blanks := text.filter isBlank
      if blanks ≠ [] then insertText blanks
      return .done
  | .comment text => do insertComment text; return .done
  | .startTag tag =>
    match tag.name with
    | "html" => repeatHtml tag
    | "col" => do
      let _ ← insertEmpty tag
      return .done
    | "template" => do
      startInHead tag .template
      return .done
    | _ => leave token
  | .endTag tag =>
    match tag with
    | "colgroup" => do
      if (← get).currentIsHtml "colgroup" then
        pop
        setMode .inTable
      return .done
    | "col" => return .done
    | "template" => do endTemplate; return .done
    | _ => leave token
  | .endOfFile => inBody token
  | token => leave token

/-! ### Bodies, rows and cells -/

/-- Closes the body of the table. -/
def leaveTableBody : Build Unit := do
  popWithin tableBodyContext
  pop
  setMode .inTable

def inTableBody (token : Token) : Build Next :=
  let outward : Build Next := do
    let b ← get
    if b.inScope tableScope (b.isOne (htmlNames ["table", "tbody", "tfoot"])) then
      leaveTableBody
      return .again token
    else return .done
  match token with
  | .startTag tag =>
    match tag.name with
    | "tr" => do
      popWithin tableBodyContext
      let _ ← insertElement tag
      setMode .inRow
      return .done
    | "th" | "td" => do
      popWithin tableBodyContext
      let _ ← insertImplied "tr"
      setMode .inRow
      return .again token
    | "caption" | "col" | "colgroup" | "tbody" | "tfoot" | "thead" => outward
    | _ => inTable token
  | .endTag tag =>
    match tag with
    | "tbody" | "tfoot" | "thead" => do
      if (← get).inScopeHtml tableScope tag then leaveTableBody
      return .done
    | "table" => outward
    | "body" | "caption" | "col" | "colgroup" | "html" | "td" | "th" | "tr" => return .done
    | _ => inTable token
  | token => inTable token

/-- Closes the row; tells whether one was open. -/
def closeRow : Build Bool := do
  if (← get).inScopeHtml tableScope "tr" then
    popWithin tableRowContext
    pop
    setMode .inTableBody
    return true
  else return false

def inRow (token : Token) : Build Next :=
  let outward : Build Next := do
    if ← closeRow then return .again token else return .done
  match token with
  | .startTag tag =>
    match tag.name with
    | "th" | "td" => do
      popWithin tableRowContext
      let _ ← insertElement tag
      setMode .inCell
      addMarker
      return .done
    | "caption" | "col" | "colgroup" | "tbody" | "tfoot" | "thead" | "tr" => outward
    | _ => inTable token
  | .endTag tag =>
    match tag with
    | "tr" => do
      let _ ← closeRow
      return .done
    | "table" => outward
    | "tbody" | "tfoot" | "thead" => do
      if (← get).inScopeHtml tableScope tag then outward else return .done
    | "body" | "caption" | "col" | "colgroup" | "html" | "td" | "th" => return .done
    | _ => inTable token
  | token => inTable token

def closeCell : Build Unit := do
  closeImplied impliedEnds
  popUntil cells
  clearToMarker
  setMode .inRow

def inCell (token : Token) : Build Next :=
  match token with
  | .startTag tag =>
    if isTablePart tag.name then do
      let b ← get
      if b.inScope tableScope (b.isOne cells) then
        closeCell
        return .again token
      else return .done
    else inBody token
  | .endTag tag =>
    match tag with
    | "td" | "th" => do
      if ← closeInScope tableScope tag then
        clearToMarker
        setMode .inRow
      return .done
    | "body" | "caption" | "col" | "colgroup" | "html" => return .done
    | "table" | "tbody" | "tfoot" | "thead" | "tr" => do
      if (← get).inScopeHtml tableScope tag then
        closeCell
        return .again token
      else return .done
    | _ => inBody token
  | token => inBody token

end Build
end Gateway.Html.Tree
