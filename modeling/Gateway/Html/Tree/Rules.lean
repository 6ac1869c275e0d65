import Gateway.Html.Tree.InTable

/-! The remaining rules, for selections, templates, framesets and what stands behind the body, and the
    choice of the rules that take a token. A token that rules pass on is taken again; every time, an
    element has been closed or a place in front of the body has been left. -/

namespace Gateway.Html.Tree
open Builder

namespace Build

/-! ### Selections -/

def inSelect (token : Token) : Build Next := do
  let b ← get
  let popIf (tag : String) : Build Unit := do if (← get).currentIsHtml tag then pop
  let closeSelect : Build Unit := do
    popUntilHtml "select"
    resetMode
  match token with
  | .null => return .done
  | .text text => insertText text; return .done
  | .comment text => insertComment text; return .done
  | .doctype _ => return .done
  | .startTag tag =>
    match tag.name with
    | "html" => repeatHtml tag
    | "option" =>
      popIf "option"
      let _ ← insertElement tag
      return .done
    | "optgroup" =>
      popIf "option"
      popIf "optgroup"
      let _ ← insertElement tag
      return .done
    | "hr" =>
      popIf "option"
      popIf "optgroup"
      let _ ← insertEmpty tag
      return .done
    | "select" =>
      if b.inScopeHtml selectScope "select" then closeSelect
      return .done
    | "input" | "keygen" | "textarea" =>
      if b.inScopeHtml selectScope "select" then
        closeSelect
        return .again token
      else return .done
    | "script" => startInHead tag .script; return .done
    | "template" => startInHead tag .template; return .done
    | _ => return .done
  | .endTag tag =>
    match tag with
    | "optgroup" =>
      if b.currentIsHtml "option" ∧ b.stack.tail.head?.any (b.isHtml "optgroup") then pop
      popIf "optgroup"
      return .done
    | "option" => popIf "option"; return .done
    | "select" =>
      if b.inScopeHtml selectScope "select" then closeSelect
      return .done
    | "template" => endTemplate; return .done
    | _ => return .done
  | .endOfFile => inBody token

/-- The parts of a table close a selection within it. -/
def inSelectInTable (token : Token) : Build Next := do
  let isPart (tag : String) : Bool :=
    ["caption", "table", "tbody", "tfoot", "thead", "tr", "td", "th"].contains tag
  let close : Build Next := do
    popUntilHtml "select"
    resetMode
    return .again token
  match token with
  | .startTag tag => if isPart tag.name then close else inSelect token
  | .endTag tag =>
    if isPart tag then
      if (← get).inScopeHtml tableScope tag then close else return .done
    else inSelect token
  | token => inSelect token

/-! ### Templates -/

/-- The first tag within a template says what the template is for. -/
def inTemplate (token : Token) : Build Next :=
  let become (mode : Mode) : Build Next := do
    modify fun b => { b with mode, templateModes := mode :: b.templateModes.tail }
    return .again token
  match token with
  | .text _ | .comment _ => inBody token
  | .startTag tag =>
    match headStart? tag.name with
    | some start => do startInHead tag start; return .done
    | none =>
      match tag.name with
      | "caption" | "colgroup" | "tbody" | "tfoot" | "thead" => become .inTable
      | "col" => become .inColumnGroup
      | "tr" => become .inTableBody
      | "td" | "th" => become .inRow
      | _ => become .inBody
  | .endTag tag => do
    if tag = "template" then endTemplate
    return .done
  | .endOfFile => endOfTemplates
  | .null | .doctype _ => return .done

/-! ### Behind the body -/

/-- Blanks go into the body; anything else opens it again. -/
def textBehindBody (text : List Char) : Build Next := do
  let (blanks, rest) := leadingBlanks text
  if blanks ≠ [] then textInBody blanks
  if rest ≠ [] then setMode .inBody
  return Next.ofRest rest

def afterBody (token : Token) : Build Next := do
  let reopen : Build Next := do
    setMode .inBody
    return .again token
  match token with
  | .text text => textBehindBody text
  | .comment text => appendComment (((← get).stack.getLast?).getD 0) text; return .done
  | .startTag tag => if tag.name = "html" then repeatHtml tag else reopen
  | .endTag tag =>
    if tag = "html" then
      setMode .afterAfterBody
      return .done
    else reopen
  | .endOfFile => return .done
  | _ => reopen

def afterAfterBody (token : Token) : Build Next := do
  let reopen : Build Next := do
    setMode .inBody
    return .again token
  match token with
  | .text text => textBehindBody text
  | .comment text => appendComment 0 text; return .done
  | .startTag tag => if tag.name = "html" then repeatHtml tag else reopen
  | .endOfFile => return .done
  | _ => reopen

/-! ### Framesets -/

/-- Of a text, framesets keep the blanks. -/
def blanksOf (text : List Char) : Build Unit := do
  let blanks := text.filter isBlank
  if blanks ≠ [] then insertText blanks

def inFrameset (token : Token) : Build Next :=
  match token with
  | .text text => do blanksOf text; return .done
  | .comment text => do insertComment text; return .done
  | .startTag tag =>
    match tag.name with
    | "html" => repeatHtml tag
    | "frameset" => do
      let _ ← insertElement tag
      return .done
    | "frame" => do
      let _ ← insertEmpty tag
      return .done
    | "noframes" => do
      startInHead tag .raw
      return .done
    | _ => return .done
  | .endTag tag => do
    if tag = "frameset" ∧ 1 < (← get).stack.length then
      pop
      if ¬ (← get).currentIsHtml "frameset" then setMode .afterFrameset
    return .done
  | _ => return .done

def afterFrameset (token : Token) : Build Next :=
  match token with
  | .text text => do blanksOf text; return .done
  | .comment text => do insertComment text; return .done
  | .startTag tag =>
    match tag.name with
    | "html" => repeatHtml tag
    | "noframes" => do
      startInHead tag .raw
      return .done
    | _ => return .done
  | .endTag tag => do
    if tag = "html" then setMode .afterAfterFrameset
    return .done
  | _ => return .done

def afterAfterFrameset (token : Token) : Build Next :=
  match token with
  | .text text => do
    let blanks := text.filter isBlank
    if blanks ≠ [] then textInBody blanks
    return .done
  | .comment text => do appendComment 0 text; return .done
  | .startTag tag =>
    match tag.name with
    | "html" => repeatHtml tag
    | "noframes" => do
      startInHead tag .raw
      return .done
    | _ => return .done
  | _ => return .done

/-! ### Text elements -/

def text (token : Token) : Build Next := do
  let leave : Build Unit := modify fun b => { b with stack := b.stack.tail, mode := b.previous }
  match token with
  | .text text => insertText text; return .done
  | .endTag _ => leave; return .done
  | .endOfFile => leave; return .again token
  | _ => return .done

/-! ### The choice -/

def byMode (token : Token) : Build Next := do
  match (← get).mode with
  | .initial => initial token
  | .beforeHtml => beforeHtml token
  | .beforeHead => beforeHead token
  | .inHead => inHead token
  | .afterHead => afterHead token
  | .inBody => inBody token
  | .text => text token
  | .inTable => inTable token
  | .inTableText => inTableText token
  | .inCaption => inCaption token
  | .inColumnGroup => inColumnGroup token
  | .inTableBody => inTableBody token
  | .inRow => inRow token
  | .inCell => inCell token
  | .inSelect => inSelect token
  | .inSelectInTable => inSelectInTable token
  | .inTemplate => inTemplate token
  | .afterBody => afterBody token
  | .inFrameset => inFrameset token
  | .afterFrameset => afterFrameset token
  | .afterAfterBody => afterAfterBody token
  | .afterAfterFrameset => afterAfterFrameset token

/-- The rules for mathematics and drawings. -/
def foreign (token : Token) : Build Next := do
  let b ← get
  let breakOut : Build Next := do
    popWithin ofPage
    byMode token
  match token with
  | .null => insertText ['\ufffd']; return .done
  | .text text =>
    if text.any (!isBlank ·) then noFrameset
    insertText text
    return .done
  | .comment text => insertComment text; return .done
  | .doctype _ => return .done
  | .startTag tag =>
    if breaksOut tag then breakOut
    else
      match (b.current?.bind b.arena.name?).map (·.space) with
      | some space => insertForeign space tag; return .done
      | none => return .done
  | .endTag tag =>
    if tag = "br" ∨ tag = "p" then breakOut
    else
      match closedForeign? b tag true b.stack with
      | some stack => setStack stack; return .done
      | none => byMode token
  | .endOfFile => return .done

/-- Takes a token until no rules pass it on. -/
def take : Nat → Token → Build Unit
  | 0, _ => return
  | fuel + 1, token => do
    match ← if (← get).takesForeign token then foreign token else byMode token with
    | .done => return
    | .again token => take fuel token

/-! ### Document types -/

/-- Public identifiers of pages that are laid out as old browsers did start like these. -/
def oldPrefixes : List String := [
  "-//advasoft ltd//dtd html 3.0 aswedit + extensions//", "-//as//dtd html 3.0 aswedit + extensions//",
  "-//ietf//dtd html 2.0 level 1//", "-//ietf//dtd html 2.0 level 2//",
  "-//ietf//dtd html 2.0 strict level 1//", "-//ietf//dtd html 2.0 strict level 2//",
  "-//ietf//dtd html 2.0 strict//", "-//ietf//dtd html 2.0//", "-//ietf//dtd html 2.1e//",
  "-//ietf//dtd html 3.0//", "-//ietf//dtd html 3.2 final//", "-//ietf//dtd html 3.2//",
  "-//ietf//dtd html 3//", "-//ietf//dtd html level 0//", "-//ietf//dtd html level 1//",
  "-//ietf//dtd html level 2//", "-//ietf//dtd html level 3//", "-//ietf//dtd html strict level 0//",
  "-//ietf//dtd html strict level 1//", "-//ietf//dtd html strict level 2//",
  "-//ietf//dtd html strict level 3//", "-//ietf//dtd html strict//", "-//ietf//dtd html//",
  "-//metrius//dtd metrius presentational//", "-//microsoft//dtd internet explorer 2.0 html strict//",
  "-//microsoft//dtd internet explorer 2.0 html//", "-//microsoft//dtd internet explorer 2.0 tables//",
  "-//microsoft//dtd internet explorer 3.0 html strict//",
  "-//microsoft//dtd internet explorer 3.0 html//", "-//microsoft//dtd internet explorer 3.0 tables//",
  "-//netscape comm. corp.//dtd html//", "-//netscape comm. corp.//dtd strict html//",
  "-//o'reilly and associates//dtd html 2.0//", "-//o'reilly and associates//dtd html extended 1.0//",
  "-//o'reilly and associates//dtd html extended relaxed 1.0//",
  "-//softquad software//dtd hotmetal pro 6.0::19990601::extensions to html 4.0//",
  "-//softquad//dtd hotmetal pro 4.0::19971010::extensions to html 4.0//", "-//spyglass//dtd html 2.0 extended//",
  "-//sq//dtd html 2.0 hotmetal + extensions//", "-//sun microsystems corp.//dtd hotjava html//",
  "-//sun microsystems corp.//dtd hotjava strict html//", "-//w3c//dtd html 3 1995-03-24//",
  "-//w3c//dtd html 3.2 draft//", "-//w3c//dtd html 3.2 final//", "-//w3c//dtd html 3.2//",
  "-//w3c//dtd html 3.2s draft//", "-//w3c//dtd html 4.0 frameset//", "-//w3c//dtd html 4.0 transitional//",
  "-//w3c//dtd html experimental 19960712//", "-//w3c//dtd html experimental 970421//",
  "-//w3c//dtd w3 html//", "-//w3o//dtd w3 html 3.0//", "-//webtechs//dtd mozilla html 2.0//",
  "-//webtechs//dtd mozilla html//"]

def oldPublicIds : List String := [
  "-//w3o//dtd w3 html strict 3.0//en//", "-/w3c/dtd html 4.0 transitional/en", "html"]

def oldSystemIds : List String := ["http://www.ibm.com/data/dtd/v11/ibmxhtml1-transitional.dtd"]

/-- These ask for the old layout only without a system identifier. -/
def framePrefixes : List String :=
  ["-//w3c//dtd html 4.01 frameset//", "-//w3c//dtd html 4.01 transitional//"]

/-- The page is laid out as old browsers did. -/
def isOld (d : Doctype) : Bool :=
  let publicId := (d.publicId.map String.toLower).getD ""
  let systemId := d.systemId.map String.toLower
  let startsWith (texts : List String) : Bool := texts.any fun t => t.toList.isPrefixOf publicId.toList
  d.damaged || d.name != some "html" || oldPublicIds.contains publicId ||
    systemId.any oldSystemIds.contains || startsWith oldPrefixes ||
    (systemId.isNone && startsWith framePrefixes)

/-- A document type counts at the start of the page only. -/
def takeDoctype (d : Doctype) : Build Unit := do
  if (← get).mode = .initial then
    let n ← alloc (.doctype (d.name.getD ""))
    modify fun b => { b with arena := b.arena.append 0 n, oldLayout := isOld d, mode := .beforeHtml }

/-! ### Tokens -/

/-- Takes the next token of the page. -/
def takeToken (token : Token) : Build Unit := do
  let skip := (← get).skipLine
  modify fun b => { b with skipLine := false }
  let fuel := 8 * ((← get).stack.length + (← get).templateModes.length) + 32
  match token with
  | .doctype d => takeDoctype d
  | .text text =>
    let text := if skip ∧ text.head? = some '\n' then text.tail else text
    if text ≠ [] then take fuel (.text text)
  | token => take fuel token

end Build
end Gateway.Html.Tree
