import Gateway.Html.Reference
import Gateway.Html.Token

/-! Cutting markup into tokens. Nothing is refused: what is no markup is text, a damaged comment or
    declaration ends where a browser ends it, and a tag that the page breaks off in is dropped. How text
    is read depends on the tag before it (`Content`), so the maker of the tree asks for one piece after
    the other. -/

namespace Gateway.Html.Lexer

/-- A text in which the one character that markup cannot hold is replaced. -/
def withoutNull (cs : List Char) : List Char := cs.map fun c => if c = '\x00' then '\ufffd' else c

def lower (cs : List Char) : String := String.ofList ((withoutNull cs).map Char.toLower)

/-- Line ends are one character each, and a byte order mark in front does not count. -/
def unifyLines (out : List Char) : List Char → List Char
  | [] => out.reverse
  | '\r' :: '\n' :: cs => unifyLines ('\n' :: out) cs
  | '\r' :: cs => unifyLines ('\n' :: out) cs
  | c :: cs => unifyLines (c :: out) cs

def prepare : List Char → List Char
  | '\ufeff' :: cs => unifyLines [] cs
  | cs => unifyLines [] cs

/-- The tokens of a text: none if it is empty. -/
def textTokens (cs : List Char) : List Token := if cs = [] then [] else [.text cs]

/-! ### Tags -/

/-- A name in a tag goes up to a blank, a slash, the end of the tag or, for attributes, a value. -/
def isNameChar (c : Char) : Bool := !isBlank c && c != '/' && c != '>' && c != '='

/-- The value of an attribute, and what follows it; nothing if a quote is not closed. -/
def attributeValue (cs : List Char) : Option (List Char × List Char) :=
  let quoted (quote : Char) (cs : List Char) : Option (List Char × List Char) :=
    match cs.dropWhile (· != quote) with
    | [] => none
    | _ :: rest => some (cs.takeWhile (· != quote), rest)
  match cs with
  | '"' :: cs => quoted '"' cs
  | '\x27' :: cs => quoted '\x27' cs
  | cs =>
    let stays (c : Char) : Bool := !isBlank c && c != '>'
    some (cs.takeWhile stays, cs.dropWhile stays)

theorem length_dropWhile_le {α : Type} (p : α → Bool) (l : List α) : (l.dropWhile p).length ≤ l.length := by
  induction l with
  | nil => simp
  | cons a l ih =>
    simp only [List.dropWhile_cons]
    split
    · simp only [List.length_cons]
      omega
    · simp

theorem attributeValue_length {cs value rest : List Char} (h : attributeValue cs = some (value, rest)) :
    rest.length ≤ cs.length := by
  have quoted {q : Char} {cs : List Char} (hq : (match cs.dropWhile (· != q) with
      | [] => none
      | _ :: rest => some (cs.takeWhile (· != q), rest)) = some (value, rest)) : rest.length ≤ cs.length := by
    split at hq
    · cases hq
    · next heq =>
      obtain ⟨-, rfl⟩ := Prod.mk.inj (Option.some.inj hq)
      have := length_dropWhile_le (· != q) cs
      simp only [heq, List.length_cons] at this
      omega
  unfold attributeValue at h
  split at h
  · exact Nat.le_succ_of_le (quoted h)
  · exact Nat.le_succ_of_le (quoted h)
  · obtain ⟨-, rfl⟩ := Prod.mk.inj (Option.some.inj h)
    exact length_dropWhile_le _ _

/-- Adds an attribute unless there is one of its name. -/
def addAttribute (found : List Attribute) (name value : List Char) : List Attribute :=
  let name := lower name
  if found.any (·.name == name) then found
  else ⟨.plain, name, String.ofList (withoutNull (decode true value))⟩ :: found

/-- The attributes up to the end of the tag, whether it closes itself, and what follows it; nothing if
    the page ends in the tag. `found` holds the attributes so far, the last one first. -/
def attributes (found : List Attribute) : List Char → Option (List Attribute × Bool × List Char)
  | [] => none
  | c :: cs =>
    if c = '>' then some (found.reverse, false, cs)
    else if c = '/' ∧ cs.head? = some '>' then some (found.reverse, true, cs.tail)
    else if c = '/' ∨ isBlank c then attributes found cs
    else
      let name := c :: cs.takeWhile isNameChar
      match _h : (cs.dropWhile isNameChar).dropWhile isBlank with
      | '=' :: after =>
        match _hv : attributeValue (after.dropWhile isBlank) with
        | none => none
        | some (value, rest) => attributes (addAttribute found name value) rest
      | after => attributes (addAttribute found name []) after
termination_by cs => cs.length
decreasing_by
  · simp
  · have h1 := length_dropWhile_le isBlank (cs.dropWhile isNameChar)
    have h2 := length_dropWhile_le isNameChar cs
    have h3 := attributeValue_length _hv
    have h4 := length_dropWhile_le isBlank after
    simp only [_h, List.length_cons] at *
    omega
  · have h1 := length_dropWhile_le isBlank (cs.dropWhile isNameChar)
    have h2 := length_dropWhile_le isNameChar cs
    simp only [_h, List.length_cons] at *
    omega

/-- A tag, given the text from its name on, and what follows it. -/
def tag (cs : List Char) : Option (Tag × List Char) :=
  let isTagChar (c : Char) : Bool := !isBlank c && c != '/' && c != '>'
  (attributes [] (cs.dropWhile isTagChar)).map fun (attributes, selfClosing, rest) =>
    (⟨lower (cs.takeWhile isTagChar), attributes, selfClosing⟩, rest)

/-! ### Comments -/

/-- A damaged declaration is a comment up to the next end of a tag. -/
def bogusComment (cs : List Char) : Token × List Char :=
  (.comment (String.ofList (withoutNull (cs.takeWhile (· != '>')))), (cs.dropWhile (· != '>')).tail)

/-- A comment that the page ends in loses the beginning of its end. `out` holds the comment, the last
    character first. -/
def unfinished : List Char → List Char
  | '!' :: '-' :: '-' :: out => out
  | '-' :: '-' :: out => out
  | '-' :: out => out
  | out => out

/-- The comment up to its end, which may have an exclamation mark in it. -/
def commentBody (out : List Char) : List Char → List Char × List Char
  | [] => (unfinished out, [])
  | '-' :: '-' :: '>' :: cs => (out, cs)
  | '-' :: '-' :: '!' :: '>' :: cs => (out, cs)
  | c :: cs => commentBody (c :: out) cs

/-- A comment, given the text behind its two hyphens. -/
def comment (cs : List Char) : Token × List Char :=
  let (out, rest) := match cs with
    | '>' :: cs => ([], cs)
    | '-' :: '>' :: cs => ([], cs)
    | cs => commentBody [] cs
  (.comment (String.ofList (withoutNull out.reverse)), rest)

/-! ### Document types -/

/-- The text behind a word, in any case. -/
def behind? (word : String) (cs : List Char) : Option (List Char) :=
  if (cs.take word.length).map Char.toLower = word.toList then some (cs.drop word.length) else none

/-- A quoted identifier, what follows it, and whether the quote was closed. -/
def quotedId (quote : Char) (cs : List Char) : String × List Char × Bool :=
  let stays (c : Char) : Bool := c != quote && c != '>'
  let text := String.ofList (withoutNull (cs.takeWhile stays))
  match cs.dropWhile stays with
  | c :: rest => if c = quote then (text, rest, true) else (text, c :: rest, false)
  | [] => (text, [], false)

/-- An identifier behind blanks, if a quote starts it. -/
def id? (cs : List Char) : Option (String × List Char × Bool) :=
  match cs.dropWhile isBlank with
  | '"' :: rest => some (quotedId '"' rest)
  | '\x27' :: rest => some (quotedId '\x27' rest)
  | _ => none

/-- Nothing but blanks may stand before the end of the declaration; whatever does is skipped. -/
def endsAtOnce (cs : List Char) : Bool := (cs.dropWhile isBlank).head? == some '>'

/-- The identifiers of a document type and whether they are damaged. -/
def doctypeIds (cs : List Char) : Option String × Option String × Bool :=
  match behind? "public" cs, behind? "system" cs with
  | some rest, _ =>
    match id? rest with
    | none => (none, none, true)
    | some (publicId, _, false) => (some publicId, none, true)
    | some (publicId, rest, true) =>
      if endsAtOnce rest then (some publicId, none, false)
      else
        match id? rest with
        | none => (some publicId, none, true)
        | some (systemId, rest, closed) => (some publicId, some systemId, !closed || rest.all isBlank)
  | _, some rest =>
    match id? rest with
    | none => (none, none, true)
    | some (systemId, rest, closed) => (none, some systemId, !closed || rest.all isBlank)
  | none, none => (none, none, true)

/-- A document type, given the text behind its keyword. -/
def doctype (cs : List Char) : Token × List Char :=
  let cs := cs.dropWhile isBlank
  let isDoctypeChar (c : Char) : Bool := !isBlank c && c != '>'
  let name := cs.takeWhile isDoctypeChar
  let after := (cs.dropWhile isDoctypeChar).dropWhile isBlank
  let (publicId, systemId, damaged) :=
    if name = [] then (none, none, true)
    else if after.head? = some '>' then (none, none, false)
    else doctypeIds after
  let rest := (after.dropWhile (· != '>')).tail
  (.doctype ⟨if name = [] then none else some (lower name), publicId, systemId, damaged⟩, rest)

/-! ### Sections of text -/

/-- The end tag of `name` starts with the slash in front of the text. -/
def closes (name : List Char) : List Char → Bool
  | '/' :: cs =>
    (cs.take name.length).map Char.toLower == name &&
      ((cs.drop name.length).head?.map fun c => isBlank c || c == '/' || c == '>').getD false
  | _ => false

/-- The text up to the end tag of `name`, and what stands behind the angle bracket of the end tag. -/
def upToEnd (name out : List Char) : List Char → List Char × List Char
  | [] => (out.reverse, [])
  | c :: cs => if c = '<' ∧ closes name cs then (out.reverse, cs) else upToEnd name (c :: out) cs

/-- How far a script is commented out, and how many hyphens stand in front. -/
inductive Escape
  | open
  | commented (hyphens : Nat)
  /-- A script within a comment within a script. -/
  | nested (hyphens : Nat)
deriving DecidableEq

/-- A word of letters that is `script` and ends like the name of a tag. -/
def namesScript (cs : List Char) : Bool :=
  (cs.take 6).map Char.toLower == "script".toList &&
    ((cs.drop 6).head?.map fun c => isBlank c || c == '/' || c == '>').getD false

/-- How far the script is commented out behind the character `c`, which `cs` follows. -/
def Escape.after (c : Char) (cs : List Char) : Escape → Escape
  | .open => if c = '<' ∧ "!--".toList.isPrefixOf cs then .commented 0 else .open
  | .commented n =>
    if c = '-' then .commented (n + 1)
    else if c = '>' ∧ 2 ≤ n then .open
    else if c = '<' ∧ namesScript cs then .nested 0
    else .commented 0
  | .nested n =>
    if c = '-' then .nested (n + 1)
    else if c = '>' ∧ 2 ≤ n then .open
    else if c = '<' ∧ cs.head? = some '/' ∧ namesScript cs.tail then .commented 0
    else .nested 0

/-- The script up to its end tag, which counts unless a script within a comment is open. -/
def upToScriptEnd (name : List Char) (escape : Escape) (out : List Char) : List Char → List Char × List Char
  | [] => (out.reverse, [])
  | c :: cs =>
    let shut := match escape with
      | .nested _ => false
      | _ => c = '<' && closes name cs
    if shut then (out.reverse, cs) else upToScriptEnd name (escape.after c cs) (c :: out) cs

/-- The tokens of a text that ends with the end tag of `name`. -/
def sectionTokens (name : String) (text rest : List Char) : List Token × List Char :=
  match rest with
  | [] => (textTokens text, [])
  | _ :: rest =>
    match attributes [] (rest.drop name.length) with
    | some (_, _, rest) => (textTokens text ++ [.endTag name], rest)
    | none => (textTokens text, [])

/-- A section whose characters are all text, as far as two brackets and the end of a tag. -/
def upToBrackets (out : List Char) : List Char → List Char × List Char
  | [] => (out.reverse, [])
  | ']' :: ']' :: '>' :: cs => (out.reverse, cs)
  | c :: cs => upToBrackets (c :: out) cs

/-- The text between the characters that markup cannot hold, and those. -/
def piecesAtNull (cs : List Char) : List Token :=
  (((cs.splitOn '\x00').map textTokens).intersperse [.null]).flatten

/-! ### Markup -/

/-- What starts with an angle bracket and an exclamation mark. -/
def declaration (foreign : Bool) (cs : List Char) : List Token × List Char :=
  match behind? "--" cs, behind? "doctype" cs with
  | some rest, _ => let (token, rest) := comment rest; ([token], rest)
  | _, some rest => let (token, rest) := doctype rest; ([token], rest)
  | none, none =>
    if foreign ∧ "[CDATA[".toList.isPrefixOf cs then
      let (text, rest) := upToBrackets [] (cs.drop 7)
      (piecesAtNull text, rest)
    else let (token, rest) := bogusComment cs; ([token], rest)

/-- What starts with an angle bracket. -/
def opened (foreign : Bool) (cs : List Char) : List Token × List Char :=
  match cs with
  | '!' :: rest => declaration foreign rest
  | '?' :: _ => let (token, rest) := bogusComment cs; ([token], rest)
  | ['/'] => ([.text ['<', '/']], [])
  | '/' :: '>' :: rest => ([], rest)
  | '/' :: rest =>
    if rest.head?.any Char.isAlpha then
      match tag rest with
      | some (tag, rest) => ([.endTag tag.name], rest)
      | none => ([], [])
    else let (token, rest) := bogusComment rest; ([token], rest)
  | _ =>
    if cs.head?.any Char.isAlpha then
      match tag cs with
      | some (tag, rest) => ([.startTag tag], rest)
      | none => ([], [])
    else ([.text ['<']], cs)

/-- The next tokens of a page that is not at its end. `name` is the last start tag's. In foreign elements
    sections of text can be marked as such. -/
def next (content : Content) (foreign : Bool) (name : String) (cs : List Char) : List Token × List Char :=
  match content with
  | .markup =>
    match cs with
    | [] => ([], [])
    | '\x00' :: rest => ([.null], rest)
    | '<' :: rest => opened foreign rest
    | cs =>
      let stays (c : Char) : Bool := c != '<' && c != '\x00'
      (textTokens (decode false (cs.takeWhile stays)), cs.dropWhile stays)
  | .references =>
    let (text, rest) := upToEnd name.toList [] cs
    sectionTokens name (withoutNull (decode false text)) rest
  | .raw =>
    let (text, rest) := upToEnd name.toList [] cs
    sectionTokens name (withoutNull text) rest
  | .script =>
    let (text, rest) := upToScriptEnd name.toList .open [] cs
    sectionTokens name (withoutNull text) rest
  | .plain => (textTokens (withoutNull cs), [])

end Gateway.Html.Lexer
