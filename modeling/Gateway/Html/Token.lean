import Gateway.Html.Node

/-! The tokens that markup is cut into before a tree is made of them. -/

namespace Gateway.Html

/-- A start tag. Of attributes with one name only the first counts. -/
structure Tag where
  name : String
  attributes : List Attribute
  selfClosing : Bool
deriving DecidableEq, Repr

structure Doctype where
  name : Option String
  publicId : Option String
  systemId : Option String
  /-- It was damaged in a way that old pages have. -/
  damaged : Bool
deriving DecidableEq, Repr

inductive Token
  | text (text : List Char)
  | null
  | startTag (tag : Tag)
  | endTag (name : String)
  | comment (text : String)
  | doctype (doctype : Doctype)
  | endOfFile
deriving DecidableEq, Repr

/-- How the text behind a start tag is read. -/
inductive Content
  /-- As markup. -/
  | markup
  /-- As text with character references, up to the end tag. -/
  | references
  /-- As plain text, up to the end tag. -/
  | raw
  /-- As plain text, up to an end tag that is not commented out. -/
  | script
  /-- As plain text, up to the end of the page. -/
  | plain
deriving DecidableEq, Repr

namespace Tag

def attribute? (tag : Tag) (name : String) : Option String :=
  (tag.attributes.find? fun a => a.space == .plain && a.name == name).map (·.value)

end Tag
end Gateway.Html
