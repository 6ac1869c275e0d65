/-! Pages as trees. A page is a list of nodes; an element has attributes in the order of the page, its
    children, and, if it is a template, contents that are kept apart from the children. -/

namespace Gateway.Html

/-- The vocabulary that an element belongs to. -/
inductive Space
  | html
  | mathml
  | svg
deriving DecidableEq, Repr

structure ElementName where
  space : Space
  tag : String
deriving DecidableEq, Repr

/-- The vocabulary that an attribute belongs to, if not to that of its element. -/
inductive AttributeSpace
  | plain
  | xlink
  | xml
  | xmlns
deriving DecidableEq, Repr

structure Attribute where
  space : AttributeSpace
  name : String
  value : String
deriving DecidableEq, Repr

inductive Node
  | text (text : String)
  | comment (text : String)
  | doctype (name : String)
  | element (name : ElementName) (attributes : List Attribute) (children contents : List Node)

/-- Blanks in markup. -/
def isBlank (c : Char) : Bool := c == ' ' || c == '\t' || c == '\n' || c == '\x0c' || c == '\r'

end Gateway.Html
