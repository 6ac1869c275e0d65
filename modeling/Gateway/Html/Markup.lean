import Gateway.Html.Node

/-! Nodes as markup. What is written reads back as the same page, except where a page holds what markup
    cannot say. The texts of scripts and styles are written as they are, and so is all that a browser with
    scripts never reads. -/

namespace Gateway.Html

/-- Elements that are written without an end tag. -/
def isVoid (tag : String) : Bool :=
  ["area", "base", "basefont", "bgsound", "br", "col", "embed", "frame", "hr", "img", "input", "keygen",
    "link", "meta", "param", "source", "track", "wbr"].contains tag

/-- Elements whose texts are written without references. -/
def isRaw (tag : String) : Bool :=
  ["style", "script", "xmp", "iframe", "noembed", "noframes", "plaintext", "noscript"].contains tag

namespace Markup

def escapeText (c : Char) : List Char :=
  if c = '&' then "&amp;".toList
  else if c = '\u00a0' then "&nbsp;".toList
  else if c = '<' then "&lt;".toList
  else if c = '>' then "&gt;".toList
  else [c]

def escapeValue (c : Char) : List Char :=
  if c = '&' then "&amp;".toList
  else if c = '\u00a0' then "&nbsp;".toList
  else if c = '"' then "&quot;".toList
  else [c]

def attributeName (a : Attribute) : String :=
  match a.space with
  | .plain => a.name
  | .xlink => "xlink:" ++ a.name
  | .xml => "xml:" ++ a.name
  | .xmlns => if a.name = "xmlns" then a.name else "xmlns:" ++ a.name

def attributeText (a : Attribute) : String :=
  " " ++ attributeName a ++ "=\"" ++ String.ofList (a.value.toList.flatMap escapeValue) ++ "\""

def startTag (name : ElementName) (attributes : List Attribute) : String :=
  "<" ++ name.tag ++ String.join (attributes.map attributeText) ++ ">"

def endTag (name : ElementName) : String := "</" ++ name.tag ++ ">"

/-- Where a node stands decides how its text is written. -/
def text (parent : Option ElementName) (text : String) : String :=
  match parent with
  | some ⟨.html, tag⟩ => if isRaw tag then text else String.ofList (text.toList.flatMap escapeText)
  | _ => String.ofList (text.toList.flatMap escapeText)

/-! ### Writing -/

/-- What is still to be written. -/
inductive Piece
  | node (parent : Option ElementName) (node : Node)
  | endTag (name : ElementName)

mutual
/-- The number of pieces that a node is written in, at most. -/
def weight : Node → Nat
  | .element _ _ children _ => weights children + 2
  | _ => 1

def weights : List Node → Nat
  | [] => 0
  | node :: nodes => weight node + weights nodes
end

def Piece.weight : Piece → Nat
  | .node _ n => Markup.weight n
  | .endTag _ => 1

/-- The weight of pieces together. -/
def Piece.weights : List Piece → Nat
  | [] => 0
  | piece :: rest => piece.weight + Piece.weights rest

theorem Piece.weights_append (xs ys : List Piece) : Piece.weights (xs ++ ys) = Piece.weights xs + Piece.weights ys := by
  induction xs with
  | nil => simp [Piece.weights]
  | cons x xs ih => simp only [List.cons_append, Piece.weights, ih, Nat.add_assoc]

def pieces (parent : Option ElementName) (nodes : List Node) : List Piece := nodes.map (.node parent)

theorem weights_pieces (parent : Option ElementName) (nodes : List Node) :
    Piece.weights (pieces parent nodes) = weights nodes := by
  induction nodes with
  | nil => rfl
  | cons node nodes ih =>
    simp only [pieces, List.map_cons, Piece.weights, weights] at ih ⊢
    rw [ih]; rfl

/-- Writes the pieces behind `out`. The contents of a template are no part of its markup. -/
def writePieces (out : String) : List Piece → String
  | [] => out
  | .endTag name :: rest => writePieces (out ++ endTag name) rest
  | .node parent (.text content) :: rest => writePieces (out ++ text parent content) rest
  | .node _ (.comment content) :: rest => writePieces (out ++ "<!--" ++ content ++ "-->") rest
  | .node _ (.doctype name) :: rest => writePieces (out ++ "<!DOCTYPE " ++ name ++ ">") rest
  | .node _ (.element name attributes children _) :: rest =>
    if name.space = .html ∧ isVoid name.tag then writePieces (out ++ startTag name attributes) rest
    else writePieces (out ++ startTag name attributes) (pieces (some name) children ++ .endTag name :: rest)
termination_by todo => Piece.weights todo
decreasing_by
  all_goals simp only [Piece.weights, Piece.weights_append, weights_pieces]
  all_goals simp only [Piece.weight, weight]
  all_goals omega

end Markup

/-- A page as markup. -/
def markup (nodes : List Node) : String := Markup.writePieces "" (Markup.pieces none nodes)

end Gateway.Html
