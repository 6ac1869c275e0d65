import Gateway.Html.Lexer
import Gateway.Html.Tree.Rules
import Gateway.Text.Utf8

/-! Pages. `ofBytes` makes a tree of any bytes, the one that a browser with scripts makes of them. -/

namespace Gateway.Html

open Gateway.Html.Tree

namespace Page

/-- The name of the last start tag, which the end tag of a text has to have. -/
def lastStart (name : String) : List Token → String
  | [] => name
  | .startTag tag :: rest => lastStart tag.name rest
  | _ :: rest => lastStart name rest

/-- Takes the page token by token. The tokens of one step take at least one character. -/
def takeAll (fuel : Nat) (name : String) (cs : List Char) (b : Builder) : Builder :=
  match fuel, cs with
  | 0, _ => b
  | _, [] => b
  | fuel + 1, cs =>
    let (tokens, rest) := Lexer.next b.content b.inForeign name cs
    let b := { b with content := .markup }
    let b := tokens.foldl (fun b token => (Build.takeToken token b).2) b
    takeAll fuel (lastStart name tokens) rest b

def ofChars (cs : List Char) : List Node :=
  let cs := Lexer.prepare cs
  let b := takeAll (cs.length + 1) "" cs .empty
  (Build.takeToken .endOfFile b).2.arena.nodes

def ofBytes (bytes : ByteArray) : List Node := ofChars (Text.ofUtf8Lossy bytes)

end Page
end Gateway.Html
