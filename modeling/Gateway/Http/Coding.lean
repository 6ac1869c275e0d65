import Gateway.Gzip.Member
import Gateway.Http.Headers
import Gateway.Text.Utf8

/-! Codings of bodies. The fields list them one behind the other, over several values and between commas, in any
    case; empty elements and `identity` say nothing. What is understood is one `gzip` or none at all. A coding is
    undone up to a limit of bytes, and done again at a level. -/

namespace Gateway.Http

inductive Coding
  | identity
  | gzip
deriving DecidableEq, Repr

/-- A coding, or several ones, that nothing here can undo. -/
structure UnsupportedCoding where
  coding : String
deriving DecidableEq, Repr

def UnsupportedCoding.message (e : UnsupportedCoding) : String := "unsupported content encoding '" ++ e.coding ++ "'"

namespace Coding

/-- The codings that a value lists, in lower case. -/
def tokens (value : String) : List String :=
  ((elements value).map fun cs => String.ofList (cs.map Char.toLower)).filter fun t => t != "" && t != "identity"

/-- The codings that all values list. A value that is no text is refused as it is. -/
def allTokens : List ByteArray → Except UnsupportedCoding (List String)
  | [] => .ok []
  | value :: rest =>
    match text? value with
    | none => .error ⟨String.ofList (Text.ofUtf8Lossy value)⟩
    | some text => (allTokens rest).map (tokens text ++ ·)

def ofTokens : List String → Except UnsupportedCoding Coding
  | [] => .ok .identity
  | [token] => if token = "gzip" ∨ token = "x-gzip" then .ok .gzip else .error ⟨token⟩
  | tokens => .error ⟨", ".intercalate tokens⟩

def ofValues (values : List ByteArray) : Except UnsupportedCoding Coding := do ofTokens (← allTokens values)

def ofHeaders (h : Headers) : Except UnsupportedCoding Coding := ofValues (h.values "content-encoding")

/-- What a coded body holds, if that is at most `limit` bytes. Limits are words of 64 bits. Members are inflated up to
    the byte behind the limit; behind the greatest limit there is no such byte, the sum comes round to zero, and nothing
    is inflated. -/
def decode (limit : Nat) (body : ByteArray) : Coding → Except Gzip.DecodeError ByteArray
  | identity => if limit < body.size then .error (.tooLarge limit) else .ok body
  | gzip => if limit + 1 < UInt64.size then Gzip.decode limit body else .ok .empty

/-- Levels above 9 count as 9. -/
def encode [Gzip.Writer] (level : Nat) (body : ByteArray) : Coding → ByteArray
  | identity => body
  | gzip => Gzip.Writer.write (min level 9) body

end Coding
end Gateway.Http
