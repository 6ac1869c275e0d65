import Gateway.Text.Trim

/-! Header fields. The names of a message's fields are kept in lower case, which makes them compare without
    regard to case; their values are bytes, which are a text only where all of them are visible. Fields of
    one name keep their order, and that is all that is said about order. -/

namespace Gateway.Http

/-- A field of a message; its name is in lower case. -/
structure Field where
  name : String
  value : ByteArray

/-- Fields are the same if their names and the bytes of their values are. -/
instance : DecidableEq Field := fun a b =>
  decidable_of_iff (a.name = b.name ∧ a.value.data = b.value.data) (by
    rcases a with ⟨name, ⟨bytes⟩⟩
    rcases b with ⟨name', ⟨bytes'⟩⟩
    simp)

/-! ### Names -/

/-- The characters of names. -/
def isNameChar (c : Char) : Bool := c.isAlphanum || "!#$%&'*+-.^_\u0060|~".toList.contains c

/-- The name that a text gives, in lower case. -/
def fieldName? (cs : List Char) : Option String :=
  if cs ≠ [] ∧ cs.length < 65536 ∧ cs.all isNameChar then some (String.ofList (cs.map Char.toLower)) else none

/-! ### Values -/

/-- Bytes that are characters in every reading. -/
def isVisible (b : UInt8) : Bool := (0x20 ≤ b && b < 0x7f) || b == 0x09

/-- The text of a value, if all of it is visible. -/
def text? (value : ByteArray) : Option String :=
  if value.data.all isVisible then String.fromUTF8? value else none

/-- Bytes that a value may hold: no controls but tabs. -/
def isCarried (b : UInt8) : Bool := (0x20 ≤ b && b != 0x7f) || b == 0x09

/-- The value that a text makes, if it may be one. -/
def value? (text : String) : Option ByteArray :=
  if text.toUTF8.data.all isCarried then some text.toUTF8 else none

/-- The elements of a list in a value: what stands between its commas, without the blanks around it. -/
def elements (text : String) : List (List Char) :=
  (text.toList.splitOn ',').map (Text.trim fun c => c == ' ' || c == '\t')

/-! ### Headers -/

structure Headers where
  fields : List Field
deriving DecidableEq

namespace Headers

def empty : Headers := ⟨[]⟩

instance : Inhabited Headers := ⟨empty⟩

/-- The values of a name, in their order. -/
def values (h : Headers) (name : String) : List ByteArray :=
  (h.fields.filter (·.name == name)).map (·.value)

def first? (h : Headers) (name : String) : Option ByteArray := (h.values name).head?

def contains (h : Headers) (name : String) : Bool := h.fields.any (·.name == name)

/-- The text of the first value of a name. -/
def text? (h : Headers) (name : String) : Option String := (h.first? name).bind Http.text?

/-- The values of a name that are texts. -/
def texts (h : Headers) (name : String) : List String := (h.values name).filterMap Http.text?

def remove (h : Headers) (name : String) : Headers := ⟨h.fields.filter (·.name != name)⟩

def add (h : Headers) (name : String) (value : ByteArray) : Headers := ⟨h.fields ++ [⟨name, value⟩]⟩

/-- Makes `value` the only one of its name. -/
def set (h : Headers) (name : String) (value : ByteArray) : Headers := (h.remove name).add name value

/-- Makes `text` the only value of its name, or removes all of them if it may not be one. -/
def setText (h : Headers) (name text : String) : Headers :=
  match value? text with
  | some value => h.set name value
  | none => h.remove name

/-- The fields by the order of their names. -/
def sorted (h : Headers) : List Field := h.fields.mergeSort fun a b => a.name ≤ b.name

end Headers
end Gateway.Http
