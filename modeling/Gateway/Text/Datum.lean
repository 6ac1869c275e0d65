import Gateway.Text.Numeral

/-! Data in written form: nothing, truth values, numbers, texts, lists, and records, which keep the order of their
    fields. No blanks stand between the parts. Texts stand in quotes, where quotes, backslashes and controls
    are escaped and every other character stands for itself. -/

namespace Gateway

inductive Datum
  | none
  | flag (value : Bool)
  | number (value : Nat)
  | text (value : String)
  | list (items : List Datum)
  | record (fields : List (String × Datum))

namespace Datum

def escape (c : Char) : List Char :=
  if c = '"' then "\\\"".toList
  else if c = '\\' then "\\\\".toList
  else if c = '\x08' then "\\b".toList
  else if c = '\t' then "\\t".toList
  else if c = '\n' then "\\n".toList
  else if c = '\x0c' then "\\f".toList
  else if c = '\r' then "\\r".toList
  else if c.toNat < 0x20 then "\\u00".toList ++ Text.hexByte (UInt8.ofNat c.toNat)
  else [c]

def quoted (text : String) : String := "\"" ++ String.ofList (text.toList.flatMap escape) ++ "\""

mutual

def written : Datum → String
  | none => "null"
  | flag value => if value then "true" else "false"
  | number value => toString value
  | text value => quoted value
  | list items => "[" ++ writtenItems items ++ "]"
  | record fields => "\x7b" ++ writtenFields fields ++ "\x7d"

/-- Items with commas between them. -/
def writtenItems : List Datum → String
  | [] => ""
  | [item] => item.written
  | item :: items => item.written ++ "," ++ writtenItems items

/-- Fields with commas between them. -/
def writtenFields : List (String × Datum) → String
  | [] => ""
  | [(name, value)] => quoted name ++ ":" ++ value.written
  | (name, value) :: fields => quoted name ++ ":" ++ value.written ++ "," ++ writtenFields fields

end

/-- What may be missing. -/
def optional {α : Type} (f : α → Datum) : Option α → Datum
  | some a => f a
  | .none => none

end Datum
end Gateway
