import Gateway.Toml.Lexeme

/-! Documents. A document is lines that give a key its value, and headers that say which table the keys behind
    them belong to. No key is given twice, and no table is made twice: a header may still claim a table that
    exists only because one within it has been made, and a dotted key may add to tables that dotted keys have made. -/

namespace Gateway.Toml

/-! ### Adding to tables -/

/-- Gives a new key its value. -/
def insertNew? (key : String) (value : Value) (entries : Entries) : Option Entries :=
  if (Entries.find? entries key).isSome then none else some (entries ++ [(key, value)])

/-- Gives the last of the dotted keys a value within a table; the keys before it make tables, or name tables that
    dotted keys have made. -/
def insertDotted? (value : Value) : List String → Entries → Option Entries
  | [], _ => none
  | [key], entries => insertNew? key value entries
  | key :: more, entries =>
    match Entries.find? entries key with
    | none => (insertDotted? value more []).map fun inner => entries ++ [(key, .table .dotted inner)]
    | some (.table making inner) =>
      -- A table that a header within it has made may be passed, but it takes no key itself.
      if making = .header ∨ (making = .within ∧ more.length = 1) then none
      else (insertDotted? value more inner).map fun inner => Entries.replace entries key (.table making inner)
    | some (.tables elements) =>
      match elements.getLast? with
      | none => none
      | some last =>
        if more.length = 1 then none
        else
          (insertDotted? value more last).map fun last =>
            Entries.replace entries key (.tables (elements.dropLast ++ [last]))
    | some _ => none

/-- Gives the last of the dotted keys a value within a table in braces. -/
def insertInline? (value : Value) : List String → Entries → Option Entries
  | [], _ => none
  | [key], entries => insertNew? key value entries
  | key :: more, entries =>
    match Entries.find? entries key with
    | none => (insertInline? value more []).map fun inner => entries ++ [(key, .inline .dotted inner)]
    | some (.inline .dotted inner) =>
      (insertInline? value more inner).map fun inner => Entries.replace entries key (.inline .dotted inner)
    | some _ => none

/-- Applies `f` to the table that a header's path leads to, the last one where there are several. What is not
    there is made. -/
def modifyAt? (f : Entries → Option Entries) : List String → Entries → Option Entries
  | [], entries => f entries
  | key :: more, entries =>
    match Entries.find? entries key with
    | none => (modifyAt? f more []).map fun inner => entries ++ [(key, .table .within inner)]
    | some (.table making inner) =>
      (modifyAt? f more inner).map fun inner => Entries.replace entries key (.table making inner)
    | some (.tables elements) =>
      match elements.getLast? with
      | none => none
      | some last =>
        (modifyAt? f more last).map fun last => Entries.replace entries key (.tables (elements.dropLast ++ [last]))
    | some _ => none

/-- Makes the table of a header. One that exists on account of a table within it is claimed, and comes last then. -/
def claim? (key : String) (entries : Entries) : Option Entries :=
  match Entries.find? entries key with
  | none => some (entries ++ [(key, .table .header [])])
  | some (.table .within inner) => some (Entries.remove entries key ++ [(key, .table .header inner)])
  | some _ => none

/-- Makes one more table of a header that may come again. -/
def addTable? (key : String) (entries : Entries) : Option Entries :=
  match Entries.find? entries key with
  | none => some (entries ++ [(key, .tables [[]])])
  | some (.tables elements) => some (Entries.replace entries key (.tables (elements ++ [[]])))
  | some _ => none

/-! ### Values -/

/-- Elements up to the closing bracket. -/
def elements (value : Reader Value) : Nat → Reader (List Value)
  | 0, _ => none
  | fuel + 1, cs =>
    match skipLines cs with
    | ']' :: cs => some ([], cs)
    | cs => do
      let (element, cs) ← value cs
      match skipLines cs with
      | ']' :: cs => some ([element], cs)
      | ',' :: cs => (elements value fuel cs).map fun (more, cs) => (element :: more, cs)
      | _ => none

/-- Keys and values up to the closing brace; `entries` come before them. -/
def pairs (value : Reader Value) : Nat → Entries → Reader Entries
  | 0, _, _ => none
  | fuel + 1, entries, cs => do
    let (keys, cs) ← path cs
    let (_, cs) ← symbol '=' cs
    let (v, cs) ← value (skipBlanks cs)
    let entries ← insertInline? v keys entries
    match skipBlanks cs with
    | ',' :: cs => pairs value fuel entries cs
    | '}' :: cs => some (entries, cs)
    | _ => none

/-- A number or date. -/
def number : Reader Value := fun cs =>
  match datetime cs with
  | some (text, cs) => some (.datetime text, cs)
  | none =>
    match float cs with
    | some (x, cs) => some (.float x, cs)
    | none => (integer cs).map fun (n, cs) => (.integer n, cs)

/-- A value in which values nest less deep than `depth`. -/
def value (depth : Nat) : Reader Value := fun cs =>
  match cs with
  | '"' :: _ => (string cs).map fun (s, cs) => (.text s, cs)
  | '\x27' :: _ => (string cs).map fun (s, cs) => (.text s, cs)
  | 't' :: 'r' :: 'u' :: 'e' :: cs => some (.boolean true, cs)
  | 'f' :: 'a' :: 'l' :: 's' :: 'e' :: cs => some (.boolean false, cs)
  | '[' :: cs =>
    match depth with
    | 0 => none
    | depth + 1 => (elements (value depth) (cs.length + 1) cs).map fun (vs, cs) => (.array vs, cs)
  | '\x7b' :: cs =>
    match depth with
    | 0 => none
    | depth + 1 =>
      match skipBlanks cs with
      | '}' :: cs => some (.inline .header [], cs)
      | _ => (pairs (value depth) (cs.length + 1) [] cs).map fun (entries, cs) => (.inline .header entries, cs)
  | _ => number cs

/-! ### Lines -/

/-- What has been read of a document: its tables, and the path of the table that keys belong to. -/
structure Reading where
  root : Entries
  header : List String

/-- A header, behind its opening bracket. -/
def header (r : Reading) (cs : List Char) : Option (Reading × List Char) := do
  let (repeated, cs) := match cs with
    | '[' :: cs => (true, cs)
    | cs => (false, cs)
  let (keys, cs) ← path cs
  let (_, cs) ← symbol ']' cs
  let cs ← if repeated then (symbol ']' cs).map (·.2) else some cs
  let cs ← lineEnd? cs
  let key ← keys.getLast?
  let root ← modifyAt? (if repeated then addTable? key else claim? key) keys.dropLast r.root
  return (⟨root, keys⟩, cs)

/-- A key and its value. -/
def pair (r : Reading) (cs : List Char) : Option (Reading × List Char) := do
  let (keys, cs) ← path cs
  let (_, cs) ← symbol '=' cs
  let (v, cs) ← value (depthLimit - 1) (skipBlanks cs)
  let cs ← lineEnd? cs
  let root ← modifyAt? (insertDotted? v keys) r.header r.root
  return ({ r with root }, cs)

/-- Reads line by line. A line has at least one character. -/
def readLines : Nat → Reading → List Char → Option Entries
  | 0, r, _ => some r.root
  | fuel + 1, r, cs =>
    match skipBlanks cs with
    | [] => some r.root
    | c :: cs =>
      if c = '#' ∨ c = '\n' ∨ c = '\r' then do readLines fuel r (← lineEnd? (c :: cs))
      else do
        let (r, cs) ← if c = '[' then header r cs else pair r (c :: cs)
        readLines fuel r cs

/-- The entries of a document. A mark of the byte order in front of it does not count. -/
def read? (text : String) : Option Entries :=
  let cs := match text.toList with
    | '\ufeff' :: cs => cs
    | cs => cs
  readLines (cs.length + 1) ⟨[], []⟩ cs

end Gateway.Toml
