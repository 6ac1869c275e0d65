import Gateway.Log.Record
import Gateway.Text.Numeral
import Gateway.Text.Trim

/-! Filters of the journal. A filter is a list of directives, each a level for all sources or for those whose name
    begins in some way. For a record the directive counts that says most of its source, and of two that say the
    same the later one. A filter without directives lets errors pass. -/

namespace Gateway.Log

/-- Which records pass: those of at most a rank, of sources with this beginning. -/
structure Directive where
  start : Option (List Char)
  rank : Nat
deriving DecidableEq, Repr

/-- Why a text is no directive. -/
inductive DirectiveError
  | form
  | level
deriving DecidableEq, Repr

def DirectiveError.message : DirectiveError → String
  | form => "invalid filter directive"
  | level =>
    "error parsing level filter: expected one of \"off\", \"error\", \"warn\", \"info\", \"debug\", " ++
      "\"trace\", or a number 0-5"

namespace Directive

def rankNames : List String := ["off", "error", "warn", "info", "debug", "trace"]

/-- The rank that a name or number stands for. -/
def rank? (cs : List Char) : Option Nat :=
  let digits := match cs with
    | '+' :: rest => rest
    | cs => cs
  ((Text.numeral? 10 digits).filter (· ≤ 5)).or (rankNames.findIdx? fun name => Text.sameCaseless name.toList cs)

/-- A character that a directive may begin with. -/
def isStart (c : Char) : Bool := c.isAlphanum || "-:_".toList.contains c || 0x7f < c.toNat

/-- A directive: a level, a source, or a source and its level. A source alone lets all its records pass. -/
def ofText (text : List Char) : Except DirectiveError Directive :=
  let cs := Text.trim Char.isWhitespace text
  if ¬ cs.head?.any isStart then .error .form
  else
    match Text.cutAt '=' cs with
    | (source, some []) => .ok ⟨some source, 5⟩
    | (source, some level) =>
      match rank? level with
      | some rank => .ok ⟨some source, rank⟩
      | none => .error .level
    | (cs, none) =>
      match rank? cs with
      | some rank => .ok ⟨none, rank⟩
      | none => .ok ⟨some cs, 5⟩

/-- The directives that a text lists, as far as they are directives. -/
def list (text : String) : List (List Char × Except DirectiveError Directive) :=
  ((text.toList.splitOn ',').filter (· ≠ [])).map fun cs => (cs, ofText cs)

/-- How much of a source's name a directive says, if it is about that source. -/
def closeness? (d : Directive) (source : Source) : Option Nat :=
  match d.start with
  | none => some 0
  | some start => if start.isPrefixOf source.name.toList then some (start.length + 1) else none

end Directive

abbrev Filter := List Directive

namespace Filter

/-- The directives of a text, if all of them are. -/
def ofText? (text : String) : Option Filter :=
  (Directive.list text).mapM fun (_, d) => d.toOption

/-- The directives of a text that are, and what is said about the others. -/
def ofTextLossy (text : String) : Filter × List String :=
  let read := Directive.list text
  (read.filterMap fun (_, d) => d.toOption,
    read.filterMap fun (cs, d) => match d with
      | .ok _ => none
      | .error e => some ("ignoring \u0060" ++ String.ofList cs ++ "\u0060: " ++ e.message))

/-- The directive that counts for a source. -/
def directive? (filter : Filter) (source : Source) : Option Directive :=
  (filter.foldl (fun best d => match d.closeness? source, best with
    | none, _ => best
    | some n, none => some (n, d)
    | some n, some (m, _) => if m ≤ n then some (n, d) else best) none).map (·.2)

def passes (filter : Filter) (r : Record) : Bool :=
  let filter := if filter = [] then [⟨none, Level.error.rank⟩] else filter
  (directive? filter r.source).any (r.level.rank ≤ ·.rank)

/-- The directives that give the program's own records a level. -/
def ofLevel (level : String) : Filter × List String :=
  ofTextLossy ("console_proxy=" ++ level ++ ",tower_http=" ++ level)

end Filter
end Gateway.Log
