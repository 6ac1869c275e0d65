/-! Lexical paths. A path is read as a rooted flag and the segments between its slashes; `normal`
    drops empty and `.` segments and lets `..` take back the segment before it. A rooted path never
    climbs above its root, an unrooted one keeps the climbs it cannot undo in front. Nothing here looks
    at a file system or decodes an escape. -/

namespace Gateway.Path

/-- A path as a rooted flag and the segments between its slashes. -/
structure Lexical where
  rooted : Bool
  segments : List (List Char)
deriving DecidableEq, Repr

namespace Lexical

def read (path : List Char) : Lexical := ⟨path.head? == some '/', path.splitOn '/'⟩

/-- Takes one more segment onto `kept`, which holds the segments kept so far, the last one first. -/
def keep (rooted : Bool) (kept : List (List Char)) (segment : List Char) : List (List Char) :=
  if segment = [] ∨ segment = ['.'] then kept
  else if segment = ['.', '.'] then
    match kept with
    | last :: rest => if last = ['.', '.'] then (if rooted then kept else segment :: kept) else rest
    | [] => if rooted then [] else [segment]
  else segment :: kept

def normal (path : Lexical) : Lexical :=
  { path with segments := (path.segments.foldl (keep path.rooted) []).reverse }

/-- Slashes between the segments, one in front of a rooted path, and `.` for the path that is neither
    rooted nor has a segment. -/
def render (path : Lexical) : List Char :=
  let joined := ['/'].intercalate path.segments
  if path.rooted then '/' :: joined else if joined = [] then ['.'] else joined

end Lexical

/-- The shortest path that means the same lexically. -/
def clean (path : String) : String :=
  String.ofList (Lexical.read path.toList).normal.render

/-- The path up to and with its last slash; empty when it has none. -/
def upToLastSlash (path : List Char) : List Char :=
  (path.reverse.dropWhile (· != '/')).reverse

/-- The directory that a path lies in: all but its last segment, cleaned. -/
def dir (path : String) : String := clean (String.ofList (upToLastSlash path.toList))

/-- The non-empty elements with slashes between them, cleaned; empty when there are none. -/
def join (elements : List String) : String :=
  match elements.filter (· != "") with
  | [] => ""
  | parts => clean ("/".intercalate parts)

end Gateway.Path
