import Gateway.Url.Basic

/-! Reading URLs. Blanks and control characters at the two ends of a text and line breaks anywhere in it do
    not count. A scheme and a colon come first; how the rest is cut depends on the scheme. `Url.ofText`
    reads every absolute URL that a browser reads and repairs what a browser repairs: backslashes in
    place of slashes, too few or too many slashes in front of a host, dot segments, and characters that
    have to be escaped. -/

namespace Gateway
namespace Url

/-! ### Scheme -/

/-- The text without what does not count in it. -/
def significant (cs : List Char) : List Char :=
  (Text.trim (·.toNat ≤ 0x20) cs).filter fun c => c != '\t' && c != '\n' && c != '\r'

def isSchemeChar (c : Char) : Bool := c.isAlphanum || c == '+' || c == '-' || c == '.'

/-- The scheme in lower case, and what follows its colon. -/
def scheme? (cs : List Char) : Option (String × List Char) :=
  match cs with
  | [] => none
  | c :: _ =>
    match Text.cutAt ':' cs with
    | (scheme, some rest) =>
      if c.isAlpha ∧ scheme.all isSchemeChar then some (String.ofList (scheme.map Char.toLower), rest)
      else none
    | _ => none

/-! ### Path, query and fragment -/

inductive DotSegment
  | here
  | up
deriving DecidableEq, Repr

/-- The dots of a dot segment may be escaped. -/
def dotSegment? (segment : List Char) : Option DotSegment :=
  let lower := segment.map Char.toLower
  if [".", "%2e"].map String.toList |>.contains lower then some .here
  else if ["..", ".%2e", "%2e.", "%2e%2e"].map String.toList |>.contains lower then some .up
  else none

/-- What a path is cut at. -/
def isSeparator (special : Bool) (c : Char) : Bool := c == '/' || (special && c == '\\')

/-- Takes the segments of a path onto `kept`, the last one first. A dot segment at the end leaves an
    empty segment, so that the path still ends in a slash. -/
def takeSegments (kept : List (List Char)) : List (List Char) → List (List Char)
  | [] => kept
  | segment :: rest =>
    let kept := match dotSegment? segment with
      | none => escape pathSet segment :: kept
      | some .here => if rest.isEmpty then [] :: kept else kept
      | some .up => if rest.isEmpty then [] :: kept.tail else kept.tail
    takeSegments kept rest

/-- A path without the slash in front of it. -/
def readSegments (special : Bool) (cs : List Char) : List (List Char) :=
  (takeSegments [] ((cs.map fun c => if isSeparator special c then '/' else c).splitOn '/')).reverse

def segmentsRoute (segments : List (List Char)) : Route := .segments (segments.map String.ofList)

/-- What comes behind the part of a URL that query and fragment follow. -/
structure Tail where
  query : Option String
  fragment : Option String

/-- Cuts off the query and the fragment. -/
def cutTail (special : Bool) (cs : List Char) : List Char × Tail :=
  let (rest, fragment) := Text.cutAt '#' cs
  let (front, query) := Text.cutAt '?' rest
  let set := if special then specialQuerySet else querySet
  (front, {
    query := query.map fun q => String.ofList (escape set q)
    fragment := fragment.map fun f => String.ofList (escape fragmentSet f) })

/-! ### Authority -/

/-- The credentials that stand in front of the last at sign. An empty password is no password, and
    without a username and a password there are no credentials. -/
def readUserinfo (cs : List Char) : Option Userinfo :=
  let (username, password) := Text.cutAt ':' cs
  let username := String.ofList (escape userinfoSet username)
  match password with
  | some (c :: cs) => some ⟨username, some (String.ofList (escape userinfoSet (c :: cs)))⟩
  | _ => if username = "" then none else some ⟨username, none⟩

/-- What stands before the last at sign, if there is one, and what stands after it. -/
def cutUserinfo (cs : List Char) : Option (List Char) × List Char :=
  let host := (cs.reverse.takeWhile (· != '@')).reverse
  if host.length = cs.length then (none, cs) else (some (cs.take (cs.length - host.length - 1)), host)

/-- The host and what follows its colon; colons between brackets do not count. -/
def cutPort (bracketed : Bool) : List Char → List Char × Option (List Char)
  | [] => ([], none)
  | c :: cs =>
    if c = ':' ∧ ¬ bracketed then ([], some cs)
    else
      let (host, port) := cutPort (if c = '[' then true else if c = ']' then false else bracketed) cs
      (c :: host, port)

/-- A port may be left out behind its colon. -/
def readPort (scheme : String) (cs : List Char) : Except UrlError (Option UInt16) :=
  if cs = [] then .ok none
  else
    match (Text.numeral? 10 cs).filter (· < UInt16.size) with
    | none => .error .port
    | some n => if defaultPort? scheme = some (UInt16.ofNat n) then .ok none else .ok (some (UInt16.ofNat n))

/-- An authority of a scheme that is not `file`. -/
def readAuthority (scheme : String) (cs : List Char) : Except UrlError Authority := do
  let (credentials, rest) := cutUserinfo cs
  let userinfo := credentials.bind readUserinfo
  let (name, port) := cutPort false rest
  if isSpecial scheme ∧ name = [] then throw .emptyHost
  let host ← if isSpecial scheme then Host.ofDomain name else Host.ofText name
  if host = .name "" ∧ (port.isSome ∨ userinfo.isSome ∨ credentials = some []) then throw .emptyHost
  return ⟨userinfo, host, ← readPort scheme (port.getD [])⟩

/-! ### Whole URLs -/

/-- What stands before the first separator, and the rest from it on. -/
def cutAuthority (special : Bool) (cs : List Char) : List Char × List Char :=
  (cs.takeWhile (!isSeparator special ·), cs.dropWhile (!isSeparator special ·))

/-- A scheme that browsers know, `file` aside: any number of slashes leads to the authority. -/
def readSpecial (scheme : String) (cs : List Char) : Except UrlError Url := do
  let (front, tail) := cutTail true cs
  let (authority, path) := cutAuthority true (front.dropWhile (isSeparator true))
  return {
    scheme, authority := some (← readAuthority scheme authority)
    route := segmentsRoute (readSegments true path.tail), query := tail.query, fragment := tail.fragment }

/-- A scheme of its own: two slashes lead to an authority, one to a path of segments, and anything else
    is a plain path. -/
def readOther (scheme : String) (cs : List Char) : Except UrlError Url := do
  let (front, tail) := cutTail false cs
  match front with
  | '/' :: '/' :: rest =>
    let (authority, path) := cutAuthority false rest
    let route := if path = [] then .segments [] else segmentsRoute (readSegments false path.tail)
    return {
      scheme, authority := some (← readAuthority scheme authority)
      route, query := tail.query, fragment := tail.fragment }
  | '/' :: path => return {
      scheme, authority := none, route := segmentsRoute (readSegments false path)
      query := tail.query, fragment := tail.fragment }
  | path => return {
      scheme, authority := none, route := .plain (String.ofList (escape controlSet path))
      query := tail.query, fragment := tail.fragment }

/-- A letter and a colon or a bar. -/
def isDriveLetter (cs : List Char) : Bool :=
  match cs with
  | [letter, mark] => letter.isAlpha && (mark == ':' || mark == '|')
  | _ => false

/-- The segments of a file's path: no empty ones in front, and a drive letter keeps its colon. -/
def readFileSegments (cs : List Char) : List (List Char) :=
  match readSegments true cs with
  | [] => []
  | first :: rest =>
    let first := if isDriveLetter first then first.take 1 ++ [':'] else first
    match (first :: rest).dropWhile (· == []) with
    | [] => [[]]
    | segments => segments

/-- A file has a host only behind two slashes, and `localhost` is none. -/
def readFile (cs : List Char) : Except UrlError Url := do
  let (front, tail) := cutTail true cs
  let onDisk (path : List Char) : Url := {
    scheme := "file", authority := some ⟨none, .name "", none⟩
    route := segmentsRoute (readFileSegments path), query := tail.query, fragment := tail.fragment }
  match front with
  | a :: b :: rest =>
    if isSeparator true a ∧ isSeparator true b then
      let (name, path) := cutAuthority true rest
      if isDriveLetter name then return onDisk rest
      if name = [] then return onDisk path.tail
      let host ← Host.ofDomain name
      if host = .name "localhost" then return onDisk path.tail
      return { onDisk path.tail with authority := some ⟨none, host, none⟩ }
    else if isSeparator true a then return onDisk (b :: rest)
    else return onDisk front
  | [a] => return onDisk (if isSeparator true a then [] else [a])
  | [] => return onDisk []

def ofChars (cs : List Char) : Except UrlError Url :=
  match scheme? (significant cs) with
  | none => .error .relative
  | some (scheme, rest) =>
    if scheme = "file" then readFile rest
    else if isSpecial scheme then readSpecial scheme rest
    else readOther scheme rest

/-- The URL that a text writes. -/
def ofText (s : String) : Except UrlError Url := ofChars s.toList

end Url
end Gateway
