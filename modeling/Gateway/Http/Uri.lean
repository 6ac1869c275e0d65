import Gateway.Text.Trim

/-! Request targets. A request asks for a path, for a whole URI, for an authority alone, or for `*`. The path
    goes up to the query or fragment, and the fragment is dropped. `Uri.ofText` keeps all parts as they are
    written; it only looks for characters that have no place there. -/

namespace Gateway.Http

/-- Why a text is no request target. -/
inductive UriError
  | empty
  | tooLong
  | schemeTooLong
  | invalidCharacter
  | invalidAuthority
  | invalidFormat
deriving DecidableEq, Repr

def UriError.message : UriError → String
  | empty => "empty string"
  | tooLong => "uri too long"
  | schemeTooLong => "scheme too long"
  | invalidCharacter => "invalid uri character"
  | invalidAuthority => "invalid authority"
  | invalidFormat => "invalid format"

structure Uri where
  scheme : Option String
  authority : Option String
  /-- The path as it is written, which may be empty. -/
  rawPath : String
  query : Option String
deriving DecidableEq, Repr

namespace Uri

/-! ### Characters -/

def isSchemeChar (c : Char) : Bool := c.isAlphanum || "+-.:~".toList.contains c

def isAuthorityChar (c : Char) : Bool := c.isAlphanum || "!$&'()*+,-.:;=@[]_~%".toList.contains c

def isPathChar (c : Char) : Bool :=
  c.toNat ≥ 0x7f || (c.toNat > 0x20 && !"#<>?\u0060".toList.contains c)

def isQueryChar (c : Char) : Bool :=
  c.toNat ≥ 0x7f || (c.toNat > 0x20 && !"\"#<>".toList.contains c)

/-! ### Authorities -/

/-- What has been seen of an authority. Colons and percent signs count from the last `@` or `]` on. -/
structure Seen where
  colons : Nat := 0
  opened : Bool := false
  closed : Bool := false
  percent : Bool := false
  /-- The last character is an `@`. -/
  atEnd : Bool := false

/-- Takes one more character, unless it has no place. -/
def Seen.next? (s : Seen) (c : Char) : Option Seen :=
  let s := { s with atEnd := false }
  if c = ':' then if s.colons < 8 then some { s with colons := s.colons + 1 } else none
  else if c = '[' then if s.percent ∨ s.opened then none else some { s with opened := true }
  else if c = ']' then
    if ¬ s.opened ∨ s.closed then none else some { s with closed := true, colons := 0, percent := false }
  else if c = '@' then some { s with colons := 0, percent := false, atEnd := true }
  else if c = '%' then some { s with percent := true }
  else some s

/-- Brackets pair up, at most one colon stands before a port, and something follows an `@`. -/
def Seen.isComplete (s : Seen) : Bool := s.opened == s.closed && s.colons ≤ 1 && !s.atEnd && !s.percent

def see (s : Seen) : List Char → Except UriError Seen
  | [] => .ok s
  | c :: cs =>
    if isAuthorityChar c then
      match s.next? c with
      | some s => see s cs
      | none => .error .invalidAuthority
    else .error .invalidCharacter

/-- Cuts an authority off: up to a path, query or fragment. -/
def cutAuthority (cs : List Char) : Except UriError (List Char × List Char) := do
  if cs = [] then .error .empty
  else
    let isEnd (c : Char) : Bool := c == '/' || c == '?' || c == '#'
    let text := cs.takeWhile (!isEnd ·)
    if (← see {} text).isComplete then .ok (text, cs.dropWhile (!isEnd ·)) else .error .invalidAuthority

/-! ### Paths -/

/-- A path and the query behind it. -/
def pathQuery (cs : List Char) : Except UriError (String × Option String) :=
  let (path, rest) := cs.span fun c => c != '?' && c != '#'
  if ¬ path.all isPathChar then .error .invalidCharacter
  else
    match rest with
    | '?' :: rest =>
      let query := rest.takeWhile (· != '#')
      if query.all isQueryChar then .ok (String.ofList path, some (String.ofList query))
      else .error .invalidCharacter
    | _ => .ok (String.ofList path, none)

/-! ### Schemes -/

/-- The scheme in front of `://`, and what follows. The two schemes of the web are kept in lower case. -/
def scheme? (cs : List Char) : Except UriError (Option String × List Char) :=
  if Text.sameCaseless (cs.take 7) "http://".toList then .ok (some "http", cs.drop 7)
  else if Text.sameCaseless (cs.take 8) "https://".toList then .ok (some "https", cs.drop 8)
  else
    let text := cs.takeWhile fun c => isSchemeChar c && c != ':'
    if cs.length > 3 ∧ "://".toList.isPrefixOf (cs.drop text.length) then
      if text.length > 64 then .error .schemeTooLong
      else .ok (some (String.ofList text), cs.drop (text.length + 3))
    else .ok (none, cs)

/-! ### Targets -/

/-- An authority alone, or a scheme, an authority and a path. -/
def ofRest (cs : List Char) : Except UriError Uri := do
  let (scheme, rest) ← scheme? cs
  let (authority, rest) ← cutAuthority rest
  match scheme with
  | none =>
    if rest ≠ [] then .error (if cs.length = 1 then .invalidAuthority else .invalidFormat)
    else .ok ⟨none, some (String.ofList authority), "", none⟩
  | some scheme =>
    if authority = [] then .error .invalidFormat
    else
      let (path, query) ← pathQuery rest
      .ok ⟨some scheme, some (String.ofList authority), path, query⟩

def ofText (text : String) : Except UriError Uri :=
  if text.utf8ByteSize > 65534 then .error .tooLong
  else
    match text.toList with
    | [] => .error .empty
    | ['*'] => .ok ⟨none, none, "*", none⟩
    | '/' :: rest => (pathQuery ('/' :: rest)).map fun (path, query) => ⟨none, none, path, query⟩
    | cs => ofRest cs

/-- The path, which is `/` where it is left out behind an authority with a scheme. -/
def path (uri : Uri) : String :=
  if uri.rawPath = "" ∧ (uri.scheme.isSome ∨ uri.query.isSome) then "/" else uri.rawPath

/-- A target in written form. -/
def text (uri : Uri) : String :=
  (uri.scheme.map (· ++ "://")).getD "" ++ uri.authority.getD "" ++ uri.path ++ (uri.query.map ("?" ++ ·)).getD ""

end Uri
end Gateway.Http
