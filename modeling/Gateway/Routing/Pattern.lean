import Gateway.Text.Trim

/-! Patterns of paths. A pattern is read from a text in which `{name}` stands for the rest of a segment and
    `{*name}` for the rest of the path; doubled braces are plain ones. Two patterns conflict if nothing says which
    of them a path belongs to: they come to an end together, or one of them takes the rest of a path
    where the other leaves it open as well. Of two patterns that differ otherwise, a path belongs to the one
    that says more at the place where they part. -/

namespace Gateway

inductive Piece
  | plain (c : Char)
  /-- The rest of a segment. -/
  | segment (name : String)
  /-- The rest of the path. -/
  | tail (name : String)
deriving DecidableEq, Repr

abbrev Pattern := List Piece

/-- Why a text is no pattern. -/
inductive PatternError
  | notRooted
  /-- A segment begins with a colon or an asterisk. -/
  | marked
  /-- A brace has no partner, or what stands between two braces is no name. -/
  | braces
  /-- Something follows the rest of a path, or the rest of a segment within it. -/
  | inside
  /-- There are too many rests of segments. -/
  | crowded
deriving DecidableEq, Repr

namespace Pattern

/-! ### Reading -/

/-- A character, and whether it is a brace that means something. -/
structure Mark where
  char : Char
  isBrace : Bool
deriving DecidableEq, Repr

def marks : List Char → List Mark
  | '{' :: '{' :: rest => ⟨'{', false⟩ :: marks rest
  | '}' :: '}' :: rest => ⟨'}', false⟩ :: marks rest
  | c :: rest => ⟨c, c == '{' || c == '}'⟩ :: marks rest
  | [] => []

/-- The rest of a name up to its closing brace, and what follows that. -/
def nameRest? : List Mark → Option (List Char × List Mark)
  | [] => none
  | m :: rest =>
    if m = ⟨'}', true⟩ then some ([], rest)
    else if m.char = '*' ∨ m.char = '/' then none
    else (nameRest? rest).map fun (name, rest) => (m.char :: name, rest)

theorem nameRest?_lt {marks rest : List Mark} {name : List Char} (h : nameRest? marks = some (name, rest)) :
    rest.length < marks.length := by
  induction marks generalizing name rest with
  | nil => simp [nameRest?] at h
  | cons m tail ih =>
    unfold nameRest? at h
    split at h
    · simp only [Option.some.injEq, Prod.mk.injEq] at h
      simp [h.2]
    · split at h
      · simp at h
      · simp only [Option.map_eq_some_iff, Prod.mk.injEq] at h
        obtain ⟨⟨name', rest'⟩, h', -, h''⟩ := h
        have := ih h'
        simp only at h''
        simp only [← h'', List.length_cons]
        omega

/-- What stands between braces behind the first character of the name. -/
def named (first : Char) (name : List Char) (rest : List Mark) : Except PatternError Piece :=
  if first = '*' then
    if name = [] then .error .braces
    else if rest = [] then .ok (.tail (String.ofList name))
    else .error .inside
  else if rest.head?.all (·.char == '/') then .ok (.segment (String.ofList (first :: name)))
  else .error .inside

def ofMarks : List Mark → Except PatternError Pattern
  | [] => .ok []
  | m :: rest =>
    if m = ⟨'}', true⟩ then .error .braces
    else if m ≠ ⟨'{', true⟩ then do return .plain m.char :: (← ofMarks rest)
    else
      match rest with
      | [] => .error .braces
      | first :: rest =>
        if first.char = '}' then .error .braces
        else
          match _h : nameRest? rest with
          | none => .error .braces
          | some (name, rest') => do return (← named first.char name rest') :: (← ofMarks rest')
termination_by marks => marks.length
decreasing_by
  · simp
  · have := nameRest?_lt _h
    simp only [List.length_cons]
    omega

/-- The segments of a path, of which the first is empty if the path is rooted. -/
def segments (text : List Char) : List (List Char) := text.splitOn '/'

/-- How many rests of segments a pattern leaves open. -/
def openSegments (p : Pattern) : Nat := p.countP fun piece => match piece with
  | .segment _ => true
  | _ => false

/-- The rests of segments are told apart by letters, of which the last one is not used. -/
def mostOpenSegments : Nat := 25

def ofText (text : String) : Except PatternError Pattern :=
  let cs := text.toList
  if cs.head? ≠ some '/' then .error .notRooted
  else if (segments cs).any fun s => s.head?.any fun c => c == ':' || c == '*' then .error .marked
  else do
    let p ← ofMarks (marks cs)
    if p.openSegments ≤ mostOpenSegments then .ok p else .error .crowded

/-! ### Matching -/

/-- What a path holds for the names of a pattern, if it fits. Where a name begins, something is left of the path. -/
def match? : Pattern → List Char → Option (List (String × List Char))
  | [], [] => some []
  | .plain c :: rest, c' :: cs => if c = c' then match? rest cs else none
  | .segment name :: rest, c :: cs =>
    let cs := c :: cs
    (match? rest (cs.dropWhile (· != '/'))).map ((name, cs.takeWhile (· != '/')) :: ·)
  | [.tail name], c :: cs => some [(name, c :: cs)]
  | _, _ => none

/-! ### Two patterns -/

def conflicts : Pattern → Pattern → Bool
  | [], [] => true
  | .plain c :: p, .plain d :: q => c == d && conflicts p q
  | .segment _ :: p, .segment _ :: q => conflicts p q
  | .tail _ :: _, .tail _ :: _ => true
  | .tail _ :: _, .segment _ :: _ => true
  | .segment _ :: _, .tail _ :: _ => true
  | _, _ => false

/-- The first pattern says more where the two part. -/
def precedes : Pattern → Pattern → Bool
  | .plain _ :: p, .plain _ :: q => precedes p q
  | .plain _ :: _, _ => true
  | .segment _ :: p, .segment _ :: q => precedes p q
  | _, _ => false

end Pattern
end Gateway
