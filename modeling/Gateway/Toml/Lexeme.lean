import Gateway.Text.Numeral
import Gateway.Toml.Value

/-! The smallest parts of TOML documents: blanks, comments, line ends, strings, keys, numbers, and dates. Each
    reader takes its part from the front of a text and gives what is left, or refuses. -/

namespace Gateway.Toml

abbrev Reader (α : Type) := List Char → Option (α × List Char)

/-! ### Blanks and lines -/

def isBlank (c : Char) : Bool := c == ' ' || c == '\t'

/-- Characters of comments and of strings of one line. -/
def isTextChar (c : Char) : Bool := c == '\t' || (0x20 ≤ c.toNat && c.toNat != 0x7f)

def skipBlanks (cs : List Char) : List Char := cs.dropWhile isBlank

def skipComment : List Char → List Char
  | '#' :: cs => cs.dropWhile isTextChar
  | cs => cs

def newline? : List Char → Option (List Char)
  | '\n' :: cs => some cs
  | '\r' :: '\n' :: cs => some cs
  | _ => none

/-- Skips the rest of a line on which nothing else stands. -/
def lineEnd? (cs : List Char) : Option (List Char) :=
  match skipComment (skipBlanks cs) with
  | [] => some []
  | cs => newline? cs

/-- Skips blanks, comments, and newlines. A comment ends with a newline. -/
def skipLines (cs : List Char) : List Char :=
  match newline? (skipComment (skipBlanks cs)) with
  | some rest => if rest.length < cs.length then skipLines rest else cs
  | none => skipBlanks cs
termination_by cs.length

/-! ### Strings -/

/-- The character that an escape of `n` digits stands for. -/
def scalar (n : Nat) : Reader Char := fun cs => do
  let digits := cs.take n
  if digits.length < n then none
  else
    let code ← Text.numeral? 16 digits
    if code < 0xd800 ∨ (0xe000 ≤ code ∧ code < 0x110000) then some (Char.ofNat code, cs.drop n) else none

/-- What follows a backslash. -/
def escape : Reader Char
  | 'b' :: cs => some ('\x08', cs)
  | 't' :: cs => some ('\t', cs)
  | 'n' :: cs => some ('\n', cs)
  | 'f' :: cs => some ('\x0c', cs)
  | 'r' :: cs => some ('\r', cs)
  | '"' :: cs => some ('"', cs)
  | '\\' :: cs => some ('\\', cs)
  | 'u' :: cs => scalar 4 cs
  | 'U' :: cs => scalar 8 cs
  | _ => none

/-- A string of one line behind its opening mark; `escapes` where a backslash escapes. -/
def line (mark : Char) (escapes : Bool) : Nat → List Char → Reader String
  | 0, _, _ => none
  | _, _, [] => none
  | fuel + 1, read, c :: cs =>
    if c = mark then some (String.ofList read.reverse, cs)
    else if c = '\\' ∧ escapes then do
      let (c, cs) ← escape cs
      line mark escapes fuel (c :: read) cs
    else if isTextChar c then line mark escapes fuel (c :: read) cs
    else none

/-- Skips the blanks and newlines behind a backslash, if there is a newline among them before anything else. -/
def joinedLine? (cs : List Char) : Option (List Char) :=
  (newline? (skipBlanks cs)).map fun cs =>
    cs.dropWhile fun c => isBlank c || c == '\n' || c == '\r'

/-- A string of several lines behind its opening marks. Up to two more marks may stand in front of the last three. -/
def lines (mark : Char) (escapes : Bool) : Nat → List Char → Reader String
  | 0, _, _ => none
  | _, _, [] => none
  | fuel + 1, read, c :: cs =>
    if c = mark then
      match cs with
      | a :: b :: rest =>
        if a = mark ∧ b = mark then
          let more := (rest.take 2).takeWhile (· == mark)
          some (String.ofList (more ++ read).reverse, rest.drop more.length)
        else lines mark escapes fuel (c :: read) cs
      | _ => none
    else if c = '\\' ∧ escapes then
      match joinedLine? cs with
      | some cs => lines mark escapes fuel read cs
      | none => do
        let (c, cs) ← escape cs
        lines mark escapes fuel (c :: read) cs
    else
      match newline? (c :: cs) with
      | some cs => lines mark escapes fuel ('\n' :: read) cs
      | none => if isTextChar c then lines mark escapes fuel (c :: read) cs else none

/-- A newline right behind the opening marks does not count. -/
def skipNewline (cs : List Char) : List Char := (newline? cs).getD cs

def quoted : Reader String
  | '"' :: cs => line '"' true (cs.length + 1) [] cs
  | '\x27' :: cs => line '\x27' false (cs.length + 1) [] cs
  | _ => none

def string : Reader String
  | '"' :: '"' :: '"' :: cs => lines '"' true (cs.length + 1) [] (skipNewline cs)
  | '\x27' :: '\x27' :: '\x27' :: cs => lines '\x27' false (cs.length + 1) [] (skipNewline cs)
  | cs => quoted cs

/-! ### Keys -/

def isKeyChar (c : Char) : Bool := c.isAlphanum || c == '_' || c == '-'

def simpleKey : Reader String := fun cs =>
  match cs.head? with
  | some '"' => quoted cs
  | some '\x27' => quoted cs
  | _ =>
    match cs.takeWhile isKeyChar with
    | [] => none
    | key => some (String.ofList key, cs.dropWhile isKeyChar)

/-- Keys with dots between them, blanks around each. -/
def keys : Nat → Reader (List String)
  | 0, _ => none
  | fuel + 1, cs => do
    let (key, cs) ← simpleKey (skipBlanks cs)
    match skipBlanks cs with
    | '.' :: cs => (keys fuel cs).map fun (more, cs) => (key :: more, cs)
    | cs => some ([key], cs)

/-- A document nests no deeper than this. -/
def depthLimit : Nat := 80

/-- The keys of a path, which are fewer than the limit. -/
def path : Reader (List String) := keys (depthLimit - 1)

/-! ### Numbers -/

/-- Digits behind others, an underscore allowed in front of each. -/
def moreDigits (p : Char → Bool) : List Char → List Char × List Char
  | '_' :: d :: cs =>
    if p d then
      let (ds, cs) := moreDigits p cs
      (d :: ds, cs)
    else ([], '_' :: d :: cs)
  | d :: cs =>
    if p d then
      let (ds, cs) := moreDigits p cs
      (d :: ds, cs)
    else ([], d :: cs)
  | [] => ([], [])

/-- Digits, an underscore allowed between two of them. -/
def digits (p : Char → Bool) : Reader (List Char)
  | [] => none
  | c :: cs =>
    if p c then
      let (ds, cs) := moreDigits p cs
      some (c :: ds, cs)
    else none

/-- A sign, if there is one: whether it is a minus. -/
def sign : List Char → Bool × List Char
  | '-' :: cs => (true, cs)
  | '+' :: cs => (false, cs)
  | cs => (false, cs)

/-- Decimal digits that do not start with a zero, unless it is the only one. -/
def wholeDigits : Reader (List Char)
  | '0' :: cs => some (['0'], cs)
  | cs => digits Char.isDigit cs

def inRange (n : Int) : Option Int := if -9223372036854775808 ≤ n ∧ n ≤ 9223372036854775807 then some n else none

/-- An integer; other bases than ten have a prefix of their own and no sign. -/
def integer : Reader Int
  | '0' :: 'x' :: cs => based 16 cs
  | '0' :: 'o' :: cs => based 8 cs
  | '0' :: 'b' :: cs => based 2 cs
  | cs => do
    let (negative, cs) := sign cs
    let (ds, cs) ← wholeDigits cs
    let n ← Text.numeral? 10 ds
    return (← inRange (if negative then -(n : Int) else n), cs)
where
  based (base : Nat) (cs : List Char) : Option (Int × List Char) := do
    let (ds, cs) ← digits (fun c => (Text.digitValue? base c).isSome) cs
    return (← inRange (← Text.numeral? base ds), cs)

/-- The number nearest to `n · 10 ^ e`. Beyond the exponents of any number nothing has to be computed. -/
def nearest (n : Nat) (e : Int) : Float :=
  let size := (Nat.toDigits 10 n).length
  if n = 0 ∨ e + size < -400 then 0.0
  else if 400 < e + size then 1.0 / 0.0
  else if 0 ≤ e then Float.ofScientific n false e.toNat
  else Float.ofScientific n true (-e).toNat

/-- The digits behind a point. -/
def fraction : Reader (List Char)
  | '.' :: cs => digits Char.isDigit cs
  | _ => none

/-- A power of ten behind its letter. -/
def exponent : Reader Int
  | c :: cs =>
    if c = 'e' ∨ c = 'E' then do
      let (negative, cs) := sign cs
      let (ds, cs) ← digits Char.isDigit cs
      let n ← Text.numeral? 10 ds
      return (if negative then -(n : Int) else n, cs)
    else none
  | [] => none

/-- A float has a fraction, an exponent, or both, or is one of the special numbers. It is not too great. -/
def float : Reader Float := fun cs => do
  let (negative, cs) := sign cs
  let signed (x : Float) : Float := if negative then -x else x
  match cs with
  | 'i' :: 'n' :: 'f' :: cs => some (signed (1.0 / 0.0), cs)
  | 'n' :: 'a' :: 'n' :: cs => some (signed (0.0 / 0.0), cs)
  | _ =>
    let (whole, cs) ← wholeDigits cs
    let ((decimals, power), cs) ← match fraction cs with
      | some (decimals, cs) =>
        match exponent cs with
        | some (power, cs) => some ((decimals, power), cs)
        | none => some ((decimals, 0), cs)
      | none => (exponent cs).map fun (power, cs) => (([], power), cs)
    let n ← Text.numeral? 10 (whole ++ decimals)
    let x := signed (nearest n (power - decimals.length))
    if x == 1.0 / 0.0 then none else some (x, cs)

/-! ### Dates and times -/

/-- Exactly `n` digits, whose number is between two bounds. -/
def fixed (n low high : Nat) : Reader Nat := fun cs => do
  let ds := cs.take n
  if ds.length = n ∧ ds.all Char.isDigit then
    let value ← Text.numeral? 10 ds
    if low ≤ value ∧ value ≤ high then some (value, cs.drop n) else none
  else none

def symbol (c : Char) : Reader Unit
  | d :: cs => if c = d then some ((), cs) else none
  | [] => none

def daysOf (year month : Nat) : Nat :=
  if month = 2 then if year % 4 = 0 ∧ (year % 100 ≠ 0 ∨ year % 400 = 0) then 29 else 28
  else if [4, 6, 9, 11].contains month then 30 else 31

def date : Reader Unit := fun cs => do
  let (year, cs) ← fixed 4 0 9999 cs
  let (_, cs) ← symbol '-' cs
  let (month, cs) ← fixed 2 1 12 cs
  let (_, cs) ← symbol '-' cs
  let (_, cs) ← fixed 2 1 (daysOf year month) cs
  return ((), cs)

/-- A time of day; a minute may have a sixty-first second. -/
def time : Reader Unit := fun cs => do
  let (_, cs) ← fixed 2 0 23 cs
  let (_, cs) ← symbol ':' cs
  let (_, cs) ← fixed 2 0 59 cs
  let (_, cs) ← symbol ':' cs
  let (_, cs) ← fixed 2 0 60 cs
  match cs with
  | '.' :: rest =>
    match rest.takeWhile Char.isDigit with
    | [] => none
    | _ => some ((), rest.dropWhile Char.isDigit)
  | cs => some ((), cs)

/-- The distance of a zone, if one is given. -/
def zone (cs : List Char) : Option (Unit × List Char) :=
  match cs with
  | 'Z' :: rest => some ((), rest)
  | 'z' :: rest => some ((), rest)
  | c :: rest =>
    if c = '+' ∨ c = '-' then do
      let (_, cs) ← fixed 2 0 23 rest
      let (_, cs) ← symbol ':' cs
      let (_, cs) ← fixed 2 0 59 cs
      return ((), cs)
    else some ((), cs)
  | [] => some ((), [])

/-- A date, a time of day, or both with a zone behind them or none. -/
def datetime : Reader String := fun cs => do
  let (_, rest) ← match date cs with
    | none => time cs
    | some (_, rest) =>
      match rest with
      | c :: more =>
        if c = 'T' ∨ c = 't' ∨ c = ' ' then
          match time more with
          | some (_, more) => zone more
          | none => some ((), rest)
        else some ((), rest)
      | [] => some ((), [])
  return (String.ofList (cs.take (cs.length - rest.length)), rest)

end Gateway.Toml
