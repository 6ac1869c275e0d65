import Gateway.Html.NamedCharacters

/-! Character references. In text and in attribute values an ampersand can start the number or the name of
    a character. A number is taken with or without its semicolon, and what cannot stand in a text is
    replaced. The longest name counts; in an attribute value a name without semicolon does not count when
    the text goes on like a word, so that addresses with parameters survive. -/

namespace Gateway.Html

/-! ### Numbers -/

/-- What the numbers 128 to 159 meant before there was one set of all characters; zero keeps the
    number's own character. -/
def legacyCharacters : List Nat := [
  0x20ac, 0, 0x201a, 0x0192, 0x201e, 0x2026, 0x2020, 0x2021, 0x02c6, 0x2030, 0x0160, 0x2039, 0x0152, 0,
  0x017d, 0, 0, 0x2018, 0x2019, 0x201c, 0x201d, 0x2022, 0x2013, 0x2014, 0x02dc, 0x2122, 0x0161, 0x203a,
  0x0153, 0, 0x017e, 0x0178]

def numberedCharacter (n : Nat) : Char :=
  if n = 0 ∨ 0x10ffff < n ∨ (0xd800 ≤ n ∧ n ≤ 0xdfff) then '\ufffd'
  else if 0x80 ≤ n ∧ n ≤ 0x9f then
    match legacyCharacters[n - 0x80]? with
    | some (m + 1) => Char.ofNat (m + 1)
    | _ => Char.ofNat n
  else Char.ofNat n

/-- A number behind its mark: its digits, and how many characters they take with the semicolon. -/
def number? (base : Nat) (cs : List Char) : Option (Char × Nat) :=
  let digits := cs.takeWhile fun c => (Text.digitValue? base c).isSome
  (Text.numeral? base digits).map fun n =>
    let semicolon := if (cs.drop digits.length).head? = some ';' then 1 else 0
    (numberedCharacter n, digits.length + semicolon)

/-! ### References -/

/-- What a reference stands for and how many characters it takes, given the text behind its ampersand. -/
def reference? (inAttribute : Bool) (cs : List Char) : Option (List Char × Nat) :=
  match cs with
  | '#' :: 'x' :: rest | '#' :: 'X' :: rest => (number? 16 rest).map fun (c, n) => ([c], n + 2)
  | '#' :: rest => (number? 10 rest).map fun (c, n) => ([c], n + 1)
  | _ =>
    match startsWithName? cs with
    | none => none
    | some (n, out) =>
      let bare : Bool := (cs.take n).getLast? != some ';'
      let goesOn := (cs.drop n).head?.any fun c => c == '=' || c.isAlphanum
      if inAttribute ∧ bare ∧ goesOn then none else some (out, n)

/-- Reads the text to `out`, which holds what has been read, the last character first. -/
def decodeOnto (inAttribute : Bool) (out : List Char) : List Char → List Char
  | [] => out
  | c :: cs =>
    if c = '&' then
      match reference? inAttribute cs with
      | some (characters, n) => decodeOnto inAttribute (characters.reverse ++ out) (cs.drop n)
      | none => decodeOnto inAttribute ('&' :: out) cs
    else decodeOnto inAttribute (c :: out) cs
termination_by cs => cs.length
decreasing_by all_goals simp only [List.length_drop, List.length_cons]; omega

/-- The text that stands in the markup. -/
def decode (inAttribute : Bool) (cs : List Char) : List Char := (decodeOnto inAttribute [] cs).reverse

end Gateway.Html
