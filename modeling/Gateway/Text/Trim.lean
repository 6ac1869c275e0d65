/-! Cutting a text: at its ends (`trim`), at the first place of a character (`cutAt`). -/

namespace Gateway.Text

/-- The text without its leading and trailing characters of the class `p`. -/
def trim (p : Char → Bool) (cs : List Char) : List Char :=
  ((cs.dropWhile p).reverse.dropWhile p).reverse

/-- What stands before the first `sep`, and what stands after it if there is one. -/
def cutAt (sep : Char) (cs : List Char) : List Char × Option (List Char) :=
  match cs.dropWhile (· != sep) with
  | [] => (cs, none)
  | _ :: rest => (cs.takeWhile (· != sep), some rest)

/-- Equality up to the case of ASCII letters. -/
def sameCaseless (a b : List Char) : Bool := a.map Char.toLower == b.map Char.toLower

end Gateway.Text
