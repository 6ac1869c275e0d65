import Gateway.Url.Domain.Bootstring
import Gateway.Url.Domain.Direction
import Gateway.Url.Domain.Joining
import Gateway.Url.Domain.Mapping

/-! Domain names. A name is brought into the one form that names are compared in: labels of lower-case
    ASCII, those that need more written in Bootstring behind `xn--`. A name of plain ASCII labels only
    loses its case. A label that is already written behind `xn--` has to be what this form would have
    made of it. No label is measured, and hyphens stand anywhere. -/

namespace Gateway.Url.Domain

/-- Characters that end a host, or that a host must not hold. -/
def forbidden (c : Char) : Bool :=
  c.toNat ≤ 0x20 || c.toNat == 0x7f || "%#/:<>?@[\\]^|".toList.contains c

/-- The label that is written behind `xn--`. -/
def coded? : List Char → Option (List Char)
  | 'x' :: 'n' :: '-' :: '-' :: rest => some rest
  | _ => none

/-- The form in which labels are compared before they are written in ASCII. -/
def normal? (cs : List Char) : Option (List Char) := (map? cs).map compose

/-- A label of a normal name keeps the rules that are about single labels. -/
def labelAllowed (label : List Char) : Bool :=
  !(label.head?.map marks.contains).getD false && label.all (!forbidden ·) && joinersInPlace [] label

/-- A label of a normal name, with what a label behind `xn--` stands for. -/
def meaning? (label : List Char) : Option (List Char) :=
  match coded? label with
  | none => if labelAllowed label then some label else none
  | some code => do
    let inner ← Bootstring.decode code
    if inner.all (·.toNat < 128) then none
    else if (← normal? inner) = inner ∧ inner.all (fun c => standing.contains c || c.toNat < 128) ∧
        labelAllowed inner then
      some inner
    else none

def writeLabel (label : List Char) : List Char :=
  if label.all (·.toNat < 128) then label else "xn--".toList ++ Bootstring.encode label

/-- The ASCII form of a name of any characters. -/
def generalName? (cs : List Char) : Option (List Char) := do
  let labels := (← normal? cs).splitOn '.'
  let meanings ← labels.mapM meaning?
  if meanings.any runsLeft ∧ ¬ meanings.all keepsDirection then none
  else return ['.'].intercalate (meanings.map writeLabel)

/-- The ASCII form of a name. -/
def name? (cs : List Char) : Option (List Char) :=
  let lower := cs.map Char.toLower
  if cs.all (·.toNat < 128) ∧ (lower.splitOn '.').all (fun label => (coded? label).isNone) then
    if lower.any forbidden then none else some lower
  else generalName? cs

end Gateway.Url.Domain
