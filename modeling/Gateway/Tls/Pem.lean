import Gateway.Text.Base64

/-! Armoured files. Bytes are written in base 64 between a line that begins a section and names its label, and one
    that ends it; whatever stands outside sections is a remark. A section may be broken: its first line is
    not closed, its bytes are not in base 64, or its last line is missing. The others are read all the same. -/

namespace Gateway.Tls

/-- The bytes that stand under a label. -/
structure Section where
  label : String
  content : List UInt8
deriving DecidableEq, Repr

namespace Section

/-- The labels that anyone reads. Sections under other labels are remarks. -/
def labels : List String := [
  "CERTIFICATE", "PUBLIC KEY", "RSA PRIVATE KEY", "PRIVATE KEY", "EC PRIVATE KEY", "X509 CRL", "CERTIFICATE REQUEST"]

def opening : List Char := "-----BEGIN ".toList

/-- The label that a first line names: it stands before exactly five dashes, behind which only blanks may follow. -/
def label? (line : List Char) : Option String :=
  let back := (line.drop opening.length).reverse.dropWhile (· == ' ')
  let dashes := back.takeWhile (· == '-')
  if dashes.length = 5 then some (String.ofList (back.drop 5).reverse) else none

/-- How the last line of a section begins. -/
def closing (label : String) : List Char := "-----END ".toList ++ label.toList ++ "-----".toList

def ofText? (label : String) (text : List Char) : Option Section :=
  (Text.Base64.decode? (text.filter fun c => !" \t".toList.contains c)).map (⟨label, ·⟩)

/-- The sections of some lines, `none` for a broken one. A section that begins inside another one takes over
    what that has brought so far. -/
def ofLines (current : Option (String × List Char)) : List (List Char) → List (Option Section)
  | [] => if current.isSome then [none] else []
  | line :: rest =>
    if opening.isPrefixOf line then
      match label? line with
      | some label => ofLines (some (label, (current.map (·.2)).getD [])) rest
      | none => none :: ofLines none rest
    else
      match current with
      | none => ofLines none rest
      | some (label, text) =>
        if (closing label).isPrefixOf line then
          if labels.contains label then ofText? label text :: ofLines none rest else ofLines none rest
        else ofLines (some (label, text ++ line)) rest

/-- The sections of a file, whose bytes are read as characters one by one. -/
def ofBytes (bytes : ByteArray) : List (Option Section) :=
  let text := bytes.toList.map fun b => Char.ofNat b.toNat
  ofLines none ((text.map fun c => if c = '\r' then '\n' else c).splitOn '\n')

end Section
end Gateway.Tls
