/-! Bootstring. A label with characters beyond ASCII is written in ASCII as its ASCII characters, a hyphen,
    and digits of base 36 that say, in the order of the remaining characters' numbers, how far to go from
    one insertion to the next. Each distance is a numeral of variable length whose digit thresholds adapt
    to the distance before it. -/

namespace Gateway.Url.Domain.Bootstring

/-! ### Numerals of variable length -/

/-- The number of the first character beyond ASCII. -/
def initialCode : Nat := 128

/-- Thresholds lie between 1 and 26 and grow with the place of the digit. -/
def threshold (place bias : Nat) : Nat := min 26 (max 1 (place - bias))

/-- Halves a distance until it fits, counting 36 for each step. -/
def shrink (places delta : Nat) : Nat × Nat :=
  if 455 < delta then shrink (places + 36) (delta / 35) else (places, delta)
termination_by delta

/-- The bias that the distance `delta` gives to the next one, when `count` characters are placed. -/
def adapt (delta count : Nat) (first : Bool) : Nat :=
  let delta := if first then delta / 700 else delta / 2
  let (places, delta) := shrink 0 (delta + delta / count)
  places + 36 * delta / (delta + 38)

def digitValue? (c : Char) : Option Nat :=
  if 'a' ≤ c ∧ c ≤ 'z' then some (c.toNat - 'a'.toNat)
  else if 'A' ≤ c ∧ c ≤ 'Z' then some (c.toNat - 'A'.toNat)
  else if c.isDigit then some (c.toNat - '0'.toNat + 26)
  else none

def digit (n : Nat) : Char := if n < 26 then Char.ofNat ('a'.toNat + n) else Char.ofNat ('0'.toNat + (n - 26))

/-! ### Reading -/

/-- Adds the numeral at the front of the text to `sum`; what is left of the text comes back too. -/
def readDistance (bias place weight sum : Nat) : List Char → Option (Nat × List Char)
  | [] => none
  | c :: cs => do
    let d ← digitValue? c
    let sum := sum + d * weight
    if UInt32.size ≤ sum then none
    else
      let t := threshold place bias
      if d < t then some (sum, cs) else readDistance bias (place + 36) (weight * (36 - t)) sum cs

theorem readDistance_shorter {bias place weight sum n : Nat} {cs rest : List Char}
    (h : readDistance bias place weight sum cs = some (n, rest)) : rest.length < cs.length := by
  induction cs generalizing place weight sum with
  | nil => simp [readDistance] at h
  | cons c cs ih =>
    simp only [readDistance, Option.bind_eq_bind, Option.bind_eq_some_iff] at h
    obtain ⟨d, _, h⟩ := h
    split at h
    · simp at h
    · split at h
      · simp at h
        simp [h.2]
      · have := ih h
        simp only [List.length_cons]
        omega

/-- Inserts one character for each numeral of the text into `placed`. -/
def insertAll (code index bias : Nat) (placed : List Char) : List Char → Option (List Char)
  | [] => some placed
  | c :: cs =>
    match _h : readDistance bias 36 1 index (c :: cs) with
    | none => none
    | some (reached, rest) =>
      let count := placed.length + 1
      let code := code + reached / count
      let inserted := Char.ofNat code
      if inserted.toNat ≠ code then none
      else
        let place := reached % count
        insertAll code (place + 1) (adapt (reached - index) count (index == 0))
          (placed.take place ++ inserted :: placed.drop place) rest
termination_by cs => cs.length
decreasing_by exact readDistance_shorter _h

/-- What stands before the last hyphen, and what stands after it. -/
def lastHyphen (cs : List Char) : List Char × List Char :=
  let tail := (cs.reverse.takeWhile (· != '-')).reverse
  (cs.take (cs.length - tail.length - 1), tail)

def decode (cs : List Char) : Option (List Char) :=
  let (plain, numerals) := lastHyphen cs
  if plain.all (·.toNat < 128) then insertAll initialCode 0 72 plain numerals else none

/-! ### Writing -/

theorem one_le_threshold (place bias : Nat) : 1 ≤ threshold place bias := by
  simp only [threshold]
  omega

/-- The numeral of a distance. -/
def writeDistance (bias place q : Nat) : List Char :=
  if q < threshold place bias then [digit q]
  else
    let t := threshold place bias
    digit (t + (q - t) % (36 - t)) :: writeDistance bias (place + 36) ((q - t) / (36 - t))
termination_by q
decreasing_by
  have := one_le_threshold place bias
  have : (q - threshold place bias) / (36 - threshold place bias) ≤ q - threshold place bias := Nat.div_le_self _ _
  omega

/-- What the writer of insertions knows: how far it has come since the last one, the bias, the number
    of characters that stand already, and the text so far, its last piece first. -/
structure Writer where
  delta : Nat
  bias : Nat
  placed : Nat
  first : Bool
  pieces : List (List Char)

/-- Passes one character of the label while the characters numbered `code` are being inserted. -/
def Writer.pass (code : Nat) (w : Writer) (c : Char) : Writer :=
  if c.toNat < code then { w with delta := w.delta + 1 }
  else if c.toNat = code then {
    delta := 0, bias := adapt w.delta (w.placed + 1) w.first, placed := w.placed + 1, first := false
    pieces := writeDistance w.bias 36 w.delta :: w.pieces }
  else w

/-- Inserts the characters of the given numbers, which increase, one number after the other. -/
def writeAll (label : List Char) (w : Writer) (reached : Nat) : List Nat → Writer
  | [] => w
  | code :: codes =>
    let w := { w with delta := w.delta + (code - reached) * (w.placed + 1) }
    let w := label.foldl (Writer.pass code) w
    writeAll label { w with delta := w.delta + 1 } (code + 1) codes

def encode (label : List Char) : List Char :=
  let plain := label.filter (·.toNat < 128)
  let codes := ((label.map Char.toNat).filter (128 ≤ ·)).mergeSort.eraseDups
  let w := writeAll label ⟨0, 72, plain.length, true, []⟩ initialCode codes
  (if plain = [] then [] else plain ++ ['-']) ++ w.pieces.reverse.flatten

end Gateway.Url.Domain.Bootstring
