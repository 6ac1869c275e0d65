/-! Tagged elements. Each has a tag of one byte, the length of its content, and the content, which for many tags is
    again a row of elements. A length below 128 is one byte; a longer one is the number of its bytes, with the
    high bit set, and then those bytes. -/

namespace Gateway.Tls

structure Element where
  tag : UInt8
  content : List UInt8
deriving DecidableEq, Repr

namespace Element

/-- The number that bytes make, the highest first. -/
def number (bytes : List UInt8) : Nat := bytes.foldl (fun n b => n * 256 + b.toNat) 0

/-- A length and what follows it. -/
def length? : List UInt8 → Option (Nat × List UInt8)
  | [] => none
  | b :: rest =>
    if b < 128 then some (b.toNat, rest)
    else
      let digits := rest.take (b.toNat - 128)
      let n := number digits
      if digits.length = b.toNat - 128 ∧ digits.head?.any (· != 0) ∧ 128 ≤ n then some (n, rest.drop digits.length)
      else none

/-- The first element and what follows it. -/
def first? : List UInt8 → Option (Element × List UInt8)
  | [] => none
  | tag :: rest => do
    let (n, rest) ← length? rest
    if n ≤ rest.length then some (⟨tag, rest.take n⟩, rest.drop n) else none

theorem length?_le {bytes rest : List UInt8} {n : Nat} (h : length? bytes = some (n, rest)) :
    rest.length ≤ bytes.length := by
  unfold length? at h
  split at h
  · cases h
  · split at h
    · simp only [Option.some.injEq, Prod.mk.injEq] at h
      simp [← h.2]
    · dsimp only at h
      split at h
      · simp only [Option.some.injEq, Prod.mk.injEq] at h
        simp only [← h.2, List.length_drop, List.length_cons]
        omega
      · cases h

theorem first?_lt {bytes rest : List UInt8} {e : Element} (h : first? bytes = some (e, rest)) :
    rest.length < bytes.length := by
  unfold first? at h
  split at h
  · cases h
  · rename_i tag tail
    cases hl : length? tail with
    | none => simp [hl] at h
    | some p =>
      obtain ⟨n, rest'⟩ := p
      have := length?_le hl
      simp only [hl, Option.bind_eq_bind, Option.bind_some] at h
      split at h
      · simp only [Option.some.injEq, Prod.mk.injEq] at h
        simp only [← h.2, List.length_drop, List.length_cons]
        omega
      · cases h

/-- The row of elements that some bytes are. -/
def row? (bytes : List UInt8) : Option (List Element) :=
  if bytes = [] then some []
  else
    match _h : first? bytes with
    | none => none
    | some (e, rest) => (row? rest).map (e :: ·)
termination_by bytes.length
decreasing_by exact first?_lt _h

/-- The one element that some bytes are. -/
def only? (bytes : List UInt8) : Option Element :=
  match first? bytes with
  | some (e, []) => some e
  | _ => none

/-! ### Tags -/

def integerTag : UInt8 := 0x02
def bitsTag : UInt8 := 0x03
def bytesTag : UInt8 := 0x04
def nameTag : UInt8 := 0x06
def rowTag : UInt8 := 0x30

/-- The tag of a member that has the number `n` among the members of its row. -/
def memberTag (n : UInt8) : UInt8 := 0xa0 + n

/-- The content of an element with a tag. -/
def of? (tag : UInt8) (e : Element) : Option (List UInt8) := if e.tag = tag then some e.content else none

/-- The row that some bytes hold as their only element. -/
def onlyRow? (bytes : List UInt8) : Option (List Element) := do row? (← (← only? bytes).of? rowTag)

end Element
end Gateway.Tls
