/-! Reading UTF-8 that may be damaged. Every longest piece that starts like a character and does not end
    like one becomes one replacement character, so no input is refused and what is intact stays. -/

namespace Gateway.Text

def replacement : Char := '\ufffd'

/-- How a byte starts a character: how many bytes follow it, the bits that it brings, and the range of
    the byte after it, which rules out long forms, surrogates and what lies beyond the last character. -/
structure Lead where
  following : Nat
  bits : Nat
  low : Nat
  high : Nat

def lead? (b : UInt8) : Option Lead :=
  let n := b.toNat
  if n < 0x80 then some ⟨0, n, 0x80, 0xbf⟩
  else if n < 0xc2 then none
  else if n < 0xe0 then some ⟨1, n - 0xc0, 0x80, 0xbf⟩
  else if n = 0xe0 then some ⟨2, 0, 0xa0, 0xbf⟩
  else if n = 0xed then some ⟨2, 13, 0x80, 0x9f⟩
  else if n < 0xf0 then some ⟨2, n - 0xe0, 0x80, 0xbf⟩
  else if n = 0xf0 then some ⟨3, 0, 0x90, 0xbf⟩
  else if n < 0xf4 then some ⟨3, n - 0xf0, 0x80, 0xbf⟩
  else if n = 0xf4 then some ⟨3, 4, 0x80, 0x8f⟩
  else none

/-- A character that has begun: how many bytes it still needs, its bits so far, and the range of the
    next byte. -/
abbrev Begun := Lead

structure Utf8Reader where
  /-- What has been read, the last character first. -/
  read : List Char
  begun : Option Begun

namespace Utf8Reader

/-- A byte where a character may start. -/
def start (read : List Char) (b : UInt8) : Utf8Reader :=
  match lead? b with
  | none => ⟨replacement :: read, none⟩
  | some l => if l.following = 0 then ⟨Char.ofNat l.bits :: read, none⟩ else ⟨read, some l⟩

def next (r : Utf8Reader) (b : UInt8) : Utf8Reader :=
  match r.begun with
  | none => start r.read b
  | some l =>
    let n := b.toNat
    if l.low ≤ n ∧ n ≤ l.high then
      let bits := l.bits * 64 + (n - 0x80)
      if l.following = 1 then ⟨Char.ofNat bits :: r.read, none⟩
      else ⟨r.read, some ⟨l.following - 1, bits, 0x80, 0xbf⟩⟩
    else start (replacement :: r.read) b

def finish (r : Utf8Reader) : List Char :=
  (if r.begun.isSome then replacement :: r.read else r.read).reverse

end Utf8Reader

/-- The characters of a text that may be damaged. -/
def ofUtf8Lossy (bytes : ByteArray) : List Char :=
  (bytes.foldl Utf8Reader.next ⟨[], none⟩).finish

end Gateway.Text
