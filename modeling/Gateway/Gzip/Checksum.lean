/-! The checksum of a member: the remainder of its bytes, taken as a polynomial over two elements, by the
    polynomial of degree 32 with the reversed coefficients `edb88320`, from all ones to all ones. -/

namespace Gateway.Gzip

/-- One bit less of the dividend. -/
def divideBit (r : UInt32) : UInt32 := if r &&& 1 = 1 then (r >>> 1) ^^^ 0xedb88320 else r >>> 1

/-- The remainder of a byte. -/
def divideByte (b : UInt8) : UInt32 := Nat.repeat divideBit 8 b.toUInt32

def byteTable : Array UInt32 := (Array.range 256).map fun n => divideByte (UInt8.ofNat n)

/-- Takes one more byte into a remainder. -/
def addByte (r : UInt32) (b : UInt8) : UInt32 := byteTable.getD ((r ^^^ b.toUInt32) &&& 0xff).toNat 0 ^^^ (r >>> 8)

def checksum (bytes : ByteArray) : UInt32 := bytes.foldl addByte 0xffffffff ^^^ 0xffffffff

/-- The four bytes of a word, the low ones first. -/
def littleEndian (w : UInt32) : List UInt8 := [w.toUInt8, (w >>> 8).toUInt8, (w >>> 16).toUInt8, (w >>> 24).toUInt8]

end Gateway.Gzip
