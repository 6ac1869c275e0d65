/-! Elliptic curves over prime fields, `y² = x³ - 3x + b`. Their points form a group; a private key is a number, and
    its public key is that multiple of the base point. -/

namespace Gateway.Tls

/-- A curve, its base point, and the order of that point. -/
structure Curve where
  /-- The name that keys call the curve by. -/
  name : List UInt8
  /-- The size of a coordinate in bytes. -/
  size : Nat
  prime : Nat
  order : Nat
  baseX : Nat
  baseY : Nat

inductive Point
  | infinity
  | affine (x y : Nat)
deriving DecidableEq, Repr

namespace Curve

def p256 : Curve where
  name := [0x2a, 0x86, 0x48, 0xce, 0x3d, 0x03, 0x01, 0x07]
  size := 32
  prime := 0xffffffff00000001000000000000000000000000ffffffffffffffffffffffff
  order := 0xffffffff00000000ffffffffffffffffbce6faada7179e84f3b9cac2fc632551
  baseX := 0x6b17d1f2e12c4247f8bce6e563a440f277037d812deb33a0f4a13945d898c296
  baseY := 0x4fe342e2fe1a7f9b8ee7eb4a7c0f9e162bce33576b315ececbb6406837bf51f5

def p384 : Curve where
  name := [0x2b, 0x81, 0x04, 0x00, 0x22]
  size := 48
  prime := 0xfffffffffffffffffffffffffffffffffffffffffffffffffffffffffffffffeffffffff0000000000000000ffffffff
  order := 0xffffffffffffffffffffffffffffffffffffffffffffffffc7634d81f4372ddf581a0db248b0a77aecec196accc52973
  baseX := 0xaa87ca22be8b05378eb1c71ef320ad746e1d3b628ba79b9859f741e082542a385502f25dbf55296c3a545e3872760ab7
  baseY := 0x3617de4a96262c6f5d9e98bf9292dc29f8f41dbd289a147ce9da3113b5f0b8c00a60b1ce1d7e819d7a431d7c90ea0e5f

/-- The curves that keys may be on. -/
def all : List Curve := [p256, p384]

/-! ### The field -/

/-- A power in the field. -/
def power (c : Curve) (x n : Nat) : Nat :=
  if n = 0 then 1
  else
    let root := c.power (x * x % c.prime) (n / 2)
    if n % 2 = 1 then root * x % c.prime else root
termination_by n

/-- The inverse of `x`, which is its power by two less than the prime. -/
def inverse (c : Curve) (x : Nat) : Nat := c.power x (c.prime - 2)

/-- A difference in the field, of numbers below the prime. -/
def minus (c : Curve) (x y : Nat) : Nat := (x + c.prime - y) % c.prime

/-! ### The group -/

/-- The third point on the line of a slope through two points, reflected. -/
def third (c : Curve) (slope x₁ y₁ x₂ : Nat) : Point :=
  let x := c.minus (c.minus (slope * slope % c.prime) x₁) x₂
  .affine x (c.minus (slope * c.minus x₁ x % c.prime) y₁)

def add (c : Curve) : Point → Point → Point
  | .infinity, q => q
  | p, .infinity => p
  | .affine x₁ y₁, .affine x₂ y₂ =>
    if x₁ = x₂ then
      if (y₁ + y₂) % c.prime = 0 then .infinity
      else c.third (c.minus (3 * x₁ * x₁ % c.prime) 3 * c.inverse (2 * y₁ % c.prime) % c.prime) x₁ y₁ x₂
    else c.third (c.minus y₂ y₁ * c.inverse (c.minus x₂ x₁) % c.prime) x₁ y₁ x₂

/-- A multiple of a point, by doubling. -/
def multiple (c : Curve) (n : Nat) (p : Point) : Point :=
  if n = 0 then .infinity
  else
    let rest := c.multiple (n / 2) (c.add p p)
    if n % 2 = 1 then c.add rest p else rest
termination_by n

/-- The point that belongs to a private key. -/
def publicPoint (c : Curve) (secret : Nat) : Point := c.multiple secret (.affine c.baseX c.baseY)

/-! ### Bytes -/

/-- The last `size` bytes of a number, the highest first. -/
def bigEndian (size n : Nat) : List UInt8 := (List.range size).reverse.map fun i => UInt8.ofNat (n >>> (8 * i))

/-- A point as keys write it: a four, and its coordinates. -/
def pointBytes (c : Curve) : Point → List UInt8
  | .infinity => [0]
  | .affine x y => 4 :: bigEndian c.size x ++ bigEndian c.size y

end Curve
end Gateway.Tls
