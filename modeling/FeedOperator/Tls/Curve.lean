import FeedOperator.Text.Numeral

/-!
# Elliptic curves

A curve `y² = x³ - 3x + b` over the numbers modulo a prime, with a point that generates the points
in use. A private key is a number, and its public key that multiple of the generator.

* `Curve`: the prime, the generator and the number of its multiples.
* `Curve.isMultiple`: whether a point is the multiple of the generator by a number.

A point `(x / z², y / z³)` is kept as three numbers, so that nothing is divided. The point at
infinity has `z = 0`. The coefficient `b` does not occur in sums of points.
-/

namespace FeedOperator

/-- A curve. -/
structure Curve where
  prime : Int
  order : Nat
  /-- The generator. -/
  baseX : Int
  baseY : Int
  /-- The number of octets of a coordinate. -/
  width : Nat

namespace Curve

/-- A point in three numbers. -/
structure Point where
  x : Int
  y : Int
  z : Int

/-- The point at infinity. -/
def infinity : Point := ⟨1, 1, 0⟩

/-- A point added to itself. -/
def double (c : Curve) (p : Point) : Point :=
  let delta := p.z * p.z % c.prime
  let gamma := p.y * p.y % c.prime
  let beta := p.x * gamma % c.prime
  let alpha := 3 * (p.x - delta) * (p.x + delta) % c.prime
  let x := (alpha * alpha - 8 * beta) % c.prime
  ⟨x, (alpha * (4 * beta - x) - 8 * gamma * gamma) % c.prime, 2 * p.y * p.z % c.prime⟩

/-- A point added to the generator. -/
def addBase (c : Curve) (p : Point) : Point :=
  if p.z = 0 then ⟨c.baseX, c.baseY, 1⟩
  else
    let square := p.z * p.z % c.prime
    let h := (c.baseX * square - p.x) % c.prime
    let r := (c.baseY * square * p.z - p.y) % c.prime
    if h = 0 then if r = 0 then c.double p else infinity
    else
      let hh := h * h % c.prime
      let hhh := h * hh % c.prime
      let v := p.x * hh % c.prime
      let x := (r * r - hhh - 2 * v) % c.prime
      ⟨x, (r * (v - x) - p.y * hhh) % c.prime, p.z * h % c.prime⟩

/-- The multiple of the generator by a number of so many binary digits. -/
def multiple (c : Curve) (n : Nat) : Nat → Point
  | 0 => infinity
  | digits + 1 =>
    let p := c.double (c.multiple (n / 2) digits)
    if n % 2 = 1 then c.addBase p else p

/-- Whether a point is the multiple of the generator by a number below its order. -/
def isMultiple (c : Curve) (n : Nat) (x y : Int) : Bool :=
  let p := c.multiple n (8 * c.width)
  let square := p.z * p.z % c.prime
  0 < n && n < c.order && 0 ≤ x && x < c.prime && 0 ≤ y && y < c.prime &&
    (x * square - p.x) % c.prime == 0 && (y * square * p.z - p.y) % c.prime == 0

/-- The number that lines of hexadecimal digits write. -/
def hex (lines : List String) : Nat :=
  Text.ofDigits 16 (lines.flatMap String.toList)

/-- The curve of 256 bits. -/
def p256 : Curve where
  prime := hex ["ffffffff00000001000000000000000000000000ffffffffffffffffffffffff"]
  order := hex ["ffffffff00000000ffffffffffffffffbce6faada7179e84f3b9cac2fc632551"]
  baseX := hex ["6b17d1f2e12c4247f8bce6e563a440f277037d812deb33a0f4a13945d898c296"]
  baseY := hex ["4fe342e2fe1a7f9b8ee7eb4a7c0f9e162bce33576b315ececbb6406837bf51f5"]
  width := 32

/-- The curve of 384 bits. -/
def p384 : Curve where
  prime := hex [
    "fffffffffffffffffffffffffffffffffffffffffffffffffffffffffffffffe",
    "ffffffff0000000000000000ffffffff"]
  order := hex [
    "ffffffffffffffffffffffffffffffffffffffffffffffffc7634d81f4372ddf",
    "581a0db248b0a77aecec196accc52973"]
  baseX := hex [
    "aa87ca22be8b05378eb1c71ef320ad746e1d3b628ba79b9859f741e082542a38",
    "5502f25dbf55296c3a545e3872760ab7"]
  baseY := hex [
    "3617de4a96262c6f5d9e98bf9292dc29f8f41dbd289a147ce9da3113b5f0b8c0",
    "0a60b1ce1d7e819d7a431d7c90ea0e5f"]
  width := 48

/-- The curve of 521 bits. -/
def p521 : Curve where
  prime := hex [
    "01ffffffffffffffffffffffffffffffffffffffffffffffffffffffffffffff",
    "ffffffffffffffffffffffffffffffffffffffffffffffffffffffffffffffff",
    "ffff"]
  order := hex [
    "01ffffffffffffffffffffffffffffffffffffffffffffffffffffffffffffff",
    "fffa51868783bf2f966b7fcc0148f709a5d03bb5c9b8899c47aebb6fb71e9138",
    "6409"]
  baseX := hex [
    "00c6858e06b70404e9cd9e3ecb662395b4429c648139053fb521f828af606b4d",
    "3dbaa14b5e77efe75928fe1dc127a2ffa8de3348b3c1856a429bf97e7e31c2e5",
    "bd66"]
  baseY := hex [
    "011839296a789a3bc0045c8a5fb42c7d1bd998f54449579b446817afbd17273e",
    "662c97ee72995ef42640c550b9013fad0761353c7086a272c24088be94769fd1",
    "6650"]
  width := 66

end Curve

end FeedOperator
