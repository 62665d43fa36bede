import FeedOperator.Double.Shortest

/-!
# Numbers in JSON

* `Numeral`: a number as it is written: a sign, digits before and after a point, a power of ten.
* `Numeral.value`: what is read. A number without point and power of ten is an integer if 64 bits
  hold it, signed or not, and is not `-0`. Every other number is one of double precision, or too
  large.
* `Double.jsonChars`: a number of double precision as it is written: the shortest digits, with a
  power of ten if the point would stand far from them.

A number of double precision is read in two steps, each of which rounds. The digits that 64 bits
hold as one integer make the significand, and all further ones only move the point. The significand
is then multiplied with a power of ten, or divided by one, so the result may be a neighbour of the
nearest number, and a product just below the bound may be too large.
-/

namespace FeedOperator

open Text

/-- A number as it is written. -/
structure Numeral where
  negative : Bool
  /-- The digits before the point. -/
  whole : List Char
  /-- The digits after the point. -/
  places : List Char := []
  /-- The power of ten. -/
  power : Option Int := none

/-- What a number is read as. -/
inductive NumeralValue where
  | int (n : Int)
  | real (d : Double)
  /-- A number that is larger than any of double precision. -/
  | tooLarge

namespace Numeral

/-- One more than the greatest integer of 64 bits. -/
def wordBound : Nat := 18446744073709551616

/-- Extends a number by the digits that 64 bits hold, and counts the digits that are left. -/
def extend (value : Nat) : List Char → Nat × Nat
  | [] => (value, 0)
  | d :: rest =>
    let longer := value * 10 + ofDigits 10 [d]
    if longer < wordBound then extend longer rest else (value, rest.length + 1)

/-- The greatest power of ten that is taken in one step. -/
def stride : Nat := 308

/-- A power of ten as a number of double precision. -/
def tenTo (n : Nat) : Double := .ofNat (Nat.pow 10 n)

/-- A number divided by a power of ten, stride by stride. -/
def lowered (d : Double) (n : Nat) : Double :=
  if n ≤ stride then d.div (tenTo n)
  else if d.units = 0 then d
  else lowered (d.div (tenTo stride)) (n - stride)
termination_by n
decreasing_by simp only [stride] at *; omega

/-- An integer of 64 bits times a power of ten, if it is not too large. -/
def scaled? (n : Nat) (power : Int) : Option Double :=
  let d := Double.ofNat n
  if power < 0 then some (lowered d (-power).toNat)
  else if n = 0 then some d
  else if stride < power.toNat then none
  else d.mul? (tenTo power.toNat)

/-- The number as one of double precision. -/
def real? (x : Numeral) : Option Double :=
  let (n, left) := extend 0 x.whole
  let (n, unused) := extend n x.places
  let power : Int := left - (x.places.length - unused : Nat) + x.power.getD 0
  (scaled? n power).map (·.withSign x.negative)

/-- The number as an integer of 64 bits. -/
def int? (x : Numeral) : Option Int :=
  let n := ofDigits 10 x.whole
  if x.power.isSome || !x.places.isEmpty then none
  else if x.negative then
    if n = 0 ∨ 9223372036854775808 < n then none else some (-n)
  else if n < wordBound then some n else none

/-- What the number is read as. -/
def value (x : Numeral) : NumeralValue :=
  match x.int? with
  | some n => .int n
  | none =>
    match x.real? with
    | some d => .real d
    | none => .tooLarge

end Numeral

/-- A number of double precision. The point is written where it stands, with at least one digit on
each side, unless more than sixteen digits are before it or more than four zeros behind it: then it
follows the first of the digits, and a power of ten follows them. -/
def Double.jsonChars (d : Double) : List Char :=
  let sign := if d.negative then ['-'] else []
  if d.units = 0 then sign ++ ['0', '.', '0']
  else
    let (digits, point) := d.shortest
    let count := point.toNat
    let zeros := fun n => List.replicate n '0'
    sign ++
      if 0 < point ∧ point ≤ 16 then
        if digits.length ≤ count then digits ++ zeros (count - digits.length) ++ ['.', '0']
        else digits.take count ++ '.' :: digits.drop count
      else if -5 < point ∧ point ≤ 0 then ['0', '.'] ++ zeros (-point).toNat ++ digits
      else
        digits.take 1 ++ (if digits.length = 1 then [] else '.' :: digits.drop 1) ++
          'e' :: signedDecimal (point - 1)

end FeedOperator
