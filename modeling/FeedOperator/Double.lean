/-!
# Numbers of double precision

A finite number that 64 bits hold is a multiple of two to the power -1074 with at most 53
significant bits, below two to the power 1024.

* `Double`: a sign and a count of those units.
* `Double.roundUnits`: the double nearest to a quotient. Of two at one distance it is the one whose
  last bit is zero.
* `Double.ofNat`, `Double.mul?`, `Double.div`: each is the exact result, rounded once. A product
  may be too large.
-/

namespace FeedOperator

/-- A finite number of double precision. Zero has a sign too. -/
structure Double where
  negative : Bool := false
  /-- The number without its sign, in steps of two to the power -1074. -/
  units : Nat
  deriving DecidableEq

namespace Double

/-- The units of the number one. -/
def one : Nat := Nat.pow 2 1074

/-- The least count of units that is too large. -/
def bound : Nat := Nat.pow 2 2098

/-- The distance between neighbours at a count of units: one step of the last of 53 bits. -/
def spacing (units : Nat) : Nat := Nat.pow 2 (Nat.log2 units - 52)

/-- The natural number nearest to a quotient, and the even one of two. -/
def roundDiv (num den : Nat) : Nat :=
  let twice := 2 * (num % den)
  if twice < den ∨ (twice = den ∧ num / den % 2 = 0) then num / den else num / den + 1

/-- The double nearest to a quotient of units. -/
def roundUnits (num den : Nat) : Nat :=
  let step := spacing (num / den)
  roundDiv num (den * step) * step

/-- Zero. -/
def zero : Double := ⟨false, 0⟩

/-- The double nearest to a number that is not too large. -/
def ofNat (n : Nat) : Double := ⟨false, roundUnits (n * one) 1⟩

/-- The number with another sign. -/
def withSign (negative : Bool) (d : Double) : Double := { d with negative }

/-- The product, if it is not too large. -/
def mul? (a b : Double) : Option Double :=
  let units := roundUnits (a.units * b.units) one
  if units < bound then some ⟨a.negative != b.negative, units⟩ else none

/-- The quotient by a number that is at least one. -/
def div (a b : Double) : Double :=
  ⟨a.negative != b.negative, roundUnits (a.units * one) b.units⟩

end Double

end FeedOperator
