import FeedOperator.Double
import FeedOperator.Text.Numeral

/-!
# The fewest digits that read back

* `Double.readsBack`: whether a decimal number lies so near to a double that reading it gives that
  double.
* `Double.shortest`: the digits of the decimal number that has the fewest of them among those that
  read back, and of several the nearest.
-/

namespace FeedOperator.Double

open Text

/-- Whether `n` times ten to the power `scale` is nearer to a count of units than to any other
double. Half way it is so for the one whose last bit is zero. Below a power of two the neighbour
stands nearer by half. All is counted in quarters of a unit. -/
def readsBack (units n : Nat) (scale : Int) : Bool :=
  let step := spacing units
  let down := Nat.pow 10 (-scale).toNat
  let place := 4 * n * Nat.pow 10 scale.toNat * one
  let middle := 4 * units * down
  let above := 2 * step * down
  let below := if 1 < step ∧ units = Nat.pow 2 (Nat.log2 units) then step * down else above
  if units / step % 2 = 0 then decide (middle ≤ place + below ∧ place ≤ middle + above)
  else decide (middle < place + below ∧ place < middle + above)

/-- The power of ten of the place before the first digit. -/
def leading (units : Nat) : Int :=
  (decimal (units * Nat.pow 10 324 / one)).length - 324

/-- The count of steps of ten to the power `scale` that reads back, if one of the two next to the
number does, and the nearer one if both do. -/
def onGrid? (units : Nat) (scale : Int) : Option Nat :=
  let num := units * Nat.pow 10 (-scale).toNat
  let den := one * Nat.pow 10 scale.toNat
  let low := num / den
  match readsBack units low scale, readsBack units (low + 1) scale with
  | true, true => some (roundDiv num den)
  | true, false => some low
  | false, true => some (low + 1)
  | false, false => none

/-- The first hit on ever finer grids, with its power of ten. -/
def firstHit (units : Nat) : Nat → Int → Nat × Int
  | 0, scale => (roundDiv (units * Nat.pow 10 (-scale).toNat) (one * Nat.pow 10 scale.toNat), scale)
  | more + 1, scale =>
    match onGrid? units scale with
    | some n => (n, scale)
    | none => firstHit units more (scale - 1)

/-- The shortest digits that read back, none of them a zero at the end, and the power of ten of the
place before the first one. Seventeen digits always read back. -/
def shortest (d : Double) : List Char × Int :=
  let (n, scale) := firstHit d.units 16 (leading d.units - 1)
  let digits := decimal n
  ((digits.reverse.dropWhile (· == '0')).reverse, scale + digits.length)

end FeedOperator.Double
