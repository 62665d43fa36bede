import FeedOperator.Text.Numeral
import FeedOperator.Text.Pieces

/-!
# Tables of numbers

Rows of hexadecimal numbers. A line of a table holds rows with blanks between them, and a row holds
numbers with commas between them.
-/

namespace FeedOperator.Text

/-- The rows of a table, line by line. -/
def rows (lines : List String) : Array (List Nat) :=
  (lines.flatMap fun line => pieces ' ' line.toList).toArray.map fun row =>
    (pieces ',' row).map (ofDigits 16)

/-- Whether some row with the first and the last number of a range holds a number. -/
def inRows (ranges : Array (List Nat)) (n : Nat) : Bool :=
  ranges.any fun row =>
    match row with
    | [first, last] => first ≤ n && n ≤ last
    | _ => false

end FeedOperator.Text
