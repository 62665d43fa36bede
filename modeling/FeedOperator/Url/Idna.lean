import FeedOperator.Text.Pieces
import FeedOperator.Text.Utf8
import FeedOperator.Url.Idna.Direction
import FeedOperator.Url.Idna.Mapping
import FeedOperator.Url.Punycode

/-!
# Domain names in ASCII

Names in any script have a form in ASCII: every label that is not ASCII becomes `xn--` and its
punycode. Before that, capital letters become small, other forms of a letter or a sign become the
letter or the sign, some characters are dropped, and letters are put together with their marks. In a
name with a label that runs to the left, every label has to keep its direction.

* `toAscii?`: the form in ASCII, if the name has one.
-/

namespace FeedOperator.Url.Idna

open Text

/-- The mark of a label in punycode. -/
def mark : List Char := ['x', 'n', '-', '-']

/-- What becomes of one character: nothing if no name holds it. -/
def mapChar? (c : Char) : Option (List Char) :=
  if isIgnored c then some []
  else match mapped? c with
    | some others => some others
    | none => if isDisallowed c then none else some [c]

/-- Whether a character may stand in a label as it is. -/
def isSettled (c : Char) : Bool :=
  mapChar? c == some [c]

/-- What an ASCII host name never holds. -/
def isForbidden (c : Char) : Bool :=
  c.toNat ≤ 0x20 || c.toNat == 0x7F ||
    c ∈ ['#', '%', '/', ':', '<', '>', '?', '@', '[', '\\', ']', '^', '|']

/-- The most characters of a label that is not ASCII. -/
def maxLabel : Nat := 1000

/-- The most characters of the punycode of a label. -/
def maxCode : Nat := 2000

/-- Whether a label is all ASCII. -/
def isAscii (s : List Char) : Bool :=
  s.all (·.toNat < 128)

/-- The characters of a label that is in punycode: they are not all ASCII, may stand where they
stand, and have the label as their punycode. -/
def decoded? (code : List Char) : Option (List Char) := do
  if maxCode < code.length then none
  let text ← Punycode.decode? code
  if !isAscii text && text.all isSettled && composedForm text == text && isWellPlaced text &&
      text.length ≤ maxLabel && Punycode.encode text == code then some text
  else none

/-- The characters that a label stands for. -/
def labelText? (s : List Char) : Option (List Char) :=
  if s.take 4 = mark then decoded? (s.drop 4)
  else if isAscii s || (isWellPlaced s && s.length ≤ maxLabel) then some s
  else none

/-- The form of a label in ASCII. -/
def labelAscii (s : List Char) : List Char :=
  if isAscii s then s else mark ++ Punycode.encode s

/-- The form of a name in ASCII. -/
def toAscii? (s : List Utf8.Symbol) : Option (List Char) := do
  let s ← s.mapM id
  let s := composedForm (← s.mapM mapChar?).flatten
  if s.any isForbidden then none
  let labels ← (pieces '.' s).mapM labelText?
  if runsLeft labels && !labels.all keepsDirection then none
  else return joined ['.'] (labels.map labelAscii)

end FeedOperator.Url.Idna
