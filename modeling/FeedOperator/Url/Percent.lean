import FeedOperator.Text.Numeral
import FeedOperator.Text.Utf8

/-!
# Percent encoding

Octets that a part of a URL cannot hold are written as a percent sign and two hexadecimal digits.

* `encode`: writes the controls, everything that is not ASCII, and what a given part does not hold.
* `inFragment`, `inPath`, `inQuery`, `inUserinfo`: what is written in each part.
* `decode`: the octets behind a text; a percent sign without two digits stands for itself.
* `formEncode`: the form of names and values in a query. Letters, digits and four marks stand for
  themselves, and a plus sign stands for a blank.
-/

namespace FeedOperator.Url

open Text

/-- An octet as a percent sign and two digits. -/
def percentOctet (b : UInt8) : List Char :=
  ['%', hexDigitUpper (b.toNat / 16), hexDigitUpper (b.toNat % 16)]

/-- Every octet of a character as a percent sign and two digits. -/
def percentChar (c : Char) : List Char :=
  (Utf8.encode [c]).flatMap percentOctet

/-- Whether a character is written octet by octet wherever it stands. -/
def isControl (c : Char) : Bool :=
  c.toNat < 0x20 || 0x7F ≤ c.toNat

/-- Writes the controls and the characters of a class octet by octet. -/
def encode (cls : Char → Bool) (s : List Char) : List Char :=
  s.flatMap fun c => if isControl c || cls c then percentChar c else [c]

/-- What a fragment does not hold. -/
def inFragment (c : Char) : Bool :=
  c ∈ [' ', '\"', '<', '>', '`']

/-- What a segment of a path does not hold. -/
def inPath (c : Char) : Bool :=
  inFragment c || c ∈ ['#', '?', '{', '}']

/-- What a query does not hold. -/
def inQuery (c : Char) : Bool :=
  c ∈ [' ', '\"', '#', '<', '>']

/-- What the query of a special scheme does not hold. -/
def inSpecialQuery (c : Char) : Bool :=
  inQuery c || c == '\x27'

/-- What a user name and a password do not hold. -/
def inUserinfo (c : Char) : Bool :=
  inPath c || c ∈ ['/', ':', ';', '=', '@', '[', '\\', ']', '^', '|']

/-- The octets behind a text. -/
def decode : List Char → List UInt8
  | '%' :: a :: b :: rest =>
    match hexValue? a, hexValue? b with
    | some x, some y => UInt8.ofNat (x * 16 + y) :: decode rest
    | _, _ => 0x25 :: decode (a :: b :: rest)
  | c :: rest => Utf8.encode [c] ++ decode rest
  | [] => []

/-! ## Forms -/

/-- One octet of a name or a value. -/
def formOctet (b : UInt8) : List Char :=
  let c := Char.ofNat b.toNat
  if b.toNat = 0x20 then ['+']
  else if isLetter c || isDigit c || c ∈ ['*', '-', '.', '_'] then [c]
  else percentOctet b

/-- A name or a value in a query. -/
def formEncode (s : String) : List Char :=
  (Utf8.encode s.toList).flatMap formOctet

end FeedOperator.Url
