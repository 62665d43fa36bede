/-!
# Numerals

Digits and the numbers they write.

* `decimal`, `hexLower`, `hexDigitUpper`: writing.
* `ofDigits`: the value of a run of digits in a base.
-/

namespace FeedOperator.Text

/-- The value of an ASCII decimal digit. -/
def digitValue? (c : Char) : Option Nat :=
  if '0' ≤ c ∧ c ≤ '9' then some (c.toNat - 48) else none

/-- The value of an ASCII hexadecimal digit of either case. -/
def hexValue? (c : Char) : Option Nat :=
  if '0' ≤ c ∧ c ≤ '9' then some (c.toNat - 48)
  else if 'a' ≤ c ∧ c ≤ 'f' then some (c.toNat - 87)
  else if 'A' ≤ c ∧ c ≤ 'F' then some (c.toNat - 55)
  else none

/-- Whether a character is an ASCII decimal digit. -/
def isDigit (c : Char) : Bool := (digitValue? c).isSome

/-- Whether a character is an ASCII hexadecimal digit. -/
def isHexDigit (c : Char) : Bool := (hexValue? c).isSome

/-- Whether a character is an ASCII letter. -/
def isLetter (c : Char) : Bool :=
  ('a' ≤ c && c ≤ 'z') || ('A' ≤ c && c ≤ 'Z')

/-- The number that digits write, most significant first; other characters count as zero. -/
def ofDigits (base : Nat) (digits : List Char) : Nat :=
  digits.foldl (fun n c => n * base + (hexValue? c).getD 0) 0

/-- The digits of a number in base ten. -/
def decimal (n : Nat) : List Char :=
  Nat.toDigits 10 n

/-- The digits of an integer in base ten, after a minus sign if it is negative. -/
def signedDecimal (n : Int) : List Char :=
  if n < 0 then '-' :: decimal n.natAbs else decimal n.natAbs

/-- The digits of a number in base sixteen, letters in lower case. -/
def hexLower (n : Nat) : List Char :=
  Nat.toDigits 16 n

/-- One hexadecimal digit, letters in upper case. -/
def hexDigitUpper (n : Nat) : Char :=
  if n < 10 then Char.ofNat (48 + n) else Char.ofNat (55 + n)

/-- Digits with zeros before them up to a width. -/
def padded (width : Nat) (digits : List Char) : List Char :=
  List.replicate (width - digits.length) '0' ++ digits

end FeedOperator.Text
