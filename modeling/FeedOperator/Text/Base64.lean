/-!
# Base 64

Octets written with sixty-four signs, four signs for three octets. Equals signs fill up the last
four.

* `Base64.value?`: the six bits of a sign.
* `Base64.decode`: the octets of a text in which blanks may stand anywhere.
* `Base64.isCanonical`: whether a text is what writing some octets gives.
-/

namespace FeedOperator.Text

/-- Why a text is not base 64. -/
inductive Base64Fault where
  /-- An octet that is neither a sign nor a blank. -/
  | invalidCharacter (octet : UInt8)
  /-- The last group of signs is not full. -/
  | prematureTermination
  /-- Equals signs stand where none belong. -/
  | invalidTrailingPadding
  deriving DecidableEq

/-- The fault in words. -/
def Base64Fault.message : Base64Fault → String
  | .invalidCharacter octet => "InvalidCharacter(" ++ toString octet.toNat ++ ")"
  | .prematureTermination => "PrematureTermination"
  | .invalidTrailingPadding => "InvalidTrailingPadding"

namespace Base64

/-- The six bits that a sign stands for. -/
def value? (sign : Nat) : Option Nat :=
  if 65 ≤ sign ∧ sign ≤ 90 then some (sign - 65)
  else if 97 ≤ sign ∧ sign ≤ 122 then some (sign - 71)
  else if 48 ≤ sign ∧ sign ≤ 57 then some (sign + 4)
  else if sign = 43 then some 62
  else if sign = 47 then some 63
  else none

/-- The sign that fills up the last group. -/
def filler : Nat := 61

/-- Whether an octet is a blank. -/
def isGap (octet : UInt8) : Bool :=
  octet == 32 || (9 ≤ octet && octet ≤ 13)

/-- Whether an octet may stand in base 64. -/
def isSign (octet : UInt8) : Bool :=
  (value? octet.toNat).isSome || octet.toNat == filler

/-- The octets of groups of four; a group of two or three at the end holds one or two. -/
def octets : List Nat → List UInt8
  | a :: b :: c :: d :: rest =>
    UInt8.ofNat (a * 4 + b / 16) :: UInt8.ofNat (b % 16 * 16 + c / 4) ::
      UInt8.ofNat (c % 4 * 64 + d) :: octets rest
  | [a, b, c] => [UInt8.ofNat (a * 4 + b / 16), UInt8.ofNat (b % 16 * 16 + c / 4)]
  | [a, b] => [UInt8.ofNat (a * 4 + b / 16)]
  | _ => []

/-- The octets that a text holds. The first octet that is no sign is the fault, before any in the
last group. -/
def decode (s : List UInt8) : Except Base64Fault (List UInt8) :=
  let signs := s.filter (!isGap ·)
  match signs.find? (!isSign ·) with
  | some octet => .error (.invalidCharacter octet)
  | none =>
    let body := signs.takeWhile (·.toNat != filler)
    let fill := signs.drop body.length
    if signs.length % 4 = 0 ∧ fill.length ≤ 2 ∧ fill.all (·.toNat == filler) then
      .ok (octets (body.filterMap fun octet => value? octet.toNat))
    else if fill.isEmpty then .error .prematureTermination
    else .error .invalidTrailingPadding

/-- Whether a text consists of full groups of signs, with no bits left over in the last of them. -/
def isCanonical (text : String) : Bool :=
  let signs := text.toList.map Char.toNat
  let body := (signs.reverse.dropWhile (· == filler)).reverse
  let fill := signs.length - body.length
  let last := (body.getLast?.bind value?).getD 0
  signs.length % 4 == 0 && body.all (value? · |>.isSome) &&
    (fill == 0 || (fill == 1 && last % 4 == 0) || (fill == 2 && last % 16 == 0))

end Base64

end FeedOperator.Text
