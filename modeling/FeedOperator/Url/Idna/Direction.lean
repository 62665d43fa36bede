import FeedOperator.Url.Idna.Placement

/-!
# The direction of writing in a name

Some scripts run to the left. In a name that has a label of such a script, no label may be drawn so
that its characters seem to belong to another one: each label has one direction, given by its first
character, and begins and ends with characters that keep it together.

* `Direction`, `directionOf`: how a character runs.
* `runsLeft`: whether a name has a label that runs to the left.
* `keepsDirection`: whether the characters of a label stay together in such a name.

The tables cover characters that no name holds where that makes them shorter.
-/

namespace FeedOperator.Url.Idna

open Text

/-- The ranges of the letters of scripts that run to the left. -/
def leftwardRanges : Array (List Nat) := rows [
  "5BE,5BE 5C0,5C0 5C3,5C3 5C6,5C6 5D0,5F4 608,608 60B,60B 60D,60D 61B,64A 66D,66F 671,6D5",
  "6E5,6E6 6EE,6EF 6FA,710 712,72F 74D,7A5 7B1,7EA 7F4,7F5 7FA,7FA 7FE,815 81A,81A 824,824",
  "828,828 830,858 85E,896 8A0,8C9 FBB2,FBC2 FE73,FE73 10800,1091B 10920,10A00 10A10,10A35",
  "10A40,10AE4 10AEB,10B35 10B40,10D23 10D4A,10D4F 10D6F,10D8F 10E80,10EA9 10EAD,10ECF",
  "10ED9,10EF9 10F00,10F45 10F51,10F81 10F86,10FF6 1E800,1E8CF 1E922,1E943 1E94B,1ED3D"]

/-- The ranges of the digits that run to the right everywhere. -/
def digitRanges : Array (List Nat) := rows [
  "30,39 6F0,6F9 102E1,102FB"]

/-- The ranges of the Arabic digits. -/
def arabicDigitRanges : Array (List Nat) := rows [
  "660,669 66B,66C 10D30,10D49 10E60,10E7E"]

/-- The ranges of the signs that take the direction of what is around them. -/
def neutralRanges : Array (List Nat) := rows [
  "0,8 E,1B 21,2F 3A,60 7B,D7 F7,F7 2B9,2BA 2C2,2CF 2D2,2ED 2EF,2FF 375,375 3F6,3F6 58A,58A",
  "58D,58F 606,607 609,60A 60C,60C 60E,60F 66A,66A 6DE,6DE 6E9,6E9 7F6,7F9 9F2,9F3 9FB,9FB",
  "AF1,AF1 BF3,BFA C78,C7E E3F,E3F F3A,F3D 1390,1399 1400,1400 169B,169C 17DB,17DB 17F0,180A",
  "1940,1945 19DE,19FF 200C,205E 20A0,20CF 2104,214D 218A,218B 2190,2335 237B,2394 2396,2429",
  "2440,26AB 26AD,27FF 2900,2BFF 2CE5,2CEA 2CF9,2CFF 2E00,2E5D 2E80,3004 3008,3020 3030,3030",
  "3037,3037 303D,303F 30A0,30A0 30FB,30FB 31C0,31E5 4DC0,4DFF A490,A4C6 A60D,A60F A673,A673",
  "A67E,A67F A700,A721 A788,A788 A828,A82B A838,A839 A874,A877 AB6A,AB6B FBC3,FDFF FE45,FE46",
  "10101,10101 10140,1018C 10190,101A0 1091F,1091F 10B39,10B3F 10D6E,10D6E 10ED0,10ED8",
  "11052,11065 11660,1166C 11FD5,11FF1 16FE2,16FE2 1CC00,1CCFC 1CD00,1CEB3 1CEBA,1CED0",
  "1CEE0,1CEF0 1D1E9,1D1EA 1D200,1D241 1D245,1D245 1D300,1D356 1E2FF,1E2FF 1EEF0,1F02B",
  "1F030,1F0F5 1F10B,1F12F 1F16D,1F16F 1F1AD,1F1AD 1F260,1F265 1F300,1F6D8 1F6DC,1F6EC",
  "1F6F0,1F6FC 1F700,1F7D9 1F7E0,1F7EB 1F7F0,1F7F0 1F800,1F8BB 1F8C0,1F8C1 1F8D0,1F8D8",
  "1F900,1FA57 1FA60,1FA6D 1FA70,1FA7C 1FA80,1FA8A 1FA8E,1FAC6 1FAC8,1FAC8 1FACD,1FADC",
  "1FADF,1FAEA 1FAEF,1FAF8 1FB00,1FBFA"]

/-- How a character runs. -/
inductive Direction where
  | rightward
  | leftward
  /-- A digit that runs to the right. -/
  | digit
  | arabicDigit
  /-- A mark, which runs as the character that it is on. -/
  | mark
  /-- A sign that runs as what is around it. -/
  | neutral
  deriving DecidableEq

/-- How a character runs. -/
def directionOf (c : Char) : Direction :=
  let n := c.toNat
  if inRows digitRanges n then .digit
  else if isNonspacing c then .mark
  else if inRows neutralRanges n then .neutral
  else if inRows arabicDigitRanges n then .arabicDigit
  else if inRows leftwardRanges n then .leftward
  else .rightward

/-- Whether a character makes a name one with a label that runs to the left. -/
def turnsLeft (c : Char) : Bool :=
  directionOf c ∈ [.leftward, .arabicDigit]

/-- Whether a name has a label that runs to the left. -/
def runsLeft (labels : List (List Char)) : Bool :=
  labels.any (·.any turnsLeft)

/-- Whether a label that runs to the right holds only what it may hold, and ends with a letter or a
digit. -/
def keepsRight (inner : List Direction) (last : Direction) : Bool :=
  last ∈ [.rightward, .digit] &&
    inner.all (· ∈ [.rightward, .digit, .neutral, .mark])

/-- Whether a label that runs to the left holds only what it may hold, ends with a letter or a
digit, and has digits of one kind. -/
def keepsLeft (inner : List Direction) (last : Direction) : Bool :=
  last ∈ [.leftward, .digit, .arabicDigit] &&
    inner.all (· ∈ [.leftward, .arabicDigit, .digit, .neutral, .mark]) &&
    !((last :: inner).contains .digit && (last :: inner).contains .arabicDigit)

/-- Whether the characters of a label stay together in a name in which some label runs to the left.
The marks at the end do not count. -/
def keepsDirection (label : List Char) : Bool :=
  match label.map directionOf with
  | [] => true
  | first :: rest =>
    match rest.reverse.dropWhile (· == .mark) with
    | [] => first ∈ [.rightward, .leftward]
    | last :: inner =>
      match first with
      | .rightward => keepsRight inner last
      | .leftward => keepsLeft inner last
      | _ => false

end FeedOperator.Url.Idna
