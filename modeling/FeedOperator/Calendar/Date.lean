import FeedOperator.Text.Blank
import FeedOperator.Text.Numeral

/-!
# Dates of the Gregorian calendar

Read by `parse_date` with the format `%Y-%m-%d`.

* `Date`: a day that exists, in a year between -262143 and 262142.
* `Date.parse?`: reads year, month and day with a hyphen between them. Blanks may stand before each
  number, month and day have one or two digits, and the year has one to four digits or a sign and
  any number of them. Nothing may follow the day.
* `Date.text`: four digits for the year, two for month and day. A year outside 0 to 9999 is written
  with its sign.
-/

namespace FeedOperator

open Text

/-- Whether February has a day more: every fourth year, but of the full centuries only every
fourth. -/
def isLeapYear (year : Int) : Bool :=
  year % 4 == 0 && (year % 100 != 0 || year % 400 == 0)

/-- The number of days of a month, zero if there is no such month. -/
def daysInMonth (year : Int) (month : Nat) : Nat :=
  if month = 2 then if isLeapYear year then 29 else 28
  else if month ∈ [4, 6, 9, 11] then 30
  else if 1 ≤ month ∧ month ≤ 12 then 31
  else 0

/-- A day of the calendar. -/
structure Date where
  year : Int
  month : Nat
  day : Nat
  deriving DecidableEq

namespace Date

/-- The first year that a date may have. -/
def firstYear : Int := -262143

/-- The last year that a date may have. -/
def lastYear : Int := 262142

/-- Whether the calendar has this day. -/
def Exists (d : Date) : Prop :=
  firstYear ≤ d.year ∧ d.year ≤ lastYear ∧ 1 ≤ d.day ∧ d.day ≤ daysInMonth d.year d.month

instance (d : Date) : Decidable d.Exists := by unfold Exists; infer_instance

/-- Whether one day comes before another. -/
def before (a b : Date) : Bool :=
  decide (a.year < b.year) || (a.year == b.year &&
    (decide (a.month < b.month) || (a.month == b.month && decide (a.day < b.day))))

/-- The day after. -/
def next (d : Date) : Date :=
  if d.day < daysInMonth d.year d.month then { d with day := d.day + 1 }
  else if d.month < 12 then { d with month := d.month + 1, day := 1 }
  else ⟨d.year + 1, 1, 1⟩

/-- The day before. -/
def previous (d : Date) : Date :=
  if 1 < d.day then { d with day := d.day - 1 }
  else if 1 < d.month then { d with month := d.month - 1, day := daysInMonth d.year (d.month - 1) }
  else ⟨d.year - 1, 12, 31⟩

/-! ## Reading -/

/-- Reads a number of at most `most` digits after blanks, and what follows it. -/
def number? (most : Nat) (s : List Char) : Option (Nat × List Char) :=
  let s := s.dropWhile isBlank
  let digits := (s.take most).takeWhile isDigit
  if digits.isEmpty then none else some (ofDigits 10 digits, s.drop digits.length)

/-- Reads a year after blanks: up to four digits, or a sign and any number of digits. -/
def year? (s : List Char) : Option (Int × List Char) :=
  match s.dropWhile isBlank with
  | '-' :: rest => (signed rest).map fun (n, rest) => (-(n : Int), rest)
  | '+' :: rest => (signed rest).map fun (n, rest) => ((n : Int), rest)
  | rest => (number? 4 rest).map fun (n, rest) => ((n : Int), rest)
where
  /-- The digits after a sign. -/
  signed (s : List Char) : Option (Nat × List Char) :=
    if s.head?.any isDigit then number? s.length s else none

/-- A year, a month and a day with what `separate` takes between them, if the calendar has the
day. -/
def read? (separate : List Char → Option (List Char)) (s : List Char) :
    Option (Date × List Char) := do
  let (year, s) ← year? s
  let (month, s) ← number? 2 (← separate s)
  let (day, s) ← number? 2 (← separate s)
  let date : Date := ⟨year, month, day⟩
  if date.Exists then some (date, s) else none

/-- A hyphen. -/
def hyphen? : List Char → Option (List Char)
  | '-' :: rest => some rest
  | _ => none

/-- Reads a date with nothing after it. -/
def parse? (text : String) : Option Date :=
  match read? hyphen? text.toList with
  | some (date, []) => some date
  | _ => none

/-! ## Writing -/

/-- The year with at least four digits, after a sign if it is not one of 0 to 9999. -/
def yearChars (year : Int) : List Char :=
  let digits := padded 4 (decimal year.natAbs)
  if year < 0 then '-' :: digits else if 9999 < year then '+' :: digits else digits

/-- The characters of a date. -/
def chars (d : Date) : List Char :=
  yearChars d.year ++ '-' :: padded 2 (decimal d.month) ++ '-' :: padded 2 (decimal d.day)

/-- Year, month and day with hyphens between them. -/
def text (d : Date) : String :=
  String.ofList d.chars

end Date

end FeedOperator
