import FeedOperator.Calendar.Date

/-!
# Instants

Points of time to the second, in universal time.

* `Instant.parse?`: reads a date, a `T` or a blank, a time of day, perhaps a fraction of a second,
  and the distance from universal time (`Z`, `UTC` or a signed hour and minute). Blanks may stand
  before the numbers, the colons, the hyphens and the distance. Second 60 is a leap second.
* `Instant.text`: `2024-01-01T00:00:00Z`; a fraction is dropped.
-/

namespace FeedOperator

open Text

/-- A point of time in universal time. -/
structure Instant where
  date : Date
  hour : Nat
  minute : Nat
  /-- Up to 60, in a leap second. -/
  second : Nat
  deriving DecidableEq

namespace Instant

/-- Blanks and one character. -/
def mark? (c : Char) (s : List Char) : Option (List Char) :=
  match s.dropWhile isBlank with
  | c' :: rest => if c = c' then some rest else none
  | [] => none

/-- Drops a fraction of a second, which has at least one digit. -/
def fraction? (s : List Char) : Option (List Char) :=
  match s with
  | '.' :: c :: rest => if isDigit c then some (rest.dropWhile isDigit) else none
  | ['.'] => none
  | s => some s

/-- Two digits. -/
def pair? : List Char → Option (Nat × List Char)
  | a :: b :: rest =>
    if isDigit a && isDigit b then some (ofDigits 10 [a, b], rest) else none
  | _ => none

/-- The minutes that a clock is ahead of universal time. -/
def distance? (s : List Char) : Option (Int × List Char) :=
  match s with
  | 'Z' :: rest | 'z' :: rest => some (0, rest)
  | '+' :: rest => amount rest
  | '-' :: rest | '\u2212' :: rest => (amount rest).map fun (n, rest) => (-n, rest)
  | a :: b :: c :: rest =>
    if [a, b, c].map Char.toUpper == ['U', 'T', 'C'] then some (0, rest) else none
  | _ => none
where
  /-- Hours and minutes, less than a day. -/
  amount (s : List Char) : Option (Int × List Char) := do
    let (hours, s) ← pair? s
    let (minutes, s) ← pair? (s.dropWhile fun c => c == ':' || isBlank c)
    if minutes < 60 ∧ hours < 24 then some ((hours * 60 + minutes : Nat), s) else none

/-- The point of time at which a clock that is some minutes ahead shows a date and a time, if the
calendar has that day too. -/
def ofLocal? (date : Date) (hour minute second : Nat) (ahead : Int) : Option Instant :=
  let total : Int := (hour * 60 + minute : Nat) - ahead
  let date := if total < 0 then date.previous else if 1440 ≤ total then date.next else date
  let inDay := (total % 1440).toNat
  if date.Exists then some ⟨date, inDay / 60, inDay % 60, second⟩ else none

/-- Reads a point of time with nothing but blanks after it. -/
def parse? (text : String) : Option Instant := do
  let (date, s) ← Date.read? (mark? '-') text.toList
  let s ← match s with
    | 't' :: rest | 'T' :: rest | ' ' :: rest => some rest
    | _ => none
  let (hour, s) ← Date.number? 2 s
  let (minute, s) ← Date.number? 2 (← mark? ':' s)
  let (second, s) ← Date.number? 2 (← mark? ':' s)
  let (ahead, s) ← distance? ((← fraction? s).dropWhile isBlank)
  if hour < 24 ∧ minute < 60 ∧ second ≤ 60 ∧ s.all isBlank then
    ofLocal? date hour minute second ahead
  else none

/-- Date and time of day with the sign of universal time. -/
def text (t : Instant) : String :=
  String.ofList (t.date.chars ++ 'T' :: padded 2 (decimal t.hour) ++ ':' ::
    padded 2 (decimal t.minute) ++ ':' :: padded 2 (decimal t.second) ++ ['Z'])

end Instant

end FeedOperator
