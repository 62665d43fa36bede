/-!
# Punycode

Text in the letters, digits and the hyphen of host names. A label starts with its ASCII characters,
and after a hyphen the others follow as differences: in ascending order of the characters, each
difference counts the positions that were passed. A difference is written in base 36 with digits
whose weights depend on how large the differences before it were.

* `encode`, `decode?`: the label of a text, and back.
* `adapt`: how the weights follow the differences.

Results:
* `digitValue_digitChar`: the digits come back.
-/

namespace FeedOperator.Url.Punycode

/-! ## Digits -/

/-- The character of a digit: the letters, then the ten decimal digits. -/
def digitChar (d : Nat) : Char :=
  if d < 26 then Char.ofNat (97 + d) else Char.ofNat (22 + d)

/-- The digit of a character. -/
def digitValue? (c : Char) : Option Nat :=
  if 'a' ≤ c ∧ c ≤ 'z' then some (c.toNat - 97)
  else if 'A' ≤ c ∧ c ≤ 'Z' then some (c.toNat - 65)
  else if '0' ≤ c ∧ c ≤ '9' then some (c.toNat - 22)
  else none

theorem digitValue_digitChar {d : Nat} (h : d < 36) : digitValue? (digitChar d) = some d := by
  have all : ∀ e ∈ List.range 36, digitValue? (digitChar e) = some e := by decide
  exact all d (List.mem_range.mpr h)

/-- The digit from which on a position ends a difference. -/
def threshold (position bias : Nat) : Nat :=
  max 1 (min 26 (position - bias))

/-- Divides a difference by 35 while it is large, and counts 36 for each time. -/
def settle (delta count : Nat) : Nat × Nat :=
  if 455 < delta then settle (delta / 35) (count + 36) else (delta, count)
termination_by delta
decreasing_by omega

/-- The bias after a difference, of so many characters so far. -/
def adapt (delta characters : Nat) (first : Bool) : Nat :=
  let delta := if first then delta / 700 else delta / 2
  let (delta, count) := settle (delta + delta / characters) 0
  count + 36 * delta / (delta + 38)

/-! ## Writing -/

theorem rest_lt {position bias q : Nat} (h : ¬ q < threshold position bias) :
    (q - threshold position bias) / (36 - threshold position bias) < q := by
  have ht : 1 ≤ threshold position bias := Nat.le_max_left ..
  have hd := Nat.div_le_self (q - threshold position bias) (36 - threshold position bias)
  omega

/-- The digits of a difference from a position on. -/
def differenceFrom (position bias q : Nat) : List Char :=
  if h : q < threshold position bias then [digitChar q]
  else
    digitChar (threshold position bias +
        (q - threshold position bias) % (36 - threshold position bias)) ::
      differenceFrom (position + 36) bias
        ((q - threshold position bias) / (36 - threshold position bias))
termination_by q
decreasing_by exact rest_lt h

/-- What the writer knows between two characters. -/
structure Progress where
  /-- The characters up to this one are written. -/
  last : Nat := 128
  delta : Nat := 0
  bias : Nat := 72
  /-- How many characters are written. -/
  written : Nat
  first : Bool := true

/-- Goes through the text once and writes every occurrence of a character. -/
def occurrences (n : Nat) : Progress → List Nat → Progress × List Char
  | p, [] => (p, [])
  | p, c :: rest =>
    if c < n then occurrences n { p with delta := p.delta + 1 } rest
    else if c = n then
      let digits := differenceFrom 36 p.bias p.delta
      let p := { p with
        bias := adapt p.delta (p.written + 1) p.first
        delta := 0
        written := p.written + 1
        first := false }
      let (p, more) := occurrences n p rest
      (p, digits ++ more)
    else occurrences n p rest

/-- Writes the characters that are not ASCII, least first. -/
def extended (text : List Nat) : List Nat → Progress → List Char
  | [], _ => []
  | n :: more, p =>
    let p := { p with delta := p.delta + (n - p.last) * (p.written + 1) }
    let (p, digits) := occurrences n p text
    digits ++ extended text more { p with delta := p.delta + 1, last := n + 1 }

/-- Puts a number into an ascending list that lacks it. -/
def insert (n : Nat) : List Nat → List Nat
  | [] => [n]
  | m :: rest => if n = m then m :: rest else if n < m then n :: m :: rest else m :: insert n rest

/-- The label of a text, without the mark in front. -/
def encode (s : List Char) : List Char :=
  let text := s.map Char.toNat
  let basic := s.filter (·.toNat < 128)
  let others := (text.filter (128 ≤ ·)).foldr insert []
  basic ++ (if basic.isEmpty then [] else ['-']) ++
    extended text others { written := basic.length }

/-! ## Reading -/

/-- The limit of a difference. -/
def limit : Nat := 4294967296

/-- Reads a difference: its value and what follows it. -/
def differenceFrom? (position bias weight sum : Nat) : List Char → Option (Nat × List Char)
  | [] => none
  | c :: rest => do
    let d ← digitValue? c
    let sum := sum + d * weight
    let t := threshold position bias
    if limit ≤ sum then none
    else if d < t then some (sum, rest)
    else differenceFrom? (position + 36) bias (weight * (36 - t)) sum rest

/-- What the reader knows between two characters. -/
structure Place where
  /-- The last character that was read. -/
  char : Nat := 128
  /-- Where the next one may go at the earliest. -/
  index : Nat := 0
  bias : Nat := 72
  first : Bool := true

/-- Reads the characters that are not ASCII into the text; the first argument bounds their
number. -/
def insertions : Nat → Place → List Char → List Char → Option (List Char)
  | _, _, text, [] => some text
  | 0, _, _, _ :: _ => none
  | fuel + 1, place, text, digits => do
    let (delta, rest) ← differenceFrom? 36 place.bias 1 0 digits
    let count := text.length + 1
    let index := (place.index + delta) % count
    let char := place.char + (place.index + delta) / count
    if char.isValidChar then
      insertions fuel ⟨char, index + 1, adapt delta count place.first, false⟩
        (text.take index ++ Char.ofNat char :: text.drop index) rest
    else none

/-- The text of a label, without the mark in front. A hyphen that nothing stands before is none. -/
def decode? (s : List Char) : Option (List Char) :=
  let tail := (s.reverse.takeWhile (· != '-')).reverse
  let basic := s.take (s.length - tail.length - 1)
  if s.length = tail.length + 1 || basic.any (128 ≤ ·.toNat) then none
  else insertions s.length {} basic tail

end FeedOperator.Url.Punycode
