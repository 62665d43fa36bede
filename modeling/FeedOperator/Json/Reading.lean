import FeedOperator.Json.Number
import FeedOperator.Text.Utf8

/-!
# Reading JSON text

A text is read from left to right, up to the first place where it stops being JSON. The result is
a tree in which that place is a `broken` leaf, so what stands before it can still be judged.

* `Reading`: the tree. Text may hold more than a decoder wants to see: a string that names half of
  a surrogate pair or holds a broken octet can be skipped and not read, a number may be too large
  for any reader, lists and objects may be nested too deep, and a list or an object cut short ends
  in a broken item or member.
* `Reading.read`: reads one value and what is left after it.
* `Document`: a whole text.
-/

namespace FeedOperator

open Text Text.Utf8

/-- A JSON text as far as it could be read. -/
inductive Reading where
  | null
  | bool (b : Bool)
  | int (n : Int)
  | real (d : Double)
  /-- A number that is too large to be read. -/
  | tooLarge
  /-- A string, or nothing if it may be skipped but does not spell a text. -/
  | str (s : Option String)
  | arr (items : List Reading)
  | obj (members : List (Option String × Reading))
  /-- A list or an object that is nested too deep to be read; `sound` says whether it is JSON. -/
  | tooDeep (sound : Bool)
  /-- The place where the text stops being JSON. -/
  | broken

namespace Reading

/-- A value and what stands after it, or nothing after a broken place. -/
abbrev Step := Reading × Option (List Symbol)

/-- The four blanks of JSON. -/
def isGap (s : Symbol) : Bool :=
  s == some ' ' || s == some '\n' || s == some '\t' || s == some '\r'

/-- Drops the blanks of JSON in front. -/
def skipGaps (s : List Symbol) : List Symbol :=
  s.dropWhile isGap

/-! ## Strings -/

/-- What a string holds: its characters in reverse, or nothing once one of them cannot be read. -/
abbrev Spelled := Option (List Char)

/-- Adds a character. -/
def Spelled.add (s : Spelled) (c : Symbol) : Spelled :=
  match s, c with
  | some cs, some c => some (c :: cs)
  | _, _ => none

/-- The character that a letter after a backslash stands for. -/
def escaped? (c : Char) : Option Char :=
  if c = '\"' ∨ c = '\\' ∨ c = '/' then some c
  else if c = 'b' then some '\x08'
  else if c = 'f' then some '\x0c'
  else if c = 'n' then some '\n'
  else if c = 'r' then some '\r'
  else if c = 't' then some '\t'
  else none

/-- The value of four hexadecimal digits. -/
def unit? (a b c d : Symbol) : Option Nat := do
  let value := fun (s : Symbol) => s.bind hexValue?
  return (((← value a) * 16 + (← value b)) * 16 + (← value c)) * 16 + (← value d)

/-- Whether a sixteen-bit unit opens a surrogate pair. -/
def isHigh (n : Nat) : Bool := 0xD800 ≤ n && n ≤ 0xDBFF

/-- Whether a sixteen-bit unit closes a surrogate pair. -/
def isLow (n : Nat) : Bool := 0xDC00 ≤ n && n ≤ 0xDFFF

/-- The rest of a string after its opening quote, up to and with the closing one. A unit that opens
a surrogate pair waits in `high` for its other half; without it the string spells no text. -/
def stringBody (high : Option Nat) (sofar : Spelled) :
    List Symbol → Option (Spelled × List Symbol)
  | [] => none
  | some '\\' :: some 'u' :: a :: b :: c :: d :: rest =>
    match unit? a b c d with
    | none => none
    | some n =>
      match high with
      | some h =>
        if isLow n then
          stringBody none
            (sofar.add (some (Char.ofNat (0x10000 + (h - 0xD800) * 0x400 + (n - 0xDC00))))) rest
        else stringBody none none rest
      | none =>
        if isHigh n then stringBody (some n) sofar rest
        else if isLow n then stringBody none none rest
        else stringBody none (sofar.add (some (Char.ofNat n))) rest
  | some '\\' :: some c :: rest =>
    match escaped? c with
    | some e => stringBody none (if high.isSome then none else sofar.add (some e)) rest
    | none => none
  | some '\\' :: _ => none
  | some '\"' :: rest => some (if high.isSome then none else sofar, rest)
  | s :: rest =>
    if s.any (·.toNat < 0x20) then none
    else stringBody none (if high.isSome then none else sofar.add s) rest

/-- A string after its opening quote. -/
def string? (s : List Symbol) : Option (Option String × List Symbol) :=
  (stringBody none (some []) s).map fun (cs, rest) =>
    (cs.map (String.ofList ·.reverse), rest)

/-! ## Numbers -/

/-- The digits in front. -/
def digits (s : List Symbol) : List Char × List Symbol :=
  let isDig := fun (x : Symbol) => x.any isDigit
  ((s.takeWhile isDig).filterMap id, s.dropWhile isDig)

/-- What a number is read as. -/
def ofNumeral (x : Numeral) : Reading :=
  match x.value with
  | .int n => .int n
  | .real d => .real d
  | .tooLarge => .tooLarge

/-- The power of ten after its letter: a sign, and at least one digit. -/
def power? (s : List Symbol) : Option (Int × List Symbol) :=
  let (down, s) := match s with
    | some '-' :: s => (true, s)
    | some '+' :: s => (false, s)
    | s => (false, s)
  let (power, rest) := digits s
  if power.isEmpty then none
  else
    let n : Int := ofDigits 10 power
    some (if down then -n else n, rest)

/-- A number after its sign and the digits before and after the point. -/
def scaled (x : Numeral) (s : List Symbol) : Step :=
  match s with
  | some 'e' :: rest | some 'E' :: rest =>
    match power? rest with
    | some (power, rest) => (ofNumeral { x with power := some power }, some rest)
    | none => (.broken, none)
  | s => (ofNumeral x, some s)

/-- A number after its sign. A zero in front stands alone, and a point has a digit after it. -/
def number (negative : Bool) (s : List Symbol) : Step :=
  let (whole, rest) := digits s
  if whole.isEmpty || (whole.head? == some '0' && 1 < whole.length) then (.broken, none)
  else
    match rest with
    | some '.' :: rest =>
      let (places, rest) := digits rest
      if places.isEmpty then (.broken, none) else scaled ⟨negative, whole, places, none⟩ rest
    | rest => scaled ⟨negative, whole, [], none⟩ rest

/-! ## Soundness -/

mutual

/-- Whether the text was JSON to the end of this value. -/
def isSound : Reading → Bool
  | .broken => false
  | .tooDeep sound => sound
  | .arr items => areSound items
  | .obj members => areSoundMembers members
  | _ => true

/-- Whether all items are sound. -/
def areSound : List Reading → Bool
  | [] => true
  | v :: items => isSound v && areSound items

/-- Whether the values of all members are sound. -/
def areSoundMembers : List (Option String × Reading) → Bool
  | [] => true
  | (_, v) :: members => isSound v && areSoundMembers members

end

/-- The value if there is room for one more level, and otherwise only whether it is sound. -/
def within (room : Nat) (v : Reading) : Reading :=
  if room = 0 then .tooDeep v.isSound else v

/-! ## Values -/

/-- A word that stands for a value. -/
def word (letters : List Char) (value : Reading) (s : List Symbol) : Step :=
  if (letters.map some).isPrefixOf s then (value, some (s.drop letters.length))
  else (.broken, none)

mutual

/-- Reads a value. The first argument bounds the number of steps, and the second one the levels of
lists and objects. -/
def readValue : Nat → Nat → List Symbol → Step
  | 0, _, _ => (.broken, none)
  | fuel + 1, room, s =>
    match skipGaps s with
    | some 'n' :: rest => word ['u', 'l', 'l'] .null rest
    | some 't' :: rest => word ['r', 'u', 'e'] (.bool true) rest
    | some 'f' :: rest => word ['a', 'l', 's', 'e'] (.bool false) rest
    | some '\"' :: rest =>
      match string? rest with
      | some (text, rest) => (.str text, some rest)
      | none => (.broken, none)
    | some '[' :: rest =>
      match skipGaps rest with
      | some ']' :: rest => (within room (.arr []), some rest)
      | rest =>
        let (items, rest) := readItems fuel (room - 1) rest
        (within room (.arr items), rest)
    | some '{' :: rest =>
      match skipGaps rest with
      | some '}' :: rest => (within room (.obj []), some rest)
      | rest =>
        let (members, rest) := readMembers fuel (room - 1) rest
        (within room (.obj members), rest)
    | some '-' :: rest => number true rest
    | rest => number false rest

/-- Reads items up to the closing bracket. -/
def readItems : Nat → Nat → List Symbol → List Reading × Option (List Symbol)
  | 0, _, _ => ([.broken], none)
  | fuel + 1, room, s =>
    match readValue fuel room s with
    | (v, none) => ([v], none)
    | (v, some rest) =>
      match skipGaps rest with
      | some ']' :: rest => ([v], some rest)
      | some ',' :: rest =>
        let (items, rest) := readItems fuel room rest
        (v :: items, rest)
      | _ => ([v, .broken], none)

/-- Reads members up to the closing brace. -/
def readMembers : Nat → Nat → List Symbol → List (Option String × Reading) × Option (List Symbol)
  | 0, _, _ => ([(none, .broken)], none)
  | fuel + 1, room, s =>
    match skipGaps s with
    | some '\"' :: rest =>
      match string? rest with
      | none => ([(none, .broken)], none)
      | some (key, rest) =>
        match skipGaps rest with
        | some ':' :: rest =>
          match readValue fuel room rest with
          | (v, none) => ([(key, v)], none)
          | (v, some rest) =>
            match skipGaps rest with
            | some '}' :: rest => ([(key, v)], some rest)
            | some ',' :: rest =>
              let (members, rest) := readMembers fuel room rest
              ((key, v) :: members, rest)
            | _ => ([(key, v), (none, .broken)], none)
        | _ => ([(key, .broken)], none)
    | _ => ([(none, .broken)], none)

end

/-- How many levels of lists and objects are read. -/
def levels : Nat := 127

/-- Reads one value: each step takes at least one symbol and no value is nested in itself, so twice
the length of the text is enough. -/
def read (s : List Symbol) : Step :=
  readValue (2 * s.length + 2) levels s

end Reading

/-- A text read as one JSON value. -/
structure Document where
  root : Reading
  /-- Whether nothing but blanks follows the value. -/
  ended : Bool

namespace Document

/-- Reads a text that may hold broken octets. -/
def ofSymbols (s : List Symbol) : Document :=
  match Reading.read s with
  | (v, none) => ⟨v, true⟩
  | (v, some rest) => ⟨v, (Reading.skipGaps rest).isEmpty⟩

/-- Reads octets. -/
def ofOctets (octets : List UInt8) : Document :=
  ofSymbols (symbols octets)

/-- Reads a text. -/
def ofText (text : String) : Document :=
  ofSymbols (text.toList.map some)

end Document

end FeedOperator
