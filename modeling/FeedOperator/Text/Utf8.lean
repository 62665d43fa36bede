/-!
# UTF-8

Octets and characters, for texts that may hold broken octets.

* `encode`: the octets of a text.
* `symbols`: reads octets to their end. A maximal broken stretch (a lead with the continuation
  octets that fit it, or one octet that fits nowhere) is one `none`.
* `lossy`: the text with U+FFFD in the place of each broken stretch.

The range for the octet after a lead keeps out overlong forms, surrogates and values above
U+10FFFF, so the reading never has to be taken back.
-/

namespace FeedOperator.Text.Utf8

/-- A character, or nothing where the octets spell none. -/
abbrev Symbol := Option Char

/-- The octets of a text. -/
def encode (s : List Char) : List UInt8 :=
  s.flatMap String.utf8EncodeChar

/-- A character that is partly read. -/
structure Pending where
  /-- The bits so far. -/
  bits : Nat
  /-- How many octets follow, the next one included. -/
  due : Nat
  /-- The least octet that may follow. -/
  least : Nat
  /-- The greatest octet that may follow. -/
  most : Nat

/-- What an octet says at the start of a character. -/
inductive Lead
  | single (c : Char)
  | opens (p : Pending)
  | stray

/-- Reads the first octet of a character. -/
def lead (b : Nat) : Lead :=
  if b < 0x80 then .single (Char.ofNat b)
  else if b < 0xC2 then .stray
  else if b < 0xE0 then .opens ⟨b - 0xC0, 1, 0x80, 0xBF⟩
  else if b < 0xF0 then
    .opens ⟨b - 0xE0, 2, if b = 0xE0 then 0xA0 else 0x80, if b = 0xED then 0x9F else 0xBF⟩
  else if b < 0xF5 then
    .opens ⟨b - 0xF0, 3, if b = 0xF0 then 0x90 else 0x80, if b = 0xF4 then 0x8F else 0xBF⟩
  else .stray

/-- Reads on from a partly read character. -/
def symbolsFrom : Option Pending → List UInt8 → List Symbol
  | none, [] => []
  | some _, [] => [none]
  | pending, octet :: rest =>
    let b := octet.toNat
    let afresh : List Symbol := match lead b with
      | .single c => some c :: symbolsFrom none rest
      | .opens p => symbolsFrom (some p) rest
      | .stray => none :: symbolsFrom none rest
    match pending with
    | none => afresh
    | some p =>
      if p.least ≤ b ∧ b ≤ p.most then
        let bits := p.bits * 64 + (b - 0x80)
        if p.due ≤ 1 then some (Char.ofNat bits) :: symbolsFrom none rest
        else symbolsFrom (some ⟨bits, p.due - 1, 0x80, 0xBF⟩) rest
      else none :: afresh

/-- Reads octets to their end. -/
def symbols (octets : List UInt8) : List Symbol :=
  symbolsFrom none octets

/-- The text of octets, with U+FFFD for what is broken. -/
def lossy (octets : List UInt8) : List Char :=
  (symbols octets).map (·.getD '\uFFFD')

end FeedOperator.Text.Utf8
