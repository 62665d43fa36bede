/-!
# Elements of binary structures

An element is a tag, a length and so many octets, in which further elements may stand. Lengths are
written in as few octets as possible.

* `Der.Element`, `Der.element?`: one element and what follows it.
* `Der.elements?`: elements to the end.
* `Der.encode`: an element as it is written.
-/

namespace FeedOperator.Der

/-- A tag with the octets that it stands for. -/
structure Element where
  tag : UInt8
  content : List UInt8
  deriving DecidableEq

/-- The tags that are used. -/
def integerTag : UInt8 := 0x02
def bitStringTag : UInt8 := 0x03
def octetStringTag : UInt8 := 0x04
def nullTag : UInt8 := 0x05
def identifierTag : UInt8 := 0x06
def sequenceTag : UInt8 := 0x30

/-- The tag of an optional part of a structure. -/
def partTag (n : UInt8) : UInt8 := 0xA0 + n

/-- The number that octets write, the first one the most significant. -/
def natural (octets : List UInt8) : Nat :=
  octets.foldl (fun n b => n * 256 + b.toNat) 0

/-- A length, and what follows it. -/
def length? : List UInt8 → Option (Nat × List UInt8)
  | [] => none
  | b :: rest =>
    if b < 0x80 then some (b.toNat, rest)
    else
      let count := b.toNat - 0x80
      let n := natural (rest.take count)
      let least := if count = 1 then 0x80 else Nat.pow 256 (count - 1)
      if 1 ≤ count ∧ count ≤ 3 ∧ count ≤ rest.length ∧ least ≤ n then some (n, rest.drop count)
      else none

/-- The first element, and what follows it. Tags of more than one octet are not used. -/
def element? : List UInt8 → Option (Element × List UInt8)
  | [] => none
  | tag :: rest =>
    if tag &&& 0x1F = 0x1F then none
    else
      match length? rest with
      | some (n, rest) => if n ≤ rest.length then some (⟨tag, rest.take n⟩, rest.drop n) else none
      | none => none

/-- The content of the first element, which has a tag, and what follows it. -/
def expect? (tag : UInt8) (s : List UInt8) : Option (List UInt8 × List UInt8) :=
  match element? s with
  | some (e, rest) => if e.tag = tag then some (e.content, rest) else none
  | none => none

/-- The content of a first element if it has a tag, and what follows it or else all. -/
def optional (tag : UInt8) (s : List UInt8) : Option (List UInt8) × List UInt8 :=
  match expect? tag s with
  | some (content, rest) => (some content, rest)
  | none => (none, s)

/-- The content of the only element, which has a tag. -/
def only? (tag : UInt8) (s : List UInt8) : Option (List UInt8) :=
  match expect? tag s with
  | some (content, []) => some content
  | _ => none

/-- So many elements at most, to the end. -/
def elementsWithin? : Nat → List UInt8 → Option (List Element)
  | _, [] => some []
  | 0, _ :: _ => none
  | fuel + 1, s => do
    let (e, rest) ← element? s
    return e :: (← elementsWithin? fuel rest)

/-- Elements to the end. Each has at least two octets. -/
def elements? (s : List UInt8) : Option (List Element) :=
  elementsWithin? s.length s

/-- The number in an integer that is not negative: no octet more than needed. -/
def unsigned? (content : List UInt8) : Option Nat :=
  match content with
  | [] => none
  | [b] => if b < 0x80 then some b.toNat else none
  | a :: b :: _ => if a < 0x80 ∧ (a ≠ 0 ∨ 0x80 ≤ b) then some (natural content) else none

/-- A number in octets, as few as possible. -/
def naturalOctets (n : Nat) : List UInt8 :=
  if n < 256 then [UInt8.ofNat n] else naturalOctets (n / 256) ++ [UInt8.ofNat (n % 256)]
termination_by n

/-- An element as it is written. -/
def encode (e : Element) : List UInt8 :=
  let n := e.content.length
  let octets := naturalOctets n
  e.tag :: (if n < 0x80 then octets else UInt8.ofNat (0x80 + octets.length) :: octets) ++ e.content

/-- A number as an integer element. -/
def encodeNatural (n : Nat) : List UInt8 :=
  let octets := naturalOctets n
  encode ⟨integerTag, if octets.head?.any (0x80 ≤ ·) then 0 :: octets else octets⟩

end FeedOperator.Der
