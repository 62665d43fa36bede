import FeedOperator.Text.Pieces
import FeedOperator.Url.Idna
import FeedOperator.Url.Percent

/-!
# Hosts

The host of a URL is a domain name, an address of version 4 or 6, or, in a scheme of which nothing
is known, a name that is taken as it is.

* `Host.parseSpecial`: the host of a scheme that is known. Percent signs are decoded, the name is
  turned to ASCII, and one whose last label is a number is an address of version 4.
* `Host.parseOther`: the host of any other scheme.
* `Host.chars`: an address of version 6 stands in brackets, its longest run of zeros left out.
-/

namespace FeedOperator

open Text

/-- Why a text is no URL. -/
inductive UrlError where
  | emptyHost
  | internationalName
  | invalidPort
  | invalidIpv4
  | invalidIpv6
  | invalidDomainCharacter
  | relativeWithoutBase
  deriving DecidableEq

/-- The error in words. -/
def UrlError.message : UrlError → String
  | .emptyHost => "empty host"
  | .internationalName => "invalid international domain name"
  | .invalidPort => "invalid port number"
  | .invalidIpv4 => "invalid IPv4 address"
  | .invalidIpv6 => "invalid IPv6 address"
  | .invalidDomainCharacter => "invalid domain character"
  | .relativeWithoutBase => "relative URL without a base"

/-- The host of a URL. -/
inductive Host where
  /-- A name, perhaps empty. -/
  | name (chars : List Char)
  /-- A number of 32 bits. -/
  | ipv4 (address : Nat)
  /-- Eight numbers of 16 bits. -/
  | ipv6 (groups : List Nat)
  deriving DecidableEq

namespace Host

/-! ## Addresses of version 4 -/

/-- What a part of an address says. -/
inductive Part where
  | number (n : Nat)
  /-- Digits, but too many. -/
  | huge
  | other

/-- Reads a part: hexadecimal after `0x`, octal after `0`, else decimal. -/
def part (s : List Char) : Part :=
  let valued := fun (base : Nat) (digits : List Char) =>
    if digits.isEmpty then .number 0
    else if digits.all fun c => (hexValue? c).any (· < base) then
      let n := ofDigits base digits
      if n < 4294967296 then .number n else .huge
    else .other
  match s with
  | [] => .other
  | '0' :: 'x' :: rest | '0' :: 'X' :: rest => valued 16 rest
  | '0' :: c :: rest => valued 8 (c :: rest)
  | s => valued 10 s

/-- Parts without the empty one after a last point. -/
def parts (s : List Char) : List (List Char) :=
  let ps := pieces '.' s
  if ps.getLast? = some [] then ps.dropLast else ps

/-- Whether the last label is a number, which makes the host an address. -/
def endsInNumber (s : List Char) : Bool :=
  match (parts s).getLast? with
  | none => false
  | some last =>
    (!last.isEmpty && last.all isDigit) ||
      match part last with
      | .other => false
      | _ => true

/-- Reads an address: up to four numbers, of which the last fills what the others leave. -/
def ipv4? (s : List Char) : Option Nat := do
  let numbers ← (parts s).mapM fun p =>
    match part p with
    | .number n => some n
    | _ => none
  let last ← numbers.getLast?
  let first := numbers.dropLast
  if 4 < numbers.length ∨ first.any (255 < ·) ∨ Nat.pow 256 (4 - first.length) ≤ last then none
  else some (first.foldl (fun n x => n * 256 + x) 0 * Nat.pow 256 (4 - first.length) + last)

/-- The four numbers of an address. -/
def ipv4Chars (n : Nat) : List Char :=
  joined ['.'] ([n / 16777216, n / 65536 % 256, n / 256 % 256, n % 256].map decimal)

/-! ## Addresses of version 6 -/

/-- A decimal number up to 255 without a zero in front. -/
def octet? (s : List Char) : Option Nat :=
  if s.isEmpty || !s.all isDigit || (1 < s.length && s.head? == some '0') then none
  else
    let n := ofDigits 10 s
    if n ≤ 255 then some n else none

/-- One group of hexadecimal digits. -/
def group? (s : List Char) : Option Nat :=
  if s.isEmpty || 4 < s.length || !s.all isHexDigit then none else some (ofDigits 16 s)

/-- Groups, of which the last may be an address of version 4 in the place of two. -/
def groups? : List (List Char) → Option (List Nat)
  | [] => some []
  | [s] =>
    if s.contains '.' then do
      match ← (pieces '.' s).mapM octet? with
      | [a, b, c, d] => some [a * 256 + b, c * 256 + d]
      | _ => none
    else (group? s).map ([·])
  | s :: rest => do return (← group? s) :: (← groups? rest)

/-- Groups with colons between them, or nothing. -/
def side? (s : List Char) : Option (List Nat) :=
  if s.isEmpty then some [] else groups? (pieces ':' s)

/-- Splits at the first pair of colons. -/
def splitGap : List Char → Option (List Char × List Char)
  | ':' :: ':' :: rest => some ([], rest)
  | c :: rest => (splitGap rest).map fun (a, b) => (c :: a, b)
  | [] => none

/-- Reads eight groups, of which a run of zeros may be left out once. -/
def ipv6? (s : List Char) : Option (List Nat) :=
  match splitGap s with
  | none => do
    let groups ← side? s
    if groups.length = 8 then some groups else none
  | some (before, after) => do
    if before.contains '.' then none
    else
      let before ← side? before
      let after ← side? after
      let count := before.length + after.length
      if count < 8 then some (before ++ List.replicate (8 - count) 0 ++ after) else none

/-- The length of the run of zeros in front. -/
def zeros (groups : List Nat) : Nat :=
  (groups.takeWhile (· == 0)).length

/-- Position and length of the first of the longest runs of zeros. -/
def longestZeros (position : Nat) : List Nat → Nat × Nat
  | [] => (position, 0)
  | g :: rest =>
    let here := zeros (g :: rest)
    let (p, n) := longestZeros (position + 1) rest
    if n ≤ here then (position, here) else (p, n)

/-- The groups with the longest run of two or more zeros left out. -/
def ipv6Chars (groups : List Nat) : List Char :=
  let side := fun (gs : List Nat) => joined [':'] (gs.map hexLower)
  let (p, n) := longestZeros 0 groups
  if n < 2 then side groups
  else side (groups.take p) ++ [':', ':'] ++ side (groups.drop (p + n))

/-! ## Hosts -/

/-- The inside of brackets. -/
def bracketed (s : List Char) : Except UrlError Host :=
  match s.getLast?, ipv6? s.dropLast with
  | some ']', some groups => .ok (.ipv6 groups)
  | _, _ => .error .invalidIpv6

/-- Reads the host of a special scheme. -/
def parseSpecial (s : List Char) : Except UrlError Host :=
  match s with
  | '[' :: rest => bracketed rest
  | s =>
    match Url.Idna.toAscii? (Utf8.symbols (Url.decode s)) with
    | none => .error .internationalName
    | some [] => .error .emptyHost
    | some ascii =>
      if endsInNumber ascii then
        match ipv4? ascii with
        | some n => .ok (.ipv4 n)
        | none => .error .invalidIpv4
      else .ok (.name ascii)

/-- What the host of another scheme does not hold. -/
def isForbidden (c : Char) : Bool :=
  c ∈ ['\x00', '\t', '\n', '\r', ' ', '#', '/', ':', '<', '>', '?', '@', '[', '\\', ']', '^', '|']

/-- Reads the host of another scheme. -/
def parseOther (s : List Char) : Except UrlError Host :=
  match s with
  | '[' :: rest => bracketed rest
  | s =>
    if s.any isForbidden then .error .invalidDomainCharacter
    else .ok (.name (Url.encode (fun _ => false) s))

/-- The host as it stands in a URL. -/
def chars : Host → List Char
  | .name s => s
  | .ipv4 n => ipv4Chars n
  | .ipv6 groups => '[' :: ipv6Chars groups ++ [']']

end Host

end FeedOperator
