import FeedOperator.Text.Base64
import FeedOperator.Text.Quoted
import FeedOperator.Text.Utf8

/-!
# Sections of certificate files

Binary data in a text file: a section begins and ends with a line that names what it holds, and
between them stands base 64. What stands outside of sections is not looked at.

* `PemKind`: what a section may hold.
* `Pem.read`: the sections of a file, and the faults between them. A fault ends a section, and
  reading goes on behind it.

A section of another kind is passed over. A line that begins another section within one changes
what the section holds and keeps its content so far.
-/

namespace FeedOperator

open Text

/-- What a section holds. -/
inductive PemKind where
  | certificate
  | publicKey
  | rsaPrivateKey
  | privateKey
  | ecPrivateKey
  | revocationList
  | certificateRequest
  | helloConfig
  deriving DecidableEq

/-- The kind with a label. -/
def PemKind.ofLabel? (label : String) : Option PemKind :=
  [("CERTIFICATE", .certificate), ("PUBLIC KEY", .publicKey), ("RSA PRIVATE KEY", .rsaPrivateKey),
    ("PRIVATE KEY", .privateKey), ("EC PRIVATE KEY", .ecPrivateKey),
    ("X509 CRL", .revocationList), ("CERTIFICATE REQUEST", .certificateRequest),
    ("ECHCONFIG", PemKind.helloConfig)].lookup label

/-- Whether a private key is in sections of a kind. -/
def PemKind.isPrivateKey : PemKind → Bool
  | .rsaPrivateKey | .privateKey | .ecPrivateKey => true
  | _ => false

/-- A section. -/
structure PemSection where
  kind : PemKind
  content : List UInt8
  deriving DecidableEq

/-- Why a section cannot be read. -/
inductive PemFault where
  /-- The file ends within a section. -/
  | unclosed (label : List UInt8)
  /-- The line that begins a section does not end as it has to. -/
  | badStart (line : List UInt8)
  | badContent (fault : Base64Fault)
  deriving DecidableEq

/-- The fault in words. -/
def PemFault.message : PemFault → String
  | .unclosed label => "section end " ++ shown label ++ " missing"
  | .badStart line => "illegal section start: " ++ shown line
  | .badContent fault => fault.message
where
  /-- Octets as a quoted text. -/
  shown (octets : List UInt8) : String :=
    Quoted.encode (String.ofList (Utf8.lossy octets))

namespace Pem

/-- The octets of a text of ASCII. -/
def ascii (text : String) : List UInt8 :=
  Utf8.encode text.toList

/-- The lines of a file, each with the octet that ends it. -/
def lines : List UInt8 → List (List UInt8)
  | [] => []
  | c :: rest =>
    if c = 10 ∨ c = 13 then [c] :: lines rest
    else
      match lines rest with
      | [] => [[c]]
      | l :: ls => (c :: l) :: ls

/-- How a section begins. -/
def opening : List UInt8 := ascii "-----BEGIN "

/-- How a section ends. -/
def closing : List UInt8 := ascii "-----END "

/-- The label in a line that begins a section: what stands before five hyphens at the end, between
and behind which blanks may stand. -/
def label? (line : List UInt8) : Option (List UInt8) :=
  let trailer := (line.reverse.takeWhile fun c => c == 45 || c == 10 || c == 13 || c == 32).reverse
  if (trailer.filter (· == 45)).length = 5 then
    let before := line.take (line.length - trailer.length) ++ trailer.takeWhile (· != 45)
    some (before.drop opening.length)
  else none

/-- How far a file was read. -/
structure State where
  /-- The label of the section that is read. -/
  label : Option (List UInt8) := none
  /-- The lines of the section so far. -/
  body : List UInt8 := []

/-- What comes of a section that ends. -/
def finish (kind : PemKind) (body : List UInt8) : Except PemFault PemSection :=
  match Base64.decode body with
  | .ok content => .ok ⟨kind, content⟩
  | .error fault => .error (.badContent fault)

/-- Reads a line: how far the file is read then, and the section or fault that ends with it. -/
def step (s : State) (line : List UInt8) : State × Option (Except PemFault PemSection) :=
  if opening.isPrefixOf line then
    match label? line with
    | some label => ({ s with label := some label }, none)
    | none => ({}, some (.error (.badStart line)))
  else
    match s.label with
    | none => (s, none)
    | some label =>
      if (closing ++ label).isPrefixOf line then
        ({}, (PemKind.ofLabel? (String.ofList (Utf8.lossy label))).map (finish · s.body))
      else ({ s with body := s.body ++ line }, none)

/-- The sections and faults in lines, read from a state on. -/
def readLines (s : State) : List (List UInt8) → List (Except PemFault PemSection)
  | [] => s.label.toList.map fun label => .error (.unclosed label)
  | line :: rest =>
    match step s line with
    | (s, none) => readLines s rest
    | (s, some outcome) => outcome :: readLines s rest

/-- The sections of a file, and the faults between them. -/
def read (file : List UInt8) : List (Except PemFault PemSection) :=
  readLines {} (lines file)

end Pem

end FeedOperator
