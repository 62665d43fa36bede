import FeedOperator.Tls.Der

/-!
# Certificates

A certificate holds a statement, the algorithm of the signature and the signature. The statement
says, among other things, what the public key of its holder is.

* `Certificate.ofDer`: reads a certificate as far as its shape goes.
-/

namespace FeedOperator

open Der

/-- What is used of a certificate. -/
structure Certificate where
  /-- The algorithm of the public key, and the key. -/
  publicInfo : List UInt8

/-- Why a certificate cannot be used. -/
inductive CertificateFault where
  /-- It does not have the shape of a certificate. -/
  | badEncoding
  /-- It is not of the third version. -/
  | unsupportedVersion
  /-- The statement names another algorithm than the one of the signature. -/
  | otherAlgorithm
  deriving DecidableEq

/-- The fault in words. -/
def CertificateFault.message : CertificateFault → String
  | .badEncoding => "invalid peer certificate: BadEncoding"
  | .unsupportedVersion =>
    "invalid peer certificate: Other(OtherError(UnsupportedCertVersion))"
  | .otherAlgorithm =>
    "invalid peer certificate: Other(OtherError(SignatureAlgorithmMismatch))"

namespace Certificate

/-- The content of the first element, or a badly encoded certificate. -/
def take (tag : UInt8) (s : List UInt8) : Except CertificateFault (List UInt8 × List UInt8) :=
  match expect? tag s with
  | some parts => .ok parts
  | none => .error .badEncoding

/-- The content of the only element. -/
def takeOnly (tag : UInt8) (s : List UInt8) : Except CertificateFault (List UInt8) := do
  let (content, rest) ← take tag s
  if rest.isEmpty then return content else throw .badEncoding

/-- Makes sure that extensions have the shape of extensions: a name, perhaps a mark, and octets. -/
def checkExtensions (s : List UInt8) : Except CertificateFault Unit := do
  match elements? (← takeOnly sequenceTag (← takeOnly (partTag 3) s)) with
  | none => throw .badEncoding
  | some extensions => extensions.forM fun e => do
    if e.tag ≠ sequenceTag then throw .badEncoding
    let (_, s) ← take identifierTag e.content
    let (_, s) := optional 0x01 s
    let _ ← takeOnly octetStringTag s

/-- Reads the statement of a certificate that is signed with an algorithm. -/
def readStatement (algorithm statement : List UInt8) : Except CertificateFault Certificate := do
  let (version, s) ← take (partTag 0) statement
  match unsigned? (← takeOnly integerTag version) with
  | none => throw .badEncoding
  | some n => if n ≠ 2 then throw .unsupportedVersion
  let (_, s) ← take integerTag s
  let (named, s) ← take sequenceTag s
  if named ≠ algorithm then throw .otherAlgorithm
  let (_, s) ← take sequenceTag s
  let (_, s) ← take sequenceTag s
  let (_, s) ← take sequenceTag s
  let (publicInfo, s) ← take sequenceTag s
  if !s.isEmpty then checkExtensions s
  return ⟨publicInfo⟩

/-- Reads a certificate. -/
def ofDer (der : List UInt8) : Except CertificateFault Certificate := do
  let s ← takeOnly sequenceTag der
  let (statement, s) ← take sequenceTag s
  let (algorithm, s) ← take sequenceTag s
  match ← takeOnly bitStringTag s with
  | 0 :: _ => readStatement algorithm statement
  | _ => throw .badEncoding

end Certificate

end FeedOperator
