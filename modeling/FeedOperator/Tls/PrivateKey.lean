import FeedOperator.Tls.Curve
import FeedOperator.Tls.Der

/-!
# Private keys

A private key is written as an RSA key, as a key on a curve, or as a key of some algorithm that is
named with it.

* `PrivateKey.ofDer`: reads a key in any of the forms, and makes sure that its parts belong
  together.
* `PrivateKey.publicInfo?`: what a certificate says of the public key that belongs to it.
-/

namespace FeedOperator

open Der

/-- A key whose parts belong together. -/
inductive PrivateKey where
  /-- The modulus and the public exponent. -/
  | rsa (modulus exponent : Nat)
  /-- The names of algorithm and curve, and the public point. -/
  | curve (algorithm : List UInt8) (point : List UInt8)
  | edwards

/-- Why a key is of no use. -/
inductive KeyFault where
  /-- It has none of the forms. -/
  | unknownFormat
  /-- It has one of the forms, but does not hold a key that can be used. -/
  | unusable
  deriving DecidableEq

/-- The fault in words. -/
def KeyFault.message : KeyFault → String
  | .unknownFormat => "unknown or invalid key format"
  | .unusable => "unexpected error: failed to parse private key as RSA, ECDSA, or EdDSA"

namespace PrivateKey

/-! ## Forms -/

/-- The forms of a key. -/
inductive Form where
  /-- A key with the name of its algorithm. -/
  | named
  | rsa
  | curve
  deriving DecidableEq

/-- The form of a key, by how it begins: a sequence of a version and something else. The version of
an RSA key is 0, and that of a key on a curve is 1. -/
def form? (der : List UInt8) : Option Form :=
  match der with
  | tag :: length :: _ =>
    let skipped := if length < 0x80 then 2 else 2 + (length.toNat - 0x80)
    if tag = sequenceTag ∧ skipped ≤ der.length then
      match der.drop skipped with
      | [0x02, 0x01, 0x00] => some .rsa
      | [0x02, 0x01, 0x01] => some .curve
      | 0x02 :: 0x01 :: version :: next :: _ =>
        if next = sequenceTag then some .named
        else if version = 0 then some .rsa
        else if version = 1 then some .curve
        else none
      | _ => none
    else none
  | _ => none

/-! ## RSA -/

/-- The name of the algorithm. -/
def rsaAlgorithm : List UInt8 :=
  encode ⟨identifierTag, [0x2A, 0x86, 0x48, 0x86, 0xF7, 0x0D, 0x01, 0x01, 0x01]⟩ ++
    encode ⟨nullTag, []⟩

/-- The least and the greatest number of bits of a modulus. -/
def modulusBits : Nat × Nat := (2048, 8192)

/-- An RSA key: the modulus is the product of two factors, the exponents undo each other, and what
is kept to compute faster is right. -/
def rsa? (der : List UInt8) : Option PrivateKey := do
  let parts ← elements? (← only? sequenceTag der)
  let numbers ← parts.mapM fun e => if e.tag = integerTag then unsigned? e.content else none
  match numbers with
  | [0, n, e, d, p, q, dp, dq, inverse] =>
    let size := Nat.log2 n + 1
    if modulusBits.1 ≤ size ∧ size ≤ modulusBits.2 ∧ 1 < e ∧ e % 2 = 1 ∧ 1 < p ∧ 1 < q ∧
        p * q = n ∧ d * e % (p - 1) = 1 ∧ d * e % (q - 1) = 1 ∧ dp = d % (p - 1) ∧
        dq = d % (q - 1) ∧ inverse * q % p = 1 then
      some (.rsa n e)
    else none
  | _ => none

/-! ## Curves -/

/-- The name of the algorithm of keys on curves. -/
def curveAlgorithm : List UInt8 :=
  encode ⟨identifierTag, [0x2A, 0x86, 0x48, 0xCE, 0x3D, 0x02, 0x01]⟩

/-- The curves by their names. -/
def curves : List (List UInt8 × Curve) := [
  (encode ⟨identifierTag, [0x2A, 0x86, 0x48, 0xCE, 0x3D, 0x03, 0x01, 0x07]⟩, .p256),
  (encode ⟨identifierTag, [0x2B, 0x81, 0x04, 0x00, 0x22]⟩, .p384),
  (encode ⟨identifierTag, [0x2B, 0x81, 0x04, 0x00, 0x23]⟩, .p521)]

/-- A key on a curve: version 1, a number, perhaps the name of the curve, and the public point,
which has to be the multiple of the generator by the number. -/
def curve? (der : List UInt8) (name : List UInt8) (c : Curve) : Option PrivateKey := do
  let (version, s) ← expect? integerTag (← only? sequenceTag der)
  let (number, s) ← expect? octetStringTag s
  let (named, s) := optional (partTag 0) s
  let bits ← only? bitStringTag (← only? (partTag 1) s)
  match bits with
  | 0 :: 4 :: point =>
    let x := natural (point.take c.width)
    let y := natural (point.drop c.width)
    if version = [1] ∧ number.length = c.width ∧ named.getD name = name ∧
        point.length = 2 * c.width ∧ c.isMultiple (natural number) x y then
      some (.curve (curveAlgorithm ++ name) bits)
    else none
  | _ => none

/-- A key on one of the curves. -/
def anyCurve? (der : List UInt8) : Option PrivateKey :=
  curves.findSome? fun (name, c) => curve? der name c

/-! ## Named algorithms -/

/-- The name of the algorithm of keys on the Edwards curve. -/
def edwardsAlgorithm : List UInt8 :=
  encode ⟨identifierTag, [0x2B, 0x65, 0x70]⟩

/-- A key with the name of its algorithm. Attributes may follow it. -/
def named? (der : List UInt8) : Option PrivateKey := do
  let (version, s) ← expect? integerTag (← only? sequenceTag der)
  let (algorithm, s) ← expect? sequenceTag s
  let (key, s) ← expect? octetStringTag s
  let (_, s) := optional (partTag 0) s
  if algorithm = edwardsAlgorithm then
    let seed ← only? octetStringTag key
    if seed.length = 32 ∧ (version = [0] ∨ version = [1]) then some .edwards else none
  else if version ≠ [0] ∨ s ≠ [] then none
  else if algorithm = rsaAlgorithm then rsa? key
  else curves.findSome? fun (name, c) =>
    if algorithm = curveAlgorithm ++ name then curve? key name c else none

/-- Reads a key. -/
def ofDer (der : List UInt8) : Except KeyFault PrivateKey :=
  match form? der with
  | none => .error .unknownFormat
  | some form =>
    let key := match form with
      | .named => named? der
      | .rsa => rsa? der
      | .curve => anyCurve? der
    match key with
    | some key => .ok key
    | none => .error .unusable

/-- What a certificate says of the public key: the name of the algorithm and the key. It is not
computed for a key on the Edwards curve. -/
def publicInfo? : PrivateKey → Option (List UInt8)
  | .rsa modulus exponent =>
    let key := encode ⟨sequenceTag, encodeNatural modulus ++ encodeNatural exponent⟩
    some (encode ⟨sequenceTag, rsaAlgorithm⟩ ++ encode ⟨bitStringTag, 0 :: key⟩)
  | .curve algorithm point =>
    some (encode ⟨sequenceTag, algorithm⟩ ++ encode ⟨bitStringTag, point⟩)
  | .edwards => none

end PrivateKey

end FeedOperator
