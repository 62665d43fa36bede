import FeedOperator.Files
import FeedOperator.Tls.Certificate
import FeedOperator.Tls.Pem
import FeedOperator.Tls.PrivateKey

/-!
# The identity of a server

A server shows certificates, the first of which is its own, and proves with its private key that it
is its own.

Read by `run_webhook_server` when it loads `tls.crt` and `tls.key`.

* `Identity.check`: makes sure that a file of certificates and a file with a key make an identity.
  All certificates have to be readable; a section in the file of the key that cannot be read is
  passed over. There has to be one key, and its public key has to be the one of the first
  certificate.
* `LoadFault`, `loadFault?`: what is wrong with the two files in a directory.
-/

namespace FeedOperator

/-- Why a server cannot be given an identity. -/
inductive IdentityFault where
  | certificates (fault : PemFault)
  /-- There is no key, or more than one. -/
  | notOneKey
  | key (fault : KeyFault)
  | noCertificate
  | certificate (fault : CertificateFault)
  /-- The certificate is one of another key. -/
  | mismatch
  deriving DecidableEq

/-- The fault in words. -/
def IdentityFault.message : IdentityFault → String
  | .certificates fault => fault.message
  | .notOneKey => "private key format not supported"
  | .key fault => fault.message
  | .noCertificate => "peer sent no certificates"
  | .certificate fault => fault.message
  | .mismatch => "keys may not be consistent: KeyMismatch"

namespace Identity

/-- The certificates in a file. -/
def certificates (file : List UInt8) : Except PemFault (List (List UInt8)) := do
  let sections ← (Pem.read file).mapM id
  return (sections.filter (·.kind = .certificate)).map (·.content)

/-- The keys in a file. -/
def keys (file : List UInt8) : List (List UInt8) :=
  ((Pem.read file).filterMap (·.toOption)).filterMap fun s =>
    if s.kind.isPrivateKey then some s.content else none

/-- The key in a file. -/
def key (file : List UInt8) : Except IdentityFault PrivateKey :=
  match keys file with
  | [der] => (PrivateKey.ofDer der).mapError .key
  | _ => .error .notOneKey

/-- Makes sure that two files make an identity. -/
def check (certificateFile keyFile : List UInt8) : Except IdentityFault Unit := do
  let chain ← (certificates certificateFile).mapError .certificates
  let key ← key keyFile
  match chain with
  | [] => throw .noCertificate
  | own :: _ =>
    let own ← (Certificate.ofDer own).mapError .certificate
    if key.publicInfo?.any (· ≠ own.publicInfo) then throw .mismatch

end Identity

/-- Why an identity cannot be loaded. -/
inductive LoadFault where
  | unreadable (path : String) (fault : FileFault)
  | unusable (fault : IdentityFault)
  deriving DecidableEq

/-- The fault in words. -/
def LoadFault.message : LoadFault → String
  | .unreadable path fault =>
    "failed to read from file \x60" ++ path ++ "\x60: " ++ fault.message
  | .unusable fault => fault.message

/-- Reads the octets of a file. -/
def readOctets (d : Directory) (path : String) : Except LoadFault (List UInt8) :=
  match d.read path with
  | .ok content => .ok (Text.Utf8.encode content.toList)
  | .error fault => .error (.unreadable path fault)

/-- Loads the identity in a directory: both files are read before one is looked into. -/
def Identity.load (d : Directory) (directory : String) : Except LoadFault Unit := do
  let certificates ← readOctets d (pathIn directory "tls.crt")
  let key ← readOctets d (pathIn directory "tls.key")
  (Identity.check certificates key).mapError .unusable

/-- What is wrong with the identity in a directory. -/
def loadFault? (d : Directory) (directory : String) : Option LoadFault :=
  match Identity.load d directory with
  | .ok () => none
  | .error fault => some fault

end FeedOperator
