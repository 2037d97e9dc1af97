import GmStack.Crypto.Sm2Signature

/-! The data `gm-crypto/src/x509/verify.rs` works on. The crates `x509-parser` and `idna` are
parameters. -/

namespace GmStack.X509

open Foundation Crypto

/-- An object identifier, by its arcs. -/
abbrev Oid := List ℕ

def Oid.display (oid : Oid) : String := ".".intercalate (oid.map toString)

/-- The KeyUsage bits, bit zero first. -/
structure KeyUsage where
  flags : ℕ

namespace KeyUsage

def digitalSignature (usage : KeyUsage) : Bool := usage.flags.testBit 0

def keyEncipherment (usage : KeyUsage) : Bool := usage.flags.testBit 2

def keyAgreement (usage : KeyUsage) : Bool := usage.flags.testBit 4

def keyCertSign (usage : KeyUsage) : Bool := usage.flags.testBit 5

def display (usage : KeyUsage) : String :=
  let digits := Nat.toDigits 2 usage.flags
  String.ofList (List.replicate (9 - digits.length) '0' ++ digits)

end KeyUsage

/-- The purposes of an ExtendedKeyUsage extension that the source reads, with the library's debug
rendering of the whole extension. -/
structure ExtendedKeyUsage where
  any : Bool
  serverAuth : Bool
  clientAuth : Bool
  debug : String

structure BasicConstraints where
  ca : Bool
  pathLenConstraint : Option ℕ

inductive GeneralName
  | dnsName (name : String)
  | uri (uri : String)
  | other
  deriving DecidableEq

/-- What the library makes of an extension's value. `other` covers the kinds the source does not
read, extensions the library does not know and values it fails to parse. -/
inductive ParsedExtension
  | basicConstraints (constraints : BasicConstraints)
  | keyUsage (usage : KeyUsage)
  | extendedKeyUsage (usage : ExtendedKeyUsage)
  | subjectAlternativeName (names : List GeneralName)
  | other

structure X509Extension where
  oid : Oid
  critical : Bool
  parsed : ParsedExtension

/-- A distinguished name: its DER and its common names in order, `none` where one is not a string
the library can show. -/
structure X509Name where
  raw : Bytes
  commonNames : List (Option String)
  deriving DecidableEq

/-- A point in time, in nanoseconds. -/
abbrev Instant := ℤ

/-- The part of a parsed certificate that the source reads. -/
structure X509Certificate where
  tbsCertificate : Bytes
  serial : ℕ
  issuer : X509Name
  subject : X509Name
  notBefore : Instant
  notAfter : Instant
  subjectPublicKey : Bytes
  unusedBits : ℕ := 0
  extensions : List X509Extension
  signatureValue : Bytes

/-- The part of a parsed revocation list that the source reads. -/
structure CertificateRevocationList where
  issuer : X509Name
  lastUpdate : Instant
  nextUpdate : Option Instant
  revokedSerials : List Bytes
  signatureValue : Bytes

/-- The calls into `x509-parser` and `idna`. -/
structure X509Library where
  certificateFromDer : Bytes → Except String X509Certificate
  crlFromDer : Bytes → Except String CertificateRevocationList
  pemRead : Bytes → Except String Bytes
  pemIterFromBuffer : Bytes → List (Except String Bytes)
  domainToAscii : String → Option String

/-- A parsed certificate stands in its input as a SEQUENCE whose first element is the
TBSCertificate. -/
structure X509Library.Faithful (library : X509Library) : Prop where
  tbsCertificate_first : ∀ der certificate, library.certificateFromDer der = .ok certificate →
    ∃ tbsContent rest trailing, IsElement 0x30 tbsContent certificate.tbsCertificate ∧
        ∃ outer, IsElement 0x30 (certificate.tbsCertificate ++ rest) outer ∧ der = outer ++ trailing

end GmStack.X509
