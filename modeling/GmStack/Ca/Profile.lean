import GmStack.Crypto.DerEncode
import GmStack.Foundation.Wire

/-! `gm-ca/src/cert_profile.rs` and the extensions `gm-ca/src/cert.rs` makes from a profile. -/

namespace GmStack.Ca

open Foundation Crypto

def textBytes (text : String) : Bytes := text.toUTF8.toList

structure KeyUsageBits where
  digitalSignature : Bool := false
  nonRepudiation : Bool := false
  keyEncipherment : Bool := false
  dataEncipherment : Bool := false
  keyAgreement : Bool := false
  keyCertSign : Bool := false
  crlSign : Bool := false
  encipherOnly : Bool := false
  decipherOnly : Bool := false

namespace KeyUsageBits

def flags (usage : KeyUsageBits) : List Bool :=
  [usage.digitalSignature, usage.nonRepudiation, usage.keyEncipherment, usage.dataEncipherment,
    usage.keyAgreement, usage.keyCertSign, usage.crlSign, usage.encipherOnly, usage.decipherOnly]

def lastBit (usage : KeyUsageBits) : Option ℕ :=
  (usage.flags.zipIdx.filter Prod.fst).getLast?.map Prod.snd

def firstOctet (usage : KeyUsageBits) : UInt8 :=
  (usage.flags.take 8).zipIdx.foldl (fun octet flag ↦
    if flag.1 then octet ||| (0x80 >>> UInt8.ofNat flag.2) else octet) 0

def toDerBytes (usage : KeyUsageBits) : Bytes :=
  match usage.lastBit with
  | none => [0x00]
  | some last =>
    if last < 8 then [UInt8.ofNat (7 - last), usage.firstOctet]
    else [7, usage.firstOctet, if usage.decipherOnly then 0x80 else 0x00]

end KeyUsageBits

inductive ExtendedKeyUsage
  | serverAuth
  | clientAuth
  | codeSigning
  | emailProtection
  | timeStamping
  | ocspSigning

namespace ExtendedKeyUsage

def oidBytes (purpose : ExtendedKeyUsage) : Bytes :=
  [0x2B, 0x06, 0x01, 0x05, 0x05, 0x07, 0x03,
    match purpose with
    | .serverAuth => 0x01
    | .clientAuth => 0x02
    | .codeSigning => 0x03
    | .emailProtection => 0x04
    | .timeStamping => 0x08
    | .ocspSigning => 0x09]

def buildExtKeyUsageValue (purposes : List ExtendedKeyUsage) : Bytes :=
  derSequence (purposes.flatMap fun purpose ↦ encodeOid purpose.oidBytes)

end ExtendedKeyUsage

inductive IpAddr
  | v4 (octets : Octets 4)
  | v6 (octets : Octets 16)
  deriving DecidableEq

inductive GeneralName
  | dnsName (name : String)
  | ipAddress (address : IpAddr)
  | uniformResourceIdentifier (uri : String)
  | rfc822Name (mailbox : String)
  deriving DecidableEq

namespace GeneralName

def toDer : GeneralName → Bytes
  | .dnsName name => tlv 0x82 (textBytes name)
  | .ipAddress (.v4 octets) => 0x87 :: 4 :: octets.bytes
  | .ipAddress (.v6 octets) => 0x87 :: 16 :: octets.bytes
  | .uniformResourceIdentifier uri => tlv 0x86 (textBytes uri)
  | .rfc822Name mailbox => tlv 0x81 (textBytes mailbox)

def buildSanValue (sans : List GeneralName) : Bytes := derSequenceV [sans.flatMap toDer]

end GeneralName

structure CertProfile where
  keyUsage : KeyUsageBits
  extKeyUsage : List ExtendedKeyUsage
  isCa : Bool
  caPathLenConstraint : Option UInt8
  sans : List GeneralName
  includeSan : Bool
  includeAki : Bool
  includeBasicConstraints : Bool
  includeSki : Bool

def CertProfile.default : CertProfile where
  keyUsage := { digitalSignature := true, keyEncipherment := true }
  extKeyUsage := [.serverAuth, .clientAuth]
  isCa := false
  caPathLenConstraint := none
  sans := []
  includeSan := true
  includeAki := true
  includeBasicConstraints := true
  includeSki := true

def keyUsageOid : Bytes := [0x55, 0x1D, 0x0F]

def extKeyUsageOid : Bytes := [0x55, 0x1D, 0x25]

def subjectKeyIdOid : Bytes := [0x55, 0x1D, 0x0E]

def authorityKeyIdOid : Bytes := [0x55, 0x1D, 0x23]

def subjectAltNameOid : Bytes := [0x55, 0x1D, 0x11]

def basicConstraintsOid : Bytes := [0x55, 0x1D, 0x13]

def buildExtension (oid : Bytes) (critical : Bool) (value : Bytes) : Bytes :=
  derSequence (encodeOid oid ++ (if critical then derBool true else []) ++ derOctetString value)

def buildBasicConstraints (isCa : Bool) (pathLen : Option UInt8) : Bytes :=
  derSequenceV [derBool isCa ++
    match isCa, pathLen with
    | true, some n => derIntegerPositive [n]
    | _, _ => []]

def buildAuthorityKeyIdFromHash (keyId : Bytes) : Bytes :=
  derSequence (0xA0 :: UInt8.ofNat keyId.length :: keyId)

/-- An extension, by the data it is made of. -/
inductive CertExtension
  | basicConstraints (isCa : Bool) (pathLen : Option UInt8)
  | keyUsage (usage : KeyUsageBits)
  | extKeyUsage (purposes : List ExtendedKeyUsage)
  | subjectAltName (names : List GeneralName)
  | subjectKeyId (keyId : Bytes)
  | authorityKeyId (keyId : Bytes)

namespace CertExtension

def oid : CertExtension → Bytes
  | .basicConstraints .. => basicConstraintsOid
  | .keyUsage _ => keyUsageOid
  | .extKeyUsage _ => extKeyUsageOid
  | .subjectAltName _ => subjectAltNameOid
  | .subjectKeyId _ => subjectKeyIdOid
  | .authorityKeyId _ => authorityKeyIdOid

def critical : CertExtension → Bool
  | .basicConstraints isCa _ => isCa
  | .keyUsage _ => true
  | _ => false

def value : CertExtension → Bytes
  | .basicConstraints isCa pathLen => buildBasicConstraints isCa pathLen
  | .keyUsage usage => tlv 0x03 usage.toDerBytes
  | .extKeyUsage purposes => ExtendedKeyUsage.buildExtKeyUsageValue purposes
  | .subjectAltName names => GeneralName.buildSanValue names
  | .subjectKeyId keyId => derOctetString keyId
  | .authorityKeyId keyId => buildAuthorityKeyIdFromHash keyId

def toDer (extension : CertExtension) : Bytes :=
  buildExtension extension.oid extension.critical extension.value

lemma oid_eq_subjectAltName {extension : CertExtension} :
    extension.oid = subjectAltNameOid ↔ ∃ names, extension = .subjectAltName names := by
  cases extension with
  | subjectAltName names => exact ⟨fun _ ↦ ⟨names, rfl⟩, fun _ ↦ rfl⟩
  | _ =>
    simp [oid, subjectAltNameOid, basicConstraintsOid, keyUsageOid, extKeyUsageOid, subjectKeyIdOid,
      authorityKeyIdOid]

end CertExtension

def buildExtensions (subjectKeyId caKeyId : Bytes) (sans : List GeneralName)
    (profile : CertProfile) : List CertExtension :=
  (if profile.includeBasicConstraints then [.basicConstraints profile.isCa
    profile.caPathLenConstraint]
    else []) ++
  (if profile.keyUsage.flags.any id then [.keyUsage profile.keyUsage] else []) ++
  (if profile.extKeyUsage ≠ [] then [.extKeyUsage profile.extKeyUsage] else []) ++
  (if profile.includeSan ∧ sans ≠ [] then [.subjectAltName sans] else []) ++
  (if profile.includeSki then [.subjectKeyId subjectKeyId] else []) ++
  (if profile.includeAki then [.authorityKeyId caKeyId] else [])

def sanEntries : List CertExtension → List GeneralName
  | [] => []
  | .subjectAltName names :: _ => names
  | _ :: rest => sanEntries rest

lemma sanEntries_buildExtensions (subjectKeyId caKeyId : Bytes) (sans : List GeneralName)
    {profile : CertProfile} (hinclude : profile.includeSan = true) :
    sanEntries (buildExtensions subjectKeyId caKeyId sans profile) = sans := by
  unfold buildExtensions
  rw [hinclude]
  by_cases hsans : sans = []
  · subst hsans
    split_ifs <;> rfl
  · simp only [ne_eq, hsans, not_false_eq_true, and_self, if_true]
    split_ifs <;> rfl

end GmStack.Ca
