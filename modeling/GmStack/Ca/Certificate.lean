import GmStack.Ca.Profile
import GmStack.Crypto.Sm2Encryption
import GmStack.Foundation.Hex
import GmStack.Foundation.Text
import GmStack.X509.Certificate

/-! `gm-ca/src/cert.rs`, and `parse_cert_pem` of `gm-crypto/src/x509/mod.rs`. Requests, PEM framing
and the parsing of certificates belong to other crates (`CaLibrary`). -/

namespace GmStack.Ca

open Foundation Crypto List

inductive CaError
  | invalidArgument (message : String)
  | invalidCsr (message : String)
  | signingFailed (message : String)
  | certificateNotFound (message : String)
  | invalidCertificate (message : String)
  | databaseError (message : String)
  | internalError (message : String)
  deriving DecidableEq

def CaError.display : CaError → String
  | .invalidArgument message => "invalid argument: " ++ message
  | .invalidCsr message => "invalid CSR: " ++ message
  | .signingFailed message => "certificate signing failed: " ++ message
  | .certificateNotFound message => "certificate not found: " ++ message
  | .invalidCertificate message => "invalid certificate: " ++ message
  | .databaseError message => "database error: " ++ message
  | .internalError message => "internal error: " ++ message

/-- A point in time, in nanoseconds since the epoch. -/
abbrev Instant := X509.Instant

def secondsLong (seconds : ℤ) : Instant := seconds * 1000000000

def wholeSeconds (time : Instant) : ℤ := time / 1000000000

/-- A point in time in the calendar. -/
structure CivilTime where
  year : ℤ
  month : ℕ
  day : ℕ
  hour : ℕ
  minute : ℕ
  second : ℕ

/-- The part of a parsed certification request that the source reads. -/
structure CertificationRequest where
  info : Bytes
  subjectRaw : Bytes
  subjectText : String
  algorithm : Bytes
  subjectPublicKey : Bytes
  signatureValue : Bytes

/-- The part of a parsed certificate that `parse_cert_pem` reads. -/
structure ParsedCertificate where
  subjectRaw : Bytes
  subjectPublicKey : Bytes
  notAfter : Instant
  rawSerial : Bytes
  extensions : List (Bytes × Bytes)

/-- The calls into `pem`, `x509-parser`, `time` and `serde_json`. -/
structure CaLibrary where
  pemParse : Bytes → Option (String × Bytes)
  pemEncode : String → Bytes → String
  csrFromDer : Bytes → Except String CertificationRequest
  parseX509Pem : String → Except String Bytes
  certificateFromDer : Bytes → Except String ParsedCertificate
  generalNamesFromDer : Bytes → Except String (List X509.GeneralName)
  civilTime : ℤ → CivilTime
  profileFromJson : String → Except String CertProfile

def trimStartMatchesCn : List Char → List Char
  | 'C' :: 'N' :: '=' :: rest => trimStartMatchesCn rest
  | text => text

section Requests

variable (library : CaLibrary)

def decodeCsr (csrInput : Bytes) : Except CaError Bytes :=
  match library.pemParse csrInput with
  | some ("CERTIFICATE REQUEST", contents) => .ok contents
  | _ =>
    match library.csrFromDer csrInput with
    | .ok _ => .ok csrInput
    | .error _ => .error (.invalidCsr "Invalid CSR format: expected PEM or DER")

def parseCsr (csrInput : Bytes) : Except CaError CertificationRequest := do
  let csrDer ← decodeCsr library csrInput
  (library.csrFromDer csrDer).mapError fun e ↦ .invalidCsr ("CSR parse failed: " ++ e)

def subjectCn (request : CertificationRequest) : String :=
  let trimmed := trim request.subjectText.toList
  if trimmed ≠ [] ∧ trimmed ≠ "(empty)".toList then
    let cn := trim (trimStartMatchesCn (trimmed.takeWhile (· ≠ ',')))
    if cn ≠ [] then String.ofList cn else String.ofList trimmed
  else "csr_" ++ hexEncode request.subjectRaw

def extractCsrSubjectCn (csrInput : Bytes) : Except CaError String := do
  let request ← parseCsr library csrInput
  .ok (subjectCn request)

end Requests

/-! ### Certificates and revocation lists -/

def sm2SigOid : Bytes := [0x2A, 0x81, 0x1C, 0xCF, 0x55, 0x01, 0x83, 0x75]

def sm2PkOid : Bytes := [0x2A, 0x81, 0x1C, 0xCF, 0x55, 0x01, 0x82, 0x2D]

def ecPublicKeyOid : Bytes := [0x2A, 0x86, 0x48, 0xCE, 0x3D, 0x02, 0x01]

def cnOid : Bytes := [0x55, 0x04, 0x03]

def crlNumOid : Bytes := [0x2A, 0x81, 0x1C, 0xCF, 0x55, 0x01, 0x6A]

def gmTlsDefaultId : String := "1234567812345678"

def notBeforeClockSkewTolerance : ℤ := 300

def nowUtcForX509 (now : Instant) : Instant := now - secondsLong notBeforeClockSkewTolerance

def sm2SpkiAlgId : Bytes := derSequence (encodeOid ecPublicKeyOid ++ encodeOid sm2PkOid)

def sm2SigAlgId : Bytes := derSequence (encodeOid sm2SigOid ++ [0x05, 0x00])

def derName (cn : Bytes) : Bytes :=
  derSequence (derSet [derSequence (encodeOid cnOid ++ derUtf8String cn)])

def padded (width n : ℕ) : String :=
  let digits := Nat.toDigits 10 n
  String.ofList (List.replicate (width - digits.length) '0' ++ digits)

def encodeTime (time : CivilTime) : Bytes :=
  let rest := padded 2 time.month ++ padded 2 time.day ++ padded 2 time.hour ++
    padded 2 time.minute ++
    padded 2 time.second ++ "Z"
  if 1950 ≤ time.year ∧ time.year < 2050 then
    tlv 0x17 (textBytes (padded 2 ((time.year - 2000) % 256).toNat ++ rest))
  else
    tlv 0x18 (textBytes (padded 4 time.year.toNat ++ rest))

def utctime (library : CaLibrary) (time : Instant) :
    Bytes := encodeTime (library.civilTime (wholeSeconds time))

/-- A serial number: twenty octets with a clear top bit. -/
structure SerialNumber where
  octets : Bytes
  length_octets : octets.length = 20
  positive : octets.headD 0 < 0x80

lemma and_lt_topBit (octet : UInt8) : octet &&& 0x7F < 0x80 := by
  exact Nat.lt_of_le_of_lt Nat.and_le_right (by decide)

def SerialNumber.ofRandom (random : Octets 20) : SerialNumber where
  octets := random.bytes.modifyHead (· &&& 0x7F)
  length_octets := by rw [length_modifyHead, random.length_bytes]
  positive := by
    cases random.bytes with
    | nil => decide
    | cons first rest => exact and_lt_topBit first

@[simp] lemma SerialNumber.positiveContent_octets (serial : SerialNumber) :
    positiveContent serial.octets = serial.octets := by
  have hpos := serial.positive
  cases hoct : serial.octets with
  | nil => rfl
  | cons first rest =>
    rw [hoct, headD_cons] at hpos
    exact if_neg (UInt8.not_le.mpr hpos)

/-- What `build_tbs_certificate` is given. -/
structure TbsCertificate where
  serial : SerialNumber
  notBefore : Instant
  notAfter : Instant
  issuerCn : String
  subjectDer : Bytes
  publicKey : Bytes
  extensions : Option (List CertExtension)

def TbsCertificate.extensionList (tbs : TbsCertificate) : List CertExtension :=
    tbs.extensions.getD []

def TbsCertificate.sans (tbs : TbsCertificate) : List GeneralName := sanEntries tbs.extensionList

/-- A certificate: what is signed, and the signature in DER. -/
structure SignedCertificate where
  tbs : TbsCertificate
  signature : Bytes

/-- A revoked certificate in a revocation list. -/
structure RevokedCertificate where
  serial : Bytes
  revocationDate : Instant

/-- What `generate_crl` encodes. -/
structure TbsCrl where
  issuerCn : String
  thisUpdate : Instant
  nextUpdate : Instant
  revoked : List RevokedCertificate
  crlNumber : ℕ

structure SignedCrl where
  tbs : TbsCrl
  signature : Bytes

section Encodings

variable (library : CaLibrary)

def TbsCertificate.toDer (tbs : TbsCertificate) : Bytes :=
  derSequenceV ([derExplicitContext 0 (derIntegerPositive [0x02]),
    derIntegerPositive tbs.serial.octets, sm2SigAlgId,
    derName (textBytes tbs.issuerCn),
      derSequence (utctime library tbs.notBefore ++ utctime library tbs.notAfter),
    tbs.subjectDer, derSequence (sm2SpkiAlgId ++ derBitString tbs.publicKey)] ++
    match tbs.extensions with
    | some extensions => [derExplicitContext 3 (derSequenceV (extensions.map CertExtension.toDer))]
    | none => [])

def SignedCertificate.der (certificate : SignedCertificate) : Bytes :=
  derSequence (certificate.tbs.toDer library ++ sm2SigAlgId ++ derBitString certificate.signature)

def SignedCertificate.pem (certificate : SignedCertificate) : String :=
  library.pemEncode "CERTIFICATE" (certificate.der library)

def RevokedCertificate.toDer (revoked : RevokedCertificate) : Bytes :=
  derSequence (derIntegerPositive revoked.serial ++ utctime library revoked.revocationDate)

def TbsCrl.toDer (tbs : TbsCrl) : Bytes :=
  derSequence (derIntegerPositive [1] ++ sm2SigAlgId ++ derName (textBytes tbs.issuerCn) ++
    utctime library tbs.thisUpdate ++ utctime library tbs.nextUpdate ++
    (if tbs.revoked = [] then [] else derSequence
      (tbs.revoked.flatMap (RevokedCertificate.toDer library))) ++
    derExplicitContext 0 (derSequence
      (buildExtension crlNumOid false (derIntegerPositive (beOctets 8 tbs.crlNumber)))))

def SignedCrl.der (crl : SignedCrl) : Bytes :=
  derSequence (crl.tbs.toDer library ++ sm2SigAlgId ++ derBitString crl.signature)

end Encodings

structure CertInfo where
  subjectDer : Bytes
  spkiBytes : Bytes
  notAfter : Instant
  sanDnsName : Option String
  serialHex : Option String

def firstDnsName : List X509.GeneralName → Option String
  | [] => none
  | .dnsName name :: _ => some name
  | _ :: rest => firstDnsName rest

def GeneralName.parsed : GeneralName → X509.GeneralName
  | .dnsName name => .dnsName name
  | .uniformResourceIdentifier uri => .uri uri
  | .ipAddress _ => .other
  | .rfc822Name _ => .other

section Reading

variable (library : CaLibrary)

def sanDnsName (extensions : List (Bytes × Bytes)) : Option String :=
  (extensions.find? (·.1 == subjectAltNameOid)).bind fun extension ↦
    match library.generalNamesFromDer extension.2 with
    | .ok names => firstDnsName names
    | .error _ => none

def parseCertPem (certPem : String) : Except CryptoError CertInfo := do
  let contents ← (library.parseX509Pem certPem).mapError fun e ↦
    .sm2Error ("PEM parse failed: " ++ e)
  let certificate ← (library.certificateFromDer contents).mapError
    fun e ↦ .sm2Error ("certificate parse failed: " ++ e)
  .ok
    { subjectDer := certificate.subjectRaw
      spkiBytes := certificate.subjectPublicKey
      notAfter := certificate.notAfter
      sanDnsName := sanDnsName library certificate.extensions
      serialHex := some (hexEncode certificate.rawSerial) }

/-- The libraries decode what was encoded, for one certificate. Encoded times are whole seconds. -/
structure CaLibrary.Decodes (certificate : SignedCertificate) : Prop where
  pem : library.parseX509Pem (certificate.pem library) = .ok (certificate.der library)
  fields : library.certificateFromDer (certificate.der library) = .ok
    { subjectRaw := certificate.tbs.subjectDer
      subjectPublicKey := certificate.tbs.publicKey
      notAfter := secondsLong (wholeSeconds certificate.tbs.notAfter)
      rawSerial := certificate.tbs.serial.octets
      extensions := certificate.tbs.extensionList.map fun extension ↦
        (extension.oid, extension.value) }
  names : ∀ names, .subjectAltName names ∈ certificate.tbs.extensionList →
    library.generalNamesFromDer (GeneralName.buildSanValue names) =
    .ok (names.map GeneralName.parsed)

def firstDnsEntry (sans : List GeneralName) : Option String :=
    firstDnsName (sans.map GeneralName.parsed)

lemma sanDnsName_extensions {extensions : List CertExtension}
    (hnames : ∀ names, .subjectAltName names ∈ extensions →
      library.generalNamesFromDer (GeneralName.buildSanValue names) =
      .ok (names.map GeneralName.parsed)) :
    sanDnsName library (extensions.map fun extension ↦ (extension.oid, extension.value)) =
      firstDnsEntry (sanEntries extensions) := by
  induction extensions with
  | nil => rfl
  | cons extension rest ih =>
    have hrest := ih fun names hmem ↦ hnames names (mem_cons_of_mem _ hmem)
    by_cases hsan : ∃ names, extension = .subjectAltName names
    · obtain ⟨names, rfl⟩ := hsan
      have hval := hnames names mem_cons_self
      have hfind : ((CertExtension.subjectAltName names :: rest).map
          fun extension ↦ (extension.oid, extension.value)).find? (·.1 == subjectAltNameOid) =
            some (subjectAltNameOid, GeneralName.buildSanValue names) :=
        find?_cons_of_pos (beq_self_eq_true subjectAltNameOid)
      rw [sanDnsName, hfind, Option.bind_some, hval]
      rfl
    have hoid : ¬ extension.oid = subjectAltNameOid :=
      mt CertExtension.oid_eq_subjectAltName.mp hsan
    have hentries : sanEntries (extension :: rest) = sanEntries rest := by
      cases extension with
      | subjectAltName names => exact absurd ⟨names, rfl⟩ hsan
      | _ => rfl
    rw [hentries, ← hrest]
    unfold sanDnsName
    rw [map_cons, find?_cons_of_neg (by simpa using hoid)]

lemma parseCertPem_of_decodes {certificate : SignedCertificate}
    (hdec : library.Decodes certificate) :
    parseCertPem library (certificate.pem library) = .ok
      { subjectDer := certificate.tbs.subjectDer
        spkiBytes := certificate.tbs.publicKey
        notAfter := secondsLong (wholeSeconds certificate.tbs.notAfter)
        sanDnsName := firstDnsEntry certificate.tbs.sans
        serialHex := some (hexEncode certificate.tbs.serial.octets) } := by
  rw [parseCertPem, hdec.pem, mapError_ok, ok_bind, hdec.fields, mapError_ok, ok_bind,
    sanDnsName_extensions library hdec.names]
  rfl

end Reading

/-! ### The signer -/

/-- `CaSigner`; the encoded public key is determined by the key pair. -/
structure CaSigner (F : Type) where
  keyPair : Sm2KeyPair F
  caSubjectCn : String

/-- `CrlEntry`; the reason is read from the table and not encoded. -/
structure CrlEntry where
  serialNumber : String
  revokedAt : Instant
  reason : ℤ

section Signer

variable {F P : Type} [CommRing F] [AddCommGroup P] [Module F P]
  (sm2 : Sm2Curve F P) (sm3 : Sm3Library) (library : CaLibrary)

def sm3KeyId (pubkeyBytes : Bytes) : Bytes := (sm3.hash pubkeyBytes).take 20

namespace CaSigner

variable (signer : CaSigner F)

def signDer (failure : String) (tbsDer : Bytes) : Except CaError Bytes := do
  let keySigner ← (Sm2Signer.newWithDistid sm2 signer.keyPair gmTlsDefaultId).mapError
    fun e ↦ CaError.signingFailed ("failed to create signer: " ++ e.display)
  let signature ← (keySigner.sign sm2 tbsDer).mapError fun e ↦
    CaError.signingFailed (failure ++ e.display)
  .ok (sm2SignatureRawToDer signature)

def certificateExtensions (publicKey : Bytes) (sans : List GeneralName) (profile : CertProfile) :
    Option (List CertExtension) :=
  if sans = [] ∧ ¬ profile.includeBasicConstraints then none
  else some (buildExtensions (sm3KeyId sm3 publicKey)
    (sm3KeyId sm3 (signer.keyPair.publicKeyBytesUncompressed sm2)) sans profile)

def tbsCertificate (now : Instant) (random : Octets 20) (validitySeconds : ℤ)
    (subjectDer publicKey : Bytes)
    (sans : List GeneralName) (profile : CertProfile) : TbsCertificate where
  serial := .ofRandom random
  notBefore := nowUtcForX509 now
  notAfter := nowUtcForX509 now + secondsLong validitySeconds
  issuerCn := signer.caSubjectCn
  subjectDer := subjectDer
  publicKey := publicKey
  extensions := signer.certificateExtensions sm2 sm3 publicKey sans profile

def issue (now : Instant) (random : Octets 20) (validitySeconds : ℤ) (subjectDer publicKey : Bytes)
    (sans : List GeneralName) (profile : CertProfile) : Except CaError SignedCertificate := do
  let tbs := signer.tbsCertificate sm2 sm3 now random validitySeconds subjectDer
    publicKey sans profile
  let signature ← signer.signDer sm2 "signing failed: " (tbs.toDer library)
  .ok { tbs, signature }

def checkSeconds (validitySeconds : ℤ) : Except CaError Unit :=
  rejectIf (¬ (1 ≤ validitySeconds ∧ validitySeconds ≤ 31536000))
    (.invalidArgument ("validity_seconds must be 1-31536000 (1s-365d), got " ++
    toString validitySeconds))

def checkDays (validityDays : ℤ) : Except CaError Unit :=
  rejectIf (validityDays ≤ 0 ∨ validityDays > 3650)
    (.invalidArgument ("validity_days must be 1-3650, got " ++ toString validityDays))

def checkCsr (request : CertificationRequest) : Except CaError Unit := do
  rejectIf (request.algorithm ≠ sm2PkOid)
    (.invalidCsr "CSR public key must use SM2 algorithm OID (1.2.156.10197.1.301)")
  let publicKey ← (decompressSm2Pubkey sm2.toSm2Library request.subjectPublicKey).mapError
    fun e ↦ CaError.invalidCsr ("invalid CSR public key format: " ++ e.display)
  let verifier ← (Sm2Verifier.new sm2.toSm2Library publicKey gmTlsDefaultId).mapError
    fun e ↦ CaError.invalidCsr ("failed to create SM2 verifier: " ++ e.display)
  (verifier.verify sm2.toSm2Library request.info request.signatureValue).mapError
    fun e ↦ CaError.invalidCsr ("CSR signature verification failed: " ++ e.display)

def csrSans (csrInput : Bytes) (profile : CertProfile) : List GeneralName :=
  if profile.sans ≠ [] then profile.sans
  else
    match extractCsrSubjectCn library csrInput with
    | .ok cn => if cn = "" then [] else [.dnsName cn]
    | .error _ => []

def signCsrWithProfileAndSeconds (now : Instant) (random : Octets 20) (csrInput : Bytes)
    (validitySeconds : ℤ) (profile : CertProfile) : Except CaError SignedCertificate := do
  checkSeconds validitySeconds
  let request ← parseCsr library csrInput
  checkCsr sm2 request
  signer.issue sm2 sm3 library now random validitySeconds request.subjectRaw
    request.subjectPublicKey
    (csrSans library csrInput profile) profile

def signCsrWithProfile (now : Instant) (random : Octets 20) (csrInput : Bytes) (validityDays : ℤ)
    (profile : CertProfile) : Except CaError SignedCertificate := do
  checkDays validityDays
  signer.signCsrWithProfileAndSeconds sm2 sm3 library now random csrInput
    (validityDays * 86400) profile

def renewedSans (info : CertInfo) (profile : CertProfile) : List GeneralName :=
  if profile.sans ≠ [] then profile.sans else info.sanDnsName.toList.map .dnsName

def renewCertificateWithProfileAndSeconds (now : Instant) (random : Octets 20)
    (existingCertPem : String)
    (validitySeconds : ℤ) (profile : CertProfile) : Except CaError SignedCertificate := do
  checkSeconds validitySeconds
  let info ← (parseCertPem library existingCertPem).mapError
    fun e ↦ CaError.invalidCertificate ("certificate parse failed: " ++ e.display)
  rejectIf (now > info.notAfter) (.invalidCertificate "cannot renew an expired certificate")
  signer.issue sm2 sm3 library now random validitySeconds info.subjectDer info.spkiBytes
    (renewedSans info profile) profile

def renewCertificateWithProfile (now : Instant) (random : Octets 20) (existingCertPem : String)
    (validityDays : ℤ) (profile : CertProfile) : Except CaError SignedCertificate := do
  checkDays validityDays
  signer.renewCertificateWithProfileAndSeconds sm2 sm3 library now random existingCertPem
    (validityDays * 86400) profile

def revokedCertificates : List CrlEntry → Except CaError (List RevokedCertificate)
  | [] => .ok []
  | entry :: rest => do
    let serial ← (hexDecode entry.serialNumber).mapError
      fun e ↦ CaError.internalError ("invalid serial number: " ++ e)
    let revoked ← revokedCertificates rest
    .ok ({ serial, revocationDate := entry.revokedAt } :: revoked)

def generateCrl (now : Instant) (revokedSerials : List CrlEntry) (crlNumber : ℕ) :
    Except CaError SignedCrl := do
  let revoked ← revokedCertificates revokedSerials
  let tbs : TbsCrl :=
    { issuerCn := signer.caSubjectCn
      thisUpdate := now
      nextUpdate := now + secondsLong (7 * 86400)
      revoked
      crlNumber }
  let signature ← signer.signDer sm2 "CRLsigning failed: " (tbs.toDer library)
  .ok { tbs, signature }

variable {sm2 sm3 library signer}

variable (sm2 signer) in
/-- The CA key signs: `sm2` makes a signing key of it, and what it signs passes the check after
signing. -/
structure Signs : Prop where
  key : sm2.signingKeyNew gmTlsDefaultId signer.keyPair.privateKey = .ok ()
  checked : ∀ data, sm2.verify (sm2.encode (signer.keyPair.privateKey • sm2.generator))
    gmTlsDefaultId data
    (sm2.sign signer.keyPair.privateKey gmTlsDefaultId data) = .ok ()

lemma exists_signDer (hsigns : signer.Signs sm2) (failure : String) (tbsDer : Bytes) :
    ∃ signature, signer.signDer sm2 failure tbsDer = .ok signature := by
  have hsign : (⟨signer.keyPair.privateKey, gmTlsDefaultId⟩ : Sm2Signer F).sign sm2 tbsDer =
      .ok (sm2.sign signer.keyPair.privateKey gmTlsDefaultId tbsDer) :=
    (Sm2Signer.sign_eq_ok sm2).mpr ⟨hsigns.checked tbsDer, rfl⟩
  refine ⟨sm2SignatureRawToDer (sm2.sign signer.keyPair.privateKey gmTlsDefaultId tbsDer), ?_⟩
  rw [signDer, Sm2Signer.newWithDistid, hsigns.key, mapError_ok, ok_bind, mapError_ok, ok_bind,
    hsign, mapError_ok, ok_bind]

variable (sm3 library) in
lemma exists_issue (hsigns : signer.Signs sm2) (now : Instant) (random : Octets 20)
    (validitySeconds : ℤ)
    (subjectDer publicKey : Bytes) (sans : List GeneralName) (profile : CertProfile) :
    ∃ certificate, signer.issue sm2 sm3 library now random validitySeconds subjectDer
    publicKey sans profile =
      .ok certificate := by
  obtain ⟨signature, hsig⟩ := exists_signDer hsigns "signing failed: "
    ((signer.tbsCertificate sm2 sm3 now random validitySeconds subjectDer publicKey sans
    profile).toDer library)
  refine ⟨⟨signer.tbsCertificate sm2 sm3 now random validitySeconds subjectDer publicKey sans
    profile, signature⟩, ?_⟩
  rw [issue, hsig, ok_bind]

variable {now : Instant} {profile : CertProfile} {validitySeconds : ℤ} {random : Octets 20}

lemma tbs_of_issue {subjectDer publicKey : Bytes} {sans : List GeneralName}
    {certificate : SignedCertificate}
    (hissue : signer.issue sm2 sm3 library now random validitySeconds subjectDer publicKey sans
    profile = .ok certificate) :
    certificate.tbs = signer.tbsCertificate sm2 sm3 now random validitySeconds subjectDer publicKey
    sans profile := by
  obtain ⟨signature, _, hcert⟩ := bind_eq_ok.mp hissue
  rw [← Except.ok.inj hcert]

lemma sans_tbsCertificate (now : Instant) (random : Octets 20) (validitySeconds : ℤ)
    (subjectDer publicKey : Bytes) (sans : List GeneralName)
    (hinclude : profile.includeSan = true) :
    (signer.tbsCertificate sm2 sm3 now random validitySeconds subjectDer publicKey sans
    profile).sans = sans := by
  unfold TbsCertificate.sans TbsCertificate.extensionList tbsCertificate certificateExtensions
  split_ifs with hnone
  · rw [hnone.1]
    rfl
  · exact sanEntries_buildExtensions _ _ sans hinclude

lemma tbs_of_sign {csrInput : Bytes} {certificate : SignedCertificate}
    (hsign : signer.signCsrWithProfileAndSeconds sm2 sm3 library now random csrInput
    validitySeconds profile =
      .ok certificate) :
    (1 ≤ validitySeconds ∧ validitySeconds ≤ 31536000) ∧ ∃ request, parseCsr library csrInput =
    .ok request ∧
      certificate.tbs = signer.tbsCertificate sm2 sm3 now random validitySeconds request.subjectRaw
        request.subjectPublicKey (csrSans library csrInput profile) profile := by
  unfold signCsrWithProfileAndSeconds checkSeconds at hsign
  rw [unit_bind_eq_ok, rejectIf_eq_ok, not_not, bind_eq_ok] at hsign
  obtain ⟨hrange, request, hparse, hrest⟩ := hsign
  exact ⟨hrange, request, hparse, tbs_of_issue (unit_bind_eq_ok.mp hrest).2⟩

lemma renewCertificateWithProfileAndSeconds_eq_ok {existingCertPem : String}
    {renewed : SignedCertificate}
    (hrenew : signer.renewCertificateWithProfileAndSeconds sm2 sm3 library now
    random existingCertPem
      validitySeconds profile = .ok renewed) :
    (1 ≤ validitySeconds ∧ validitySeconds ≤ 31536000) ∧
      ∃ info, parseCertPem library existingCertPem = .ok info ∧ now ≤ info.notAfter ∧
        renewed.tbs = signer.tbsCertificate sm2 sm3 now random validitySeconds info.subjectDer
          info.spkiBytes (renewedSans info profile) profile := by
  unfold renewCertificateWithProfileAndSeconds checkSeconds at hrenew
  rw [unit_bind_eq_ok, rejectIf_eq_ok, not_not, bind_eq_ok] at hrenew
  obtain ⟨hrange, info, hinfo, hrest⟩ := hrenew
  rw [unit_bind_eq_ok, rejectIf_eq_ok, not_lt] at hrest
  exact ⟨hrange, info, mapError_eq_ok.mp hinfo, hrest.1, tbs_of_issue hrest.2⟩

lemma exists_renewCertificateWithProfileAndSeconds (hsigns : signer.Signs sm2)
    {existing : SignedCertificate} (hdec : library.Decodes existing)
    (hunexpired : now ≤ secondsLong (wholeSeconds existing.tbs.notAfter)) (random : Octets 20)
    (hrange : 1 ≤ validitySeconds ∧ validitySeconds ≤ 31536000) (profile : CertProfile) :
    ∃ renewed, signer.renewCertificateWithProfileAndSeconds sm2 sm3 library now random
    (existing.pem library)
      validitySeconds profile = .ok renewed := by
  obtain ⟨renewed, hissue⟩ := exists_issue sm3 library hsigns now random validitySeconds
    existing.tbs.subjectDer existing.tbs.publicKey
    (renewedSans ⟨existing.tbs.subjectDer, existing.tbs.publicKey,
      secondsLong (wholeSeconds existing.tbs.notAfter), firstDnsEntry existing.tbs.sans,
      some (hexEncode existing.tbs.serial.octets)⟩ profile) profile
  refine ⟨renewed, ?_⟩
  rw [renewCertificateWithProfileAndSeconds, checkSeconds, rejectIf_bind (not_not.mpr hrange),
    parseCertPem_of_decodes library hdec, mapError_ok, ok_bind,
    rejectIf_bind (not_lt.mpr hunexpired), hissue]

end CaSigner

/-- The renewed certificate is about the same subject, key and names. -/
structure SameIdentity (existing renewed : SignedCertificate) : Prop where
  subjectDer : renewed.tbs.subjectDer = existing.tbs.subjectDer
  publicKey : renewed.tbs.publicKey = existing.tbs.publicKey
  sans : renewed.tbs.sans = existing.tbs.sans

lemma map_dnsName_firstDnsEntry_eq_iff (sans : List GeneralName) :
    (firstDnsEntry sans).toList.map GeneralName.dnsName = sans ↔ sans = [] ∨ ∃ name,
    sans = [.dnsName name] := by
  constructor
  · intro hsame
    cases hfirst : firstDnsEntry sans with
    | none => exact .inl (by rw [← hsame, hfirst]; rfl)
    | some name => exact .inr ⟨name, by rw [← hsame, hfirst]; rfl⟩
  · rintro (rfl | ⟨name, rfl⟩) <;> rfl

variable {sm2 sm3 library}

/-- Renewal keeps the subject, the key and the names exactly when the existing certificate has no
name, or a dNSName and no other. -/
theorem renewal_keeps_identity_iff {signer : CaSigner F} {existing renewed : SignedCertificate}
    (hdecodes : library.Decodes existing) {profile : CertProfile} (hsans : profile.sans = [])
    (hinclude : profile.includeSan = true) {now : Instant} {random : Octets 20}
    {validitySeconds : ℤ}
    (hrenew : signer.renewCertificateWithProfileAndSeconds sm2 sm3 library now random
    (existing.pem library)
      validitySeconds profile = .ok renewed) :
    SameIdentity existing renewed ↔ existing.tbs.sans = [] ∨ ∃ name, existing.tbs.sans =
    [.dnsName name] := by
  obtain ⟨_, info, hinfo, _, htbs⟩ := CaSigner.renewCertificateWithProfileAndSeconds_eq_ok hrenew
  rw [parseCertPem_of_decodes library hdecodes] at hinfo
  obtain rfl := Except.ok.inj hinfo
  have hnames : renewed.tbs.sans = (firstDnsEntry existing.tbs.sans).toList.map .dnsName := by
    rw [htbs, CaSigner.sans_tbsCertificate now random validitySeconds _ _ _ hinclude,
      CaSigner.renewedSans,
      if_neg (not_not.mpr hsans)]
  rw [← map_dnsName_firstDnsEntry_eq_iff, ← hnames]
  constructor
  · intro hsame
    exact hsame.sans
  · intro hsame
    exact ⟨by rw [htbs]; rfl, by rw [htbs]; rfl, hsame⟩

end Signer

/-! A curve, a CA and a library to issue with. -/

def sampleCurve : Sm2Curve (ZMod 3) (ZMod 3) := { tinyCurve.toSm2Curve with uncompress := some }

def sampleSigner : CaSigner (ZMod 3) := ⟨⟨-1, gmTlsDefaultId⟩, "GM CA"⟩

lemma sampleSigner_signs : sampleSigner.Signs sampleCurve := ⟨rfl, fun _ ↦ rfl⟩

def sampleRequest : CertificationRequest where
  info := []
  subjectRaw := [0x30, 0x00]
  subjectText := "CN=a.test"
  algorithm := sm2PkOid
  subjectPublicKey := 0x04 :: List.replicate 64 1
  signatureValue := List.replicate 64 1

def requestLibrary : CaLibrary where
  pemParse := fun _ ↦ none
  pemEncode := fun _ _ ↦ "certificate"
  csrFromDer := fun _ ↦ .ok sampleRequest
  parseX509Pem := fun _ ↦ .error "no certificate"
  certificateFromDer := fun _ ↦ .error "no certificate"
  generalNamesFromDer := fun _ ↦ .error "no names"
  civilTime := fun _ ↦ ⟨2026, 1, 1, 0, 0, 0⟩
  profileFromJson := fun _ ↦ .error "no profile"

def sampleCertificate (sans : List GeneralName) : SignedCertificate where
  tbs := sampleSigner.tbsCertificate sampleCurve tinySm3 0 (.fill 20 7)
    1000 sampleRequest.subjectRaw
    sampleRequest.subjectPublicKey sans { CertProfile.default with sans }
  signature := sm2SignatureRawToDer (sampleCurve.sign (-1) gmTlsDefaultId [])

def sampleLibrary (certificate : SignedCertificate) : CaLibrary :=
  { requestLibrary with
    parseX509Pem := fun _ ↦ .ok (certificate.der requestLibrary)
    certificateFromDer := fun _ ↦ .ok
      { subjectRaw := certificate.tbs.subjectDer
        subjectPublicKey := certificate.tbs.publicKey
        notAfter := secondsLong (wholeSeconds certificate.tbs.notAfter)
        rawSerial := certificate.tbs.serial.octets
        extensions := certificate.tbs.extensionList.map fun extension ↦
          (extension.oid, extension.value) }
    generalNamesFromDer := fun _ ↦ .ok (certificate.tbs.sans.map GeneralName.parsed) }

lemma sampleLibrary_decodes (sans : List GeneralName) :
    (sampleLibrary (sampleCertificate sans)).Decodes (sampleCertificate sans) where
  pem := rfl
  fields := rfl
  names := by
    intro names hmem
    have hnames : names = (sampleCertificate sans).tbs.sans := by
      rw [sampleCertificate, CaSigner.sans_tbsCertificate 0 _ 1000 _ _ sans rfl]
      unfold sampleCertificate CaSigner.tbsCertificate CaSigner.certificateExtensions
        buildExtensions at hmem
      simp [TbsCertificate.extensionList, CertProfile.default, KeyUsageBits.flags] at hmem
      exact hmem.2
    rw [hnames]
    rfl

lemma signCsr_sample (name : GeneralName) (others : List GeneralName) :
    sampleSigner.signCsrWithProfileAndSeconds sampleCurve tinySm3
      (sampleLibrary (sampleCertificate (name :: others))) 0 (.fill 20 7) [] 1000
        { CertProfile.default with sans := name :: others } =
      .ok (sampleCertificate (name :: others)) := rfl

def renewSample (sans : List GeneralName) : Except CaError SignedCertificate :=
  sampleSigner.renewCertificateWithProfileAndSeconds sampleCurve tinySm3
    (sampleLibrary (sampleCertificate sans)) 0 (.fill 20 9)
      ((sampleCertificate sans).pem (sampleLibrary (sampleCertificate sans))) 3600 .default

lemma exists_renewSample (sans : List GeneralName) : ∃ renewed, renewSample sans = .ok renewed :=
  CaSigner.exists_renewCertificateWithProfileAndSeconds sampleSigner_signs
    (sampleLibrary_decodes sans)
    (show (0 : ℤ) ≤ secondsLong (wholeSeconds (nowUtcForX509 0 + secondsLong 1000)) by decide) _
      (by decide) _

/-- A certificate for one host name keeps its identity. -/
theorem single_dnsName_kept : ∃ renewed, renewSample [.dnsName "a.test"] = .ok renewed ∧
      SameIdentity (sampleCertificate [.dnsName "a.test"]) renewed := by
  obtain ⟨renewed, hrenew⟩ := exists_renewSample [.dnsName "a.test"]
  have hsans : (sampleCertificate [.dnsName "a.test"]).tbs.sans = [.dnsName "a.test"] :=
    CaSigner.sans_tbsCertificate 0 _ 1000 _ _ _ rfl
  exact ⟨renewed, hrenew,
    (renewal_keeps_identity_iff (sampleLibrary_decodes _) rfl rfl hrenew).mpr
    (.inr ⟨"a.test", hsans⟩)⟩

/-- A certificate the CA issued for a SPIFFE identity and a host name: renewal drops the identity.
-/
theorem spiffe_id_dropped : sampleSigner.signCsrWithProfileAndSeconds sampleCurve tinySm3
        (sampleLibrary (sampleCertificate [.uniformResourceIdentifier "spiffe://gm/a",
        .dnsName "a.test"])) 0
        (.fill 20 7) [] 1000
        { CertProfile.default with sans := [.uniformResourceIdentifier "spiffe://gm/a",
        .dnsName "a.test"] } =
      .ok (sampleCertificate [.uniformResourceIdentifier "spiffe://gm/a", .dnsName "a.test"]) ∧
    (sampleCertificate [.uniformResourceIdentifier "spiffe://gm/a", .dnsName "a.test"]).tbs.sans =
      [.uniformResourceIdentifier "spiffe://gm/a", .dnsName "a.test"] ∧
    ∃ renewed, renewSample [.uniformResourceIdentifier "spiffe://gm/a", .dnsName "a.test"] =
      .ok renewed ∧
      renewed.tbs.sans = [.dnsName "a.test"] := by
  refine ⟨signCsr_sample _ _, CaSigner.sans_tbsCertificate 0 _ 1000 _ _ _ rfl, ?_⟩
  obtain ⟨renewed, hrenew⟩ :=
    exists_renewSample [.uniformResourceIdentifier "spiffe://gm/a", .dnsName "a.test"]
  obtain ⟨_, info, hinfo, _, htbs⟩ := CaSigner.renewCertificateWithProfileAndSeconds_eq_ok hrenew
  rw [parseCertPem_of_decodes _ (sampleLibrary_decodes _)] at hinfo
  obtain rfl := Except.ok.inj hinfo
  refine ⟨renewed, hrenew, ?_⟩
  rw [htbs]
  exact CaSigner.sans_tbsCertificate 0 _ 3600 _ _ _ rfl

end GmStack.Ca
