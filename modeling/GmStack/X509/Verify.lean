import GmStack.Foundation.Text
import GmStack.X509.Certificate

/-! `gm-crypto/src/x509/verify.rs`, function by function. A certificate is parsed again at each use,
as in the source. -/

namespace GmStack.X509

open Foundation Crypto

def oidBasicConstraints : Oid := [2, 5, 29, 19]

def oidKeyUsage : Oid := [2, 5, 29, 15]

def oidExtendedKeyUsage : Oid := [2, 5, 29, 37]

def oidSubjectAltName : Oid := [2, 5, 29, 17]

def knownX509Extensions : List Oid :=
  [oidBasicConstraints, oidKeyUsage, oidExtendedKeyUsage, oidSubjectAltName, [2, 5, 29, 18],
    [2, 5, 29, 14], [2, 5, 29, 35], [2, 5, 29, 31], [2, 5, 29, 20], [2, 5, 29, 27], [2, 5, 29, 28],
    [2, 5, 29, 46], [2, 5, 29, 54], [2, 5, 29, 30], [2, 5, 29, 32], [2, 5, 29, 36], [2, 5, 29, 33],
    [1, 2, 156, 11235, 1, 1, 1], [1, 2, 156, 11235, 1, 1, 2]]

def checkUnknownCriticalExtensions (cert : X509Certificate) : Except CryptoError Unit :=
  cert.extensions.forM fun ext ↦
    rejectIf (ext.critical = true ∧ ext.oid ∉ knownX509Extensions)
      (.certificateVerificationFailed ("certificate carries unrecognized critical extension OID " ++
        ext.oid.display ++ " (RFC 5280 §4.2: applications MUST reject)"))

/-- How a certificate is used. -/
inductive CertRole
  | tlcServer
  | tlcClient
  | tlcEncServer
  | tlcEncClient
  | ca
  deriving DecidableEq

def X509Certificate.findExtension (cert : X509Certificate) (oid : Oid) : Option X509Extension :=
  cert.extensions.find? fun ext ↦ ext.oid == oid

def X509Certificate.keyUsage (cert : X509Certificate) : Option KeyUsage :=
  match cert.findExtension oidKeyUsage with
  | some { parsed := .keyUsage usage, .. } => some usage
  | _ => none

def X509Certificate.extendedKeyUsage (cert : X509Certificate) : Option ExtendedKeyUsage :=
  match cert.findExtension oidExtendedKeyUsage with
  | some { parsed := .extendedKeyUsage usage, .. } => some usage
  | _ => none

def requireKeyUsage (usage : Option KeyUsage) (allowed : KeyUsage → Bool) (message : String) :
    Except CryptoError Unit :=
  match usage with
  | none => .ok ()
  | some ku => rejectIf (allowed ku = false)
      (.certificateVerificationFailed (message ++ " (got KU flags = 0b" ++ ku.display ++ ")"))

def requireExtendedKeyUsage (usage : Option ExtendedKeyUsage) (allowed : ExtendedKeyUsage → Bool)
    (purpose : String) : Except CryptoError Unit :=
  match usage with
  | none => .ok ()
  | some eku => rejectIf (allowed eku = false)
      (.certificateVerificationFailed ("sign cert is missing required ExtendedKeyUsage " ++
        purpose ++
        " (got EKU = " ++ eku.debug ++ ")"))

def verifyCertRole (cert : X509Certificate) (role : CertRole) : Except CryptoError Unit :=
  let ku := cert.keyUsage
  let eku := cert.extendedKeyUsage
  let signing := "sign cert is missing required KeyUsage digitalSignature"
  let agreement := "enc cert KeyUsage must include keyAgreement or keyEncipherment"
  match role with
  | .tlcServer => do
    requireKeyUsage ku (·.digitalSignature) signing
    requireExtendedKeyUsage eku (fun usage ↦ usage.serverAuth || usage.any) "serverAuth"
  | .tlcClient => do
    requireKeyUsage ku (·.digitalSignature) signing
    requireExtendedKeyUsage eku (fun usage ↦ usage.clientAuth || usage.any) "clientAuth"
  | .tlcEncServer | .tlcEncClient =>
    requireKeyUsage ku (fun usage ↦ usage.keyAgreement || usage.keyEncipherment) agreement
  | .ca => requireKeyUsage ku (·.keyCertSign) "CA cert is missing required KeyUsage keyCertSign"

def eqIgnoreAsciiCase (first second : List Char) : Bool :=
  first.map Char.toLower == second.map Char.toLower

def hostnameMatches (sanEntry expectedDomain : String) : Bool :=
  if eqIgnoreAsciiCase sanEntry.toList expectedDomain.toList then true
  else
    match splitOnce '.' sanEntry.toList with
    | none => false
    | some (sanLeftmost, sanRest) =>
      if sanLeftmost ≠ ['*'] then false
      else
        match splitOnce '.' expectedDomain.toList with
        | none => false
        | some (expFirst, expRest) =>
          if expFirst = [] then false else eqIgnoreAsciiCase expRest sanRest

section Library

variable (x509 : X509Library)

def normalizeDomain (domain : String) : String :=
  match x509.domainToAscii domain with
  | some ascii => ascii
  | none => "\x00idna-rejected"

def X509Certificate.subjectAlternativeName (cert : X509Certificate) : List GeneralName :=
  match cert.extensions.filter fun ext ↦ ext.oid == oidSubjectAltName with
  | [{ parsed := .subjectAlternativeName names, .. }] => names
  | _ => []

def domainMatches (cert : X509Certificate) (domain : String) : Bool :=
  (cert.subjectAlternativeName.any fun name ↦
    match name with
    | .dnsName dns => hostnameMatches dns domain
    | _ => false) ||
  match cert.subject.commonNames with
  | some cn :: _ => hostnameMatches cn domain
  | _ => false

def validateCertParsed (cert : X509Certificate) (now : Instant) (expectedDomain : Option String) :
    Except CryptoError Unit := do
  rejectIf (now < cert.notBefore ∨ now > cert.notAfter)
    (.certificateVerificationFailed "certificate has expired or is not yet valid")
  match expectedDomain with
  | none => .ok ()
  | some domain =>
    rejectIf (domainMatches cert (normalizeDomain x509 domain) = false)
      (.certificateVerificationFailed "domain name mismatch")

/-- An owned DER certificate. -/
structure OwnedCert where
  der : Bytes
  deriving DecidableEq

def OwnedCert.asX509 (cert : OwnedCert) : Except CryptoError X509Certificate :=
  (x509.certificateFromDer cert.der).mapError fun e ↦
    .certificateVerificationFailed ("X509 parse failed: " ++ e)

def validateHostnameOnly (leafDer : Bytes) (expectedDomain : String) (now : Instant) :
    Except CryptoError Unit := do
  let cert ← OwnedCert.asX509 x509 ⟨leafDer⟩
  checkUnknownCriticalExtensions cert
  validateCertParsed x509 cert now (some expectedDomain)

end Library

def byteAt (der : Bytes) (index : ℕ) : Except CryptoError UInt8 :=
  match der[index]? with
  | some octet => .ok octet
  | none => .error (.panicked "index out of bounds")

def foldLengthOctets (der : Bytes) (pos count : ℕ) : Except CryptoError ℕ :=
  (List.range count).foldlM (fun len i ↦ do
    let octet ← byteAt der (pos + i)
    .ok ((len <<< 8 ||| octet.toNat) % 2 ^ 64)) 0

def readLengthField (unsupported : CryptoError) (der : Bytes) (pos : ℕ) :
    Except CryptoError (ℕ × ℕ) := do
  let first ← byteAt der pos
  if first < 0x80 then
    .ok (first.toNat, pos + 1)
  else
    let numLenBytes := (first &&& 0x7F).toNat
    rejectIf (numLenBytes = 0 ∨ numLenBytes > 4) unsupported
    let len ← foldLengthOctets der (pos + 1) numLenBytes
    .ok (len, pos + 1 + numLenBytes)

def extractTbsBytes (der : Bytes) : Except CryptoError Bytes := do
  rejectIf (der.length < 11) (.certificateVerificationFailed "certificate DER too short")
  rejectIf ((← byteAt der 0) ≠ 0x30)
    (.certificateVerificationFailed "invalid certificate structure: expected SEQUENCE")
  let (_, pos) ← readLengthField (.certificateVerificationFailed "unsupported DER length encoding")
    der 1
  rejectIf ((← byteAt der pos) ≠ 0x30)
    (.certificateVerificationFailed "invalid TBS structure: expected SEQUENCE")
  let (tbsContentLen, tbsPos) ← readLengthField
    (.certificateVerificationFailed "unsupported TBS length encoding") der (pos + 1)
  let tbsEnd := tbsPos + tbsContentLen
  rejectIf (tbsEnd > der.length)
    (.certificateVerificationFailed "TBS length exceeds certificate bounds")
  .ok ((der.take tbsEnd).drop pos)

def gmTlsDistid : String := "1234567812345678"

/-- `DistidPolicy`; the audit callback of the permissive policy has no effect on the result. -/
inductive DistidPolicy
  | strict
  | permissive (fallbackDistids : List String)

/-- The texts in which the certificate and the revocation list signature checks differ. -/
structure SignatureTexts where
  error : String → CryptoError
  derSignature : String
  tooShort : ℕ → String
  subject : String
  kind : String

def certificateTexts : SignatureTexts where
  error := .certificateVerificationFailed
  derSignature := "failed to parse DER SM2 signature: "
  tooShort := fun len ↦ "SM2 signature too short: " ++ toString len ++
    " bytes (expected 64 raw or DER-encoded)"
  subject := "SM2 verification"
  kind := "SM2"

def crlTexts : SignatureTexts where
  error := .crlVerificationFailed
  derSignature := "failed to parse DER SM2 CRL signature: "
  tooShort := fun len ↦ "SM2 CRL signature too short: " ++ toString len ++ " bytes"
  subject := "SM2 CRL verification"
  kind := "CRL SM2"

section Signature

variable (sm2 : Sm2Library)

def verifyWithDistidFallbacks (texts : SignatureTexts) (publicKey tbsBytes sigRaw : Bytes)
    (total : ℕ) : List String → Except CryptoError Unit
  | [] =>
    .error (texts.error (texts.kind ++ " verification failed under permissive distid policy: " ++
      "tried GM/T standard distid and " ++ toString total ++ " fallback distid(s)"))
  | distid :: rest => do
    let verifier ← (Sm2Verifier.new sm2 publicKey distid).mapError fun e ↦
      texts.error ("failed to create fallback " ++ texts.kind ++ " verifier (distid len = " ++
        toString distid.utf8ByteSize ++ "): " ++ e.display)
    match verifier.verify sm2 tbsBytes sigRaw with
    | .ok () => .ok ()
    | .error _ => verifyWithDistidFallbacks texts publicKey tbsBytes sigRaw total rest

def sm2PubKey (texts : SignatureTexts) (cert : X509Certificate) : Except CryptoError Bytes :=
  let bytes := cert.subjectPublicKey
  if bytes.length = 33 ∧ (bytes.head? = some 0x02 ∨ bytes.head? = some 0x03) then
    (decompressSm2Pubkey sm2 bytes).mapError fun e ↦
      texts.error ("failed to decompress SM2 public key: " ++ e.display)
  else .ok bytes

def sigRaw (texts : SignatureTexts) (sigBytes : Bytes) : Except CryptoError Bytes :=
  if sigBytes.length = 64 then .ok sigBytes
  else if sigBytes.length > 64 then
    (sm2SignatureDerToRaw sigBytes).mapError fun e ↦
      texts.error (texts.derSignature ++ e.display)
  else .error (texts.error (texts.tooShort sigBytes.length))

def verifySm2Signature (texts : SignatureTexts) (tbsBytes : Bytes) (caCert : X509Certificate)
    (sigBytes : Bytes) (policy : DistidPolicy) : Except CryptoError Unit := do
  let publicKey ← sm2PubKey sm2 texts caCert
  let raw ← sigRaw texts sigBytes
  let verifier ← (Sm2Verifier.new sm2 publicKey gmTlsDistid).mapError fun e ↦
    texts.error ("failed to create SM2 verifier: " ++ e.display)
  match verifier.verify sm2 tbsBytes raw with
  | .ok () => .ok ()
  | .error primaryErr =>
    match policy with
    | .strict => .error (texts.error (texts.subject ++ " failed under strict distid policy (" ++
        primaryErr.display ++ "); no fallback to weaker distid will be attempted"))
    | .permissive fallbackDistids =>
      verifyWithDistidFallbacks sm2 texts publicKey tbsBytes raw fallbackDistids.length
        fallbackDistids

def verifyCertSignatureWithDistid (leafCert caCert : X509Certificate) (leafDer : Bytes)
    (policy : DistidPolicy) : Except CryptoError Unit := do
  let tbsBytes ← extractTbsBytes leafDer
  verifySm2Signature sm2 certificateTexts tbsBytes caCert leafCert.signatureValue policy

end Signature

def maxCertChainDepth : ℕ := 10

variable (x509 : X509Library) (sm2 : Sm2Library)

def verifyCertChainSm2WithDistid (leaf ca : OwnedCert) (now : Instant)
    (expectedDomain : Option String) (policy : DistidPolicy) : Except CryptoError Unit := do
  let leafCert ← leaf.asX509 x509
  let caCert ← ca.asX509 x509
  validateCertParsed x509 leafCert now expectedDomain
  validateCertParsed x509 caCert now none
  rejectIf (leafCert.issuer ≠ caCert.subject)
    (.certificateVerificationFailed "certificate issuer does not match CA")
  verifyCertSignatureWithDistid sm2 leafCert caCert leaf.der policy

def verifyOptionalRole (cert : X509Certificate) : Option CertRole → Except CryptoError Unit
  | none => .ok ()
  | some role => verifyCertRole cert role

def checkBasicConstraints (idx : ℕ) (cert : X509Certificate) : Except CryptoError Unit :=
  match cert.findExtension oidBasicConstraints with
  | none =>
    .error (.certificateVerificationFailed "CA certificate missing BasicConstraints extension")
  | some ext =>
    match ext.parsed with
    | .basicConstraints bc => do
      rejectIf (bc.ca = false)
        (.certificateVerificationFailed "CA certificate missing BasicConstraints CA:TRUE")
      match bc.pathLenConstraint with
      | none => .ok ()
      | some maxPathlen =>
        rejectIf (idx - 1 > maxPathlen)
          (.certificateVerificationFailed ("CA certificate pathLenConstraint = " ++
            toString maxPathlen ++ " but " ++ toString (idx - 1) ++
            " non-leaf intermediate(s) follow it in the chain"))
    | _ => .ok ()

def searchAnchors (link : OwnedCert → Except CryptoError Unit)
    (roleCheck : Except CryptoError Unit) :
    Option CryptoError → List OwnedCert → Except CryptoError (Option CryptoError)
  | lastErr, [] => .ok lastErr
  | _, anchor :: rest =>
    match link anchor with
    | .ok () => do
      roleCheck
      .ok none
    | .error e => searchAnchors link roleCheck (some e) rest

def verifyChainElement (leafChain trustAnchors : List OwnedCert) (now : Instant)
    (expectedDomain : Option String) (role : Option CertRole) (policy : DistidPolicy)
    (idx : Fin leafChain.length) : Except CryptoError Unit := do
  let childOwned := leafChain[idx]
  let domain := if idx.val = 0 then expectedDomain else none
  checkUnknownCriticalExtensions (← childOwned.asX509 x509)
  if hnext : idx.val + 1 < leafChain.length then
    verifyCertChainSm2WithDistid x509 sm2 childOwned leafChain[idx.val + 1] now domain policy
    let childCert ← childOwned.asX509 x509
    verifyOptionalRole childCert (if idx.val = 0 then role else some .ca)
    if 1 ≤ idx.val then checkBasicConstraints idx childCert else .ok ()
  else
    let thisRole := if leafChain.length = 1 then role else some .ca
    let lastErr ← searchAnchors (fun anchor ↦
      verifyCertChainSm2WithDistid x509 sm2 childOwned anchor now domain policy)
      (do verifyOptionalRole (← childOwned.asX509 x509) thisRole) none trustAnchors
    match lastErr with
    | none => .ok ()
    | some e => .error e

def verifyCertChainSm2ChainWithDistidPolicy (leafChain trustAnchors : List OwnedCert)
    (now : Instant) (expectedDomain : Option String) (role : Option CertRole)
    (policy : DistidPolicy) : Except CryptoError Unit := do
  rejectIf (leafChain = [] ∨ trustAnchors = [])
    (.certificateVerificationFailed "certificate chain or trust anchor is empty")
  rejectIf (leafChain.length > maxCertChainDepth)
    (.certificateVerificationFailed ("certificate chain too deep: " ++ toString leafChain.length ++
      " (max " ++ toString maxCertChainDepth ++ ")"))
  (List.finRange leafChain.length).forM (verifyChainElement x509 sm2 leafChain trustAnchors now
    expectedDomain role policy)

def verifyAgainstAnchorsWithDistidPolicy (leafChainDer anchorsDer : List Bytes) (now : Instant)
    (expectedDomain : Option String) (role : Option CertRole) (policy : DistidPolicy) :
    Except CryptoError Unit :=
  verifyCertChainSm2ChainWithDistidPolicy x509 sm2 (leafChainDer.map OwnedCert.mk)
    (anchorsDer.map OwnedCert.mk) now expectedDomain role policy

def verifyAgainstAnchors (leafChainDer anchorsDer : List Bytes) (now : Instant)
    (expectedDomain : Option String) (role : Option CertRole) : Except CryptoError Unit :=
  verifyAgainstAnchorsWithDistidPolicy x509 sm2 leafChainDer anchorsDer now
    expectedDomain role .strict

end GmStack.X509
