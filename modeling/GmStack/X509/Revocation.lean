import GmStack.X509.PathValidation

/-! The revocation check of `gm-crypto/src/x509/verify.rs`. Entries are compared by the octets of
the INTEGER, certificates by the shortest form. -/

namespace GmStack.X509

open Foundation Crypto List

def extractTbsCrlBytes (der : Bytes) : Except CryptoError Bytes := do
  rejectIf (der.length < 11) (.crlVerificationFailed "CRL DER too short")
  rejectIf ((← byteAt der 0) ≠ 0x30) (.crlVerificationFailed "invalid CRL: expected SEQUENCE")
  let firstLenByte ← byteAt der 1
  let tbsStart := if firstLenByte < 0x80 then 2 else 2 + (firstLenByte &&& 0x7F).toNat
  rejectIf ((← byteAt der tbsStart) ≠ 0x30)
    (.crlVerificationFailed "invalid TBSCertList: expected SEQUENCE")
  let tbsLenByte ← byteAt der (tbsStart + 1)
  let numLenBytes := if tbsLenByte < 0x80 then 0 else (tbsLenByte &&& 0x7F).toNat
  let tbsContentStart := tbsStart + 2 + numLenBytes
  let tbsLen ←
    if tbsLenByte < 0x80 then .ok tbsLenByte.toNat
    else foldLengthOctets der (tbsStart + 2) numLenBytes
  let tbsEnd := (tbsContentStart + tbsLen) % 2 ^ 64
  rejectIf (tbsEnd > der.length) (.crlVerificationFailed "TBSCertList extends past end of DER")
  rejectIf (tbsEnd < tbsStart) (.panicked "slice index starts after it ends")
  .ok ((der.take tbsEnd).drop tbsStart)

def bitstringContentAt (der : Bytes) (pos : ℕ) : Except CryptoError (Option Bytes) :=
  if der[pos]? = some 0x03 ∧ pos + 1 < der.length then do
    let lenByte ← byteAt der (pos + 1)
    let n := if lenByte < 0x80 then 0 else (lenByte &&& 0x7F).toNat
    if pos + 2 + n > der.length then
      .ok none
    else
      let sigLen ←
        if lenByte < 0x80 then .ok lenByte.toNat else foldLengthOctets der (pos + 2) n
      let dataStart := pos + 2 + n
      if 1 ≤ sigLen ∧ dataStart < der.length then
        if dataStart + sigLen ≥ 2 ^ 64 then
          .error (.panicked "slice index starts after it ends")
        else if dataStart + sigLen ≤ der.length then
          .ok (some ((der.take (dataStart + sigLen)).drop (dataStart + 1)))
        else .ok none
      else .ok none
  else .ok none

def findBitstringInOuter (der target : Bytes) : List ℕ → Except CryptoError (Option Bytes)
  | [] => .ok none
  | pos :: rest => do
    if (← bitstringContentAt der pos) = some target then .ok (some target)
    else findBitstringInOuter der target rest

variable (x509 : X509Library) (sm2 : Sm2Library)

/-- A revocation list, kept as DER. -/
structure CrlInfo where
  der : Bytes

def parseCrl (der : Bytes) : Except CryptoError CertificateRevocationList :=
  (x509.crlFromDer der).mapError fun e ↦ .crlVerificationFailed ("CRL parse failed: " ++ e)

def CrlInfo.fromDer (der : Bytes) : Except CryptoError CrlInfo := do
  let _ ← parseCrl x509 der
  .ok { der }

def CrlInfo.fromPem (pemBytes : Bytes) : Except CryptoError CrlInfo := do
  let der ← (x509.pemRead pemBytes).mapError fun e ↦
    .crlVerificationFailed ("CRL PEM parse failed: " ++ e)
  CrlInfo.fromDer x509 der

def CrlInfo.isCertRevoked (crl : CrlInfo) (serialBytes : Bytes) : Bool :=
  match parseCrl x509 crl.der with
  | .ok parsed => parsed.revokedSerials.any (· == serialBytes)
  | .error _ => false

def CrlInfo.issuerDer (crl : CrlInfo) : Except CryptoError Bytes := do
  let parsed ← parseCrl x509 crl.der
  .ok parsed.issuer.raw

def CrlInfo.isValid (crl : CrlInfo) (now : Instant) : Bool :=
  match parseCrl x509 crl.der with
  | .error _ => false
  | .ok parsed =>
    if now < parsed.lastUpdate then false
    else
      match parsed.nextUpdate with
      | none => true
      | some nextTime => if now > nextTime then false else true

def extractCrlSignature (der : Bytes) : Except CryptoError Bytes := do
  let parsed ← parseCrl x509 der
  match ← findBitstringInOuter der parsed.signatureValue (List.range der.length) with
  | some content => .ok content
  | none =>
    .error (.crlVerificationFailed "CRL signature BIT STRING data not found in outer DER")

def verifyCrlSignatureWithDistid (crl : CrlInfo) (caCert : X509Certificate)
    (policy : DistidPolicy) :
    Except CryptoError Unit := do
  let tbsBytes ← extractTbsCrlBytes crl.der
  let _ ← sm2PubKey sm2 crlTexts caCert
  let sigBytes ← extractCrlSignature x509 crl.der
  verifySm2Signature sm2 crlTexts tbsBytes caCert sigBytes policy

def verifyCrl (certSerial : Bytes) (issuer : X509Name) (caCert : X509Certificate) (crl : CrlInfo)
    (now : Instant) : Except CryptoError Unit := do
  let crlIssuerDer ← crl.issuerDer x509
  rejectIf (crlIssuerDer ≠ issuer.raw)
    (.crlVerificationFailed "CRL issuer does not match certificate issuer")
  verifyCrlSignatureWithDistid x509 sm2 crl caCert .strict
  rejectIf (crl.isValid x509 now = false) (.crlVerificationFailed "CRL has expired")
  rejectIf (crl.isCertRevoked x509 certSerial = true)
    (.crlVerificationFailed "certificate has been revoked")

def verifyCertCrl (cert caCert : X509Certificate) (crlPem : Bytes) (now : Instant) :
    Except CryptoError Unit := do
  let crl ← CrlInfo.fromPem x509 crlPem
  verifyCrl x509 sm2 (minimalOctets cert.serial) cert.issuer caCert crl now

inductive CrlVerifyPolicy
  | strict
  | permissive

def CrlVerifyPolicy.onError : CrlVerifyPolicy → CryptoError → Except CryptoError Unit
  | .strict, e => .error e
  | .permissive, _ => .ok ()

def findCrlIssuer (chain : List OwnedCert) (crlIssuerDer : Bytes) : Option X509Certificate :=
  chain.findSome? fun owned ↦
    match owned.asX509 x509 with
    | .ok parsed => if parsed.subject.raw = crlIssuerDer then some parsed else none
    | .error _ => none

def hexEncode (bytes : Bytes) : String :=
  String.ofList (bytes.flatMap fun octet ↦
    [Nat.digitChar (octet.toNat / 16), Nat.digitChar (octet.toNat % 16)])

def checkRevoked (crl : CrlInfo) (crlIssuerDer : Bytes) (policy : CrlVerifyPolicy)
    (owned : OwnedCert) : Except CryptoError Unit :=
  match owned.asX509 x509 with
  | .error e => policy.onError e
  | .ok cert =>
    if cert.issuer.raw ≠ crlIssuerDer then .ok ()
    else
      let serial := minimalOctets cert.serial
      rejectIf (crl.isCertRevoked x509 serial = true) (.crlVerificationFailed
        ("certificate serial 0x" ++ hexEncode serial ++ " has been revoked per CRL"))

def checkCrl (chain : List OwnedCert) (now : Instant) (policy : CrlVerifyPolicy) (crlDer : Bytes) :
    Except CryptoError Unit :=
  match CrlInfo.fromDer x509 crlDer with
  | .error e => policy.onError e
  | .ok crl =>
    match crl.issuerDer x509 with
    | .error e => policy.onError e
    | .ok crlIssuerDer =>
      match findCrlIssuer x509 chain crlIssuerDer with
      | none => policy.onError (.crlVerificationFailed
          ("no CA in chain matches CRL issuer (CRL bytes len = " ++ toString crlDer.length ++ ")"))
      | some caCert => do
        verifyCrlSignatureWithDistid x509 sm2 crl caCert .strict
        rejectIf (crl.isValid x509 now = false) (.crlVerificationFailed
          "CRL has expired (nextUpdate < now) or not yet valid (lastUpdate > now)")
        chain.forM (checkRevoked x509 crl crlIssuerDer policy)

def checkRevocationsWithPolicy (chain : List OwnedCert) (crls : List Bytes) (now : Instant)
    (policy : CrlVerifyPolicy) : Except CryptoError Unit :=
  crls.forM (checkCrl x509 sm2 chain now policy)

def checkRevocations (chain : List OwnedCert) (crls : List Bytes) (now : Instant) :
    Except CryptoError Unit :=
  checkRevocationsWithPolicy x509 sm2 chain crls now .strict

section DerSignatures

variable (sm2 : Sm2Library) {texts : SignatureTexts} {raw : Bytes}

/-- The DER form of a raw signature is not mistaken. -/
def DerRecognized (raw : Bytes) : Prop :=
  64 < (sm2SignatureRawToDer raw).length ∨ (sm2SignatureRawToDer raw).length = 64 ∧
    sm2SignatureRawToDer raw = raw

lemma sigRaw_rawToDer (texts : SignatureTexts) (hraw : raw.length = 64) :
    sigRaw texts (sm2SignatureRawToDer raw) = .ok raw ↔ DerRecognized raw := by
  unfold sigRaw DerRecognized
  split_ifs with hsame hlong
  · simp [hsame]
  · simp [hlong, sm2SignatureDerToRaw_rawToDer hraw]
  · simp [hlong, hsame]

lemma verifySm2Signature_of_accepts {caCert : X509Certificate} {key tbsBytes sigBytes : Bytes}
    (policy : DistidPolicy)
    (hkey : sm2PubKey sm2 texts caCert = .ok key) (hread : sigRaw texts sigBytes = .ok raw)
    (hacc : sm2.Accepts key gmTlsDistid tbsBytes raw) :
    verifySm2Signature sm2 texts tbsBytes caCert sigBytes policy = .ok () := by
  unfold verifySm2Signature
  rw [hkey, ok_bind, hread, ok_bind, (Sm2Verifier.new_eq_ok sm2).mpr ⟨hacc.key, rfl⟩,
    mapError_ok, ok_bind,
    (Sm2Verifier.verify_eq_ok sm2 hacc.key).mpr hacc]

/-- A DER signature is accepted exactly when it is not mistaken for a raw signature. -/
theorem derSignature_accepted_iff (x509 : X509Library) (caCert : X509Certificate)
    {key tbsBytes : Bytes}
    (hkey : ∀ texts, sm2PubKey sm2 texts caCert = .ok key)
    (haccepts : sm2.Accepts key gmTlsDistid tbsBytes raw)
    (policy : DistidPolicy) : sm2SignatureDerToRaw (sm2SignatureRawToDer raw) = .ok raw ∧
      (∀ leafCert leafDer, extractTbsBytes leafDer = .ok tbsBytes → leafCert.signatureValue =
      sm2SignatureRawToDer raw →
        (sigRaw certificateTexts (sm2SignatureRawToDer raw) = .ok raw ∧
          verifyCertSignatureWithDistid sm2 leafCert caCert leafDer policy = .ok () ↔
          DerRecognized raw)) ∧
      ∀ crl : CrlInfo, extractTbsCrlBytes crl.der = .ok tbsBytes →
        extractCrlSignature x509 crl.der = .ok (sm2SignatureRawToDer raw) →
        (sigRaw crlTexts (sm2SignatureRawToDer raw) = .ok raw ∧
          verifyCrlSignatureWithDistid x509 sm2 crl caCert policy = .ok () ↔
          DerRecognized raw) := by
  refine ⟨sm2SignatureDerToRaw_rawToDer haccepts.length, fun leafCert leafDer htbs hvalue ↦ ?_,
    fun crl htbs hvalue ↦ ?_⟩
  · rw [← sigRaw_rawToDer certificateTexts haccepts.length, and_iff_left_iff_imp]
    intro hread
    unfold verifyCertSignatureWithDistid
    rw [htbs, ok_bind, hvalue]
    exact verifySm2Signature_of_accepts sm2 policy (hkey _) hread haccepts
  rw [← sigRaw_rawToDer crlTexts haccepts.length, and_iff_left_iff_imp]
  intro hread
  unfold verifyCrlSignatureWithDistid
  rw [htbs, ok_bind, hkey, ok_bind, hvalue, ok_bind]
  exact verifySm2Signature_of_accepts sm2 policy (hkey _) hread haccepts

end DerSignatures

/-- A signature without leading zeros, in DER, is accepted. -/
theorem derSignature_accepted_long : verifyCertSignatureWithDistid miniSm2
    { miniParsed 2 1 0 7 2 with signatureValue := sm2SignatureRawToDer (replicate 64 2) }
    (miniParsed 2 2 2 9 2)
      (miniCertificate 2 1 0 7 2) .strict = .ok () := by
  have haccepts : miniSm2.Accepts (0x04 :: replicate 64 2) gmTlsDistid (miniTbs 2 1 0 7)
    (replicate 64 2) :=
    ⟨by decide, by decide, rfl, by decide⟩
  exact (((derSignature_accepted_iff miniSm2 miniX509 (miniParsed 2 2 2 9 2)
    (fun _ ↦ rfl) haccepts .strict).2.1
    { miniParsed 2 1 0 7 2 with signatureValue := sm2SignatureRawToDer (replicate 64 2) }
      _ rfl rfl).mpr
      (.inl (by decide))).2

/-- A signature with `r = s = 1` is accepted by the library, and refused in DER. -/
theorem short_derSignature_refused :
    let raw := beOctets 32 1 ++ beOctets 32 1
    miniSm2.Accepts (0x04 :: raw) gmTlsDistid (miniTbs 2 1 0 7) raw ∧
      Fails (verifyCertSignatureWithDistid miniSm2
      { miniParsed 2 1 0 7 2 with signatureValue := sm2SignatureRawToDer raw }
        { miniParsed 2 2 2 9 2 with subjectPublicKey := 0x04 :: raw }
        (miniCertificate 2 1 0 7 2) .strict) :=
  ⟨⟨by decide, by decide, rfl, by decide⟩, fails_error _⟩

/-- The `raw_serial` of a revoked entry is the exact content of its serial INTEGER. -/
def X509Library.ExactSerials : Prop :=
  ∀ der crl, x509.crlFromDer der = .ok crl → ∀ raw ∈ crl.revokedSerials,
    raw = integerOctets (beNat raw)

lemma miniX509_exactSerials : miniX509.ExactSerials := by
  intro der crl hparse raw hraw
  obtain ⟨serial, hser⟩ := miniCrlFromDer_eq_ok hparse
  rw [hser, mem_singleton] at hraw
  rw [hraw, beNat_integerOctets]

/-- A list names a serial number. -/
def CertificateRevocationList.Lists (crl : CertificateRevocationList) (serial : ℕ) : Prop :=
  ∃ raw ∈ crl.revokedSerials, beNat raw = serial

lemma isCertRevoked_iff {x509 : X509Library} (hserials : x509.ExactSerials) {der : Bytes}
    {crl : CertificateRevocationList} (hparse : x509.crlFromDer der = .ok crl) (serial : ℕ) :
    CrlInfo.isCertRevoked x509 ⟨der⟩ (minimalOctets serial) = true ↔ crl.Lists serial ∧
    ¬ TopBitSet serial := by
  have hentry (raw : Bytes) (hraw : raw ∈ crl.revokedSerials) :
      raw = minimalOctets serial ↔ beNat raw = serial ∧ ¬ TopBitSet serial := by
    rw [← integerOctets_eq_minimalOctets_iff_eq, ← hserials der crl hparse raw hraw]
  simp only [CrlInfo.isCertRevoked, parseCrl, hparse, mapError_ok, any_eq_true, beq_iff_eq]
  constructor
  · rintro ⟨raw, hraw, heq⟩
    obtain ⟨hnumber, htop⟩ := (hentry raw hraw).mp heq
    exact ⟨⟨raw, hraw, hnumber⟩, htop⟩
  · rintro ⟨⟨raw, hraw, hnumber⟩, htop⟩
    exact ⟨raw, hraw, (hentry raw hraw).mpr ⟨hnumber, htop⟩⟩

section

variable {der : Bytes} {crl : CertificateRevocationList} (hparse : x509.crlFromDer der = .ok crl)

include hparse

lemma fromDer_eq_ok : CrlInfo.fromDer x509 der = .ok ⟨der⟩ := by
  simp [CrlInfo.fromDer, parseCrl, hparse]

lemma issuerDer_eq_ok : CrlInfo.issuerDer x509 ⟨der⟩ = .ok crl.issuer.raw := by
  simp [CrlInfo.issuerDer, parseCrl, hparse]

end

lemma verifyCertCrl_fails_iff {x509 : X509Library} {cert caCert : X509Certificate}
    {crlPem der : Bytes} {crl : CertificateRevocationList} {now : Instant}
    (hpem : x509.pemRead crlPem = .ok der) (hparse : x509.crlFromDer der = .ok crl)
    (hissuer : crl.issuer.raw = cert.issuer.raw)
    (hsig : verifyCrlSignatureWithDistid x509 sm2 ⟨der⟩ caCert .strict = .ok ())
    (hfresh : CrlInfo.isValid x509 ⟨der⟩ now = true) :
    Fails (verifyCertCrl x509 sm2 cert caCert crlPem now) ↔
      CrlInfo.isCertRevoked x509 ⟨der⟩ (minimalOctets cert.serial) = true := by
  unfold verifyCertCrl CrlInfo.fromPem verifyCrl
  rw [hpem, mapError_ok, ok_bind, fromDer_eq_ok x509 hparse, ok_bind, issuerDer_eq_ok x509 hparse,
    ok_bind, rejectIf_ne_bind hissuer, hsig, ok_bind,
    rejectIf_bind (by rw [hfresh]; decide)]
  by_cases hrev : CrlInfo.isCertRevoked x509 ⟨der⟩ (minimalOctets cert.serial) = true
  · rw [rejectIf_pos hrev]
    exact iff_of_true (fails_error _) hrev
  · rw [rejectIf_neg hrev]
    exact iff_of_false (not_fails_ok _) hrev

variable {chain : List OwnedCert} {cert : X509Certificate} {owned : OwnedCert}

lemma checkCrl_fails {x509 : X509Library} {der : Bytes} {crl : CertificateRevocationList}
    {now : Instant}
    (policy : CrlVerifyPolicy) (howned : owned ∈ chain)
    (hcert : x509.certificateFromDer owned.der = .ok cert) (hparse : x509.crlFromDer der = .ok crl)
    (hissuer : crl.issuer.raw = cert.issuer.raw)
    (hca : (findCrlIssuer x509 chain crl.issuer.raw).isSome)
    (hrev : CrlInfo.isCertRevoked x509 ⟨der⟩ (minimalOctets cert.serial) = true) :
    Fails (checkCrl x509 sm2 chain now policy der) := by
  obtain ⟨found, hfound⟩ := Option.isSome_iff_exists.mp hca
  have hlookup : Fails (checkRevoked x509 ⟨der⟩ crl.issuer.raw policy owned) := by
    unfold checkRevoked
    rw [(asX509_eq_ok x509).mpr hcert]
    simp only [ne_eq, hissuer, not_true_eq_false, if_false]
    rw [rejectIf_pos hrev]
    exact fails_error _
  unfold checkCrl
  simp only [fromDer_eq_ok x509 hparse, issuerDer_eq_ok x509 hparse, hfound]
  exact fails_bind_of_forall fun _ _ ↦ fails_bind_of_forall fun _ _ ↦
    forM_fails_of_mem howned hlookup

lemma findCrlIssuer_isSome {name : Bytes} (howned : owned ∈ chain)
    (hcert : x509.certificateFromDer owned.der = .ok cert)
    (hsubject : cert.subject.raw = name) : (findCrlIssuer x509 chain name).isSome := by
  unfold findCrlIssuer
  rw [findSome?_isSome_iff]
  refine ⟨owned, howned, ?_⟩
  rw [(asX509_eq_ok x509).mpr hcert]
  simp [hsubject]

/-- Every check rejects a listed certificate, alone or in any chain, exactly when the top bit of the
serial number is clear. -/
theorem revocation_complete_iff {x509 : X509Library} (hserials : x509.ExactSerials)
    (cert caCert : X509Certificate) (crlPem der : Bytes) (crl : CertificateRevocationList)
    (now : Instant) (hpem : x509.pemRead crlPem = .ok der) (hparse : x509.crlFromDer der = .ok crl)
    (hissuer : crl.issuer.raw = cert.issuer.raw)
    (hsignature : verifyCrlSignatureWithDistid x509 sm2 ⟨der⟩ caCert .strict = .ok ())
    (hfresh : CrlInfo.isValid x509 ⟨der⟩ now = true) (hlisted : crl.Lists cert.serial) :
    (Fails (verifyCertCrl x509 sm2 cert caCert crlPem now) ∧
      ∀ (policy : CrlVerifyPolicy) (chain : List OwnedCert) (crls : List Bytes)
      (owned ownedCa : OwnedCert),
        owned ∈ chain → x509.certificateFromDer owned.der = .ok cert →
        ownedCa ∈ chain → x509.certificateFromDer ownedCa.der = .ok caCert →
        caCert.subject.raw = crl.issuer.raw → der ∈ crls →
          Fails (checkRevocationsWithPolicy x509 sm2 chain crls now policy)) ↔
      ¬ TopBitSet cert.serial := by
  have hfound : CrlInfo.isCertRevoked x509 ⟨der⟩ (minimalOctets cert.serial) = true ↔
      ¬ TopBitSet cert.serial := by
    rw [isCertRevoked_iff hserials hparse, and_iff_right hlisted]
  rw [verifyCertCrl_fails_iff sm2 hpem hparse hissuer hsignature hfresh, hfound,
    and_iff_left_iff_imp]
  intro htop policy chain crls owned ownedCa howned hcert hownedCa hca hsubject hmem
  exact forM_fails_of_mem hmem (checkCrl_fails sm2 policy howned hcert hparse hissuer
    (findCrlIssuer_isSome x509 hownedCa hca hsubject) (hfound.mpr htop))

/-- A listed certificate with the serial number `0x7f` is rejected, alone and in its chain. -/
theorem revocation_complete_mini_low_serial :
    Fails (verifyCertCrl miniX509 miniSm2 (miniParsed 2 1 0 0x7f 2) (miniParsed 4 2 2 8 4)
    (miniCrl 2 0x7f 2) 500) ∧
      Fails (checkRevocationsWithPolicy miniX509 miniSm2
        [⟨miniCertificate 2 1 0 0x7f 2⟩, ⟨miniCertificate 4 2 2 8 4⟩]
        [miniCrl 2 0x7f 2] 500 .permissive) := by
  have hlisted : CertificateRevocationList.Lists
      { issuer := miniName 2, lastUpdate := 0, nextUpdate := some 1000,
        revokedSerials := [integerOctets 0x7f], signatureValue := replicate 64 2 } 0x7f :=
    ⟨_, mem_singleton_self _, beNat_integerOctets _⟩
  have hcomplete := (revocation_complete_iff miniSm2 miniX509_exactSerials (miniParsed 2 1 0 0x7f 2)
    (miniParsed 4 2 2 8 4) (miniCrl 2 0x7f 2) (miniCrl 2 0x7f 2) _ 500 rfl rfl rfl rfl rfl
    hlisted).mpr ((topBitSet_of_lt (by decide)).not.mpr (by decide))
  exact ⟨hcomplete.1, hcomplete.2 .permissive _ _ ⟨miniCertificate 2 1 0 0x7f 2⟩
    ⟨miniCertificate 4 2 2 8 4⟩ (by simp) rfl (by simp) rfl rfl (by simp)⟩

/-- A listed certificate with the serial number `0x80` is accepted, alone and in its chain under
both policies, although the list is its issuer's, verified and fresh. -/
theorem revoked_mini_high_serial_accepted : (CertificateRevocationList.Lists
        { issuer := miniName 2, lastUpdate := 0, nextUpdate := some 1000,
          revokedSerials := [integerOctets 0x80], signatureValue := replicate 64 2 } 0x80 ∧
      verifyCrlSignatureWithDistid miniX509 miniSm2 ⟨miniCrl 2 0x80 2⟩
        (miniParsed 4 2 2 8 4) .strict = .ok () ∧
      CrlInfo.isValid miniX509 ⟨miniCrl 2 0x80 2⟩ 500 = true) ∧
    verifyCertCrl miniX509 miniSm2 (miniParsed 2 1 0 0x80 2) (miniParsed 4 2 2 8 4)
      (miniCrl 2 0x80 2) 500 = .ok () ∧
    ∀ policy, checkRevocationsWithPolicy miniX509 miniSm2
      [⟨miniCertificate 2 1 0 0x80 2⟩, ⟨miniCertificate 4 2 2 8 4⟩] [miniCrl 2 0x80 2] 500 policy =
      .ok () := by
  refine ⟨⟨⟨_, mem_singleton_self _, beNat_integerOctets _⟩, by rfl, by rfl⟩, by rfl, ?_⟩
  intro policy
  cases policy <;> rfl

end GmStack.X509
