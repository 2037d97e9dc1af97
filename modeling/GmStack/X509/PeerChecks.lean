import GmStack.X509.Revocation

/-! The functions of `gm-crypto/src/x509/verify.rs` with which the handshakes surround chain
validation. -/

namespace GmStack.X509

open Foundation Crypto List

section Reading

variable (x509 : X509Library)

def collectPemBlocks : List (Except String Bytes) → Except CryptoError (List OwnedCert)
  | [] => .ok []
  | block :: rest => do
    let contents ← block.mapError fun e ↦ .certificateVerificationFailed ("PEM parse failed: " ++ e)
    let certs ← collectPemBlocks rest
    .ok (⟨contents⟩ :: certs)

def OwnedCert.chainFromPemConcat (pemBytes : Bytes) : Except CryptoError (List OwnedCert) := do
  let certs ← collectPemBlocks (x509.pemIterFromBuffer pemBytes)
  rejectIf (certs = []) (.certificateVerificationFailed "certificate chain is empty")
  .ok certs

def OwnedCert.fromPem (pemBytes : Bytes) : Except CryptoError OwnedCert :=
  match x509.pemIterFromBuffer pemBytes with
  | [] => .error (.certificateVerificationFailed "certificate PEM is empty")
  | block :: _ => do
    let contents ← block.mapError fun e ↦ .certificateVerificationFailed ("PEM parse failed: " ++ e)
    .ok ⟨contents⟩

def OwnedCert.fromDer (der : Bytes) : Except CryptoError OwnedCert := do
  let _ ← (x509.certificateFromDer der).mapError fun e ↦
    .certificateVerificationFailed ("DER parse failed: " ++ e)
  .ok ⟨der⟩

def pemMarker : Bytes := [0x2d, 0x2d, 0x2d, 0x2d, 0x2d, 0x42, 0x45, 0x47, 0x49, 0x4e]

def isAsciiText (octet : UInt8) : Bool :=
  (0x21 ≤ octet && octet ≤ 0x7e) || octet == 0x20 || octet == 0x09 || octet == 0x0a || octet ==
    0x0c || octet == 0x0d

def OwnedCert.fromPemOrDer (bytes : Bytes) : Except CryptoError OwnedCert :=
  let isPem := (bytes.take 11).all isAsciiText
  let looksPem := isPem && bytes.take 10 == pemMarker
  if looksPem then
    (OwnedCert.fromPem x509 bytes).mapError
      fun e ↦ .panicked ("OwnedCert::from_pem_or_der: PEM parse failed: " ++ e.debug)
  else
    (OwnedCert.fromDer x509 bytes).mapError
      fun e ↦ .panicked ("OwnedCert::from_pem_or_der: DER parse failed: " ++ e.debug)

def extractServerPubkeyForCertVerify (sm2 : Sm2Library) (certChainPem : Bytes) :
    Except CryptoError Bytes := do
  let chain ← OwnedCert.chainFromPemConcat x509 certChainPem
  match chain with
  | [] => .error (.certificateVerificationFailed "certificate chain is empty")
  | leaf :: _ => do
    let leafCert ← leaf.asX509 x509
    sm2PubKey sm2 certificateTexts leafCert

end Reading

/-- A parsed SPIFFE identifier. -/
structure SpiffeId where
  trustDomain : List Char
  path : List Char

def isDnsLabel (label : List Char) : Bool :=
  label ≠ [] && label.head? ≠ some '-' && label.getLast? ≠ some '-' && label.all fun c ↦
    c.isLower || c.isDigit || c == '-'

def SpiffeId.parse (uri : String) : Except CryptoError SpiffeId := do
  let scheme := "spiffe://"
  rejectIf (uri.utf8ByteSize > 2048) (.certificateVerificationFailed
    ("SPIFFE ID exceeds max length 2048 (got " ++ toString uri.utf8ByteSize ++ ")"))
  rejectIf (uri.toList.take scheme.length ≠ scheme.toList) (.certificateVerificationFailed
    ("URI is not a SPIFFE ID: missing 'spiffe://' scheme (got " ++ uri.quote ++ ")"))
  let rest := uri.toList.drop scheme.length
  let trustDomain := rest.takeWhile (· ≠ '/')
  let path := rest.dropWhile (· ≠ '/')
  rejectIf (path = [])
    (.certificateVerificationFailed ("SPIFFE ID has no '/'-prefixed path: " ++ uri.quote))
  rejectIf (trustDomain = [])
    (.certificateVerificationFailed ("SPIFFE ID has empty trust domain: " ++ uri.quote))
  rejectIf (trustDomain.any Char.isUpper = true) (.certificateVerificationFailed
    ("SPIFFE ID trust domain must be lowercase per SPIFFE §2.1.2 (got " ++
    (String.ofList trustDomain).quote ++ ")"))
  rejectIf ((trustDomain.splitOn '.').all isDnsLabel = false) (.certificateVerificationFailed
    ("SPIFFE ID trust domain contains non-DNS characters: " ++ (String.ofList trustDomain).quote))
  rejectIf ((path.zip path.tail).contains ('/', '/') ∨ '?' ∈ path ∨ '#' ∈ path ∨ '%' ∈ path)
    (.certificateVerificationFailed
      ("SPIFFE ID path must be normalised per SPIFFE §2.1.3 (no '//' / '?' / '#' / '%xx'): " ++
      uri.quote))
  .ok { trustDomain, path }

/-- `SpiffePathPolicy`: the path must start with the expected one, or be it. -/
inductive SpiffePathPolicy
  | pathPrefix
  | pathExact

def SpiffePathPolicy.debug : SpiffePathPolicy → String
  | .pathPrefix => "Prefix"
  | .pathExact => "Exact"

inductive UriMatchPolicy
  | spiffe (path : SpiffePathPolicy)
  | literal

def UriMatchPolicy.default : UriMatchPolicy := .spiffe .pathPrefix

def SpiffePathPolicy.matchesPath (policy : SpiffePathPolicy) (candidate expected : List Char) :
    Bool :=
  match policy with
  | .pathPrefix => candidate.take expected.length == expected
  | .pathExact => candidate == expected

def spiffeMatches (policy : SpiffePathPolicy) (expected : SpiffeId) (uri : String) : Bool :=
  match SpiffeId.parse uri with
  | .ok candidate => candidate.trustDomain == expected.trustDomain && policy.matchesPath
    candidate.path expected.path
  | .error _ => false

def X509Certificate.uriSans (cert : X509Certificate) : List String :=
  cert.subjectAlternativeName.filterMap fun name ↦
    match name with
    | .uri uri => some uri
    | _ => none

def validateUriOnly (x509 : X509Library) (leafDer : Bytes) (expectedUri : String) (now : Instant)
    (policy : UriMatchPolicy) : Except CryptoError Unit := do
  let cert ← OwnedCert.asX509 x509 ⟨leafDer⟩
  checkUnknownCriticalExtensions cert
  rejectIf (now < cert.notBefore ∨ now > cert.notAfter)
    (.certificateVerificationFailed "certificate has expired or is not yet valid")
  rejectIf (cert.uriSans = []) (.certificateVerificationFailed "no URI SAN entry in certificate")
  match policy with
  | .spiffe path => do
    let expected ← SpiffeId.parse expectedUri
    rejectIf (cert.uriSans.any (spiffeMatches path expected) = false)
      (.certificateVerificationFailed ("no URI SAN matched expected SPIFFE ID " ++
        expectedUri.quote ++ " (policy = " ++ path.debug ++ ")"))
  | .literal =>
    rejectIf (expectedUri ∉ cert.uriSans) (.certificateVerificationFailed
      ("no URI SAN matched expected URI " ++ expectedUri.quote ++ " (literal equality)"))

section Coverage

variable (x509 : X509Library)

def crlIssuers : List Bytes → Except CryptoError (List Bytes)
  | [] => .ok []
  | crlDer :: rest => do
    let crl ← CrlInfo.fromDer x509 crlDer
    let issuer ← crl.issuerDer x509
    let others ← crlIssuers rest
    .ok (issuer :: others)

def checkCovered (issuers : List Bytes) (owned : OwnedCert) : Except CryptoError Unit := do
  let cert ← owned.asX509 x509
  if cert.subject.raw = cert.issuer.raw then .ok ()
  else
    rejectIf (cert.issuer.raw ∉ issuers) (.crlVerificationFailed
      ("strict CRL mode: no CRL covers the issuer of chain certificate serial 0x" ++
        hexEncode (minimalOctets cert.serial)))

def ensureCrlCoverage (chain : List OwnedCert) (crls : List Bytes) : Except CryptoError Unit := do
  let issuers ← crlIssuers x509 crls
  chain.forM (checkCovered x509 issuers)

end Coverage

section Lemmas

variable {x509 : X509Library}

lemma extractServerPubkeyForCertVerify_eq_ok {sm2 : Sm2Library} {certChainPem key : Bytes}
    (hextract : extractServerPubkeyForCertVerify x509 sm2 certChainPem = .ok key) :
    ∃ leaf rest leafCert, OwnedCert.chainFromPemConcat x509 certChainPem = .ok (leaf :: rest) ∧
      leaf.asX509 x509 = .ok leafCert ∧ sm2PubKey sm2 certificateTexts leafCert = .ok key := by
  obtain ⟨chain, hchain, hkey⟩ := bind_eq_ok.mp hextract
  cases chain with
  | nil => cases hkey
  | cons leaf rest =>
    obtain ⟨leafCert, hparse, hpub⟩ := bind_eq_ok.mp hkey
    exact ⟨leaf, rest, leafCert, hchain, hparse, hpub⟩

lemma exists_of_mem_crlIssuers {crls issuers : List Bytes}
    (hissuers : crlIssuers x509 crls = .ok issuers)
    {issuer : Bytes} (hmem : issuer ∈ issuers) :
    ∃ der ∈ crls, ∃ crl, x509.crlFromDer der = .ok crl ∧ crl.issuer.raw = issuer := by
  induction crls generalizing issuers with
  | nil =>
    cases hissuers
    cases hmem
  | cons der rest ih =>
    simp only [crlIssuers, CrlInfo.fromDer, CrlInfo.issuerDer, parseCrl, bind_eq_ok, mapError_eq_ok,
      Except.ok.injEq] at hissuers
    obtain ⟨_, ⟨_, -, rfl⟩, _, ⟨crl, hcrl, rfl⟩, others, hothers, rfl⟩ := hissuers
    rcases mem_cons.mp hmem with rfl | hmem
    · exact ⟨der, mem_cons_self, crl, hcrl, rfl⟩
    · obtain ⟨other, hother, hissuer⟩ := ih hothers hmem
      exact ⟨other, mem_cons_of_mem _ hother, hissuer⟩

variable {chain : List OwnedCert}

lemma exists_of_findCrlIssuer {name : Bytes} {caCert : X509Certificate}
    (hfound : findCrlIssuer x509 chain name = some caCert) :
    ∃ ca ∈ chain, x509.certificateFromDer ca.der = .ok caCert ∧ caCert.subject.raw = name := by
  obtain ⟨ca, hca, hmatch⟩ := exists_of_findSome?_eq_some hfound
  cases hparse : ca.asX509 x509 with
  | error e => simp [hparse] at hmatch
  | ok parsed =>
    rw [hparse, Option.ite_none_right_eq_some] at hmatch
    obtain ⟨hsubject, ⟨⟩⟩ := hmatch
    exact ⟨ca, hca, (asX509_eq_ok x509).mp hparse, hsubject⟩

variable (sm2 : Sm2Library) {now : Instant} {der : Bytes}

lemma checkCrl_permissive
    (hstrict : checkCrl x509 sm2 chain now .strict der = .ok ()) :
    checkCrl x509 sm2 chain now .permissive der = .ok () := by
  have hrev (crl : CrlInfo) (issuer : Bytes) (owned : OwnedCert)
      (hok : checkRevoked x509 crl issuer .strict owned = .ok ()) :
      checkRevoked x509 crl issuer .permissive owned = .ok () := by
    unfold checkRevoked at hok ⊢
    cases hparse : owned.asX509 x509 with
    | error e => rfl
    | ok cert =>
      rw [hparse] at hok
      exact hok
  unfold checkCrl at hstrict ⊢
  cases hcrl : CrlInfo.fromDer x509 der with
  | error e => rfl
  | ok crl =>
    cases hissuer : crl.issuerDer x509 with
    | error e => simp only [hissuer]; rfl
    | ok issuer =>
      cases hca : findCrlIssuer x509 chain issuer with
      | none => simp only [hissuer, hca]; rfl
      | some caCert =>
        simp only [hcrl, hissuer, hca, unit_bind_eq_ok, forM_eq_ok] at hstrict ⊢
        exact ⟨hstrict.1, hstrict.2.1, fun owned howned ↦
          hrev crl issuer owned (hstrict.2.2 owned howned)⟩

/-- A list vouches for a certificate of a chain. -/
def VouchedBy (x509 : X509Library) (chain : List OwnedCert) (now : Instant) (cert : X509Certificate)
    (der : Bytes) : Prop :=
  ∃ crl, x509.crlFromDer der = .ok crl ∧ crl.issuer.raw = cert.issuer.raw ∧
    (∃ ca ∈ chain, ∃ caCert, x509.certificateFromDer ca.der = .ok caCert ∧
    caCert.subject.raw = cert.issuer.raw ∧
      verifyCrlSignatureWithDistid x509 sm2 ⟨der⟩ caCert .strict = .ok ()) ∧
    CrlInfo.isValid x509 ⟨der⟩ now = true ∧ minimalOctets cert.serial ∉ crl.revokedSerials

lemma vouchedBy_of_checkCrl {crl : CertificateRevocationList}
    (hparse : x509.crlFromDer der = .ok crl)
    (hok : checkCrl x509 sm2 chain now .strict der = .ok ())
    {owned : OwnedCert} {cert : X509Certificate} (howned : owned ∈ chain)
    (hcert : x509.certificateFromDer owned.der = .ok cert)
    (hissuer : crl.issuer.raw = cert.issuer.raw) :
    VouchedBy sm2 x509 chain now cert der := by
  unfold checkCrl at hok
  simp only [fromDer_eq_ok x509 hparse, issuerDer_eq_ok x509 hparse] at hok
  cases hfound : findCrlIssuer x509 chain crl.issuer.raw with
  | none =>
    rw [hfound] at hok
    cases hok
  | some caCert =>
    simp only [hfound, unit_bind_eq_ok, forM_eq_ok, rejectIf_eq_ok, Bool.not_eq_false] at hok
    obtain ⟨hsig, hfresh, hlookups⟩ := hok
    obtain ⟨ca, hca, hcaCert, hsubject⟩ := exists_of_findCrlIssuer hfound
    refine ⟨crl, hparse, hissuer, ⟨ca, hca, caCert, hcaCert, hsubject.trans hissuer, hsig⟩,
      hfresh, fun hlisted ↦ ?_⟩
    have hlookup := hlookups owned howned
    simp [checkRevoked, (asX509_eq_ok x509).mpr hcert, hissuer, CrlInfo.isCertRevoked, parseCrl,
      hparse, hlisted] at hlookup

/-- The strict policy leaves no certificate without a list that vouches for it, the self-issued ones
apart. -/
theorem strict_revocation_covered (x509 : X509Library) (chain : List OwnedCert) (crls : List Bytes)
    (now : Instant) :
    (checkRevocationsWithPolicy x509 sm2 chain crls now .strict = .ok () →
      checkRevocationsWithPolicy x509 sm2 chain crls now .permissive = .ok ()) ∧
    (ensureCrlCoverage x509 chain crls = .ok () → checkRevocations x509 sm2 chain crls now =
    .ok () →
      ∀ owned ∈ chain, ∃ cert, x509.certificateFromDer owned.der = .ok cert ∧
        (cert.subject.raw ≠ cert.issuer.raw → ∃ der ∈ crls,
        VouchedBy sm2 x509 chain now cert der)) := by
  unfold checkRevocations checkRevocationsWithPolicy ensureCrlCoverage
  simp only [bind_eq_ok, forM_eq_ok]
  refine ⟨fun hstrict der hder ↦ checkCrl_permissive sm2 (hstrict der hder), ?_⟩
  rintro ⟨issuers, hissuers, hcovered⟩ hstrict owned howned
  obtain ⟨cert, hcert, hcover⟩ := bind_eq_ok.mp (hcovered owned howned)
  rw [asX509_eq_ok] at hcert
  refine ⟨cert, hcert, fun hforeign ↦ ?_⟩
  rw [if_neg hforeign, rejectIf_eq_ok, not_not] at hcover
  obtain ⟨der, hder, crl, hparse, hissuer⟩ := exists_of_mem_crlIssuers hissuers hcover
  exact ⟨der, hder, vouchedBy_of_checkCrl sm2 hparse (hstrict der hder) howned hcert hissuer⟩

/-- A leaf and its CA with one list. -/
theorem strict_revocation_covered_mini :
    ∃ cert, miniX509.certificateFromDer (miniCertificate 2 1 0 7 2) = .ok cert ∧
      ∃ der ∈ [miniCrl 2 8 2], VouchedBy miniSm2 miniX509 [⟨miniCertificate 2 1 0 7 2⟩,
      ⟨miniCertificate 2 2 2 9 2⟩] 500 cert der := by
  obtain ⟨cert, hcert, hvouched⟩ := (strict_revocation_covered miniSm2 miniX509
    [⟨miniCertificate 2 1 0 7 2⟩, ⟨miniCertificate 2 2 2 9 2⟩] [miniCrl 2 8 2] 500).2 (by decide)
    (by decide +kernel)
    ⟨miniCertificate 2 1 0 7 2⟩ (by decide)
  cases hcert
  exact ⟨_, rfl, hvouched (by decide)⟩

end Lemmas

/-- The presented identifier extends the expected one, character by character. -/
def SpiffeId.Extends (presented expected : SpiffeId) : Prop :=
  presented.trustDomain = expected.trustDomain ∧ expected.path <+: presented.path

/-- The presented identifier is the expected one or below it. -/
def SpiffeId.Within (presented expected : SpiffeId) : Prop :=
  presented.trustDomain = expected.trustDomain ∧
    (presented.path = expected.path ∨ ∃ rest, presented.path = expected.path ++ '/' :: rest)

/-- Some URI of the certificate is a SPIFFE identifier in the relation to the expected one. -/
def X509Certificate.Presents (cert : X509Certificate) (relation : SpiffeId → SpiffeId → Prop)
    (expected : SpiffeId) : Prop :=
  ∃ uri ∈ cert.uriSans, ∃ presented, SpiffeId.parse uri = .ok presented ∧
    relation presented expected

lemma spiffeMatches_pathPrefix {expected : SpiffeId} {uri : String} :
    spiffeMatches .pathPrefix expected uri = true ↔
      ∃ presented, SpiffeId.parse uri = .ok presented ∧ presented.Extends expected := by
  unfold spiffeMatches SpiffeId.Extends
  cases SpiffeId.parse uri with
  | error e => simp
  | ok presented =>
    simp only [SpiffePathPolicy.matchesPath, Bool.and_eq_true, beq_iff_eq, Except.ok.injEq,
      exists_eq_left',
      prefix_iff_eq_take, eq_comm (a := expected.path)]

lemma validateUriOnly_pathPrefix {x509 : X509Library} {leafDer : Bytes} {expectedUri : String}
    {now : Instant} :
    validateUriOnly x509 leafDer expectedUri now (.spiffe .pathPrefix) = .ok () ↔
      ∃ cert, x509.certificateFromDer leafDer = .ok cert ∧ CriticalExtensionsKnown cert ∧
      ValidAt now cert ∧
        ∃ expected, SpiffeId.parse expectedUri = .ok expected ∧
        cert.Presents SpiffeId.Extends expected := by
  unfold validateUriOnly X509Certificate.Presents
  rw [bind_eq_ok]
  refine exists_congr fun cert ↦ ?_
  rw [asX509_eq_ok, unit_bind_eq_ok, checkUnknownCriticalExtensions_eq_ok, unit_bind_eq_ok,
    rejectIf_eq_ok,
    unit_bind_eq_ok, rejectIf_eq_ok]
  simp only [bind_eq_ok, rejectIf_eq_ok, Bool.not_eq_false, any_eq_true, spiffeMatches_pathPrefix,
    not_or, not_lt, ValidAt]
  refine and_congr_right fun _ ↦ and_congr_right fun _ ↦ and_congr_right fun _ ↦
    and_iff_right_of_imp ?_
  rintro ⟨_, -, uri, huri, -⟩ hnil
  rw [hnil] at huri
  exact not_mem_nil huri

/-- The rule for paths: an accepted certificate presents an identifier that is the expected one or
below it. -/
def PathSegmentRule (x509 : X509Library) (leafDer : Bytes) (expectedUri : String)
    (now : Instant) : Prop :=
  validateUriOnly x509 leafDer expectedUri now (.spiffe .pathPrefix) = .ok () →
    ∃ cert expected, x509.certificateFromDer leafDer = .ok cert ∧ SpiffeId.parse expectedUri =
    .ok expected ∧
      cert.Presents SpiffeId.Within expected

/-- An identifier that extends the expected one comes with one at a segment's end. -/
theorem pathSegmentRule_iff (x509 : X509Library) (leafDer : Bytes) (expectedUri : String)
    (now : Instant) :
    PathSegmentRule x509 leafDer expectedUri now ↔ ∀ cert expected,
    x509.certificateFromDer leafDer = .ok cert →
      CriticalExtensionsKnown cert → ValidAt now cert → SpiffeId.parse expectedUri = .ok expected →
        cert.Presents SpiffeId.Extends expected → cert.Presents SpiffeId.Within expected := by
  unfold PathSegmentRule
  rw [validateUriOnly_pathPrefix]
  constructor
  · intro hrule cert expected hcert hknown hvalid hexpected hextends
    obtain ⟨other, id, hother, hid, hwithin⟩ := hrule ⟨cert, hcert, hknown, hvalid, expected,
      hexpected, hextends⟩
    rw [hcert] at hother
    rw [hexpected] at hid
    cases hother
    cases hid
    exact hwithin
  · rintro hcondition ⟨cert, hcert, hknown, hvalid, expected, hexpected, hextends⟩
    exact ⟨cert, expected, hcert, hexpected,
      hcondition cert expected hcert hknown hvalid hexpected hextends⟩

/-- The certificate of the sibling `/ns/foo/sandbox` is accepted for `/ns/foo/sa`. -/
theorem sibling_path_accepted : ¬ PathSegmentRule { miniX509 with
      certificateFromDer := fun _ ↦ .ok { miniParsed 2 1 0 7 2 with
        extensions := [⟨oidSubjectAltName, false,
        .subjectAlternativeName [.uri "spiffe://td/ns/foo/sandbox"]⟩] } }
    [] "spiffe://td/ns/foo/sa" 500 := by
  intro hrule
  obtain ⟨cert, expected, hcert, hexpected, uri, huri, presented, hpresented, -, hpath⟩ :=
    hrule (by decide)
  cases hcert
  cases mem_singleton.mp huri
  have hid : presented = ⟨"td".toList, "/ns/foo/sandbox".toList⟩ := (Except.ok.inj hpresented).symm
  have hsa : expected = ⟨"td".toList, "/ns/foo/sa".toList⟩ := (Except.ok.inj hexpected).symm
  rw [hid, hsa] at hpath
  rcases hpath with hequal | ⟨rest, hrest⟩
  · exact absurd hequal (by decide)
  · exact absurd (cons.inj (congrArg (drop 10) hrest)).1 (by decide)

end GmStack.X509
