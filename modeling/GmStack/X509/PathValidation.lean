import GmStack.X509.MiniProfile
import GmStack.X509.Verify

/-! `PathValid` leaves out the authority of the issuers (`ChainAuthority`), which the walk checks
strictly between the ends only. -/

namespace GmStack.X509

open Foundation Crypto List Except Sm2Verifier

/-! ### One lemma per check -/

/-- Every critical extension of the certificate is one the verifier recognizes. -/
def CriticalExtensionsKnown (cert : X509Certificate) : Prop :=
  ∀ ext ∈ cert.extensions, ext.critical = true → ext.oid ∈ knownX509Extensions

variable {cert : X509Certificate}

lemma checkUnknownCriticalExtensions_eq_ok :
    checkUnknownCriticalExtensions cert = .ok () ↔ CriticalExtensionsKnown cert := by
  unfold checkUnknownCriticalExtensions CriticalExtensionsKnown
  simp only [forM_eq_ok, rejectIf_eq_ok, not_and, not_not]

/-- The bits and purposes a role asks for, where the extension is present. -/
def AllowsRole (cert : X509Certificate) : CertRole → Prop
  | .tlcServer => (∀ ku ∈ cert.keyUsage, ku.digitalSignature = true) ∧
      ∀ eku ∈ cert.extendedKeyUsage, eku.serverAuth = true ∨ eku.any = true
  | .tlcClient => (∀ ku ∈ cert.keyUsage, ku.digitalSignature = true) ∧
      ∀ eku ∈ cert.extendedKeyUsage, eku.clientAuth = true ∨ eku.any = true
  | .tlcEncServer | .tlcEncClient =>
      ∀ ku ∈ cert.keyUsage, ku.keyAgreement = true ∨ ku.keyEncipherment = true
  | .ca => ∀ ku ∈ cert.keyUsage, ku.keyCertSign = true

lemma requireKeyUsage_eq_ok {usage : Option KeyUsage} {allowed : KeyUsage → Bool}
    {message : String} :
    requireKeyUsage usage allowed message = .ok () ↔ ∀ ku ∈ usage, allowed ku = true := by
  cases usage with
  | none => simp [requireKeyUsage]
  | some ku => simp [requireKeyUsage]

lemma requireExtendedKeyUsage_eq_ok {usage : Option ExtendedKeyUsage}
    {allowed : ExtendedKeyUsage → Bool} {purpose : String} :
    requireExtendedKeyUsage usage allowed purpose = .ok () ↔ ∀ eku ∈ usage, allowed eku = true := by
  cases usage with
  | none => simp [requireExtendedKeyUsage]
  | some eku => simp [requireExtendedKeyUsage]

lemma verifyCertRole_eq_ok {role : CertRole} : verifyCertRole cert role = .ok () ↔
    AllowsRole cert role := by
  cases role with
  | tlcServer | tlcClient =>
    simp only [verifyCertRole, unit_bind_eq_ok, requireKeyUsage_eq_ok,
      requireExtendedKeyUsage_eq_ok, Bool.or_eq_true, AllowsRole]
  | tlcEncServer | tlcEncClient =>
    simp only [verifyCertRole, requireKeyUsage_eq_ok, Bool.or_eq_true, AllowsRole]
  | ca => simp only [verifyCertRole, requireKeyUsage_eq_ok, AllowsRole]

variable {role : Option CertRole}

lemma verifyOptionalRole_eq_ok : verifyOptionalRole cert role = .ok () ↔ ∀ r ∈ role,
    AllowsRole cert r := by
  cases role with
  | none => simp [verifyOptionalRole]
  | some r => simp [verifyOptionalRole, verifyCertRole_eq_ok]

section Library

variable (x509 : X509Library)

/-- Equal up to case, or `*.` and a rest against one label and that rest. -/
theorem hostnameMatches_iff (entry domain : String) : hostnameMatches entry domain = true ↔
      eqIgnoreAsciiCase entry.toList domain.toList = true ∨
        ∃ entryRest label domainRest, entry.toList = '*' :: '.' :: entryRest ∧
          (domain.toList = label ++ '.' :: domainRest ∧ '.' ∉ label) ∧ label ≠ [] ∧
            eqIgnoreAsciiCase domainRest entryRest = true := by
  have hstar (rest : Text) : entry.toList = '*' :: '.' :: rest ↔ splitOnce '.' entry.toList =
      some (['*'], rest) := by
    simp [splitOnce_eq_some]
  simp only [hstar, ← splitOnce_eq_some]
  unfold hostnameMatches
  by_cases hequal : eqIgnoreAsciiCase entry.toList domain.toList = true
  · simp [hequal]
  cases splitOnce '.' entry.toList with
  | none => simp [hequal]
  | some entryParts =>
    cases splitOnce '.' domain.toList with
    | none => simp [hequal]
    | some domainParts =>
      obtain ⟨label, domainRest⟩ := domainParts
      by_cases hlabel : label = [] <;> simp [hequal, hlabel, Prod.ext_iff]

/-- The certificate presents a domain. -/
def PresentsDomain (cert : X509Certificate) (domain : String) : Prop :=
  (∃ dns, .dnsName dns ∈ cert.subjectAlternativeName ∧
    hostnameMatches dns (normalizeDomain x509 domain) = true) ∨
    ∃ cn, cert.subject.commonNames.head? = some (some cn) ∧
      hostnameMatches cn (normalizeDomain x509 domain) = true

/-- The certificate is in its validity interval. -/
def ValidAt (now : Instant) (cert : X509Certificate) : Prop :=
  cert.notBefore ≤ now ∧ now ≤ cert.notAfter

variable {cert : X509Certificate}

lemma domainMatches_eq_true {domain : String} :
    domainMatches cert (normalizeDomain x509 domain) = true ↔ PresentsDomain x509 cert domain := by
  unfold domainMatches PresentsDomain
  rw [Bool.or_eq_true, any_eq_true]
  refine or_congr ⟨?_, ?_⟩ ?_
  · rintro ⟨name, hname, hmatch⟩
    cases name with
    | dnsName dns => exact ⟨dns, hname, hmatch⟩
    | uri uri => exact absurd hmatch (by simp)
    | other => exact absurd hmatch (by simp)
  · rintro ⟨dns, hdns, hmatch⟩
    exact ⟨_, hdns, hmatch⟩
  cases hnames : cert.subject.commonNames with
  | nil => simp
  | cons name rest => cases name <;> simp

lemma validateCertParsed_eq_ok {now : Instant} {expectedDomain : Option String} :
    validateCertParsed x509 cert now expectedDomain = .ok () ↔
      ValidAt now cert ∧ ∀ domain ∈ expectedDomain, PresentsDomain x509 cert domain := by
  unfold validateCertParsed ValidAt
  cases expectedDomain with
  | none => simp [unit_bind_eq_ok, not_or]
  | some domain => simp [unit_bind_eq_ok, not_or, domainMatches_eq_true]

lemma asX509_eq_ok {owned : OwnedCert} : owned.asX509 x509 = .ok cert ↔
    x509.certificateFromDer owned.der = .ok cert := by
  simp [OwnedCert.asX509]

end Library

/-- Some subject alternative name extension of the certificate lists the DNS name. -/
def HasDnsName (cert : X509Certificate) (dns : String) : Prop :=
  ∃ ext ∈ cert.extensions, ∃ names, ext.oid = oidSubjectAltName ∧
    ext.parsed = .subjectAlternativeName names ∧ .dnsName dns ∈ names

lemma hasDnsName_of_mem {cert : X509Certificate} {dns : String}
    (hmem : .dnsName dns ∈ cert.subjectAlternativeName) : HasDnsName cert dns := by
  unfold X509Certificate.subjectAlternativeName at hmem
  split at hmem
  · rename_i oid critical names hfilter
    have hext := mem_filter.mp (hfilter ▸ mem_singleton_self _)
    exact ⟨_, hext.1, names, eq_of_beq hext.2, rfl, hmem⟩
  · cases hmem

/-- A DNS name decides where there is one, and the common name only where there is none. -/
def CommonNameRule (x509 : X509Library) (cert : X509Certificate) (now : Instant)
    (domain : String) : Prop :=
  validateCertParsed x509 cert now (some domain) = .ok () →
    (∃ dns, HasDnsName cert dns ∧ hostnameMatches dns (normalizeDomain x509 domain) = true) ∨
      (∀ dns, ¬ HasDnsName cert dns) ∧ ∃ cn, cert.subject.commonNames.head? = some (some cn) ∧
        eqIgnoreAsciiCase cn.toList (normalizeDomain x509 domain).toList = true

/-- The first common name, if it matches the domain as an alternative name would, is not needed or
is allowed to speak. -/
theorem commonNameRule_iff (x509 : X509Library) (cert : X509Certificate) (now : Instant)
    (domain : String) :
    CommonNameRule x509 cert now domain ↔ (ValidAt now cert → ∀ cn,
      cert.subject.commonNames.head? = some (some cn) →
      hostnameMatches cn (normalizeDomain x509 domain) = true →
        (∃ dns, HasDnsName cert dns ∧ hostnameMatches dns (normalizeDomain x509 domain) = true) ∨
          (∀ dns, ¬ HasDnsName cert dns) ∧
            eqIgnoreAsciiCase cn.toList (normalizeDomain x509 domain).toList = true) := by
  unfold CommonNameRule
  simp only [validateCertParsed_eq_ok, Option.mem_some_iff, forall_eq', PresentsDomain]
  constructor
  · intro hrule hvalid cn hcn hmatches
    refine (hrule ⟨hvalid, .inr ⟨cn, hcn, hmatches⟩⟩).imp_right ?_
    rintro ⟨hnone, first, hfirst, hequal⟩
    obtain rfl : first = cn := Option.some.inj (Option.some.inj (hfirst.symm.trans hcn))
    exact ⟨hnone, hequal⟩
  rintro hcondition ⟨hvalid, ⟨dns, hdns, hmatches⟩ | ⟨cn, hcn, hmatches⟩⟩
  · exact .inl ⟨dns, hasDnsName_of_mem hdns, hmatches⟩
  · exact (hcondition hvalid cn hcn hmatches).imp_right fun ⟨hnone, hequal⟩ ↦
      ⟨hnone, cn, hcn, hequal⟩

/-- A certificate for `a.test` by its alternative name, and for `*.b.test` by its common name, is
accepted for `x.b.test`. -/
theorem commonName_overrides_alternative : ¬ CommonNameRule miniX509 { miniParsed 2 1 0 7 2 with
        subject := ⟨[1], [some "*.b.test"]⟩
        extensions := [⟨oidSubjectAltName, false, .subjectAlternativeName [.dnsName "a.test"]⟩] }
          500 "x.b.test" := by
  intro hrule
  rcases hrule rfl with ⟨dns, ⟨_, hext, _, -, hparsed, hdns⟩, hmatches⟩ | ⟨hnone, -⟩
  · cases mem_singleton.mp hext
    cases hparsed
    cases mem_singleton.mp hdns
    exact absurd hmatches (by decide)
  · exact hnone "a.test" ⟨_, mem_singleton_self _, _, rfl, rfl, mem_singleton_self _⟩

lemma byteAt_append (front : Bytes) (octet : UInt8) (back : Bytes) :
    byteAt (front ++ octet :: back) front.length = .ok octet := by
  simp [byteAt]

lemma foldLengthOctets_append (front octets back : Bytes) :
    foldLengthOctets (front ++ octets ++ back) front.length octets.length =
    .ok (beNat octets % 2 ^ 64) := by
  -- The loop runs left to right, so the induction takes the last octet off.
  induction octets using reverseRecOn generalizing back with
  | nil => rfl
  | append_singleton octets last ih =>
    have hinit := ih ([last] ++ back)
    have hlast : byteAt (front ++ (octets ++ [last]) ++ back) (front.length + octets.length) =
        .ok last := by
      have hbyte := byteAt_append (front ++ octets) last back
      simpa only [append_assoc, length_append, singleton_append] using hbyte
    have hshift : (beNat octets % 2 ^ 64) <<< 8 ||| last.toNat =
        beNat octets % 2 ^ 64 * 256 + last.toNat := by
      rw [← Nat.shiftLeft_add_eq_or_of_lt last.toNat_lt, Nat.shiftLeft_eq]
    have hval : (beNat octets % 2 ^ 64 * 256 + last.toNat) % 2 ^ 64 =
        beNat (octets ++ [last]) % 2 ^ 64 := by
      rw [beNat_append, beNat_singleton, length_singleton, pow_one]
      omega
    unfold foldLengthOctets at hinit ⊢
    rw [length_append, length_singleton, range_succ, foldlM_append]
    simp only [append_assoc] at hinit hlast ⊢
    rw [hinit, ok_bind]
    simp only [foldlM_cons, foldlM_nil, hlast, ok_bind, hshift, hval]
    rfl

lemma readLengthField_eq_ok {unsupported : CryptoError} {front lengthOctets back : Bytes} {n : ℕ}
    {result : ℕ × ℕ} (hoct : LengthOctets lengthOctets n)
    (hread : readLengthField unsupported (front ++ lengthOctets ++ back) front.length =
    .ok result) :
    result = (n, front.length + lengthOctets.length) := by
  unfold readLengthField at hread
  cases hoct with
  | short octet hshort =>
    rw [append_assoc, singleton_append, byteAt_append, ok_bind, if_pos hshort] at hread
    exact (ok.inj hread).symm
  | long first octets hlong hcount hpos =>
    have hbyte : byteAt (front ++ first :: octets ++ back) front.length = .ok first := by
      rw [append_assoc, cons_append]
      exact byteAt_append front first _
    have hnum : (first &&& 0x7F).toNat = octets.length := (toNat_and_low hlong).trans hcount.symm
    have hfold := foldLengthOctets_append (front ++ [first]) octets back
    rw [append_assoc front, singleton_append, length_append, length_singleton] at hfold
    rw [hbyte, ok_bind, if_neg (UInt8.not_lt.mpr hlong)] at hread
    simp only [unit_bind_eq_ok, rejectIf_eq_ok, hnum, hfold, ok_bind, ok.injEq] at hread
    obtain ⟨hfour, hres⟩ := hread
    have hsmall : beNat octets < 2 ^ 64 := by
      refine lt_of_lt_of_le (beNat_lt octets) ?_
      calc 256 ^ octets.length ≤ 256 ^ 4 := Nat.pow_le_pow_right (by decide) (by omega)
        _ ≤ 2 ^ 64 := by decide
    rw [← hres, length_cons]
    simp only [Prod.mk.injEq]
    omega

lemma extractTbsBytes_eq_tbsCertificate {x509 : X509Library} (hfaithful : x509.Faithful)
    {der tbsBytes : Bytes} (hparse : x509.certificateFromDer der = .ok cert)
    (hextract : extractTbsBytes der = .ok tbsBytes) : tbsBytes = cert.tbsCertificate := by
  obtain ⟨content, rest, trailing, ⟨tbsLength, htbsLength, htbs⟩, outer,
    ⟨outerLength, houterLength, houter⟩, hder⟩ :=
      hfaithful.tbsCertificate_first der cert hparse
  -- The input, split once at each position the source reads a length field at.
  have hsplitOuter : der = [0x30] ++ outerLength ++ (cert.tbsCertificate ++ rest ++ trailing) := by
    rw [hder, houter]; simp
  have hsplitTbs : der = ([0x30] ++ outerLength ++ [0x30]) ++ tbsLength ++
      (content ++ rest ++ trailing) := by
    rw [hsplitOuter, htbs]; simp
  unfold extractTbsBytes at hextract
  simp only [bind_eq_ok, ok.injEq] at hextract
  obtain ⟨-, -, -, -, -, -, ⟨outerLen, pos⟩, hreadOuter, -, -, -, -, ⟨tbsLen, tbsPos⟩, hreadTbs, -,
    -, hslice⟩ := hextract
  rw [hsplitOuter] at hreadOuter
  obtain ⟨-, rfl⟩ := Prod.mk.inj (readLengthField_eq_ok houterLength hreadOuter)
  have hpos : ([0x30] ++ outerLength ++ [0x30] : Bytes).length =
      [(0x30 : UInt8)].length + outerLength.length + 1 := by
    simp only [length_append, length_singleton]
  rw [hsplitTbs, ← hpos] at hreadTbs
  obtain ⟨rfl, rfl⟩ := Prod.mk.inj (readLengthField_eq_ok htbsLength hreadTbs)
  have hend : ([0x30] ++ outerLength ++ [0x30] : Bytes).length + tbsLength.length + content.length =
      ([0x30] ++ outerLength : Bytes).length + cert.tbsCertificate.length := by
    rw [htbs]
    simp only [length_append, length_cons, length_nil]
    omega
  have hstart : [(0x30 : UInt8)].length + outerLength.length =
    ([0x30] ++ outerLength : Bytes).length := length_append.symm
  have hsplit : der = [0x30] ++ outerLength ++ cert.tbsCertificate ++ (rest ++ trailing) := by
    rw [hsplitOuter]
    simp only [append_assoc]
  rw [← hslice, hend, hstart, hsplit]
  exact drop_take_append _ _ _

variable (x509 : X509Library) (sm2 : Sm2Library)

/-- A signature value verifies over some bytes under the key of an issuer, for the standard
identifier. -/
def SignatureVerifies (texts : SignatureTexts) (issuer : X509Certificate)
    (tbsBytes signatureValue : Bytes) : Prop :=
  ∃ publicKey raw, sm2PubKey sm2 texts issuer = .ok publicKey ∧
    sigRaw texts signatureValue = .ok raw ∧ sm2.Accepts publicKey gmTlsDistid tbsBytes raw

lemma verifySm2Signature_strict_eq_ok {texts : SignatureTexts} {tbsBytes : Bytes}
    {caCert : X509Certificate} {sigBytes : Bytes} :
    verifySm2Signature sm2 texts tbsBytes caCert sigBytes .strict = .ok () ↔
      SignatureVerifies sm2 texts caCert tbsBytes sigBytes := by
  unfold verifySm2Signature SignatureVerifies
  simp only [bind_eq_ok, mapError_eq_ok, new_eq_ok]
  constructor
  · rintro ⟨publicKey, hkey, raw, hraw, verifier, ⟨hnew, rfl⟩, hver⟩
    refine ⟨publicKey, raw, hkey, hraw, (verify_eq_ok sm2 hnew).mp ?_⟩
    cases hres : verify sm2 ⟨publicKey, gmTlsDistid⟩ tbsBytes raw with
    | ok _ => rfl
    | error e => simp [hres] at hver
  rintro ⟨publicKey, raw, hkey, hraw, hacc⟩
  refine ⟨publicKey, hkey, raw, hraw, _, ⟨hacc.key, rfl⟩, ?_⟩
  rw [(verify_eq_ok sm2 hacc.key).mpr hacc]

/-- A certificate was issued by another. -/
structure IssuedBy (now : Instant) (child issuer : X509Certificate) : Prop where
  names : child.issuer = issuer.subject
  signature : SignatureVerifies sm2 certificateTexts issuer child.tbsCertificate
    child.signatureValue
  child_valid : ValidAt now child
  issuer_valid : ValidAt now issuer

/-- Two owned certificates parse, and the first was issued by the second. -/
def LinkValid (now : Instant) (child issuer : OwnedCert) : Prop :=
  ∃ childCert issuerCert, x509.certificateFromDer child.der = .ok childCert ∧
    x509.certificateFromDer issuer.der = .ok issuerCert ∧ IssuedBy sm2 now childCert issuerCert

variable {expectedDomain : Option String} {now : Instant}

lemma linkValid_of_verify {x509 : X509Library} (hfaithful : x509.Faithful) {leaf ca : OwnedCert}
    (hok : verifyCertChainSm2WithDistid x509 sm2 leaf ca now expectedDomain .strict = .ok ()) :
    LinkValid x509 sm2 now leaf ca ∧ ∃ cert, x509.certificateFromDer leaf.der = .ok cert ∧
      ∀ domain ∈ expectedDomain, PresentsDomain x509 cert domain := by
  unfold verifyCertChainSm2WithDistid verifyCertSignatureWithDistid at hok
  simp only [bind_eq_ok, asX509_eq_ok] at hok
  obtain ⟨leafCert, hleaf, caCert, hca, ⟨⟩, hvalidLeaf, ⟨⟩, hvalidCa, ⟨⟩, hnames, tbsBytes,
    htbs, hsig⟩ := hok
  rw [validateCertParsed_eq_ok] at hvalidLeaf hvalidCa
  rw [rejectIf_eq_ok, not_not] at hnames
  rw [verifySm2Signature_strict_eq_ok,
    extractTbsBytes_eq_tbsCertificate hfaithful hleaf htbs] at hsig
  exact ⟨⟨leafCert, caCert, hleaf, hca, hnames, hsig, hvalidLeaf.1, hvalidCa.1⟩, leafCert,
    hleaf, hvalidLeaf.2⟩

/-! ### The walk -/

lemma searchAnchors_eq_none {link : OwnedCert → Except CryptoError Unit}
    {roleCheck : Except CryptoError Unit} {anchors : List OwnedCert} {slot : Option CryptoError}
    (hanchors : anchors ≠ [] ∨ slot ≠ none)
    (hsearch : searchAnchors link roleCheck slot anchors = .ok none) :
    (∃ anchor ∈ anchors, link anchor = .ok ()) ∧ roleCheck = .ok () := by
  -- The slot is set by every anchor that fails, so only a match can leave it empty.
  induction anchors generalizing slot with
  | nil =>
    have hslot : slot = none := ok.inj hsearch
    simp [hslot] at hanchors
  | cons anchor rest ih =>
    unfold searchAnchors at hsearch
    cases hlink : link anchor with
    | ok _ =>
      simp only [hlink, unit_bind_eq_ok] at hsearch
      exact ⟨⟨anchor, mem_cons_self, hlink⟩, hsearch.1⟩
    | error e =>
      simp only [hlink] at hsearch
      obtain ⟨⟨match_, hmem, hmatch⟩, hrole⟩ := ih (Or.inr (by simp)) hsearch
      exact ⟨⟨match_, mem_cons_of_mem _ hmem, hmatch⟩, hrole⟩

/-- What the loop body establishes at a position. -/
inductive ElementAccepted (leafChain trustAnchors : List OwnedCert) (now : Instant)
    (expectedDomain : Option String) (role : Option CertRole) (policy : DistidPolicy)
    (idx : Fin leafChain.length) (cert : X509Certificate) : Prop
  | inner (hnext : idx.val + 1 < leafChain.length)
      (link : verifyCertChainSm2WithDistid x509 sm2 leafChain[idx] leafChain[idx.val + 1] now
        (if idx.val = 0 then expectedDomain else none) policy = .ok ())
      (hrole : ∀ r ∈ (if idx.val = 0 then role else some .ca), AllowsRole cert r)
      (hconstraints : 1 ≤ idx.val → checkBasicConstraints idx cert = .ok ())
  | last (hlast : idx.val + 1 = leafChain.length) (anchor : OwnedCert)
    (hanchor : anchor ∈ trustAnchors)
      (link : verifyCertChainSm2WithDistid x509 sm2 leafChain[idx] anchor now
        (if idx.val = 0 then expectedDomain else none) policy = .ok ())
      (hrole : ∀ r ∈ (if leafChain.length = 1 then role else some .ca), AllowsRole cert r)

variable {leafChain trustAnchors : List OwnedCert} {policy : DistidPolicy}

lemma elementAccepted_of_ok {idx : Fin leafChain.length} (hanchors : trustAnchors ≠ [])
    (hok : verifyChainElement x509 sm2 leafChain trustAnchors now expectedDomain role policy idx =
    .ok ()) :
    ∃ cert, x509.certificateFromDer (leafChain.get idx).der = .ok cert ∧
    CriticalExtensionsKnown cert ∧
      ElementAccepted x509 sm2 leafChain trustAnchors now expectedDomain role policy idx cert := by
  unfold verifyChainElement at hok
  simp only [bind_eq_ok, asX509_eq_ok] at hok
  obtain ⟨cert, hparse, ⟨⟩, hcritical, hrest⟩ := hok
  refine ⟨cert, hparse, checkUnknownCriticalExtensions_eq_ok.mp hcritical, ?_⟩
  by_cases hnext : idx.val + 1 < leafChain.length
  · simp only [dif_pos hnext, bind_eq_ok, asX509_eq_ok, hparse, ok.injEq] at hrest
    obtain ⟨⟨⟩, hlink, _, rfl, ⟨⟩, hrole, hconstr⟩ := hrest
    refine .inner hnext hlink (verifyOptionalRole_eq_ok.mp hrole) fun hidx ↦ ?_
    rwa [if_pos hidx] at hconstr
  simp only [dif_neg hnext, bind_eq_ok] at hrest
  obtain ⟨lastErr, hsearch, hslot⟩ := hrest
  cases lastErr with
  | some e => simp at hslot
  | none =>
    obtain ⟨⟨anchor, hanchor, hlink⟩, hroleCheck⟩ :=
      searchAnchors_eq_none (Or.inl hanchors) hsearch
    simp only [bind_eq_ok, asX509_eq_ok, hparse, ok.injEq, exists_eq_left'] at hroleCheck
    exact .last (by omega) anchor hanchor hlink (verifyOptionalRole_eq_ok.mp hroleCheck)

lemma searchAnchors_of_mem {link : OwnedCert → Except CryptoError Unit}
    {roleCheck : Except CryptoError Unit}
    {anchors : List OwnedCert} {anchor : OwnedCert} (hmem : anchor ∈ anchors)
    (hlink : link anchor = .ok ())
    (hrole : roleCheck = .ok ()) (slot : Option CryptoError) :
    searchAnchors link roleCheck slot anchors = .ok none := by
  induction anchors generalizing slot with
  | nil => cases hmem
  | cons first rest ih =>
    unfold searchAnchors
    cases hfirst : link first with
    | ok _ =>
      simp only [hrole, ok_bind]
    | error e =>
      rcases mem_cons.mp hmem with rfl | hrest
      · rw [hlink] at hfirst
        cases hfirst
      · exact ih hrest (some e)

lemma ok_of_elementAccepted {idx : Fin leafChain.length} {cert : X509Certificate}
    (hparse : x509.certificateFromDer (leafChain.get idx).der = .ok cert)
    (hcritical : CriticalExtensionsKnown cert)
    (haccepted : ElementAccepted x509 sm2 leafChain trustAnchors now expectedDomain
    role policy idx cert) :
    verifyChainElement x509 sm2 leafChain trustAnchors now expectedDomain role policy idx =
    .ok () := by
  have hx509 : (leafChain.get idx).asX509 x509 = .ok cert := (asX509_eq_ok x509).mpr hparse
  unfold verifyChainElement
  simp only [← get_eq_getElem, Fin.getElem_fin, hx509, ok_bind,
    checkUnknownCriticalExtensions_eq_ok.mpr hcritical]
  cases haccepted with
  | inner hnext hlink hrole hconstraints =>
    rw [dif_pos hnext]
    simp only [Fin.getElem_fin] at hlink
    simp only [get_eq_getElem, hlink, ok_bind, verifyOptionalRole_eq_ok.mpr hrole]
    split_ifs with hidx
    · exact hconstraints hidx
    · rfl
  | last hlast anchor hanchor hlink hrole =>
    rw [dif_neg (by omega)]
    simp only [Fin.getElem_fin] at hlink
    simp only [get_eq_getElem]
    rw [searchAnchors_of_mem hanchor hlink (verifyOptionalRole_eq_ok.mpr hrole), ok_bind]

/-- The chain is accepted certificate by certificate. -/
structure ChainAccepted (leafChain trustAnchors : List OwnedCert) (now : Instant)
    (expectedDomain : Option String)
    (role : Option CertRole) (policy : DistidPolicy) : Prop where
  nonempty : leafChain ≠ []
  anchored : trustAnchors ≠ []
  depth : leafChain.length ≤ maxCertChainDepth
  elements : ∀ idx : Fin leafChain.length, ∃ cert, x509.certificateFromDer (leafChain.get idx).der =
    .ok cert ∧
    CriticalExtensionsKnown cert ∧ ElementAccepted x509 sm2 leafChain trustAnchors now
      expectedDomain role policy idx cert

lemma chain_eq_ok_iff :
    verifyCertChainSm2ChainWithDistidPolicy x509 sm2 leafChain trustAnchors now expectedDomain
    role policy = .ok () ↔
      ChainAccepted x509 sm2 leafChain trustAnchors now expectedDomain role policy := by
  unfold verifyCertChainSm2ChainWithDistidPolicy
  simp only [unit_bind_eq_ok, rejectIf_eq_ok, not_or, forM_eq_ok, not_lt, gt_iff_lt]
  constructor
  · rintro ⟨⟨hchain, hanchors⟩, hdepth, hall⟩
    exact ⟨hchain, hanchors, hdepth, fun idx ↦ elementAccepted_of_ok x509 sm2 hanchors
      (hall idx (mem_finRange idx))⟩
  · rintro ⟨hchain, hanchors, hdepth, hall⟩
    refine ⟨⟨hchain, hanchors⟩, hdepth, fun idx _ ↦ ?_⟩
    obtain ⟨cert, hparse, hcritical, haccepted⟩ := hall idx
    exact ok_of_elementAccepted x509 sm2 hparse hcritical haccepted

/-- The certificate parses, has no unknown critical extension and allows the role. -/
def Suits (owned : OwnedCert) (role : Option CertRole) : Prop :=
  ∃ cert, x509.certificateFromDer owned.der = .ok cert ∧ CriticalExtensionsKnown cert ∧ ∀ r ∈ role,
    AllowsRole cert r

/-- Each certificate is issued by the next and the last by an anchor, with the path lengths and the
depth respected. -/
structure IssuerLine (leafChain trustAnchors : List OwnedCert) (now : Instant)
    (expectedDomain : Option String)
    (policy : DistidPolicy) : Prop where
  depth : leafChain.length ≤ maxCertChainDepth
  links : ∀ i (_ : i + 1 < leafChain.length), verifyCertChainSm2WithDistid x509 sm2 leafChain[i]
    leafChain[i + 1] now
    (if i = 0 then expectedDomain else none) policy = .ok ()
  pathLengths : ∀ i (_ : i + 1 < leafChain.length), 1 ≤ i → ∀ cert,
    x509.certificateFromDer leafChain[i].der = .ok cert → checkBasicConstraints i cert = .ok ()
  anchored : ∀ i (_ : i + 1 = leafChain.length), ∃ anchor ∈ trustAnchors,
    verifyCertChainSm2WithDistid x509 sm2
    leafChain[i] anchor now (if i = 0 then expectedDomain else none) policy = .ok ()

variable {leaf : OwnedCert} {path : List OwnedCert}

lemma issuerLine_pair {x509 : X509Library} {sm2 : Sm2Library} {ca anchor : OwnedCert}
    (hlink : verifyCertChainSm2WithDistid x509 sm2 leaf ca now expectedDomain policy = .ok ())
    (hanchor : anchor ∈ trustAnchors)
    (htop : verifyCertChainSm2WithDistid x509 sm2 ca anchor now none policy = .ok ()) :
    IssuerLine x509 sm2 [leaf, ca] trustAnchors now expectedDomain policy := by
  refine ⟨by simp [maxCertChainDepth], fun i hi ↦ ?_, fun i hi hpos ↦ ?_, fun i hi ↦ ?_⟩
  · obtain rfl : i = 0 := by simpa using hi
    exact hlink
  · simp only [length_cons, length_nil] at hi
    omega
  · obtain rfl : i = 1 := by simpa using hi
    exact ⟨anchor, hanchor, htop⟩

lemma ChainAccepted.suits (haccepted : ChainAccepted x509 sm2 (leaf :: path) trustAnchors now
    expectedDomain role policy) :
    Suits x509 leaf role ∧ ∀ owned ∈ path, Suits x509 owned (some .ca) := by
  constructor
  · obtain ⟨cert, hparse, hcritical, hleaf⟩ := haccepted.elements ⟨0, Nat.zero_lt_succ _⟩
    refine ⟨cert, hparse, hcritical, ?_⟩
    cases hleaf with
    | inner hnext hlink hrole hconstraints => exact hrole
    | last hlast anchor hanchor hlink hrole => rwa [if_pos hlast.symm] at hrole
  · intro owned howned
    obtain ⟨i, hi, rfl⟩ := getElem_of_mem howned
    obtain ⟨cert, hparse, hcritical, helement⟩ := haccepted.elements ⟨i + 1, Nat.succ_lt_succ hi⟩
    refine ⟨cert, hparse, hcritical, ?_⟩
    cases helement with
    | inner hnext hlink hrole hconstraints => exact hrole
    | last hlast anchor hanchor hlink hrole =>
      rwa [if_neg (by rw [length_cons]; omega)] at hrole

/-- Where the certificates suit their places, a chain is accepted exactly if it is a line of
issuers. -/
lemma chainAccepted_iff_issuerLine (hanchors : trustAnchors ≠ []) (hleaf : Suits x509 leaf role)
    (hpath : ∀ owned ∈ path, Suits x509 owned (some .ca)) :
    ChainAccepted x509 sm2 (leaf :: path) trustAnchors now expectedDomain role policy ↔
      IssuerLine x509 sm2 (leaf :: path) trustAnchors now expectedDomain policy := by
  constructor
  · rintro ⟨-, -, hdepth, hall⟩
    refine ⟨hdepth, fun i hi ↦ ?_, fun i hi hpos cert hcert ↦ ?_, fun i hi ↦ ?_⟩
    · obtain ⟨cert, -, -, helement⟩ := hall ⟨i, by omega⟩
      cases helement with
      | inner hnext hlink hrole hconstraints => exact hlink
      | last hlast anchor hanchor hlink hrole => simp only at hlast; omega
    · obtain ⟨other, hparse, -, helement⟩ := hall ⟨i, by omega⟩
      obtain rfl : other = cert := ok.inj (hparse.symm.trans hcert)
      cases helement with
      | inner hnext hlink hrole hconstraints => exact hconstraints hpos
      | last hlast anchor hanchor hlink hrole => simp only at hlast; omega
    · obtain ⟨cert, -, -, helement⟩ := hall ⟨i, by omega⟩
      cases helement with
      | inner hnext hlink hrole hconstraints => simp only at hnext; omega
      | last hlast anchor hanchor hlink hrole => exact ⟨anchor, hanchor, hlink⟩
  · rintro ⟨hdepth, hlinks, hlengths, hanchored⟩
    refine ⟨cons_ne_nil _ _, hanchors, hdepth, fun idx ↦ ?_⟩
    have hsuits : Suits x509 ((leaf :: path).get idx) (if idx.val = 0 then role else some .ca) := by
      obtain ⟨i, hi⟩ := idx
      cases i with
      | zero => exact hleaf
      | succ i => exact hpath _ (getElem_mem _)
    obtain ⟨cert, hparse, hcritical, hrole⟩ := hsuits
    refine ⟨cert, hparse, hcritical, ?_⟩
    by_cases hnext : idx.val + 1 < (leaf :: path).length
    · exact .inner hnext (hlinks _ hnext) hrole fun hpos ↦ hlengths _ hnext hpos cert hparse
    · have hlast : idx.val + 1 = (leaf :: path).length := by omega
      obtain ⟨anchor, hanchor, hlink⟩ := hanchored _ hlast
      refine .last hlast anchor hanchor hlink ?_
      have hplace : (if (leaf :: path).length = 1 then role else some .ca) = if idx.val =
        0 then role else some .ca :=
        if_congr (by omega) rfl rfl
      rwa [hplace]

/-- Path validation: the chain is linked certificate by certificate to a trust anchor, within the
depth bound, without unknown critical extensions, and the leaf is what was asked for. -/
structure PathValid (leafChain trustAnchors : List OwnedCert) (now : Instant)
    (expectedDomain : Option String) (role : Option CertRole) : Prop where
  nonempty : 1 ≤ leafChain.length
  depth : leafChain.length ≤ maxCertChainDepth
  links : ∀ i (_ : i + 1 < leafChain.length), LinkValid x509 sm2 now leafChain[i] leafChain[i + 1]
  anchored : ∃ anchor ∈ trustAnchors,
    LinkValid x509 sm2 now (leafChain[leafChain.length - 1]) anchor
  critical : ∀ owned ∈ leafChain, ∃ cert, x509.certificateFromDer owned.der = .ok cert ∧
    CriticalExtensionsKnown cert
  leaf : ∃ cert, x509.certificateFromDer (leafChain[0]).der = .ok cert ∧
    (∀ domain ∈ expectedDomain, PresentsDomain x509 cert domain) ∧ ∀ r ∈ role, AllowsRole cert r

/-- Soundness of path validation. Assumes: a faithful parser, and a chain accepted under the strict
identifier policy. -/
theorem verifyCertChainSm2Chain_pathValid {x509 : X509Library} (hfaithful : x509.Faithful)
    (leafChain trustAnchors : List OwnedCert) (now : Instant) (expectedDomain : Option String)
    (role : Option CertRole)
    (hok : verifyCertChainSm2ChainWithDistidPolicy x509 sm2 leafChain trustAnchors
    now expectedDomain
      role .strict = .ok ()) :
    PathValid x509 sm2 leafChain trustAnchors now expectedDomain role := by
  obtain ⟨hchain, -, hdepth, hall⟩ := (chain_eq_ok_iff x509 sm2).mp hok
  have hpos : 0 < leafChain.length := length_pos_iff.mpr hchain
  refine ⟨hpos, hdepth, fun i hi ↦ ?_, ?_, fun owned howned ↦ ?_, ?_⟩
  · obtain ⟨cert, -, -, haccepted⟩ := hall ⟨i, by omega⟩
    cases haccepted with
    | inner hnext hlink hrole hconstraints => exact (linkValid_of_verify sm2 hfaithful hlink).1
    | last hlast anchor hanchor hlink hrole => simp only at hlast; omega
  · obtain ⟨cert, -, -, haccepted⟩ := hall ⟨leafChain.length - 1, by omega⟩
    cases haccepted with
    | inner hnext hlink hrole hconstraints => simp only at hnext; omega
    | last hlast anchor hanchor hlink hrole =>
      exact ⟨anchor, hanchor, (linkValid_of_verify sm2 hfaithful hlink).1⟩
  · obtain ⟨i, hi, rfl⟩ := getElem_of_mem howned
    obtain ⟨cert, hparse, hcritical, -⟩ := hall ⟨i, hi⟩
    exact ⟨cert, hparse, hcritical⟩
  obtain ⟨cert, hparse, -, haccepted⟩ := hall ⟨0, hpos⟩
  refine ⟨cert, hparse, ?_⟩
  have hsame {other : X509Certificate} (hother : x509.certificateFromDer (leafChain[0]).der =
    .ok other) : other = cert :=
    ok.inj (hother.symm.trans hparse)
  cases haccepted with
  | inner hnext hlink hrole hconstraints =>
    obtain ⟨-, other, hother, hpresents⟩ := linkValid_of_verify sm2 hfaithful hlink
    obtain rfl := hsame hother
    exact ⟨by simpa using hpresents, by simpa using hrole⟩
  | last hlast anchor hanchor hlink hrole =>
    obtain ⟨-, other, hother, hpresents⟩ := linkValid_of_verify sm2 hfaithful hlink
    obtain rfl := hsame hother
    have hone : leafChain.length = 1 := hlast.symm
    rw [if_pos hone] at hrole
    exact ⟨by simpa using hpresents, hrole⟩

/-- A leaf under a CA under an anchor, in the small profile, is a valid path. -/
theorem pathValid_mini_leaf_ca : verifyCertChainSm2ChainWithDistidPolicy miniX509 miniSm2
        [⟨miniCertificate 2 1 0 7 2⟩, ⟨miniCertificate 3 2 2 8 3⟩] [⟨miniCertificate 3 3 2 9 3⟩] 500
        none (some .tlcServer) .strict = .ok () ∧
      PathValid miniX509 miniSm2 [⟨miniCertificate 2 1 0 7 2⟩, ⟨miniCertificate 3 2 2 8 3⟩]
        [⟨miniCertificate 3 3 2 9 3⟩] 500 none (some .tlcServer) :=
  ⟨by rfl, verifyCertChainSm2Chain_pathValid miniSm2 miniX509_faithful _ _ _ _ _ (by rfl)⟩

def X509Certificate.basicConstraints (cert : X509Certificate) : Option BasicConstraints :=
  match cert.findExtension oidBasicConstraints with
  | some { parsed := .basicConstraints constraints, .. } => some constraints
  | _ => none

/-- The certificate is a CA that allows `below` intermediates under it. -/
def HasIssuerAuthority (below : ℕ) (cert : X509Certificate) : Prop :=
  ∃ constraints, cert.basicConstraints = some constraints ∧ constraints.ca = true ∧
    ∀ maxPathlen ∈ constraints.pathLenConstraint, below ≤ maxPathlen

/-- Every certificate above the leaf, the last one included, has the authority to issue the ones
below it. -/
def ChainAuthority (leafChain : List OwnedCert) : Prop :=
  ∀ i (_ : i < leafChain.length), 1 ≤ i →
    ∃ cert, x509.certificateFromDer leafChain[i].der = .ok cert ∧ HasIssuerAuthority (i - 1) cert

/-- The `BasicConstraints` extension, if there is one, has a value that parses. -/
def ConstraintsReadable (cert : X509Certificate) : Prop :=
  ∀ ext, cert.findExtension oidBasicConstraints = some ext → ∃ constraints, ext.parsed =
    .basicConstraints constraints

lemma hasIssuerAuthority_iff {idx : ℕ} {cert : X509Certificate} :
    HasIssuerAuthority (idx - 1) cert ↔
      checkBasicConstraints idx cert = .ok () ∧ ConstraintsReadable cert := by
  unfold HasIssuerAuthority checkBasicConstraints ConstraintsReadable
    X509Certificate.basicConstraints
  cases hfind : cert.findExtension oidBasicConstraints with
  | none => simp
  | some ext =>
    obtain ⟨oid, critical, parsed⟩ := ext
    cases parsed with
    | basicConstraints constraints =>
      obtain ⟨ca, pathLen⟩ := constraints
      cases pathLen <;> simp [unit_bind_eq_ok]
    | keyUsage usage => simp
    | extendedKeyUsage usage => simp
    | subjectAlternativeName names => simp
    | other => simp

/-- Every `BasicConstraints` value above the leaf parses, and the last certificate of a chain of two
or more passes the check that the walk makes on the others. -/
theorem chainAuthority_iff (leafChain trustAnchors : List OwnedCert) (now : Instant)
    (expectedDomain : Option String) (role : Option CertRole) (policy : DistidPolicy)
    (hok : verifyCertChainSm2ChainWithDistidPolicy x509 sm2 leafChain trustAnchors now
    expectedDomain role policy = .ok ()) :
    ChainAuthority x509 leafChain ↔ (∀ i (_ : i < leafChain.length), 1 ≤ i → ∀ cert,
        x509.certificateFromDer leafChain[i].der = .ok cert → ConstraintsReadable cert) ∧
      (∀ i (_ : i < leafChain.length), 1 ≤ i → i + 1 = leafChain.length → ∀ cert,
        x509.certificateFromDer leafChain[i].der = .ok cert → checkBasicConstraints i cert =
        .ok ()) := by
  obtain ⟨-, -, -, hall⟩ := (chain_eq_ok_iff x509 sm2).mp hok
  constructor
  · intro hauthority
    have hboth (i : ℕ) (hi : i < leafChain.length) (hpos : 1 ≤ i) (cert : X509Certificate)
        (hparse : x509.certificateFromDer leafChain[i].der = .ok cert) :
        checkBasicConstraints i cert = .ok () ∧ ConstraintsReadable cert := by
      obtain ⟨other, hother, hissuer⟩ := hauthority i hi hpos
      obtain rfl : other = cert := ok.inj (hother.symm.trans hparse)
      exact hasIssuerAuthority_iff.mp hissuer
    exact ⟨fun i hi hpos cert hparse ↦ (hboth i hi hpos cert hparse).2,
      fun i hi hpos _ cert hparse ↦ (hboth i hi hpos cert hparse).1⟩
  rintro ⟨hreadable, hlastCheck⟩ i hi hpos
  obtain ⟨cert, hparse, -, haccepted⟩ := hall ⟨i, hi⟩
  refine ⟨cert, hparse, hasIssuerAuthority_iff.mpr ⟨?_, hreadable i hi hpos cert hparse⟩⟩
  cases haccepted with
  | inner hnext hlink hrole hconstraints => exact hconstraints hpos
  | last hlast anchor hanchor hlink hrole => exact hlastCheck i hi hpos hlast cert hparse

/-- A leaf under a CA: accepted, and the CA has authority, as the condition predicts. -/
theorem chainAuthority_mini_leaf_ca :
    ChainAuthority miniX509 [⟨miniCertificate 2 1 0 7 2⟩, ⟨miniCertificate 3 2 2 8 3⟩] := by
  refine (chainAuthority_iff miniX509 miniSm2 _ [⟨miniCertificate 3 3 2 9 3⟩] 500 none
    (some .tlcServer) .strict (by rfl)).mpr ⟨?_, ?_⟩
  · intro i hi hpos cert hparse
    obtain rfl : i = 1 := by simp only [length_cons, length_nil] at hi; omega
    obtain rfl := ok.inj hparse
    rintro ext hext
    obtain rfl := Option.some.inj hext
    exact ⟨_, rfl⟩
  intro i hi hpos _ cert hparse
  obtain rfl : i = 1 := by simp only [length_cons, length_nil] at hi; omega
  obtain rfl := ok.inj hparse
  rfl

/-- A leaf under an end-entity certificate without `BasicConstraints`, whose issuer is an anchor:
the chain is accepted, and its last certificate has no authority to issue. -/
theorem not_chainAuthority_mini_end_entity :
    verifyCertChainSm2ChainWithDistidPolicy miniX509 miniSm2
        [⟨miniCertificate 2 1 0 7 2⟩, ⟨miniCertificate 3 2 0 8 3⟩] [⟨miniCertificate 3 3 2 9 3⟩] 500
        none (some .tlcServer) .strict = .ok () ∧
      ¬ ChainAuthority miniX509 [⟨miniCertificate 2 1 0 7 2⟩, ⟨miniCertificate 3 2 0 8 3⟩] := by
  refine ⟨by rfl, fun hauthority ↦ ?_⟩
  obtain ⟨cert, hparse, constraints, hconstraints, -⟩ := hauthority 1 (by decide) (by decide)
  obtain rfl := ok.inj hparse
  cases hconstraints

end GmStack.X509
