import GmStack.Tlcp.Agreement

/-! Which certificate lists are accepted, which certificates a server sends, and whether a client
finds both chains in one list. -/

namespace GmStack.Tlcp

open Foundation Crypto X509 List CertPair

def CertifiesSuite {F G1 G2 : Type} (acceptor : TlcpAcceptor F G1 G2) (suite : TlcpCipherSuite)
    (pair : CertPair) : Prop :=
  if suite.keyExchange = .rsa then
    pair.entries.head? = acceptor.rsaCert ∧
      (acceptor.rsaSingleCertMode → pair.entries = acceptor.rsaCert.toList)
  else pair.entries.take 2 = acceptor.signCert.toList ++ acceptor.encCert.toList

/-- The slots are filled before the suite is known: where SM2 certificates are configured, they are
sent under an RSA suite as well. -/
theorem serverCertPair_certifiesSuite_iff {F G1 G2 : Type} {acceptor : TlcpAcceptor F G1 G2}
    {signCert encCert : Bytes}
    {signKey : Sm2KeyPair F}
    (hsign : acceptor.signCert = some signCert) (henc : acceptor.encCert = some encCert)
    (hkey : acceptor.signKey = some signKey) (suite : TlcpCipherSuite) :
    serverCertificates acceptor = .ok (signCert, encCert) ∧
      (CertifiesSuite acceptor suite (serverCertPair acceptor suite signCert encCert) ↔
        suite.keyExchange ≠ .rsa ∨ acceptor.signCert = acceptor.rsaCert) := by
  constructor
  · rw [serverCertificates, hsign, henc, hkey]
    rfl
  · unfold CertifiesSuite serverCertPair
    rw [hsign, henc]
    by_cases hmode : suite.keyExchange = .rsa
    · cases hsingle : acceptor.rsaSingleCertMode
      · simp [hmode, withChains, entries]
      · simp only [hmode, newSingle, entries, head?_cons, if_true, and_self, ne_eq,
          not_true_eq_false, false_or,
          forall_const, and_iff_left_iff_imp]
        intro hsame
        rw [← hsame]
        rfl
    · simp [hmode, withChains, entries]

def miniBoth : TlcpAcceptor MiniScalar MiniElement MiniElement :=
  { miniAcceptor with signCert := some [1], encCert := some [2], rsaCert := some [3] }

theorem miniBoth_certifies_ecc :
    CertifiesSuite miniBoth .eccSm4GcmSm3 (serverCertPair miniBoth .eccSm4GcmSm3 [1] [2]) :=
  (@serverCertPair_certifiesSuite_iff _ _ _ miniBoth _ _ _ rfl rfl rfl .eccSm4GcmSm3).2.mpr
    (.inl (by decide))

/-- Under an RSA suite the two SM2 certificates are sent. -/
theorem miniBoth_not_certifies_rsa : serverCertificates miniBoth = .ok ([1], [2]) ∧
    (serverCertPair miniBoth .rsaSm4GcmSm3 [1] [2]).entries = [[1], [2]] ∧
    ¬ CertifiesSuite miniBoth .rsaSm4GcmSm3 (serverCertPair miniBoth .rsaSm4GcmSm3 [1] [2]) := by
  refine ⟨rfl, rfl, fun hcertifies ↦ ?_⟩
  cases hcertifies.1

/-- The octets of a list: its length in three octets, and the entries. -/
def StrictList (body : Bytes) : Prop :=
  ∃ certs : List Bytes, (∀ cert ∈ certs, cert.length < 256 ^ 3) ∧
    (certEntriesToBytes certs).length < 256 ^ 3 ∧
    body = lengthThen 3 (certEntriesToBytes certs)

/-- Fewer than three octets, or a length that announces more than there is. -/
def Truncated (rest : Bytes) : Prop := rest.length < 3 ∨ (rest.drop 3).length < beNat (rest.take 3)

/-- Any three octets, whole entries, and a rest that does not begin with a whole entry. -/
structure ListOctets (body total : Bytes) (certs : List Bytes) (rest : Bytes) : Prop where
  octets : body = total ++ (certEntriesToBytes certs ++ rest)
  length_total : total.length = 3
  length_cert : ∀ cert ∈ certs, cert.length < 256 ^ 3
  truncated : Truncated rest

lemma truncated_iff {rest : Bytes} : Truncated rest ↔ ∀ cert more : Bytes, cert.length < 256 ^ 3 →
    rest ≠ lengthThen 3 cert ++ more := by
  constructor
  · rintro htrunc cert more hcert rfl
    rw [Truncated, lengthThen, append_assoc, take_left' (length_beOctets 3 _),
      drop_left' (length_beOctets 3 _),
      beNat_beOctets hcert, length_append, length_append, length_beOctets] at htrunc
    omega
  · intro hnone
    by_contra hwhole
    rw [Truncated, not_or, not_lt, not_lt] at hwhole
    have hwidth : (rest.take 3).length = 3 := length_take_of_le hwhole.1
    have hcert : ((rest.drop 3).take (beNat (rest.take 3))).length = beNat (rest.take 3) :=
      length_take_of_le hwhole.2
    have hbound := beNat_lt (rest.take 3)
    rw [hwidth] at hbound
    refine hnone _ ((rest.drop 3).drop (beNat (rest.take 3))) (by rw [hcert]; exact hbound) ?_
    have hback := beOctets_beNat (rest.take 3)
    rw [hwidth] at hback
    rw [lengthThen, hcert, hback, append_assoc, take_append_drop, take_append_drop]

lemma certEntries_append {certs : List Bytes} {rest : Bytes}
    (hlen : ∀ cert ∈ certs, cert.length < 256 ^ 3)
    (htrunc : Truncated rest) {fuel : ℕ} (hfuel : certs.length ≤ fuel) :
    certEntries fuel (certEntriesToBytes certs ++ rest) = certs := by
  induction certs generalizing fuel with
  | nil =>
    cases fuel with
    | zero => rfl
    | succ fuel =>
      rw [certEntries]
      split
      · rename_i cert more htake
        obtain ⟨hrest, hcert⟩ := takeLengthThen_eq_ok.mp htake
        exact absurd hrest (truncated_iff.mp htrunc cert more hcert)
      · rfl
  | cons cert others ih =>
    cases fuel with
    | zero => cases hfuel
    | succ fuel =>
      obtain ⟨hcert, hothers⟩ := forall_mem_cons.mp hlen
      simp only [certEntries, certEntriesToBytes, flatMap_cons, append_assoc,
        takeLengthThen_append hcert]
      exact congrArg (cert :: ·) (ih hothers (Nat.le_of_succ_le_succ hfuel))

/-- What the loop finds are whole entries, and it stops where none follows. -/
lemma exists_certEntries {fuel : ℕ} {input : Bytes} (hfuel : input.length < fuel) :
    (∀ cert ∈ certEntries fuel input, cert.length < 256 ^ 3) ∧
      ∃ rest, input = certEntriesToBytes (certEntries fuel input) ++ rest ∧ Truncated rest := by
  induction fuel generalizing input with
  | zero => cases hfuel
  | succ fuel ih =>
    rw [certEntries]
    split
    · rename_i cert more htake
      obtain ⟨rfl, hcert⟩ := takeLengthThen_eq_ok.mp htake
      rw [length_append, length_lengthThen] at hfuel
      have hless : more.length < fuel := by omega
      obtain ⟨hlen, rest, hmore, htrunc⟩ := ih hless
      refine ⟨forall_mem_cons.mpr ⟨hcert, hlen⟩, rest, ?_, htrunc⟩
      conv_lhs => rw [hmore]
      simp [certEntriesToBytes]
    · rename_i error htake
      refine ⟨(fun cert hcert ↦ by cases hcert), input, rfl,
        truncated_iff.mpr fun cert more hcert heq ↦ ?_⟩
      rw [heq, takeLengthThen_append hcert] at htake
      cases htake

lemma exists_listOctets {body : Bytes} (hlong : 3 ≤ body.length) :
    ∃ total certs rest, ListOctets body total certs rest := by
  have hless : (body.drop 3).length < body.length := by
    rw [length_drop]
    omega
  obtain ⟨hlen, rest, hrest, htrunc⟩ := exists_certEntries hless
  refine ⟨body.take 3, _, rest, ?_, length_take_of_le hlong, hlen, htrunc⟩
  rw [← hrest, take_append_drop]

section Octets

variable {body total rest : Bytes} {certs : List Bytes} (hlist : ListOctets body total certs rest)

include hlist

lemma ListOctets.clientCertificates_eq : clientCertificates body = certs := by
  have hfuel := length_le_certEntriesToBytes certs
  have hlength := congrArg length hlist.octets
  rw [length_append, length_append, hlist.length_total] at hlength
  rw [clientCertificates, if_pos (by omega)]
  conv_lhs => rw [hlist.octets, drop_left' hlist.length_total]
  rw [certEntries_append hlist.length_cert hlist.truncated]
  rw [length_append, length_append, hlist.length_total]
  omega

lemma ListOctets.strictList_iff : StrictList body ↔ rest = [] ∧ beNat total =
    (certEntriesToBytes certs).length := by
  constructor
  · rintro ⟨others, hlen, htotal, hbody⟩
    have hother : ListOctets body (beOctets 3 (certEntriesToBytes others).length) others [] :=
      ⟨by rw [append_nil, hbody, lengthThen], length_beOctets 3 _, hlen, .inl (by decide)⟩
    obtain rfl : certs = others :=
      hlist.clientCertificates_eq.symm.trans hother.clientCertificates_eq
    obtain ⟨rfl, hrest⟩ := append_inj (hlist.octets.symm.trans hother.octets)
      (hlist.length_total.trans hother.length_total.symm)
    exact ⟨append_cancel_left hrest, beNat_beOctets htotal⟩
  · rintro ⟨rfl, htotal⟩
    have hback := beOctets_beNat total
    have hbound := beNat_lt total
    rw [hlist.length_total] at hback hbound
    refine ⟨certs, hlist.length_cert, htotal ▸ hbound, ?_⟩
    rw [hlist.octets, append_nil, lengthThen, ← htotal, hback]

end Octets

lemma fromCertificateMessage_eq_ok (body : Bytes) :
    (∃ pair, fromCertificateMessage body = .ok pair) ↔ clientCertificates body ≠ [] := by
  unfold fromCertificateMessage clientCertificates
  by_cases hlong : body.length < 3
  · simp [rejectIf, hlong]
  · rw [rejectIf_bind hlong, if_pos (Nat.not_lt.mp hlong)]
    rcases certEntries body.length (body.drop 3) with _ | ⟨signCert, _ | ⟨encCert, rest⟩⟩
      <;> simp [ofEntries]

variable {F P G1 G2 GT : Type} [CommRing F] [AddCommGroup P] [Module F P]

variable (lib : TlcpLibrary F P G1 G2 GT) (connector : TlcpConnector G1 G2) (anchors : List Bytes)
  (now : Instant)

def LeavesVerify (signCert encCert : Bytes) (signPath encPath : List Bytes) : Prop :=
  verifyAgainstAnchorsWithDistidPolicy lib.x509 lib.sm2.toSm2Library (signCert :: signPath)
    anchors now
    connector.serverName (some .tlcServer) (connector.distidPolicy.getD .strict) = .ok () ∧
  (encCert ≠ [] → verifyAgainstAnchorsWithDistidPolicy lib.x509 lib.sm2.toSm2Library
    (encCert :: encPath) anchors now
    none (some .tlcEncServer) (connector.distidPolicy.getD .strict) = .ok ())

/-- The two calls of the trust-anchor validation. -/
def AnchorsAccept (pair : CertPair) : Prop :=
  LeavesVerify lib connector anchors now pair.signCert pair.encCert
    (dedupCerts (pair.signChain ++ pair.encChain))
    (dedupCerts (pair.signChain ++ pair.encChain))

variable {lib connector anchors now}

lemma anchorsAccept_of_checkServerCertificate {pair : CertPair}
    (hanchors : connector.serverCaAnchors = some anchors)
    (hcheck : checkServerCertificate lib connector now pair = .ok ()) :
    AnchorsAccept lib connector anchors now pair := by
  unfold AnchorsAccept LeavesVerify
  by_cases hpresent : pair.encCert = [] <;> cases hname : connector.serverName <;>
    cases huri : connector.expectedUri <;> simp [checkServerCertificate, hanchors, hname, huri,
    hpresent, verifyChain,
      unit_bind_eq_ok] at hcheck ⊢ <;> tauto

def keepNew (seen : List Bytes) (cert : Bytes) : List Bytes :=
    if seen.contains cert then seen else seen ++ [cert]

lemma foldl_keepNew_subset (certs seen : List Bytes) :
    certs.foldl keepNew seen ⊆ seen ++ certs := by
  induction certs generalizing seen with
  | nil => simp
  | cons cert rest ih =>
    rw [foldl_cons, keepNew]
    split_ifs
    · exact List.Subset.trans (ih seen) (by simp)
    · simpa using ih (seen ++ [cert])

lemma dedupCerts_subset (certs : List Bytes) : dedupCerts certs ⊆ certs :=
    foldl_keepNew_subset certs []

variable (lib connector anchors now) in
/-- Each leaf and all the certificates sent, the signing chain first and repetitions left out, are
one line of issuers. -/
def JointLines (signCert encCert : Bytes) (signChain encChain : List Bytes) : Prop :=
  IssuerLine lib.x509 lib.sm2.toSm2Library
    ((signCert :: dedupCerts (signChain ++ encChain)).map OwnedCert.mk)
    (anchors.map OwnedCert.mk) now connector.serverName (connector.distidPolicy.getD .strict) ∧
  IssuerLine lib.x509 lib.sm2.toSm2Library
    ((encCert :: dedupCerts (signChain ++ encChain)).map OwnedCert.mk)
    (anchors.map OwnedCert.mk) now none (connector.distidPolicy.getD .strict)

variable {signCert encCert : Bytes} {signChain encChain : List Bytes}

lemma anchorsAccept_iff_jointLines (hpresent : encCert ≠ [])
    (hown : LeavesVerify lib connector anchors now signCert encCert signChain encChain) :
    AnchorsAccept lib connector anchors now
    (withChains signCert encCert signChain encChain).received ↔
      JointLines lib connector anchors now signCert encCert signChain encChain := by
  have hsign := (chain_eq_ok_iff _ _).mp hown.1
  have henc := (chain_eq_ok_iff _ _).mp (hown.2 hpresent)
  obtain ⟨hsignLeaf, hsignPath⟩ := hsign.suits
  obtain ⟨hencLeaf, hencPath⟩ := henc.suits
  have hpath : ∀ owned ∈ (dedupCerts (signChain ++ encChain)).map OwnedCert.mk,
      Suits lib.x509 owned (some .ca) := by
    intro owned howned
    obtain ⟨cert, hcert, rfl⟩ := mem_map.mp howned
    rcases mem_append.mp (dedupCerts_subset _ hcert) with hmem | hmem
    · exact hsignPath _ (mem_map_of_mem hmem)
    · exact hencPath _ (mem_map_of_mem hmem)
  simp only [AnchorsAccept, LeavesVerify, CertPair.received, withChains, append_nil, forall_const,
    ne_eq, hpresent,
    not_false_eq_true, verifyAgainstAnchorsWithDistidPolicy, chain_eq_ok_iff, JointLines]
  exact and_congr (chainAccepted_iff_issuerLine _ _ hsign.anchored hsignLeaf hpath)
    (chainAccepted_iff_issuerLine _ _ hsign.anchored hencLeaf hpath)

def miniAnchored : TlcpConnector MiniElement MiniElement where
  cipherSuites := []
  serverCaAnchors := some [miniCertificate 3 3 2 9 3]

end GmStack.Tlcp
