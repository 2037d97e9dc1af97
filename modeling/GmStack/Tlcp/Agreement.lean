import GmStack.Tlcp.Conversation
import GmStack.Tlcp.MiniProfile

/-! A connector and an acceptor that are configured for each other, over a reliable stream, with
correct primitives (`TlcpLibrary.Correct`). -/

namespace GmStack.Tlcp

open Foundation Crypto X509 List ServerKeyExchangeBody Sm2KeyPair Sm2Verifier CertPair

variable {F P G1 G2 GT : Type} [CommRing F] [AddCommGroup P] [Module F P]

def CertPair.received (pair : CertPair) : CertPair :=
  match pair.mode with
  | .dual => .withChains pair.signCert pair.encCert (pair.signChain ++ pair.encChain) []
  | .single => .newSingle pair.signCert

lemma CertPair.ofEntries_entries (pair : CertPair) :
    ofEntries pair.entries = .ok pair.received := by
  unfold entries received
  cases pair.mode with
  | dual => rfl
  | single => rfl

section Configuration

variable (lib : TlcpLibrary F P G1 G2 GT) (connector : TlcpConnector G1 G2)
  (acceptor : TlcpAcceptor F G1 G2) (clientEntropy : ClientEntropy F)
  (serverEntropy : ServerEntropy F) (now : Instant) (suite : TlcpCipherSuite)

section ServerCertPair

variable {F G1 G2 : Type} {acceptor : TlcpAcceptor F G1 G2} {suite : TlcpCipherSuite}
  (hmode : suite.keyExchange ≠ .rsa) (signCert encCert : Bytes)

lemma encCert_received_serverCertPair :
    (serverCertPair acceptor suite signCert encCert).received.encCert =
      (serverCertPair acceptor suite signCert encCert).encCert ∧
    (serverCertPair acceptor suite signCert encCert).received.mode =
      (serverCertPair acceptor suite signCert encCert).mode := by
  unfold serverCertPair
  split_ifs
  · exact ⟨rfl, rfl⟩
  · exact ⟨rfl, rfl⟩

include hmode

lemma encCert_serverCertPair : (serverCertPair acceptor suite signCert encCert).encCert =
    encCert := by
  rw [serverCertPair, if_neg fun hsingle ↦ hmode hsingle.2]
  rfl

lemma encCert_received_of_ne_rsa :
    (serverCertPair acceptor suite signCert encCert).received.encCert = encCert := by
  rw [(encCert_received_serverCertPair signCert encCert).1, encCert_serverCertPair hmode]

end ServerCertPair

/-- The primitives are correct. -/
structure TlcpLibrary.Correct : Prop where
  signatures : lib.sm2.SignaturesVerify
  generatorFree : lib.sm2.GeneratorFree
  wide : WideScalars lib.sm2
  bilinear : lib.sm9.Bilinear
  sm2Encryption : ∀ (secret : F) (seed message : Bytes), secret ≠ 0 → message.length = 48 →
    lib.sm2EncryptorNew (lib.sm2.encode (secret • lib.sm2.generator)) = .ok () ∧ ∃ ciphertext,
        lib.sm2EncryptDer (lib.sm2.encode (secret • lib.sm2.generator)) seed message =
        .ok ciphertext ∧
        lib.sm2Decrypt secret ciphertext = .ok message

/-- An RSA key pair: what is signed verifies, and what is encrypted decrypts. -/
structure RsaPair (publicKey privateKey : Bytes) : Prop where
  signature : ∀ data, ∃ signature, lib.rsaSign privateKey data = .ok signature ∧
    lib.rsaVerify publicKey data signature = .ok ()
  encryption : ∀ seed message, message.length = 48 → ∃ ciphertext,
    lib.rsaEncrypt publicKey seed message = .ok ciphertext ∧ lib.rsaDecrypt privateKey ciphertext =
    .ok message

/-- The SM2 keys of both sides. -/
structure Sm2Keys (F : Type) where
  serverSign : Sm2KeyPair F
  serverEnc : Sm2KeyPair F
  clientSign : Sm2KeyPair F
  clientEnc : Sm2KeyPair F

/-- The keys are not zero and can sign under their identifiers. -/
structure Sm2Keys.Usable (keys : Sm2Keys F) (serverDistid clientDistid : String) : Prop where
  serverSign : keys.serverSign.privateKey ≠ 0
  serverEnc : keys.serverEnc.privateKey ≠ 0
  clientSign : keys.clientSign.privateKey ≠ 0
  clientEnc : keys.clientEnc.privateKey ≠ 0
  serverSigner : lib.sm2.signingKeyNew serverDistid keys.serverSign.privateKey = .ok ()
  clientSigner : lib.sm2.signingKeyNew clientDistid keys.clientSign.privateKey = .ok ()

/-- The configurations of an SM2 suite. -/
structure Sm2Matching (keys : Sm2Keys F) (encCert : Bytes) : Prop where
  usable : keys.Usable lib (acceptor.serverSignDistid.getD defaultUserId)
    (connector.clientSignDistid.getD defaultUserId)
  serverSignKey : acceptor.signKey = some keys.serverSign
  serverEncKey : acceptor.encKey = some keys.serverEnc
  pinnedKey : connector.serverSignPubkey = some (keys.serverSign.publicKeyBytesUncompressed lib.sm2)
  pinnedDistid : connector.serverSignDistid = some (acceptor.serverSignDistid.getD defaultUserId)
  serverEncCert : extractSm2PubkeyFromCertDer lib encCert =
    .ok (keys.serverEnc.publicKeyBytesUncompressed lib.sm2)
  clientSignKey : ∃ pem, connector.clientSignKey = some pem ∧ loadClientKey lib connector pem =
    .ok keys.clientSign
  clientEncKey : ∃ pem, connector.clientEncKey = some pem ∧ loadClientKey lib connector pem =
    .ok keys.clientEnc
  clientCerts : ∃ signDer encDer chain, connector.clientCerts = signDer :: encDer :: chain ∧
    extractSm2PubkeyFromCertDer lib signDer =
    .ok (keys.clientSign.publicKeyBytesUncompressed lib.sm2) ∧
    extractSm2PubkeyFromCertDer lib encDer = .ok (keys.clientEnc.publicKeyBytesUncompressed lib.sm2)
  clientAccepted : checkClientCertificates lib acceptor now connector.clientCerts = .ok ()
  clientSignDistid : connector.clientSignDistid.getD defaultUserId =
    acceptor.clientSignDistid.getD defaultUserId
  serverEncDistid : distidBytes connector.serverEncDistid = distidBytes acceptor.serverEncDistid
  clientEncDistid : distidBytes connector.clientEncDistid = distidBytes acceptor.clientEncDistid
  serverEncDistid_le : (distidBytes acceptor.serverEncDistid).length ≤ 0xFFFF
  clientEncDistid_le : (distidBytes acceptor.clientEncDistid).length ≤ 0xFFFF

/-- The draws of an ECDHE handshake. -/
structure EcdheDraws (keys : Sm2Keys F) : Prop where
  client : clientEntropy.ephemeral ≠ 0
  server : serverEntropy.ephemeral ≠ 0
  shared : (contribution lib.sm2 keys.clientEnc.privateKey clientEntropy.ephemeral *
    contribution lib.sm2 keys.serverEnc.privateKey serverEntropy.ephemeral) • lib.sm2.generator ≠ 0

/-- The configurations of an IBC suite. -/
structure IbcMatching (signMaster : SignMasterKey G2) (encMaster : EncMasterKey G1)
    (serverId : Bytes) : Prop where
  signValid : signMaster.Valid lib.sm9
  encValid : encMaster.Valid lib.sm9
  serverSignMaster : acceptor.sm9SignMaster = some signMaster
  serverEncMaster : acceptor.sm9EncMaster = some encMaster
  clientPpubs : connector.sm9KgcPpubs = some signMaster.ppubs
  clientPpube : connector.sm9KgcPpube = some encMaster.ppube
  serverIdentity : acceptor.sm9ServerId = some serverId
  expectedIdentity : connector.sm9ServerId = some serverId
  signs : ∃ userKey signature, signMaster.extractKey lib.sm9 serverId = .ok userKey ∧
    sm9Sign lib.sm9 userKey serverId
      (ibcSignedInput clientEntropy.random serverEntropy.random serverId) serverEntropy.sm9Draws =
      .ok signature
  encrypts : ∃ ciphertext, sm9Encrypt lib.sm9 lib.sm3 serverId encMaster.ppube
    (chosenPms clientEntropy.pmsRandom) clientEntropy.sm9Draws = .ok ciphertext
  decrypts : ∃ userKey : EncUserKey G1 G2, encMaster.extractKey lib.sm9 serverId = .ok userKey

/-- The configurations of an IBSDH suite. -/
structure IbsdhMatching (encMaster : EncMasterKey G1) (serverId : Bytes) : Prop where
  encValid : encMaster.Valid lib.sm9
  serverEncMaster : acceptor.sm9EncMaster = some encMaster
  clientPpube : connector.sm9KgcPpube = some encMaster.ppube
  serverIdentity : acceptor.sm9ServerId = some serverId
  expectedIdentity : connector.sm9ServerId = some serverId
  clientIdentity : connector.sm9IbsdhClientId = some serverId
  exchangeKey : ∃ userKey : EncUserKey G1 G2, encMaster.extractKeyExchange lib.sm9 serverId =
    .ok userKey ∧
      connector.sm9IbsdhDeA = some userKey
  clientScalar : clientEntropy.sm9Scalar ≠ 0 ∧ clientEntropy.sm9Scalar < lib.sm9.order
  serverScalar : serverEntropy.sm9Scalar ≠ 0 ∧ serverEntropy.sm9Scalar < lib.sm9.order

/-- The configurations of an RSA suite. -/
structure RsaMatching (publicKey privateKey : Bytes) : Prop where
  pair : RsaPair lib publicKey privateKey
  signer : acceptor.rsaSigner = some privateKey
  decryptor : acceptor.rsaDecryptor = some privateKey
  pinned : connector.rsaServerPub = some publicKey

end Configuration

section Exchange

variable {lib : TlcpLibrary F P G1 G2 GT} {connector : TlcpConnector G1 G2}
  {acceptor : TlcpAcceptor F G1 G2} {clientEntropy : ClientEntropy F}
  {serverEntropy : ServerEntropy F} {now : Instant} {suite : TlcpCipherSuite}
  {signCert encCert : Bytes} {keys : Sm2Keys F}

section Correct

variable (hcorrect : lib.Correct) {secret : F} (hsecret : secret ≠ 0)

include hcorrect hsecret

lemma point_ne_zero : secret • lib.sm2.generator ≠ 0 :=
  fun hzero ↦ hsecret (hcorrect.generatorFree _ hzero)

lemma uncompressedXy_public (what : String) :
    uncompressedXy what (lib.sm2.encode (secret • lib.sm2.generator)) =
      .ok (pointXy lib.sm2 (secret • lib.sm2.generator)) := by
  have hpoint := point_ne_zero hcorrect hsecret
  have hshape : ¬ ((lib.sm2.encode (secret • lib.sm2.generator)).length ≠ 65 ∨
      (lib.sm2.encode (secret • lib.sm2.generator)).head? ≠ some 0x04) := by
    simp [lib.sm2.length_encode _ hpoint, lib.sm2.head_encode _ hpoint]
  rw [uncompressedXy, rejectIf_bind hshape, pointXy]

lemma sign_eq {distid : String} (hsigner : lib.sm2.signingKeyNew distid secret = .ok ())
    (data : Bytes) :
    Sm2Signer.sign lib.sm2 ⟨secret, distid⟩ data = .ok (lib.sm2.sign secret distid data) :=
  (Sm2Signer.sign_eq_ok lib.sm2).mpr
    ⟨(hcorrect.signatures secret distid data hsecret hsigner).equation, rfl⟩

end Correct

def identityHash (lib : TlcpLibrary F P G1 G2 GT) (secret : F) (userId : Bytes) : Bytes :=
  lib.sm3.hash (beOctets 2 (userId.length * 8) ++ userId ++ sm2CurveBytes ++
    pointXy lib.sm2 (secret • lib.sm2.generator))

lemma sm2ComputeZ_pointXy (secret : F) {userId : Bytes} (hlen : userId.length ≤ 0xFFFF) :
    sm2ComputeZ lib.sm3 (pointXy lib.sm2 (secret • lib.sm2.generator)) userId =
    .ok (identityHash lib secret userId) := by
  rw [sm2ComputeZ, rejectIf_bind (Nat.not_lt.mpr hlen), identityHash]

@[simp] lemma length_chosenPms (random : Octets 46) : (chosenPms random).length = 48 := by
  rw [chosenPms, length_append, random.length_bytes]
  rfl

lemma checkPmsLength_chosenPms (text : String) (random : Octets 46) :
    checkPmsLength text (chosenPms random) = .ok (chosenPms random) := by
  rw [checkPmsLength, rejectIf_ne_bind (length_chosenPms random)]

lemma g1PointToUncompressed_eq {point : G1} (hfin : (lib.sm9.toAffine point).isNone = false) :
    g1PointToUncompressed lib point = .ok (g1Octets lib.sm9 point) := by
  obtain ⟨x, y, haffine, hoct⟩ := g1Octets_eq hfin
  rw [g1PointToUncompressed, haffine, hoct]

lemma g1PointFromUncompressed_g1Octets (hcorrect : lib.Correct) {point : G1}
    (hfin : (lib.sm9.toAffine point).isNone = false) :
    g1PointFromUncompressed lib (g1Octets lib.sm9 point) = .ok point := by
  obtain ⟨x, y, haffine, hoct⟩ := g1Octets_eq hfin
  obtain ⟨hx, hy, hparseX, hparseY, hpoint⟩ := hcorrect.bilinear.affine _ _ _ haffine
  have hlen := length_g1Octets hcorrect.bilinear hfin
  have hxPart : ((g1Octets lib.sm9 point).drop 1).take 32 = x := by
    rw [hoct, cons_append, drop_succ_cons, drop_zero, take_left' hx]
  have hyPart : ((g1Octets lib.sm9 point).drop 33).take 32 = y := by
    rw [hoct, cons_append, drop_succ_cons, drop_left' hx, take_of_length_le hy.le]
  rw [g1PointFromUncompressed, rejectIf_ne_bind hlen,
    rejectIf_ne_bind (head?_g1Octets hfin), hxPart, hyPart, hparseX, mapError_ok,
    ok_bind, hparseY, mapError_ok, ok_bind, hpoint]

def ecdheServed (lib : TlcpLibrary F P G1 G2 GT) (acceptor : TlcpAcceptor F G1 G2)
    (serverEntropy : ServerEntropy F) (clientRandom : Octets 32) (keys : Sm2Keys F) :
      Sm2EcdheParams :=
  let ephemeralPublic := lib.sm2.encode (serverEntropy.ephemeral • lib.sm2.generator)
  { ephemeralPublic
    signature := lib.sm2.sign keys.serverSign.privateKey
      (acceptor.serverSignDistid.getD defaultUserId)
      (ecdheSignedInput clientRandom serverEntropy.random ephemeralPublic) }

variable (acceptor keys) in
lemma fromBody_ecdheServed (hcorrect : lib.Correct) (hsrv : serverEntropy.ephemeral ≠ 0)
    (clientRandom : Octets 32) :
    fromBody (ecdheServed lib acceptor serverEntropy clientRandom keys).toBytes .ecdhe =
      .ok (.ecdhe (ecdheServed lib acceptor serverEntropy clientRandom keys)) := by
  have hfits : (ecdhe (ecdheServed lib acceptor serverEntropy clientRandom keys)).Fits := by
    constructor
    · rw [ecdheServed, lib.sm2.length_encode _ (point_ne_zero hcorrect hsrv)]
      decide
    · rw [ecdheServed, lib.sm2.length_sign]
      decide
  exact fromBody_bodyToBytes hfits

section Signatures

variable (hcorrect : lib.Correct) (hmatch : Sm2Matching lib connector acceptor now keys encCert)

include hmatch

lemma serverSigner_eq (text : String) : serverSigner lib acceptor text =
    .ok ⟨keys.serverSign.privateKey,
      acceptor.serverSignDistid.getD defaultUserId⟩ := by
  rw [serverSigner, hmatch.serverSignKey, required, ok_bind, Sm2Signer.newWithDistid,
    hmatch.usable.serverSigner]
  rfl

include hcorrect

lemma verifySm2KeyExchange_eq (isEccMode : Bool) (skeBody sent : Bytes)
    (clientRandom serverRandom : Octets 32) :
    verifySm2KeyExchange lib connector isEccMode skeBody clientRandom serverRandom sent =
      verifySkeSignature lib isEccMode skeBody clientRandom serverRandom sent
        ⟨keys.serverSign.publicKeyBytesUncompressed lib.sm2,
        acceptor.serverSignDistid.getD defaultUserId⟩ := by
  have hkey := (hcorrect.signatures keys.serverSign.privateKey
    (acceptor.serverSignDistid.getD defaultUserId)
    [] hmatch.usable.serverSign hmatch.usable.serverSigner).key
  have hverifier : new lib.sm2.toSm2Library (keys.serverSign.publicKeyBytesUncompressed lib.sm2)
      (acceptor.serverSignDistid.getD defaultUserId) = .ok _ :=
    (new_eq_ok lib.sm2.toSm2Library).mpr ⟨hkey, rfl⟩
  simp only [verifySm2KeyExchange, hmatch.pinnedKey, hmatch.pinnedDistid, required, ok_bind,
    hverifier, mapError_ok]

lemma generateEcdhe_eq (clientRandom : Octets 32) :
    generateEcdhe lib clientRandom serverEntropy.random
        ⟨keys.serverSign.privateKey, acceptor.serverSignDistid.getD defaultUserId⟩
          serverEntropy.ephemeral =
      .ok (.ecdhe (ecdheServed lib acceptor serverEntropy clientRandom keys)) := by
  rw [generateEcdhe, sign_eq hcorrect hmatch.usable.serverSign hmatch.usable.serverSigner,
    mapError_ok, ok_bind]
  rfl

lemma verifySkeSignature_ecdheServed (hsrv : serverEntropy.ephemeral ≠ 0) (clientRandom : Octets 32)
    (sent : Bytes) :
    verifySkeSignature lib false (ecdheServed lib acceptor serverEntropy clientRandom keys).toBytes
      clientRandom serverEntropy.random sent ⟨keys.serverSign.publicKeyBytesUncompressed lib.sm2,
        acceptor.serverSignDistid.getD defaultUserId⟩ = .ok () := by
  have hacc := hcorrect.signatures keys.serverSign.privateKey
    (acceptor.serverSignDistid.getD defaultUserId)
    (ecdheSignedInput clientRandom serverEntropy.random
      (lib.sm2.encode (serverEntropy.ephemeral • lib.sm2.generator)))
    hmatch.usable.serverSign hmatch.usable.serverSigner
  refine (verifySkeSignature_ecdhe_eq_ok hacc.key).mpr ⟨_, _,
    fromBody_ecdheServed acceptor keys hcorrect hsrv clientRandom, ?_, hacc⟩
  exact if_pos (lib.sm2.length_sign _ _ _)

lemma verifySkeSignature_ecc (clientRandom serverRandom : Octets 32) :
    verifySkeSignature lib true (lengthThen 2 (sm2SignatureRawToDer
        (lib.sm2.sign keys.serverSign.privateKey (acceptor.serverSignDistid.getD defaultUserId)
          (certSignedInput clientRandom serverRandom encCert))))
      clientRandom serverRandom encCert
      ⟨keys.serverSign.publicKeyBytesUncompressed lib.sm2,
      acceptor.serverSignDistid.getD defaultUserId⟩ = .ok () := by
  have hacc := hcorrect.signatures keys.serverSign.privateKey
    (acceptor.serverSignDistid.getD defaultUserId)
    (certSignedInput clientRandom serverRandom encCert)
    hmatch.usable.serverSign hmatch.usable.serverSigner
  refine (verifySkeSignature_ecc_eq_ok hacc.key).mpr ⟨_, _, fromBody_ecc_eq_ok.mpr
    ⟨[], (append_nil _).symm, ?_⟩, sm2SignatureDerToRaw_rawToDer hacc.length, hacc⟩
  exact lt_of_le_of_lt (length_sm2SignatureRawToDer_le hacc.length) (by decide)

lemma generateEcc_eq (hlen : encCert.length ≤ 0xFFFFFF) (clientRandom serverRandom : Octets 32) :
    generateEcc lib clientRandom serverRandom encCert
        ⟨keys.serverSign.privateKey, acceptor.serverSignDistid.getD defaultUserId⟩ =
      .ok (.ecc (sm2SignatureRawToDer (lib.sm2.sign keys.serverSign.privateKey
        (acceptor.serverSignDistid.getD defaultUserId)
        (certSignedInput clientRandom serverRandom encCert)))) := by
  rw [generateEcc, rejectIf_bind (Nat.not_lt.mpr hlen),
    sign_eq hcorrect hmatch.usable.serverSign hmatch.usable.serverSigner, mapError_ok, ok_bind,
    rejectIf_ne_bind (lib.sm2.length_sign _ _ _)]

lemma certificateVerify_agrees {transcript : Bytes}
    (hasks : suite.keyExchange.authenticatesClient = true)
    (hreads : (sm2SignatureRawToDer (lib.sm2.sign keys.clientSign.privateKey
      (connector.clientSignDistid.getD defaultUserId) transcript)).length ≠ 64) :
    ∃ verify, VerifyAgrees lib connector suite transcript verify ∧
      VerifyServed lib acceptor (clientCertificateList connector suite) transcript verify := by
  obtain ⟨pem, hpem, hload⟩ := hmatch.clientSignKey
  obtain ⟨signDer, encDer, chain, hcerts, hsignCert, -⟩ := hmatch.clientCerts
  have hacc := hcorrect.signatures keys.clientSign.privateKey
    (connector.clientSignDistid.getD defaultUserId) transcript hmatch.usable.clientSign
    hmatch.usable.clientSigner
  generalize hdistid : connector.clientSignDistid.getD defaultUserId = distid at hacc hreads
  have hserverDistid : acceptor.clientSignDistid.getD defaultUserId = distid := by
    rw [← hdistid, hmatch.clientSignDistid]
  have hsigner : Sm2Signer.newWithDistid lib.sm2 keys.clientSign distid =
      .ok ⟨keys.clientSign.privateKey, distid⟩ := by
    rw [Sm2Signer.newWithDistid, ← hdistid, hmatch.usable.clientSigner]
    rfl
  have hsign := sign_eq hcorrect hmatch.usable.clientSign (hdistid ▸ hmatch.usable.clientSigner)
    transcript
  have hverifier : new lib.sm2.toSm2Library (keys.clientSign.publicKeyBytesUncompressed lib.sm2)
    distid = .ok _ :=
    (new_eq_ok lib.sm2.toSm2Library).mpr ⟨hacc.key, rfl⟩
  have hver : verify lib.sm2.toSm2Library ⟨keys.clientSign.publicKeyBytesUncompressed lib.sm2,
    distid⟩ transcript
      (lib.sm2.sign keys.clientSign.privateKey distid transcript) = .ok () :=
    (verify_eq_ok lib.sm2.toSm2Library hacc.key).mpr hacc
  have hderLength := length_sm2SignatureRawToDer_le hacc.length
  generalize lib.sm2.sign keys.clientSign.privateKey distid transcript = signature at *
  have hmessageLength : (certificateVerifyBytes (sm2SignatureRawToDer signature)).length ≤ 78 := by
    rw [certificateVerifyBytes, length_handshakeMessage, length_lengthThen]
    omega
  have hbody : (lengthThen 2 (sm2SignatureRawToDer signature)).length < 256 ^ 3 := by
    rw [length_lengthThen]
    omega
  refine ⟨certificateVerifyBytes (sm2SignatureRawToDer signature), ?_, .inr ⟨rfl, ?_, ?_⟩⟩
  · rw [VerifyAgrees, if_pos hasks]
    refine ⟨pem, hpem, ?_⟩
    simp only [certificateVerifyMessage, hload, ok_bind, hdistid, hsigner, mapError_ok, hsign,
      hacc.length, ne_eq, not_true_eq_false, not_false_eq_true, rejectIf_neg, hverifier, hver]
  · exact le_trans hmessageLength (by decide)
  rw [processCertificateVerify, certificateVerifyBytes,
    parseHandshakeMessage_handshakeMessage hbody, ok_bind]
  dsimp only
  rw [rejectIf_ne_bind rfl, takeLengthThen_lengthThen (by omega), ok_bind]
  rw [rawSignature, if_neg hreads, sm2SignatureDerToRaw_rawToDer hacc.length, mapError_ok,
    ok_bind, clientCertificateList, if_pos hasks, hcerts]
  simp only [head?_cons, required, ok_bind, hsignCert, mapError_ok, hserverDistid, hverifier, hver]

end Signatures

/-! ### ECDHE -/

variable [DecidableEq P]

variable (lib acceptor clientEntropy serverEntropy keys) in
def ecdheSecret : Except TlcpError Bytes :=
  sharedPreMasterSecret lib.sm2 lib.sm3
    (contribution lib.sm2 keys.clientEnc.privateKey clientEntropy.ephemeral *
      contribution lib.sm2 keys.serverEnc.privateKey serverEntropy.ephemeral)
    (identityHash lib keys.serverEnc.privateKey (distidBytes acceptor.serverEncDistid))
    (identityHash lib keys.clientEnc.privateKey (distidBytes acceptor.clientEncDistid)) 48

variable (acceptor) in
lemma exists_ecdheSecret (hdraws : EcdheDraws lib clientEntropy serverEntropy keys) :
    ∃ pms, ecdheSecret lib acceptor clientEntropy serverEntropy keys = .ok pms := by
  rw [ecdheSecret, sharedPreMasterSecret, if_neg hdraws.shared, sm2Kdf, rejectIf_bind (by decide)]
  exact ⟨_, rfl⟩

variable [DecidableEq F] (hcorrect : lib.Correct) {pms : Bytes}

section Sm2

variable (hmatch : Sm2Matching lib connector acceptor now keys encCert)
  (hdraws : EcdheDraws lib clientEntropy serverEntropy keys)

include hcorrect hmatch hdraws

section

variable (hpms : ecdheSecret lib acceptor clientEntropy serverEntropy keys = .ok pms)

include hpms

lemma ecdheClientExchange_eq (clientRandom : Octets 32) :
    ecdheClientExchange lib connector clientEntropy
        (ecdheServed lib acceptor serverEntropy clientRandom keys).toBytes encCert =
      .ok { body := .newEcdhe (lib.sm2.encode (clientEntropy.ephemeral • lib.sm2.generator))
            pms } := by
  obtain ⟨pem, hpem, hload⟩ := hmatch.clientEncKey
  have hpoint {secret : F} (hsecret : secret ≠ 0) := uncompressedXy_public hcorrect hsecret
  have hsecret := computeTlcpEcdhePms_eq lib.sm3 hcorrect.generatorFree hcorrect.wide
    hmatch.usable.clientEnc hdraws.client hmatch.usable.serverEnc hdraws.server
    (identityHash lib keys.serverEnc.privateKey (distidBytes acceptor.serverEncDistid))
    (identityHash lib keys.clientEnc.privateKey (distidBytes acceptor.clientEncDistid)) 48
  rw [← ecdheSecret, hpms] at hsecret
  simp only [ecdheClientExchange, fromBody_ecdheServed acceptor keys hcorrect hdraws.server,
    ok_bind,
    hpem, required, hload, mapError_ok, publicKeyBytesUncompressed, privateKeyBytes,
    hpoint hmatch.usable.clientEnc, hmatch.serverEncCert, hpoint hmatch.usable.serverEnc,
    hpoint hdraws.client, asEcdhe, hmatch.serverEncDistid,
    hmatch.clientEncDistid, sm2ComputeZ_pointXy _ hmatch.serverEncDistid_le,
    sm2ComputeZ_pointXy _ hmatch.clientEncDistid_le]
  rw [show (ecdheServed lib acceptor serverEntropy clientRandom keys).ephemeralPublic =
    lib.sm2.encode (serverEntropy.ephemeral • lib.sm2.generator) from rfl,
    hpoint hdraws.server, ok_bind,
    hsecret, mapError_ok, ok_bind]

lemma ecdheServerPms_eq : ecdheServerPms lib acceptor serverEntropy connector.clientCerts
      (.newEcdhe (lib.sm2.encode (clientEntropy.ephemeral • lib.sm2.generator))) = .ok pms := by
  obtain ⟨signDer, encDer, chain, hcerts, -, hclientEnc⟩ := hmatch.clientCerts
  have hpoint {secret : F} (hsecret : secret ≠ 0) := uncompressedXy_public hcorrect hsecret
  have heph : (lib.sm2.encode (clientEntropy.ephemeral • lib.sm2.generator)).length < 256 := by
    rw [lib.sm2.length_encode _ (point_ne_zero hcorrect hdraws.client)]
    decide
  have hsecret := computeTlcpEcdhePms_eq lib.sm3 hcorrect.generatorFree hcorrect.wide
    hmatch.usable.serverEnc hdraws.server hmatch.usable.clientEnc hdraws.client
    (identityHash lib keys.serverEnc.privateKey (distidBytes acceptor.serverEncDistid))
    (identityHash lib keys.clientEnc.privateKey (distidBytes acceptor.clientEncDistid)) 48
  rw [mul_comm, ← ecdheSecret, hpms] at hsecret
  simp only [ecdheServerPms, ClientKeyExchangeBody.ecdhePublicKey_newEcdhe heph, required, ok_bind,
    hmatch.serverEncKey, publicKeyBytesUncompressed, privateKeyBytes,
    hpoint hmatch.usable.serverEnc, hpoint hdraws.server, hpoint hdraws.client, hcerts,
    getElem?_cons_succ, getElem?_cons_zero, hclientEnc, mapError_ok,
    hpoint hmatch.usable.clientEnc, sm2ComputeZ_pointXy _ hmatch.serverEncDistid_le,
    sm2ComputeZ_pointXy _ hmatch.clientEncDistid_le, hsecret]

end

lemma ecdhe_keyExchangeAgrees (hmode : suite.keyExchange = .ecdhe) :
    ∃ ske exchange pms, KeyExchangeAgrees lib connector acceptor clientEntropy serverEntropy suite
      signCert encCert (serverCertPair acceptor suite signCert encCert).received
      (some ske) exchange none
      pms := by
  obtain ⟨pms, hpms⟩ := exists_ecdheSecret acceptor hdraws
  have hclientCerts : clientCertificateList connector suite = connector.clientCerts := by
    rw [clientCertificateList, hmode]
    rfl
  refine ⟨.ecdhe (ecdheServed lib acceptor serverEntropy clientEntropy.random keys),
    { body := .newEcdhe (lib.sm2.encode (clientEntropy.ephemeral • lib.sm2.generator)), pms },
    pms, ?_⟩
  constructor
  case absent => simp [hmode]
  case serves =>
    simp only [serverExchange, hmode, serverSigner_eq hmatch, ok_bind,
      generateEcdhe_eq hcorrect hmatch]
    exact ⟨_, rfl⟩
  case verifies =>
    simp only [verifyServerKeyExchange, hmode, verifySm2KeyExchange_eq hcorrect hmatch]
    exact verifySkeSignature_ecdheServed hcorrect hmatch hdraws.server clientEntropy.random _
  case answers =>
    simp only [clientExchange, hmode]
    rw [encCert_received_of_ne_rsa (by rw [hmode]; decide)]
    exact ecdheClientExchange_eq hcorrect hmatch hdraws hpms clientEntropy.random
  case reads => simp [ClientKeyExchangeBody.fromBody, hmode, ClientKeyExchangeBody.newEcdhe,
    ClientKeyExchangeBody.payload]
  case serverDeferred => simp [DeferredServed, hmode]
  case clientDeferred => simp [DeferredAgrees]
  case serverSecret =>
    simp only [serverPms, hmode, hclientCerts]
    exact ecdheServerPms_eq hcorrect hmatch hdraws hpms

omit hdraws

lemma ecc_keyExchangeAgrees (hmode : suite.keyExchange = .ecc) (hlen : encCert.length ≤ 0xFFFFFF) :
    ∃ ske exchange pms, KeyExchangeAgrees lib connector acceptor clientEntropy serverEntropy suite
      signCert encCert (serverCertPair acceptor suite signCert encCert).received
      (some ske) exchange none
      pms := by
  have hsent : (serverCertPair acceptor suite signCert encCert).received.encCert = encCert :=
    encCert_received_of_ne_rsa (by rw [hmode]; decide) signCert encCert
  obtain ⟨hnew, ciphertext, henc, hdec⟩ := hcorrect.sm2Encryption
    keys.serverEnc.privateKey clientEntropy.encryptSeed (chosenPms clientEntropy.pmsRandom)
    hmatch.usable.serverEnc
    (length_chosenPms _)
  have hlocal : fromPrivateKey lib.sm2 (keys.serverEnc.privateKeyBytes lib.sm2) =
      .ok ⟨keys.serverEnc.privateKey, "1234567812345678"⟩ := by
    rw [fromPrivateKey, fromPrivateKeyWithDistid, privateKeyBytes,
      lib.sm2.secretKeyFromBytes_scalarToBytes _ hmatch.usable.serverEnc]
    rfl
  refine ⟨.ecc (sm2SignatureRawToDer (lib.sm2.sign keys.serverSign.privateKey
    (acceptor.serverSignDistid.getD defaultUserId)
      (certSignedInput clientEntropy.random serverEntropy.random encCert))),
    { body := .ecc ciphertext, pms := chosenPms clientEntropy.pmsRandom },
    chosenPms clientEntropy.pmsRandom, ?_⟩
  constructor
  case absent => simp [hmode]
  case serves =>
    simp only [serverExchange, hmode, serverSigner_eq hmatch, ok_bind,
      generateEcc_eq hcorrect hmatch hlen]
    exact ⟨_, rfl⟩
  case verifies =>
    simp only [verifyServerKeyExchange, hmode, verifySm2KeyExchange_eq hcorrect hmatch, hsent]
    exact verifySkeSignature_ecc hcorrect hmatch clientEntropy.random serverEntropy.random
  case answers =>
    simp only [clientExchange, hmode, hsent, eccClientExchange, hmatch.serverEncCert, mapError_ok,
      ok_bind, publicKeyBytesUncompressed, hnew, henc]
  case reads => simp [ClientKeyExchangeBody.fromBody, hmode, ClientKeyExchangeBody.payload]
  case serverDeferred => simp [DeferredServed, hmode]
  case clientDeferred => simp [DeferredAgrees]
  case serverSecret =>
    simp only [serverPms, hmode, eccServerPms, hmatch.serverEncKey, required, ok_bind,
      ClientKeyExchangeBody.asEccCiphertext, hlocal, mapError_ok, hdec, checkPmsLength_chosenPms]

end Sm2

lemma rsa_keyExchangeAgrees {publicKey privateKey : Bytes} (hmode : suite.keyExchange = .rsa)
    (hmatch : RsaMatching lib connector acceptor publicKey privateKey)
    (hlen : (serverCertPair acceptor suite signCert encCert).encCert.length ≤ 0xFFFFFF)
    (hserved : ∀ ske text, serverExchange lib acceptor serverEntropy suite clientEntropy.random
      (serverCertPair acceptor suite signCert encCert) encCert = .ok (some (ske, text)) →
        ske.toBytes.length ≤ maxRecordSize) :
    ∃ ske exchange pms, KeyExchangeAgrees lib connector acceptor clientEntropy serverEntropy suite
      signCert encCert (serverCertPair acceptor suite signCert encCert).received
      (some ske) exchange none
      pms := by
  obtain ⟨signature, hsign, hver⟩ := hmatch.pair.signature (sm3Pkcs1V15Encoding lib
    (certSignedInput clientEntropy.random serverEntropy.random
    (serverCertPair acceptor suite signCert encCert).encCert))
  obtain ⟨ciphertext, henc, hdec⟩ := hmatch.pair.encryption clientEntropy.encryptSeed
    (chosenPms clientEntropy.pmsRandom) (length_chosenPms _)
  have hserves : serverExchange lib acceptor serverEntropy suite clientEntropy.random
      (serverCertPair acceptor suite signCert encCert) encCert =
        .ok (some (.ecc signature, "write ServerKeyExchange (RSA)")) := by
    simp only [serverExchange, hmode, hmatch.signer, required, ok_bind, generateRsa,
      rejectIf_neg (Nat.not_lt.mpr hlen), rsaSignerSign, hsign, mapError_ok]
  have hshort : signature.length < 256 ^ 2 := by
    have hsize := hserved _ _ hserves
    rw [toBytes, length_handshakeMessage, bodyToBytes, length_lengthThen] at hsize
    have hbound : maxRecordSize < 256 ^ 2 := by decide
    omega
  have hread : fromBody (exchangeBody (some (.ecc signature))) .ecc =
      .ok (.ecc signature) := fromBody_ecc_eq_ok.mpr ⟨[], (append_nil _).symm, hshort⟩
  refine ⟨.ecc signature, { body := .rsa ciphertext, pms := chosenPms clientEntropy.pmsRandom },
    chosenPms clientEntropy.pmsRandom, ?_⟩
  constructor
  case absent => simp [hmode]
  case serves => exact ⟨_, hserves⟩
  case verifies =>
    simp only [verifyServerKeyExchange, hmode, verifyRsaKeyExchange, hmatch.pinned,
      required, ok_bind,
      hread, mapError_ok, rsaVerifierVerify, (encCert_received_serverCertPair signCert encCert).1,
        hver]
  case answers =>
    simp only [clientExchange, hmode, rsaClientExchange, hmatch.pinned, required, ok_bind,
      henc, mapError_ok]
  case reads => simp [ClientKeyExchangeBody.fromBody, hmode, ClientKeyExchangeBody.payload]
  case serverDeferred => simp [DeferredServed, hmode]
  case clientDeferred => simp [DeferredAgrees]
  case serverSecret =>
    simp only [serverPms, hmode, rsaServerPms, ClientKeyExchangeBody.asRsaCiphertext,
      required, ok_bind,
      hmatch.decryptor, hdec, mapError_ok, checkPmsLength_chosenPms]

include hcorrect

variable {encMaster : EncMasterKey G1} {serverId : Bytes}

lemma ibc_keyExchangeAgrees {signMaster : SignMasterKey G2} (hmode : suite.keyExchange = .ibc)
    (hmatch : IbcMatching lib connector acceptor clientEntropy serverEntropy signMaster
    encMaster serverId)
    (hserved : ∀ ske text, serverExchange lib acceptor serverEntropy suite clientEntropy.random
      (serverCertPair acceptor suite signCert encCert) encCert = .ok (some (ske, text)) →
        ske.toBytes.length ≤ maxRecordSize) :
    ∃ ske exchange pms, KeyExchangeAgrees lib connector acceptor clientEntropy serverEntropy suite
      signCert encCert (serverCertPair acceptor suite signCert encCert).received
      (some ske) exchange none
      pms := by
  obtain ⟨signKey, signature, hsignKey, hsign⟩ := hmatch.signs
  obtain ⟨ciphertext, henc⟩ := hmatch.encrypts
  obtain ⟨encKey, hencKey⟩ := hmatch.decrypts
  obtain ⟨hh, hfin⟩ := fits_of_sign hcorrect.bilinear hmatch.signValid hsignKey hsign
  obtain ⟨hc1, hc3⟩ := fits_of_encrypt henc
  have hsigRead := Sm9Signature.fromBytes_toBytes hcorrect.bilinear hh hfin
  have hcipherRead := Sm9Ciphertext.fromBytes_toBytes hcorrect.bilinear hc1 hc3
  have hver := verify_sign hcorrect.bilinear hmatch.signValid hsignKey hsign
  have hdec := decrypt_encrypt hcorrect.bilinear hmatch.encValid hencKey henc
  have hserves : serverExchange lib acceptor serverEntropy suite clientEntropy.random
      (serverCertPair acceptor suite signCert encCert) encCert =
        .ok (some (.ibc serverId (signature.toBytes lib.sm9),
        "write ServerKeyExchange (IBC)")) := by
    simp only [serverExchange, hmode, generateIbc, hmatch.serverSignMaster, hmatch.serverIdentity,
      required, ok_bind, hsignKey, mapError_ok, hsign]
  have hfits : (ibc serverId (signature.toBytes lib.sm9)).Fits := by
    have hsize := hserved _ _ hserves
    rw [toBytes, length_handshakeMessage, bodyToBytes, length_append, length_lengthThen,
      length_lengthThen] at hsize
    have hbound : maxRecordSize < 256 ^ 2 := by decide
    constructor
    · omega
    · omega
  have hread : fromBody (exchangeBody (some (.ibc serverId (signature.toBytes lib.sm9)))) .ibc =
        .ok (.ibc serverId (signature.toBytes lib.sm9)) :=
    fromBody_bodyToBytes hfits
  refine ⟨.ibc serverId (signature.toBytes lib.sm9),
    { body := .ibc (ciphertext.toBytes lib.sm9), pms := chosenPms clientEntropy.pmsRandom },
    chosenPms clientEntropy.pmsRandom, ?_⟩
  constructor
  case absent => simp [hmode]
  case serves => exact ⟨_, hserves⟩
  case verifies =>
    simp only [verifyServerKeyExchange, hmode, verifyIbcKeyExchange, hmatch.clientPpubs,
      hmatch.expectedIdentity, required, ok_bind, hread, asIbc, ne_eq,
      not_true_eq_false, not_false_eq_true, rejectIf_neg, hsigRead, mapError_ok, hver]
  case answers =>
    simp only [clientExchange, hmode, ibcClientExchange, hmatch.clientPpube,
      hmatch.expectedIdentity,
      required, ok_bind, henc, mapError_ok]
  case reads => simp [ClientKeyExchangeBody.fromBody, hmode, ClientKeyExchangeBody.payload]
  case serverDeferred => simp [DeferredServed, hmode]
  case clientDeferred => simp [DeferredAgrees]
  case serverSecret =>
    simp only [serverPms, hmode, ibcServerPms, ClientKeyExchangeBody.asIbcCiphertext,
      required, ok_bind,
      hmatch.serverEncMaster, hmatch.serverIdentity, hcipherRead, mapError_ok, hencKey, hdec,
      checkPmsLength_chosenPms]

lemma ibsdh_keyExchangeAgrees (hmode : suite.keyExchange = .ibsdh)
    (hmatch : IbsdhMatching lib connector acceptor clientEntropy serverEntropy encMaster serverId) :
    ∃ exchange ske pms, KeyExchangeAgrees lib connector acceptor clientEntropy serverEntropy suite
        signCert encCert (serverCertPair acceptor suite signCert encCert).received none exchange
        (some ske) pms ∧
      ske.toBytes.length ≤ maxRecordSize := by
  obtain ⟨userKey, huserKey, hheld⟩ := hmatch.exchangeKey
  obtain ⟨output, hrespond, hfinish⟩ := initiatorFinish_responderProcess lib.sm3
    hcorrect.bilinear hmatch.encValid huserKey huserKey hmatch.clientScalar.1 hmatch.clientScalar.2
    hmatch.serverScalar.1 hmatch.serverScalar.2 48
  have hppube : userKey.ppube = encMaster.ppube := by
    obtain ⟨_, -, rfl⟩ := extractKeyWithHid_eq_ok huserKey
    rfl
  have hA : (lib.sm9.toAffine (initiatorBegin lib.sm9 serverId encMaster.ppube
      clientEntropy.sm9Scalar).rAPoint).isNone = false :=
    finite_identityPoint hcorrect.bilinear hmatch.encValid huserKey hmatch.clientScalar.1
      hmatch.clientScalar.2
  obtain ⟨hB, hsb, -⟩ := initiatorFinish_eq_ok.mp hfinish
  have hsbLength : output.sB.length = 32 := by rw [← hsb]; exact lib.sm3.length_hash _
  generalize hstate :
    initiatorBegin lib.sm9 serverId encMaster.ppube clientEntropy.sm9Scalar = state
    at hrespond hfinish hA
  let ske := ibsdh (g1Octets lib.sm9 state.rAPoint) (g1Octets lib.sm9 output.rB) output.sB
  have hra := length_g1Octets hcorrect.bilinear hA
  have hrb := length_g1Octets hcorrect.bilinear hB
  have hfits : ske.Fits := by
    refine ⟨?_, ?_, ?_⟩
    · rw [hra]; decide
    · rw [hrb]; decide
    · rw [hsbLength]; decide
  have hread : fromBody ske.bodyToBytes .ibsdh = .ok ske :=
    fromBody_bodyToBytes hfits
  have hsize : ske.toBytes.length ≤ maxRecordSize := by
    simp only [ske, toBytes, bodyToBytes, length_handshakeMessage, length_append, length_lengthThen,
      hra, hrb, hsbLength]
    decide
  refine ⟨{ body := .ibsdh (g1Octets lib.sm9 state.rAPoint), pms := replicate 48 0,
            ibsdh := some (state, g1Octets lib.sm9 state.rAPoint) }, ske,
            output.sharedKey, ?_, hsize⟩
  constructor
  case absent => simp [hmode]
  case serves => exact ⟨"", by simp only [serverExchange, hmode, Option.map_none]⟩
  case verifies => simp only [verifyServerKeyExchange, hmode]
  case answers =>
    simp only [clientExchange, hmode, ibsdhClientExchange, hmatch.clientPpube,
      hmatch.expectedIdentity,
      required, ok_bind, hstate, g1PointToUncompressed_eq hA]
  case reads => simp [ClientKeyExchangeBody.fromBody, hmode, ClientKeyExchangeBody.payload]
  case serverDeferred =>
    refine ⟨hmode, ?_⟩
    simp only [respondIbsdh, ClientKeyExchangeBody.asIbsdhRa, required, ok_bind,
      hmatch.serverEncMaster,
      hmatch.serverIdentity, g1PointFromUncompressed_g1Octets hcorrect hA, huserKey,
        mapError_ok, hppube,
      hrespond, g1PointToUncompressed_eq hB]
    rfl
  case clientDeferred =>
    simp only [DeferredAgrees, finishIbsdh, hread, ok_bind]
    simp only [ske, asIbsdh, ne_eq, not_true_eq_false, not_false_eq_true,
      rejectIf_neg, ok_bind, g1PointFromUncompressed_g1Octets hcorrect hB, hheld,
      hmatch.clientIdentity, hmatch.expectedIdentity, required, hfinish, mapError_ok]
  case serverSecret => simp only [serverPms, hmode, Option.map_some, required]

omit hcorrect

variable (lib connector acceptor clientEntropy serverEntropy suite) in
/-- The messages of the handshake fit into records, which their readers demand. -/
structure RecordsFit (signCert encCert : Bytes) : Prop where
  certificate : (serverCertPair acceptor suite signCert encCert).toCertificateMessage.length ≤
    maxRecordSize
  clientCertificate : (clientCertificateBytes connector suite).length ≤ maxRecordSize
  served : ∀ ske text, serverExchange lib acceptor serverEntropy suite clientEntropy.random
    (serverCertPair acceptor suite signCert encCert) encCert = .ok (some (ske, text)) →
    ske.toBytes.length ≤ maxRecordSize
  answered : ∀ skeBody exchange, clientExchange lib connector clientEntropy suite skeBody
    (serverCertPair acceptor suite signCert encCert).received.encCert = .ok exchange →
      exchange.body.toBytes.length ≤ maxRecordSize

variable (lib connector acceptor clientEntropy serverEntropy now suite signCert encCert) in
/-- The client's signature over the messages of the handshake has a DER form that the server takes
for one. -/
def ProofReadable (keys : Sm2Keys F) : Prop :=
  ∀ ske text exchange, serverExchange lib acceptor serverEntropy suite clientEntropy.random
      (serverCertPair acceptor suite signCert encCert) encCert = .ok (some (ske, text)) →
    clientExchange lib connector clientEntropy suite ske.bodyToBytes encCert = .ok exchange →
      (sm2SignatureRawToDer (lib.sm2.sign keys.clientSign.privateKey
      (connector.clientSignDistid.getD defaultUserId)
        (provenTranscript connector clientEntropy serverEntropy suite
          (serverCertPair acceptor suite signCert encCert) (some ske) exchange.body none))).length ≠
          64

variable (lib connector acceptor clientEntropy serverEntropy now suite signCert encCert) in
/-- The keys of both sides belong together, as the suite's key exchange needs them. -/
def KeysMatch : Prop :=
  match suite.keyExchange with
  | .ecdhe => ∃ keys, Sm2Matching lib connector acceptor now keys encCert ∧
      EcdheDraws lib clientEntropy serverEntropy keys ∧
        ProofReadable lib connector acceptor clientEntropy serverEntropy suite signCert encCert keys
  | .ecc => ∃ keys, Sm2Matching lib connector acceptor now keys encCert ∧
      ProofReadable lib connector acceptor clientEntropy serverEntropy suite signCert encCert keys
  | .ibc => ∃ signMaster encMaster serverId,
      IbcMatching lib connector acceptor clientEntropy serverEntropy signMaster encMaster serverId
  | .ibsdh => ∃ encMaster serverId, IbsdhMatching lib connector acceptor clientEntropy serverEntropy
    encMaster serverId
  | .rsa => ∃ publicKey privateKey, RsaMatching lib connector acceptor publicKey privateKey

variable (lib connector acceptor clientEntropy serverEntropy now suite) in
/-- A connector that offers only the suite and an acceptor configured for it. -/
structure Honest (signCert encCert : Bytes) : Prop where
  offered : connector.cipherSuites = [suite.id]
  configured : serverCertificates acceptor = .ok (signCert, encCert)
  accepted : checkServerCertificate lib connector now
    (serverCertPair acceptor suite signCert encCert).received = .ok ()
  fits : RecordsFit lib connector acceptor clientEntropy serverEntropy suite signCert encCert
  matching : KeysMatch lib connector acceptor clientEntropy serverEntropy now suite signCert encCert

lemma Honest.certificatesAgree
    (hhonest : Honest lib connector acceptor clientEntropy serverEntropy now suite
    signCert encCert) :
    CertificatesAgree lib connector acceptor now suite signCert encCert
      (serverCertPair acceptor suite signCert encCert).received where
  configured := hhonest.configured
  fits := hhonest.fits.certificate
  read := ofEntries_entries _
  encryption := (encCert_received_serverCertPair signCert encCert).1
  layout := (encCert_received_serverCertPair signCert encCert).2
  accepted := hhonest.accepted

lemma RecordsFit.length_encCert_le
    (hfits : RecordsFit lib connector acceptor clientEntropy serverEntropy suite signCert encCert) :
    (serverCertPair acceptor suite signCert encCert).encCert.length ≤ 0xFFFFFF := by
  have hmsg := hfits.certificate
  unfold serverCertPair at hmsg ⊢
  split_ifs at hmsg ⊢ with hsingle
  · exact Nat.zero_le _
  have hmem : encCert ∈ (withChains signCert encCert acceptor.signCertChain
      acceptor.encCertChain).entries := by
    simp [withChains, entries]
  have hlen := length_le_certEntriesToBytes_of_mem hmem
  rw [toCertificateMessage, length_handshakeMessage, body, length_lengthThen] at hmsg
  have hbound : maxRecordSize < 0xFFFFFF := by decide
  exact le_trans hlen (by omega)

variable {exchange : ClientExchange G1} {ske deferred : Option ServerKeyExchangeBody}

lemma RecordsFit.messagesFit (hfits : RecordsFit lib connector acceptor clientEntropy serverEntropy
    suite signCert encCert)
    (hexch : KeyExchangeAgrees lib connector acceptor clientEntropy serverEntropy suite signCert
      encCert (serverCertPair acceptor suite signCert encCert).received ske exchange deferred pms)
    (hdefer : (exchangeMessage deferred).length ≤ maxRecordSize) :
    MessagesFit connector suite ske deferred exchange where
  ske := by
    cases ske with
    | none => exact Nat.zero_le _
    | some ske =>
      obtain ⟨text, hserves⟩ := hexch.serves
      exact hfits.served ske text hserves
  deferred := hdefer
  certificate := hfits.clientCertificate
  exchange := hfits.answered _ _ hexch.answers

lemma sm2_handshake_agrees (hcorrect : lib.Correct)
    (hhonest : Honest lib connector acceptor clientEntropy serverEntropy now suite signCert encCert)
    (hasks : suite.keyExchange.authenticatesClient = true)
    (hmatch : Sm2Matching lib connector acceptor now keys encCert)
    (hreads : ProofReadable lib connector acceptor clientEntropy serverEntropy suite
    signCert encCert keys)
    {ske : ServerKeyExchangeBody}
    (hexch : KeyExchangeAgrees lib connector acceptor clientEntropy serverEntropy suite signCert
      encCert (serverCertPair acceptor suite signCert encCert).received (some ske)
      exchange none pms) :
    EndsInAgreement lib connector acceptor clientEntropy serverEntropy now := by
  have hrsa : suite.keyExchange ≠ .rsa := by
    intro hmode
    rw [hmode] at hasks
    cases hasks
  obtain ⟨text, hserves⟩ := hexch.serves
  have hanswers := hexch.answers
  rw [encCert_received_of_ne_rsa hrsa] at hanswers
  obtain ⟨verify, hproves, hserved⟩ := certificateVerify_agrees hcorrect hmatch hasks
    (hreads ske text exchange hserves hanswers)
  obtain ⟨signDer, encDer, chain, hcerts, -⟩ := hmatch.clientCerts
  exact handshake_agrees hhonest.offered hhonest.certificatesAgree
    (fun _ ↦ by rw [hcerts]; exact cons_ne_nil _ _) (fun _ ↦ hmatch.clientAccepted) hexch
    (hhonest.fits.messagesFit hexch (Nat.zero_le _)) hproves hserved

lemma anonymous_handshake_agrees
    (hhonest : Honest lib connector acceptor clientEntropy serverEntropy now suite signCert encCert)
    (hasks : suite.keyExchange.authenticatesClient = false)
    (hexch : KeyExchangeAgrees lib connector acceptor clientEntropy serverEntropy suite signCert
      encCert (serverCertPair acceptor suite signCert encCert).received ske exchange deferred pms)
    (hdefer : (exchangeMessage deferred).length ≤ maxRecordSize) :
    EndsInAgreement lib connector acceptor clientEntropy serverEntropy now := by
  have hasks' : ¬ suite.keyExchange.authenticatesClient = true := Bool.eq_false_iff.mp hasks
  have hproves (transcript : Bytes) : VerifyAgrees lib connector suite transcript [] := by
    rw [VerifyAgrees, if_neg hasks']
  exact handshake_agrees hhonest.offered hhonest.certificatesAgree (fun h ↦ absurd h hasks')
    (fun h ↦ absurd h hasks') hexch (hhonest.fits.messagesFit hexch hdefer) (hproves _) (.inl rfl)

/-- Honest sides, on any suite and in every schedule, end with streams that hold one session and
each other's keys. -/
theorem honest_handshake_agrees (hcorrect : lib.Correct)
    (hhonest : Honest lib connector acceptor clientEntropy serverEntropy now suite
    signCert encCert) :
    EndsInAgreement lib connector acceptor clientEntropy serverEntropy now := by
  have hmatching := hhonest.matching
  unfold KeysMatch at hmatching
  split at hmatching
  case _ hmode =>
    obtain ⟨keys, hmatch, hdraws, hreadable⟩ := hmatching
    obtain ⟨ske, exchange, pms, hexchange⟩ := ecdhe_keyExchangeAgrees hcorrect hmatch hdraws hmode
    exact sm2_handshake_agrees hcorrect hhonest (by rw [hmode]; rfl) hmatch hreadable hexchange
  case _ hmode =>
    obtain ⟨keys, hmatch, hreadable⟩ := hmatching
    have hlength := hhonest.fits.length_encCert_le
    rw [encCert_serverCertPair (by rw [hmode]; decide)] at hlength
    obtain ⟨ske, exchange, pms, hexchange⟩ := ecc_keyExchangeAgrees hcorrect hmatch hmode hlength
    exact sm2_handshake_agrees hcorrect hhonest (by rw [hmode]; rfl) hmatch hreadable hexchange
  case _ hmode =>
    obtain ⟨signMaster, encMaster, serverId, hmatch⟩ := hmatching
    obtain ⟨ske, exchange, pms, hexchange⟩ :=
      ibc_keyExchangeAgrees hcorrect hmode hmatch hhonest.fits.served
    exact anonymous_handshake_agrees hhonest (by rw [hmode]; rfl) hexchange (Nat.zero_le _)
  case _ hmode =>
    obtain ⟨encMaster, serverId, hmatch⟩ := hmatching
    obtain ⟨exchange, ske, pms, hexchange, hsize⟩ := ibsdh_keyExchangeAgrees hcorrect hmode hmatch
    exact anonymous_handshake_agrees hhonest (by rw [hmode]; rfl) hexchange hsize
  case _ hmode =>
    obtain ⟨publicKey, privateKey, hmatch⟩ := hmatching
    obtain ⟨ske, exchange, pms, hexchange⟩ := rsa_keyExchangeAgrees hmode hmatch
      hhonest.fits.length_encCert_le hhonest.fits.served
    exact anonymous_handshake_agrees hhonest (by rw [hmode]; rfl) hexchange (Nat.zero_le _)

end Exchange

/-! ### Configurations of the small profile -/

lemma miniTlcp_correct : miniTlcp.Correct where
  signatures := miniTlcpCurve_signaturesVerify
  generatorFree := miniTlcpCurve_generatorFree
  wide := wideScalars_mini
  bilinear := miniSm9_bilinear
  sm2Encryption := fun _ _ message _ _ ↦ ⟨rfl, message, rfl, rfl⟩

def miniKeys : Sm2Keys MiniScalar where
  serverSign := ⟨miniSecret 1, defaultUserId⟩
  serverEnc := ⟨miniSecret 1, defaultUserId⟩
  clientSign := ⟨miniSecret 2, defaultUserId⟩
  clientEnc := ⟨miniSecret 2, defaultUserId⟩

lemma miniKeys_usable (serverDistid clientDistid : String) :
    miniKeys.Usable miniTlcp serverDistid clientDistid where
  serverSign := by decide
  serverEnc := by decide
  clientSign := by decide
  clientEnc := by decide
  serverSigner := rfl
  clientSigner := rfl

lemma mini_sm2Matching (suite : TlcpCipherSuite) :
    Sm2Matching miniTlcp (miniPeer suite) miniHost 500 miniKeys (Tls.miniLeaf 1) where
  usable := miniKeys_usable _ _
  serverSignKey := rfl
  serverEncKey := rfl
  pinnedKey := by
    show some (miniEncode (miniSecret 1)) = some (miniEncode (miniSecret 1 * 1))
    rw [mul_one]
  pinnedDistid := rfl
  serverEncCert := by decide
  clientSignKey := ⟨"  ", rfl, rfl⟩
  clientEncKey := ⟨"  ", rfl, rfl⟩
  clientCerts := ⟨Tls.miniLeaf 2, Tls.miniLeaf 2, [], rfl, by decide, by decide⟩
  clientAccepted := by
    show checkClientCertificates miniTlcp miniHost 500 [Tls.miniLeaf 2, Tls.miniLeaf 2] = .ok ()
    decide
  clientSignDistid := rfl
  serverEncDistid := rfl
  clientEncDistid := rfl
  serverEncDistid_le := by decide +kernel
  clientEncDistid_le := by decide +kernel

lemma ecdheClientExchange_body {F P G1 G2 GT : Type} [CommRing F] [AddCommGroup P] [Module F P]
    [DecidableEq F] [DecidableEq P] {lib : TlcpLibrary F P G1 G2 GT}
    {connector : TlcpConnector G1 G2}
    {entropy : ClientEntropy F} {skeBody encCert : Bytes} {exchange : ClientExchange G1}
    (hexch : ecdheClientExchange lib connector entropy skeBody encCert = .ok exchange) :
    exchange.body = .newEcdhe (lib.sm2.encode (entropy.ephemeral • lib.sm2.generator)) := by
  simp only [ecdheClientExchange, bind_eq_ok, Except.ok.injEq] at hexch
  obtain ⟨_, -, _, -, _, -, _, -, _, -, _, -, _, -, _, -, _, -, _, -, _, -, _, -, rfl⟩ := hexch
  rfl

def servedFits : Except TlcpError (Option (ServerKeyExchangeBody × String)) → Bool
  | .ok (some (ske, _)) => ske.toBytes.length ≤ maxRecordSize
  | _ => true

def answeredFits : Except TlcpError (ClientExchange MiniElement) → Bool
  | .ok exchange => exchange.body.toBytes.length ≤ maxRecordSize
  | .error _ => true

/-- The two sides of the profile are honest in a suite. -/
abbrev MiniHonest (suite : TlcpCipherSuite) : Prop :=
  Honest miniTlcp (miniPeer suite) miniHost miniClientEntropy miniServerEntropy 500 suite
    (Tls.miniLeaf 1) (Tls.miniLeaf 1)

lemma mini_honest {suite : TlcpCipherSuite}
    (haccepted : checkServerCertificate miniTlcp (miniPeer suite) 500 (serverCertPair miniHost suite
      (Tls.miniLeaf 1) (Tls.miniLeaf 1)).received = .ok ())
    (hcert : (serverCertPair miniHost suite (Tls.miniLeaf 1)
    (Tls.miniLeaf 1)).toCertificateMessage.length ≤ maxRecordSize)
    (hcli : (clientCertificateBytes (miniPeer suite) suite).length ≤ maxRecordSize)
    (hserved : servedFits (serverExchange miniTlcp miniHost miniServerEntropy suite
      miniClientEntropy.random (serverCertPair miniHost suite (Tls.miniLeaf 1) (Tls.miniLeaf 1))
      (Tls.miniLeaf 1)) = true)
    (hanswered : ∀ skeBody,
    answeredFits (clientExchange miniTlcp (miniPeer suite) miniClientEntropy suite
      skeBody (serverCertPair miniHost suite (Tls.miniLeaf 1) (Tls.miniLeaf 1)).received.encCert) =
      true)
    (hmatching : KeysMatch miniTlcp (miniPeer suite) miniHost miniClientEntropy
    miniServerEntropy 500 suite
      (Tls.miniLeaf 1) (Tls.miniLeaf 1)) :
    MiniHonest suite where
  offered := rfl
  configured := rfl
  accepted := haccepted
  fits := {
    certificate := hcert
    clientCertificate := hcli
    served := fun ske text hserves ↦ by
      rw [hserves] at hserved
      exact of_decide_eq_true hserved
    answered := fun skeBody exchange hexch ↦ by
      have hfits := hanswered skeBody
      rw [hexch] at hfits
      exact of_decide_eq_true hfits }
  matching := hmatching

lemma mini_ecdhe_honest : MiniHonest .ecdheSm4GcmSm3 := by
  refine mini_honest rfl (by decide +kernel) (by decide +kernel) (by decide +kernel) ?_
    ⟨miniKeys, mini_sm2Matching _, ⟨by decide, by decide, by decide⟩, ?_⟩
  · intro skeBody
    show answeredFits (ecdheClientExchange miniTlcp _ _ skeBody _) = true
    generalize hexch : ecdheClientExchange miniTlcp _ _ skeBody _ = answer
    cases answer with
    | error error => rfl
    | ok exchange =>
      rw [answeredFits, ecdheClientExchange_body hexch]
      decide
  intro _ _ _ _ _
  show (sm2SignatureRawToDer (miniXy (miniSecret 2))).length ≠ 64
  decide

lemma mini_ecc_honest : MiniHonest .eccSm4CbcSm3 := by
  have hfits : answeredFits (eccClientExchange miniTlcp miniClientEntropy (Tls.miniLeaf 1)) =
      true := by
    decide
  refine mini_honest rfl (by decide) (by decide) (by decide) (fun _ ↦ hfits)
    ⟨miniKeys, mini_sm2Matching _, fun _ _ _ _ _ ↦ ?_⟩
  show (sm2SignatureRawToDer (miniXy (miniSecret 2))).length ≠ 64
  decide

lemma mini_ibc_honest : MiniHonest .ibcSm4GcmSm3 := by
  have hfits : answeredFits (ibcClientExchange miniTlcp (miniPeer .ibcSm4GcmSm3)
      miniClientEntropy) = true := by
    decide +kernel
  refine mini_honest rfl (by decide) (by decide) (by decide) (fun _ ↦ hfits)
    ⟨⟨11, 11⟩, ⟨10, 10⟩, [9], ?_⟩
  constructor
  case signValid => exact ⟨by decide, by decide⟩
  case encValid => exact ⟨by decide, by decide⟩
  case signs => exact ⟨_, _, rfl, rfl⟩
  case encrypts => exact exists_eq_ok_of_isOk (by decide +kernel)
  case decrypts => exact ⟨_, rfl⟩
  all_goals rfl

lemma mini_ibsdh_honest : MiniHonest .ibsdhSm4CbcSm3 := by
  have hfits :
    answeredFits (ibsdhClientExchange miniTlcp (miniPeer .ibsdhSm4CbcSm3) miniClientEntropy) =
      true := by decide
  refine mini_honest rfl (by decide) (by decide) (by decide) (fun _ ↦ hfits) ⟨⟨10, 10⟩, [9], ?_⟩
  constructor
  case encValid => exact ⟨by decide, by decide⟩
  case exchangeKey => exact ⟨⟨183, 10⟩, by rfl, rfl⟩
  case clientScalar => exact ⟨by decide, by decide⟩
  case serverScalar => exact ⟨by decide, by decide⟩
  all_goals rfl

lemma mini_rsaPair : RsaPair miniTlcp [7] [7] :=
  ⟨fun _ ↦ ⟨[7], rfl, by simp [miniTlcp]⟩, fun _ message _ ↦ ⟨message, rfl, rfl⟩⟩

lemma mini_rsa_honest : MiniHonest .rsaSm4GcmSm3 := by
  have hfits : answeredFits (rsaClientExchange miniTlcp (miniPeer .rsaSm4GcmSm3)
      miniClientEntropy) = true := by
    decide
  exact mini_honest rfl (by decide) (by decide) (by decide) (fun _ ↦ hfits)
    ⟨[7], [7], mini_rsaPair, rfl, rfl, rfl⟩

/-- One handshake of the profile for each key exchange. -/
theorem honest_handshakes_agree :
    EndsInAgreement miniTlcp (miniPeer .ecdheSm4GcmSm3) miniHost miniClientEntropy
    miniServerEntropy 500 ∧
      EndsInAgreement miniTlcp (miniPeer .eccSm4CbcSm3) miniHost miniClientEntropy
      miniServerEntropy 500 ∧
      EndsInAgreement miniTlcp (miniPeer .ibcSm4GcmSm3) miniHost miniClientEntropy
      miniServerEntropy 500 ∧
      EndsInAgreement miniTlcp (miniPeer .ibsdhSm4CbcSm3) miniHost miniClientEntropy
      miniServerEntropy 500 ∧
      EndsInAgreement miniTlcp (miniPeer .rsaSm4GcmSm3) miniHost miniClientEntropy miniServerEntropy
        500 :=
  ⟨honest_handshake_agrees miniTlcp_correct mini_ecdhe_honest,
    honest_handshake_agrees miniTlcp_correct mini_ecc_honest,
    honest_handshake_agrees miniTlcp_correct mini_ibc_honest,
    honest_handshake_agrees miniTlcp_correct mini_ibsdh_honest,
    honest_handshake_agrees miniTlcp_correct mini_rsa_honest⟩

def oversizedHost : TlcpAcceptor MiniScalar MiniElement MiniElement where
  rsaCert := some (List.replicate 16384 0)
  rsaSigner := some [7]
  rsaDecryptor := some [7]
  rsaSingleCertMode := true

/-- Configurations that match, with a certificate that the client refuses to read. -/
theorem honest_handshake_refused : (miniPeer .rsaSm4GcmSm3).cipherSuites =
    [TlcpCipherSuite.rsaSm4GcmSm3.id] ∧
      serverCertificates oversizedHost = .ok (List.replicate 16384 0, List.replicate 16384 0) ∧
      RsaMatching miniTlcp (miniPeer .rsaSm4GcmSm3) oversizedHost [7] [7] ∧
      ¬ EndsInAgreement miniTlcp (miniPeer .rsaSm4GcmSm3) oversizedHost miniClientEntropy
      miniServerEntropy 500 := by
  have hrecord (cert : Bytes) (hcert : cert.length = 16384) :
      plaintextRecord (serverCertPair oversizedHost .rsaSm4GcmSm3 cert cert).toCertificateMessage =
        [22, 1, 1, 64, 10] ++
        (serverCertPair oversizedHost .rsaSm4GcmSm3 cert cert).toCertificateMessage := by
    have hmessage :
      (serverCertPair oversizedHost .rsaSm4GcmSm3 cert cert).toCertificateMessage.length =
        16394 := by
      show (handshakeMessage .certificate (lengthThen 3 (certEntriesToBytes [cert]))).length = _
      simp [certEntriesToBytes, length_handshakeMessage, hcert]
    rw [plaintextRecord, hmessage]
    rfl
  refine ⟨rfl, rfl, ⟨mini_rsaPair, rfl, rfl, rfl⟩, ?_⟩
  -- the hellos, the Certificate message, and the client's refusal after the header of its record
  refine not_inevitably_of_left_error ?_ (.head (.left (.write _ _ _)) <| .head
    (.left (.note _ _ _)) <|
    .head (.right (.of_read [22, 1, 1, 0, 45] rfl rfl)) <|
    .head (.right (.of_read (clientHello (miniPeer .rsaSm4GcmSm3) miniClientEntropy.random).toBytes
      rfl rfl)) <|
    .head (.right (.note _ _ _)) <| .head (.right (.write _ _ _)) <| .head (.right (.note _ _ _)) <|
    .head (.right (.write _ _ _)) <| .head (.left (.of_read [22, 1, 1, 0, 74] rfl rfl)) <|
    .head (.left (.of_read (sessionHello miniServerEntropy .rsaSm4GcmSm3).toBytes rfl rfl)) <|
    .head (.left (.note _ _ _)) <|
    .head (.left (.of_read [22, 1, 1, 64, 10] (hrecord _ length_replicate) rfl)) <| .refl)
  rintro state ⟨client, server, rfl, -⟩
  exact ⟨client, server, rfl⟩

/-- The server holds the keys that a suite needs. -/
def TlcpAcceptor.HasKeyMaterial (acceptor : TlcpAcceptor F G1 G2)
    (suite : TlcpCipherSuite) : Prop :=
  match suite.keyExchange with
  | .ecdhe | .ecc => acceptor.signKey.isSome ∧ acceptor.encKey.isSome
  | .ibc | .ibsdh => acceptor.sm9SignMaster.isSome ∧ acceptor.sm9EncMaster.isSome
  | .rsa => acceptor.rsaSigner.isSome ∧ acceptor.rsaDecryptor.isSome

omit [CommRing F] in
/-- The selected suite is one the server has keys for exactly if the first suite of the list that it
knows is. -/
theorem selection_usable_iff {acceptor : TlcpAcceptor F G1 G2} {hello : ClientHello}
    (hvers : hello.version = tlcpVersion10)
    (hfresh : hello.sessionId = [] ∨ acceptor.sessionCache hello.sessionId = none)
    (hoffers : ∃ id ∈ hello.cipherSuites, ∃ suite, TlcpCipherSuite.fromId id = some suite ∧
      acceptor.HasKeyMaterial suite) (entropy : ServerEntropy F) :
    ∃ suite sessionId, processClientHello acceptor entropy hello = .ok (suite, sessionId) ∧
    (acceptor.HasKeyMaterial suite ↔
        ∀ first ∈ (hello.cipherSuites.filterMap TlcpCipherSuite.fromId).head?,
        acceptor.HasKeyMaterial first) := by
  obtain ⟨id, hmem, offered, hid, -⟩ := hoffers
  obtain ⟨suite, hsuite⟩ :=
    Option.isSome_iff_exists.mp (findSome?_isSome_iff.mpr ⟨id, hmem, Option.isSome_of_eq_some hid⟩)
  refine ⟨suite, _, processClientHello_fresh hvers hfresh hsuite, ?_⟩
  rw [head?_filterMap, hsuite]
  simp

def rsaHost : TlcpAcceptor MiniScalar MiniElement MiniElement where
  rsaCert := some [1]
  rsaSigner := some [7]
  rsaDecryptor := some [7]

def offering (suites : List TlcpCipherSuite) : ClientHello :=
  clientHello (miniConnector (suites.map TlcpCipherSuite.id)) miniClientEntropy.random

/-- It selects an RSA suite that is offered first. -/
theorem rsa_first_usable : ∃ suite sessionId,
    processClientHello rsaHost miniServerEntropy (offering [.rsaSm4GcmSm3, .eccSm4GcmSm3]) =
    .ok (suite, sessionId) ∧
      rsaHost.HasKeyMaterial suite := by
  obtain ⟨suite, sessionId, hselect, husable⟩ := @selection_usable_iff _ _ _ rsaHost
    (offering [.rsaSm4GcmSm3, .eccSm4GcmSm3]) rfl (.inl rfl)
    ⟨_, mem_cons_self, .rsaSm4GcmSm3, rfl, rfl, rfl⟩ miniServerEntropy
  refine ⟨suite, sessionId, hselect, husable.mpr fun first hfirst ↦ ?_⟩
  cases hfirst
  exact ⟨rfl, rfl⟩

/-- It selects an SM2 suite that is offered before one of RSA, and then has no key to go on with. -/
theorem rsa_second_unusable :
    processClientHello rsaHost miniServerEntropy (offering [.eccSm4GcmSm3, .rsaSm4GcmSm3]) =
      .ok (.eccSm4GcmSm3, miniServerEntropy.sessionId.bytes) ∧
      rsaHost.HasKeyMaterial .rsaSm4GcmSm3 ∧
        ¬ rsaHost.HasKeyMaterial .eccSm4GcmSm3 ∧
          serverExchange miniTlcp rsaHost miniServerEntropy .eccSm4GcmSm3 miniClientEntropy.random
          (newSingle []) [] =
            .error
            (.handshakeFailed "SM2 sign key not configured (needed for static-ECC suites)") :=
  ⟨rfl, ⟨rfl, rfl⟩, fun hkeys ↦ absurd hkeys.1 (by decide), rfl⟩

end GmStack.Tlcp
