import GmStack.Tlcp.MiniProfile
import GmStack.Tlcp.Runs

/-! What a successful run of either side says about its peer. In the IBC mode the truth value of
`Verifier::verify` is dropped. -/

namespace GmStack.Tlcp

open Foundation Crypto X509 List TlcpCipherSuite Option ServerKeyExchangeBody

variable {F P G1 G2 GT : Type} [CommRing F] [AddCommGroup P] [Module F P]
  {lib : TlcpLibrary F P G1 G2 GT} {connector : TlcpConnector G1 G2}

/-- The record at a place among those a side read carries a message. -/
def ReceivedAt (noted : List TlcpNote) (index : ℕ) (type : HandshakeType) (body : Bytes) : Prop :=
  ∃ contentType payload, (receivedRecords noted)[index]? = some (contentType, payload) ∧
    Carries payload type body

variable {noted : List TlcpNote}

lemma ReceivedAt.unique {index : ℕ} {type otherType : HandshakeType}
    {body other : Bytes} (hfirst : ReceivedAt noted index type body)
    (hsnd : ReceivedAt noted index otherType other) : other = body := by
  obtain ⟨_, _, hplace, hcarry⟩ := hfirst
  obtain ⟨_, _, hplace', hcarries'⟩ := hsnd
  rw [hplace, some.injEq, Prod.mk.injEq] at hplace'
  obtain ⟨-, rfl⟩ := hplace'
  exact (hcarry.unique hcarries').2

/-- The first message a client read is a ServerHello. -/
def ServerHelloReceived (noted : List TlcpNote) (hello : ServerHello) : Prop :=
  ∃ body, ReceivedAt noted 0 .serverHello body ∧ ServerHello.fromBytes body = .ok hello

lemma ServerHelloReceived.unique {hello other : ServerHello}
    (hfirst : ServerHelloReceived noted hello) (hsnd : ServerHelloReceived noted other) :
    other = hello := by
  obtain ⟨body, hrecv, hparse⟩ := hfirst
  obtain ⟨body', hreceived', hparse'⟩ := hsnd
  obtain rfl := hrecv.unique hreceived'
  rw [hparse, Except.ok.injEq] at hparse'
  exact hparse'.symm

/-! ### An authenticated key exchange -/

variable (lib connector) in
/-- The SM2 signature of an ECDHE server was accepted under the pinned key. -/
def EcdheAuthenticated (clientRandom serverRandom : Octets 32) (noted : List TlcpNote) : Prop :=
  ∃ skeBody params signature pubkey distid, ReceivedAt noted 2 .serverKeyExchange skeBody ∧
    ServerKeyExchangeBody.fromBody skeBody .ecdhe = .ok (.ecdhe params) ∧
    rawSignature "ECDHE SKE signature DER decode: " params.signature = .ok signature ∧
    connector.serverSignPubkey = some pubkey ∧ connector.serverSignDistid = some distid ∧
    lib.sm2.Accepts pubkey distid
      (ecdheSignedInput clientRandom serverRandom params.ephemeralPublic) signature

/-- The certificates of the second message a client read. -/
def CertificatesReceived (noted : List TlcpNote) (certPair : CertPair) : Prop :=
  ∃ body, ReceivedAt noted 1 .certificate body ∧ CertPair.fromCertificateMessage body = .ok certPair

variable (lib connector) in
/-- The SM2 signature of a static-ECC server was accepted under the pinned key. -/
def EccAuthenticated (clientRandom serverRandom : Octets 32) (noted : List TlcpNote) : Prop :=
  ∃ certPair skeBody signatureDer signature pubkey distid, CertificatesReceived noted certPair ∧
    ReceivedAt noted 2 .serverKeyExchange skeBody ∧
    ServerKeyExchangeBody.fromBody skeBody .ecc = .ok (.ecc signatureDer) ∧
    sm2SignatureDerToRaw signatureDer = .ok signature ∧
    connector.serverSignPubkey = some pubkey ∧ connector.serverSignDistid = some distid ∧
    lib.sm2.Accepts pubkey distid (certSignedInput clientRandom serverRandom certPair.encCert)
      signature

variable (lib connector) in
/-- The signature of an RSA server was accepted under the configured key. -/
def RsaAuthenticated (clientRandom serverRandom : Octets 32) (noted : List TlcpNote) : Prop :=
  ∃ certPair skeBody signature rsaPub, CertificatesReceived noted certPair ∧
    ReceivedAt noted 2 .serverKeyExchange skeBody ∧
    ServerKeyExchangeBody.fromBody skeBody .ecc = .ok (.ecc signature) ∧
      connector.rsaServerPub = some rsaPub ∧
    lib.rsaVerify rsaPub (sm3Pkcs1V15Encoding lib
      (certSignedInput clientRandom serverRandom certPair.encCert)) signature = .ok ()

variable (lib) in
/-- The ServerKeyExchange of an IBC server: the identity and the signature it carries. -/
def IbcSignatureReceived (noted : List TlcpNote) (serverId : Bytes) (signature : Sm9Signature G1) :
    Prop :=
  ∃ skeBody sigBytes, ReceivedAt noted 2 .serverKeyExchange skeBody ∧
    ServerKeyExchangeBody.fromBody skeBody .ibc = .ok (.ibc serverId sigBytes) ∧
    Sm9Signature.fromBytes lib.sm9 sigBytes = .ok signature

lemma IbcSignatureReceived.unique {serverId otherId : Bytes}
    {signature other : Sm9Signature G1} (hfirst : IbcSignatureReceived lib noted serverId signature)
    (hsnd : IbcSignatureReceived lib noted otherId other) : otherId = serverId ∧
    other = signature := by
  obtain ⟨skeBody, sigBytes, hrecv, hparse, hsig⟩ := hfirst
  obtain ⟨skeBody', sigBytes', hreceived', hparse', hsignature'⟩ := hsnd
  obtain rfl := hrecv.unique hreceived'
  rw [hparse, Except.ok.injEq, ibc.injEq] at hparse'
  obtain ⟨rfl, rfl⟩ := hparse'
  rw [hsig, Except.ok.injEq] at hsignature'
  exact ⟨rfl, hsignature'.symm⟩

variable (lib connector) in
/-- The SM9 signature of an IBC server verifies under the configured master key and identity. -/
def IbcAuthenticated (clientRandom serverRandom : Octets 32) (noted : List TlcpNote) : Prop :=
  ∃ serverId signature ppubs, IbcSignatureReceived lib noted serverId signature ∧
    connector.sm9ServerId = some serverId ∧ connector.sm9KgcPpubs = some ppubs ∧
    sm9Verify lib.sm9 serverId ppubs (ibcSignedInput clientRandom serverRandom serverId) signature =
      .ok true

variable (lib connector) in
/-- The confirmation that an IBSDH server sent in its last message is the one the client computes.
-/
def IbsdhAuthenticated (scalar : ℕ) (noted : List TlcpNote) : Prop :=
  ∃ contentType payload skeBody ra rb sb rbPoint ppube serverId clientId deA,
    (receivedRecords noted).getLast? = some (contentType, payload) ∧
    Carries payload .serverKeyExchange skeBody ∧
    ServerKeyExchangeBody.fromBody skeBody .ibsdh = .ok (.ibsdh ra rb sb) ∧
    g1PointFromUncompressed lib rb = .ok rbPoint ∧ connector.sm9KgcPpube = some ppube ∧
    connector.sm9ServerId = some serverId ∧ connector.sm9IbsdhClientId = some clientId ∧
    connector.sm9IbsdhDeA = some deA ∧ computeSb lib.sm9 lib.sm3
      ((initiatorBegin lib.sm9 serverId ppube scalar).values lib.sm9 rbPoint deA) clientId serverId
      (initiatorBegin lib.sm9 serverId ppube scalar).rAPoint rbPoint = sb

variable (lib connector) in
/-- The server's key exchange was authenticated for the randoms of the connection, by its mode. -/
def KeyExchangeAuthenticated (entropy : ClientEntropy F) (stream : TlcpStream)
    (noted : List TlcpNote) : Prop :=
  ∃ session, stream.cachedResumedSession = some session ∧
    match stream.cipherSuite.keyExchange with
    | .ecdhe => EcdheAuthenticated lib connector session.clientRandom session.serverRandom noted
    | .ecc => EccAuthenticated lib connector session.clientRandom session.serverRandom noted
    | .rsa => RsaAuthenticated lib connector session.clientRandom session.serverRandom noted
    | .ibc => IbcAuthenticated lib connector session.clientRandom session.serverRandom noted
    | .ibsdh => IbsdhAuthenticated lib connector entropy.sm9Scalar noted

variable (lib connector) in
/-- When the ServerHello names a suite of IBC, the SM9 signature that follows verifies. -/
def IbcSignatureVerifies (clientRandom : Octets 32) (noted : List TlcpNote) : Prop :=
  ∀ hello suite serverId signature ppubs, ServerHelloReceived noted hello →
    TlcpCipherSuite.fromId hello.cipherSuite = some suite → suite.keyExchange = .ibc →
    IbcSignatureReceived lib noted serverId signature → connector.sm9KgcPpubs = some ppubs →
    sm9Verify lib.sm9 serverId ppubs (ibcSignedInput clientRandom hello.random serverId) signature =
      .ok true

variable {clientRandom serverRandom : Octets 32} {skeBody : Bytes} {encCert : Bytes}

lemma verifySm2KeyExchange_eq_ok {isEccMode : Bool}
    (hver : verifySm2KeyExchange lib connector isEccMode
      skeBody clientRandom serverRandom encCert = .ok ()) :
    ∃ pubkey distid, connector.serverSignPubkey = some pubkey ∧ connector.serverSignDistid =
    some distid ∧
      lib.sm2.verifyingKeyFromSec1Bytes distid pubkey = .ok () ∧
      verifySkeSignature lib isEccMode skeBody clientRandom serverRandom encCert ⟨pubkey, distid⟩ =
      .ok () := by
  simp only [verifySm2KeyExchange, bind_eq_ok, required_eq_ok, mapError_eq_ok,
    Sm2Verifier.new_eq_ok] at hver
  obtain ⟨pubkey, hpubkey, distid, hdistid, _, ⟨hkey, rfl⟩, hver⟩ := hver
  exact ⟨pubkey, distid, hpubkey, hdistid, hkey, hver⟩

lemma verifyRsaKeyExchange_eq_ok
    (hver : verifyRsaKeyExchange lib connector skeBody clientRandom serverRandom encCert = .ok ()) :
    ∃ rsaPub signature, connector.rsaServerPub = some rsaPub ∧ fromBody skeBody .ecc =
    .ok (.ecc signature) ∧
      lib.rsaVerify rsaPub
      (sm3Pkcs1V15Encoding lib (certSignedInput clientRandom serverRandom encCert))
        signature = .ok () := by
  simp only [verifyRsaKeyExchange, bind_eq_ok, required_eq_ok, mapError_eq_ok] at hver
  obtain ⟨rsaPub, hpub, ske, hparse, hver⟩ := hver
  cases ske with
  | ecc signature => exact ⟨rsaPub, signature, hpub, hparse, mapError_eq_ok.mp hver⟩
  | ecdhe | ibc | ibsdh => cases hver

lemma verifyIbcKeyExchange_eq_ok (hver : verifyIbcKeyExchange lib connector skeBody clientRandom
    serverRandom = .ok ()) :
    ∃ ppubs serverId sigBytes signature, connector.sm9KgcPpubs = some ppubs ∧
    connector.sm9ServerId = some serverId ∧
      fromBody skeBody .ibc = .ok (.ibc serverId sigBytes) ∧
      Sm9Signature.fromBytes lib.sm9 sigBytes = .ok signature := by
  simp only [verifyIbcKeyExchange, bind_eq_ok, required_eq_ok] at hver
  obtain ⟨ppubs, hppubs, serverId, hserverId, ske, hparse, hver⟩ := hver
  cases ske with
  | ibc skeServerId sigBytes =>
    simp only [asIbc, rejectIf_eq_ok, not_not, bind_eq_ok, mapError_eq_ok] at hver
    obtain ⟨⟨⟩, rfl, signature, hsig, -⟩ := hver
    exact ⟨ppubs, skeServerId, sigBytes, signature, hppubs, hserverId, hparse, hsig⟩
  | ecdhe | ecc | ibsdh => cases hver

lemma finishIbsdh_eq_ok {state : InitiatorState G1} {raSent pms : Bytes}
    (hfinish : finishIbsdh lib connector state raSent skeBody = .ok pms) :
    ∃ ra rb sb rbPoint deA clientId serverId,
      fromBody skeBody .ibsdh = .ok (.ibsdh ra rb sb) ∧
      g1PointFromUncompressed lib rb = .ok rbPoint ∧ connector.sm9IbsdhDeA = some deA ∧
      connector.sm9IbsdhClientId = some clientId ∧ connector.sm9ServerId = some serverId ∧
      initiatorFinish lib.sm9 lib.sm3 state rbPoint deA clientId serverId 48 sb = .ok pms := by
  simp only [finishIbsdh, bind_eq_ok] at hfinish
  obtain ⟨ske, hparse, hfinish⟩ := hfinish
  cases ske with
  | ibsdh ra rb sb =>
    simp only [asIbsdh, bind_eq_ok, required_eq_ok, mapError_eq_ok] at hfinish
    obtain ⟨_, -, rbPoint, hrb, deA, hdeA, clientId, hclientId, serverId, hserverId, hfinish⟩ :=
      hfinish
    exact ⟨ra, rb, sb, rbPoint, deA, clientId, serverId, hparse, hrb, hdeA, hclientId,
      hserverId, hfinish⟩
  | ecdhe | ecc | ibc => cases hfinish

section Runs

variable [DecidableEq F] [DecidableEq P] {entropy : ClientEntropy F} {now : Instant}
  {trace : List (Event TlcpNote)}
  {stream : TlcpStream}

lemma ibsdhAuthenticated_of_ends {noted before after : List TlcpNote} {flight : ServerFlight}
    {ready : ClientReady} (hends : Ends (sendClientFlight lib connector entropy flight) noted ready)
    (hmode : flight.suite.keyExchange = .ibsdh) (hafter : receivedRecords after = []) :
    IbsdhAuthenticated lib connector entropy.sm9Scalar (before ++ (noted ++ after)) := by
  obtain ⟨_, doneNotes, _, certNotes, _, exchange, deferredNotes, pms, deferred,
    verifyNotes, _, -, -,
    hexch, hdefer, hver, rfl, -, -, -⟩ := ends_sendClientFlight hends
  simp only [clientExchange, hmode, ibsdhClientExchange, bind_eq_ok, required_eq_ok] at hexch
  obtain ⟨ppube, hppube, serverId, hserverId, raBytes, -, hval⟩ := hexch
  obtain rfl := Except.ok.inj hval
  obtain ⟨hnone, -, -⟩ | ⟨state, raSent, contentType, body, hsome, hcarry, hfinish, rfl⟩ :=
    ends_readDeferredKeyExchange hdefer
  · cases hnone
  obtain ⟨rfl, -⟩ := Prod.mk.inj (some.inj hsome)
  obtain ⟨ra, rb, sb, rbPoint, deA, clientId, serverId', hparse, hrb, hdeA, hclientId, hserverId',
    hfinish⟩ := finishIbsdh_eq_ok hfinish
  obtain rfl : serverId = serverId' := some.inj (hserverId.symm.trans hserverId')
  obtain ⟨-, hsb, -⟩ := initiatorFinish_eq_ok.mp hfinish
  refine ⟨contentType, deferred, body, ra, rb, sb, rbPoint, ppube, serverId, clientId, deA, ?_,
    hcarry, hparse, hrb, hppube, hserverId, hclientId, hdeA, hsb⟩
  simp [hver.receivedRecords, hafter]

lemma flight_of_runs (hrun : Runs (connectWithCerts lib connector entropy now) trace (.ok stream)) :
    ∃ (flight : ServerFlight) (master : Bytes), ServerHelloReceived (notes trace) flight.hello ∧
      CertificatesReceived (notes trace) flight.certPair ∧
      fromId flight.hello.cipherSuite = some stream.cipherSuite ∧
      (stream.cipherSuite.keyExchange ≠ .ibsdh →
      ReceivedAt (notes trace) 2 .serverKeyExchange flight.skeBody) ∧
      verifyServerKeyExchange lib connector stream.cipherSuite flight.skeBody entropy.random
        flight.hello.random flight.certPair.encCert = .ok () ∧
      (stream.cipherSuite.keyExchange = .ibsdh → IbsdhAuthenticated lib connector entropy.sm9Scalar
      (notes trace)) ∧
      stream.cachedResumedSession =
      some (resumedSession master stream.cipherSuite entropy.random flight.hello.random) := by
  obtain ⟨flight, ready, openNotes, flightNotes, finishNotes, hopen, hflight, hfinish, hnoted⟩ :=
    ends_connectWithCerts hrun.ends
  obtain ⟨shType, shPayload, shBody, certType, certPayload, certBody, skeNotes,
    skePayload, hsh, hshParse,
    hcert, hcertParse, hsuite, hske, hver, rfl, -⟩ := ends_openHandshake hopen
  obtain ⟨_, _, _, _, _, _, _, _, _, _, _, -, -, -, -, -, -, hready, hrandom, -⟩ :=
    ends_sendClientFlight hflight
  obtain ⟨⟨ccs, serverFinished, rfl⟩, material, readSeq, writeSeq, -, hstream⟩ :=
    ends_finishClient hfinish
  have hcipher : stream.cipherSuite = ready.suite := congrArg TlcpStream.cipherSuite hstream
  have hsess := congrArg TlcpStream.cachedResumedSession hstream
  rw [hready] at hcipher
  rw [hready, hrandom, ← hcipher] at hsess
  rw [← hcipher] at hsuite hske hver
  refine ⟨flight, ready.master, ⟨shBody, ⟨shType, shPayload, ?_, hsh⟩, hshParse⟩,
    ⟨certBody, ⟨certType, certPayload, ?_, hcert⟩, hcertParse⟩, hsuite, ?_, hver, ?_, hsess⟩
  · rw [hnoted]
    rfl
  · rw [hnoted]
    rfl
  · intro hmode
    obtain ⟨hibsdh, -, -⟩ | ⟨-, skeType, hcarry, rfl⟩ := ends_readServerKeyExchange hske
    · exact absurd hibsdh hmode
    · exact ⟨skeType, skePayload, by rw [hnoted]; rfl, hcarry⟩
  intro hmode
  rw [hnoted]
  exact ibsdhAuthenticated_of_ends hflight (hcipher ▸ hmode) rfl

/-- **The negotiated suite.** A client uses a suite that it offered exactly when the ServerHello
names one of them. -/
theorem negotiated_offered_iff (hrun : Runs (connectWithCerts lib connector entropy now)
    trace (.ok stream)) :
    stream.cipherSuite.id ∈ (clientHello connector entropy.random).cipherSuites ↔
      ∃ hello, ServerHelloReceived (notes trace) hello ∧
      hello.cipherSuite ∈ connector.cipherSuites := by
  obtain ⟨flight, master, hreceived, -, hsuite, -⟩ := flight_of_runs hrun
  have hid := id_of_fromId hsuite
  constructor
  · intro hoffered
    exact ⟨flight.hello, hreceived, hid ▸ hoffered⟩
  rintro ⟨other, hother, hoffered⟩
  obtain rfl := hreceived.unique hother
  exact hid ▸ hoffered

/-- A server that chooses the suite offered is followed. -/
theorem negotiated_offered_single_offer :
    ∃ stream trace, Runs (miniConnect [TlcpCipherSuite.rsaSm4GcmSm3.id]) trace (.ok stream) ∧
      stream.cipherSuite.id ∈ [TlcpCipherSuite.rsaSm4GcmSm3.id] := by
  obtain ⟨stream, trace, hrun, -, hfirst⟩ := exists_runs_of_feed (miniConnect [rsaSm4GcmSm3.id])
    (miniServerFlight
      [rsaSm4GcmSm3.id] .rsaSm4GcmSm3 (.ecc [7]) []) (fun _ ↦ ()) ()
    (fun noted ↦ (receivedRecords noted)[0]? = some (0x16, (miniServerHello .rsaSm4GcmSm3).toBytes))
    (by decide +kernel)
  exact ⟨stream, trace, hrun, (negotiated_offered_iff hrun).mpr
    ⟨miniServerHello .rsaSm4GcmSm3, ⟨(miniServerHello .rsaSm4GcmSm3).body, ⟨0x16, _, hfirst, [],
      by decide⟩, by decide⟩, mem_singleton_self _⟩⟩

/-- A server that answers an offer of SM4-GCM alone with SM4-CBC is followed too. -/
theorem not_negotiated_offered_downgrade :
    ∃ stream trace, Runs (miniConnect [TlcpCipherSuite.rsaSm4GcmSm3.id]) trace (.ok stream) ∧
      stream.cipherSuite.id ∉ [TlcpCipherSuite.rsaSm4GcmSm3.id] := by
  obtain ⟨stream, trace, hrun, hsuite, -⟩ := exists_runs_of_feed (miniConnect [rsaSm4GcmSm3.id])
    (miniServerFlight
      [rsaSm4GcmSm3.id] .rsaSm4CbcSm3 (.ecc [7]) []) TlcpStream.cipherSuite .rsaSm4CbcSm3
    (fun _ ↦ True) (by decide +kernel)
  refine ⟨stream, trace, hrun, ?_⟩
  rw [hsuite]
  decide

/-- **Server authentication.** The client has authenticated the key exchange, unless the suite is
one of IBC and the signature does not verify. -/
theorem connect_keyExchange_authenticated_iff
    (hrun : Runs (connectWithCerts lib connector entropy now) trace (.ok stream)) :
    KeyExchangeAuthenticated lib connector entropy stream (notes trace) ↔
      IbcSignatureVerifies lib connector entropy.random (notes trace) := by
  obtain ⟨flight, master, hhello, hcert, hsuite, hske, hverify, hibsdh, hsession⟩ :=
    flight_of_runs hrun
  have hcondition (hmode : stream.cipherSuite.keyExchange ≠ .ibc) :
      IbcSignatureVerifies lib connector entropy.random (notes trace) := by
    intro hello suite _ _ _ hreceived hfound hibc
    obtain rfl := hhello.unique hreceived
    rw [hsuite, some.injEq] at hfound
    exact absurd (hfound ▸ hibc) hmode
  cases hmode : stream.cipherSuite.keyExchange with
  | ecdhe =>
    refine iff_of_true ⟨_, hsession, ?_⟩ (hcondition (by simp [hmode]))
    simp only [verifyServerKeyExchange, hmode] at hverify ⊢
    obtain ⟨pubkey, distid, hpubkey, hdistid, hkey, hverify⟩ := verifySm2KeyExchange_eq_ok hverify
    obtain ⟨params, signature, hparse, hraw, haccepts⟩ :=
      (verifySkeSignature_ecdhe_eq_ok hkey).mp hverify
    exact ⟨flight.skeBody, params, signature, pubkey, distid, hske (by simp [hmode]), hparse, hraw,
      hpubkey, hdistid, haccepts⟩
  | ecc =>
    refine iff_of_true ⟨_, hsession, ?_⟩ (hcondition (by simp [hmode]))
    simp only [verifyServerKeyExchange, hmode] at hverify ⊢
    obtain ⟨pubkey, distid, hpubkey, hdistid, hkey, hverify⟩ := verifySm2KeyExchange_eq_ok hverify
    obtain ⟨der, signature, hparse, hraw, haccepts⟩ :=
      (verifySkeSignature_ecc_eq_ok hkey).mp hverify
    exact ⟨flight.certPair, flight.skeBody, der, signature, pubkey, distid, hcert,
      hske (by simp [hmode]),
      hparse, hraw, hpubkey, hdistid, haccepts⟩
  | rsa =>
    refine iff_of_true ⟨_, hsession, ?_⟩ (hcondition (by simp [hmode]))
    simp only [verifyServerKeyExchange, hmode] at hverify ⊢
    obtain ⟨rsaPub, signature, hpub, hparse, haccepts⟩ := verifyRsaKeyExchange_eq_ok hverify
    exact ⟨flight.certPair, flight.skeBody, signature, rsaPub, hcert, hske (by simp [hmode]),
      hparse, hpub, haccepts⟩
  | ibsdh =>
    refine iff_of_true ⟨_, hsession, ?_⟩ (hcondition (by simp [hmode]))
    simp only [hmode]
    exact hibsdh hmode
  | ibc =>
    simp only [verifyServerKeyExchange, hmode] at hverify
    obtain ⟨ppubs, serverId, sigBytes, signature, hppubs, hserverId, hparse, hsignature⟩ :=
      verifyIbcKeyExchange_eq_ok hverify
    have hreceived : IbcSignatureReceived lib (notes trace) serverId signature :=
      ⟨flight.skeBody, sigBytes, hske (by simp [hmode]), hparse, hsignature⟩
    constructor
    · rintro ⟨session, hsame, hauthenticated⟩
      rw [hsession, some.injEq] at hsame
      subst hsame
      simp only [hmode] at hauthenticated
      obtain ⟨foundId, found, foundPpubs, hfound, hfoundId, hfoundPpubs, hverified⟩ :=
        hauthenticated
      intro hello suite otherId other otherPpubs hother _ _ hotherReceived hotherPpubs
      obtain rfl := hhello.unique hother
      obtain ⟨rfl, rfl⟩ := hfound.unique hotherReceived
      obtain rfl : foundPpubs = otherPpubs := some.inj (hfoundPpubs.symm.trans hotherPpubs)
      exact hverified
    intro hall
    refine ⟨_, hsession, ?_⟩
    simp only [hmode]
    exact ⟨serverId, signature, ppubs, hreceived, hserverId, hppubs,
      hall flight.hello stream.cipherSuite serverId signature ppubs hhello hsuite
      hmode hreceived hppubs⟩

end Runs

/-- The records of the IBC server of the small profile with its hello and its key exchange. -/
abbrev MiniIbcReceived (signature : Sm9Signature MiniElement) (noted : List TlcpNote) : Prop :=
  (receivedRecords noted)[0]? = some (0x16, (miniServerHello .ibcSm4GcmSm3).toBytes) ∧
    (receivedRecords noted)[2]? = some (0x16, (miniIbcExchange signature).toBytes)

lemma received_miniIbcFlight {noted : List TlcpNote} {signature : Sm9Signature MiniElement}
    (hsig : signature = ⟨215, 154⟩ ∨ signature = ⟨0, 5⟩) (hrecs : MiniIbcReceived signature noted) :
    ServerHelloReceived noted (miniServerHello .ibcSm4GcmSm3) ∧
    IbcSignatureReceived miniTlcp noted [9] signature := by
  refine ⟨⟨(miniServerHello .ibcSm4GcmSm3).body, ⟨0x16, _, hrecs.1, [], by decide⟩, by decide⟩,
    (miniIbcExchange signature).bodyToBytes, signature.toBytes miniSm9,
    ⟨0x16, _, hrecs.2, [], ?_⟩, ?_, ?_⟩
  · rcases hsig with rfl | rfl <;> decide
  · rcases hsig with rfl | rfl <;> decide
  · rcases hsig with rfl | rfl <;> rfl

/-- A server of an IBC suite that signs the randoms is authenticated. -/
theorem connect_keyExchange_authenticated_ibc :
    ∃ stream trace, Runs (miniConnect [TlcpCipherSuite.ibcSm4GcmSm3.id]) trace (.ok stream) ∧
      KeyExchangeAuthenticated miniTlcp (miniConnector [TlcpCipherSuite.ibcSm4GcmSm3.id])
        miniClientEntropy stream (notes trace) := by
  obtain ⟨stream, trace, hrun, -, hrecords⟩ := exists_runs_of_feed
    (miniConnect [ibcSm4GcmSm3.id]) (miniIbcFlight ⟨215, 154⟩) (fun _ ↦ ()) ()
    (MiniIbcReceived ⟨215, 154⟩) (by decide +kernel)
  refine ⟨stream, trace, hrun, (connect_keyExchange_authenticated_iff hrun).mpr ?_⟩
  obtain ⟨hhello, hsignature⟩ := received_miniIbcFlight (.inl rfl) hrecords
  intro hello suite serverId signature ppubs hreceived _ _ hsigned hppubs
  obtain rfl := hhello.unique hreceived
  obtain ⟨rfl, rfl⟩ := hsignature.unique hsigned
  obtain rfl : (11 : MiniElement) = ppubs := some.inj hppubs
  decide

/-- A server of an IBC suite is accepted with a signature that does not verify. -/
theorem connect_accepts_unverified_ibc :
    ∃ stream trace, Runs (miniConnect [TlcpCipherSuite.ibcSm4GcmSm3.id]) trace (.ok stream) ∧
      ¬ KeyExchangeAuthenticated miniTlcp (miniConnector [TlcpCipherSuite.ibcSm4GcmSm3.id])
        miniClientEntropy stream (notes trace) := by
  obtain ⟨stream, trace, hrun, hseen, hrecords⟩ := exists_runs_of_feed
    (miniConnect [ibcSm4GcmSm3.id]) (miniIbcFlight ⟨0, 5⟩) (fun stream ↦ (stream.cipherSuite,
      stream.cachedResumedSession.map fun session ↦ (session.clientRandom, session.serverRandom)))
    (.ibcSm4GcmSm3, some (miniClientEntropy.random, miniServerEntropy.random))
    (MiniIbcReceived ⟨0, 5⟩) (by decide +kernel)
  obtain ⟨hsuite, hrandoms⟩ := Prod.mk.inj hseen
  refine ⟨stream, trace, hrun, ?_⟩
  obtain ⟨-, hsignature⟩ := received_miniIbcFlight (.inr rfl) hrecords
  rintro ⟨session, hsession, hauthenticated⟩
  rw [hsession, map_some, some.injEq, Prod.mk.injEq] at hrandoms
  rw [hsuite, hrandoms.1, hrandoms.2] at hauthenticated
  obtain ⟨serverId, signature, ppubs, hreceived, -, hppubs, hverified⟩ := hauthenticated
  obtain ⟨rfl, rfl⟩ := hsignature.unique hreceived
  obtain rfl : (11 : MiniElement) = ppubs := some.inj hppubs
  have hrejected : sm9Verify miniTlcp.sm9 [9] 11 (ibcSignedInput miniClientEntropy.random
      miniServerEntropy.random [9]) ⟨0, 5⟩ = .ok false := by decide
  rw [hrejected] at hverified
  cases hverified

/-! ### The server's authentication of the client -/

section Server

variable {acceptor : TlcpAcceptor F G1 G2}

/-- The transcript of a server that has noted these events. -/
def ServerTranscript (noted : List TlcpNote) (transcript : Bytes) : Prop :=
  ∃ contentType payload body hello rest, noted = .received contentType payload :: rest ∧
    Carries payload .clientHello body ∧ ClientHello.fromBody body = .ok hello ∧
    transcript = hello.toBytes ++ handshakeBytes rest

variable (lib acceptor) in
def ClientChainVerified (anchors : List Bytes) (now : Instant) (noted : List TlcpNote)
    (leaf : Bytes) :
    Prop :=
  ∃ body others, ReceivedAt noted 1 .certificate body ∧ clientCertificates body = leaf :: others ∧
    verifyAgainstAnchorsWithDistidPolicy lib.x509 lib.sm2.toSm2Library
    (leaf :: others.drop 1) anchors
      now none (some .tlcClient) (acceptor.distidPolicy.getD .strict) = .ok ()

variable (lib acceptor) in
def CertificateVerifyAccepted (before : List TlcpNote) (body leaf : Bytes) : Prop :=
  ∃ encoded trailing signature leafKey transcript, body = lengthThen 2 encoded ++ trailing ∧
    rawSignature "CV signature DER decode: " encoded = .ok signature ∧
    extractSm2PubkeyFromCertDer lib leaf = .ok leafKey ∧ ServerTranscript before transcript ∧
    lib.sm2.Accepts leafKey (acceptor.clientSignDistid.getD defaultUserId) transcript signature

variable {payload : Bytes} {clientCerts : List Bytes}

lemma processCertificateVerify_eq_ok {transcript : Bytes}
    (hproc : processCertificateVerify lib acceptor payload clientCerts transcript = .ok ()) :
    ∃ body encoded trailing signature leaf leafKey, Carries payload .certificateVerify body ∧
      body = lengthThen 2 encoded ++ trailing ∧ rawSignature "CV signature DER decode: " encoded =
      .ok signature ∧
      clientCerts.head? = some leaf ∧ extractSm2PubkeyFromCertDer lib leaf = .ok leafKey ∧
      lib.sm2.Accepts leafKey (acceptor.clientSignDistid.getD defaultUserId)
      transcript signature := by
  simp only [processCertificateVerify, bind_eq_ok, Prod.exists, rejectIf_eq_ok, not_not,
    takeLengthThen_eq_ok, required_eq_ok, mapError_eq_ok, Sm2Verifier.new_eq_ok] at hproc
  obtain ⟨_, body, trailing, hparse, _, rfl, encoded, rest, ⟨hbody, -⟩, signature,
    hraw, leaf, hleaf,
    leafKey, hkey, _, ⟨hvalid, rfl⟩, hver⟩ := hproc
  exact ⟨body, encoded, rest, signature, leaf, leafKey, ⟨trailing, hparse⟩, hbody,
    hraw, hleaf, hkey,
    (Sm2Verifier.verify_eq_ok lib.sm2.toSm2Library hvalid).mp hver⟩

lemma checkClientCertificates_eq_ok {anchors : List Bytes} {now : Instant}
    (hanchors : acceptor.clientCaAnchors = some anchors)
    (hcheck : checkClientCertificates lib acceptor now clientCerts = .ok ()) :
    ∃ leaf others, clientCerts = leaf :: others ∧
      verifyAgainstAnchorsWithDistidPolicy lib.x509 lib.sm2.toSm2Library (leaf :: others.drop 1)
        anchors now none (some .tlcClient) (acceptor.distidPolicy.getD .strict) = .ok () := by
  simp only [checkClientCertificates, hanchors, unit_bind_eq_ok, rejectIf_eq_ok] at hcheck
  obtain ⟨-, hsome, hloop⟩ := hcheck
  cases clientCerts with
  | nil => exact absurd rfl hsome
  | cons leaf others =>
    refine ⟨leaf, others, rfl, ?_⟩
    have hfirst := forM_eq_ok.mp hloop (leaf, 0) (by simp [zipIdx_cons])
    obtain ⟨hver, -⟩ := unit_bind_eq_ok.mp hfirst
    exact mapError_eq_ok.mp hver

variable (lib acceptor) in
/-- A server has authenticated the client. -/
def ClientAuthenticated (anchors : List Bytes) (now : Instant) (noted : List TlcpNote) : Prop :=
  ∃ leaf before contentType payload body after,
    ClientChainVerified lib acceptor anchors now noted leaf ∧
    noted = before ++ .received contentType payload :: after ∧
    Carries payload .certificateVerify body ∧
      CertificateVerifyAccepted lib acceptor before body leaf

lemma ClientAuthenticated.exists_certificateVerify {anchors : List Bytes} {now : Instant}
    {noted : List TlcpNote} (hcli : ClientAuthenticated lib acceptor anchors now noted) :
    some HandshakeType.certificateVerify ∈ (receivedRecords noted).map fun record ↦
    messageType record.2 := by
  obtain ⟨_, before, contentType, payload, _, after, -, rfl, hcarry, -⟩ := hcli
  have hmem :
    (contentType, payload) ∈ receivedRecords (before ++ .received contentType payload :: after) :=
    mem_receivedRecords.mpr (mem_append_right _ mem_cons_self)
  exact mem_map.mpr ⟨_, hmem, hcarry.messageType⟩

/-- No record among the notes carries a CertificateVerify message. -/
def WithoutCertificateVerify (noted : List TlcpNote) : Prop :=
  ∀ contentType payload body, Carries payload .certificateVerify body →
    TlcpNote.received contentType payload ∉ noted

lemma WithoutCertificateVerify.append {first second : List TlcpNote}
    (hfirst : WithoutCertificateVerify first) (hsnd : WithoutCertificateVerify second) :
    WithoutCertificateVerify (first ++ second) := by
  intro contentType payload body hcarry hmem
  rcases mem_append.mp hmem with hmem | hmem
  · exact hfirst contentType payload body hcarry hmem
  · exact hsnd contentType payload body hcarry hmem

lemma Sends.withoutCertificateVerify {noted : List TlcpNote} {octets : Bytes}
    (hsends : Sends noted octets) : WithoutCertificateVerify noted := by
  intro contentType payload body _ hmem
  obtain ⟨messages, rfl, -⟩ := hsends
  simp at hmem

variable {contentType : UInt8}

lemma withoutCertificateVerify_received (hother : ∀ body,
    ¬ Carries payload .certificateVerify body) :
    WithoutCertificateVerify [.received contentType payload] := by
  intro _ found body hcarry hmem
  rw [mem_singleton, TlcpNote.received.injEq] at hmem
  obtain ⟨-, rfl⟩ := hmem
  exact hother body hcarry

variable {type : HandshakeType}

lemma Carries.withoutCertificateVerify {body : Bytes}
    (hcarry : Carries payload type body) (htype : type ≠ .certificateVerify) :
    WithoutCertificateVerify [.received contentType payload] :=
  withoutCertificateVerify_received fun _ hver ↦ htype (hver.unique hcarry).1

lemma not_carries_ccs {body : Bytes} : ¬ Carries [0x01] type body := by
  rintro ⟨trailing, hparse⟩
  cases hparse

variable (lib) in
lemma withoutCertificateVerify_serverFinishNotes (master transcript clientFinished : Bytes) :
    WithoutCertificateVerify (serverFinishNotes lib master transcript clientFinished) := by
  intro contentType payload body _ hmem
  simp [serverFinishNotes] at hmem

section Runs

variable [DecidableEq F] [DecidableEq P] {entropy : ServerEntropy F} {now : Instant}
  {trace : List (Event TlcpNote)}
  {stream : TlcpStream}

lemma proof_of_runs (hrun : Runs (acceptWithCerts lib acceptor entropy now) trace (.ok stream))
    (hasks : stream.cipherSuite.keyExchange.authenticatesClient = true) :
    ∃ before transcript certBody proofNotes gained after,
      notes trace = before ++ (proofNotes ++ after) ∧ ServerTranscript before transcript ∧
      ReceivedAt (notes trace) 1 .certificate certBody ∧
      checkClientCertificates lib acceptor now (clientCertificates certBody) = .ok () ∧
      Ends (readClientProof lib acceptor (clientCertificates certBody) transcript)
      proofNotes gained ∧
      WithoutCertificateVerify before ∧ WithoutCertificateVerify after := by
  obtain ⟨opened, ready, openNotes, flightNotes, finishNotes, hopen, hflight, hfinish, hnoted⟩ :=
    ends_acceptWithCerts hrun.ends
  obtain ⟨chType, chPayload, chBody, hello, sentNotes, sentBytes, hch, hhello, hsent, rfl,
    htrans, -⟩ := ends_openServer hopen
  obtain ⟨certNotes, certPayload, ckeType, ckePayload, ckeBody, deferredNotes, deferred, proofNotes,
    gained, hcertificate, hcke, hdefer, hproof, rfl, -⟩ := ends_readClientFlight hflight
  obtain ⟨⟨clientFinished, rfl⟩, material, readSeq, writeSeq, -, hstream⟩ :=
    ends_finishServer hfinish
  have hsuite : stream.cipherSuite = opened.suite := congrArg TlcpStream.cipherSuite hstream
  obtain ⟨hnot, -⟩ | ⟨-, certType, certBody, hcert, hcerts, hcheck, rfl⟩ :=
    ends_readClientCertificate hcertificate
  · rw [← hsuite, hasks] at hnot
    cases hnot
  rw [hcerts] at hproof hcheck
  have hwhole : opened.transcript ++ certPayload ++ ckePayload ++ deferred =
      hello.toBytes ++ handshakeBytes (sentNotes ++ ([.received certType certPayload] ++
        ([.received ckeType ckePayload] ++ deferredNotes))) := by
    simp [htrans, hsent.handshakeBytes, hdefer.handshakeBytes, hcert.handshakeBytes,
      hcke.handshakeBytes]
  rw [hwhole] at hproof
  refine ⟨[.received chType chPayload] ++ (sentNotes ++ ([.received certType certPayload] ++
    ([.received ckeType ckePayload] ++ deferredNotes))), _, certBody, proofNotes, gained,
    serverFinishNotes lib ready.master ready.transcript clientFinished, ?_,
    ⟨chType, chPayload, chBody, hello, _, rfl, hch, hhello, rfl⟩,
      ⟨certType, certPayload, ?_, hcert⟩,
    hcheck, hproof, ?_, withoutCertificateVerify_serverFinishNotes lib _ _ _⟩
  · simpa using hnoted
  · simp [hnoted, hsent.receivedRecords]
  exact (hch.withoutCertificateVerify (by decide)).append (hsent.withoutCertificateVerify.append
    ((hcert.withoutCertificateVerify (by decide)).append
      ((hcke.withoutCertificateVerify (by decide)).append hdefer.withoutCertificateVerify)))

/-- **Client authentication.** In the suites that ask for a certificate the leaf verifies against
the anchors, and every CertificateVerify is signed under its key over the transcript before it. -/
theorem accept_client_verified {anchors : List Bytes}
    (hanchors : acceptor.clientCaAnchors = some anchors)
    (hrun : Runs (acceptWithCerts lib acceptor entropy now) trace (.ok stream))
    (hmode : stream.cipherSuite.keyExchange = .ecdhe ∨ stream.cipherSuite.keyExchange = .ecc) :
    ∃ leaf, ClientChainVerified lib acceptor anchors now (notes trace) leaf ∧
      ∀ before contentType payload body after, notes trace = before ++
      .received contentType payload :: after →
        Carries payload .certificateVerify body →
        CertificateVerifyAccepted lib acceptor before body leaf := by
  have hasks : stream.cipherSuite.keyExchange.authenticatesClient = true := by
    rcases hmode with hmode | hmode <;> rw [hmode] <;> rfl
  obtain ⟨front, transcript, certBody, proofNotes, gained, back, hnoted, htranscript, hcert, hcheck,
    hproof, hfront, hback⟩ := proof_of_runs hrun hasks
  obtain ⟨leaf, others, hleaf, hverified⟩ := checkClientCertificates_eq_ok hanchors hcheck
  refine ⟨leaf, ⟨certBody, others, hcert, hleaf, hverified⟩, ?_⟩
  intro before contentType payload body after hsplit hcarries
  rw [hnoted] at hsplit
  have hccs (otherType : UInt8) : WithoutCertificateVerify [.received otherType [0x01]] :=
    withoutCertificateVerify_received fun _ ↦ not_carries_ccs
  obtain ⟨proofType, -, hprocess, rfl⟩ | ⟨proofType, -, rfl⟩ := ends_readClientProof hproof
  · have hafter := (hccs 0x14).append hback
    obtain ⟨rfl, hrecord, -⟩ := (append_cons_inj_of_notMem
      (hfront contentType payload body hcarries) (hafter contentType payload body hcarries)).mp
      hsplit
    obtain ⟨-, rfl⟩ := TlcpNote.received.inj hrecord
    obtain ⟨found, encoded, trailing, signature, first, leafKey, hfound, hbody, hraw, hhead, hkey,
      haccepts⟩ := processCertificateVerify_eq_ok hprocess
    obtain ⟨-, rfl⟩ := hcarries.unique hfound
    obtain rfl : leaf = first := by
      rw [hleaf] at hhead
      exact some.inj hhead
    exact ⟨encoded, trailing, signature, leafKey, transcript, hbody, hraw, hkey,
      htranscript, haccepts⟩
  -- without a CertificateVerify no record carries one
  have hnone := (hfront.append ((hccs proofType).append hback)) contentType payload body hcarries
  rw [hsplit] at hnone
  exact absurd (mem_append_right _ mem_cons_self) hnone

end Runs

/-- A client of a static-ECC suite that signs with the key of its certificate is authenticated. -/
theorem accept_client_verified_ecc : ∃ stream trace, Runs miniAccept trace (.ok stream) ∧
      ClientAuthenticated miniTlcp miniAcceptor [Tls.miniRoot] 500 (notes trace) := by
  obtain ⟨stream, trace, hrun, hmode, hsplit⟩ :=
    exists_runs_of_feed miniAccept (miniClientFlight .eccSm4GcmSm3
      (miniClientHello .eccSm4GcmSm3) [miniClientCertificate 2, miniClientKeyExchange,
      miniCertificateVerify 2])
    TlcpStream.cipherSuite .eccSm4GcmSm3
    (fun noted ↦ noted = noted.take 8 ++ .received 0x16 (miniCertificateVerify 2) :: noted.drop 9)
    (by decide +kernel)
  obtain ⟨leaf, hchain, hverified⟩ := accept_client_verified rfl hrun (.inr (by rw [hmode]; rfl))
  have hbody : Carries (miniCertificateVerify 2) .certificateVerify
      (lengthThen 2 (sm2SignatureRawToDer (miniXy (miniSecret 2)))) :=
    ⟨[], parseHandshakeMessage_handshakeMessage (by decide)⟩
  exact ⟨stream, trace, hrun, leaf, _, _, _, _, _, hchain, hsplit, hbody,
    hverified _ _ _ _ _ hsplit hbody⟩

/-- A client of an RSA suite without a certificate, and a client of a static-ECC suite that shows
the certificates of another party and sends no CertificateVerify. -/
theorem accept_not_clientAuthenticated :
    (∃ stream trace, Runs miniAccept trace (.ok stream) ∧ stream.cipherSuite = .rsaSm4GcmSm3 ∧
      ¬ ClientAuthenticated miniTlcp miniAcceptor [Tls.miniRoot] 500 (notes trace)) ∧
    ∃ stream trace, Runs miniAccept trace (.ok stream) ∧ stream.cipherSuite = .eccSm4GcmSm3 ∧
      ¬ ClientAuthenticated miniTlcp miniAcceptor [Tls.miniRoot] 500 (notes trace) := by
  have hrejected : ∀ noted, (some HandshakeType.certificateVerify ∉
        (receivedRecords noted).map fun record ↦ messageType record.2) →
      ¬ ClientAuthenticated miniTlcp miniAcceptor [Tls.miniRoot] 500 noted :=
    fun noted hnone hclient ↦ hnone hclient.exists_certificateVerify
  constructor
  · obtain ⟨stream, trace, hrun, hmode, hnone⟩ :=
      exists_runs_of_feed miniAccept (miniClientFlight .rsaSm4GcmSm3
        (miniClientHello .rsaSm4GcmSm3) [miniClientKeyExchange])
        TlcpStream.cipherSuite .rsaSm4GcmSm3
      (fun noted ↦ some HandshakeType.certificateVerify ∉
        (receivedRecords noted).map fun record ↦ messageType record.2) (by decide +kernel)
    exact ⟨stream, trace, hrun, hmode, hrejected _ hnone⟩
  obtain ⟨stream, trace, hrun, hmode, hnone⟩ :=
    exists_runs_of_feed miniAccept (miniClientFlight .eccSm4GcmSm3
      (miniClientHello .eccSm4GcmSm3) [miniClientCertificate 2, miniClientKeyExchange])
    TlcpStream.cipherSuite .eccSm4GcmSm3 (fun noted ↦ some HandshakeType.certificateVerify ∉
      (receivedRecords noted).map fun record ↦ messageType record.2) (by decide +kernel)
  exact ⟨stream, trace, hrun, hmode, hrejected _ hnone⟩

end Server

end GmStack.Tlcp
