import GmStack.Tlcp.Delivery
import GmStack.Tlcp.Runs

/-! What an honest client and an honest server put on the wire, phase by phase, when the
computations of both succeed. -/

namespace GmStack.Tlcp

open Foundation Crypto X509 List ServerKeyExchangeBody

variable {F P G1 G2 GT : Type} [CommRing F] [AddCommGroup P] [Module F P]

section Records

variable {wrap : String → TlcpError}

lemma talks_writeHandshakeRecord (message : Bytes) :
    Talks (writeHandshakeRecord wrap message) (sending (plaintextRecord message)) () := by
  exact .last (.writeAll wrap _) (.record _)

lemma talks_readPlaintextRecord (contentType : UInt8) {payload : Bytes}
    (hsize : payload.length ≤ maxRecordSize) :
    Talks (readPlaintextRecord wrap)
    (receiving (recordHeader contentType payload.length ++ payload))
      (contentType, payload) := by
  have hfits : payload.length < 256 ^ 2 := lt_of_le_of_lt hsize (by decide)
  have hlen : beNat ((recordHeader contentType payload.length).drop 3) = payload.length :=
    beNat_beOctets hfits
  rw [receiving_append]
  refine Talks.bind (Talks.readExact wrap (by simp [recordHeader])) ?_
  rw [hlen]
  refine .check_bind (rejectIf_neg (Nat.not_lt.mpr hsize) _) ?_
  exact .last (.readExact wrap rfl) (.record_bind _ (.pure _))

lemma talks_readHandshakeMessage {type : HandshakeType} {body : Bytes} (name : String)
    (hsize : (handshakeMessage type body).length ≤ maxRecordSize) :
    Talks (readHandshakeMessage wrap type name)
      (receiving (plaintextRecord (handshakeMessage type body)))
      (handshakeMessage type body, body) := by
  have hbody : body.length < 256 ^ 3 := by
    rw [length_handshakeMessage] at hsize
    have hbound : maxRecordSize < 256 ^ 3 := by decide
    omega
  refine .last (talks_readPlaintextRecord 0x16 hsize) ?_
  refine .check_bind (parseHandshakeMessage_handshakeMessage hbody) ?_
  exact .check_bind (rejectIf_neg (not_not.mpr rfl) _) (.pure _)

def optionalRecord (message : Bytes) : Bytes := if message = [] then [] else plaintextRecord message

lemma optionalRecord_handshakeMessage (type : HandshakeType) (body : Bytes) :
    optionalRecord (handshakeMessage type body) = plaintextRecord (handshakeMessage type body) :=
  if_neg (cons_ne_nil _ _)

end Records

section Library

variable (lib : TlcpLibrary F P G1 G2 GT) (connector : TlcpConnector G1 G2)
  (acceptor : TlcpAcceptor F G1 G2) (clientEntropy : ClientEntropy F)
  (serverEntropy : ServerEntropy F) (now : Instant) (suite : TlcpCipherSuite)

def exchangeBody : Option ServerKeyExchangeBody → Bytes
  | some ske => ske.bodyToBytes
  | none => []

def exchangeMessage : Option ServerKeyExchangeBody → Bytes
  | some ske => ske.toBytes
  | none => []

/-- The server's certificates are those of its configuration, fit into a record, and are accepted by
the client, which reads them as `received`. -/
structure CertificatesAgree (signCert encCert : Bytes) (received : CertPair) : Prop where
  configured : serverCertificates acceptor = .ok (signCert, encCert)
  fits : (serverCertPair acceptor suite signCert encCert).toCertificateMessage.length ≤
    maxRecordSize
  read : CertPair.ofEntries (serverCertPair acceptor suite signCert encCert).entries = .ok received
  encryption : received.encCert = (serverCertPair acceptor suite signCert encCert).encCert
  layout : received.mode = (serverCertPair acceptor suite signCert encCert).mode
  accepted : checkServerCertificate lib connector now received = .ok ()

def sessionHello : ServerHello := serverHello serverEntropy suite serverEntropy.sessionId.bytes

def openingTranscript (pair : CertPair) (ske : Option ServerKeyExchangeBody) : Bytes :=
  (clientHello connector clientEntropy.random).toBytes ++
    (sessionHello serverEntropy suite).toBytes ++
    pair.toCertificateMessage ++ exchangeMessage ske

def doneMessages : Bytes :=
  (if suite.keyExchange.authenticatesClient then certificateRequestBytes else []) ++
    serverHelloDoneBytes

def clientCertificateBytes : Bytes :=
  if suite.keyExchange.authenticatesClient then clientCertificateMessage connector else []

def clientCertificateList : List Bytes :=
  if suite.keyExchange.authenticatesClient then connector.clientCerts else []

def doneRecords : Bytes :=
  (if suite.keyExchange.authenticatesClient then plaintextRecord certificateRequestBytes else []) ++
    plaintextRecord serverHelloDoneBytes

end Library

/-! ### The client -/

variable {lib : TlcpLibrary F P G1 G2 GT} {connector : TlcpConnector G1 G2}
  {acceptor : TlcpAcceptor F G1 G2} {clientEntropy : ClientEntropy F}
  {serverEntropy : ServerEntropy F} {now : Instant} {suite : TlcpCipherSuite}
  {signCert encCert : Bytes} {received : CertPair}

section Client

omit [CommRing F] in
lemma length_sessionHello_toBytes : (sessionHello serverEntropy suite).toBytes.length = 74 := by
  simp [sessionHello, serverHello, ServerHello.toBytes, ServerHello.body]

omit [CommRing F] in
lemma talks_readServerHello :
    Talks readServerHello (receiving (plaintextRecord (sessionHello serverEntropy suite).toBytes))
      (sessionHello serverEntropy suite, (sessionHello serverEntropy suite).toBytes) := by
  have hsize : (sessionHello serverEntropy suite).toBytes.length ≤ maxRecordSize := by
    rw [length_sessionHello_toBytes]
    decide
  have hread : ServerHello.fromBytes (sessionHello serverEntropy suite).body =
    .ok (sessionHello serverEntropy suite) :=
    ServerHello.fromBytes_body (by simp [sessionHello, serverHello])
      (show _ = suite.id from rfl) rfl
  refine .last (talks_readHandshakeMessage "ServerHello" hsize) ?_
  refine .check_bind hread ?_
  exact .check_bind (rejectIf_neg (not_not.mpr rfl) _) (.pure _)

lemma length_le_certEntriesToBytes_of_mem {cert : Bytes} {certs : List Bytes}
    (hmem : cert ∈ certs) :
    cert.length ≤ (certEntriesToBytes certs).length := by
  induction certs with
  | nil => cases hmem
  | cons head rest ih =>
    simp only [certEntriesToBytes, flatMap_cons, length_append, length_lengthThen] at ih ⊢
    obtain rfl | hrest := mem_cons.mp hmem
    · omega
    · have := ih hrest
      omega

lemma talks_readServerCertificate (hcerts : CertificatesAgree lib connector acceptor now suite
    signCert encCert received) :
    Talks (readServerCertificate lib connector now) (receiving (plaintextRecord
        (serverCertPair acceptor suite signCert encCert).toCertificateMessage))
      (received, (serverCertPair acceptor suite signCert encCert).toCertificateMessage) := by
  have hshort : ∀ cert ∈ (serverCertPair acceptor suite signCert encCert).entries,
      cert.length < 256 ^ 3 := by
    intro cert hmem
    have hlen := length_le_certEntriesToBytes_of_mem hmem
    have hfits := hcerts.fits
    rw [CertPair.toCertificateMessage, length_handshakeMessage, CertPair.body,
      length_lengthThen] at hfits
    have hbound : maxRecordSize < 256 ^ 3 := by decide
    omega
  have hread : CertPair.fromCertificateMessage
      (serverCertPair acceptor suite signCert encCert).body = .ok received := by
    rw [CertPair.fromCertificateMessage_body hshort, hcerts.read]
  refine .last (talks_readHandshakeMessage "Certificate" hcerts.fits) ?_
  refine .check_bind hread ?_
  exact .check_bind hcerts.accepted (.pure _)

variable {ske : Option ServerKeyExchangeBody}

lemma talks_readServerKeyExchange (habsent : ske = none ↔ suite.keyExchange = .ibsdh)
    (hsize : (exchangeMessage ske).length ≤ maxRecordSize) :
    Talks (readServerKeyExchange suite) (receiving (optionalRecord (exchangeMessage ske)))
      (exchangeMessage ske, exchangeBody ske) := by
  unfold readServerKeyExchange
  cases ske with
  | none =>
    rw [if_pos (habsent.mp rfl)]
    exact .pure _
  | some body =>
    have hmode : suite.keyExchange ≠ .ibsdh := fun hmode ↦
      Option.some_ne_none body (habsent.mpr hmode)
    rw [if_neg hmode]
    exact talks_readHandshakeMessage "ServerKeyExchange" hsize

lemma negotiatedSuite_sessionHello (hcerts : CertificatesAgree lib connector acceptor now suite
    signCert encCert received) :
    negotiatedSuite (sessionHello serverEntropy suite) received = .ok suite := by
  have hlayout : ¬ (received.mode = .single ∧ suite.keyExchange ≠ .rsa) := by
    rintro ⟨hsingle, hmode⟩
    rw [hcerts.layout, serverCertPair, if_neg fun h ↦ hmode h.2] at hsingle
    cases hsingle
  have hsuite : TlcpCipherSuite.fromId (sessionHello serverEntropy suite).cipherSuite =
    some suite :=
    TlcpCipherSuite.fromId_id suite
  rw [negotiatedSuite, hsuite, required, ok_bind, rejectIf_bind hlayout]

variable (clientEntropy serverEntropy) in
def honestFlight (connector : TlcpConnector G1 G2) (acceptor : TlcpAcceptor F G1 G2)
    (suite : TlcpCipherSuite) (signCert encCert : Bytes) (received : CertPair)
    (ske : Option ServerKeyExchangeBody) : ServerFlight :=
  { hello := sessionHello serverEntropy suite
    certPair := received
    suite
    skeBody := exchangeBody ske
    transcript := openingTranscript connector clientEntropy serverEntropy suite
      (serverCertPair acceptor suite signCert encCert) ske }

lemma talks_openHandshake
    (hcerts : CertificatesAgree lib connector acceptor now suite signCert encCert received)
    (habsent : ske = none ↔ suite.keyExchange = .ibsdh)
    (hsize : (exchangeMessage ske).length ≤ maxRecordSize)
    (hver : verifyServerKeyExchange lib connector suite (exchangeBody ske) clientEntropy.random
      serverEntropy.random received.encCert = .ok ()) :
    Talks (openHandshake lib connector clientEntropy now)
      (sending (plaintextRecord (clientHello connector clientEntropy.random).toBytes) ++
        (receiving (plaintextRecord (sessionHello serverEntropy suite).toBytes) ++
        (receiving (plaintextRecord
              (serverCertPair acceptor suite signCert encCert).toCertificateMessage) ++
            receiving (optionalRecord (exchangeMessage ske)))))
      (honestFlight clientEntropy serverEntropy connector acceptor suite signCert encCert
      received ske) := by
  refine .bind (talks_writeHandshakeRecord _) ?_
  refine .bind talks_readServerHello ?_
  refine .bind (talks_readServerCertificate hcerts) ?_
  refine .check_bind (negotiatedSuite_sessionHello hcerts) ?_
  refine .last (talks_readServerKeyExchange habsent hsize) ?_
  exact .check_bind hver (.pure _)

lemma talks_readServerHelloDone : Talks readServerHelloDone (receiving (doneRecords suite))
      (suite.keyExchange.authenticatesClient, doneMessages suite) := by
  have hreq : probeRecord (.ok (0x16, certificateRequestBytes)) =
    (true, false, certificateRequestBytes) := by decide
  have hdone : probeRecord (.ok (0x16, serverHelloDoneBytes)) =
    (false, true, serverHelloDoneBytes) := by decide
  unfold doneRecords doneMessages
  by_cases hasks : suite.keyExchange.authenticatesClient = true
  · rw [if_pos hasks, if_pos hasks, hasks, receiving_append]
    refine .bind (.attempt (talks_readPlaintextRecord 0x16 (by decide))) ?_
    exact .last (talks_readHandshakeMessage "ServerHelloDone" (by decide)) (.pure _)
  rw [if_neg hasks, if_neg hasks, eq_false_of_ne_true hasks, nil_append, nil_append]
  refine .last (.attempt (talks_readPlaintextRecord 0x16 (by decide))) ?_
  exact .pure _

lemma talks_sendClientCertificate (hconf : suite.keyExchange.authenticatesClient = true →
    connector.clientCerts ≠ []) :
    Talks (sendClientCertificate connector suite.keyExchange.authenticatesClient)
      (sending (optionalRecord (clientCertificateBytes connector suite)))
      (clientCertificateBytes connector suite) := by
  unfold sendClientCertificate clientCertificateBytes
  by_cases hasks : suite.keyExchange.authenticatesClient = true
  · rw [if_pos hasks, if_pos hasks, clientCertificateMessage, optionalRecord_handshakeMessage]
    refine .check_bind (rejectIf_neg (hconf hasks) _) ?_
    exact .last (talks_writeHandshakeRecord _) (.pure _)
  · rw [if_neg hasks, if_neg hasks]
    exact .pure _

/-- The deferred ServerKeyExchange of IBSDH, and nothing in the other modes. -/
def DeferredAgrees (lib : TlcpLibrary F P G1 G2 GT) (connector : TlcpConnector G1 G2)
    (exchange : ClientExchange G1) (deferred : Option ServerKeyExchangeBody) (pms : Bytes) : Prop :=
  match exchange.ibsdh, deferred with
  | none, none => pms = exchange.pms
  | some (state, raSent), some ske =>
    finishIbsdh lib connector state raSent ske.bodyToBytes = .ok pms
  | _, _ => False

variable {deferred : Option ServerKeyExchangeBody} {exchange : ClientExchange G1}

lemma talks_readDeferredKeyExchange {pms : Bytes}
    (hdefer : DeferredAgrees lib connector exchange deferred pms)
    (hsize : (exchangeMessage deferred).length ≤ maxRecordSize) :
    Talks (readDeferredKeyExchange lib connector exchange)
      (receiving (optionalRecord (exchangeMessage deferred))) (pms, exchangeMessage deferred) := by
  unfold readDeferredKeyExchange
  unfold DeferredAgrees at hdefer
  split at hdefer
  · rename_i hnone
    rw [hnone, hdefer]
    exact .pure _
  · rename_i state raSent ske hsome
    rw [hsome, exchangeMessage, toBytes, optionalRecord_handshakeMessage]
    refine .last (talks_readHandshakeMessage "deferred ServerKeyExchange (IBSDH)" hsize) ?_
    exact .check_bind hdefer (.pure _)
  · exact hdefer.elim

/-- What the server verifies of a client that proves its key. -/
def VerifyAgrees (lib : TlcpLibrary F P G1 G2 GT) (connector : TlcpConnector G1 G2)
    (suite : TlcpCipherSuite) (transcript message : Bytes) : Prop :=
  if suite.keyExchange.authenticatesClient then
    ∃ pem, connector.clientSignKey = some pem ∧
      certificateVerifyMessage lib connector pem transcript = .ok message
  else message = []

lemma certificateVerifyMessage_ne_nil {pem : String} {transcript message : Bytes}
    (hmsg : certificateVerifyMessage lib connector pem transcript = .ok message) :
    ∃ signature, message = certificateVerifyBytes signature := by
  simp only [certificateVerifyMessage, bind_eq_ok, Except.ok.injEq] at hmsg
  obtain ⟨_, -, _, -, signature, -, _, -, _, -, _, -, rfl⟩ := hmsg
  exact ⟨_, rfl⟩

variable [DecidableEq F] [DecidableEq P]

lemma talks_sendClientFlight {pms verify master : Bytes}
    (hconf : suite.keyExchange.authenticatesClient = true → connector.clientCerts ≠ [])
    (hexch : clientExchange lib connector clientEntropy suite (exchangeBody ske) received.encCert =
    .ok exchange)
    (hdefer : DeferredAgrees lib connector exchange deferred pms)
    (hsize : (exchangeMessage deferred).length ≤ maxRecordSize)
    (hver : VerifyAgrees lib connector suite
    (openingTranscript connector clientEntropy serverEntropy suite
          (serverCertPair acceptor suite signCert encCert) ske ++ doneMessages suite ++
        clientCertificateBytes connector suite ++ exchange.body.toBytes ++ exchangeMessage deferred)
      verify)
    (hms : masterSecret lib.sm3 pms clientEntropy.random serverEntropy.random = .ok master) :
    Talks (sendClientFlight lib connector clientEntropy
        (honestFlight clientEntropy serverEntropy connector acceptor suite signCert
        encCert received ske))
      (receiving (doneRecords suite) ++
      (sending (optionalRecord (clientCertificateBytes connector suite)) ++
          (sending (plaintextRecord exchange.body.toBytes) ++
            (receiving (optionalRecord (exchangeMessage deferred)) ++
            sending (optionalRecord verify)))))
      { suite
        sessionId := serverEntropy.sessionId.bytes
        serverRandom := serverEntropy.random
        master
        transcript := openingTranscript connector clientEntropy serverEntropy suite
            (serverCertPair acceptor suite signCert encCert) ske ++ doneMessages suite ++
          clientCertificateBytes connector suite ++ exchange.body.toBytes ++
          exchangeMessage deferred ++ verify } := by
  refine .bind talks_readServerHelloDone ?_
  refine .bind (talks_sendClientCertificate hconf) ?_
  unfold VerifyAgrees at hver
  by_cases hasks : suite.keyExchange.authenticatesClient = true
  · rw [if_pos hasks] at hver
    obtain ⟨pem, hpem, hmsg⟩ := hver
    obtain ⟨signature, rfl⟩ := certificateVerifyMessage_ne_nil hmsg
    have hkey : requestedSignKey connector suite.keyExchange.authenticatesClient =
        .ok (some pem) := by
      rw [requestedSignKey, if_pos hasks, hpem]
      rfl
    refine .check_bind hkey ?_
    refine .check_bind hexch ?_
    refine .bind (talks_writeHandshakeRecord _) ?_
    refine .bind (talks_readDeferredKeyExchange hdefer hsize) ?_
    refine .last ?_ (.check_bind hms (.pure _))
    refine .check_bind hmsg ?_
    exact .last (talks_writeHandshakeRecord _) (.pure _)
  rw [if_neg hasks] at hver
  subst hver
  have hkey : requestedSignKey connector suite.keyExchange.authenticatesClient = .ok none := by
    rw [requestedSignKey, if_neg hasks]
  refine .check_bind hkey ?_
  refine .check_bind hexch ?_
  refine .bind (talks_writeHandshakeRecord _) ?_
  refine .bind (talks_readDeferredKeyExchange hdefer hsize) ?_
  exact .bind (.pure []) (.check_bind hms (.pure _))

end Client

/-! ### The server -/

section Server

section

variable (hoff : connector.cipherSuites = [suite.id])

include hoff

variable (random : Octets 32)

lemma clientHello_fits : (clientHello connector random).Fits where
  sessionId := Nat.zero_le _
  cipherSuites := by
    simp only [clientHello, hoff, length_singleton]
    decide
  compressionMethods := by simp [clientHello]
  compression := rfl

lemma length_clientHello_toBytes : (clientHello connector random).toBytes.length = 45 := by
  simp [clientHello, ClientHello.toBytes, ClientHello.body, hoff]

lemma talks_readClientHello :
    Talks readClientHello (receiving (plaintextRecord (clientHello connector random).toBytes))
      (clientHello connector random) := by
  have hsize : (clientHello connector random).toBytes.length ≤ maxRecordSize := by
    rw [length_clientHello_toBytes hoff]
    decide
  have hread := ClientHello.fromBody_append (clientHello_fits hoff random) []
  rw [append_nil] at hread
  exact .last (talks_readHandshakeMessage "ClientHello" hsize) (.check hread)

end

omit [CommRing F] in
lemma processClientHello_fresh {hello : ClientHello} (hvers : hello.version = tlcpVersion10)
    (hfresh : hello.sessionId = [] ∨ acceptor.sessionCache hello.sessionId = none)
    (hsuite : hello.cipherSuites.findSome? TlcpCipherSuite.fromId = some suite) :
    processClientHello acceptor serverEntropy hello =
    .ok (suite, serverEntropy.sessionId.bytes) := by
  rw [processClientHello, rejectIf_ne_bind hvers]
  rcases hfresh with hnil | hcache
  · simp only [hnil, if_true, hsuite, required, ok_bind]
  · simp only [hcache, Option.filter_none, ite_self, hsuite, required, ok_bind]

omit [CommRing F] in
lemma processClientHello_offered (hoff : connector.cipherSuites = [suite.id]) :
    processClientHello acceptor serverEntropy (clientHello connector clientEntropy.random) =
      .ok (suite, serverEntropy.sessionId.bytes) :=
  processClientHello_fresh rfl (.inl rfl) (by simp [clientHello, hoff])

lemma talks_sendServerKeyExchange (ske : Option ServerKeyExchangeBody) (text : String) :
    Talks (sendServerKeyExchange (ske.map fun body ↦ (body, text)))
      (sending (optionalRecord (exchangeMessage ske))) (exchangeMessage ske) := by
  cases ske with
  | none => exact .pure _
  | some body =>
    exact .last (talks_writeHandshakeRecord _) (.pure _)

lemma talks_sendServerHelloDone : Talks (sendServerHelloDone suite) (sending (doneRecords suite))
    (doneMessages suite) := by
  unfold sendServerHelloDone doneRecords doneMessages
  by_cases hasks : suite.keyExchange.authenticatesClient = true
  · simp only [if_pos hasks, sending_append]
    refine .bind (talks_writeHandshakeRecord _) ?_
    exact .last (talks_writeHandshakeRecord _) (.pure _)
  · simp only [if_neg hasks, nil_append]
    exact .last (talks_writeHandshakeRecord _) (.pure _)

lemma talks_openServer (hoff : connector.cipherSuites = [suite.id])
    (hconf : serverCertificates acceptor = .ok (signCert, encCert))
    {ske : Option ServerKeyExchangeBody} {text : String}
    (hserves : serverExchange lib acceptor serverEntropy suite clientEntropy.random
      (serverCertPair acceptor suite signCert encCert) encCert =
      .ok (ske.map fun body ↦ (body, text))) :
    Talks (openServer lib acceptor serverEntropy)
      (receiving (plaintextRecord (clientHello connector clientEntropy.random).toBytes) ++
        (sending (plaintextRecord (sessionHello serverEntropy suite).toBytes) ++
        (sending (plaintextRecord
              (serverCertPair acceptor suite signCert encCert).toCertificateMessage) ++
            (sending (optionalRecord (exchangeMessage ske)) ++ sending (doneRecords suite)))))
      { suite
        sessionId := serverEntropy.sessionId.bytes
        clientRandom := clientEntropy.random
        transcript := openingTranscript connector clientEntropy serverEntropy suite
          (serverCertPair acceptor suite signCert encCert) ske ++ doneMessages suite } := by
  refine .check_bind hconf ?_
  refine .bind (talks_readClientHello hoff clientEntropy.random) ?_
  refine .check_bind (processClientHello_offered hoff) ?_
  refine .bind (talks_writeHandshakeRecord _) ?_
  refine .bind (talks_writeHandshakeRecord _) ?_
  refine .check_bind hserves ?_
  refine .bind (talks_sendServerKeyExchange ske text) ?_
  exact .last talks_sendServerHelloDone (.pure _)

lemma talks_readClientCertificate (hsize : (clientCertificateBytes connector suite).length ≤
    maxRecordSize)
    (hchecked : suite.keyExchange.authenticatesClient = true →
      checkClientCertificates lib acceptor now connector.clientCerts = .ok ()) :
    Talks (readClientCertificate lib acceptor now suite)
      (receiving (optionalRecord (clientCertificateBytes connector suite)))
      (clientCertificateList connector suite, clientCertificateBytes connector suite) := by
  unfold readClientCertificate clientCertificateList
  unfold clientCertificateBytes at hsize ⊢
  by_cases hasks : suite.keyExchange.authenticatesClient = true
  · simp only [if_pos hasks] at hsize ⊢
    have hshort : ∀ cert ∈ connector.clientCerts, cert.length < 256 ^ 3 := by
      intro cert hmem
      have hlen := length_le_certEntriesToBytes_of_mem hmem
      rw [clientCertificateMessage, length_handshakeMessage, length_lengthThen] at hsize
      have hbound : maxRecordSize < 256 ^ 3 := by decide
      omega
    have hread : clientCertificates (lengthThen 3 (certEntriesToBytes connector.clientCerts)) =
        connector.clientCerts := by
      have hfuel := length_le_certEntriesToBytes connector.clientCerts
      rw [clientCertificates, if_pos (by rw [length_lengthThen]; omega), lengthThen,
        drop_left' (length_beOctets _ _)]
      exact certEntries_certEntriesToBytes hshort (by rw [length_append]; omega)
    refine .last (talks_readHandshakeMessage "Certificate (client)" hsize) ?_
    rw [← clientCertificates, hread]
    exact .check_bind (hchecked hasks) (.pure _)
  · simp only [if_neg hasks]
    exact .pure _

/-- The deferred ServerKeyExchange is sent in an IBSDH suite. -/
def DeferredServed (lib : TlcpLibrary F P G1 G2 GT) (acceptor : TlcpAcceptor F G1 G2)
    (serverEntropy : ServerEntropy F) (suite : TlcpCipherSuite) (cke : ClientKeyExchangeBody)
    (deferred : Option ServerKeyExchangeBody) (pms : Bytes) : Prop :=
  match deferred with
  | none => suite.keyExchange ≠ .ibsdh
  | some ske => suite.keyExchange = .ibsdh ∧ respondIbsdh lib acceptor serverEntropy cke =
    .ok (ske, pms)

variable {cke : ClientKeyExchangeBody} {deferred : Option ServerKeyExchangeBody}

lemma talks_sendDeferredKeyExchange {pms : Bytes}
    (hserved : DeferredServed lib acceptor serverEntropy suite cke deferred pms) :
    Talks (sendDeferredKeyExchange lib acceptor serverEntropy suite cke)
      (sending (optionalRecord (exchangeMessage deferred))) (deferred.map fun _ ↦ pms,
      exchangeMessage deferred) := by
  unfold sendDeferredKeyExchange
  cases deferred with
  | none =>
    rw [if_neg (show suite.keyExchange ≠ .ibsdh from hserved)]
    exact .pure _
  | some ske =>
    rw [if_pos hserved.1, exchangeMessage, toBytes, optionalRecord_handshakeMessage]
    refine .check_bind hserved.2 ?_
    exact .last (talks_writeHandshakeRecord _) (.pure _)

/-- The server's side of the client's proof. -/
def VerifyServed (lib : TlcpLibrary F P G1 G2 GT) (acceptor : TlcpAcceptor F G1 G2)
    (clientCerts : List Bytes) (transcript message : Bytes) : Prop :=
  message = [] ∨ (message.head? = some HandshakeType.certificateVerify.code ∧
    message.length ≤ maxRecordSize ∧
    processCertificateVerify lib acceptor message clientCerts transcript = .ok ())

lemma talks_readClientProof {clientCerts : List Bytes} {transcript message : Bytes}
    (hserved : VerifyServed lib acceptor clientCerts transcript message) :
    Talks (readClientProof lib acceptor clientCerts transcript)
      (receiving (optionalRecord message) ++ receiving ccsRecord) message := by
  have hccs : ccsRecord = recordHeader 0x14 [(0x01 : UInt8)].length ++ [0x01] := by decide
  have hshort : [(0x01 : UInt8)].length ≤ maxRecordSize := by decide
  have hchecked : checkCcs 0x14 [0x01] = .ok () := checkCcs_eq_ok.mpr ⟨rfl, rfl⟩
  obtain rfl | ⟨hhead, hsize, hproc⟩ := hserved
  · rw [optionalRecord, if_pos rfl, receiving_nil, nil_append]
    refine .last (talks_readPlaintextRecord 0x14 hshort) ?_
    dsimp only
    exact .check_bind hchecked (.pure _)
  have hne : message ≠ [] := by
    rintro rfl
    cases hhead
  rw [optionalRecord, if_neg hne]
  refine .bind (talks_readPlaintextRecord 0x16 hsize) ?_
  dsimp only
  rw [if_pos hhead]
  refine .check_bind hproc ?_
  refine .last (talks_readPlaintextRecord 0x14 hshort) ?_
  exact .check_bind hchecked (.pure _)

variable [DecidableEq F] [DecidableEq P]

lemma talks_readClientFlight {opened : ServerOpened} {pms verify master : Bytes}
    (hsuite : opened.suite = suite) (hrandom : opened.clientRandom = clientEntropy.random)
    (hcertSize : (clientCertificateBytes connector suite).length ≤ maxRecordSize)
    (hchecked : suite.keyExchange.authenticatesClient = true →
      checkClientCertificates lib acceptor now connector.clientCerts = .ok ())
    (hckeSize : cke.toBytes.length ≤ maxRecordSize)
    (hread : ClientKeyExchangeBody.fromBody cke.payload (suite.keyExchange = .ecc)
      (suite.keyExchange = .ibc) (suite.keyExchange = .ibsdh) (suite.keyExchange = .rsa) = cke)
    (hserved : DeferredServed lib acceptor serverEntropy suite cke deferred pms)
    (hpms : serverPms lib acceptor serverEntropy suite (clientCertificateList connector suite) cke
      (deferred.map fun _ ↦ pms) = .ok pms)
    (hms : masterSecret lib.sm3 pms clientEntropy.random serverEntropy.random = .ok master)
    (hver : VerifyServed lib acceptor (clientCertificateList connector suite)
      (opened.transcript ++ clientCertificateBytes connector suite ++ cke.toBytes ++
      exchangeMessage deferred) verify) :
    Talks (readClientFlight lib acceptor serverEntropy now opened)
      (receiving (optionalRecord (clientCertificateBytes connector suite)) ++
        (receiving (plaintextRecord cke.toBytes) ++
        (sending (optionalRecord (exchangeMessage deferred)) ++
            (receiving (optionalRecord verify) ++ receiving ccsRecord))))
      { master
        clientCerts := clientCertificateList connector suite
        transcript := opened.transcript ++ clientCertificateBytes connector suite ++ cke.toBytes ++
          exchangeMessage deferred ++ verify } := by
  subst hsuite
  refine .bind (talks_readClientCertificate hcertSize hchecked) ?_
  refine .bind (talks_readHandshakeMessage "ClientKeyExchange" hckeSize) ?_
  dsimp only
  rw [hread]
  refine .bind (talks_sendDeferredKeyExchange hserved) ?_
  refine .check_bind hpms ?_
  refine .check_bind (hrandom ▸ hms) ?_
  exact .last (talks_readClientProof hver) (.pure _)

end Server

/-- What two sides hold that have shaken hands. -/
structure TlcpStream.Agrees (client server : TlcpStream) : Prop where
  session : ∃ session, client.cachedResumedSession = some session ∧
    server.cachedResumedSession = some session
  clientWrites : client.Delivers server
  serverWrites : server.Delivers client

lemma sealedLength_finished_le (suite : TlcpCipherSuite) (finished : Finished) :
    TlcpStream.sealedLength suite finished.toBytes.length ≤ maxRecordSize := by
  have hlen : finished.toBytes.length = 16 := by
    rw [Finished.toBytes, length_handshakeMessage, finished.verifyData.length_bytes]
  rw [hlen]
  exact le_trans (sealedLength_le suite 16) (by decide)

lemma verify_verifyData (finished : Finished) (error : TlcpError) :
    rejectIf (finished.verify finished.verifyData = false) error = .ok () :=
  rejectIf_neg (by simp [Finished.verify]) error

lemma finish_agrees {F P G1 G2 GT : Type} [CommRing F] [AddCommGroup P] [Module F P]
    (lib : TlcpLibrary F P G1 G2 GT) (suite : TlcpCipherSuite) (sessionId : Bytes)
    (clientRandom serverRandom : Octets 32) (master transcript : Bytes) (clientCerts : List Bytes)
    (clientIv serverIv : Octets 16) : ∃ clientRecord serverRecord client server,
      Talks (finishClient lib suite sessionId clientRandom serverRandom master transcript clientIv)
          (sending ccsRecord ++
          (sending clientRecord ++ (receiving ccsRecord ++ receiving serverRecord))) client ∧
        Talks (finishServer lib suite sessionId clientRandom serverRandom master transcript
        clientCerts serverIv)
          (receiving clientRecord ++ (sending ccsRecord ++ sending serverRecord)) server ∧
          client.Agrees server := by
  obtain ⟨material, hderive, hsized⟩ :=
    TlcpKeyMaterial.exists_derive lib.sm3 master clientRandom serverRandom suite
  generalize hcli : TlcpStream.new material suite true sessionId = client
  generalize hsrv : ({ TlcpStream.new material suite false sessionId with
    peerClientCerts := clientCerts } : TlcpStream) = server
  have hup : client.Delivers server := by
    have hnew := delivers_new material suite true sessionId
    subst hcli hsrv
    exact ⟨hnew.key, hnew.macKey, hnew.nonce, hnew.seq, hnew.suite⟩
  have hdown : server.Delivers client := by
    have hnew := delivers_new material suite false sessionId
    subst hcli hsrv
    exact ⟨hnew.key, hnew.macKey, hnew.nonce, hnew.seq, hnew.suite⟩
  have hclientKey : client.writeKey.length = 16 := by rw [← hcli]; exact hsized.clientEncKey
  have hserverKey : server.writeKey.length = 16 := by rw [← hsrv]; exact hsized.serverEncKey
  have hclientSeq : client.writeSeq = 0 := by rw [← hcli]; rfl
  have hserverSeq : server.writeSeq = 0 := by rw [← hsrv]; rfl
  let clientFinished := Finished.compute lib.sm3 master clientFinishedLabel transcript
  let serverFinished := Finished.compute lib.sm3 master serverFinishedLabel
    (transcript ++ clientFinished.toBytes)
  obtain ⟨clientRecord, hclientWrites, hserverReads⟩ :=
    exists_talks_sealRecord lib.sm3 lib.sm4 hup hclientKey (by rw [hclientSeq]; decide) (.inr rfl)
      (sealedLength_finished_le client.cipherSuite clientFinished) clientIv
  have hdown' : ({ server with readSeq := server.readSeq + 1 } : TlcpStream).Delivers
      { client with writeSeq := client.writeSeq + 1 } :=
    ⟨hdown.key, hdown.macKey, hdown.nonce, hdown.seq, hdown.suite⟩
  obtain ⟨serverRecord, hserverWrites, hclientReads⟩ :=
    exists_talks_writeAll lib.sm3 lib.sm4 (parseFailure "write server Finished") hdown' hserverKey
      (by rw [hserverSeq]; decide) (sealedLength_finished_le server.cipherSuite serverFinished)
      serverIv
  let session := resumedSession master suite clientRandom serverRandom
  refine ⟨clientRecord, serverRecord, { client with
      writeSeq := client.writeSeq + 1
      readSeq := client.readSeq + 1
      cachedResumedSession := some session },
    { server with
      readSeq := server.readSeq + 1
      writeSeq := server.writeSeq + 1
      cachedResumedSession := some session }, ?_, ?_, ⟨session, rfl, rfl⟩,
    ⟨hup.key, hup.macKey, hup.nonce, congrArg (· + 1) hup.seq, hup.suite⟩,
    ⟨hdown.key, hdown.macKey, hdown.nonce, congrArg (· + 1) hdown.seq, hdown.suite⟩⟩
  · refine .bind (.writeAll _ _) (.check_bind hderive ?_)
    rw [hcli]
    refine .record_bind _ (.bind (.attempt hclientWrites) ?_)
    refine .check_bind rfl (.record_bind _ ?_)
    refine .bind (.readExact _ (by decide)) (.record_bind _ ?_)
    refine .last (.attempt hclientReads) (.check_bind rfl ?_)
    refine .check_bind (parseFinished_toBytes _ _) (.record_bind _ ?_)
    exact .check_bind (verify_verifyData _ _) (.record_bind _ (.pure _))
  refine .check_bind hderive ?_
  rw [hsrv]
  refine .bind (.attempt hserverReads) (.check_bind rfl ?_)
  refine .check_bind (parseFinished_toBytes _ _) (.record_bind _ ?_)
  refine .check_bind (verify_verifyData _ _) (.record_bind _ ?_)
  refine .bind (.writeAll _ _) (.record_bind _ ?_)
  exact .last hserverWrites (.record_bind _ (.pure _))

variable [DecidableEq F] [DecidableEq P]
def provenTranscript (connector : TlcpConnector G1 G2) (clientEntropy : ClientEntropy F)
    (serverEntropy : ServerEntropy F) (suite : TlcpCipherSuite) (pair : CertPair)
    (ske : Option ServerKeyExchangeBody) (cke : ClientKeyExchangeBody)
    (deferred : Option ServerKeyExchangeBody) : Bytes :=
  openingTranscript connector clientEntropy serverEntropy suite pair ske ++ doneMessages suite ++
    clientCertificateBytes connector suite ++ cke.toBytes ++ exchangeMessage deferred

/-- The key exchange of an honest handshake. -/
structure KeyExchangeAgrees (lib : TlcpLibrary F P G1 G2 GT) (connector : TlcpConnector G1 G2)
    (acceptor : TlcpAcceptor F G1 G2) (clientEntropy : ClientEntropy F)
    (serverEntropy : ServerEntropy F) (suite : TlcpCipherSuite) (signCert encCert : Bytes)
    (received : CertPair) (ske : Option ServerKeyExchangeBody) (exchange : ClientExchange G1)
    (deferred : Option ServerKeyExchangeBody) (pms : Bytes) : Prop where
  absent : ske = none ↔ suite.keyExchange = .ibsdh
  serves : ∃ text, serverExchange lib acceptor serverEntropy suite clientEntropy.random
    (serverCertPair acceptor suite signCert encCert) encCert = .ok (ske.map fun body ↦ (body, text))
  verifies : verifyServerKeyExchange lib connector suite (exchangeBody ske) clientEntropy.random
    serverEntropy.random received.encCert = .ok ()
  answers : clientExchange lib connector clientEntropy suite (exchangeBody ske) received.encCert =
    .ok exchange
  reads : ClientKeyExchangeBody.fromBody exchange.body.payload (suite.keyExchange = .ecc)
    (suite.keyExchange = .ibc) (suite.keyExchange = .ibsdh) (suite.keyExchange = .rsa) =
    exchange.body
  serverDeferred : DeferredServed lib acceptor serverEntropy suite exchange.body deferred pms
  clientDeferred : DeferredAgrees lib connector exchange deferred pms
  serverSecret : serverPms lib acceptor serverEntropy suite (clientCertificateList connector suite)
    exchange.body (deferred.map fun _ ↦ pms) = .ok pms

/-- The messages of the key exchange fit into records. -/
structure MessagesFit (connector : TlcpConnector G1 G2) (suite : TlcpCipherSuite)
    (ske deferred : Option ServerKeyExchangeBody) (exchange : ClientExchange G1) : Prop where
  ske : (exchangeMessage ske).length ≤ maxRecordSize
  deferred : (exchangeMessage deferred).length ≤ maxRecordSize
  certificate : (clientCertificateBytes connector suite).length ≤ maxRecordSize
  exchange : exchange.body.toBytes.length ≤ maxRecordSize

variable (lib connector acceptor clientEntropy serverEntropy now) in
/-- The client and the server, on two ends of a stream that delivers in order. -/
def EndsInAgreement : Prop :=
  Inevitably Duplex.Step (fun state ↦ ∃ client server, state = Duplex.ended (.ok client)
    (.ok server) ∧ client.Agrees server)
    (Duplex.start (connectWithCerts lib connector clientEntropy now)
      (acceptWithCerts lib acceptor serverEntropy now))

lemma handshake_agrees (hoff : connector.cipherSuites = [suite.id])
    (hcerts : CertificatesAgree lib connector acceptor now suite signCert encCert received)
    (hconf : suite.keyExchange.authenticatesClient = true → connector.clientCerts ≠ [])
    (hchecked : suite.keyExchange.authenticatesClient = true →
      checkClientCertificates lib acceptor now connector.clientCerts = .ok ())
    {ske deferred : Option ServerKeyExchangeBody} {exchange : ClientExchange G1}
    {pms verify : Bytes}
    (hexch : KeyExchangeAgrees lib connector acceptor clientEntropy serverEntropy suite signCert
      encCert received ske exchange deferred pms)
    (hfits : MessagesFit connector suite ske deferred exchange)
    (hproves : VerifyAgrees lib connector suite (provenTranscript connector clientEntropy
      serverEntropy suite (serverCertPair acceptor suite signCert encCert)
      ske exchange.body deferred) verify)
    (hver : VerifyServed lib acceptor (clientCertificateList connector suite)
      (provenTranscript connector clientEntropy serverEntropy suite
        (serverCertPair acceptor suite signCert encCert) ske exchange.body deferred) verify) :
    EndsInAgreement lib connector acceptor clientEntropy serverEntropy now := by
  obtain ⟨text, hserves⟩ := hexch.serves
  obtain ⟨master, hms⟩ :=
    exists_masterSecret lib.sm3 pms clientEntropy.random serverEntropy.random
  obtain ⟨clientRecord, serverRecord, client, server, hclientEnds, hserverEnds, hagrees⟩ :=
    finish_agrees lib suite serverEntropy.sessionId.bytes clientEntropy.random serverEntropy.random
      master (provenTranscript connector clientEntropy serverEntropy suite
        (serverCertPair acceptor suite signCert encCert) ske exchange.body deferred ++ verify)
      (clientCertificateList connector suite) clientEntropy.recordIv serverEntropy.recordIv
  have hcli : Talks (connectWithCerts lib connector clientEntropy now) _ client := Talks.bind
    (talks_openHandshake hcerts hexch.absent hfits.ske hexch.verifies)
    (.bind (talks_sendClientFlight hconf hexch.answers hexch.clientDeferred hfits.deferred
      hproves hms) hclientEnds)
  have hsrv : Talks (acceptWithCerts lib acceptor serverEntropy now) _ server := Talks.bind
    (talks_openServer hoff hcerts.configured hserves)
    (.bind (talks_readClientFlight rfl rfl hfits.certificate hchecked hfits.exchange
      hexch.reads hexch.serverDeferred hexch.serverSecret hms hver) hserverEnds)
  have hends : Inevitably Duplex.Step (· = Duplex.ended (.ok client) (.ok server))
      (Duplex.start (connectWithCerts lib connector clientEntropy now)
        (acceptWithCerts lib acceptor serverEntropy now)) := by
    apply inevitably_of_talks hcli
    simpa only [mirror_append, mirror_sending, mirror_receiving, append_assoc] using hsrv
  exact hends.mono fun state hstate ↦ ⟨client, server, hstate, hagrees⟩

end GmStack.Tlcp
