import GmStack.Tlcp.Client

/-! `TlcpAcceptor::accept_with_certs` of `gm-tlcp/src/tlcp/mod.rs` in its default build, step by
step. -/

namespace GmStack.Tlcp

open Foundation Crypto X509

/-- `TlcpAcceptor`, with the fields the handshake reads. -/
structure TlcpAcceptor (F G1 G2 : Type) where
  signCert : Option Bytes := none
  encCert : Option Bytes := none
  signCertChain : List Bytes := []
  encCertChain : List Bytes := []
  signKey : Option (Sm2KeyPair F) := none
  encKey : Option (Sm2KeyPair F) := none
  serverEncDistid : Option String := none
  serverSignDistid : Option String := none
  clientEncDistid : Option String := none
  clientSignDistid : Option String := none
  sm9SignMaster : Option (SignMasterKey G2) := none
  sm9EncMaster : Option (EncMasterKey G1) := none
  sm9ServerId : Option Bytes := none
  rsaCert : Option Bytes := none
  rsaSigner : Option Bytes := none
  rsaDecryptor : Option Bytes := none
  rsaSingleCertMode : Bool := false
  clientCaAnchors : Option (List Bytes) := none
  clientCrls : List Bytes := []
  strictCrl : Bool := false
  distidPolicy : Option DistidPolicy := none
  sessionCache : Bytes → Option TlcpResumedSession := fun _ ↦ none

/-- What the server draws. -/
structure ServerEntropy (F : Type) where
  random : Octets 32
  sessionId : Octets 32
  ephemeral : F
  sm9Draws : List ℕ
  sm9Scalar : ℕ
  recordIv : Octets 16

def KeyExchangeMode.authenticatesClient : KeyExchangeMode → Bool
  | .ecdhe | .ecc => true
  | .ibc | .ibsdh | .rsa => false

variable {F P G1 G2 GT : Type} [CommRing F] [AddCommGroup P] [Module F P]
  (lib : TlcpLibrary F P G1 G2 GT) (acceptor : TlcpAcceptor F G1 G2)

def serverCertificates : Except TlcpError (Bytes × Bytes) := do
  let signCert ← required (acceptor.signCert <|> acceptor.rsaCert) "sign cert not configured"
  let encCert ← required (acceptor.encCert <|> acceptor.rsaCert) "enc cert not configured"
  rejectIf (acceptor.signKey.isNone ∧ acceptor.rsaSigner.isNone) (.handshakeFailed
    "no sign key configured (need either with_dual_certs(...) or with_rsa_certs(...))")
  .ok (signCert, encCert)

def processClientHello (entropy : ServerEntropy F) (hello : ClientHello) :
    Except TlcpError (TlcpCipherSuite × Bytes) := do
  rejectIf (hello.version ≠ tlcpVersion10) (.invalidMessage
    ("Unsupported TLCP version: " ++ hexOctetsLower [hello.version.1, hello.version.2]))
  let cached := if hello.sessionId = [] then none
    else (acceptor.sessionCache hello.sessionId).filter fun session ↦
    hello.cipherSuites.contains session.cipherSuite
  match cached with
  | some session => do
    let suite ← required (TlcpCipherSuite.fromId session.cipherSuite)
      "cached session has unsupported cipher suite"
    .ok (suite, hello.sessionId)
  | none => do
    let suite ← required (hello.cipherSuites.findSome? TlcpCipherSuite.fromId)
      "No supported cipher suite"
    .ok (suite, entropy.sessionId.bytes)

def readClientHello : Handshake ClientHello := do
  let (_, body) ← readHandshakeMessage (parseFailure "read ClientHello") .clientHello "ClientHello"
  Proc.check (ClientHello.fromBody body)

def serverHello (entropy : ServerEntropy F) (suite : TlcpCipherSuite) (sessionId : Bytes) :
    ServerHello :=
  { version := tlcpVersion10
    random := entropy.random
    sessionId
    cipherSuite := suite.id
    compressionMethod := 0x00 }

def serverCertPair (suite : TlcpCipherSuite) (signCert encCert : Bytes) : CertPair :=
  if acceptor.rsaSingleCertMode ∧ suite.keyExchange = .rsa then CertPair.newSingle signCert
  else CertPair.withChains signCert encCert acceptor.signCertChain acceptor.encCertChain

def serverSigner (text : String) : Except TlcpError (Sm2Signer F) := do
  let signKey ← required acceptor.signKey text
  (Sm2Signer.newWithDistid lib.sm2 signKey (acceptor.serverSignDistid.getD defaultUserId)).mapError
    fun e ↦ .sm2KeyError ("sign signer: " ++ e.display)

def generateIbc (clientRandom serverRandom : Octets 32) (draws : List ℕ) :
    Except TlcpError ServerKeyExchangeBody := do
  let master ← required acceptor.sm9SignMaster
    "SM9 IBC suite negotiated but TlcpAcceptor::with_sm9_certs(...) was not called"
  let serverId ← required acceptor.sm9ServerId
    "SM9 IBC suite negotiated but sm9_server_id is missing"
  let userKey ← (master.extractKey lib.sm9 serverId).mapError
    fun e ↦ .sm2KeyError ("SM9 IBC sign user key extract: " ++ e.display)
  let signature ← (sm9Sign lib.sm9 userKey serverId
    (ibcSignedInput clientRandom serverRandom serverId) draws).mapError
      fun e ↦ .sm2KeyError ("SM9 IBC SKE sign: " ++ e.display)
  .ok (.ibc serverId (signature.toBytes lib.sm9))

def serverExchange (entropy : ServerEntropy F) (suite : TlcpCipherSuite) (clientRandom : Octets 32)
    (certPair : CertPair) (encCert : Bytes) :
    Except TlcpError (Option (ServerKeyExchangeBody × String)) :=
  match suite.keyExchange with
  | .ecdhe => do
    let signer ← serverSigner lib acceptor
      "SM2 sign key not configured (needed for Ecdhe/Ecc suites)"
    let ske ← generateEcdhe lib clientRandom entropy.random signer entropy.ephemeral
    .ok (some (ske, "write ServerKeyExchange"))
  | .ecc => do
    let signer ← serverSigner lib acceptor
      "SM2 sign key not configured (needed for static-ECC suites)"
    let ske ← generateEcc lib clientRandom entropy.random encCert signer
    .ok (some (ske, "write ServerKeyExchange"))
  | .ibc => do
    let ske ← generateIbc lib acceptor clientRandom entropy.random entropy.sm9Draws
    .ok (some (ske, "write ServerKeyExchange (IBC)"))
  | .ibsdh => .ok none
  | .rsa => do
    let rsaKey ← required acceptor.rsaSigner
      "RSA suite negotiated but TlcpAcceptor::with_rsa_certs(...) was not called"
    let ske ← generateRsa lib clientRandom entropy.random certPair.encCert rsaKey
    .ok (some (ske, "write ServerKeyExchange (RSA)"))

def sendServerKeyExchange (exchange : Option (ServerKeyExchangeBody × String)) : Handshake Bytes :=
  match exchange with
  | none => pure []
  | some (ske, text) => do
    writeHandshakeRecord (parseFailure text) ske.toBytes
    pure ske.toBytes

def sendServerHelloDone (suite : TlcpCipherSuite) : Handshake Bytes := do
  let requestBytes := if suite.keyExchange.authenticatesClient then certificateRequestBytes else []
  if suite.keyExchange.authenticatesClient then
    writeHandshakeRecord (parseFailure "write CertificateRequest") certificateRequestBytes
  writeHandshakeRecord (parseFailure "write ServerHelloDone") serverHelloDoneBytes
  pure (requestBytes ++ serverHelloDoneBytes)

def checkClientCertificates (now : Instant) (clientCerts : List Bytes) : Except TlcpError Unit :=
  match acceptor.clientCaAnchors with
  | none => .ok ()
  | some anchors => do
    rejectIf (anchors = [])
      (.handshakeFailed ("with_client_ca_chain() was called with an empty anchor list; " ++
        "refusing to silently disable validation. Pass at least one CA " ++
        "or omit the call to use the legacy 'no PKI' path."))
    rejectIf (clientCerts = [])
      (.handshakeFailed ("trust anchors are configured (with_client_ca_chain) but the " ++
        "client sent no certificate; refusing anonymous client when " ++
        "client authentication is required."))
    (clientCerts.take 2).zipIdx.forM fun (leaf, idx) ↦
      verifyChain lib ("client cert chain entry " ++ toString idx)
        (leaf :: clientCerts.drop 2) anchors
        now none (if idx = 0 then .tlcClient else .tlcEncClient) acceptor.distidPolicy
        acceptor.strictCrl acceptor.clientCrls

def readClientCertificate (now : Instant) (suite : TlcpCipherSuite) :
    Handshake (List Bytes × Bytes) :=
  if suite.keyExchange.authenticatesClient then do
    let (payload, body) ← readHandshakeMessage (parseFailure "read Client Certificate") .certificate
      "Certificate (client)"
    let clientCerts := if body.length ≥ 3 then certEntries body.length (body.drop 3) else []
    Proc.check (checkClientCertificates lib acceptor now clientCerts)
    pure (clientCerts, payload)
  else pure ([], [])

/-! ### Key exchange -/

/-- The deferred ServerKeyExchange of an IBSDH server and the shared key. The server takes its own
identity for the client's. -/
def respondIbsdh (entropy : ServerEntropy F) (cke : ClientKeyExchangeBody) :
    Except TlcpError (ServerKeyExchangeBody × Bytes) := do
  let raBytes ← required cke.asIbsdhRa "SM9 IBSDH server: client CKE not in IBSDH R_A format"
  let master ← required acceptor.sm9EncMaster
    "SM9 IBSDH suite negotiated but TlcpAcceptor::with_sm9_certs(...) was not called"
  let serverId ← required acceptor.sm9ServerId
    "SM9 IBSDH suite negotiated but sm9_server_id is missing"
  let ra ← g1PointFromUncompressed lib raBytes
  let deB ← (master.extractKeyExchange lib.sm9 serverId).mapError
    fun e ↦ .sm2KeyError ("SM9 IBSDH de_b extract: " ++ e.display)
  let response ← (responderProcess lib.sm9 lib.sm3 serverId serverId deB.ppube deB ra 48
    entropy.sm9Scalar).mapError fun e ↦ .sm2KeyError ("SM9 IBSDH responder: " ++ e.display)
  let rbWire ← g1PointToUncompressed lib response.rB
  .ok (.ibsdh raBytes rbWire response.sB, response.sharedKey)

def sendDeferredKeyExchange (entropy : ServerEntropy F) (suite : TlcpCipherSuite)
    (cke : ClientKeyExchangeBody) : Handshake (Option Bytes × Bytes) :=
  if suite.keyExchange = .ibsdh then do
    let (ske, sharedKey) ← Proc.check (respondIbsdh lib acceptor entropy cke)
    writeHandshakeRecord (fun e ↦ .handshakeFailed ("write ServerKeyExchange (IBSDH deferred): " ++
      e)) ske.toBytes
    pure (some sharedKey, ske.toBytes)
  else pure (none, [])

def checkPmsLength (text : String) (pms : Bytes) : Except TlcpError Bytes := do
  rejectIf (pms.length ≠ 48) (.handshakeFailed (text ++ toString pms.length))
  .ok pms

def ibcServerPms (cke : ClientKeyExchangeBody) : Except TlcpError Bytes := do
  let ciphertextBytes ← required cke.asIbcCiphertext
    "SM9 IBC server PMS decrypt: client CKE not in IBCEncryptedPreMasterSecret format"
  let master ← required acceptor.sm9EncMaster
    "SM9 IBC suite negotiated but TlcpAcceptor::with_sm9_certs(...) was not called"
  let serverId ← required acceptor.sm9ServerId
    "SM9 IBC suite negotiated but sm9_server_id is missing"
  let ciphertext ← (Sm9Ciphertext.fromBytes lib.sm9 ciphertextBytes).mapError
    fun e ↦ .sm2KeyError ("SM9 IBC ciphertext parse: " ++ e.display)
  let userKey ← (master.extractKey lib.sm9 serverId).mapError
    fun e ↦ .sm2KeyError ("SM9 user dec key extract: " ++ e.display)
  let pms ← (sm9Decrypt lib.sm9 lib.sm3 userKey ciphertext serverId).mapError
    fun e ↦ .sm2KeyError ("SM9 IBC PMS decrypt: " ++ e.display)
  checkPmsLength "SM9 IBC PMS decrypt: expected 48 bytes, got " pms

def rsaServerPms (cke : ClientKeyExchangeBody) : Except TlcpError Bytes := do
  let ciphertext ← required cke.asRsaCiphertext
    "RSA server PMS decrypt: client CKE not in RSAEncryptedPreMasterSecret format"
  let rsaKey ← required acceptor.rsaDecryptor ("RSA suite negotiated but " ++
    "TlcpAcceptor::with_rsa_certs(...) was not called (need rsa_decryptor)")
  let pms ← (lib.rsaDecrypt rsaKey ciphertext).mapError fun e ↦ .handshakeFailed
    ("RSA decrypt RSAEncryptedPreMasterSecret: " ++
    (TlcpError.sm2KeyError ("RSA PMS decrypt: " ++ e)).display)
  checkPmsLength
    "RSA server PMS decrypt: plaintext must be 48 bytes (2B version || 46B random), got " pms

def eccServerPms (cke : ClientKeyExchangeBody) : Except TlcpError Bytes := do
  let encKey ← required acceptor.encKey ("spec-default static-ECC server PMS decrypt needs " ++
    "`with_dual_certs(..., enc_key)` configured (server-side encryption keypair)")
  let ciphertext ← required cke.asEccCiphertext
    ("spec-default static-ECC server PMS decrypt: client " ++
      "CKE not in ECCEncryptedPreMasterSecret format " ++
      "(was the negotiated suite actually static-ECC?)")
  let localKey ← (Sm2KeyPair.fromPrivateKey lib.sm2 (encKey.privateKeyBytes lib.sm2)).mapError
    fun e ↦ .handshakeFailed ("spec-default static-ECC server PMS decrypt: " ++
      "server enc key reconstruction: " ++ e.display)
  let pms ← (lib.sm2Decrypt localKey.privateKey ciphertext).mapError
    fun e ↦ .handshakeFailed ("SM2 decrypt ECCEncryptedPreMasterSecret: " ++ e.display)
  checkPmsLength ("spec-default static-ECC server PMS decrypt: plaintext " ++
    "must be 48 bytes (2B version || 46B random), got ") pms

section Ecdhe

variable [DecidableEq F] [DecidableEq P]

def ecdheServerPms (entropy : ServerEntropy F) (clientCerts : List Bytes)
    (cke : ClientKeyExchangeBody) : Except TlcpError Bytes := do
  let peerEphemeral ← required cke.ecdhePublicKey
    "ECDHE ClientKeyExchange missing ECParameters envelope for sm2p256v1"
  let encKey ← required acceptor.encKey
    "spec-default server ECDHE PMS needs `with_dual_certs(..., enc_key)` configured"
  let serverEncXy ← uncompressedXy "server enc pub must be uncompressed (65B 0x04||X||Y)"
    (encKey.publicKeyBytesUncompressed lib.sm2)
  let serverEphemeralXy ← uncompressedXy
    "server ephemeral pub must be uncompressed (65B 0x04||X||Y)"
    (lib.sm2.encode (entropy.ephemeral • lib.sm2.generator))
  let peerEphemeralXy ← uncompressedXy "client ephemeral pub must be uncompressed (65B 0x04||X||Y)"
    peerEphemeral
  let clientEncCert ← required clientCerts[1]? ("tlcp-strict server ECDHE PMS needs the client " ++
      "to send BOTH a sign cert (chain index 0) and an enc " ++
      "cert (chain index 1) in reply to our CertificateRequest; " ++
      "configure TlcpConnector::with_client_certs(.., " ++
        "[sign_der, enc_der, ..], Some(enc_key_pem), ..).")
  let clientEncPub ← (extractSm2PubkeyFromCertDer lib clientEncCert).mapError .handshakeFailed
  let clientEncXy ← uncompressedXy "client enc pub must be uncompressed (65B 0x04||X||Y)"
    clientEncPub
  let zServer ← (sm2ComputeZ lib.sm3 serverEncXy (distidBytes acceptor.serverEncDistid)).mapError
    fun e ↦ .cipherError e.display
  let zClient ← (sm2ComputeZ lib.sm3 clientEncXy (distidBytes acceptor.clientEncDistid)).mapError
    fun e ↦ .cipherError e.display
  (computeTlcpEcdhePms lib.sm2 lib.sm3 (encKey.privateKeyBytes lib.sm2) serverEphemeralXy
    (lib.sm2.scalarToBytes entropy.ephemeral) clientEncXy peerEphemeralXy zServer
    zClient 48).mapError
      fun e ↦ .cipherError e.display

def serverPms (entropy : ServerEntropy F) (suite : TlcpCipherSuite) (clientCerts : List Bytes)
    (cke : ClientKeyExchangeBody) (sharedKey : Option Bytes) : Except TlcpError Bytes :=
  match suite.keyExchange with
  | .ibc => ibcServerPms lib acceptor cke
  | .ibsdh => required sharedKey ("SM9 IBSDH server PMS: server_hs.sk_b missing -- " ++
      "deferred SKE emit did not run (internal state-machine bug)")
  | .rsa => rsaServerPms lib acceptor cke
  | .ecc => eccServerPms lib acceptor cke
  | .ecdhe => ecdheServerPms lib acceptor entropy clientCerts cke

end Ecdhe

def processCertificateVerify (payload : Bytes) (clientCerts : List Bytes) (transcript : Bytes) :
    Except TlcpError Unit := do
  let (type, body, _) ← parseHandshakeMessage payload
  rejectIf (type ≠ .certificateVerify)
    (.handshakeMessageParse ("Expected CertificateVerify, got " ++ type.debug))
  let (signature, _) ← takeLengthThen 2 (.handshakeFailed "CertificateVerify body too short")
    (fun sigLen ↦ .handshakeFailed ("CertificateVerify signature truncated: " ++
      toString (body.length - 2) ++ " < " ++ toString sigLen)) body
  let rawSig ← rawSignature "CV signature DER decode: " signature
  let signCert ← required clientCerts.head? "server received CV but no client Certificate"
  let signPub ← (extractSm2PubkeyFromCertDer lib signCert).mapError .handshakeFailed
  let verifier ← (Sm2Verifier.new lib.sm2.toSm2Library signPub
    (acceptor.clientSignDistid.getD defaultUserId)).mapError fun e ↦
    .sm2KeyError ("CV verifier: " ++ e.display)
  (verifier.verify lib.sm2.toSm2Library transcript rawSig).mapError
    fun e ↦ .sm2KeyError ("CV signature verify: " ++ e.display)

def checkCcs (type : UInt8) (payload : Bytes) : Except TlcpError Unit := do
  rejectIf (type ≠ 0x14) (.handshakeFailed ("Expected CCS (0x14), got 0x" ++ hexOctetLower type))
  rejectIf (payload ≠ [0x01]) (.handshakeFailed ("CCS payload must be 0x01, got " ++
    toString payload.length ++ " bytes: " ++ hexOctetsLower payload))

def readClientProof (clientCerts : List Bytes) (transcript : Bytes) : Handshake Bytes := do
  let (_, probe) ← readPlaintextRecord (parseFailure "read post-CKE record")
  if probe.head? = some HandshakeType.certificateVerify.code then
    Proc.check (processCertificateVerify lib acceptor probe clientCerts transcript)
    let (ccsType, ccsPayload) ← readPlaintextRecord (parseFailure "read CCS")
    Proc.check (checkCcs ccsType ccsPayload)
    pure probe
  else
    Proc.check (checkCcs 0x14 probe)
    pure []

def finishServer (suite : TlcpCipherSuite) (sessionId : Bytes)
    (clientRandom serverRandom : Octets 32)
    (master transcript : Bytes) (clientCerts : List Bytes) (iv : Octets 16) :
    Handshake TlcpStream := do
  let material ← Proc.check (TlcpKeyMaterial.derive lib.sm3 master clientRandom serverRandom suite)
  let stream := { TlcpStream.new material suite false sessionId with peerClientCerts :=
    clientCerts }
  let read ← (stream.readApplicationData lib.sm3 lib.sm4).attempt
  let (plaintext, stream) ← Proc.check (read.mapError fun e ↦
    parseFailure "read client Finished" e.display)
  let clientFinished ← Proc.check (parseFinished "client" plaintext)
  let expected := Finished.compute lib.sm3 master clientFinishedLabel transcript
  Proc.record (.finishedOver transcript)
  Proc.check (rejectIf (clientFinished.verify expected.verifyData = false) (.handshakeFailed
    "client Finished verify_data mismatch (possible handshake tampering)"))
  Proc.record (.finishedReceived plaintext)
  let transcript := transcript ++ plaintext
  Proc.writeAll (parseFailure "write CCS") ccsRecord
  let serverFinished := Finished.compute lib.sm3 master serverFinishedLabel transcript
  Proc.record (.finishedOver transcript)
  let stream ← stream.writeAll lib.sm3 lib.sm4 (parseFailure "write server Finished")
    serverFinished.toBytes iv
  Proc.record (.finishedSent serverFinished.toBytes)
  pure { stream with
    cachedResumedSession := some (resumedSession master suite clientRandom serverRandom) }

/-- What the server holds after its first flight. -/
structure ServerOpened where
  suite : TlcpCipherSuite
  sessionId : Bytes
  clientRandom : Octets 32
  transcript : Bytes

def openServer (entropy : ServerEntropy F) : Handshake ServerOpened := do
  let (signCert, encCert) ← Proc.check (serverCertificates acceptor)
  let hello ← readClientHello
  let (suite, sessionId) ← Proc.check (processClientHello acceptor entropy hello)
  let helloBytes := (serverHello entropy suite sessionId).toBytes
  writeHandshakeRecord (parseFailure "write ServerHello") helloBytes
  let certPair := serverCertPair acceptor suite signCert encCert
  writeHandshakeRecord (parseFailure "write Certificate") certPair.toCertificateMessage
  let exchange ← Proc.check
    (serverExchange lib acceptor entropy suite hello.random certPair encCert)
  let skeBytes ← sendServerKeyExchange exchange
  let doneBytes ← sendServerHelloDone suite
  pure { suite, sessionId, clientRandom := hello.random,
         transcript := hello.toBytes ++ helloBytes ++ certPair.toCertificateMessage ++
         skeBytes ++ doneBytes }

/-- What the server holds when the client's Finished is due. -/
structure ServerReady where
  master : Bytes
  clientCerts : List Bytes
  transcript : Bytes

variable [DecidableEq F] [DecidableEq P]

def readClientFlight (entropy : ServerEntropy F) (now : Instant) (opened : ServerOpened) :
    Handshake ServerReady := do
  let (clientCerts, certPayload) ← readClientCertificate lib acceptor now opened.suite
  let (ckePayload, ckeBody) ← readHandshakeMessage (parseFailure "read ClientKeyExchange")
    .clientKeyExchange "ClientKeyExchange"
  let mode := opened.suite.keyExchange
  let cke := ClientKeyExchangeBody.fromBody ckeBody (mode = .ecc) (mode = .ibc) (mode = .ibsdh)
    (mode = .rsa)
  let (sharedKey, deferred) ← sendDeferredKeyExchange lib acceptor entropy opened.suite cke
  let pms ← Proc.check (serverPms lib acceptor entropy opened.suite clientCerts cke sharedKey)
  let master ← Proc.check (masterSecret lib.sm3 pms opened.clientRandom entropy.random)
  let transcript := opened.transcript ++ certPayload ++ ckePayload ++ deferred
  let verifyPayload ← readClientProof lib acceptor clientCerts transcript
  pure { master, clientCerts, transcript := transcript ++ verifyPayload }

def acceptWithCerts (entropy : ServerEntropy F) (now : Instant) : Handshake TlcpStream := do
  let opened ← openServer lib acceptor entropy
  let ready ← readClientFlight lib acceptor entropy now opened
  finishServer lib opened.suite opened.sessionId opened.clientRandom entropy.random ready.master
    ready.transcript ready.clientCerts entropy.recordIv

end GmStack.Tlcp
