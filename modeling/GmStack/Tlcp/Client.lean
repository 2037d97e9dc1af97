import GmStack.Tlcp.KeyExchange

/-! `TlcpConnector::connect_with_certs` of `gm-tlcp/src/tlcp/mod.rs` in its default build, step by
step. -/

namespace GmStack.Tlcp

open Foundation Crypto X509

/-- `TlcpConnector`, with the fields the handshake reads. -/
structure TlcpConnector (G1 G2 : Type) where
  serverSignPubkey : Option Bytes := none
  serverSignDistid : Option String := none
  cipherSuites : List SuiteId
  clientCerts : List Bytes := []
  clientSignKey : Option String := none
  clientEncKey : Option String := none
  serverEncDistid : Option String := none
  clientEncDistid : Option String := none
  clientSignDistid : Option String := none
  clientSignKeyPassword : Option String := none
  sm9KgcPpube : Option G1 := none
  sm9KgcPpubs : Option G2 := none
  sm9ServerId : Option Bytes := none
  sm9IbsdhDeA : Option (EncUserKey G1 G2) := none
  sm9IbsdhClientId : Option Bytes := none
  rsaServerPub : Option Bytes := none
  serverCaAnchors : Option (List Bytes) := none
  serverName : Option String := none
  serverCrls : List Bytes := []
  strictCrl : Bool := false
  expectedUri : Option String := none
  distidPolicy : Option DistidPolicy := none

/-- What the client draws. -/
structure ClientEntropy (F : Type) where
  random : Octets 32
  pmsRandom : Octets 46
  ephemeral : F
  sm9Draws : List ℕ
  sm9Scalar : ℕ
  encryptSeed : Bytes
  recordIv : Octets 16

def defaultUserId : String := "1234567812345678"

def required {α : Type} (field : Option α) (text : String) : Except TlcpError α :=
  match field with
  | some value => .ok value
  | none => .error (.handshakeFailed text)

lemma required_eq_ok {α : Type} {field : Option α} {text : String} {value : α} :
    required field text = .ok value ↔ field = some value := by
  cases field <;> simp [required]

def readHandshakeMessage (wrap : String → TlcpError) (expected : HandshakeType) (name : String) :
    Handshake (Bytes × Bytes) := do
  let (_, payload) ← readPlaintextRecord wrap
  let (type, body, _) ← Proc.check (parseHandshakeMessage payload)
  Proc.check (rejectIf (type ≠ expected)
    (.handshakeFailed ("Expected " ++ name ++ ", got " ++ type.debug)))
  pure (payload, body)

def parseFailure (what : String) (e : String) :
    TlcpError := .handshakeMessageParse (what ++ ": " ++ e)

variable {F P G1 G2 GT : Type} [CommRing F] [AddCommGroup P] [Module F P]
  (lib : TlcpLibrary F P G1 G2 GT) (connector : TlcpConnector G1 G2)

def clientHello (random : Octets 32) : ClientHello :=
  { version := tlcpVersion10
    random
    sessionId := []
    cipherSuites := connector.cipherSuites
    compressionMethods := [0x00] }

def readServerHello : Handshake (ServerHello × Bytes) := do
  let (payload, body) ← readHandshakeMessage (parseFailure "read ServerHello")
    .serverHello "ServerHello"
  let hello ← Proc.check (ServerHello.fromBytes body)
  Proc.check (rejectIf (hello.version ≠ tlcpVersion10) (.invalidMessage
    ("Unsupported TLCP version: " ++ hexOctetsLower [hello.version.1, hello.version.2])))
  pure (hello, payload)

def dedupCerts (certs : List Bytes) : List Bytes :=
  certs.foldl (fun seen cert ↦ if seen.contains cert then seen else seen ++ [cert]) []

def checkServerCertificate (now : Instant) (certPair : CertPair) : Except TlcpError Unit := do
  rejectIf (certPair.signCert = []) (.handshakeFailed
    ("server sent no signing certificate; refusing handshake without a " ++
      "sign leaf (hostname check + PKI validation + SKE pin all require it)."))
  if let some domain := connector.serverName then
    (validateHostnameOnly lib.x509 certPair.signCert domain now).mapError
      (wrapCrypto fun e ↦ .certificateVerificationFailed ("server hostname check failed: " ++ e))
  if let some anchors := connector.serverCaAnchors then
    rejectIf (anchors = [])
      (.handshakeFailed ("with_server_ca_chain() was called with an empty anchor list; " ++
        "refusing to silently disable validation. Pass at least one CA " ++
        "or omit the call to use the legacy 'no PKI' path."))
    let chainMaterial := dedupCerts (certPair.signChain ++ certPair.encChain)
    verifyChain lib "server signing certificate" (certPair.signCert :: chainMaterial) anchors now
      connector.serverName .tlcServer connector.distidPolicy connector.strictCrl
      connector.serverCrls
    if let some uri := connector.expectedUri then
      (validateUriOnly lib.x509 certPair.signCert uri now .default).mapError
        (wrapCrypto fun e ↦ .certificateVerificationFailed ("server SPIFFE ID check failed: " ++ e))
    if certPair.encCert ≠ [] then
      verifyChain lib "server encryption certificate" (certPair.encCert :: chainMaterial)
        anchors now
        none .tlcEncServer connector.distidPolicy connector.strictCrl connector.serverCrls

def readServerCertificate (now : Instant) : Handshake (CertPair × Bytes) := do
  let (payload, body) ← readHandshakeMessage (parseFailure "read Certificate")
    .certificate "Certificate"
  let certPair ← Proc.check (CertPair.fromCertificateMessage body)
  Proc.check (checkServerCertificate lib connector now certPair)
  pure (certPair, payload)

def negotiatedSuite (hello : ServerHello) (certPair : CertPair) :
    Except TlcpError TlcpCipherSuite := do
  let suite ← required (TlcpCipherSuite.fromId hello.cipherSuite)
    ("server selected unknown cipher suite " ++
      hexOctetsLower [hello.cipherSuite.1, hello.cipherSuite.2])
  rejectIf (certPair.mode = .single ∧ suite.keyExchange ≠ .rsa) (.handshakeFailed
    ("non-RSA suite negotiated but server sent single-Cert " ++
      "Certificate message (GB/T 38636-2020 §6.4.5.5 requires " ++
      "dual-Cert for SM2 / SM9 suites)"))
  .ok suite

def readServerKeyExchange (suite : TlcpCipherSuite) : Handshake (Bytes × Bytes) :=
  if suite.keyExchange = .ibsdh then pure ([], [])
  else readHandshakeMessage (parseFailure "read ServerKeyExchange") .serverKeyExchange
    "ServerKeyExchange"

def verifyIbcKeyExchange (skeBody : Bytes) (clientRandom serverRandom : Octets 32) :
    Except TlcpError Unit := do
  let ppubs ← required connector.sm9KgcPpubs
    ("SM9 IBC suite negotiated but                      " ++
    "TlcpConnector::with_sm9_certs(...) was not called (need ppubs)")
  let serverId ← required connector.sm9ServerId
    "SM9 IBC suite negotiated but sm9_server_id is missing"
  let ske ← ServerKeyExchangeBody.fromBody skeBody .ibc
  match ske.asIbc with
  | none => .error (.invalidMessage "SM9 IBC verify called on non-IBC ServerKeyExchange body")
  | some (skeServerId, sigBytes) => do
    rejectIf (skeServerId ≠ serverId) (.handshakeFailed
      ("SM9 IBC SKE server_id mismatch: SKE says " ++ lossyDebug skeServerId ++
        ", connector says " ++ lossyDebug serverId))
    let sig ← (Sm9Signature.fromBytes lib.sm9 sigBytes).mapError
      fun e ↦ .handshakeFailed ("SM9 IBC SKE sig parse: " ++ e.display)
    let _ ← (sm9Verify lib.sm9 serverId ppubs (ibcSignedInput clientRandom serverRandom serverId)
      sig).mapError fun e ↦ .sm2KeyError ("SM9 IBC SKE signature verify: " ++ e.display)
    .ok ()

def verifyRsaKeyExchange (skeBody : Bytes) (clientRandom serverRandom : Octets 32)
    (encCert : Bytes) :
    Except TlcpError Unit := do
  let rsaPub ← required connector.rsaServerPub ("RSA suite negotiated but " ++
    "TlcpConnector::with_rsa_certs(...) was not called (need server_rsa_pub for SKE signature verify)")
  let ske ← (ServerKeyExchangeBody.fromBody skeBody .ecc).mapError fun e ↦
    .sm2KeyError ("RSA SKE parse: " ++ e.display)
  match ske with
  | .ecc signature =>
    rsaVerifierVerify lib rsaPub (certSignedInput clientRandom serverRandom encCert) signature
  | _ => .error (.handshakeFailed "RSA SKE body does not contain an Ecc-style signature")

def verifySm2KeyExchange (isEccMode : Bool) (skeBody : Bytes)
    (clientRandom serverRandom : Octets 32)
    (encCert : Bytes) : Except TlcpError Unit := do
  let text := "ServerKeyExchange signature verification requires " ++
    "server_sign_pubkey + server_sign_distid; call " ++
    "TlcpConnector::with_server_sign_key() before connect_with_certs()."
  let pubkey ← required connector.serverSignPubkey text
  let distid ← required connector.serverSignDistid text
  let verifier ← (Sm2Verifier.new lib.sm2.toSm2Library pubkey distid).mapError
    fun e ↦ .handshakeFailed ("verifier create: " ++ e.display)
  verifySkeSignature lib isEccMode skeBody clientRandom serverRandom encCert verifier

def verifyServerKeyExchange (suite : TlcpCipherSuite) (skeBody : Bytes)
    (clientRandom serverRandom : Octets 32) (encCert : Bytes) : Except TlcpError Unit :=
  match suite.keyExchange with
  | .ibc => verifyIbcKeyExchange lib connector skeBody clientRandom serverRandom
  | .rsa => verifyRsaKeyExchange lib connector skeBody clientRandom serverRandom encCert
  | .ibsdh => .ok ()
  | .ecc => verifySm2KeyExchange lib connector true skeBody clientRandom serverRandom encCert
  | .ecdhe => verifySm2KeyExchange lib connector false skeBody clientRandom serverRandom encCert

def probeRecord : Except TlcpError (UInt8 × Bytes) → Bool × Bool × Bytes
  | .ok (_, payload) =>
    match parseHandshakeMessage payload with
    | .ok (.certificateRequest, _, _) => (true, false, payload)
    | .ok (.serverHelloDone, _, _) => (false, true, payload)
    | _ => (false, false, [])
  | .error _ => (false, false, [])

def readServerHelloDone : Handshake (Bool × Bytes) := do
  let first ← (readPlaintextRecord .ioError).attempt
  let (requested, done, absorbed) := probeRecord first
  if done then pure (requested, absorbed)
  else do
    let (payload, _) ← readHandshakeMessage (parseFailure "read ServerHelloDone")
      .serverHelloDone "ServerHelloDone"
    pure (requested, absorbed ++ payload)

def clientCertificateMessage : Bytes :=
  handshakeMessage .certificate (lengthThen 3 (certEntriesToBytes connector.clientCerts))

def sendClientCertificate (requested : Bool) : Handshake Bytes :=
  if requested then do
    Proc.check (rejectIf (connector.clientCerts = []) (.handshakeFailed
      ("Server sent CertificateRequest but no client certificate " ++
        "was configured. Call TlcpConnector::with_client_certs() " ++
        "with a cert chain + signing key before connect.")))
    writeHandshakeRecord (parseFailure "write Certificate") (clientCertificateMessage connector)
    pure (clientCertificateMessage connector)
  else pure []

def requestedSignKey (requested : Bool) : Except TlcpError (Option String) :=
  if requested then do
    let key ← required connector.clientSignKey
      ("Server sent CertificateRequest but no client_sign_key was " ++
        "configured. Call TlcpConnector::with_client_certs() " ++
        "with a cert chain + (PKCS#8 PEM) signing key.")
    .ok (some key)
  else .ok none

def loadClientKey (pem : String) : Except TlcpError (Sm2KeyPair F) :=
  match Sm2KeyPair.fromPrivateKeyPem lib.sm2 pem with
  | .ok keyPair => .ok keyPair
  | .error plainErr =>
    match lib.sm2KeyFromEncryptedPem pem (connector.clientSignKeyPassword.getD "P@ssw0rd") with
    | .ok privateKey => .ok { privateKey, distid := defaultUserId }
    | .error decErr => .error (.handshakeFailed
        ("client key is neither a plaintext PEM (" ++ plainErr.display ++ ") nor a " ++
          "decryptable encrypted PKCS#8 PEM with the configured password (" ++
          decErr.display ++ ")"))

def chosenPms (random : Octets 46) : Bytes := [0x01, 0x01] ++ random.bytes

/-- What the client sends and keeps of its key exchange: the message, the pre-master secret, and for
IBSDH the state of the exchange with the point it sent. -/
structure ClientExchange (G1 : Type) where
  body : ClientKeyExchangeBody
  pms : Bytes
  ibsdh : Option (InitiatorState G1 × Bytes) := none

def ibcClientExchange (entropy : ClientEntropy F) : Except TlcpError (ClientExchange G1) := do
  let ppube ← required connector.sm9KgcPpube ("SM9 IBC suite negotiated but " ++
    "TlcpConnector::with_sm9_certs(...) was not called (need ppube)")
  let serverId ← required connector.sm9ServerId
    "SM9 IBC suite negotiated but sm9_server_id is missing"
  let pms := chosenPms entropy.pmsRandom
  let ciphertext ← (sm9Encrypt lib.sm9 lib.sm3 serverId ppube pms entropy.sm9Draws).mapError
    fun e ↦ .sm2KeyError ("SM9 IBC PMS encrypt: " ++ e.display)
  .ok { body := .ibc (ciphertext.toBytes lib.sm9), pms }

def ibsdhClientExchange (entropy : ClientEntropy F) : Except TlcpError (ClientExchange G1) := do
  let ppube ← required connector.sm9KgcPpube ("SM9 IBSDH suite negotiated but " ++
    "TlcpConnector::with_sm9_certs(...) was not called (need ppube)")
  let serverId ← required connector.sm9ServerId
    "SM9 IBSDH suite negotiated but sm9_server_id is missing"
  let state := initiatorBegin lib.sm9 serverId ppube entropy.sm9Scalar
  let raBytes ← g1PointToUncompressed lib state.rAPoint
  .ok { body := .ibsdh raBytes, pms := List.replicate 48 0, ibsdh := some (state, raBytes) }

def rsaClientExchange (entropy : ClientEntropy F) : Except TlcpError (ClientExchange G1) := do
  let rsaPub ← required connector.rsaServerPub ("RSA suite negotiated but " ++
    "TlcpConnector::with_rsa_certs(...) was not called (need server_rsa_pub for PMS encrypt)")
  let pms := chosenPms entropy.pmsRandom
  let ciphertext ← (lib.rsaEncrypt rsaPub entropy.encryptSeed pms).mapError
    fun e ↦
    .sm2KeyError ("RSA PMS encrypt: " ++ (TlcpError.sm2KeyError ("RSA PMS encrypt: " ++ e)).display)
  .ok { body := .rsa ciphertext, pms }

def eccClientExchange (entropy : ClientEntropy F) (encCert : Bytes) :
    Except TlcpError (ClientExchange G1) := do
  let encPub ← (extractSm2PubkeyFromCertDer lib encCert).mapError .handshakeFailed
  let pms := chosenPms entropy.pmsRandom
  (lib.sm2EncryptorNew encPub).mapError fun e ↦ .cipherError ("sm2 enc new: " ++ e.display)
  let ciphertext ← (lib.sm2EncryptDer encPub entropy.encryptSeed pms).mapError
    fun e ↦ .cipherError ("sm2 encrypt: " ++ e.display)
  .ok { body := .ecc ciphertext, pms }

def distidBytes (distid : Option String) : Bytes := (distid.getD defaultUserId).toUTF8.toList

section Ecdhe

variable [DecidableEq F] [DecidableEq P]

def ecdheClientExchange (entropy : ClientEntropy F) (skeBody encCert : Bytes) :
    Except TlcpError (ClientExchange G1) := do
  let ske ← ServerKeyExchangeBody.fromBody skeBody .ecdhe
  let encPem ← required connector.clientEncKey
    ("ECDHE cipher suite selected but no client_enc_key was configured. " ++
      "Call TlcpConnector::with_client_certs() with the encryption (PKCS#8/SEC1 PEM) key.")
  let encKeyPair ← (loadClientKey lib connector encPem).mapError
    fun e ↦ .handshakeFailed ("client enc key load: " ++ e.display)
  let clientEncXy ← uncompressedXy "client enc pub SEC1 must be uncompressed (65 bytes 0x04||X||Y)"
    (encKeyPair.publicKeyBytesUncompressed lib.sm2)
  let serverEncPub ← (extractSm2PubkeyFromCertDer lib encCert).mapError .handshakeFailed
  let serverEncXy ← uncompressedXy "server enc pub SEC1 must be uncompressed (65 bytes 0x04||X||Y)"
    serverEncPub
  let clientEphemeral := lib.sm2.encode (entropy.ephemeral • lib.sm2.generator)
  let clientEphemeralXy ← uncompressedXy
    "client ephemeral SEC1 must be uncompressed (65 bytes 0x04||X||Y)" clientEphemeral
  let params ← required ske.asEcdhe
    "client expected ECDHE ServerKeyExchange but got sig-only Ecc body"
  let serverEphemeralXy ← uncompressedXy
    "server ephemeral SEC1 must be uncompressed (65 bytes 0x04||X||Y)" params.ephemeralPublic
  let zServer ← (sm2ComputeZ lib.sm3 serverEncXy (distidBytes connector.serverEncDistid)).mapError
    fun e ↦ .cipherError ("compute Z_server: " ++ e.display)
  let zClient ← (sm2ComputeZ lib.sm3 clientEncXy (distidBytes connector.clientEncDistid)).mapError
    fun e ↦ .cipherError ("compute Z_client: " ++ e.display)
  let pms ← (computeTlcpEcdhePms lib.sm2 lib.sm3 (encKeyPair.privateKeyBytes lib.sm2)
    clientEphemeralXy (lib.sm2.scalarToBytes entropy.ephemeral)
    serverEncXy serverEphemeralXy zServer
    zClient 48).mapError fun e ↦ .cipherError ("PMS derivation: " ++ e.display)
  .ok { body := .newEcdhe clientEphemeral, pms }

def clientExchange (entropy : ClientEntropy F) (suite : TlcpCipherSuite) (skeBody encCert : Bytes) :
    Except TlcpError (ClientExchange G1) :=
  match suite.keyExchange with
  | .ibc => ibcClientExchange lib connector entropy
  | .ibsdh => ibsdhClientExchange lib connector entropy
  | .rsa => rsaClientExchange lib connector entropy
  | .ecc => eccClientExchange lib entropy encCert
  | .ecdhe => ecdheClientExchange lib connector entropy skeBody encCert

end Ecdhe

def finishIbsdh (state : InitiatorState G1) (raSent skeBody : Bytes) : Except TlcpError Bytes := do
  let ske ← ServerKeyExchangeBody.fromBody skeBody .ibsdh
  match ske.asIbsdh with
  | none => .error (.invalidMessage "SM9 IBSDH verify called on non-IBSDH SKE body")
  | some (raFromSke, rbBytes, sbBytes) => do
    rejectIf (raFromSke ≠ raSent)
      (.handshakeFailed "SM9 IBSDH: SKE's R_A does not match client's R_A")
    let rb ← g1PointFromUncompressed lib rbBytes
    let deA ← required connector.sm9IbsdhDeA ("SM9 IBSDH suite negotiated but " ++
      "TlcpConnector::with_sm9_client_exchange_key(...) was not called")
    let clientId ← required connector.sm9IbsdhClientId "SM9 IBSDH: sm9_ibsdh_client_id missing"
    let serverId ← required connector.sm9ServerId "SM9 IBSDH: sm9_server_id missing"
    (initiatorFinish lib.sm9 lib.sm3 state rb deA clientId serverId 48 sbBytes).mapError
      fun e ↦ .sm2KeyError ("SM9 IBSDH finish: " ++ e.display)

def readDeferredKeyExchange (exchange : ClientExchange G1) : Handshake (Bytes × Bytes) :=
  match exchange.ibsdh with
  | none => pure (exchange.pms, [])
  | some (state, raSent) => do
    let (payload, body) ← readHandshakeMessage
      (fun e ↦ .sm2KeyError ("read deferred SKE (IBSDH): " ++ e)) .serverKeyExchange
      "deferred ServerKeyExchange (IBSDH)"
    let sharedKey ← Proc.check (finishIbsdh lib connector state raSent body)
    pure (sharedKey, payload)

def certificateVerifyMessage (pem : String) (transcript : Bytes) : Except TlcpError Bytes := do
  let keyPair ← loadClientKey lib connector pem
  let distid := connector.clientSignDistid.getD defaultUserId
  let signer ← (Sm2Signer.newWithDistid lib.sm2 keyPair distid).mapError
    fun e ↦ .sm2KeyError ("client signer: " ++ e.debug)
  let signature ← (signer.sign lib.sm2 transcript).mapError fun e ↦
    .sm2KeyError ("CV sign: " ++ e.debug)
  rejectIf (signature.length ≠ 64) (.handshakeFailed "CV signature length != 64")
  let verifier ← (Sm2Verifier.new lib.sm2.toSm2Library (keyPair.publicKeyBytesUncompressed lib.sm2)
    distid).mapError fun e ↦
    .handshakeFailed ("CV self-verify skipped: Sm2Verifier::new failed: " ++ e.debug)
  (verifier.verify lib.sm2.toSm2Library transcript signature).mapError fun e ↦ .handshakeFailed
    ("CV self-verify FAILED locally (" ++ e.debug ++ ") — the signature is " ++
      "not valid for our transcript + key; check distid / pubkey / curve-params agreement")
  .ok (certificateVerifyBytes (sm2SignatureRawToDer signature))

def sendCertificateVerify (signKey : Option String) (transcript : Bytes) : Handshake Bytes :=
  match signKey with
  | none => pure []
  | some pem => do
    let message ← Proc.check (certificateVerifyMessage lib connector pem transcript)
    writeHandshakeRecord (fun e ↦ .sm2KeyError ("write CV: " ++ e)) message
    pure message

def ccsRecord : Bytes := [0x14, 0x01, 0x01, 0x00, 0x01, 0x01]

def parseFinished (who : String) (plaintext : Bytes) : Except TlcpError Finished := do
  let (type, body, _) ← (parseHandshakeMessage plaintext).mapError
    fun e ↦ .handshakeMessageParse ("parse " ++ who ++ " Finished: " ++ e.display)
  rejectIf (type ≠ .finished) (.handshakeFailed ("Expected Finished, got " ++ type.debug))
  Finished.fromBody body

def resumedSession (master : Bytes) (suite : TlcpCipherSuite)
    (clientRandom serverRandom : Octets 32) :
    TlcpResumedSession :=
  { masterSecret := master, cipherSuite := suite.id, serverRandom, clientRandom }

def finishClient (suite : TlcpCipherSuite) (sessionId : Bytes)
    (clientRandom serverRandom : Octets 32)
    (master transcript : Bytes) (iv : Octets 16) : Handshake TlcpStream := do
  Proc.writeAll (parseFailure "write CCS") ccsRecord
  let material ← Proc.check (TlcpKeyMaterial.derive lib.sm3 master clientRandom serverRandom suite)
  let stream := TlcpStream.new material suite true sessionId
  let clientFinished := Finished.compute lib.sm3 master clientFinishedLabel transcript
  Proc.record (.finishedOver transcript)
  let written ← (stream.writeEncryptedRecordWithType lib.sm3 lib.sm4 0x16 clientFinished.toBytes
    iv).attempt
  let stream ← Proc.check (written.mapError fun e ↦ parseFailure "write Finished" e.display)
  Proc.record (.finishedSent clientFinished.toBytes)
  let ccs ← Proc.readExact (parseFailure "read server CCS") 6
  Proc.record (.ccsReceived ccs)
  let read ← (stream.readApplicationData lib.sm3 lib.sm4).attempt
  let (plaintext, stream) ← Proc.check (read.mapError fun e ↦
    parseFailure "read server Finished" e.display)
  let serverFinished ← Proc.check (parseFinished "server" plaintext)
  let transcript := transcript ++ clientFinished.toBytes
  let expected := Finished.compute lib.sm3 master serverFinishedLabel transcript
  Proc.record (.finishedOver transcript)
  Proc.check (rejectIf (serverFinished.verify expected.verifyData = false) (.handshakeFailed
    "server Finished verify_data mismatch (possible handshake tampering)"))
  Proc.record (.finishedReceived plaintext)
  pure { stream with
    cachedResumedSession := some (resumedSession master suite clientRandom serverRandom) }

/-- What the client holds when its Finished is due. -/
structure ClientReady where
  suite : TlcpCipherSuite
  sessionId : Bytes
  serverRandom : Octets 32
  master : Bytes
  transcript : Bytes

/-- The server's first flight: hellos, certificates and the verified ServerKeyExchange. -/
structure ServerFlight where
  hello : ServerHello
  certPair : CertPair
  suite : TlcpCipherSuite
  skeBody : Bytes
  transcript : Bytes

def openHandshake (entropy : ClientEntropy F) (now : Instant) : Handshake ServerFlight := do
  let helloBytes := (clientHello connector entropy.random).toBytes
  writeHandshakeRecord (parseFailure "write ClientHello") helloBytes
  let (hello, shPayload) ← readServerHello
  let (certPair, certPayload) ← readServerCertificate lib connector now
  let suite ← Proc.check (negotiatedSuite hello certPair)
  let (skePayload, skeBody) ← readServerKeyExchange suite
  Proc.check (verifyServerKeyExchange lib connector suite skeBody entropy.random hello.random
    certPair.encCert)
  pure { hello, certPair, suite, skeBody,
         transcript := helloBytes ++ shPayload ++ certPayload ++ skePayload }

variable [DecidableEq F] [DecidableEq P]

def sendClientFlight (entropy : ClientEntropy F) (flight : ServerFlight) :
    Handshake ClientReady := do
  let (requested, shdBytes) ← readServerHelloDone
  let certMessage ← sendClientCertificate connector requested
  let signKey ← Proc.check (requestedSignKey connector requested)
  let exchange ← Proc.check (clientExchange lib connector entropy flight.suite flight.skeBody
    flight.certPair.encCert)
  writeHandshakeRecord (fun e ↦ .handshakeFailed ("write ClientKeyExchange: " ++ e))
    exchange.body.toBytes
  let (pms, deferred) ← readDeferredKeyExchange lib connector exchange
  let transcript := flight.transcript ++ shdBytes ++ certMessage ++ exchange.body.toBytes ++
    deferred
  let verifyMessage ← sendCertificateVerify lib connector signKey transcript
  let master ← Proc.check (masterSecret lib.sm3 pms entropy.random flight.hello.random)
  pure { suite := flight.suite
         sessionId := flight.hello.sessionId
         serverRandom := flight.hello.random
         master
         transcript := transcript ++ verifyMessage }

def connectWithCerts (entropy : ClientEntropy F) (now : Instant) : Handshake TlcpStream := do
  let flight ← openHandshake lib connector entropy now
  let ready ← sendClientFlight lib connector entropy flight
  finishClient lib ready.suite ready.sessionId entropy.random ready.serverRandom ready.master
    ready.transcript entropy.recordIv

end GmStack.Tlcp
