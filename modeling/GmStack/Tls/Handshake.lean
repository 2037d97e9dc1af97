import GmStack.Foundation.Process
import GmStack.Tls.Session

/-! The two sides of `gm-tls/src/gm.rs` with the helpers of `handshake.rs`. Each side notes the
messages it exchanges and what it has verified. -/

namespace GmStack.Tls

open Foundation Crypto X509

/-- The standard library's `Duration`. -/
structure Duration where
  secs : ℕ
  nanos : ℕ
  secs_lt : secs < 2 ^ 64
  nanos_lt : nanos < 1000000000

/-- `as_secs() as i64`: the fraction is dropped, and half of the values are negative. -/
def Duration.asSecs (duration : Duration) : ℤ :=
  if duration.secs < 2 ^ 63 then duration.secs else duration.secs - 2 ^ 64

def Duration.asNanos (duration : Duration) : ℤ := duration.secs * 1000000000 + duration.nanos

/-- The times of an `OffsetDateTime`, from the year -9999 to 9999. -/
def Representable (time : Instant) : Prop :=
  -377705116800000000000 ≤ time ∧ time < 253402300800000000000

instance (time : Instant) : Decidable (Representable time) := inferInstanceAs (Decidable (_ ∧ _))

def addSeconds (time : Instant) (seconds : ℤ) : Except TlsError Instant := do
  rejectIf (¬ Representable (time + seconds * 1000000000))
    (.panicked "resulting value is out of range")
  .ok (time + seconds * 1000000000)

/-- `HandshakeOptions`; the timeout belongs to the callers. A configured session store is given by
the result of building it. -/
structure HandshakeOptions where
  sessionTicket : Option SessionTicket
  sessionTicketKey : Option TicketKeySet
  sessionStore : Option (Except TlsError SessionStore)
  crlInfo : Option CrlInfo
  distidPolicy : Option DistidPolicy
  expectedUri : Option String
  sessionTicketFailClosed : Bool
  crlGracePeriod : Duration

def HandshakeOptions.default : HandshakeOptions where
  sessionTicket := none
  sessionTicketKey := none
  sessionStore := none
  crlInfo := none
  distidPolicy := none
  expectedUri := none
  sessionTicketFailClosed := false
  crlGracePeriod := ⟨0, 0, by decide, by decide⟩

/-- The clock during a handshake, as a date and in seconds. -/
structure Clock where
  nowUtc : Instant
  unixSeconds : ℕ

/-- What a side draws at random. -/
structure Entropy (F : Type) where
  scalar : F
  random : Octets 32
  ticketNonce : Octets 12

/-- What a side notes about its run. -/
inductive TlsNote
  | sent (message : Bytes)
  | received (message : Bytes)
  | chainVerified (chain trust : List OwnedCert) (role : CertRole)
  | signatureVerified (publicKey data signature : Bytes)
  deriving DecidableEq

/-- A side of the handshake. -/
abbrev Handshake (α : Type) := Proc TlsNote TlsError α

def versionTls13 : Octets 2 := ⟨[0x03, 0x03], rfl⟩

def writeHandshakeRecord (data : Bytes) (version : Octets 2) : Handshake Unit := do
  Proc.check (rejectIf (data.length > 65535) (.handshakeFailed "record payload too long"))
  Proc.writeAll .ioError [0x16]
  Proc.writeAll .ioError version.bytes
  Proc.writeAll .ioError (beOctets 2 data.length)
  Proc.writeAll .ioError data
  Proc.record (.sent data)

def readHandshakeRecord : Handshake Bytes := do
  let header ← Proc.readExact .ioError 5
  Proc.check (rejectIf (header.head? ≠ some 0x16) (.tlsRecordError
    ("expected handshake content_type 0x16, got 0x" ++ hexOctet (header.headD 0))))
  let payload ← Proc.readExact .ioError (beNat (header.drop 3))
  Proc.record (.received payload)
  pure payload

variable {F P : Type} [CommRing F] [AddCommGroup P] [Module F P] (lib : TlsLibrary F P)

def computeTranscriptHash (chBytes shBytes : Bytes) : Bytes := lib.sm3.hash (chBytes ++ shBytes)

def computeTranscriptHashMulti (slices : List Bytes) : Bytes := lib.sm3.hash slices.flatten

def parseSm2Pubkey (bytes : Bytes) : Except TlsError P := do
  (lib.sm2.encodedPointFromBytes bytes).mapError fun e ↦ .sm2KeyError ("public parse: " ++ e)
  match lib.sm2.decode bytes with
  | some point => .ok point
  | none => .error (.handshakeFailed "invalid public key point")

def signerFromScalar (scalar : F) : Except TlsError (Sm2Signer F) := do
  let keyPair ← (Sm2KeyPair.fromPrivateKeyWithDistid lib.sm2 (lib.sm2.scalarToBytes scalar)
    gmTlsDistid).mapError fun e ↦ .sm2KeyError ("construct: " ++ e.display)
  (Sm2Signer.new lib.sm2 keyPair).mapError fun e ↦ .sm2KeyError ("signer create: " ++ e.display)

def signerFromPemKey (keyPem : Bytes) : Except TlsError (Sm2Signer F) := do
  let pemStr ← (lib.strFromUtf8 keyPem).mapError fun e ↦ .sm2KeyError ("PEM UTF-8: " ++ e)
  let keyPair ← (Sm2KeyPair.fromPrivateKeyPem lib.sm2 pemStr).mapError fun e ↦
    .sm2KeyError ("parse: " ++ e.display)
  (Sm2Signer.new lib.sm2 keyPair).mapError fun e ↦ .sm2KeyError ("signer create: " ++ e.display)

def signFinished (signer : Sm2Signer F) (transcriptHash : Bytes) : Except TlsError Finished := do
  let sig ← (signer.sign lib.sm2 transcriptHash).mapError
    fun e ↦ .handshakeMessageParse ("Finished sign: " ++ e.display)
  .ok ⟨sig⟩

def selectPubkeyForFinished (sh : ServerHello) : Bytes := sh.ephPubkey

def selectClientPubkeyForFinished (ch : ClientHello) : Bytes := ch.ephPubkey

def newVerifier (publicKey : Bytes) (text : String) : Handshake Sm2Verifier :=
  Proc.check ((Sm2Verifier.new lib.sm2.toSm2Library publicKey gmTlsDistid).mapError
    fun e ↦ .handshakeFailed (text ++ e.display))

def verifyNoted (verifier : Sm2Verifier) (data signature : Bytes) (text : String) :
    Handshake Unit := do
  Proc.check ((verifier.verify lib.sm2.toSm2Library data signature).mapError
    fun e ↦ .handshakeMessageParse (text ++ e.display))
  Proc.record (.signatureVerified verifier.publicKey data signature)

def verifyFinished (verifier : Sm2Verifier) (transcriptHash : Bytes) (finished : Finished) :
    Handshake Unit :=
  verifyNoted lib verifier transcriptHash finished.verifyData "Finished verify: "

def readFinished (publicKey transcript : Bytes) (parseText verifierText : String) :
    Handshake Unit := do
  let finishedBuf ← readHandshakeRecord
  let finished ← Proc.check ((Finished.fromBytes finishedBuf).mapError
    fun e ↦ .handshakeMessageParse (parseText ++ e.display))
  let verifier ← newVerifier lib publicKey verifierText
  verifyFinished lib verifier transcript finished

def clientHelloExtensions (pk : Bytes) (alpn : List Bytes) : List ClientHelloExtension :=
  [.supportedVersions versionTls13, .keyShare pk, .alpn alpn]

def buildClientHello (entropy : Entropy F) (alpn : List Bytes) (sni : Option String)
    (ticket : Option SessionTicket) : ClientHello :=
  let pk := lib.sm2.encode (entropy.scalar • lib.sm2.generator)
  { version := versionTls13
    random := entropy.random
    sessionId := []
    cipherSuites := [0xE001]
    compressionMethods := [0x00]
    extensions := clientHelloExtensions pk alpn
    sessionTicket := ticket
    ephPubkey := pk
    alpn := alpn
    sni := sni.map fun name ↦ name.toUTF8.toList }

def buildServerHello (entropy : Entropy F) (alpn : Option Bytes) (certChainPem : Bytes)
    (requireClientAuth : Bool) : ServerHello :=
  let pk := lib.sm2.encode (entropy.scalar • lib.sm2.generator)
  { version := versionTls13
    random := entropy.random
    sessionId := []
    cipherSuite := 0xE001
    compression := 0x00
    extensions := .keyShare pk :: alpn.toList.map .alpn
    ephPubkey := pk
    alpn := alpn
    certChainPem := certChainPem
    requireClientAuth := requireClientAuth }

def selectAlpn (server client : List Bytes) : Option Bytes :=
  client.find? fun proto ↦ server.contains proto

def findCrlIssuer (crl : CrlInfo) (trustAnchors : List OwnedCert) : Except TlsError OwnedCert := do
  let crlIssuerDer ← (crl.issuerDer lib.x509).mapError
    fun e ↦ .crlVerificationFailed ("CRL issuer parse: " ++ e.display)
  search crlIssuerDer trustAnchors
where
  search (crlIssuerDer : Bytes) : List OwnedCert → Except TlsError OwnedCert
    | [] =>
      .error (.crlVerificationFailed ("no trust anchor matches CRL issuer (trust pool size = " ++
          toString trustAnchors.length ++ ")"))
    | anchor :: rest => do
      let anchorCert ← (anchor.asX509 lib.x509).mapError TlsError.ofCrypto
      if anchorCert.subject.raw = crlIssuerDer then .ok anchor else search crlIssuerDer rest

def checkLeafRevocation (opts : HandshakeOptions) (clock : Clock)
    (leafChain trust : List OwnedCert) :
    Except TlsError Unit :=
  match opts.crlInfo with
  | none => .ok ()
  | some crl => do
    let leaf ← match leafChain with
      | leaf :: _ => .ok leaf
      | [] => .error (.panicked "index out of bounds")
    let leafCert ← (leaf.asX509 lib.x509).mapError TlsError.ofCrypto
    let effectiveNow ← addSeconds clock.nowUtc opts.crlGracePeriod.asSecs
    let crlCa ← findCrlIssuer lib crl trust
    let crlCaCert ← (crlCa.asX509 lib.x509).mapError TlsError.ofCrypto
    (verifyCrl lib.x509 lib.sm2.toSm2Library (minimalOctets leafCert.serial)
      leafCert.issuer crlCaCert
      crl effectiveNow).mapError TlsError.ofCrypto

def verifyPeerChain (opts : HandshakeOptions) (clock : Clock) (leafChain trust : List OwnedCert)
    (domain : Option String) (role : CertRole) : Handshake Unit := do
  Proc.check ((verifyCertChainSm2ChainWithDistidPolicy lib.x509 lib.sm2.toSm2Library leafChain trust
    clock.nowUtc domain (some role) (opts.distidPolicy.getD .strict)).mapError TlsError.ofCrypto)
  Proc.record (.chainVerified leafChain trust role)

def checkExpectedUri (opts : HandshakeOptions) (clock : Clock) (leafChain : List OwnedCert) :
    Except TlsError Unit :=
  match opts.expectedUri with
  | none => .ok ()
  | some expectedUri =>
    let leafDer := match leafChain with
      | leaf :: _ => leaf.der
      | [] => []
    (validateUriOnly lib.x509 leafDer expectedUri clock.nowUtc .default).mapError TlsError.ofCrypto

def checkServerCertificate (caPem : Bytes) (domain : Option String) (opts : HandshakeOptions)
    (clock : Clock) (srvCert : ClientCertificate) : Handshake Unit :=
  if caPem = [] then pure ()
  else do
    Proc.check (rejectIf (srvCert.certChainPem = [])
      (.certificateVerificationFailed "server did not provide certificate chain"))
    let leafChain ← Proc.check
      ((OwnedCert.chainFromPemConcat lib.x509 srvCert.certChainPem).mapError TlsError.ofCrypto)
    let trust ← Proc.check
      ((OwnedCert.chainFromPemConcat lib.x509 caPem).mapError TlsError.ofCrypto)
    verifyPeerChain lib opts clock leafChain trust domain .tlcServer
    Proc.check (checkExpectedUri lib opts clock leafChain)
    Proc.check (checkLeafRevocation lib opts clock leafChain trust)

def sendClientCertificate (certPem transcript : Bytes) (signer : Except TlsError (Sm2Signer F)) :
    Handshake Unit :=
  if certPem = [] then pure ()
  else do
    writeHandshakeRecord (ClientCertificate.toBytes ⟨certPem⟩) versionTls13
    let signer ← Proc.check signer
    let finished ← Proc.check (signFinished lib signer transcript)
    writeHandshakeRecord finished.toBytes versionTls13

def clientStream (secrets : HandshakeSecrets) (peerCertPem : Bytes) (alpn : Option Bytes) :
    GmTlsStream :=
  (GmTlsStream.new secrets.sessionKeys true (some peerCertPem) alpn).setTrafficSecrets
    secrets.clientTrafficSecret secrets.serverTrafficSecret

def fullHandshake (certPem caPem : Bytes) (domain : Option String) (alpn : List Bytes)
    (opts : HandshakeOptions) (clock : Clock) (entropy : Entropy F) : Handshake GmTlsStream := do
  let chBytes := (buildClientHello lib entropy alpn domain none).toBytes
  writeHandshakeRecord chBytes versionTls13
  let shBuf ← readHandshakeRecord
  let sh ← Proc.check ((ServerHello.fromBytes shBuf).mapError fun e ↦ .handshakeFailed e.display)
  let helloHash := computeTranscriptHash lib chBytes shBuf
  let srvCertBuf ← readHandshakeRecord
  let srvCert ← Proc.check ((ClientCertificate.fromBytes srvCertBuf).mapError
    fun e ↦ .handshakeMessageParse ("Server Certificate parse: " ++ e.display))
  let certHash := computeTranscriptHashMulti lib [helloHash, srvCertBuf]
  checkServerCertificate lib caPem domain opts clock srvCert
  let cvBuf ← readHandshakeRecord
  let cv ← Proc.check ((CertificateVerify.fromBytes cvBuf).mapError
    fun e ↦ .handshakeMessageParse ("CertificateVerify parse: " ++ e.display))
  let srvCertPubkey ← Proc.check ((extractServerPubkeyForCertVerify lib.x509 lib.sm2.toSm2Library
    srvCert.certChainPem).mapError TlsError.ofCrypto)
  let verifier ← newVerifier lib srvCertPubkey "SM2 verifier creation failed: "
  verifyNoted lib verifier certHash cv.signature "CertificateVerify verify: "
  let transcript := computeTranscriptHashMulti lib [certHash, cvBuf]
  let serverPk ← Proc.check (parseSm2Pubkey lib sh.ephPubkey)
  let secrets ← Proc.check (deriveSessionKeysSm2 lib (entropy.scalar • serverPk))
  readFinished lib (selectPubkeyForFinished sh) transcript "Finished parse: "
    "SM2 verifier creation failed: "
  sendClientCertificate lib certPem transcript (signerFromScalar lib entropy.scalar)
  pure (clientStream secrets srvCert.certChainPem sh.alpn)

def ticketRejectedHandshake (certPem keyPem chBytes shBuf : Bytes) (sh : ServerHello)
    (entropy : Entropy F) : Handshake GmTlsStream := do
  let transcript := computeTranscriptHash lib chBytes shBuf
  let serverPk ← Proc.check (parseSm2Pubkey lib sh.ephPubkey)
  let secrets ← Proc.check (deriveSessionKeysSm2 lib (entropy.scalar • serverPk))
  readFinished lib (selectPubkeyForFinished sh) transcript "Finished parse: "
    "SM2 verifier creation failed: "
  sendClientCertificate lib certPem transcript
    (if keyPem ≠ [] then (signerFromPemKey lib keyPem).mapError
      fun e ↦ .handshakeFailed ("client key parse failed: " ++ e.display)
    else signerFromScalar lib entropy.scalar)
  pure (clientStream secrets sh.certChainPem sh.alpn)

def resumedStream (state : SessionState) (alpn : Option Bytes) : GmTlsStream :=
  let stream := GmTlsStream.new state.sessionKeys true none alpn
  match state.clientTrafficSecret, state.serverTrafficSecret with
  | some clientSecret, some serverSecret => stream.setTrafficSecrets clientSecret serverSecret
  | _, _ => stream

def ticketHandshake (certPem keyPem : Bytes) (domain : Option String) (alpn : List Bytes)
    (ticket : SessionTicket) (state : SessionState) (entropy : Entropy F) :
    Handshake GmTlsStream := do
  let chBytes := (buildClientHello lib entropy alpn domain (some ticket)).toBytes
  writeHandshakeRecord chBytes versionTls13
  let shBuf ← readHandshakeRecord
  let sh ← Proc.check ((ServerHello.fromBytes shBuf).mapError fun e ↦ .handshakeFailed e.display)
  if sh.ephPubkey = [] then pure (resumedStream state sh.alpn)
  else ticketRejectedHandshake lib certPem keyPem chBytes shBuf sh entropy

def HandshakeOptions.buildStore (opts : HandshakeOptions) : Except TlsError SessionStore :=
  opts.sessionStore.getD (.ok .inMemory)

def openTicket (opts : HandshakeOptions) (clock : Clock) :
    Except TlsError (Option (SessionTicket × SessionState)) := do
  let store ← opts.buildStore
  match opts.sessionTicket, opts.sessionTicketKey with
  | some ticket, some ticketKey =>
    match decryptSessionTicket lib ticket ticketKey store clock.unixSeconds with
    | .ok state => .ok (some (ticket, state))
    | .error e =>
      if classifyTicketError e = .tamperedOrForged ∧ opts.sessionTicketFailClosed = true then
        .error (.handshakeFailed ("session ticket rejected (fail-closed): " ++ e.display))
      else .ok none
  | _, _ => .ok none

def connectGmRustInner (certPem keyPem caPem : Bytes) (domain : Option String) (alpn : List Bytes)
    (opts : HandshakeOptions) (clock : Clock) (entropy : Entropy F) : Handshake GmTlsStream := do
  match ← Proc.check (openTicket lib opts clock) with
  | some (ticket, state) => ticketHandshake lib certPem keyPem domain alpn ticket state entropy
  | none => fullHandshake lib certPem caPem domain alpn opts clock entropy

def createTicket (opts : HandshakeOptions) (clock : Clock) (entropy : Entropy F)
    (secrets : HandshakeSecrets) (sh : ServerHello) (ch : ClientHello) (requireClientAuth : Bool) :
    Option SessionTicket :=
  match opts.sessionTicketKey with
  | none => none
  | some ticketKey =>
    let state : SessionState := {
      masterSecret := secrets.masterSecret
      sessionKeys := secrets.sessionKeys
      clientTrafficSecret := some secrets.clientTrafficSecret
      serverTrafficSecret := some secrets.serverTrafficSecret
      serverRandom := sh.random
      clientRandom := ch.random
      alpn := sh.alpn
      lifetimeHint := 3600
      requireClientAuth := requireClientAuth
      createdAt := clock.unixSeconds }
    (encryptSessionTicket lib state ticketKey entropy.ticketNonce).toOption

def sendOptional (transcript : Bytes) (message : Option Bytes) : Handshake Bytes :=
  match message with
  | none => pure transcript
  | some bytes => do
    writeHandshakeRecord bytes versionTls13
    pure (computeTranscriptHashMulti lib [transcript, bytes])

def newSessionTicketMessage : Option SessionTicket → Except TlsError (Option Bytes)
  | none => .ok none
  | some ticket => do
    let ticketBytes ← (lib.serializeTicket ticket).mapError fun e ↦ .handshakeFailed
      (TlsError.serializationFailed ("ticket serialize: " ++
      (TlsError.serializationFailed e).display)).display
    .ok (some (newSessionTicketBytes ticketBytes))

def authenticateClient (caPem transcript : Bytes) (opts : HandshakeOptions) (clock : Clock)
    (ch : ClientHello) : Handshake Bytes := do
  let cliCertBuf ← readHandshakeRecord
  let cliCert ← Proc.check ((ClientCertificate.fromBytes cliCertBuf).mapError
    fun e ↦ .handshakeMessageParse ("ClientCertificate parse: " ++ e.display))
  Proc.check (rejectIf (cliCert.certChainPem = [] ∨ caPem = []) (.certificateVerificationFailed
    "client certificate required but certificate chain or CA is missing"))
  let leafChain ← Proc.check ((OwnedCert.chainFromPemConcat lib.x509 cliCert.certChainPem).mapError
    TlsError.ofCrypto)
  let trust ← Proc.check ((OwnedCert.chainFromPemConcat lib.x509 caPem).mapError TlsError.ofCrypto)
  verifyPeerChain lib opts clock leafChain trust none .tlcClient
  Proc.check (checkLeafRevocation lib opts clock leafChain trust)
  readFinished lib (selectClientPubkeyForFinished ch) transcript "Client Finished parse: "
    "SM2 verifier creation failed(client finished): "
  pure (utf8Lossy cliCert.certChainPem)

def acceptGmRustInnerWithCert (certPem keyPem caPem : Bytes) (requireClientAuth : Bool)
    (alpn : List Bytes) (opts : HandshakeOptions) (clock : Clock) (entropy : Entropy F) :
    Handshake (GmTlsStream × Option Bytes × Option SessionTicket) := do
  let chBuf ← readHandshakeRecord
  let ch ← Proc.check ((ClientHello.fromBytes lib.deserializeTicket chBuf).mapError fun e ↦
    .handshakeFailed e.display)
  let sh := buildServerHello lib entropy (selectAlpn alpn ch.alpn) certPem requireClientAuth
  let clientPk ← Proc.check (parseSm2Pubkey lib ch.ephPubkey)
  let secrets ← Proc.check (deriveSessionKeysSm2 lib (entropy.scalar • clientPk))
  let ticket := createTicket lib opts clock entropy secrets sh ch requireClientAuth
  writeHandshakeRecord sh.toBytes versionTls13
  let nst ← Proc.check (newSessionTicketMessage lib ticket)
  let transcript ← sendOptional lib (computeTranscriptHash lib chBuf sh.toBytes) nst
  let certMessage := if certPem = [] then none else some (ClientCertificate.toBytes ⟨certPem⟩)
  let transcript ← sendOptional lib transcript certMessage
  let signer ← Proc.check ((signerFromPemKey lib keyPem).mapError
    fun e ↦ .sm2KeyError ("server key parse: " ++ e.display))
  let sig ← Proc.check ((signer.sign lib.sm2 transcript).mapError
    fun e ↦ .handshakeMessageParse ("CertificateVerify sign: " ++ e.display))
  let cvBytes := CertificateVerify.toBytes ⟨sig⟩
  writeHandshakeRecord cvBytes versionTls13
  let transcript := computeTranscriptHashMulti lib [transcript, cvBytes]
  let signer ← Proc.check (signerFromScalar lib entropy.scalar)
  let finished ← Proc.check (signFinished lib signer transcript)
  writeHandshakeRecord finished.toBytes versionTls13
  let clientCertPem ←
    if requireClientAuth then do
      let chain ← authenticateClient lib caPem transcript opts clock ch
      pure (some chain)
    else pure none
  let stream := (GmTlsStream.new secrets.sessionKeys false (some []) sh.alpn).setTrafficSecrets
    secrets.serverTrafficSecret secrets.clientTrafficSecret
  pure (stream, clientCertPem, ticket)

end GmStack.Tls
