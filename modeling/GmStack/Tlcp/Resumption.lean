import GmStack.Tlcp.Authentication
import GmStack.Tlcp.Secrets

/-! A server that finds the session of a `ClientHello` goes on with a new key exchange.
`derive_session_keys` returns the keys of the original connection. -/

namespace GmStack.Tlcp

open Foundation Crypto List

/-! ### A client with a session -/

/-- `TlcpHandshake` after `new_client_with_session`, without what the resumption does not look at.
-/
structure ResumingClient where
  clientRandom : Octets 32
  sessionId : Bytes
  isResumed : Bool

namespace ResumingClient

def newClientWithSession (session : TlcpResumedSession) (random : Octets 32) : ResumingClient :=
  { clientRandom := random, sessionId := session.serverRandom.bytes.take 16, isResumed := false }

def createClientHello (client : ResumingClient) : ClientHello :=
  { version := tlcpVersion10
    random := client.clientRandom
    sessionId := client.sessionId
    cipherSuites := [TlcpCipherSuite.ecdheSm4GcmSm3.id, TlcpCipherSuite.ecdheSm4CbcSm3.id,
      TlcpCipherSuite.eccSm4GcmSm3.id, TlcpCipherSuite.eccSm4CbcSm3.id]
    compressionMethods := [0x00] }

def processServerHello (client : ResumingClient) (hello : ServerHello) :
    Except TlcpError ResumingClient := do
  rejectIf (hello.version ≠ tlcpVersion10) (.invalidMessage
    ("Unsupported TLCP version: " ++ hexOctetsLower [hello.version.1, hello.version.2]))
  if client.sessionId ≠ [] ∧ hello.sessionId = client.sessionId then
    .ok { client with isResumed := true }
  else .ok { client with isResumed := false, sessionId := hello.sessionId }

end ResumingClient

section Server

variable {F P G1 G2 GT : Type} {acceptor : TlcpAcceptor F G1 G2} {entropy : ServerEntropy F}

def TlcpAcceptor.taken (acceptor : TlcpAcceptor F G1 G2) (hello : ClientHello) :
    Option TlcpResumedSession :=
  if hello.sessionId = [] then none
  else (acceptor.sessionCache hello.sessionId).filter fun session ↦
    hello.cipherSuites.contains session.cipherSuite

def TlcpAcceptor.withMasters (acceptor : TlcpAcceptor F G1 G2) (masters : Bytes → Bytes) :
    TlcpAcceptor F G1 G2 :=
  { acceptor with
    sessionCache := fun id ↦ (acceptor.sessionCache id).map fun session ↦
    { session with masterSecret := masters id } }

lemma processClientHello_withMasters (masters : Bytes → Bytes) (hello : ClientHello) :
    processClientHello (acceptor.withMasters masters) entropy hello =
    processClientHello acceptor entropy hello := by
  simp only [processClientHello, TlcpAcceptor.withMasters]
  split_ifs with hid
  · rfl
  · cases acceptor.sessionCache hello.sessionId with
    | none => rfl
    | some session =>
      by_cases hoffered :
        session.cipherSuite ∈ hello.cipherSuites <;> simp [hoffered, Option.filter]

variable {suite : TlcpCipherSuite}

lemma sessionId_of_processClientHello {hello : ClientHello} {sessionId : Bytes}
    (hprocess : processClientHello acceptor entropy hello = .ok (suite, sessionId)) :
    sessionId = if (acceptor.taken hello).isSome then hello.sessionId
    else entropy.sessionId.bytes := by
  rw [processClientHello, unit_bind_eq_ok] at hprocess
  replace hprocess := hprocess.2
  cases htaken : acceptor.taken hello with
  | some session =>
    rw [TlcpAcceptor.taken] at htaken
    rw [htaken] at hprocess
    obtain ⟨suite, -, hok⟩ := bind_eq_ok.mp hprocess
    exact (Prod.mk.inj (Except.ok.inj hok)).2.symm
  | none =>
    rw [TlcpAcceptor.taken] at htaken
    rw [htaken] at hprocess
    obtain ⟨suite, -, hok⟩ := bind_eq_ok.mp hprocess
    exact (Prod.mk.inj (Except.ok.inj hok)).2.symm

variable [CommRing F] [AddCommGroup P] [Module F P] [DecidableEq F] [DecidableEq P]
  {lib : TlcpLibrary F P G1 G2 GT} {now : X509.Instant} {noted : List TlcpNote}
  {stream : TlcpStream}

lemma acceptWithCerts_withMasters (masters : Bytes → Bytes) :
    acceptWithCerts lib (acceptor.withMasters masters) entropy now =
    acceptWithCerts lib acceptor entropy now := by
  have hopen : openServer lib (acceptor.withMasters masters) entropy =
      openServer lib acceptor entropy := by
    simp only [openServer, processClientHello_withMasters]
    rfl
  rw [acceptWithCerts, hopen]
  rfl

open ResumingClient

/-- The server takes the keys of a connection from no session in its cache, and a client offers the
id its session was stored under only if that is the start of the server's random. -/
theorem resumption_iff (masters : Bytes → Bytes) (random : Octets 32) :
    acceptWithCerts lib (acceptor.withMasters masters) entropy now =
      acceptWithCerts lib acceptor entropy now ∧
    (∀ noted stream, Ends (acceptWithCerts lib acceptor entropy now) noted stream →
      ∃ body hello session, ReceivedAt noted 0 .clientHello body ∧
        ClientHello.fromBody body = .ok hello ∧
        processClientHello acceptor entropy hello = .ok (stream.cipherSuite, stream.sessionId) ∧
        stream.cachedResumedSession = some session ∧
        ((newClientWithSession session random).sessionId = stream.sessionId ↔
          (acceptor.taken hello).isSome ∧ hello.sessionId = entropy.random.bytes.take 16)) ∧
    ∀ session suite sessionId,
      processClientHello acceptor entropy (newClientWithSession session random).createClientHello =
        .ok (suite, sessionId) →
      ∃ client, (newClientWithSession session random).processServerHello
          (serverHello entropy suite sessionId) = .ok client ∧
        client.isResumed =
          (acceptor.taken (newClientWithSession session random).createClientHello).isSome := by
  have hlen : (entropy.random.bytes.take 16).length ≠ entropy.sessionId.bytes.length := by
    rw [length_take, entropy.random.length_bytes, entropy.sessionId.length_bytes]
    decide
  refine ⟨acceptWithCerts_withMasters masters, fun noted stream hends ↦ ?_,
    fun session suite sessionId hprocess ↦ ?_⟩
  · obtain ⟨opened, ready, _, _, _, hopen, -, hfinish, rfl⟩ := ends_acceptWithCerts hends
    obtain ⟨type, payload, body, hello, _, _, hcarry, hparse, -, rfl, -, -, hprocess⟩ :=
      ends_openServer hopen
    obtain ⟨-, material, readSeq, writeSeq, -, rfl⟩ := ends_finishServer hfinish
    refine ⟨body, hello, _, ⟨type, payload, rfl, hcarry⟩, hparse, hprocess, rfl, ?_⟩
    show entropy.random.bytes.take 16 = opened.sessionId ↔ _
    rw [sessionId_of_processClientHello hprocess]
    cases (acceptor.taken hello).isSome with
    | true => simp [eq_comm]
    | false => simpa using fun heq ↦ hlen (congrArg length heq)
  · have hoffered : session.serverRandom.bytes.take 16 ≠ [] := by
      rw [Ne, ← length_eq_zero_iff, length_take, session.serverRandom.length_bytes]
      decide
    have hfresh : entropy.sessionId.bytes ≠ session.serverRandom.bytes.take 16 := by
      intro heq
      have hlengths := congrArg length heq
      rw [entropy.sessionId.length_bytes, length_take,
        session.serverRandom.length_bytes] at hlengths
      cases hlengths
    have hversion : (serverHello entropy suite sessionId).version = tlcpVersion10 := rfl
    rw [processServerHello, rejectIf_ne_bind hversion, sessionId_of_processClientHello hprocess]
    cases (acceptor.taken (newClientWithSession session random).createClientHello).isSome with
    | true => exact ⟨_, if_pos ⟨hoffered, rfl⟩, rfl⟩
    | false => exact ⟨_, if_neg fun hboth ↦ hfresh hboth.2, rfl⟩

/-- A client that offers its session again names another id than the server stored it under. -/
theorem offered_id_not_stored : ∃ stream trace session, Runs miniAccept trace (.ok stream) ∧
    stream.cachedResumedSession = some session ∧
    (newClientWithSession session (.fill 32 0)).sessionId ≠ stream.sessionId := by
  obtain ⟨stream, trace, hrun, hseen, -⟩ := exists_runs_of_feed miniAccept
    (miniClientFlight .rsaSm4GcmSm3 (miniClientHello .rsaSm4GcmSm3) [miniClientKeyExchange])
    (fun stream ↦
      (stream.sessionId, stream.cachedResumedSession.map TlcpResumedSession.serverRandom))
    (replicate 32 4, some (.fill 32 3)) (fun _ ↦ True) (by decide +kernel)
  obtain ⟨hid, hrandom⟩ := Prod.mk.inj hseen
  obtain ⟨session, hsession, hserver⟩ := Option.map_eq_some_iff.mp hrandom
  refine ⟨stream, trace, session, hrun, hsession, ?_⟩
  rw [newClientWithSession, hserver, hid]
  decide

def TlcpStream.sessionKeys (stream : TlcpStream) : Tls.SessionKeys :=
  if stream.isClient then ⟨stream.writeKey, stream.writeNonce, stream.readKey, stream.readNonce⟩
  else ⟨stream.readKey, stream.readNonce, stream.writeKey, stream.writeNonce⟩

def TlcpKeyMaterial.toSessionKeys (material : TlcpKeyMaterial) :
    Except TlcpError Tls.SessionKeys := do
  rejectIf (material.clientEncKey.length ≠ 16 ∨ material.serverEncKey.length ≠ 16)
    (.handshakeFailed "GCM requires 16-byte keys")
  rejectIf (material.clientIv.length ≠ 4 ∨ material.serverIv.length ≠ 4) (.handshakeFailed
    ("GCM requires 4-byte fixed IV (got " ++ toString material.clientIv.length ++ "/" ++
      toString material.serverIv.length ++ ")"))
  .ok ⟨material.clientEncKey, copyIv material.clientIv, material.serverEncKey,
    copyIv material.serverIv⟩

def TlcpResumedSession.deriveSessionKeys (sm3 : Sm3Library) (session : TlcpResumedSession) :
    Except TlcpError Tls.SessionKeys :=
  match TlcpCipherSuite.fromId session.cipherSuite with
  | none => .error (.invalidMessage
      ("Unknown cipher suite " ++ hexOctetsLower [session.cipherSuite.1, session.cipherSuite.2]))
  | some suite => do
    let material ← TlcpKeyMaterial.derive sm3 session.masterSecret session.clientRandom
      session.serverRandom suite
    material.toSessionKeys

lemma deriveSessionKeys_eq_ok_iff {sm3 : Sm3Library} {master : Bytes}
    {clientRandom serverRandom : Octets 32} {material : TlcpKeyMaterial}
    (hderive : TlcpKeyMaterial.derive sm3 master clientRandom serverRandom suite = .ok material) :
    (resumedSession master suite clientRandom serverRandom).deriveSessionKeys sm3 =
        .ok ⟨material.clientEncKey, copyIv material.clientIv, material.serverEncKey,
        copyIv material.serverIv⟩ ↔
      suite.gcm = true := by
  obtain ⟨block, other, -, hother, -, hlengths⟩ :=
    exists_derive_fields sm3 master clientRandom serverRandom suite
  obtain rfl := Except.ok.inj (hderive.symm.trans hother)
  have hkeys : (resumedSession master suite clientRandom serverRandom).deriveSessionKeys sm3 =
      material.toSessionKeys := by
    rw [TlcpResumedSession.deriveSessionKeys, resumedSession, TlcpCipherSuite.fromId_id]
    show TlcpKeyMaterial.derive sm3 master clientRandom serverRandom suite >>= _ = _
    rw [hderive, ok_bind]
  rw [hkeys, TlcpKeyMaterial.toSessionKeys, unit_bind_eq_ok, unit_bind_eq_ok, rejectIf_eq_ok,
    rejectIf_eq_ok]
  cases hgcm : suite.gcm with
  | true =>
    simp only [hgcm, TlcpKeyMaterial.fields, map_cons, map_nil, if_true, cons.injEq] at hlengths
    simp [hlengths]
  | false =>
    simp only [hgcm, TlcpKeyMaterial.fields, map_cons, map_nil, Bool.false_eq_true, if_false,
      cons.injEq] at hlengths
    simp [hlengths]

theorem resumedKeys_repeat_iff {connector : TlcpConnector G1 G2} {clientEntropy : ClientEntropy F}
    (hends : Ends (connectWithCerts lib connector clientEntropy now) noted stream ∨
      Ends (acceptWithCerts lib acceptor entropy now) noted stream) :
    (∃ session, stream.cachedResumedSession = some session ∧
        session.deriveSessionKeys lib.sm3 = .ok stream.sessionKeys) ↔
        stream.cipherSuite.gcm = true := by
  have hkeyed : ∃ master clientRandom serverRandom material,
      TlcpKeyMaterial.derive lib.sm3 master clientRandom serverRandom stream.cipherSuite =
      .ok material ∧
      stream.cachedResumedSession =
        some (resumedSession master stream.cipherSuite clientRandom serverRandom) ∧
      stream.sessionKeys = ⟨material.clientEncKey, copyIv material.clientIv, material.serverEncKey,
        copyIv material.serverIv⟩ := by
    rcases hends with hclient | hserver
    · obtain ⟨flight, ready, _, _, _, -, -, hfinish, -⟩ := ends_connectWithCerts hclient
      obtain ⟨-, material, readSeq, writeSeq, hderive, rfl⟩ := ends_finishClient hfinish
      exact ⟨_, _, _, material, hderive, rfl, rfl⟩
    · obtain ⟨opened, ready, _, _, _, -, -, hfinish, -⟩ := ends_acceptWithCerts hserver
      obtain ⟨-, material, readSeq, writeSeq, hderive, rfl⟩ := ends_finishServer hfinish
      exact ⟨_, _, _, material, hderive, rfl, rfl⟩
  obtain ⟨master, clientRandom, serverRandom, material, hderive, hsession, hkeys⟩ := hkeyed
  rw [hsession, hkeys, ← deriveSessionKeys_eq_ok_iff hderive]
  simp

theorem cbc_session_without_keys : ∃ stream trace, Runs miniAccept trace (.ok stream) ∧
    ¬ ∃ session, stream.cachedResumedSession = some session ∧
      session.deriveSessionKeys miniTlcp.sm3 = .ok stream.sessionKeys := by
  obtain ⟨stream, trace, hrun, hsuite, -⟩ := exists_runs_of_feed miniAccept
    (miniClientFlight .rsaSm4CbcSm3 (miniClientHello .rsaSm4CbcSm3) [miniClientKeyExchange])
    TlcpStream.cipherSuite .rsaSm4CbcSm3 (fun _ ↦ True) (by decide +kernel)
  refine ⟨stream, trace, hrun, fun hkeys ↦ ?_⟩
  have hgcm :=
    (resumedKeys_repeat_iff (.inr hrun.ends : Ends (connectWithCerts miniTlcp (miniConnector [])
    miniClientEntropy 500) (notes trace) stream ∨ _)).mp hkeys
  rw [hsuite] at hgcm
  cases hgcm

theorem gcm_session_repeats_keys : ∃ stream trace, Runs miniAccept trace (.ok stream) ∧
    stream.cipherSuite.gcm = true ∧ (stream.cachedResumedSession.bind fun session ↦
      (session.deriveSessionKeys miniTlcp.sm3).toOption) = some stream.sessionKeys := by
  obtain ⟨stream, trace, hrun, hseen, -⟩ := exists_runs_of_feed miniAccept
    (miniClientFlight .rsaSm4GcmSm3 (miniClientHello .rsaSm4GcmSm3) [miniClientKeyExchange])
    (fun stream ↦ (stream.cipherSuite.gcm, decide ((stream.cachedResumedSession.bind fun session ↦
      (session.deriveSessionKeys miniTlcp.sm3).toOption) = some stream.sessionKeys)))
    (true, true) (fun _ ↦ True) (by decide +kernel)
  obtain ⟨hgcm, hkeys⟩ := Prod.mk.inj hseen
  exact ⟨stream, trace, hrun, hgcm, of_decide_eq_true hkeys⟩

end Server

end GmStack.Tlcp
