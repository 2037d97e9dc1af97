import GmStack.Tls.MiniProfile

/-! What a successful run says about its peer. The client's Finished is verified under the key of
the ClientHello, not of the certificate. -/

namespace GmStack.Tls

open Foundation Crypto X509 List

/-! ### Run rules of the helpers -/

variable {F P : Type} [CommRing F] [AddCommGroup P] [Module F P] {lib : TlsLibrary F P}
  {noted : List TlsNote}

section Records

variable {α : Type} {version : Octets 2} {data : Bytes}

lemma ends_writeHandshakeRecord {result : Unit} :
    Ends (writeHandshakeRecord data version) noted result ↔ data.length ≤ 65535 ∧
    noted = [.sent data] := by
  simp [writeHandshakeRecord, ends_bind, and_comm]

lemma ends_readHandshakeRecord {payload : Bytes} : Ends readHandshakeRecord noted payload ↔
      payload.length < 65536 ∧ noted = [.received payload] := by
  simp only [readHandshakeRecord, ends_bind, ends_check, ends_record, ends_readExact, ends_pure,
    rejectIf_eq_ok, not_not]
  constructor
  · rintro ⟨header, _, _, rfl, ⟨hlen, rfl⟩, _, _, _, rfl, ⟨rfl, hhead⟩, answer, _, _, rfl,
      ⟨hans, rfl⟩, _, _, _, rfl, rfl, rfl, rfl⟩
    have hbound := beNat_lt (header.drop 3)
    rw [← hans, length_drop, hlen] at hbound
    exact ⟨hbound, rfl⟩
  rintro ⟨hbound, rfl⟩
  have hlen : beNat (([0x16, 0x03, 0x03] ++ beOctets 2 payload.length).drop 3) = payload.length :=
    beNat_beOctets hbound
  exact ⟨[0x16, 0x03, 0x03] ++ beOctets 2 payload.length, [], _, rfl, ⟨rfl, rfl⟩, (), [], _, rfl,
    ⟨rfl, rfl⟩, payload, [], _, rfl, ⟨hlen.symm, rfl⟩, (), _, [], rfl, rfl, rfl, rfl⟩

@[simp] lemma ends_writeHandshakeRecord_bind
    {next : Unit → Handshake α} {result : α} :
    Ends (writeHandshakeRecord data version >>= next) noted result ↔
      ∃ rest, data.length ≤ 65535 ∧ noted = .sent data :: rest ∧ Ends (next ()) rest result := by
  rw [ends_bind]
  constructor
  · rintro ⟨⟨⟩, before, after, rfl, hwrite, hnext⟩
    obtain ⟨hlen, rfl⟩ := ends_writeHandshakeRecord.mp hwrite
    exact ⟨after, hlen, rfl, hnext⟩
  · rintro ⟨rest, hlen, rfl, hnext⟩
    exact ⟨(), _, rest, rfl, ends_writeHandshakeRecord.mpr ⟨hlen, rfl⟩, hnext⟩

@[simp] lemma ends_readHandshakeRecord_bind {next : Bytes → Handshake α} {result : α} :
    Ends (readHandshakeRecord >>= next) noted result ↔
      ∃ payload rest, payload.length < 65536 ∧ noted = .received payload :: rest ∧
      Ends (next payload) rest result := by
  rw [ends_bind]
  constructor
  · rintro ⟨payload, before, after, rfl, hread, hnext⟩
    obtain ⟨hlen, rfl⟩ := ends_readHandshakeRecord.mp hread
    exact ⟨payload, after, hlen, rfl, hnext⟩
  · rintro ⟨payload, rest, hlen, rfl, hnext⟩
    exact ⟨payload, _, rest, rfl, ends_readHandshakeRecord.mpr ⟨hlen, rfl⟩, hnext⟩

end Records

section Library

variable {verifier : Sm2Verifier} {publicKey : Bytes} {text : String}

lemma ends_newVerifier : Ends (newVerifier lib publicKey text) noted verifier ↔
      noted = [] ∧ lib.sm2.verifyingKeyFromSec1Bytes gmTlsDistid publicKey = .ok () ∧
        verifier = ⟨publicKey, gmTlsDistid⟩ := by
  simp [newVerifier, Sm2Verifier.new_eq_ok]

variable {result : Unit}

lemma ends_verifyNoted {data signature : Bytes} :
    Ends (verifyNoted lib verifier data signature text) noted result ↔
      verifier.verify lib.sm2.toSm2Library data signature = .ok () ∧
        noted = [.signatureVerified verifier.publicKey data signature] := by
  simp only [verifyNoted, ends_check_bind, mapError_eq_ok, ends_record]
  exact Unique.exists_iff

variable (lib) in
/-- The SM2 verification of the signature under the key succeeds. -/
def SignatureValid (key data signature : Bytes) : Prop :=
  (⟨key, gmTlsDistid⟩ : Sm2Verifier).verify lib.sm2.toSm2Library data signature = .ok ()

variable {transcript : Bytes}

lemma ends_readFinished {parseText verifierText : String}
    (hends : Ends (readFinished lib publicKey transcript parseText verifierText) noted result) :
    ∃ message finished, Finished.fromBytes message = .ok finished ∧
      SignatureValid lib publicKey transcript finished.verifyData ∧
      noted = [.received message, .signatureVerified publicKey transcript finished.verifyData] := by
  simp only [readFinished, ends_readHandshakeRecord_bind, ends_check_bind, mapError_eq_ok] at hends
  obtain ⟨message, rest, -, rfl, finished, hparse, hends⟩ := hends
  rw [ends_bind] at hends
  obtain ⟨verifier, before, after, rfl, hnew, hver⟩ := hends
  obtain ⟨rfl, -, rfl⟩ := ends_newVerifier.mp hnew
  obtain ⟨hvalid, rfl⟩ := ends_verifyNoted.mp hver
  exact ⟨message, finished, hparse, hvalid, rfl⟩

variable {clock : Clock} {domain : Option String} {opts : HandshakeOptions}

variable (lib opts clock domain) in
/-- The verification of the chain up to the trust anchors succeeds at the time of the handshake. -/
def ChainValid (chain trust : List OwnedCert) (role : CertRole) : Prop :=
  verifyCertChainSm2ChainWithDistidPolicy lib.x509 lib.sm2.toSm2Library chain trust
    clock.nowUtc domain (some role) (opts.distidPolicy.getD .strict) = .ok ()

lemma ends_verifyPeerChain {leafChain trust : List OwnedCert} {role : CertRole} :
    Ends (verifyPeerChain lib opts clock leafChain trust domain role) noted result ↔
      ChainValid lib clock domain opts leafChain trust role ∧
        noted = [.chainVerified leafChain trust role] := by
  simp only [verifyPeerChain, ends_check_bind, mapError_eq_ok, ends_record]
  exact Unique.exists_iff

variable {certPem : Bytes}

lemma ends_sendClientCertificate {signer : Except TlsError (Sm2Signer F)}
    (hends : Ends (sendClientCertificate lib certPem transcript signer) noted result) :
    ∃ messages : List Bytes, noted = messages.map .sent := by
  unfold sendClientCertificate at hends
  split_ifs at hends with hcert
  · obtain ⟨rfl, -⟩ := ends_pure.mp hends
    exact ⟨[], rfl⟩
  simp only [ends_writeHandshakeRecord_bind, ends_check_bind, ends_writeHandshakeRecord] at hends
  obtain ⟨_, -, rfl, _, -, finished, -, -, rfl⟩ := hends
  exact ⟨[_, finished.toBytes], rfl⟩

variable {caPem : Bytes}

lemma ends_checkServerCertificate {srvCert : ClientCertificate} (hca : caPem ≠ [])
    (hends : Ends (checkServerCertificate lib caPem domain opts clock srvCert) noted result) :
    ∃ chain trust, OwnedCert.chainFromPemConcat lib.x509 srvCert.certChainPem = .ok chain ∧
      OwnedCert.chainFromPemConcat lib.x509 caPem = .ok trust ∧
      ChainValid lib clock domain opts chain trust .tlcServer ∧
      noted = [.chainVerified chain trust .tlcServer] := by
  rw [checkServerCertificate, if_neg hca] at hends
  simp only [ends_check_bind, mapError_eq_ok] at hends
  obtain ⟨-, -, chain, hchain, trust, htrust, hends⟩ := hends
  rw [ends_bind] at hends
  obtain ⟨⟨⟩, before, after, rfl, hver, hends⟩ := hends
  obtain ⟨hverif, rfl⟩ := ends_verifyPeerChain.mp hver
  simp only [ends_check_bind, ends_check] at hends
  obtain ⟨-, -, rfl, -⟩ := hends
  exact ⟨chain, trust, hchain, htrust, hverif, rfl⟩

variable {alpn : List Bytes} {entropy : Entropy F} {stream : GmTlsStream}

lemma ends_fullHandshake (hca : caPem ≠ [])
    (hends : Ends (fullHandshake lib certPem caPem domain alpn opts clock entropy) noted stream) :
    ∃ ch shBuf certBuf cvBuf rest srvCert chain trust cv leafKey,
    ClientCertificate.fromBytes certBuf = .ok srvCert ∧
      OwnedCert.chainFromPemConcat lib.x509 srvCert.certChainPem = .ok chain ∧
      OwnedCert.chainFromPemConcat lib.x509 caPem = .ok trust ∧
      ChainValid lib clock domain opts chain trust .tlcServer ∧
      CertificateVerify.fromBytes cvBuf = .ok cv ∧
      extractServerPubkeyForCertVerify lib.x509 lib.sm2.toSm2Library srvCert.certChainPem =
      .ok leafKey ∧
      SignatureValid lib leafKey (computeTranscriptHashMulti lib
        [computeTranscriptHash lib ch shBuf, certBuf]) cv.signature ∧
      noted = [.sent ch, .received shBuf, .received certBuf, .chainVerified chain trust .tlcServer,
        .received cvBuf, .signatureVerified leafKey (computeTranscriptHashMulti lib
          [computeTranscriptHash lib ch shBuf, certBuf]) cv.signature] ++ rest := by
  simp only [fullHandshake, ends_writeHandshakeRecord_bind, ends_readHandshakeRecord_bind,
    ends_check_bind, mapError_eq_ok] at hends
  obtain ⟨_, -, rfl, shBuf, _, -, rfl, sh, -, certBuf, _, -, rfl, srvCert, hcert, hends⟩ := hends
  rw [ends_bind] at hends
  obtain ⟨⟨⟩, before, after, rfl, hcheck, hends⟩ := hends
  obtain ⟨chain, trust, hchain, htrust, hvalid, rfl⟩ := ends_checkServerCertificate hca hcheck
  simp only [ends_readHandshakeRecord_bind, ends_check_bind, mapError_eq_ok] at hends
  obtain ⟨cvBuf, _, -, rfl, cv, hcv, leafKey, hkey, hends⟩ := hends
  rw [ends_bind] at hends
  obtain ⟨verifier, before, after, rfl, hnew, hends⟩ := hends
  obtain ⟨rfl, -, rfl⟩ := ends_newVerifier.mp hnew
  rw [ends_bind] at hends
  obtain ⟨⟨⟩, before, after, rfl, hver, hends⟩ := hends
  obtain ⟨hsigned, rfl⟩ := ends_verifyNoted.mp hver
  exact ⟨_, shBuf, certBuf, cvBuf, after, srvCert, chain, trust, cv, leafKey, hcert, hchain, htrust,
    hvalid, hcv, hkey, hsigned, rfl⟩

variable {keyPem : Bytes} {chBytes shBuf : Bytes} {sh : ServerHello}

lemma ends_ticketRejectedHandshake
    (hends : Ends (ticketRejectedHandshake lib certPem keyPem chBytes shBuf sh entropy)
    noted stream) :
    ∃ message signature, ∃ sent : List Bytes, noted = .received message ::
    .signatureVerified sh.ephPubkey
        (computeTranscriptHash lib chBytes shBuf) signature :: sent.map .sent := by
  simp only [ticketRejectedHandshake, ends_check_bind] at hends
  obtain ⟨_, -, _, -, hends⟩ := hends
  rw [ends_bind] at hends
  obtain ⟨⟨⟩, before, after, rfl, hfin, hends⟩ := hends
  obtain ⟨message, finished, -, -, rfl⟩ := ends_readFinished hfin
  rw [ends_bind] at hends
  obtain ⟨⟨⟩, before, after, rfl, hsend, hends⟩ := hends
  obtain ⟨sent, rfl⟩ := ends_sendClientCertificate hsend
  obtain ⟨rfl, -⟩ := ends_pure.mp hends
  exact ⟨message, finished.verifyData, sent, by simp [selectPubkeyForFinished]⟩

def messages (noted : List TlsNote) : List Bytes :=
  noted.filterMap fun note ↦
    match note with
    | .sent message => some message
    | .received message => some message
    | _ => none

def receivedMessages (noted : List TlsNote) : List Bytes :=
  noted.filterMap fun note ↦
    match note with
    | .received message => some message
    | _ => none

variable (lib)

def extendTranscript (hash : Bytes) (rest : List Bytes) : Bytes :=
  rest.foldl (fun hash message ↦ computeTranscriptHashMulti lib [hash, message]) hash

def transcriptHash : List Bytes → Option Bytes
  | ch :: sh :: rest => some (extendTranscript lib (computeTranscriptHash lib ch sh) rest)
  | _ => none

/-- The options hold a ticket that decrypts to a state. -/
def TicketDecrypts (opts : HandshakeOptions) (clock : Clock) (state : SessionState) : Prop :=
  ∃ ticket ticketKey store, opts.sessionTicket = some ticket ∧
    opts.sessionTicketKey = some ticketKey ∧ opts.buildStore = .ok store ∧
      decryptSessionTicket lib ticket ticketKey store clock.unixSeconds = .ok state

def serverHelloOf (noted : List TlsNote) : Option ServerHello :=
  (receivedMessages noted).head?.bind fun message ↦ (ServerHello.fromBytes message).toOption

/-- The keys of the stream come from a ticket that decrypts, and the server answered with an empty
ephemeral key. -/
def Resumed (opts : HandshakeOptions) (clock : Clock) (stream : GmTlsStream)
    (noted : List TlsNote) : Prop :=
  ∃ state sh, TicketDecrypts lib opts clock state ∧ serverHelloOf noted = some sh ∧
    sh.ephPubkey = [] ∧ stream = resumedStream state sh.alpn

/-- The chain came in a message of the run, its verification against the anchors succeeds, and it
took place in the run. -/
def AcceptedChain (clock : Clock) (domain : Option String) (opts : HandshakeOptions) (caPem : Bytes)
    (role : CertRole) (noted : List TlsNote) (chain : List OwnedCert) : Prop :=
  ∃ message cert trust, .received message ∈ noted ∧ ClientCertificate.fromBytes message = .ok cert ∧
    OwnedCert.chainFromPemConcat lib.x509 cert.certChainPem = .ok chain ∧
    OwnedCert.chainFromPemConcat lib.x509 caPem = .ok trust ∧
    ChainValid lib clock domain opts chain trust role ∧ .chainVerified chain trust role ∈ noted

/-- The public key of the first certificate of a chain. -/
def LeafKey (chain : List OwnedCert) (key : Bytes) : Prop :=
  ∃ leaf rest leafCert, chain = leaf :: rest ∧ leaf.asX509 lib.x509 = .ok leafCert ∧
    sm2PubKey lib.sm2.toSm2Library certificateTexts leafCert = .ok key

/-- The server's chain was accepted, and the signature of a message it sent was verified under the
leaf's key over the transcript of the messages before. -/
def ServerAuthenticated (clock : Clock) (domain : Option String) (opts : HandshakeOptions)
    (caPem : Bytes) (noted : List TlsNote) : Prop :=
  ∃ before message cv data leafKey after chain,
    AcceptedChain lib clock domain opts caPem .tlcServer before chain ∧
    LeafKey lib chain leafKey ∧ CertificateVerify.fromBytes message = .ok cv ∧
    transcriptHash lib (messages before) = some data ∧
      SignatureValid lib leafKey data cv.signature ∧
    noted = before ++ .received message :: .signatureVerified leafKey data cv.signature :: after

/-- The client's chain was accepted, and the signature of its Finished was verified under the leaf's
key over the transcript of the first messages. -/
def ClientAuthenticated (clock : Clock) (opts : HandshakeOptions) (caPem : Bytes)
    (noted : List TlsNote) : Prop :=
  ∃ message finished count data leafKey chain,
    AcceptedChain lib clock none opts caPem .tlcClient noted chain ∧
    LeafKey lib chain leafKey ∧ .received message ∈ noted ∧ Finished.fromBytes message =
      .ok finished ∧
    transcriptHash lib ((messages noted).take count) = some data ∧
    SignatureValid lib leafKey data finished.verifyData ∧
    .signatureVerified leafKey data finished.verifyData ∈ noted

variable {lib} {state : SessionState}

lemma openTicket_eq_ok_some {ticket : SessionTicket}
    (hopen : openTicket lib opts clock = .ok (some (ticket, state))) :
    TicketDecrypts lib opts clock state := by
  obtain ⟨store, hstore, hopen⟩ := bind_eq_ok.mp hopen
  split at hopen
  · rename_i found ticketKey hticket hkey
    cases hdec : decryptSessionTicket lib found ticketKey store clock.unixSeconds with
    | ok opened =>
      simp only [hdec, Except.ok.injEq, Option.some.injEq, Prod.mk.injEq] at hopen
      exact ⟨found, ticketKey, store, hticket, hkey, hstore, hopen.2 ▸ hdec⟩
    | error e =>
      simp only [hdec] at hopen
      split_ifs at hopen
      cases hopen
  · cases hopen

lemma openTicket_of_ticketDecrypts (hticket : TicketDecrypts lib opts clock state) :
    ∃ ticket, openTicket lib opts clock = .ok (some (ticket, state)) := by
  obtain ⟨ticket, ticketKey, store, hfound, hkey, hstore, hdec⟩ := hticket
  refine ⟨ticket, ?_⟩
  rw [openTicket, hstore, ok_bind, hfound, hkey]
  simp only [hdec]

lemma serverAuthenticated_of_fullHandshake (hca : caPem ≠ [])
    (hends : Ends (fullHandshake lib certPem caPem domain alpn opts clock entropy) noted stream) :
    ServerAuthenticated lib clock domain opts caPem noted := by
  obtain ⟨ch, shBuf, certBuf, cvBuf, rest, srvCert, chain, trust, cv, leafKey,
    hcert, hchain, htrust,
    hvalid, hcv, hkey, hsigned, rfl⟩ := ends_fullHandshake hca hends
  obtain ⟨leaf, others, leafCert, hleaf, hparse, hpub⟩ :=
    extractServerPubkeyForCertVerify_eq_ok hkey
  rw [hchain, Except.ok.injEq] at hleaf
  refine ⟨[.sent ch, .received shBuf, .received certBuf, .chainVerified chain trust .tlcServer],
    cvBuf, cv, _, leafKey, rest, chain, ?_, ⟨leaf, others, leafCert, hleaf, hparse, hpub⟩, hcv, rfl,
    hsigned, rfl⟩
  exact ⟨certBuf, srvCert, trust, by simp, hcert, hchain, htrust, hvalid, by simp⟩

lemma ServerAuthenticated.chainVerified_mem
    (hsrv : ServerAuthenticated lib clock domain opts caPem noted) :
    ∃ chain trust, .chainVerified chain trust .tlcServer ∈ noted := by
  obtain ⟨before, _, _, _, _, after, chain, ⟨_, _, trust, -, -, -, -, -, hmem⟩, -, -, -, -, rfl⟩ :=
    hsrv
  exact ⟨chain, trust, mem_append_left _ hmem⟩

lemma not_serverAuthenticated_of_ticketRejected
    (hends : Ends (ticketRejectedHandshake lib certPem keyPem chBytes shBuf sh entropy)
    noted stream) :
    ¬ ServerAuthenticated lib clock domain opts caPem (.sent chBytes :: .received shBuf ::
    noted) := by
  obtain ⟨message, signature, sent, rfl⟩ := ends_ticketRejectedHandshake hends
  intro hsrv
  obtain ⟨chain, trust, hmem⟩ := hsrv.chainVerified_mem
  simp at hmem

/-- **Server authentication.** A client has resumed a session or authenticated the server, unless
its ticket decrypts and the server answers with a key. -/
theorem connect_authenticated_iff {certPem keyPem caPem : Bytes} {domain : Option String}
    {alpn : List Bytes} {opts : HandshakeOptions} {clock : Clock} {entropy : Entropy F}
    {trace : List (Event TlsNote)} {stream : GmTlsStream} (hca : caPem ≠ [])
    (hrun : Runs (connectGmRustInner lib certPem keyPem caPem domain alpn opts clock entropy)
    trace (.ok stream)) :
    (Resumed lib opts clock stream (notes trace) ∨
      ServerAuthenticated lib clock domain opts caPem (notes trace)) ↔
      ∀ state sh, TicketDecrypts lib opts clock state → serverHelloOf (notes trace) = some sh →
      sh.ephPubkey = [] := by
  have hends := hrun.ends
  rw [connectGmRustInner, ends_check_bind] at hends
  obtain ⟨opened, hopen, hends⟩ := hends
  cases opened with
  | none =>
    -- no ticket decrypts, so the client makes a full handshake
    refine iff_of_true (.inr (serverAuthenticated_of_fullHandshake hca hends)) ?_
    intro state sh hticket
    obtain ⟨ticket, hsome⟩ := openTicket_of_ticketDecrypts hticket
    rw [hopen] at hsome
    cases hsome
  | some found =>
    obtain ⟨ticket, state⟩ := found
    have hticket := openTicket_eq_ok_some hopen
    simp only [ticketHandshake, ends_writeHandshakeRecord_bind, ends_readHandshakeRecord_bind,
      ends_check_bind, mapError_eq_ok] at hends
    obtain ⟨_, -, hnoted, shBuf, rest, -, rfl, sh, hparse, hends⟩ := hends
    have hhello : serverHelloOf (notes trace) = some sh := by
      simp [hnoted, serverHelloOf, receivedMessages, hparse, Except.toOption]
    by_cases hempty : sh.ephPubkey = []
    · rw [if_pos hempty, ends_pure] at hends
      refine iff_of_true (.inl ⟨state, sh, hticket, hhello, hempty, hends.2⟩) ?_
      intro _ other _ hother
      rw [hhello, Option.some.injEq] at hother
      exact hother ▸ hempty
    rw [if_neg hempty] at hends
    refine iff_of_false ?_ fun hall ↦ hempty (hall state sh hticket hhello)
    rintro (⟨_, other, -, hother, hnone, -⟩ | hserver)
    · rw [hhello, Option.some.injEq] at hother
      exact hempty (hother ▸ hnone)
    · rw [hnoted] at hserver
      exact not_serverAuthenticated_of_ticketRejected hends hserver

/-- A client without a ticket authenticates an honest server. -/
theorem connect_authenticated_honest :
    ∃ stream trace, Runs (miniConnect .default) trace (.ok stream) ∧
      (Resumed miniTls .default miniClock stream (notes trace) ∨
        ServerAuthenticated miniTls miniClock none .default miniRoot (notes trace)) := by
  obtain ⟨stream, trace, hrun, -⟩ := exists_runs_of_feed (miniConnect .default) miniServerFlight
    (fun _ ↦ ()) () (fun _ ↦ True) (by decide +kernel)
  refine ⟨stream, trace, hrun, (connect_authenticated_iff (by decide) hrun).mpr ?_⟩
  rintro _ _ ⟨_, _, _, hticket, -⟩
  cases hticket

/-- A server that answers a ticket with a key of its own is accepted without a certificate. -/
theorem connect_accepts_unauthenticated :
    ∃ stream trace, Runs (miniConnect miniTicketOptions) trace (.ok stream) ∧
      ¬ (Resumed miniTls miniTicketOptions miniClock stream (notes trace) ∨
        ServerAuthenticated miniTls miniClock none miniTicketOptions miniRoot (notes trace)) := by
  obtain ⟨stream, trace, hrun, -, hnoted, hkey⟩ :=
    exists_runs_of_feed (miniConnect miniTicketOptions)
    miniRejectingFlight (fun _ ↦ ()) () (fun noted ↦ noted =
      [.sent (miniClientHello 4), .received (miniServerHello 5), .received (miniFinished 5),
        .signatureVerified (0x04 :: replicate 64 5)
          (computeTranscriptHash miniTls (miniClientHello 4) (miniServerHello 5))
          (replicate 64 5)] ∧
      (serverHelloOf noted).map ServerHello.ephPubkey = some (0x04 :: replicate 64 5))
    (by decide +kernel)
  refine ⟨stream, trace, hrun, ?_⟩
  rintro (⟨_, sh, -, hhello, hempty, -⟩ | hserver)
  · rw [hhello, Option.map_some, hempty] at hkey
    cases hkey
  obtain ⟨chain, trust, hmem⟩ := hserver.chainVerified_mem
  rw [hnoted] at hmem
  simp at hmem

/-! ### The server's authentication of the client -/

lemma ends_sendOptional {hash : Bytes} {message : Option Bytes}
    (hends : Ends (sendOptional lib transcript message) noted hash) :
    noted = message.toList.map .sent ∧ hash = extendTranscript lib transcript message.toList := by
  cases message with
  | none => exact ends_pure.mp hends
  | some bytes =>
    simp only [sendOptional, ends_writeHandshakeRecord_bind, ends_pure] at hends
    obtain ⟨_, -, rfl, rfl, rfl⟩ := hends
    exact ⟨rfl, rfl⟩

lemma extendTranscript_append (hash : Bytes) (first second : List Bytes) :
    extendTranscript lib hash (first ++ second) = extendTranscript lib
    (extendTranscript lib hash first) second :=
  foldl_append

lemma ends_authenticateClient {ch : ClientHello}
    (hends : Ends (authenticateClient lib caPem transcript opts clock ch) noted certPem) :
    ∃ certBuf finishedBuf cert chain trust finished, ClientCertificate.fromBytes certBuf =
    .ok cert ∧
      OwnedCert.chainFromPemConcat lib.x509 cert.certChainPem = .ok chain ∧
      OwnedCert.chainFromPemConcat lib.x509 caPem = .ok trust ∧
      ChainValid lib clock none opts chain trust .tlcClient ∧ Finished.fromBytes finishedBuf =
      .ok finished ∧
      SignatureValid lib ch.ephPubkey transcript finished.verifyData ∧
      noted = [.received certBuf, .chainVerified chain trust .tlcClient, .received finishedBuf,
        .signatureVerified ch.ephPubkey transcript finished.verifyData] := by
  simp only [authenticateClient, ends_readHandshakeRecord_bind, ends_check_bind,
    mapError_eq_ok] at hends
  obtain ⟨certBuf, _, -, rfl, cert, hcert, _, -, chain, hchain, trust, htrust, hends⟩ := hends
  rw [ends_bind] at hends
  obtain ⟨⟨⟩, _, _, rfl, hver, hends⟩ := hends
  obtain ⟨hvalid, rfl⟩ := ends_verifyPeerChain.mp hver
  rw [ends_check_bind] at hends
  obtain ⟨_, -, hends⟩ := hends
  rw [ends_bind] at hends
  obtain ⟨⟨⟩, _, _, rfl, hfin, hends⟩ := hends
  obtain ⟨finishedBuf, finished, hparse, hsigned, rfl⟩ := ends_readFinished hfin
  obtain ⟨rfl, -⟩ := ends_pure.mp hends
  exact ⟨certBuf, finishedBuf, cert, chain, trust, finished, hcert, hchain, htrust, hvalid,
    hparse, hsigned, rfl⟩

lemma ends_acceptGmRustInnerWithCert {accepted : GmTlsStream × Option Bytes × Option SessionTicket}
    (hends : Ends (acceptGmRustInnerWithCert lib certPem keyPem caPem true alpn opts clock entropy)
    noted accepted) :
    ∃ chBuf ch shBuf rest finishedBytes clientPem clientNotes,
      ClientHello.fromBytes lib.deserializeTicket chBuf = .ok ch ∧
      Ends (authenticateClient lib caPem
        (extendTranscript lib (computeTranscriptHash lib chBuf shBuf) rest) opts clock ch)
        clientNotes clientPem ∧
      noted = .received chBuf :: .sent shBuf :: rest.map .sent ++ .sent finishedBytes ::
        clientNotes := by
  simp only [acceptGmRustInnerWithCert, ends_readHandshakeRecord_bind,
    ends_writeHandshakeRecord_bind, ends_check_bind, mapError_eq_ok] at hends
  obtain ⟨chBuf, _, -, rfl, ch, hparse, _, -, _, -, _, -, rfl, nst, -, hends⟩ := hends
  rw [ends_bind] at hends
  obtain ⟨afterTicket, _, _, rfl, hticket, hends⟩ := hends
  obtain ⟨rfl, rfl⟩ := ends_sendOptional hticket
  rw [ends_bind] at hends
  obtain ⟨afterCert, _, _, rfl, hcert, hends⟩ := hends
  obtain ⟨rfl, rfl⟩ := ends_sendOptional hcert
  simp only [ends_writeHandshakeRecord_bind, ends_check_bind, mapError_eq_ok] at hends
  obtain ⟨_, -, sig, -, _, -, rfl, _, -, finished, -, _, -, rfl, hends⟩ := hends
  rw [if_pos trivial, ends_bind] at hends
  obtain ⟨clientPem, clientNotes, _, rfl, hcli, hends⟩ := hends
  simp only [ends_bind, ends_pure] at hends
  obtain ⟨_, _, _, rfl, ⟨rfl, -⟩, rfl, -⟩ := hends
  refine ⟨chBuf, ch, (buildServerHello lib entropy (selectAlpn alpn ch.alpn) certPem true).toBytes,
    nst.toList ++ (if certPem = [] then none else
    some (ClientCertificate.toBytes ⟨certPem⟩)).toList ++ [CertificateVerify.toBytes ⟨sig⟩],
    finished.toBytes, clientPem, clientNotes, hparse, ?_, ?_⟩
  · rwa [extendTranscript_append, extendTranscript_append]
  · simp

variable (lib) in
/-- The key of the client's hello is the public key of the first certificate of its chain. -/
def HelloKeyIsLeafKey (noted : List TlsNote) : Prop :=
  ∃ helloBuf certBuf rest hello cert chain, receivedMessages noted = helloBuf :: certBuf :: rest ∧
    ClientHello.fromBytes lib.deserializeTicket helloBuf = .ok hello ∧
    ClientCertificate.fromBytes certBuf = .ok cert ∧
    OwnedCert.chainFromPemConcat lib.x509 cert.certChainPem = .ok chain ∧
      LeafKey lib chain hello.ephPubkey

lemma messages_append (first second : List TlsNote) :
    messages (first ++ second) = messages first ++ messages second := filterMap_append

lemma receivedMessages_append (first second : List TlsNote) :
    receivedMessages (first ++ second) = receivedMessages first ++ receivedMessages second :=
  filterMap_append

lemma receivedMessages_sent (sent : List Bytes) : receivedMessages (sent.map .sent) = [] := by
  induction sent with
  | nil => rfl
  | cons _ _ ih => exact ih

lemma messages_sent (sent : List Bytes) : messages (sent.map .sent) = sent := by
  induction sent with
  | nil => rfl
  | cons message rest ih => exact congrArg (message :: ·) ih

/-- **Client authentication.** The server has authenticated the client exactly when the client's
hello carries the key of the first certificate of its chain. -/
theorem accept_authenticated_iff {certPem keyPem caPem : Bytes} {alpn : List Bytes}
    {opts : HandshakeOptions} {clock : Clock} {entropy : Entropy F} {trace : List (Event TlsNote)}
    {accepted : GmTlsStream × Option Bytes × Option SessionTicket}
    (hrun : Runs (acceptGmRustInnerWithCert lib certPem keyPem caPem true alpn opts clock entropy)
    trace (.ok accepted)) :
    ClientAuthenticated lib clock opts caPem (notes trace) ↔
    HelloKeyIsLeafKey lib (notes trace) := by
  obtain ⟨chBuf, ch, shBuf, rest, finishedBytes, clientPem, clientNotes, hhello, hclient, hnoted⟩ :=
    ends_acceptGmRustInnerWithCert hrun.ends
  obtain ⟨certBuf, finishedBuf, cert, chain, trust, finished, hcert, hchain, htrust, hvalid,
    hfinished, hsigned, rfl⟩ := ends_authenticateClient hclient
  have hreceived : receivedMessages (notes trace) = [chBuf, certBuf, finishedBuf] := by
    rw [hnoted, receivedMessages_append]
    exact congrArg (fun before ↦ chBuf :: before ++ [certBuf, finishedBuf])
      (receivedMessages_sent rest)
  have hmessages : messages (notes trace) = chBuf :: shBuf :: rest ++
      [finishedBytes, certBuf, finishedBuf] := by
    rw [hnoted, messages_append]
    exact congrArg (fun sent ↦ chBuf :: shBuf :: sent ++ [finishedBytes, certBuf, finishedBuf])
      (messages_sent rest)
  constructor
  · rintro ⟨_, _, _, _, leafKey, other, ⟨_, _, _, -, -, -, -, -, hverified⟩, hleaf,
      -, -, -, -, hsignature⟩
    simp only [hnoted, mem_cons, mem_append, mem_map, TlsNote.chainVerified.injEq,
      TlsNote.signatureVerified.injEq, reduceCtorEq, and_false, exists_false, false_or, or_false,
      not_mem_nil] at hverified hsignature
    obtain ⟨rfl, -⟩ := hverified
    obtain ⟨rfl, -⟩ := hsignature
    exact ⟨chBuf, certBuf, _, ch, cert, _, hreceived, hhello, hcert, hchain, hleaf⟩
  rintro ⟨_, _, _, hello, other, found, hlist, hparse, hother, hfound, hleaf⟩
  simp only [hreceived, cons.injEq] at hlist
  obtain ⟨rfl, rfl, rfl⟩ := hlist
  rw [hhello, Except.ok.injEq] at hparse
  rw [hcert, Except.ok.injEq] at hother
  subst hparse hother
  rw [hchain, Except.ok.injEq] at hfound
  subst hfound
  have hcount : (messages (notes trace)).take (rest.length + 2) = chBuf :: shBuf :: rest := by
    rw [hmessages]
    exact take_left' rfl
  refine ⟨finishedBuf, finished, rest.length + 2, _, ch.ephPubkey, chain,
    ⟨certBuf, cert, trust, ?_, hcert, hchain, htrust, hvalid, ?_⟩, hleaf, ?_, hfinished,
    by rw [hcount, transcriptHash], hsigned, ?_⟩
  all_goals simp [hnoted]

/-- A client whose hello carries the key of its certificate is authenticated. -/
theorem accept_authenticated_same_key : ∃ accepted trace, Runs miniAccept trace (.ok accepted) ∧
      ClientAuthenticated miniTls miniClock .default miniRoot (notes trace) := by
  obtain ⟨accepted, trace, hrun, -, hreceived⟩ :=
    exists_runs_of_feed miniAccept (miniClientFlight 2)
    (fun _ ↦ ()) () (fun noted ↦ receivedMessages noted =
      [miniClientHello 2, ClientCertificate.toBytes ⟨miniLeaf 2⟩, miniFinished 2])
      (by decide +kernel)
  refine ⟨accepted, trace, hrun, (accept_authenticated_iff hrun).mpr ?_⟩
  have hsent : (ClientHello.fromBytes miniTls.deserializeTicket (miniClientHello 2)).toOption.map
      ClientHello.ephPubkey = some (0x04 :: replicate 64 2) := by
    decide +kernel
  obtain ⟨hello, hhello, hkey⟩ := Option.map_eq_some_iff.mp hsent
  have hparse := toOption_eq_some.mp hhello
  exact ⟨_, _, _, hello, ⟨miniLeaf 2⟩, [⟨miniLeaf 2⟩], hreceived, hparse, by decide, rfl,
    ⟨miniLeaf 2⟩, [], miniParsed 3 2 0 7 3, rfl, rfl, hkey ▸ sm2PubKey_miniParsed _ _ _ _ _ _⟩

/-- A client that shows the certificate of another party and signs with a key of its own is
accepted. -/
theorem accept_accepts_replayed_certificate : ∃ accepted trace,
    Runs miniAccept trace (.ok accepted) ∧
      ¬ ClientAuthenticated miniTls miniClock .default miniRoot (notes trace) := by
  -- the only chain is that of the subject `2`, the only key that of the secret `5`
  obtain ⟨accepted, trace, hrun, -, hall⟩ := exists_runs_of_feed miniAccept (miniClientFlight 5)
    (fun _ ↦ ()) () (fun noted ↦ noted.all (fun note ↦
      match note with
      | .chainVerified chain _ _ => chain == [⟨miniLeaf 2⟩]
      | .signatureVerified key _ _ => key == 0x04 :: replicate 64 5
      | _ => true) = true) (by decide +kernel)
  refine ⟨accepted, trace, hrun, ?_⟩
  rintro ⟨_, _, _, _, leafKey, chain, ⟨_, _, _, -, -, -, -, -, hverified⟩,
    ⟨leaf, rest, leafCert, hchain, hparse, hkey⟩, -, -, -, -, hsignature⟩
  have hleaf : chain = [⟨miniLeaf 2⟩] := eq_of_beq (all_eq_true.mp hall _ hverified)
  have hsigner : leafKey = 0x04 :: replicate 64 5 :=
    eq_of_beq (all_eq_true.mp hall _ hsignature)
  obtain ⟨rfl, -⟩ := cons.inj (hchain.symm.trans hleaf)
  obtain rfl : miniParsed 3 2 0 7 3 = leafCert := Except.ok.inj hparse
  have hpub := (sm2PubKey_miniParsed _ _ _ _ _ _).symm.trans hkey
  exact absurd (hsigner ▸ Except.ok.inj hpub) (by decide)

end Library

section GracePeriod

/-- The checks of a leaf against a revocation list, its freshness apart. -/
def LeafUnrevoked (lib : TlsLibrary F P) (crl : CrlInfo) (leaf : OwnedCert)
    (trust : List OwnedCert) : Prop :=
  ∃ leafCert, leaf.asX509 lib.x509 = .ok leafCert ∧ ∃ ca, findCrlIssuer lib crl trust = .ok ca ∧
    ∃ caCert, ca.asX509 lib.x509 = .ok caCert ∧ crl.issuerDer lib.x509 = .ok leafCert.issuer.raw ∧
      verifyCrlSignatureWithDistid lib.x509 lib.sm2.toSm2Library crl caCert .strict = .ok () ∧
        crl.isCertRevoked lib.x509 (minimalOctets leafCert.serial) = false

variable {opts : HandshakeOptions} {clock : Clock} {leaf : OwnedCert} {rest trust : List OwnedCert}
  {crl : CrlInfo}

variable (opts clock) in
/-- The time the list is checked at, where it is representable. -/
def graceTime : Instant := clock.nowUtc + opts.crlGracePeriod.asSecs * 1000000000

lemma checkLeafRevocation_eq_ok (hcrl : opts.crlInfo = some crl) :
    checkLeafRevocation lib opts clock (leaf :: rest) trust = .ok () ↔
    LeafUnrevoked lib crl leaf trust ∧
      Representable (graceTime opts clock) ∧ crl.isValid lib.x509 (graceTime opts clock) =
      true := by
  unfold checkLeafRevocation LeafUnrevoked verifyCrl addSeconds graceTime
  simp only [hcrl, ok_bind, bind_eq_ok, mapError_eq_ok, rejectIf_eq_ok, not_not, Except.ok.injEq,
    Bool.not_eq_false,
    Bool.not_eq_true]
  constructor
  · rintro ⟨leafCert, hleaf, _, ⟨_, hrange, rfl⟩, ca, hca, caCert, hcaCert, _, hissuer,
      _, rfl, _, hsig, _,
      hfresh, hfound⟩
    exact ⟨⟨leafCert, hleaf, ca, hca, caCert, hcaCert, hissuer, hsig, hfound⟩, hrange, hfresh⟩
  · rintro ⟨⟨leafCert, hleaf, ca, hca, caCert, hcaCert, hissuer, hsig, hfound⟩, hrange, hfresh⟩
    exact ⟨leafCert, hleaf, _, ⟨(), hrange, rfl⟩, ca, hca, caCert, hcaCert, _, hissuer,
      (), rfl, (), hsig, (),
      hfresh, hfound⟩

/-- Whatever `as_secs() as i64` makes of the period, its size is at most the period. -/
lemma Duration.neg_asNanos_le (duration : Duration) :
    -duration.asNanos ≤ duration.asSecs * 1000000000 := by
  have hlt := duration.secs_lt
  unfold asSecs asNanos
  split_ifs <;> omega

/-- What the grace period promises: a list that has begun is accepted until the period after its
next update has passed, and one that has not begun is refused. -/
def GraceRule (lib : TlsLibrary F P) (opts : HandshakeOptions) (clock : Clock)
    (leafChain trust : List OwnedCert)
    (lastUpdate nextUpdate : Instant) : Prop :=
  (lastUpdate ≤ clock.nowUtc → (checkLeafRevocation lib opts clock leafChain trust = .ok () ↔
    clock.nowUtc ≤ nextUpdate + opts.crlGracePeriod.asNanos)) ∧
  (clock.nowUtc < lastUpdate → checkLeafRevocation lib opts clock leafChain trust ≠ .ok ())

/-- The grace period is added to the time, not to the next update. -/
theorem graceRule_iff {parsed : CertificateRevocationList} {nextUpdate : Instant}
    (hcrl : opts.crlInfo = some crl)
    (hparse : lib.x509.crlFromDer crl.der = .ok parsed)
    (hnext : parsed.nextUpdate = some nextUpdate)
    (hother : LeafUnrevoked lib crl leaf trust) :
    GraceRule lib opts clock (leaf :: rest) trust parsed.lastUpdate nextUpdate ↔
      (parsed.lastUpdate ≤ clock.nowUtc → (Representable (graceTime opts clock) ∧
        parsed.lastUpdate ≤ graceTime opts clock ∧ graceTime opts clock ≤ nextUpdate) ∨
          nextUpdate + opts.crlGracePeriod.asNanos < clock.nowUtc) ∧
      (clock.nowUtc < parsed.lastUpdate → ¬ Representable (graceTime opts clock) ∨
        graceTime opts clock < parsed.lastUpdate ∨ nextUpdate < graceTime opts clock) := by
  have hfresh (time : Instant) : crl.isValid lib.x509 time = true ↔ parsed.lastUpdate ≤ time ∧
      time ≤ nextUpdate := by
    simp [CrlInfo.isValid, parseCrl, hparse, hnext]
  have hback : clock.nowUtc ≤ graceTime opts clock + opts.crlGracePeriod.asNanos := by
    have := opts.crlGracePeriod.neg_asNanos_le
    unfold graceTime
    linarith
  unfold GraceRule
  rw [ne_eq, checkLeafRevocation_eq_ok hcrl, and_iff_right hother, hfresh]
  refine and_congr (forall_congr' fun hbegun ↦ ?_) (forall_congr' fun hearly ↦ ?_)
  · constructor
    · intro hrule
      by_cases hlate : nextUpdate + opts.crlGracePeriod.asNanos < clock.nowUtc
      · exact .inr hlate
      · exact .inl (hrule.mpr (not_lt.mp hlate))
    · rintro (haccepted | hlate)
      · exact iff_of_true haccepted (by linarith)
      · exact iff_of_false (fun haccepted ↦ by linarith) (not_le.mpr hlate)
  · rw [not_and_or, not_and_or, not_le, not_le]

end GracePeriod

def miniGrace (grace : Duration) : HandshakeOptions :=
  { HandshakeOptions.default with crlInfo := some ⟨miniCrl 2 8 2⟩, crlGracePeriod := grace }

/-- `Duration::from_nanos`. -/
def Duration.fromNanos (nanos : UInt64) : Duration where
  secs := nanos.toNat / 1000000000
  nanos := nanos.toNat % 1000000000
  secs_lt := (Nat.div_le_self _ _).trans_lt nanos.toNat_lt
  nanos_lt := Nat.mod_lt _ (by decide)

def tenthSecond : Duration := .fromNanos 100000000

def oneSecond : Duration := .fromNanos 1000000000

theorem graceRule_fraction : GraceRule miniTls (miniGrace tenthSecond) ⟨500, 0⟩
    [⟨miniCertificate 2 1 0 7 2⟩]
    [⟨miniCertificate 2 2 2 9 2⟩] 0 1000 := by
  have hother : LeafUnrevoked miniTls ⟨miniCrl 2 8 2⟩ ⟨miniCertificate 2 1 0 7 2⟩
    [⟨miniCertificate 2 2 2 9 2⟩] :=
    ⟨_, rfl, _, rfl, _, rfl, rfl, by decide +kernel, by decide +kernel⟩
  have hcrl : (miniGrace tenthSecond).crlInfo = some ⟨miniCrl 2 8 2⟩ := rfl
  refine (graceRule_iff hcrl rfl rfl hother).mpr ?_
  decide

/-- A list that is not due for another 500 ns is refused with a grace period of a second. -/
theorem grace_refuses_fresh_list : ¬ GraceRule miniTls (miniGrace oneSecond) ⟨500, 0⟩
    [⟨miniCertificate 2 1 0 7 2⟩]
    [⟨miniCertificate 2 2 2 9 2⟩] 0 1000 := by
  intro hrule
  have := (hrule.1 (by decide)).mpr (by decide)
  revert this
  decide +kernel

end GmStack.Tls
