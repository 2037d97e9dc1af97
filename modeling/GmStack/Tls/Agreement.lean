import GmStack.Tls.Conversation
import GmStack.Tls.Delivery

/-! An honest client and an honest server run on one connection, under every schedule, and then
exchange one record of application data in each direction. -/

namespace GmStack.Tls

open Foundation Crypto X509 List RecordStream

def onStream {α : Type} (call : StreamCall α) : Handshake α := do
  let result ← Proc.attempt call
  Proc.check (result.mapError Prod.fst)

section Exchange

variable {α : Type} {script : Script} {call : StreamCall α} {value : α}

lemma talks_onStream (htalks : Talks call script value) : Talks (onStream call) script value := by
  exact .last (.attempt htalks) (.check rfl)

lemma talks_of_onStream (htalks : Talks (onStream call) script value) :
    Talks call script value := by
  obtain ⟨result, before, after, rfl, hcall, hcheck⟩ := talks_bind_iff.mp htalks
  obtain ⟨rfl, hval⟩ := concludes_done_iff.mp hcheck.concludes
  obtain rfl := mapError_eq_ok.mp hval.symm
  obtain ⟨trace, hrun, hrel, hwire⟩ := hcall
  rw [append_nil]
  exact ⟨trace, runs_attempt.mp hrun, hrel, hwire⟩

end Exchange

section Library

variable {F P : Type} [CommRing F] [AddCommGroup P] [Module F P] (lib : TlsLibrary F P)

def exchangeData (rounds : ℕ) (writesFirst : Bool) (data : Bytes) (stream : GmTlsStream) :
    Handshake (GmTlsStream × Bytes) :=
  if writesFirst then do
    let written ← onStream ((stream.withVersion versionTls13).writeApplicationData lib data)
    let answer ← onStream (written.readApplicationData lib (rounds + 1))
    pure (stream, answer.1)
  else do
    let answer ← onStream ((stream.withVersion versionTls13).readApplicationData lib (rounds + 1))
    let _ ← onStream (answer.2.writeApplicationData lib data)
    pure (stream, answer.1)

def ClientSetup.session (client : ClientSetup F) (rounds : ℕ) (clientFirst : Bool) (data : Bytes) :
    Handshake (GmTlsStream × Bytes) := do
  let stream ← client.connect lib
  exchangeData lib rounds clientFirst data stream

def ServerSetup.session (server : ServerSetup F) (rounds : ℕ) (clientFirst : Bool) (data : Bytes) :
    Handshake (GmTlsStream × Bytes) := do
  let accepted ← server.accept lib
  exchangeData lib rounds (!clientFirst) data accepted.1

/-- What one stream writes with the other reads with. -/
structure Mirrored (first second : GmTlsStream) : Prop where
  key : first.writeKey = second.readKey
  nonce : first.writeNonce = second.readNonce
  secret : first.writeTrafficSecret = second.readTrafficSecret

/-- Both sides have ended well, with each other's keys and each other's data. -/
def Agreed (clientData serverData : Bytes)
    (state : Duplex TlsNote TlsError (GmTlsStream × Bytes) (GmTlsStream × Bytes)) : Prop :=
  ∃ client server toServer toClient, state = ⟨.done (.ok (client, serverData)),
      .done (.ok (server, clientData)), toServer, toClient⟩ ∧
    Mirrored client server ∧ Mirrored server client

/-- Whatever the scheduler does, the two sides come to agreement. -/
def Agrees (client : ClientSetup F) (server : ServerSetup F) (rounds : ℕ) (clientFirst : Bool)
    (clientData serverData : Bytes) : Prop :=
  Inevitably Duplex.Step (Agreed clientData serverData)
    (Duplex.start (client.session lib rounds clientFirst clientData)
      (server.session lib rounds clientFirst serverData))

/-- The messages of the two sides fit together. -/
structure Compatible (client : ClientSetup F) (server : ServerSetup F)
    (clientData serverData : Bytes) : Prop where
  noTicketKey : ∀ keySet, server.opts.sessionTicketKey = some keySet → keySet.keys = []
  certificateRead : client.certPem ≠ [] → server.requireClientAuth = true
  messages : MessagesFit lib client server
  clientData : clientData.length ≤ Message.maxPlaintext
  serverData : serverData.length ≤ Message.maxPlaintext

variable {lib}

/-- A stream with a key and a secret to write with, as a key exchange makes it. -/
structure Keyed (stream : GmTlsStream) : Prop where
  key : stream.writeKey.length = 16
  writeSecret : ∃ secret, stream.writeTrafficSecret = some secret ∧ secret.length = 32

variable {stream : RecordStream}

lemma Keyed.canWrite (hkeyed : Keyed stream.toGmTlsStream)
    (hnum : stream.WellNumbered) (hseq : stream.writeSeq = 0) : stream.CanWrite where
  numbered := hnum
  key := hkeyed.key
  secret := hkeyed.writeSecret
  seq := hseq.trans_le (Nat.zero_le _)

variable (lib) in
lemma exists_talks_writeData (stream : RecordStream) (hkeyed : Keyed stream.toGmTlsStream)
    (hnum : stream.WellNumbered) (hseq : stream.writeSeq = 0)
    (hpend : stream.keyUpdatePending = false) (data : Bytes) :
    ∃ record next, Talks (stream.writeApplicationData lib data) (sending record) next ∧
      stream.writeHalf.Seals lib (.data data) record ∧ next.readHalf = stream.readHalf := by
  obtain ⟨record, next, htalks, hseals, -, -, hread⟩ := exists_talks_writeRecord lib
    (hkeyed.canWrite hnum hseq) "GCM encrypt: " (.data data)
  refine ⟨record, next, ?_, hseals, hread⟩
  rw [writeApplicationData_eq hpend (hseq.trans_lt (by decide))]
  exact htalks

variable {data : Bytes}

lemma talks_readData {record : Bytes} (rounds : ℕ)
    (hseals : stream.readHalf.Seals lib (.data data) record)
    (hdata : data.length ≤ Message.maxPlaintext) :
    Talks (stream.readApplicationData lib (rounds + 1)) (receiving record)
      (data, { stream with readSeq := stream.readSeq + 1 }) := by
  have hfits : (Message.data data).Fits := by
    refine Message.fits_of_contents (fun plaintext hmem ↦ ?_) (mem_singleton_self _)
    rwa [mem_singleton.mp hmem]
  have hinterp : ({ stream with readSeq := stream.readSeq + 1 } : RecordStream).interpret lib
      (Message.data data).inner =
      .ok (some data, { stream with readSeq := stream.readSeq + 1 }) := by
    simp [interpret, Message.inner, rejectIf]
  exact .last (talks_readRecord hseals hfits hinterp) (.pure _)

variable {answer : Bytes}

variable (lib) in
lemma exists_talks_exchangeData {first second : GmTlsStream} (hfirst : Keyed first)
    (hsnd : Keyed second) (hthere : Mirrored first second) (hback : Mirrored second first)
    (rounds : ℕ) (hdata : data.length ≤ Message.maxPlaintext)
    (hans : answer.length ≤ Message.maxPlaintext) :
    ∃ script, Talks (exchangeData lib rounds true data first) script (first, answer) ∧
      Talks (exchangeData lib rounds false answer second) (mirror script) (second, data) := by
  obtain ⟨record, written, hwrite, hseals, hread⟩ := exists_talks_writeData lib
    (first.withVersion versionTls13) hfirst (wellNumbered_withVersion first versionTls13) rfl rfl
    data
  obtain ⟨reply, replied, hreply, hreplySeals, -⟩ := exists_talks_writeData lib
    { second.withVersion versionTls13 with readSeq := 1 } hsnd
    ⟨show 0 < 2 ^ 64 by decide, fun nonce hmem ↦ absurd hmem (Finset.notMem_empty nonce)⟩
      rfl rfl answer
  have hhalf : (first.withVersion versionTls13).writeHalf =
      (second.withVersion versionTls13).readHalf := by
    rw [writeHalf, readHalf, Half.mk.injEq]
    exact ⟨hthere.key, hthere.nonce, rfl, hthere.secret⟩
  have hreplyHalf : ({ second.withVersion versionTls13 with readSeq := 1 } :
    RecordStream).writeHalf = written.readHalf := by
    rw [hread, writeHalf, readHalf, Half.mk.injEq]
    exact ⟨hback.key, hback.nonce, rfl, hback.secret⟩
  rw [hhalf] at hseals
  rw [hreplyHalf] at hreplySeals
  refine ⟨sending record ++ (receiving reply ++ []), ?_, ?_⟩
  · rw [exchangeData, if_pos rfl]
    exact .bind (talks_onStream hwrite)
      (.bind (talks_onStream (talks_readData rounds hreplySeals hans)) (.pure _))
  · rw [exchangeData, if_neg (by decide), mirror_append, mirror_append, mirror_sending,
      mirror_receiving]
    exact .bind (talks_onStream (talks_readData rounds hseals hdata))
      (.bind (talks_onStream hreply) (.pure _))

variable (lib) in
lemma exists_talks_eitherWay {client server : GmTlsStream} (hcli : Keyed client)
    (hsrv : Keyed server) (hthere : Mirrored client server) (hback : Mirrored server client)
    (rounds : ℕ) (clientFirst : Bool) {clientData serverData : Bytes}
    (hclientData : clientData.length ≤ Message.maxPlaintext)
    (hserverData : serverData.length ≤ Message.maxPlaintext) :
    ∃ script, Talks (exchangeData lib rounds clientFirst clientData client) script
        (client, serverData) ∧
      Talks (exchangeData lib rounds (!clientFirst) serverData server) (mirror script)
        (server, clientData) := by
  cases clientFirst with
  | true =>
    exact exists_talks_exchangeData lib hcli hsrv hthere hback rounds hclientData hserverData
  | false =>
    obtain ⟨script, hfirst, hsnd⟩ :=
      exists_talks_exchangeData lib hsrv hcli hback hthere rounds hserverData hclientData
    exact ⟨mirror script, hsnd, by rw [mirror_mirror]; exact hfirst⟩

lemma keyed_of_deriveSessionKeysSm2 {point : P} {secrets : HandshakeSecrets}
    (hsecrets : deriveSessionKeysSm2 lib point = .ok secrets) (peerCertPem : Bytes)
    (alpn : Option Bytes) :
    Keyed (clientStream secrets peerCertPem alpn) ∧ Keyed (serverStream secrets alpn) := by
  have hpoint : point ≠ 0 := by
    rintro rfl
    obtain ⟨_, hlen, -⟩ := bind_eq_ok.mp hsecrets
    rw [lib.sm2.encode_zero] at hlen
    exact rejectIf_eq_ok.mp hlen rfl
  obtain ⟨found, hfound, hclientKey, hserverKey, hcli, hsrv⟩ :=
    exists_deriveSessionKeysSm2 lib hpoint
  obtain rfl := Except.ok.inj (hsecrets.symm.trans hfound)
  exact ⟨⟨hclientKey, _, rfl, hcli⟩, ⟨hserverKey, _, rfl, hsrv⟩⟩

lemma mirrored_streams (secrets : HandshakeSecrets) (peerCertPem : Bytes) (alpn : Option Bytes) :
    Mirrored (clientStream secrets peerCertPem alpn) (serverStream secrets alpn) ∧
      Mirrored (serverStream secrets alpn) (clientStream secrets peerCertPem alpn) :=
  ⟨⟨rfl, rfl, rfl⟩, ⟨rfl, rfl, rfl⟩⟩

variable {client : ClientSetup F} {server : ServerSetup F} {serverSecret : F} {rounds : ℕ}
  {clientFirst : Bool} {clientData serverData : Bytes}

lemma HonestSides.agrees (hhonest : HonestSides lib client server serverSecret)
    (hnames : NamesFit client) (hcompat : Compatible lib client server clientData serverData) :
    Agrees lib client server rounds clientFirst clientData serverData := by
  obtain ⟨secrets, hsecrets, -⟩ := exists_deriveSessionKeysSm2 lib hhonest.shared
  have hconnect := hhonest.talks_connect hnames hcompat.messages hsecrets
  obtain ⟨clientCertPem, haccept⟩ := hhonest.talks_accept hnames hcompat.messages
    hcompat.noTicketKey hcompat.certificateRead hsecrets
  obtain ⟨hcli, hsrv⟩ := keyed_of_deriveSessionKeysSm2 hsecrets server.certPem
    (selectAlpn server.alpn client.alpn)
  obtain ⟨hthere, hback⟩ := mirrored_streams secrets server.certPem
    (selectAlpn server.alpn client.alpn)
  obtain ⟨script, hleft, hright⟩ :=
    exists_talks_eitherWay lib hcli hsrv hthere hback rounds clientFirst
    hcompat.clientData hcompat.serverData
  have hreach := inevitably_of_talks (Talks.bind hconnect hleft)
    (show Talks (server.session lib rounds clientFirst serverData)
      (mirror (conversation lib client server serverSecret ++ script)) (_, clientData) by
        rw [mirror_append]
        exact .bind haccept hright)
  refine hreach.mono ?_
  rintro state rfl
  exact ⟨_, _, [], [], rfl, hthere, hback⟩

/-! ### What sides that end well have said -/

variable {script : Script}

lemma header_of_readApplicationData {next : RecordStream}
    (htalks : Talks (stream.readApplicationData lib (rounds + 1)) script (answer, next)) :
    answer.length ≤ Message.maxPlaintext ∧ ∃ rest, inbound script = 0x17 :: rest := by
  refine ⟨((concludes_readApplicationData_any lib _ htalks.concludes).2 _ _ rfl).1, ?_⟩
  obtain ⟨_, before, after, rfl, hrec, -⟩ := talks_bind_iff.mp htalks
  obtain ⟨header, rest, hlen, rfl, hbody⟩ := hrec.concludes.of_readExact_bind
  obtain ⟨_, _, _, rfl, hbody, -⟩ := talks_bind_iff.mp hbody
  obtain ⟨_, htype, -⟩ := talks_check_bind_iff.mp hbody
  have hhead := not_not.mp (rejectIf_eq_ok.mp htype)
  cases header with
  | nil => cases hlen
  | cons octet tail =>
    obtain rfl : octet = 0x17 := hhead
    exact ⟨_, rfl⟩

lemma header_of_exchangeData {stream final : GmTlsStream} (hkeyed : Keyed stream)
    {writesFirst : Bool}
    (htalks : Talks (exchangeData lib rounds writesFirst data stream) script (final, answer)) :
    answer.length ≤ Message.maxPlaintext ∧ ∃ rest, inbound script = 0x17 :: rest := by
  cases writesFirst with
  | true =>
    obtain ⟨written, before, after, rfl, hwrite, hrest⟩ := talks_bind_iff.mp htalks
    obtain ⟨⟨found, next⟩, middle, last, rfl, hread, hend⟩ := talks_bind_iff.mp hrest
    obtain ⟨rfl, hfinal⟩ := talks_pure_iff.mp hend
    obtain ⟨-, rfl⟩ := Prod.mk.inj hfinal
    obtain ⟨record, _, hrec, -⟩ :=
      exists_talks_writeData lib (stream.withVersion versionTls13) hkeyed
      (wellNumbered_withVersion stream versionTls13) rfl rfl data
    obtain ⟨rfl, -⟩ := hrec.unique (talks_of_onStream hwrite)
      (show inbound (sending record) ++ inbound before = inbound before ++ [] by
        rw [inbound_sending, append_nil, nil_append])
    obtain ⟨hlen, rest, hin⟩ := header_of_readApplicationData (talks_of_onStream hread)
    refine ⟨hlen, rest, ?_⟩
    rw [inbound_append, inbound_sending, append_nil, nil_append, hin]
  | false =>
    obtain ⟨⟨found, next⟩, before, after, rfl, hread, hrest⟩ := talks_bind_iff.mp htalks
    obtain ⟨_, middle, last, rfl, -, hend⟩ := talks_bind_iff.mp hrest
    obtain ⟨rfl, hfinal⟩ := talks_pure_iff.mp hend
    obtain ⟨-, rfl⟩ := Prod.mk.inj hfinal
    obtain ⟨hlen, rest, hin⟩ := header_of_readApplicationData (talks_of_onStream hread)
    refine ⟨hlen, rest ++ inbound (middle ++ []), ?_⟩
    rw [inbound_append, hin, cons_append]

lemma readsOnly_readHandshakeRecord : ReadsOnly readHandshakeRecord :=
  (ReadsOnly.readExact _ _).bind fun _ ↦ (ReadsOnly.done _).bind fun _ ↦
    (ReadsOnly.readExact _ _).bind fun _ ↦ (ReadsOnly.record _).bind fun _ ↦ ReadsOnly.done _

lemma readsOnly_verifyNoted (verifier : Sm2Verifier) (data signature : Bytes) (text : String) :
    ReadsOnly (verifyNoted lib verifier data signature text) :=
  (ReadsOnly.done _).bind fun _ ↦ ReadsOnly.record _

lemma readsOnly_readFinished (publicKey transcript : Bytes) (parseText verifierText : String) :
    ReadsOnly (readFinished lib publicKey transcript parseText verifierText) :=
  readsOnly_readHandshakeRecord.bind fun _ ↦ (ReadsOnly.done _).bind fun _ ↦ (ReadsOnly.done _).bind
    fun _ ↦ readsOnly_verifyNoted _ _ _ _

lemma readsOnly_checkServerCertificate (caPem : Bytes) (domain : Option String)
    (opts : HandshakeOptions)
    (clock : Clock) (srvCert : ClientCertificate) :
    ReadsOnly (checkServerCertificate lib caPem domain opts clock srvCert) := by
  rw [checkServerCertificate]
  split_ifs
  · exact ReadsOnly.done _
  refine (ReadsOnly.done _).bind fun _ ↦ (ReadsOnly.done _).bind fun _ ↦
    (ReadsOnly.done _).bind fun _ ↦ ?_
  refine ((ReadsOnly.done _).bind fun _ ↦ ReadsOnly.record _).bind fun _ ↦ ?_
  exact (ReadsOnly.done _).bind fun _ ↦ ReadsOnly.done _

/-- What a client that ends well has read and written. -/
structure ClientTold (lib : TlsLibrary F P) (client : ClientSetup F) (script : Script)
    (stream : GmTlsStream) : Prop where
  keyed : Keyed stream
  hello : (client.hello lib).length ≤ 65535
  certificate : ∃ helloVersion helloPayload version payload cert rest, helloPayload.length ≤ 65535 ∧
    payload.length ≤ 65535 ∧ inbound script = handshakeRecord helloVersion helloPayload ++
      (handshakeRecord version payload ++ rest) ∧ ClientCertificate.fromBytes payload = .ok cert
  flight : client.certPem ≠ [] → (ClientCertificate.toBytes ⟨client.certPem⟩).length ≤ 65535 ∧
    ∃ rest, outbound script = handshakeRecord versionTls13 (client.hello lib) ++
      (handshakeRecord versionTls13 (ClientCertificate.toBytes ⟨client.certPem⟩) ++ rest)

lemma clientTold_of_talks (hoff : openTicket lib client.opts client.clock = .ok none)
    {stream : GmTlsStream} (htalks : Talks (client.connect lib) script stream) :
    ClientTold lib client script stream := by
  rw [ClientSetup.connect, connectGmRustInner, hoff] at htalks
  obtain ⟨_, hnone, htalks⟩ := talks_check_bind_iff.mp htalks
  cases hnone
  simp only [fullHandshake, talks_writeHandshakeRecord_bind, talks_readHandshakeRecord_bind,
    talks_check_bind_iff, mapError_eq_ok] at htalks
  obtain ⟨_, hhello, rfl, shVersion, shBuf, _, hshBuf, rfl, sh, -, certVersion, certBuf,
    _, hcertBuf, rfl,
    cert, hcert, htalks⟩ := htalks
  obtain ⟨_, checked, _, rfl, hchecked, htalks⟩ := talks_bind_iff.mp htalks
  simp only [talks_readHandshakeRecord_bind, talks_check_bind_iff, mapError_eq_ok,
    newVerifier] at htalks
  obtain ⟨cvVersion, cvBuf, _, -, rfl, cv, -, _, -, _, -, htalks⟩ := htalks
  obtain ⟨_, verified, _, rfl, hverif, htalks⟩ := talks_bind_iff.mp htalks
  simp only [talks_check_bind_iff] at htalks
  obtain ⟨point, -, secrets, hsecrets, htalks⟩ := htalks
  obtain ⟨_, finished, _, rfl, hfin, htalks⟩ := talks_bind_iff.mp htalks
  obtain ⟨_, flight, _, rfl, hflight, hend⟩ := talks_bind_iff.mp htalks
  obtain ⟨rfl, rfl⟩ := talks_pure_iff.mp hend
  have hsilent := readsOnly_checkServerCertificate _ _ _ _ _ _ _ hchecked.concludes
  have hsilentVerify := readsOnly_verifyNoted _ _ _ _ _ _ hverif.concludes
  have hsilentFinished := readsOnly_readFinished _ _ _ _ _ _ hfin.concludes
  constructor
  case keyed => exact (keyed_of_deriveSessionKeysSm2 hsecrets _ _).1
  case hello => exact hhello
  case certificate =>
    refine ⟨shVersion, shBuf, certVersion, certBuf, cert, inbound (checked ++
      (receiving (handshakeRecord cvVersion cvBuf) ++ (verified ++ (finished ++ (flight ++ []))))),
      hshBuf,
      hcertBuf, ?_, hcert⟩
    rw [inbound_append, inbound_sending, nil_append, inbound_append, inbound_receiving,
      inbound_append, inbound_receiving]
  case flight =>
    intro hpem
    rw [sendClientCertificate, if_neg hpem] at hflight
    obtain ⟨rest, hsize, rfl, -⟩ := talks_writeHandshakeRecord_bind.mp hflight
    refine ⟨hsize, outbound rest, ?_⟩
    simp only [outbound_append, outbound_sending, outbound_receiving, nil_append, hsilent,
      hsilentVerify, hsilentFinished, append_nil]
    rfl

/-- What a server that ends well has read and written. -/
structure ServerTold (lib : TlsLibrary F P) (server : ServerSetup F) (script : Script)
    (stream : GmTlsStream) : Prop where
  keyed : Keyed stream
  certificate : (ClientCertificate.toBytes ⟨server.certPem⟩).length ≤ 65535
  hello : ∃ version payload rest, payload.length ≤ 65535 ∧
    inbound script = handshakeRecord version payload ++ rest ∧
    (server.requireClientAuth = false → rest = [])
  ticket : ∀ keySet, server.opts.sessionTicketKey = some keySet → keySet.keys ≠ [] →
    ∃ hello ticketBytes rest, hello.length ≤ 65535 ∧
    (newSessionTicketBytes ticketBytes).length ≤ 65535 ∧
      outbound script = handshakeRecord versionTls13 hello ++
        (handshakeRecord versionTls13 (newSessionTicketBytes ticketBytes) ++ rest)

lemma exists_createTicket (hserializes : ∀ state, ∃ bytes, lib.serializeState state = .ok bytes)
    {opts : HandshakeOptions} {keySet : TicketKeySet}
    (hkeySet : opts.sessionTicketKey = some keySet)
    (hkeys : keySet.keys ≠ []) (clock : Clock) (entropy : Entropy F) (secrets : HandshakeSecrets)
    (sh : ServerHello) (ch : ClientHello) (requireClientAuth : Bool) :
    ∃ ticket, createTicket lib opts clock entropy secrets sh ch requireClientAuth =
    some ticket := by
  obtain ⟨key, hkey⟩ : ∃ key, keySet.primaryKey = some key :=
    Option.ne_none_iff_exists'.mp fun hnone ↦ hkeys (head?_eq_none_iff.mp hnone)
  rw [createTicket, hkeySet]
  dsimp only
  generalize SessionState.mk _ _ _ _ _ _ _ _ _ _ = state
  obtain ⟨bytes, hbytes⟩ := hserializes state
  obtain ⟨encrypted, tag, -, -, henc, -⟩ :=
    encryptSessionTicket_eq_ok lib hkey hbytes entropy.ticketNonce
  rw [henc]
  exact ⟨_, rfl⟩

variable {message : Option Bytes}

lemma script_of_talks_sendOptional {transcript hash : Bytes}
    (htalks : Talks (sendOptional lib transcript message) script hash) :
    (∀ bytes, message = some bytes → bytes.length ≤ 65535 ∧
      script = sending (handshakeRecord versionTls13 bytes)) ∧ inbound script = [] := by
  cases message with
  | none =>
    obtain ⟨rfl, -⟩ := talks_pure_iff.mp htalks
    exact ⟨fun _ hnone ↦ (nomatch hnone), rfl⟩
  | some bytes =>
    obtain ⟨_, hsize, rfl, hend⟩ := talks_writeHandshakeRecord_bind.mp htalks
    obtain ⟨rfl, -⟩ := talks_pure_iff.mp hend
    rw [append_nil]
    refine ⟨?_, inbound_sending _⟩
    intro sent hsent
    cases hsent
    exact ⟨hsize, rfl⟩

lemma newSessionTicketMessage_eq_ok {ticket : SessionTicket}
    (hmsg : newSessionTicketMessage lib (some ticket) = .ok message) :
    ∃ ticketBytes, message = some (newSessionTicketBytes ticketBytes) := by
  obtain ⟨ticketBytes, -, hmsg⟩ := bind_eq_ok.mp hmsg
  cases hmsg
  exact ⟨ticketBytes, rfl⟩

lemma serverTold_of_talks (hserializes : ∀ state, ∃ bytes, lib.serializeState state = .ok bytes)
    (hcertPem : server.certPem ≠ []) {stream : GmTlsStream}
    {clientCertPem : Option Bytes} {ticket : Option SessionTicket}
    (htalks : Talks (server.accept lib) script (stream, clientCertPem, ticket)) :
    ServerTold lib server script stream := by
  simp only [ServerSetup.accept, acceptGmRustInnerWithCert, if_neg hcertPem,
    talks_writeHandshakeRecord_bind, talks_readHandshakeRecord_bind, talks_check_bind_iff,
    mapError_eq_ok] at htalks
  obtain ⟨version, chBuf, _, hchBuf, rfl, ch, -, point, -, secrets, hsecrets, _, hsh, rfl, nst,
    hnst, htalks⟩ := htalks
  obtain ⟨_, announced, _, rfl, hann, htalks⟩ := talks_bind_iff.mp htalks
  obtain ⟨_, certificate, _, rfl, hcert, htalks⟩ := talks_bind_iff.mp htalks
  simp only [talks_writeHandshakeRecord_bind, talks_check_bind_iff, mapError_eq_ok] at htalks
  obtain ⟨signer, -, signature, -, _, -, rfl, _, -, finished, -, tail, -, rfl, hend⟩ := htalks
  obtain ⟨hticket, hannouncedRead⟩ := script_of_talks_sendOptional hann
  obtain ⟨hcertificateSent, hcertificateRead⟩ := script_of_talks_sendOptional hcert
  have hstr : stream = serverStream secrets (selectAlpn server.alpn ch.alpn) ∧
      (server.requireClientAuth = false → tail = []) := by
    split_ifs at hend with hrequired
    · obtain ⟨_, _, _, rfl, -, hend⟩ := talks_bind_iff.mp hend
      obtain ⟨-, hres⟩ := talks_pure_iff.mp hend
      exact ⟨congrArg Prod.fst hres, fun hnot ↦
        absurd hrequired (by rw [hnot]; exact Bool.false_ne_true)⟩
    obtain ⟨htail, hres⟩ := talks_pure_iff.mp hend
    exact ⟨congrArg Prod.fst hres, fun _ ↦ htail⟩
  constructor
  case keyed =>
    rw [hstr.1]
    exact (keyed_of_deriveSessionKeysSm2 hsecrets [] _).2
  case certificate => exact (hcertificateSent _ rfl).1
  case hello =>
    refine ⟨version, chBuf, inbound tail, hchBuf, ?_, fun hnot ↦ by rw [hstr.2 hnot]; rfl⟩
    simp only [inbound_append, inbound_sending, inbound_receiving, nil_append, hannouncedRead,
      hcertificateRead]
  case ticket =>
    intro keySet hkeySet hkeys
    obtain ⟨issued, hissued⟩ :=
      exists_createTicket hserializes hkeySet hkeys server.clock server.entropy
      secrets (buildServerHello lib server.entropy (selectAlpn server.alpn ch.alpn) server.certPem
        server.requireClientAuth) ch server.requireClientAuth
    rw [hissued] at hnst
    obtain ⟨ticketBytes, rfl⟩ := newSessionTicketMessage_eq_ok hnst
    obtain ⟨hsize, rfl⟩ := hticket _ rfl
    refine ⟨_, ticketBytes, outbound (certificate ++ (sending (handshakeRecord versionTls13
      (CertificateVerify.toBytes ⟨signature⟩)) ++ (sending (handshakeRecord versionTls13
        finished.toBytes) ++ tail))), hsh, hsize, ?_⟩
    rw [outbound_append, outbound_receiving, nil_append, outbound_append, outbound_sending,
      outbound_append, outbound_sending]

section

variable (hhonest : HonestSides lib client server serverSecret)

include hhonest

variable (hagrees : Agrees lib client server rounds clientFirst clientData serverData)

include hagrees

lemma HonestSides.told_of_agrees :
    ∃ clientScript serverScript clientEnd serverEnd clientKeys serverKeys toServer toClient,
      ClientTold lib client clientScript clientKeys ∧
      ServerTold lib server serverScript serverKeys ∧
      (serverData.length ≤ Message.maxPlaintext ∧ ∃ rest, inbound clientEnd = 0x17 :: rest) ∧
      (clientData.length ≤ Message.maxPlaintext ∧ ∃ rest, inbound serverEnd = 0x17 :: rest) ∧
      outbound clientScript ++ outbound clientEnd = inbound serverScript ++
      (inbound serverEnd ++ toServer) ∧
      outbound serverScript ++ outbound serverEnd = inbound clientScript ++
      (inbound clientEnd ++ toClient) := by
  obtain ⟨_, hreaches, clientKeys, serverKeys, toServer, toClient, rfl, -⟩ := hagrees.exists_reaches
  obtain ⟨_, _, hcli, hsrv, htoServer, htoClient⟩ := exists_concludes_of_reaches hreaches
  obtain ⟨stream, clientScript, clientEnd, rfl, hconnect, hclientData⟩ := talks_bind_iff.mp hcli
  obtain ⟨⟨accepted, clientCertPem, ticket⟩, serverScript, serverEnd, rfl, haccept, hserverData⟩ :=
    talks_bind_iff.mp hsrv
  have hclientTold := clientTold_of_talks hhonest.noTicketOffered hconnect
  have hserverTold := serverTold_of_talks hhonest.serializes hhonest.certificate haccept
  refine ⟨clientScript, serverScript, clientEnd, serverEnd, stream, accepted, toServer, toClient,
    hclientTold, hserverTold, header_of_exchangeData hclientTold.keyed hclientData,
    header_of_exchangeData hserverTold.keyed hserverData, ?_, ?_⟩
  · rw [← outbound_append, ← append_assoc, ← inbound_append]
    exact htoServer
  · rw [← outbound_append, ← append_assoc, ← inbound_append]
    exact htoClient

lemma HonestSides.compatible_of_agrees : Compatible lib client server clientData serverData := by
  obtain ⟨clientScript, serverScript, clientEnd, serverEnd, _, _, toServer, toClient, hcli, hsrv,
    ⟨hserverData, -⟩, ⟨hclientData, dataRest, hhdr⟩, htoServer, htoClient⟩ :=
    hhonest.told_of_agrees hagrees
  constructor
  case noTicketKey =>
    -- the client reads the ticket as a certificate
    intro keySet hkeySet
    by_contra hkeys
    obtain ⟨hello, ticketBytes, rest, hhello, hticket, hwrote⟩ := hsrv.ticket keySet hkeySet hkeys
    obtain ⟨_, helloRead, _, payload, cert, restRead, hhelloRead, hpay, hread, hcert⟩ :=
      hcli.certificate
    rw [hwrote, hread, append_assoc, append_assoc, append_assoc, append_assoc] at htoClient
    obtain ⟨-, hrest⟩ := handshakeRecord_inj hhello hhelloRead htoClient
    obtain ⟨rfl, -⟩ := handshakeRecord_inj hticket hpay hrest
    obtain ⟨_, hfails⟩ := fromBytes_newSessionTicketBytes ticketBytes
    cases hcert.symm.trans hfails
  case certificateRead =>
    -- the server reads the client's certificate as application data
    intro hpem
    by_contra hnot
    obtain ⟨_, rest, hwrote⟩ := hcli.flight hpem
    obtain ⟨_, payload, restRead, hpay, hread, hnone⟩ := hsrv.hello
    rw [hwrote, hread, hnone (Bool.eq_false_of_not_eq_true hnot), hhdr, append_nil, append_assoc,
      append_assoc] at htoServer
    obtain ⟨-, hrest⟩ := handshakeRecord_inj hcli.hello hpay htoServer
    cases hrest
  case messages =>
    exact ⟨hcli.hello, hsrv.certificate, fun hpem ↦ (hcli.flight hpem).1⟩
  case clientData => exact hclientData
  case serverData => exact hserverData

end

variable (rounds clientFirst clientData serverData) in
/-- Honest sides agree only when the server issues no ticket, reads the certificate the client
sends, and the messages fit their records. -/
theorem handshake_agreement (hhonest : HonestSides lib client server serverSecret) :
    (Agrees lib client server rounds clientFirst clientData serverData →
        Compatible lib client server clientData serverData) ∧
      (NamesFit client → Compatible lib client server clientData serverData →
        Agrees lib client server rounds clientFirst clientData serverData) :=
  ⟨hhonest.compatible_of_agrees, hhonest.agrees⟩

end Library

def sampleClient (certPem : Bytes) : ClientSetup (ZMod 256) where
  certPem := certPem
  keyPem := []
  caPem := miniRoot
  domain := none
  alpn := []
  opts := .default
  clock := miniClock
  entropy := clientEntropy

def sampleServer (ticketKey : Option TicketKeySet) (requireClientAuth : Bool) :
    ServerSetup (ZMod 256) where
  certPem := miniLeaf 1
  keyPem := [1]
  caPem := miniRoot
  requireClientAuth := requireClientAuth
  alpn := []
  opts := { HandshakeOptions.default with sessionTicketKey := ticketKey }
  clock := miniClock
  entropy := serverEntropy

lemma chainAccepted_leaf {subject : UInt8} (hsubject : subject = 1 ∨ subject = 2)
    (role : CertRole) :
    ChainAccepted miniTls (miniLeaf subject) miniRoot .default miniClock none role
    [⟨miniLeaf subject⟩] [⟨miniRoot⟩] := by
  rcases hsubject with rfl | rfl
  · refine ⟨rfl, rfl, ?_, rfl⟩
    cases role <;> decide
  · refine ⟨rfl, rfl, ?_, rfl⟩
    cases role <;> decide

lemma honestSides_sample {certPem : Bytes} {requireClientAuth : Bool}
    (hcert : requireClientAuth = true → certPem = miniLeaf 2) (ticketKey : Option TicketKeySet) :
    HonestSides miniTls (sampleClient certPem) (sampleServer ticketKey requireClientAuth) 1 where
  signatures := miniCurve_signaturesVerify
  serializes := fun _ ↦ ⟨[0], rfl⟩
  names := fun _ hmem ↦ absurd hmem not_mem_nil
  noTicketOffered := rfl
  shared := show (4 * 5 : ZMod 256) • (1 : ZMod 256) ≠ 0 by decide
  clientSigns := rfl
  serverSigns := rfl
  certificate := show miniLeaf 1 ≠ [] by decide
  secret := by decide
  key := show signerFromPemKey miniTls [1] = .ok ⟨1, gmTlsDistid⟩ by rfl
  leaf := show extractServerPubkeyForCertVerify miniX509 miniSm2 (miniLeaf 1) =
    .ok (miniCurve.encode ((1 : ZMod 256) • miniCurve.generator)) by decide
  serverAccepted := fun _ ↦ ⟨_, _, chainAccepted_leaf (.inl rfl) .tlcServer, rfl⟩
  clientAccepted := fun hauth ↦ by
    obtain rfl := hcert hauth
    exact ⟨by decide, show miniRoot ≠ [] by decide, _, _, chainAccepted_leaf (.inr rfl) .tlcClient⟩

lemma compatible_sample : Compatible miniTls (sampleClient (miniLeaf 2)) (sampleServer none true)
    [1] [2] where
  noTicketKey := fun _ hkeySet ↦ nomatch hkeySet
  certificateRead := fun _ ↦ rfl
  messages := ⟨by decide +kernel, by decide +kernel, fun _ ↦ by decide +kernel⟩
  clientData := by decide
  serverData := by decide

theorem agreement_sample : HonestSides miniTls (sampleClient (miniLeaf 2))
    (sampleServer none true) 1 ∧
    Agrees miniTls (sampleClient (miniLeaf 2)) (sampleServer none true) 0 true [1] [2] :=
  ⟨honestSides_sample (fun _ ↦ rfl) none,
    (handshake_agreement 0 true [1] [2] (honestSides_sample (fun _ ↦ rfl) none)).2
      (fun _ hmem ↦ absurd hmem not_mem_nil) compatible_sample⟩

/-- A server that issues a ticket disagrees with a client without a certificate, and a server that
demands no certificate disagrees with a client that sends one. -/
theorem honest_sides_disagree :
    (HonestSides miniTls (sampleClient []) (sampleServer (some ⟨[⟨1, .fill 32 0⟩]⟩) false) 1 ∧
      ¬ Agrees miniTls (sampleClient []) (sampleServer (some ⟨[⟨1, .fill 32 0⟩]⟩) false)
      0 true [1] [2]) ∧
    HonestSides miniTls (sampleClient (miniLeaf 2)) (sampleServer none false) 1 ∧
      ¬ Agrees miniTls (sampleClient (miniLeaf 2)) (sampleServer none false) 0 true [1] [2] := by
  have hissuing : HonestSides miniTls (sampleClient [])
    (sampleServer (some ⟨[⟨1, .fill 32 0⟩]⟩) false) 1 :=
    honestSides_sample (fun hauth ↦ absurd hauth Bool.false_ne_true) _
  have hunasked : HonestSides miniTls (sampleClient (miniLeaf 2)) (sampleServer none false) 1 :=
    honestSides_sample (fun hauth ↦ absurd hauth Bool.false_ne_true) _
  refine ⟨⟨hissuing, fun hagrees ↦ ?_⟩, hunasked, fun hagrees ↦ ?_⟩
  · cases (hissuing.compatible_of_agrees hagrees).noTicketKey _ rfl
  · cases (hunasked.compatible_of_agrees hagrees).certificateRead (by decide)

end GmStack.Tls
