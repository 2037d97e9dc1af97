import GmStack.Tlcp.Server

/-! What the processes of the client and the server note when they succeed, helper by helper, and
the shape of the three phases of each side. -/

namespace GmStack.Tlcp

open Foundation Crypto X509 List Prod

/-- The payload of a record starts with a message of a type and a body. -/
def Carries (payload : Bytes) (type : HandshakeType) (body : Bytes) : Prop :=
  ∃ trailing, parseHandshakeMessage payload = .ok (type, body, trailing)

variable {body payload : Bytes} {type : HandshakeType}

lemma Carries.unique {other : Bytes} {otherType : HandshakeType}
    (hfirst : Carries payload type body) (hsnd : Carries payload otherType other) :
    otherType = type ∧ other = body := by
  obtain ⟨_, hparse⟩ := hfirst
  obtain ⟨_, hparse'⟩ := hsnd
  rw [hparse, Except.ok.injEq, mk.injEq, mk.injEq] at hparse'
  exact ⟨hparse'.1.symm, hparse'.2.1.symm⟩

def messageType (payload : Bytes) : Option HandshakeType :=
  (parseHandshakeMessage payload).toOption.map Prod.fst

lemma Carries.messageType (hcarry : Carries payload type body) :
    messageType payload = some type := by
  obtain ⟨trailing, hparse⟩ := hcarry
  rw [Tlcp.messageType, hparse]
  rfl

def receivedRecords (noted : List TlcpNote) : List (UInt8 × Bytes) :=
  noted.filterMap fun note ↦
    match note with
    | .received contentType payload => some (contentType, payload)
    | _ => none

section Received

variable (rest : List TlcpNote)

@[simp] lemma receivedRecords_nil : receivedRecords [] = [] := rfl

@[simp] lemma receivedRecords_sent (message : Bytes) : receivedRecords (.sent message :: rest) =
    receivedRecords rest := rfl

@[simp] lemma receivedRecords_received (contentType : UInt8) (payload : Bytes) :
    receivedRecords (.received contentType payload :: rest) = (contentType, payload) ::
    receivedRecords rest := rfl

@[simp] lemma receivedRecords_append (noted : List TlcpNote) :
    receivedRecords (noted ++ rest) = receivedRecords noted ++ receivedRecords rest :=
  filterMap_append

lemma mem_receivedRecords {noted : List TlcpNote} {contentType : UInt8} {payload : Bytes} :
    (contentType, payload) ∈ receivedRecords noted ↔ .received contentType payload ∈ noted := by
  rw [receivedRecords, mem_filterMap]
  constructor
  · rintro ⟨note, hmem, hnote⟩
    cases note <;> cases hnote
    exact hmem
  · intro hmem
    exact ⟨_, hmem, rfl⟩

end Received

def isHandshakeRecord (contentType : UInt8) (payload : Bytes) : Bool :=
  contentType == 0x16 || (parseHandshakeMessage payload).toOption.isSome

lemma Carries.isHandshakeRecord (hcarry : Carries payload type body) (contentType : UInt8) :
    isHandshakeRecord contentType payload = true := by
  obtain ⟨trailing, hparse⟩ := hcarry
  simp [Tlcp.isHandshakeRecord, hparse, Except.toOption]

def handshakeOctets : TlcpNote → Bytes
  | .sent message => message
  | .received contentType payload => if isHandshakeRecord contentType payload then payload else []
  | .ccsReceived octets =>
    if isHandshakeRecord (octets.headD 0) (octets.drop 5) then octets.drop 5 else []
  | .finishedOver _ => []
  | .finishedSent message => message
  | .finishedReceived message => message

def handshakeBytes (noted : List TlcpNote) : Bytes := noted.flatMap handshakeOctets

section HandshakeBytes

variable (rest : List TlcpNote)

@[simp] lemma handshakeBytes_nil : handshakeBytes [] = [] := rfl

@[simp] lemma handshakeBytes_append (noted : List TlcpNote) :
    handshakeBytes (noted ++ rest) = handshakeBytes noted ++ handshakeBytes rest :=
  flatMap_append

@[simp] lemma handshakeBytes_sent (message : Bytes) :
    handshakeBytes (.sent message :: rest) = message ++ handshakeBytes rest := rfl

lemma handshakeBytes_received (contentType : UInt8) (payload : Bytes) :
    handshakeBytes (.received contentType payload :: rest) =
      (if isHandshakeRecord contentType payload then payload else []) ++ handshakeBytes rest := rfl

lemma Carries.handshakeBytes {payload body : Bytes} {type : HandshakeType}
    (hcarry : Carries payload type body) (contentType : UInt8) :
    handshakeBytes (.received contentType payload :: rest) = payload ++ handshakeBytes rest := by
  rw [handshakeBytes_received, if_pos (hcarry.isHandshakeRecord contentType)]

end HandshakeBytes

/-- A step that only writes: the messages it notes, and their octets. -/
def Sends (noted : List TlcpNote) (octets : Bytes) : Prop :=
  ∃ messages : List Bytes, noted = messages.map .sent ∧ octets = messages.flatten

section Sends

variable {noted others : List TlcpNote} {octets otherOctets : Bytes}

lemma sends_nil : Sends [] [] := ⟨[], rfl, rfl⟩

lemma sends_singleton (message : Bytes) : Sends [.sent message] message :=
  ⟨[message], rfl, (append_nil message).symm⟩

lemma Sends.append (hfirst : Sends noted octets) (hsnd : Sends others otherOctets) :
    Sends (noted ++ others) (octets ++ otherOctets) := by
  obtain ⟨first, rfl, rfl⟩ := hfirst
  obtain ⟨second, rfl, rfl⟩ := hsnd
  exact ⟨first ++ second, map_append.symm, flatten_append.symm⟩

lemma Sends.handshakeBytes (hsends : Sends noted octets) : handshakeBytes noted = octets := by
  obtain ⟨messages, rfl, rfl⟩ := hsends
  induction messages with
  | nil => rfl
  | cons message rest ih => exact congrArg (message ++ ·) ih

lemma Sends.receivedRecords (hsends : Sends noted octets) : receivedRecords noted = [] := by
  obtain ⟨messages, rfl, rfl⟩ := hsends
  induction messages with
  | nil => rfl
  | cons message rest ih => exact ih

end Sends

section Records

variable {α : Type} {noted : List TlcpNote} {wrap : String → TlcpError} {message : Bytes}

lemma ends_writeHandshakeRecord {result : Unit} :
    Ends (writeHandshakeRecord wrap message) noted result ↔ noted = [.sent message] := by
  simp [writeHandshakeRecord, ends_bind]

@[simp] lemma ends_writeHandshakeRecord_bind {next : Unit → Handshake α} {result : α} :
    Ends (writeHandshakeRecord wrap message >>= next) noted result ↔
      ∃ rest, noted = .sent message :: rest ∧ Ends (next ()) rest result := by
  rw [ends_bind]
  constructor
  · rintro ⟨⟨⟩, before, after, rfl, hwrite, hnext⟩
    rw [ends_writeHandshakeRecord.mp hwrite]
    exact ⟨after, rfl, hnext⟩
  · rintro ⟨rest, rfl, hnext⟩
    exact ⟨(), _, rest, rfl, ends_writeHandshakeRecord.mpr rfl, hnext⟩

lemma runs_readPlaintextRecord {trace : List (Event TlcpNote)}
    {result : Except TlcpError (UInt8 × Bytes)}
    (hrun : Runs (readPlaintextRecord wrap) trace result) :
    notes trace = (result.toOption.map fun record ↦ .received record.1 record.2).toList := by
  rw [readPlaintextRecord, runs_bind] at hrun
  obtain ⟨error, rfl, hfails⟩ | ⟨header, _, _, rfl, hhdr, hrun⟩ := hrun
  · exact Silent.eq_nil .readExact hfails.mayNote
  obtain ⟨-, rfl⟩ := runs_readExact_ok.mp hhdr
  rw [runs_bind] at hrun
  obtain ⟨error, rfl, hfails⟩ | ⟨⟨⟩, _, _, rfl, hcheck, hrun⟩ := hrun
  · simp [Silent.eq_nil NotesOnly.check hfails.mayNote, Except.toOption]
  obtain ⟨rfl, -⟩ := runs_check_ok.mp hcheck
  rw [runs_bind] at hrun
  obtain ⟨error, rfl, hfails⟩ | ⟨payload, _, _, rfl, hpay, hrun⟩ := hrun
  · simp [Silent.eq_nil NotesOnly.readExact hfails.mayNote, Except.toOption]
  obtain ⟨-, rfl⟩ := runs_readExact_ok.mp hpay
  cases hrun with
  | noted _ hrest =>
    obtain ⟨rfl, rfl⟩ := runs_done_iff.mp hrest
    rfl

lemma ends_readPlaintextRecord {contentType : UInt8} {payload : Bytes}
    (hends : Ends (readPlaintextRecord wrap) noted (contentType, payload)) :
    noted = [.received contentType payload] := by
  obtain ⟨trace, hrun, rfl⟩ := hends
  exact runs_readPlaintextRecord hrun

lemma ends_readHandshakeMessage {expected : HandshakeType} {name : String} {payload body : Bytes}
    (hends : Ends (readHandshakeMessage wrap expected name) noted (payload, body)) :
    ∃ contentType, Carries payload expected body ∧ noted = [.received contentType payload] := by
  rw [readHandshakeMessage, ends_bind] at hends
  obtain ⟨⟨contentType, read⟩, _, _, rfl, hread, hends⟩ := hends
  simp only [ends_check_bind, rejectIf_eq_ok, not_not, ends_pure, mk.injEq] at hends
  obtain ⟨⟨type, found, trailing⟩, hparse, ⟨⟩, htype, rfl, rfl, rfl⟩ := hends
  subst htype
  exact ⟨contentType, ⟨trailing, hparse⟩, by rw [ends_readPlaintextRecord hread]; rfl⟩

end Records

/-! ### The client -/

variable {F P G1 G2 GT : Type} [CommRing F] [AddCommGroup P] [Module F P]
  {lib : TlcpLibrary F P G1 G2 GT} {noted : List TlcpNote}

section Client

variable {connector : TlcpConnector G1 G2} {payload : Bytes} {hello : ServerHello}

lemma ends_readServerHello (hends : Ends readServerHello noted (hello, payload)) :
    ∃ contentType body, Carries payload .serverHello body ∧ ServerHello.fromBytes body = .ok hello ∧
      noted = [.received contentType payload] := by
  rw [readServerHello, ends_bind] at hends
  obtain ⟨⟨read, body⟩, _, _, rfl, hread, hends⟩ := hends
  obtain ⟨contentType, hcarry, rfl⟩ := ends_readHandshakeMessage hread
  simp only [ends_check_bind, ends_pure, mk.injEq] at hends
  obtain ⟨_, hparse, _, -, rfl, rfl, rfl⟩ := hends
  exact ⟨contentType, body, hcarry, hparse, rfl⟩

variable {now : Instant} {certPair : CertPair}

lemma ends_readServerCertificate (hends : Ends (readServerCertificate lib connector now) noted
    (certPair, payload)) :
    ∃ contentType body, Carries payload .certificate body ∧ CertPair.fromCertificateMessage body =
    .ok certPair ∧
      noted = [.received contentType payload] := by
  rw [readServerCertificate, ends_bind] at hends
  obtain ⟨⟨read, body⟩, _, _, rfl, hread, hends⟩ := hends
  obtain ⟨contentType, hcarry, rfl⟩ := ends_readHandshakeMessage hread
  simp only [ends_check_bind, ends_pure, mk.injEq] at hends
  obtain ⟨_, hparse, _, -, rfl, rfl, rfl⟩ := hends
  exact ⟨contentType, body, hcarry, hparse, rfl⟩

variable {suite : TlcpCipherSuite}

lemma ends_readServerKeyExchange {body : Bytes}
    (hends : Ends (readServerKeyExchange suite) noted (payload, body)) :
    (suite.keyExchange = .ibsdh ∧ payload = [] ∧ noted = []) ∨
      (suite.keyExchange ≠ .ibsdh ∧ ∃ contentType, Carries payload .serverKeyExchange body ∧
        noted = [.received contentType payload]) := by
  unfold readServerKeyExchange at hends
  split_ifs at hends with hmode
  · obtain ⟨rfl, hval⟩ := ends_pure.mp hends
    exact .inl ⟨hmode, (mk.inj hval).1, rfl⟩
  · exact .inr ⟨hmode, ends_readHandshakeMessage hends⟩

lemma negotiatedSuite_eq_ok
    (hsuite : negotiatedSuite hello certPair = .ok suite) :
    TlcpCipherSuite.fromId hello.cipherSuite = some suite := by
  obtain ⟨found, hfound, hsuite⟩ := bind_eq_ok.mp hsuite
  obtain ⟨-, hval⟩ := unit_bind_eq_ok.mp hsuite
  exact Except.ok.inj hval ▸ required_eq_ok.mp hfound

variable {entropy : ClientEntropy F} {flight : ServerFlight}

lemma ends_openHandshake (hends : Ends (openHandshake lib connector entropy now) noted flight) :
    ∃ shType shPayload shBody certType certPayload certBody skeNotes skePayload,
      Carries shPayload .serverHello shBody ∧ ServerHello.fromBytes shBody = .ok flight.hello ∧
      Carries certPayload .certificate certBody ∧ CertPair.fromCertificateMessage certBody =
      .ok flight.certPair ∧
      TlcpCipherSuite.fromId flight.hello.cipherSuite = some flight.suite ∧
      Ends (readServerKeyExchange flight.suite) skeNotes (skePayload, flight.skeBody) ∧
      verifyServerKeyExchange lib connector flight.suite flight.skeBody entropy.random
        flight.hello.random flight.certPair.encCert = .ok () ∧
      noted = .sent (clientHello connector entropy.random).toBytes :: .received shType shPayload ::
        .received certType certPayload :: skeNotes ∧
      flight.transcript = (clientHello connector entropy.random).toBytes ++ shPayload ++
      certPayload ++ skePayload := by
  rw [openHandshake, ends_writeHandshakeRecord_bind] at hends
  obtain ⟨rest, rfl, hends⟩ := hends
  rw [ends_bind] at hends
  obtain ⟨⟨hello, shPayload⟩, _, _, rfl, hhello, hends⟩ := hends
  obtain ⟨shType, shBody, hsh, hshParse, rfl⟩ := ends_readServerHello hhello
  rw [ends_bind] at hends
  obtain ⟨⟨certPair, certPayload⟩, _, _, rfl, hcertificate, hends⟩ := hends
  obtain ⟨certType, certBody, hcert, hcertParse, rfl⟩ := ends_readServerCertificate hcertificate
  rw [ends_check_bind] at hends
  obtain ⟨suite, hsuite, hends⟩ := hends
  rw [ends_bind] at hends
  obtain ⟨⟨skePayload, skeBody⟩, skeNotes, _, rfl, hske, hends⟩ := hends
  simp only [ends_check_bind, ends_pure] at hends
  obtain ⟨⟨⟩, hver, rfl, rfl⟩ := hends
  exact ⟨shType, shPayload, shBody, certType, certPayload, certBody, skeNotes, skePayload, hsh,
    hshParse, hcert, hcertParse, negotiatedSuite_eq_ok hsuite, hske, hver, by simp, rfl⟩

variable {requested : Bool} {absorbed : Bytes}

lemma ends_sendClientCertificate {certMessage : Bytes}
    (hends : Ends (sendClientCertificate connector requested) noted certMessage) :
    Sends noted certMessage := by
  unfold sendClientCertificate at hends
  split_ifs at hends with hreq
  · simp only [ends_check_bind, ends_writeHandshakeRecord_bind, ends_pure] at hends
    obtain ⟨_, -, _, rfl, rfl, rfl⟩ := hends
    exact sends_singleton _
  · obtain ⟨rfl, rfl⟩ := ends_pure.mp hends
    exact sends_nil

lemma ends_readDeferredKeyExchange {exchange : ClientExchange G1} {pms deferred : Bytes}
    (hends : Ends (readDeferredKeyExchange lib connector exchange) noted (pms, deferred)) :
    (exchange.ibsdh = none ∧ deferred = [] ∧ noted = []) ∨
      ∃ state raSent contentType body, exchange.ibsdh = some (state, raSent) ∧
        Carries deferred .serverKeyExchange body ∧ finishIbsdh lib connector state raSent body =
        .ok pms ∧
        noted = [.received contentType deferred] := by
  unfold readDeferredKeyExchange at hends
  split at hends
  · rename_i hnone
    obtain ⟨rfl, hval⟩ := ends_pure.mp hends
    exact .inl ⟨hnone, (mk.inj hval).2, rfl⟩
  rename_i state raSent hsome
  rw [ends_bind] at hends
  obtain ⟨⟨payload, body⟩, _, _, rfl, hread, hends⟩ := hends
  obtain ⟨contentType, hcarry, rfl⟩ := ends_readHandshakeMessage hread
  simp only [ends_check_bind, ends_pure, mk.injEq] at hends
  obtain ⟨_, hfinish, rfl, rfl, rfl⟩ := hends
  exact .inr ⟨state, raSent, contentType, body, hsome, hcarry, hfinish, rfl⟩

lemma ends_sendCertificateVerify {signKey : Option String} {transcript message : Bytes}
    (hends : Ends (sendCertificateVerify lib connector signKey transcript) noted message) :
    Sends noted message := by
  unfold sendCertificateVerify at hends
  split at hends
  · obtain ⟨rfl, rfl⟩ := ends_pure.mp hends
    exact sends_nil
  simp only [ends_check_bind, ends_writeHandshakeRecord_bind, ends_pure] at hends
  obtain ⟨_, -, _, rfl, rfl, rfl⟩ := hends
  exact sends_singleton _

section Flight

variable [DecidableEq F] [DecidableEq P]

lemma ends_sendClientFlight
    {ready : ClientReady}
    (hends : Ends (sendClientFlight lib connector entropy flight) noted ready) :
    ∃ requested doneNotes shdBytes certNotes certMessage exchange deferredNotes pms deferred
    verifyNotes verifyMessage,
      Ends readServerHelloDone doneNotes (requested, shdBytes) ∧ Sends certNotes certMessage ∧
      clientExchange lib connector entropy flight.suite flight.skeBody flight.certPair.encCert =
      .ok exchange ∧
      Ends (readDeferredKeyExchange lib connector exchange) deferredNotes (pms, deferred) ∧
      Sends verifyNotes verifyMessage ∧
      noted = doneNotes ++ certNotes ++ .sent exchange.body.toBytes :: deferredNotes ++
      verifyNotes ∧
      ready.suite = flight.suite ∧ ready.serverRandom = flight.hello.random ∧
      ready.transcript = flight.transcript ++ shdBytes ++ certMessage ++ exchange.body.toBytes ++
        deferred ++ verifyMessage := by
  rw [sendClientFlight, ends_bind] at hends
  obtain ⟨⟨requested, shdBytes⟩, doneNotes, _, rfl, hdone, hends⟩ := hends
  rw [ends_bind] at hends
  obtain ⟨certMessage, certNotes, _, rfl, hcert, hends⟩ := hends
  simp only [ends_check_bind, ends_writeHandshakeRecord_bind] at hends
  obtain ⟨signKey, -, exchange, hexch, _, rfl, hends⟩ := hends
  rw [ends_bind] at hends
  obtain ⟨⟨pms, deferred⟩, deferredNotes, _, rfl, hdefer, hends⟩ := hends
  rw [ends_bind] at hends
  obtain ⟨verifyMessage, verifyNotes, _, rfl, hver, hends⟩ := hends
  simp only [ends_check_bind, ends_pure] at hends
  obtain ⟨master, -, rfl, rfl⟩ := hends
  exact ⟨requested, doneNotes, shdBytes, certNotes, certMessage, exchange, deferredNotes, pms,
    deferred, verifyNotes, verifyMessage, hdone, ends_sendClientCertificate hcert, hexch,
    hdefer, ends_sendCertificateVerify hver, by simp, rfl, rfl, rfl⟩

end Flight

section Streams

variable {sm3 : Sm3Library} {sm4 : Sm4Library} {stream next : TlcpStream} {plaintext : Bytes}
  {iv : Octets 16}

lemma silent_writeEncryptedRecordWithType {contentType : UInt8} :
    Silent (stream.writeEncryptedRecordWithType sm3 sm4 contentType plaintext iv) :=
  .bind .check fun _ ↦ .bind .check fun _ ↦
    .bind (.forM fun _ _ ↦ .writeAll) fun _ ↦ .pure

variable {wrap : String → TlcpError}

lemma silent_writeAll : Silent (stream.writeAll sm3 sm4 wrap plaintext iv) :=
  .bind .check fun _ ↦ .bind .check fun _ ↦
    .bind .writeAll fun _ ↦ .pure

lemma silent_readApplicationData : Silent (stream.readApplicationData sm3 sm4) := by
  refine .bind .readExact fun header ↦ .bind .check fun _ ↦
    .bind .check fun _ ↦ ?_
  split_ifs
  · exact .bind .readExact fun _ ↦ .bind .check fun _ ↦
      .bind .check fun _ ↦ .pure
  · refine .bind .readExact fun buf ↦ ?_
    split_ifs
    · exact .pure
    · exact .check
  · exact .check

lemma ends_writeEncryptedRecordWithType {contentType : UInt8}
    (hends : Ends (stream.writeEncryptedRecordWithType sm3 sm4 contentType plaintext iv)
    noted next) :
    next = { stream with writeSeq := stream.writeSeq + 1 } := by
  simp only [TlcpStream.writeEncryptedRecordWithType, ends_check_bind] at hends
  obtain ⟨counted, hcount, parts, -, hends⟩ := hends
  rw [ends_bind] at hends
  obtain ⟨_, _, _, rfl, -, hends⟩ := hends
  rw [(ends_pure.mp hends).2]
  exact (TlcpStream.countWrite_eq_ok.mp hcount).2

lemma ends_writeAll_stream (hends : Ends (stream.writeAll sm3 sm4 wrap plaintext iv) noted next) :
    next = { stream with writeSeq := stream.writeSeq + 1 } := by
  simp only [TlcpStream.writeAll, ends_check_bind] at hends
  obtain ⟨counted, hcount, record, -, hends⟩ := hends
  rw [ends_bind] at hends
  obtain ⟨_, _, _, rfl, -, hends⟩ := hends
  rw [(ends_pure.mp hends).2]
  exact (TlcpStream.countWrite_eq_ok.mp hcount).2

lemma ends_readApplicationData (hends : Ends (stream.readApplicationData sm3 sm4) noted
    (plaintext, next)) :
    ∃ seq, next = { stream with readSeq := seq } := by
  obtain ⟨trace, hrun, -⟩ := hends
  obtain ⟨header, buf, -, hreads⟩ := (TlcpStream.runs_readApplicationData_ok sm3 sm4).mp hrun
  rcases hreads.content with ⟨-, hcount, -⟩ | ⟨-, -, -, rfl⟩
  · exact ⟨_, (TlcpStream.countRead_eq_ok.mp hcount).2⟩
  · exact ⟨_, rfl⟩

end Streams

lemma parseFinished_toBytes (who : String) (finished : Finished) :
    parseFinished who finished.toBytes = .ok finished := by
  have hsize : finished.verifyData.bytes.length < 256 ^ 3 := by
    rw [finished.verifyData.length_bytes]
    decide
  rw [parseFinished, Finished.toBytes, parseHandshakeMessage_handshakeMessage hsize,
    mapError_ok, ok_bind]
  dsimp only
  rw [rejectIf_ne_bind rfl, Finished.fromBody_verifyData]

variable (lib) in
def clientFinishNotes (master transcript ccs serverFinished : Bytes) : List TlcpNote :=
  let clientFinished := (Finished.compute lib.sm3 master clientFinishedLabel transcript).toBytes
  [.finishedOver transcript, .finishedSent clientFinished, .ccsReceived ccs,
    .finishedOver (transcript ++ clientFinished), .finishedReceived serverFinished]

variable {stream : TlcpStream}

lemma ends_finishClient {sessionId : Bytes}
    {clientRandom serverRandom : Octets 32} {master transcript : Bytes} {iv : Octets 16}
    (hends : Ends (finishClient lib suite sessionId clientRandom serverRandom master transcript iv)
    noted stream) :
    (∃ ccs serverFinished, noted = clientFinishNotes lib master transcript ccs serverFinished) ∧
      ∃ material readSeq writeSeq, TlcpKeyMaterial.derive lib.sm3 master clientRandom serverRandom
      suite = .ok material ∧
        stream = { TlcpStream.new material suite true sessionId with
          readSeq, writeSeq, cachedResumedSession :=
          some (resumedSession master suite clientRandom serverRandom) } := by
  replace hends := ends_bind_of_silent .writeAll hends
  obtain ⟨_, -, hends⟩ := hends
  simp only [ends_check_bind, ends_record_bind] at hends
  obtain ⟨material, hderive, _, rfl, hends⟩ := hends
  replace hends := ends_bind_of_silent (.attempt silent_writeEncryptedRecordWithType) hends
  obtain ⟨written, hwrite, hends⟩ := hends
  simp only [ends_check_bind, ends_record_bind, mapError_eq_ok] at hends
  obtain ⟨afterWrite, rfl, _, rfl, hends⟩ := hends
  replace hends := ends_bind_of_silent .readExact hends
  obtain ⟨ccs, -, hends⟩ := hends
  rw [ends_record_bind] at hends
  obtain ⟨_, rfl, hends⟩ := hends
  replace hends := ends_bind_of_silent (.attempt silent_readApplicationData) hends
  obtain ⟨read, hread, hends⟩ := hends
  simp only [ends_check_bind, ends_record_bind, mapError_eq_ok, ends_pure] at hends
  obtain ⟨⟨plaintext, afterRead⟩, rfl, _, -, _, rfl, _, -, _, rfl, rfl, rfl⟩ := hends
  have hwrote := ends_writeEncryptedRecordWithType (ends_attempt_ok.mp hwrite)
  obtain ⟨seq, hafter⟩ := ends_readApplicationData (ends_attempt_ok.mp hread)
  subst hafter hwrote
  exact ⟨⟨ccs, plaintext, rfl⟩, material, _, _, hderive, rfl⟩

lemma ends_connectWithCerts [DecidableEq F] [DecidableEq P]
    (hends : Ends (connectWithCerts lib connector entropy now) noted stream) :
    ∃ flight ready openNotes flightNotes finishNotes, Ends (openHandshake lib connector entropy now)
    openNotes flight ∧
      Ends (sendClientFlight lib connector entropy flight) flightNotes ready ∧
      Ends (finishClient lib ready.suite ready.sessionId entropy.random ready.serverRandom
        ready.master ready.transcript entropy.recordIv) finishNotes stream ∧
      noted = openNotes ++ (flightNotes ++ finishNotes) := by
  rw [connectWithCerts, ends_bind] at hends
  obtain ⟨flight, openNotes, _, rfl, hopen, hends⟩ := hends
  rw [ends_bind] at hends
  obtain ⟨ready, flightNotes, finishNotes, rfl, hflight, hfinish⟩ := hends
  exact ⟨flight, ready, openNotes, flightNotes, finishNotes, hopen, hflight, hfinish, rfl⟩

end Client

/-! ### The server -/

section Server

variable {acceptor : TlcpAcceptor F G1 G2}

lemma ends_readClientHello {hello : ClientHello} (hends : Ends readClientHello noted hello) :
    ∃ contentType payload body, Carries payload .clientHello body ∧
      ClientHello.fromBody body = .ok hello ∧ noted = [.received contentType payload] := by
  rw [readClientHello, ends_bind] at hends
  obtain ⟨⟨payload, body⟩, _, _, rfl, hread, hends⟩ := hends
  obtain ⟨contentType, hcarry, rfl⟩ := ends_readHandshakeMessage hread
  obtain ⟨rfl, hparse⟩ := ends_check.mp hends
  exact ⟨contentType, payload, body, hcarry, hparse, rfl⟩

lemma ends_sendServerKeyExchange {exchange : Option (ServerKeyExchangeBody × String)}
    {skeBytes : Bytes} (hends : Ends (sendServerKeyExchange exchange) noted skeBytes) :
    Sends noted skeBytes := by
  unfold sendServerKeyExchange at hends
  split at hends
  · obtain ⟨rfl, rfl⟩ := ends_pure.mp hends
    exact sends_nil
  simp only [ends_writeHandshakeRecord_bind, ends_pure] at hends
  obtain ⟨_, rfl, rfl, rfl⟩ := hends
  exact sends_singleton _

variable {suite : TlcpCipherSuite}

lemma ends_sendServerHelloDone {doneBytes : Bytes}
    (hends : Ends (sendServerHelloDone suite) noted doneBytes) : Sends noted doneBytes := by
  unfold sendServerHelloDone at hends
  by_cases hasks : suite.keyExchange.authenticatesClient = true
  · simp only [if_pos hasks, ends_writeHandshakeRecord_bind, ends_pure] at hends
    obtain ⟨_, rfl, _, rfl, rfl, rfl⟩ := hends
    exact (sends_singleton _).append (sends_singleton _)
  simp only [if_neg hasks, ends_writeHandshakeRecord_bind, ends_pure] at hends
  obtain ⟨_, rfl, rfl, rfl⟩ := hends
  exact sends_singleton _

variable {entropy : ServerEntropy F} {opened : ServerOpened}

lemma ends_openServer
    (hends : Ends (openServer lib acceptor entropy) noted opened) :
    ∃ chType chPayload chBody hello sentNotes sentBytes,
      Carries chPayload .clientHello chBody ∧ ClientHello.fromBody chBody = .ok hello ∧
      Sends sentNotes sentBytes ∧ noted = .received chType chPayload :: sentNotes ∧
      opened.transcript = hello.toBytes ++ sentBytes ∧ opened.clientRandom = hello.random ∧
      processClientHello acceptor entropy hello = .ok (opened.suite, opened.sessionId) := by
  rw [openServer, ends_check_bind] at hends
  obtain ⟨⟨signCert, encCert⟩, -, hends⟩ := hends
  rw [ends_bind] at hends
  obtain ⟨hello, _, _, rfl, hhello, hends⟩ := hends
  obtain ⟨chType, chPayload, chBody, hcarry, hparse, rfl⟩ := ends_readClientHello hhello
  simp only [ends_check_bind, ends_writeHandshakeRecord_bind] at hends
  obtain ⟨⟨suite, sessionId⟩, hprocess, _, rfl, _, rfl, exchange, -, hends⟩ := hends
  rw [ends_bind] at hends
  obtain ⟨skeBytes, skeNotes, _, rfl, hske, hends⟩ := hends
  rw [ends_bind] at hends
  obtain ⟨doneBytes, doneNotes, _, rfl, hdone, hends⟩ := hends
  obtain ⟨rfl, rfl⟩ := ends_pure.mp hends
  have hsends := (sends_singleton (serverHello entropy suite sessionId).toBytes).append
    ((sends_singleton (serverCertPair acceptor suite signCert encCert).toCertificateMessage).append
      ((ends_sendServerKeyExchange hske).append (ends_sendServerHelloDone hdone)))
  exact ⟨chType, chPayload, chBody, hello, _, _, hcarry, hparse, hsends, by simp,
    by simp only [append_assoc], rfl, hprocess⟩

def clientCertificates (body : Bytes) : List Bytes :=
  if body.length ≥ 3 then certEntries body.length (body.drop 3) else []

variable {clientCerts : List Bytes} {now : Instant}

lemma ends_readClientCertificate {payload : Bytes}
    (hends : Ends (readClientCertificate lib acceptor now suite) noted (clientCerts, payload)) :
    (suite.keyExchange.authenticatesClient = false ∧ clientCerts = [] ∧ payload = [] ∧ noted = []) ∨
      (suite.keyExchange.authenticatesClient = true ∧ ∃ contentType body,
        Carries payload .certificate body ∧ clientCerts = clientCertificates body ∧
        checkClientCertificates lib acceptor now clientCerts = .ok () ∧
        noted = [.received contentType payload]) := by
  unfold readClientCertificate at hends
  by_cases hasks : suite.keyExchange.authenticatesClient = true
  · rw [if_pos hasks, ends_bind] at hends
    obtain ⟨⟨read, body⟩, _, _, rfl, hread, hends⟩ := hends
    obtain ⟨contentType, hcarry, rfl⟩ := ends_readHandshakeMessage hread
    simp only [ends_check_bind, ends_pure, mk.injEq] at hends
    obtain ⟨⟨⟩, hcheck, rfl, rfl, rfl⟩ := hends
    exact .inr ⟨hasks, contentType, body, hcarry, rfl, hcheck, rfl⟩
  rw [if_neg hasks, ends_pure] at hends
  obtain ⟨rfl, hval⟩ := hends
  obtain ⟨rfl, rfl⟩ := mk.inj hval
  exact .inl ⟨eq_false_of_ne_true hasks, rfl, rfl, rfl⟩

lemma ends_sendDeferredKeyExchange {cke : ClientKeyExchangeBody} {sharedKey : Option Bytes}
    {deferred : Bytes}
    (hends : Ends (sendDeferredKeyExchange lib acceptor entropy suite cke) noted
    (sharedKey, deferred)) :
    Sends noted deferred := by
  unfold sendDeferredKeyExchange at hends
  split_ifs at hends with hmode
  · simp only [ends_check_bind, ends_writeHandshakeRecord_bind, ends_pure, mk.injEq] at hends
    obtain ⟨_, -, _, rfl, rfl, -, rfl⟩ := hends
    exact sends_singleton _
  obtain ⟨rfl, hval⟩ := ends_pure.mp hends
  rw [(mk.inj hval).2]
  exact sends_nil

lemma checkCcs_eq_ok {type : UInt8} {payload : Bytes} {result : Unit} :
    checkCcs type payload = .ok result ↔ type = 0x14 ∧ payload = [0x01] := by
  simp only [checkCcs, unit_bind_eq_ok, rejectIf_eq_ok, not_not]

lemma ends_readClientProof {transcript gained : Bytes}
    (hends : Ends (readClientProof lib acceptor clientCerts transcript) noted gained) :
    (∃ contentType, gained.head? = some HandshakeType.certificateVerify.code ∧
      processCertificateVerify lib acceptor gained clientCerts transcript = .ok () ∧
      noted = [.received contentType gained, .received 0x14 [0x01]]) ∨
    (∃ contentType, gained = [] ∧ noted = [.received contentType [0x01]]) := by
  rw [readClientProof, ends_bind] at hends
  obtain ⟨⟨contentType, probe⟩, _, _, rfl, hread, hends⟩ := hends
  rw [ends_readPlaintextRecord hread]
  dsimp only at hends
  by_cases hver : probe.head? = some HandshakeType.certificateVerify.code
  · rw [if_pos hver, ends_check_bind] at hends
    obtain ⟨⟨⟩, hproc, hends⟩ := hends
    rw [ends_bind] at hends
    obtain ⟨⟨ccsType, ccsPayload⟩, _, _, rfl, hccs, hends⟩ := hends
    simp only [ends_check_bind, checkCcs_eq_ok, ends_pure] at hends
    obtain ⟨-, ⟨rfl, rfl⟩, rfl, rfl⟩ := hends
    rw [ends_readPlaintextRecord hccs]
    exact .inl ⟨contentType, hver, hproc, rfl⟩
  rw [if_neg hver] at hends
  simp only [ends_check_bind, checkCcs_eq_ok, ends_pure] at hends
  obtain ⟨-, ⟨-, rfl⟩, rfl, rfl⟩ := hends
  exact .inr ⟨contentType, rfl, rfl⟩

section Flight

variable [DecidableEq F] [DecidableEq P]

lemma ends_readClientFlight {entropy : ServerEntropy F}
    {ready : ServerReady}
    (hends : Ends (readClientFlight lib acceptor entropy now opened) noted ready) :
    ∃ certNotes certPayload ckeType ckePayload ckeBody deferredNotes deferred proofNotes gained,
      Ends (readClientCertificate lib acceptor now opened.suite) certNotes
      (ready.clientCerts, certPayload) ∧
      Carries ckePayload .clientKeyExchange ckeBody ∧ Sends deferredNotes deferred ∧
      Ends (readClientProof lib acceptor ready.clientCerts
        (opened.transcript ++ certPayload ++ ckePayload ++ deferred)) proofNotes gained ∧
      noted = certNotes ++ .received ckeType ckePayload :: deferredNotes ++ proofNotes ∧
      ready.transcript = opened.transcript ++ certPayload ++ ckePayload ++ deferred ++ gained := by
  rw [readClientFlight, ends_bind] at hends
  obtain ⟨⟨clientCerts, certPayload⟩, certNotes, _, rfl, hcert, hends⟩ := hends
  rw [ends_bind] at hends
  obtain ⟨⟨ckePayload, ckeBody⟩, _, _, rfl, hcke, hends⟩ := hends
  obtain ⟨ckeType, hcarry, rfl⟩ := ends_readHandshakeMessage hcke
  rw [ends_bind] at hends
  obtain ⟨⟨sharedKey, deferred⟩, deferredNotes, _, rfl, hdefer, hends⟩ := hends
  simp only [ends_check_bind] at hends
  obtain ⟨pms, -, master, -, hends⟩ := hends
  rw [ends_bind] at hends
  obtain ⟨gained, proofNotes, _, rfl, hproof, hends⟩ := hends
  obtain ⟨rfl, rfl⟩ := ends_pure.mp hends
  exact ⟨certNotes, certPayload, ckeType, ckePayload, ckeBody, deferredNotes, deferred, proofNotes,
    gained, hcert, hcarry, ends_sendDeferredKeyExchange hdefer, hproof, by simp, rfl⟩

end Flight

variable (lib) in
def serverFinishNotes (master transcript clientFinished : Bytes) : List TlcpNote :=
  [.finishedOver transcript, .finishedReceived clientFinished,
    .finishedOver (transcript ++ clientFinished), .finishedSent (Finished.compute lib.sm3 master
      serverFinishedLabel (transcript ++ clientFinished)).toBytes]

variable {stream : TlcpStream}

lemma ends_finishServer {sessionId : Bytes} {clientRandom serverRandom : Octets 32}
    {master transcript : Bytes}
    {iv : Octets 16}
    (hends : Ends (finishServer lib suite sessionId clientRandom serverRandom master transcript
      clientCerts iv) noted stream) :
    (∃ clientFinished, noted = serverFinishNotes lib master transcript clientFinished) ∧
      ∃ material readSeq writeSeq, TlcpKeyMaterial.derive lib.sm3 master clientRandom serverRandom
      suite = .ok material ∧
        stream = { TlcpStream.new material suite false sessionId with
          readSeq, writeSeq, peerClientCerts := clientCerts,
          cachedResumedSession :=
            some (resumedSession master suite clientRandom serverRandom) } := by
  rw [finishServer, ends_check_bind] at hends
  obtain ⟨material, hderive, hends⟩ := hends
  replace hends := ends_bind_of_silent (.attempt silent_readApplicationData) hends
  obtain ⟨read, hread, hends⟩ := hends
  simp only [ends_check_bind, ends_record_bind, mapError_eq_ok] at hends
  obtain ⟨⟨plaintext, afterRead⟩, rfl, _, -, _, rfl, _, -, _, rfl, hends⟩ := hends
  replace hends := ends_bind_of_silent .writeAll hends
  obtain ⟨_, -, hends⟩ := hends
  rw [ends_record_bind] at hends
  obtain ⟨_, rfl, hends⟩ := hends
  replace hends := ends_bind_of_silent silent_writeAll hends
  obtain ⟨afterWrite, hwrite, hends⟩ := hends
  simp only [ends_record_bind, ends_pure] at hends
  obtain ⟨_, rfl, rfl, rfl⟩ := hends
  obtain ⟨seq, hafter⟩ := ends_readApplicationData (ends_attempt_ok.mp hread)
  rw [ends_writeAll_stream hwrite]
  subst hafter
  exact ⟨⟨plaintext, rfl⟩, material, _, _, hderive, rfl⟩

lemma ends_acceptWithCerts [DecidableEq F] [DecidableEq P]
    (hends : Ends (acceptWithCerts lib acceptor entropy now) noted stream) :
    ∃ opened ready openNotes flightNotes finishNotes,
    Ends (openServer lib acceptor entropy) openNotes opened ∧
      Ends (readClientFlight lib acceptor entropy now opened) flightNotes ready ∧
      Ends (finishServer lib opened.suite opened.sessionId opened.clientRandom entropy.random
        ready.master ready.transcript ready.clientCerts entropy.recordIv) finishNotes stream ∧
      noted = openNotes ++ (flightNotes ++ finishNotes) := by
  rw [acceptWithCerts, ends_bind] at hends
  obtain ⟨opened, openNotes, _, rfl, hopen, hends⟩ := hends
  rw [ends_bind] at hends
  obtain ⟨ready, flightNotes, finishNotes, rfl, hflight, hfinish⟩ := hends
  exact ⟨opened, ready, openNotes, flightNotes, finishNotes, hopen, hflight, hfinish, rfl⟩

end Server

end GmStack.Tlcp
