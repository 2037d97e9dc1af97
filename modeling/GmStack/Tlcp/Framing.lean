import GmStack.Tlcp.Conversation

/-! A step of the handshake reads one record and takes the first message of it; the rest of the
record is dropped. -/

namespace GmStack.Tlcp

open Foundation List

def messageBytes (message : HandshakeType × Bytes) : Bytes := handshakeMessage message.1 message.2

/-- The payloads of records that carry a string of octets. -/
structure Packs (stream : Bytes) (records : List Bytes) : Prop where
  whole : records.flatten = stream
  sizes : ∀ record ∈ records, 1 ≤ record.length ∧ record.length ≤ 2 ^ 14

section Framing

variable (wrap : String → TlcpError) (name : HandshakeType → String)

def readMessages : List HandshakeType → Handshake (List Bytes)
  | [] => pure []
  | type :: types => do
    let (_, body) ← readHandshakeMessage wrap type (name type)
    let bodies ← readMessages types
    pure (body :: bodies)

/-- The messages are what a side makes of the records, all of which it reads. -/
def Receives (records : List Bytes) (messages : List (HandshakeType × Bytes)) : Prop :=
  Talks (readMessages wrap name (messages.map Prod.fst))
    (receiving (records.flatMap plaintextRecord))
    (messages.map Prod.snd)

/-- What is written of a message is read as the message by the peer. -/
def Accepted (type : HandshakeType) (body : Bytes) : Prop :=
  ∃ sent, Talks (writeHandshakeRecord wrap (handshakeMessage type body)) (sending sent) () ∧
    Talks (readHandshakeMessage wrap type (name type)) (receiving sent)
    (handshakeMessage type body, body)

variable {wrap name} {text : String} {script : Script} {payload body : Bytes} {type : HandshakeType}

lemma of_talks_readPlaintextRecord {contentType : UInt8}
    (htalks : Talks (readPlaintextRecord wrap) script (contentType, payload)) :
    ∃ header, header.length = 5 ∧ script = receiving (header ++ payload) ∧
    payload.length ≤ maxRecordSize := by
  obtain ⟨header, after, hlen, rfl, hrest⟩ := Concludes.of_readExact_bind htalks
  obtain ⟨_, hcheck, hbody⟩ := talks_check_bind_iff.mp hrest
  obtain ⟨bytes, last, hcount, rfl, hlast⟩ := Concludes.of_readExact_bind hbody
  have hin : inbound last ++ [] = inbound [] ++ inbound last := append_nil _
  obtain ⟨rfl, hval⟩ := Talks.unique hlast (.record_bind _ (.pure _)) hin
  cases hval
  refine ⟨header, hlen, by rw [append_nil, receiving_append], ?_⟩
  rw [hcount]
  exact Nat.not_lt.mp (rejectIf_eq_ok.mp hcheck)

lemma of_talks_readHandshakeMessage (htalks : Talks (readHandshakeMessage wrap type text) script
    (payload, body)) :
    ∃ contentType trailing, Talks (readPlaintextRecord wrap) script (contentType, payload) ∧
      payload = handshakeMessage type body ++ trailing := by
  obtain ⟨⟨contentType, read⟩, before, after, rfl, hread, hrest⟩ := talks_bind_iff.mp htalks
  obtain ⟨⟨found, inner, trailing⟩, hparse, hchecked⟩ := talks_check_bind_iff.mp hrest
  obtain ⟨_, htype, hpure⟩ := talks_check_bind_iff.mp hchecked
  obtain ⟨rfl, hval⟩ := talks_pure_iff.mp hpure
  cases hval
  obtain rfl := not_not.mp (rejectIf_eq_ok.mp htype)
  exact ⟨contentType, trailing, (append_nil before).symm ▸ hread,
    (parseHandshakeMessage_eq_ok.mp hparse).1⟩

lemma accepted_iff : Accepted wrap name type body ↔ (handshakeMessage type body).length ≤
    maxRecordSize := by
  constructor
  · rintro ⟨sent, hwrite, hread⟩
    obtain ⟨contentType, trailing, hrecord, -⟩ := of_talks_readHandshakeMessage hread
    exact (of_talks_readPlaintextRecord hrecord).elim fun header hheader ↦ hheader.2.2
  · intro hsize
    exact ⟨_, talks_writeHandshakeRecord _, talks_readHandshakeMessage _ hsize⟩

variable {records : List Bytes} {messages : List (HandshakeType × Bytes)}

lemma eq_of_receives (hreceives : Receives wrap name records messages)
    (hsizes : ∀ record ∈ records, record.length ≤ maxRecordSize)
    (hlen : records.flatten.length ≤ (messages.flatMap messageBytes).length) :
    records = messages.map messageBytes := by
  induction messages generalizing records with
  | nil =>
    cases records with
    | nil => rfl
    | cons record records => exact absurd (talks_pure_iff.mp hreceives).1 (cons_ne_nil _ _)
  | cons message messages ih =>
    obtain ⟨⟨payload, body⟩, before, after, hscript, hread, hafter⟩ := talks_bind_iff.mp hreceives
    obtain ⟨bodies, middle, last, rfl, hrest, hpure⟩ := talks_bind_iff.mp hafter
    obtain ⟨rfl, hbodies⟩ := talks_pure_iff.mp hpure
    cases hbodies
    obtain ⟨contentType, trailing, hrecord, rfl⟩ := of_talks_readHandshakeMessage hread
    cases records with
    | nil =>
      obtain ⟨header, hfive, rfl, -⟩ := of_talks_readPlaintextRecord hrecord
      have hcount := congrArg length hscript
      simp [receiving, hfive] at hcount
      omega
    | cons record records =>
      obtain ⟨hfirst, hothers⟩ := forall_mem_cons.mp hsizes
      have hin : inbound before ++ inbound middle =
          inbound (receiving (plaintextRecord record)) ++ records.flatMap plaintextRecord := by
        simpa using (congrArg inbound hscript).symm
      obtain ⟨rfl, hval⟩ := hrecord.unique (talks_readPlaintextRecord 0x16 hfirst) hin
      obtain ⟨-, rfl⟩ := Prod.mk.inj hval
      rw [flatMap_cons, receiving_append, append_nil] at hscript
      rw [← append_cancel_left hscript] at hrest
      simp only [flatMap_cons, flatten_cons, length_append, messageBytes] at hlen
      have hrecords := ih hrest hothers (by omega)
      -- the octets that follow the message in its record are none, since they are not counted in
      -- the messages
      have htrailing : trailing = [] := by
        rw [hrecords, ← flatMap_def] at hlen
        exact eq_nil_of_length_eq_zero (by omega)
      rw [htrailing, append_nil, map_cons, ← hrecords]
      rfl

lemma receives_of_eq (hsizes : ∀ message ∈ messages, (messageBytes message).length ≤
    maxRecordSize) :
    Receives wrap name (messages.map messageBytes) messages := by
  induction messages with
  | nil => exact .pure _
  | cons message messages ih =>
    obtain ⟨hsize, hothers⟩ := forall_mem_cons.mp hsizes
    simp only [Receives, map_cons, flatMap_cons, receiving_append]
    exact .bind (talks_readHandshakeMessage _ hsize) (.last (ih hothers) (.pure _))

/-- The messages are received exactly if each of them has a record of its own; and a Certificate
message exactly if it fits into a record. -/
theorem framing_independent_iff (wrap : String → TlcpError) (name : HandshakeType → String)
    (hpacks : Packs (messages.flatMap messageBytes) records) (pair : CertPair) :
    (Receives wrap name records messages ↔ records = messages.map messageBytes) ∧
      (Accepted wrap name .certificate pair.body ↔ pair.toCertificateMessage.length ≤
      maxRecordSize) := by
  have hsizes (record : Bytes) (hmem : record ∈ records) : record.length ≤ maxRecordSize :=
    (hpacks.sizes record hmem).2
  refine ⟨⟨fun hreceives ↦ ?_, ?_⟩, accepted_iff⟩
  · exact eq_of_receives hreceives hsizes (by rw [hpacks.whole])
  · rintro rfl
    exact receives_of_eq fun message hmem ↦ hsizes _ (mem_map_of_mem hmem)

end Framing

theorem two_records_received : Receives .invalidMessage HandshakeType.debug
    [[11, 0, 0, 2, 5, 6], [14, 0, 0, 0]] [(.certificate, [5, 6]), (.serverHelloDone, [])] :=
  (framing_independent_iff _ _ ⟨rfl, by decide⟩ (.newSingle [])).1.mpr rfl

/-- Two messages in one record, a message in two records, and a certificate that does not fit into a
record. -/
theorem packings_not_received :
    (Packs ([(.serverHelloDone, []), (.serverHelloDone, [])].flatMap messageBytes)
    [[14, 0, 0, 0, 14, 0, 0, 0]] ∧
        ¬ Receives .invalidMessage HandshakeType.debug [[14, 0, 0, 0, 14, 0, 0, 0]]
          [(.serverHelloDone, []), (.serverHelloDone, [])]) ∧
      (Packs ([(.serverHelloDone, [])].flatMap messageBytes) [[14, 0], [0, 0]] ∧
        ¬ Receives .invalidMessage HandshakeType.debug [[14, 0], [0, 0]] [(.serverHelloDone, [])]) ∧
      ∃ pair : CertPair, ¬ Accepted .invalidMessage HandshakeType.debug .certificate pair.body := by
  obtain ⟨cert, hcert⟩ : ∃ cert : Bytes, cert.length = 16384 :=
    ⟨replicate 16384 0, length_replicate⟩
  refine ⟨⟨⟨rfl, by decide⟩, fun hreceives ↦ ?_⟩, ⟨⟨rfl, by decide⟩, fun hreceives ↦ ?_⟩,
    .newSingle cert, ?_⟩
  · exact absurd (eq_of_receives hreceives (by decide) (by decide)) (by decide)
  · exact absurd (eq_of_receives hreceives (by decide) (by decide)) (by decide)
  · rw [accepted_iff, length_handshakeMessage]
    simp [CertPair.body, CertPair.newSingle, CertPair.entries, certEntriesToBytes,
      maxRecordSize, hcert]

end GmStack.Tlcp
