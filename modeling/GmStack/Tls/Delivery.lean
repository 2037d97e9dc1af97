import GmStack.Foundation.Duplex
import GmStack.Tls.KeyUsage

/-! A direction of a connection is a half on each of its ends: key, nonce, sequence number and
secret. -/

namespace GmStack.Tls

open Foundation Crypto List

variable {F P : Type} [CommRing F] [AddCommGroup P] [Module F P]

/-- What a record carries. -/
inductive Message
  | data (plaintext : Bytes)
  | update (requestPeerUpdate : Bool)

namespace Message

def inner : Message → Bytes
  | .data plaintext => plaintext ++ [0x17]
  | .update requestPeerUpdate => RecordStream.keyUpdateMessage requestPeerUpdate ++ [0x16]

def content : Message → Option Bytes
  | .data plaintext => some plaintext
  | .update _ => none

def contents (messages : List Message) : List Bytes := messages.filterMap content

@[simp] lemma contents_append (first second : List Message) :
    contents (first ++ second) = contents first ++ contents second := filterMap_append

/-- The record is one that a reader accepts. -/
def Fits (message : Message) : Prop := message.inner.length + 16 ≤ maxRecordSize

def maxPlaintext : ℕ := maxRecordSize - 17

lemma fits_of_contents {messages : List Message}
    (hcontents : ∀ plaintext ∈ contents messages, plaintext.length ≤ maxPlaintext)
    {message : Message}
    (hmem : message ∈ messages) : message.Fits := by
  cases message with
  | data plaintext =>
    have hplain := hcontents plaintext (mem_filterMap.mpr ⟨_, hmem, rfl⟩)
    show (plaintext ++ [0x17]).length + 16 ≤ maxRecordSize
    rw [length_append, length_singleton]
    have hlimit : maxPlaintext + 1 + 16 = maxRecordSize := by decide
    omega
  | update requestPeerUpdate =>
    show (RecordStream.keyUpdateMessage requestPeerUpdate ++ [0x16]).length + 16 ≤ maxRecordSize
    cases requestPeerUpdate <;> decide

end Message

/-- Key, nonce, sequence number and secret of one direction, on one of its ends. -/
structure Half where
  key : Bytes
  nonce : Octets 12
  seq : ℕ
  secret : Option Bytes

def RecordStream.writeHalf (stream : RecordStream) : Half :=
  ⟨stream.writeKey, stream.writeNonce, stream.writeSeq, stream.writeTrafficSecret⟩

def RecordStream.readHalf (stream : RecordStream) : Half :=
  ⟨stream.readKey, stream.readNonce, stream.readSeq, stream.readTrafficSecret⟩

namespace Half

/-- The secret is there and has the length that an update demands. -/
def HasSecret (half : Half) : Prop := ∃ secret, half.secret = some secret ∧ secret.length = 32

variable (lib : TlsLibrary F P)

def advance (half : Half) : Message → Half
  | .data _ => { half with seq := half.seq + 1 }
  | .update _ =>
    match nextTrafficSecret lib "" half.secret with
    | .ok (newSecret, newKey, newNonce) => ⟨newKey, newNonce, 0, some newSecret⟩
    | .error _ => half

lemma advance_update {half : Half} {secret newSecret newKey : Bytes} {newNonce : Octets 12}
    (hsec : half.secret = some secret) (requestPeerUpdate : Bool)
    (hnext : ∀ text, nextTrafficSecret lib text (some secret) = .ok (newSecret, newKey, newNonce)) :
    half.advance lib (.update requestPeerUpdate) = ⟨newKey, newNonce, 0, some newSecret⟩ := by
  rw [advance, hsec, hnext]

lemma HasSecret.advance {half : Half} (hhalf : half.HasSecret) (message : Message) :
    (half.advance lib message).HasSecret := by
  obtain ⟨secret, hsec, hlen⟩ := hhalf
  cases message with
  | data plaintext => exact ⟨secret, hsec, hlen⟩
  | update requestPeerUpdate =>
    obtain ⟨newSecret, newKey, newNonce, hnext, hnew, -⟩ := exists_nextTrafficSecret lib hlen
    rw [advance_update lib hsec requestPeerUpdate hnext]
    exact ⟨newSecret, rfl, hnew⟩

/-- The octets are a record under a half. -/
def Carries (half : Half) (inner record : Bytes) : Prop :=
  ∃ version body, record = recordHeader version body.length ++ body ∧
    body.length = inner.length + 16 ∧
      ∀ reader : RecordStream, reader.readHalf = half →
        reader.opened lib (recordHeader version body.length) body = some inner

/-- The octets are the record of a message under a half. -/
def Seals (half : Half) (message : Message) (record : Bytes) : Prop :=
  half.Carries lib message.inner record

/-- The octets on their way are the records of messages, the first under the reader's half, and
after the last comes the writer's half. -/
inductive InFlight : Half → List Message → Bytes → Half → Prop
  | nil (half : Half) : InFlight half [] [] half
  | cons {half final : Half} {message : Message} {messages : List Message} {record bytes : Bytes}
      (hseals : half.Seals lib message record)
        (hrest : InFlight (half.advance lib message) messages bytes final) :
      InFlight half (message :: messages) (record ++ bytes) final

variable {lib} {half middle final : Half} {first second : List Message} {bytes others : Bytes}

lemma InFlight.append (hfirst : InFlight lib half first bytes middle)
    (hsnd : InFlight lib middle second others final) :
    InFlight lib half (first ++ second) (bytes ++ others) final := by
  induction hfirst with
  | nil => exact hsnd
  | cons hseals _ ih =>
    rw [cons_append, append_assoc]
    exact .cons hseals (ih hsnd)

lemma InFlight.single {message : Message} {record : Bytes}
    (hseals : half.Seals lib message record) :
    InFlight lib half [message] record (half.advance lib message) := by
  rw [← append_nil record]
  exact .cons hseals (.nil _)

lemma InFlight.eq_of_nil {messages : List Message} (hflight : InFlight lib half messages [] final) :
    messages = [] ∧ half = final := by
  generalize hbytes : ([] : Bytes) = bytes at hflight
  cases hflight with
  | nil => exact ⟨rfl, rfl⟩
  | cons hseals =>
    obtain ⟨version, body, rfl, -⟩ := hseals
    cases hbytes

end Half

namespace RecordStream

/-- A stream that can write without end. -/
structure CanWrite (stream : RecordStream) : Prop where
  numbered : stream.WellNumbered
  key : stream.writeKey.length = 16
  secret : stream.writeHalf.HasSecret
  seq : stream.writeSeq ≤ keyUpdateThreshold

variable (lib : TlsLibrary F P)

/-- A call that writes the records of messages and leaves the read side as it is. -/
def Sends (stream : RecordStream) (call : StreamCall RecordStream) (messages : List Message)
    (next : RecordStream) : Prop :=
  ∃ bytes, Talks call (sending bytes) next ∧
    Half.InFlight lib stream.writeHalf messages bytes next.writeHalf ∧ next.CanWrite ∧
    next.readHalf = stream.readHalf

variable {lib} {stream middle next : RecordStream} {first second : List Message}

lemma Sends.bind {call : StreamCall RecordStream} {cont : RecordStream → StreamCall RecordStream}
    (hfirst : Sends lib stream call first middle)
    (hsnd : Sends lib middle (cont middle) second next) :
    Sends lib stream (call >>= cont) (first ++ second) next := by
  obtain ⟨bytes, htalks, hflight, -, hread⟩ := hfirst
  obtain ⟨others, htalks', hflight', hcan, hread'⟩ := hsnd
  refine ⟨bytes ++ others, ?_, hflight.append hflight', hcan, hread'.trans hread⟩
  rw [sending_append]
  exact .bind htalks htalks'

lemma sends_pure (hstr : stream.CanWrite) : Sends lib stream (pure stream) [] stream :=
  ⟨[], .pure stream, .nil _, hstr, rfl⟩

variable (lib)

section

variable (hstr : stream.CanWrite)

include hstr

lemma exists_talks_writeRecord (text : String) (message : Message) :
    ∃ record next, Talks (stream.writeRecord lib text message.inner) (sending record) next ∧
      stream.writeHalf.Seals lib message record ∧ next.WellNumbered ∧
        next.writeHalf = { stream.writeHalf with seq := stream.writeSeq + 1 } ∧ next.readHalf =
        stream.readHalf := by
  have hseq : stream.writeSeq < 2 ^ 64 - 1 := lt_of_le_of_lt hstr.seq (by decide)
  obtain ⟨nonce, used, queue, hnonce, hclaim, hnext⟩ := exists_claimNonce hstr.numbered hseq
  have hkey : (stream.countedWith used queue).writeKey.length = 16 := hstr.key
  obtain ⟨ciphertext, tag, hprot, hlen, htag, hopens⟩ :=
    opened_protect lib (fun e ↦ (e, stream.countedWith used queue))
    (fun e ↦ (.cipherError (text ++ e.debug), stream.countedWith used queue))
      hkey hnonce message.inner
  have hbody : (ciphertext ++ tag).length = message.inner.length + 16 := by
    rw [length_append, hlen, htag]
  refine ⟨recordHeader stream.version (message.inner.length + 16) ++ (ciphertext ++ tag),
    (stream.countedWith used queue).withSealing nonce stream.writeSeq message.inner, ?_, ?_,
    ⟨hnext.bound, hnext.nonces⟩, rfl, rfl⟩
  · unfold writeRecord
    refine .check_bind hclaim (.check_bind hprot ?_)
    have hwrites : Talks (([[0x17], stream.version.bytes, beOctets 2 (message.inner.length + 16),
        ciphertext, tag] : List Bytes).forM (Proc.writeAll fun text ↦ (.ioError text,
          (stream.countedWith used queue).withSealing nonce stream.writeSeq message.inner)) :
            StreamCall Unit) (sending _) () := .forM_writeAll _ _
    have hscript :
      ([[0x17], stream.version.bytes, beOctets 2 (message.inner.length + 16), ciphertext,
        tag] : List Bytes).flatten = recordHeader stream.version (message.inner.length + 16) ++
        (ciphertext ++ tag) := by
      simp [recordHeader]
    rw [hscript] at hwrites
    exact .last hwrites (.pure _)
  refine ⟨stream.version, ciphertext ++ tag, by rw [hbody], hbody, fun reader hreader ↦ ?_⟩
  simp only [readHalf, writeHalf, Half.mk.injEq] at hreader
  rw [hbody]
  exact hopens reader hreader.1 hreader.2.1 hreader.2.2.1

lemma exists_sends_sendKeyUpdate (requestPeerUpdate : Bool) :
    ∃ next, Sends lib stream (stream.sendKeyUpdate lib requestPeerUpdate)
      [.update requestPeerUpdate] next ∧ next.writeSeq = 0 := by
  obtain ⟨record, written, htalks, hseals, hnum, hhalf, hread⟩ :=
    exists_talks_writeRecord lib hstr "KeyUpdate encrypt: " (.update requestPeerUpdate)
  obtain ⟨secret, hsec, hlen⟩ := hstr.secret
  obtain ⟨newSecret, newKey, newNonce, hnext, hnew, hkey⟩ := exists_nextTrafficSecret lib hlen
  have hwrote : written.writeTrafficSecret = some secret := by
    have hsame := congrArg Half.secret hhalf
    exact hsame.trans hsec
  have hrot : ∃ next, written.rotateWriteKey lib = .ok next ∧ next.writeSeq = 0 ∧
      next.writeHalf = ⟨newKey, newNonce, 0, some newSecret⟩ ∧ next.readHalf = written.readHalf ∧
        next.usedWriteNonces = ∅ := by
    rw [rotateWriteKey, hwrote, hnext]
    exact ⟨_, rfl, rfl, rfl, rfl, rfl⟩
  obtain ⟨next, hok, hzero, hnextHalf, hnextRead, hnonces⟩ := hrot
  refine ⟨next, ⟨record, ?_, ?_, ?_, hnextRead.trans hread⟩, hzero⟩
  · exact Talks.last htalks (Talks.check (by rw [hok, mapError_ok]))
  · have hadvance := Half.advance_update lib hsec requestPeerUpdate hnext
    rw [hnextHalf, ← hadvance]
    exact .single hseals
  constructor
  · refine ⟨by rw [hzero]; decide, fun nonce hmem ↦ ?_⟩
    rw [hnonces] at hmem
    exact absurd hmem (Finset.notMem_empty nonce)
  · have hsame := congrArg Half.key hnextHalf
    exact (congrArg length hsame).trans hkey
  · rw [hnextHalf]
    exact ⟨newSecret, rfl, hnew⟩
  · rw [hzero]
    exact Nat.zero_le _

lemma exists_sends_flushPendingKeyUpdate : ∃ messages next, Message.contents messages = [] ∧
      Sends lib stream (stream.flushPendingKeyUpdate lib) messages next := by
  rw [flushPendingKeyUpdate]
  by_cases hpend : stream.keyUpdatePending = true
  · rw [if_pos hpend]
    have hcleared : ({ stream with keyUpdatePending := false } : RecordStream).CanWrite :=
      ⟨⟨hstr.numbered.bound, hstr.numbered.nonces⟩, hstr.key, hstr.secret, hstr.seq⟩
    obtain ⟨next, hsends, -⟩ := exists_sends_sendKeyUpdate lib hcleared false
    exact ⟨_, next, rfl, hsends⟩
  · rw [if_neg hpend]
    exact ⟨[], stream, rfl, sends_pure hstr⟩

lemma exists_sends_updateNearLimit :
    ∃ messages next, Message.contents messages = [] ∧
    Sends lib stream (stream.updateNearLimit lib) messages next ∧
        next.writeSeq < keyUpdateThreshold := by
  rw [updateNearLimit]
  by_cases hnear : stream.ShouldUpdateKey
  · obtain ⟨secret, hsec, -⟩ := hstr.secret
    have hsome : stream.writeTrafficSecret.isSome = true := Option.isSome_iff_exists.mpr ⟨_, hsec⟩
    rw [if_pos ⟨hnear, hsome⟩]
    obtain ⟨next, hsends, hzero⟩ := exists_sends_sendKeyUpdate lib hstr false
    refine ⟨_, next, rfl, hsends, ?_⟩
    rw [hzero]
    decide
  · rw [if_neg fun hboth ↦ hnear hboth.1]
    exact ⟨[], stream, rfl, sends_pure hstr, not_le.mp hnear⟩

lemma exists_sends_data (hbelow : stream.writeSeq < keyUpdateThreshold)
    (plaintext : Bytes) :
    ∃ next, Sends lib stream (stream.writeRecord lib "GCM encrypt: " (plaintext ++ [0x17]))
      [.data plaintext] next := by
  obtain ⟨record, next, htalks, hseals, hnum, hhalf, hread⟩ :=
    exists_talks_writeRecord lib hstr "GCM encrypt: " (.data plaintext)
  refine ⟨next, record, htalks, ?_, ?_, hread⟩
  · rw [hhalf]
    exact .single hseals
  constructor
  · exact hnum
  · have hkey := congrArg Half.key hhalf
    exact (congrArg length hkey).trans hstr.key
  · rw [hhalf]
    exact hstr.secret
  have hseq : next.writeSeq = stream.writeSeq + 1 := congrArg Half.seq hhalf
  rw [hseq]
  exact hbelow

lemma exists_sends_writeApplicationData (plaintext : Bytes) :
    ∃ updates next, Message.contents updates = [] ∧
      Sends lib stream (stream.writeApplicationData lib plaintext)
      (updates ++ [.data plaintext]) next := by
  obtain ⟨answers, answered, hanswers, hflush⟩ := exists_sends_flushPendingKeyUpdate lib hstr
  have hanswered : answered.CanWrite := hflush.choose_spec.2.2.1
  obtain ⟨updates, updated, hupdates, hupd, hbelow⟩ := exists_sends_updateNearLimit lib hanswered
  have hupdated : updated.CanWrite := hupd.choose_spec.2.2.1
  obtain ⟨next, hdata⟩ := exists_sends_data lib hupdated hbelow plaintext
  have hlimit : ¬ answered.IsKeyExhausted :=
    not_le.mpr (lt_of_le_of_lt hanswered.seq (by decide))
  refine ⟨answers ++ updates, next, ?_, ?_⟩
  · rw [Message.contents_append, hanswers, hupdates]
    rfl
  rw [append_assoc]
  refine hflush.bind ?_
  rw [writeBelowLimit, rejectIf_neg hlimit, Proc.check_ok_bind]
  exact hupd.bind hdata

end

variable {lib}

lemma writeApplicationData_eq (hpend : stream.keyUpdatePending = false)
    (hbelow : stream.writeSeq < keyUpdateThreshold) (plaintext : Bytes) :
    stream.writeApplicationData lib plaintext = stream.writeRecord lib "GCM encrypt: "
    (plaintext ++ [0x17]) := by
  have hnear : ¬ (stream.ShouldUpdateKey ∧ stream.writeTrafficSecret.isSome = true) :=
    fun hboth ↦ absurd hboth.1 (not_le.mpr hbelow)
  have hlimit : ¬ stream.IsKeyExhausted := not_le.mpr (lt_trans hbelow (by decide))
  have hflush : stream.flushPendingKeyUpdate lib = pure stream := by
    rw [flushPendingKeyUpdate, hpend]
    rfl
  rw [writeApplicationData, hflush, Proc.pure_bind, writeBelowLimit, rejectIf_neg hlimit,
    Proc.check_ok_bind, updateNearLimit, if_neg hnear, Proc.pure_bind]

/-! ### Reading -/

lemma processInnerHandshake_keyUpdateMessage (requestPeerUpdate : Bool) :
    stream.processInnerHandshake lib (keyUpdateMessage requestPeerUpdate) =
    (stream.processKeyUpdate lib
        (if requestPeerUpdate then .updateRequested else .updateNotRequested)).map Prod.snd := by
  have hlen : (keyUpdateMessage requestPeerUpdate).length = 5 := rfl
  have htype : (keyUpdateMessage requestPeerUpdate).headD 0 = 0x18 := rfl
  have hcount : beNat (((keyUpdateMessage requestPeerUpdate).drop 1).take 3) = 1 := by
    cases requestPeerUpdate <;> decide
  have hbody : ((keyUpdateMessage requestPeerUpdate).drop 4).take 1 =
      KeyUpdate.toBytes ⟨if requestPeerUpdate then .updateRequested else .updateNotRequested⟩ := rfl
  simp only [processInnerHandshake, hlen, htype, hcount, hbody, KeyUpdate.fromBytes_toBytes]
  rw [rejectIf_neg (by decide), rejectIf_bind (by decide), ok_bind, if_pos trivial, ok_bind]
  cases stream.processKeyUpdate lib _ <;> rfl

variable (lib) in
lemma exists_processKeyUpdate (hsec : stream.readHalf.HasSecret) (request : KeyUpdateRequest)
    (requestPeerUpdate : Bool) : ∃ answer next, stream.processKeyUpdate lib request =
    .ok (answer, next) ∧
      next.readHalf = stream.readHalf.advance lib (.update requestPeerUpdate) ∧ next.writeSide =
      stream.writeSide := by
  obtain ⟨secret, hsome, hlen⟩ := hsec
  obtain ⟨newSecret, newKey, newNonce, hnext, -, -⟩ := exists_nextTrafficSecret lib hlen
  have hread : stream.readTrafficSecret = some secret := hsome
  rw [Half.advance_update lib hsome requestPeerUpdate hnext, processKeyUpdate, rotateReadKey, hread,
    hnext, ok_bind, ok_bind]
  by_cases hreq : request = .updateRequested
  · rw [if_pos hreq]
    exact ⟨_, _, rfl, rfl, rfl⟩
  · rw [if_neg hreq]
    exact ⟨_, _, rfl, rfl, rfl⟩

variable (lib) in
lemma exists_interpret (hsec : stream.readHalf.HasSecret) (message : Message) :
    ∃ next, ({ stream with readSeq := stream.readSeq + 1 } : RecordStream).interpret
    lib message.inner =
        .ok (message.content, next) ∧
      next.readHalf = stream.readHalf.advance lib message ∧ next.writeSide = stream.writeSide := by
  cases message with
  | data plaintext =>
    refine ⟨{ stream with readSeq := stream.readSeq + 1 }, ?_, rfl, rfl⟩
    simp [interpret, Message.inner, Message.content, rejectIf]
  | update requestPeerUpdate =>
    have hcnt : ({ stream with readSeq := stream.readSeq + 1 } : RecordStream).readHalf.HasSecret :=
      hsec
    obtain ⟨answer, next, hok, hhalf, hside⟩ := exists_processKeyUpdate lib hcnt
      (if requestPeerUpdate then .updateRequested else .updateNotRequested) requestPeerUpdate
    refine ⟨next, ?_, ?_, hside⟩
    · simp [interpret, Message.inner, Message.content, rejectIf,
        processInnerHandshake_keyUpdateMessage, hok, Except.map]
    obtain ⟨secret, hsome, hlen⟩ := hsec
    obtain ⟨newSecret, newKey, newNonce, hnext, -, -⟩ := exists_nextTrafficSecret lib hlen
    have hcountedSome : ({ stream with readSeq := stream.readSeq + 1 } :
      RecordStream).readHalf.secret = some secret := hsome
    rw [Half.advance_update lib hsome requestPeerUpdate hnext, hhalf,
      Half.advance_update lib hcountedSome requestPeerUpdate hnext]

lemma runs_readBody (short long : String) (stream : RecordStream) {header body : Bytes}
    (hhdr : checkHeader header = .ok ()) (hwhole : body.length = beNat (header.drop 3)) :
    Runs (stream.readBody short long header) [.received body] (.ok body) := by
  obtain ⟨htype, hshort, hlong⟩ := checkHeader_eq_ok.mp hhdr
  refine runs_check_bind.mpr (.inr ⟨(), rejectIf_neg (not_not.mpr htype) _, ?_⟩)
  refine runs_check_bind.mpr (.inr ⟨(), rejectIf_neg (Nat.not_lt.mpr hshort) _, ?_⟩)
  refine runs_check_bind.mpr (.inr ⟨(), rejectIf_neg (Nat.not_lt.mpr hlong) _, ?_⟩)
  exact runs_readExact_ok.mpr ⟨hwhole, rfl⟩

variable {message : Message} {record : Bytes}

lemma talks_readRecord {content : Option Bytes} (hseals : stream.readHalf.Seals lib message record)
    (hfits : message.Fits)
    (hinterp : ({ stream with readSeq := stream.readSeq + 1 } : RecordStream).interpret lib
      message.inner = .ok (content, next)) :
    Talks (stream.readRecord lib) (receiving record) (content, next) := by
  obtain ⟨version, body, rfl, hlen, hopens⟩ := hseals
  have hopen := hopens stream rfl
  have hsize : beNat ((recordHeader version body.length).drop 3) = body.length := by
    rw [drop_recordHeader, beNat_beOctets (lt_of_le_of_lt (hlen.le.trans hfits) (by decide))]
  have hhdr : checkHeader (recordHeader version body.length) = .ok () := by
    refine checkHeader_eq_ok.mpr ⟨rfl, ?_, ?_⟩
    · rw [hsize]
      omega
    · rw [hsize]
      exact hlen.le.trans hfits
  have hbody : Talks (stream.readBody "record too short" "record exceeds size limit"
      (recordHeader version body.length)) (receiving body) body :=
    ⟨_, runs_readBody _ _ stream hhdr hsize.symm, by simp [Reliable], append_nil _⟩
  rw [receiving_append]
  refine .bind (.readExact _ (length_recordHeader version body.length)) (.last hbody ?_)
  exact .check_bind ((unprotect_eq_ok lib).mpr ⟨hopen, rfl⟩) (.check hinterp)

variable (lib) in
lemma exists_talks_readRecord (hseals : stream.readHalf.Seals lib message record)
    (hfits : message.Fits)
    (hsec : stream.readHalf.HasSecret) :
    ∃ next, Talks (stream.readRecord lib) (receiving record) (message.content, next) ∧
      next.readHalf = stream.readHalf.advance lib message ∧ next.writeSide = stream.writeSide := by
  obtain ⟨next, hinterp, hhalf, hside⟩ := exists_interpret lib hsec message
  exact ⟨next, talks_readRecord hseals hfits hinterp, hhalf, hside⟩

variable (lib) in
lemma concludes_readRecord_of_long (stream : RecordStream) {half : Half}
    (hseals : half.Seals lib message record) (hlong : ¬ message.Fits)
    (hsize : message.inner.length + 16 < 2 ^ 16) :
    ∃ header rest, record = header ++ rest ∧ Concludes (stream.readRecord lib) (receiving header)
      (.error (.handshakeFailed "record exceeds size limit", stream)) := by
  obtain ⟨version, body, rfl, hlen, -⟩ := hseals
  have hcount : beNat ((recordHeader version body.length).drop 3) = body.length := by
    rw [drop_recordHeader, beNat_beOctets (hlen.trans_lt hsize)]
  have htype : ¬ (recordHeader version body.length).headD 0 ≠ 0x17 := not_not.mpr rfl
  have hshort : ¬ body.length < 16 := by omega
  have hlimit : body.length > maxRecordSize := hlen.symm ▸ not_le.mp hlong
  have hrefuses : stream.readBody "record too short" "record exceeds size limit"
    (recordHeader version body.length) =
        .done (.error (.handshakeFailed "record exceeds size limit", stream)) := by
    simp only [readBody, hcount]
    rw [rejectIf_neg htype, rejectIf_neg hshort, rejectIf_pos hlimit]
    rfl
  refine ⟨_, body, rfl, ?_⟩
  rw [← append_nil (receiving _)]
  refine (Talks.readExact _ (length_recordHeader version body.length)).concludes_bind ?_
  rw [hrefuses]
  exact concludes_done_iff.mpr ⟨rfl, rfl⟩

def stillReading : TlsError := .panicked "out of fuel"

variable {script : Script} {result : Except (TlsError × RecordStream) (Option Bytes × RecordStream)}
  (lib)

lemma length_inbound_of_readRecord (hconc : Concludes (stream.readRecord lib) script result) :
    inbound script ≠ [] := by
  obtain ⟨header, after, hlen, rfl, -⟩ := hconc.of_readExact_bind
  rw [inbound_append, inbound_receiving]
  intro hnil
  rw [(append_eq_nil_iff.mp hnil).1] at hlen
  cases hlen

lemma concludes_readApplicationData (rounds : ℕ) {stream : RecordStream} {unread : List Message}
    {bytes rest : Bytes} {final : Half}
    {result : Except (TlsError × RecordStream) (Bytes × RecordStream)}
    (hflight : Half.InFlight lib stream.readHalf unread bytes final)
    (hfits : ∀ message ∈ unread, message.Fits) (hsec : stream.readHalf.HasSecret)
    (hconc : Concludes (stream.readApplicationData lib rounds) script result)
    (hbytes : bytes = inbound script ++ rest) : ∃ consumed remaining next,
    unread = consumed ++ remaining ∧
      Half.InFlight lib next.readHalf remaining rest final ∧ next.writeSide = stream.writeSide ∧
        next.readHalf.HasSecret ∧ outbound script = [] ∧
          ((∃ plaintext, result = .ok (plaintext, next) ∧ Message.contents consumed = [plaintext]) ∨
            result = .error (stillReading, next) ∧ Message.contents consumed = []) := by
  induction rounds generalizing stream unread bytes script with
  | zero =>
    obtain ⟨rfl, rfl⟩ := concludes_done_iff.mp hconc
    subst hbytes
    exact ⟨[], unread, stream, rfl, hflight, rfl, hsec, rfl, .inr ⟨rfl, rfl⟩⟩
  | succ rounds ih =>
    cases hflight with
    | nil =>
      -- nothing is on its way, so not even a header can be read
      obtain ⟨hnone, -⟩ := append_eq_nil_iff.mp hbytes.symm
      rcases hconc.of_bind with ⟨error, -, hread⟩ | ⟨value, before, after, rfl, hread, -⟩
      · exact absurd hnone (length_inbound_of_readRecord lib hread)
      · rw [inbound_append] at hnone
        exact absurd (append_eq_nil_iff.mp hnone).1
          (length_inbound_of_readRecord lib hread.concludes)
    | @cons _ _ message messages record others hseals hrest =>
      obtain ⟨next, htalks, hhalf, hside⟩ :=
        exists_talks_readRecord lib hseals (hfits _ mem_cons_self) hsec
      have hnextSecret : next.readHalf.HasSecret := hhalf ▸ hsec.advance lib message
      rw [← hhalf] at hrest
      have hin {script : Script} {left : Bytes} (heq : record ++ others = inbound script ++ left) :
          inbound (receiving record) ++ others = inbound script ++ left := by
        rw [inbound_receiving, heq]
      rcases hconc.of_bind with ⟨error, -, hread⟩ | ⟨value, before, after, rfl, hread, hafter⟩
      · cases (htalks.concludes.unique hread (hin hbytes)).2
      rw [inbound_append, append_assoc] at hbytes
      obtain ⟨rfl, rfl⟩ := htalks.unique hread (hin hbytes)
      rw [inbound_receiving] at hbytes
      have hothers := append_cancel_left hbytes
      cases message with
      | data plaintext =>
        obtain ⟨rfl, rfl⟩ := concludes_done_iff.mp hafter
        subst hothers
        refine ⟨[.data plaintext], messages, next, rfl, hrest, hside, hnextSecret, ?_,
          .inl ⟨plaintext, rfl, rfl⟩⟩
        rw [append_nil, outbound_receiving]
      | update requestPeerUpdate =>
        obtain ⟨consumed, remaining, last, rfl, hlast, hlastSide, hlastSecret, hsilent, hout⟩ :=
          ih hrest (forall_mem_cons.mp hfits).2 hnextSecret hafter hothers
        refine ⟨.update requestPeerUpdate :: consumed, remaining, last, rfl, hlast,
          hlastSide.trans hside, hlastSecret, ?_, hout⟩
        rw [outbound_append, outbound_receiving, hsilent]
        rfl

def settled {ε α : Type} : Except (ε × RecordStream) (α × RecordStream) → RecordStream
  | .ok (_, stream) => stream
  | .error (_, stream) => stream

lemma writeSide_unprotect {ε : Type} (onNonce : TlsError → ε) (onSequence : ε)
    (onKey : TlsError → ε) (onCipher : CryptoError → ε) (stream : RecordStream)
    (header buf : Bytes) :
    (settled (stream.unprotect lib onNonce onSequence onKey onCipher header buf)).writeSide =
    stream.writeSide := by
  unfold unprotect
  cases nextNonce stream.readNonce stream.readSeq with
  | error error => rfl
  | ok nonce =>
    rw [mapError_ok, ok_bind]
    by_cases hlast : stream.readSeq = 2 ^ 64 - 1
    · rw [rejectIf_pos hlast]
      rfl
    rw [rejectIf_bind hlast]
    cases getCipher stream.readKey with
    | error error => rfl
    | ok cipher =>
      simp only [mapError_ok, ok_bind]
      cases cipher.decryptGcm lib.sm4 (buf.take (buf.length - 16)) nonce.bytes
          (recordAad stream.readSeq header) (buf.drop (buf.length - 16)) with
      | error error => rfl
      | ok plaintext => rfl

lemma writeSide_of_processInnerHandshake {msg : Bytes}
    (hproc : stream.processInnerHandshake lib msg = .ok next) :
    next.writeSide = stream.writeSide := by
  simp only [processInnerHandshake, bind_eq_ok] at hproc
  obtain ⟨-, -, -, -, hproc⟩ := hproc
  split_ifs at hproc
  · simp only [bind_eq_ok] at hproc
    obtain ⟨update, -, ⟨answer, middle⟩, hupd, hmiddle⟩ := hproc
    obtain rfl := Except.ok.inj hmiddle
    exact WriteCall.quiet_of_processKeyUpdate hupd
  · obtain rfl := Except.ok.inj hproc
    rfl

lemma writeSide_interpret (stream : RecordStream) (plaintext : Bytes) :
    (settled (stream.interpret lib plaintext)).writeSide = stream.writeSide := by
  unfold interpret
  by_cases hempty : plaintext = []
  · rw [rejectIf_pos hempty]
    rfl
  rw [rejectIf_bind hempty]
  by_cases hdata : plaintext.getLastD 0 = 0x17
  · rw [if_pos hdata]
    rfl
  rw [if_neg hdata]
  by_cases hhs : plaintext.getLastD 0 = 0x16
  · rw [if_pos hhs]
    cases hproc : stream.processInnerHandshake lib plaintext.dropLast with
    | error error => rfl
    | ok next => exact writeSide_of_processInnerHandshake lib hproc
  · rw [if_neg hhs]
    rfl

lemma length_of_interpret {plaintext content : Bytes}
    (hinterp : stream.interpret lib plaintext = .ok (some content, next)) :
    content.length + 1 = plaintext.length := by
  unfold interpret at hinterp
  by_cases hempty : plaintext = []
  · rw [rejectIf_pos hempty] at hinterp
    cases hinterp
  rw [rejectIf_bind hempty] at hinterp
  by_cases hdata : plaintext.getLastD 0 = 0x17
  · rw [if_pos hdata] at hinterp
    cases hinterp
    rw [length_dropLast]
    exact Nat.succ_pred_eq_of_pos (length_pos_iff.mpr hempty)
  rw [if_neg hdata] at hinterp
  by_cases hhs : plaintext.getLastD 0 = 0x16
  · rw [if_pos hhs] at hinterp
    cases hproc : stream.processInnerHandshake lib plaintext.dropLast with
    | error error =>
      rw [hproc] at hinterp
      cases hinterp
    | ok next =>
      rw [hproc] at hinterp
      cases hinterp
  · rw [if_neg hhs] at hinterp
    cases hinterp

variable {script : Script}

lemma concludes_readBody {short long : String} {header : Bytes}
    {result : Except (TlsError × RecordStream) Bytes}
    (hconc : Concludes (stream.readBody short long header) script result) :
    (∃ error, result = .error (error, stream)) ∨
      ∃ body, result = .ok body ∧ body.length ≤ maxRecordSize ∧ inbound script = body := by
  rcases hconc.of_check_bind with ⟨error, hreject, rfl, -⟩ | ⟨-, -, hconc⟩
  · exact .inl ⟨_, congrArg Except.error (rejectIf_eq_error.mp hreject).2.symm⟩
  rcases hconc.of_check_bind with ⟨error, hreject, rfl, -⟩ | ⟨-, -, hconc⟩
  · exact .inl ⟨_, congrArg Except.error (rejectIf_eq_error.mp hreject).2.symm⟩
  rcases hconc.of_check_bind with ⟨error, hreject, rfl, -⟩ | ⟨_, hlimit, hconc⟩
  · exact .inl ⟨_, congrArg Except.error (rejectIf_eq_error.mp hreject).2.symm⟩
  obtain ⟨body, hlen, rfl, rfl⟩ := hconc.of_readExact
  exact .inr ⟨body, rfl, hlen.trans_le (not_lt.mp (rejectIf_eq_ok.mp hlimit)),
    inbound_receiving body⟩

lemma concludes_readRecord
    (hconc : Concludes (stream.readRecord lib) script result) :
    (settled result).writeSide = stream.writeSide ∧
      ∀ content next, result = .ok (some content, next) →
        content.length ≤ Message.maxPlaintext ∧ content.length + 22 ≤ (inbound script).length := by
  obtain ⟨header, after, hfive, rfl, hafter⟩ := hconc.of_readExact_bind
  rcases hafter.of_bind with ⟨error, rfl, hbody⟩ | ⟨body, _, _, rfl, hbody, hopen⟩
  · rcases concludes_readBody hbody with ⟨failure, heq⟩ | ⟨body, hok, -⟩
    · cases heq
      exact ⟨rfl, fun _ _ hok ↦ by cases hok⟩
    · cases hok
  obtain ⟨_, heq⟩ | ⟨_, heq, hlimit, hin⟩ := concludes_readBody hbody.concludes
  · cases heq
  cases heq
  have hopened := writeSide_unprotect lib (fun e ↦ e) .sequenceOverflow (fun e ↦ e)
    (fun e ↦ .cipherError ("GCM decrypt: " ++ e.debug)) stream header body
  rcases hopen.of_check_bind with ⟨error, herror, rfl, -⟩ | ⟨⟨plaintext, counted⟩, hok, hrest⟩
  · rw [herror] at hopened
    exact ⟨hopened, fun _ _ hok ↦ by cases hok⟩
  rw [hok] at hopened
  obtain ⟨-, rfl⟩ := concludes_done_iff.mp hrest
  refine ⟨(writeSide_interpret lib counted plaintext).trans hopened, fun content next hcontent ↦ ?_⟩
  have hlen := length_of_interpret lib hcontent
  have hplain := length_le_of_opened lib ((unprotect_eq_ok lib).mp hok).1
  have hsum : Message.maxPlaintext + 17 = maxRecordSize := by decide
  rw [inbound_append, inbound_append, inbound_receiving, hin, length_append, length_append]
  omega

lemma concludes_readApplicationData_any (rounds : ℕ) {stream : RecordStream}
    {result : Except (TlsError × RecordStream) (Bytes × RecordStream)}
    (hconc : Concludes (stream.readApplicationData lib rounds) script result) :
    (settled result).writeSide = stream.writeSide ∧ ∀ content next, result = .ok (content, next) →
        content.length ≤ Message.maxPlaintext ∧ content.length + 22 ≤ (inbound script).length := by
  induction rounds generalizing stream script with
  | zero =>
    obtain ⟨-, rfl⟩ := concludes_done_iff.mp hconc
    exact ⟨rfl, fun _ _ hok ↦ by cases hok⟩
  | succ rounds ih =>
    rcases hconc.of_bind with ⟨error, rfl, hread⟩ | ⟨⟨content, next⟩, _, _, rfl, hread, hrest⟩
    · exact ⟨(concludes_readRecord lib hread).1, fun _ _ hok ↦ by cases hok⟩
    obtain ⟨hside, hlen⟩ := concludes_readRecord lib hread.concludes
    rw [inbound_append, length_append]
    cases content with
    | some content =>
      obtain ⟨-, rfl⟩ := concludes_done_iff.mp hrest
      refine ⟨hside, fun returned final hok ↦ ?_⟩
      cases hok
      exact (hlen content next rfl).imp_right (le_add_right ·)
    | none =>
      obtain ⟨hafter, hret⟩ := ih hrest
      exact ⟨hafter.trans hside, fun returned final hok ↦
        (hret returned final hok).imp_right (le_add_left ·)⟩

variable {lib}

lemma writeKey_of_moves {allowed : ℕ → Prop} (hkey : stream.writeKey.length ≠ 16)
    (hmoves : Relation.ReflTransGen (Moves lib allowed) stream next) :
    next.writeKey.length ≠ 16 := by
  induction hmoves with
  | refl => exact hkey
  | tail _ hmove ih =>
    cases hmove with
    | quiet hsame =>
      simp only [writeSide, Prod.mk.injEq] at hsame
      rwa [hsame.1]
    | count => exact ih
    | encrypt husable => exact absurd husable ih
    | rotate husable => exact absurd husable ih

variable {trace : List (Event TlsNote)}

variable (hstr : stream.WellNumbered)

include hstr

variable (hkey : stream.writeKey.length ≠ 16)

include hkey

lemma not_runs_writeRecord {text : String} {inner : Bytes}
    (hruns : Runs (stream.writeRecord lib text inner) trace (.ok next)) : False := by
  rcases runs_writeRecord lib hstr hruns with ⟨-, error, herror⟩ | ⟨-, _, _, _, -, -,
    ⟨-, error, herror⟩ | ⟨husable, -⟩⟩
  · cases herror
  · cases herror
  · exact hkey husable

lemma not_runs_sendKeyUpdate {requestPeerUpdate : Bool}
    (hruns : Runs (stream.sendKeyUpdate lib requestPeerUpdate) trace (.ok next)) : False := by
  obtain ⟨before, written, hwrote, ⟨error, herror, -⟩ | ⟨middle, _, rfl, -, -⟩⟩ :=
    runs_sendKeyUpdate hruns
  · cases herror
  · exact not_runs_writeRecord hstr hkey hwrote

lemma not_runs_writeApplicationData {plaintext : Bytes}
    (hruns : Runs (stream.writeApplicationData lib plaintext) trace (.ok next)) : False := by
  obtain ⟨flushed, _, _, -, hflush, hbelow⟩ := runs_bind_ok.mp hruns
  unfold flushPendingKeyUpdate at hflush
  split_ifs at hflush
  · have hcleared : ({ stream with keyUpdatePending := false } : RecordStream).WellNumbered :=
      ⟨hstr.bound, hstr.nonces⟩
    exact not_runs_sendKeyUpdate hcleared hkey hflush
  obtain ⟨-, hsame⟩ := runs_done_iff.mp hflush
  cases hsame
  obtain ⟨-, -, hbelow⟩ := runs_check_bind_ok.mp hbelow
  obtain ⟨updated, _, _, -, hupd, hwrite⟩ := runs_bind_ok.mp hbelow
  unfold updateNearLimit at hupd
  split_ifs at hupd
  · exact not_runs_sendKeyUpdate hstr hkey hupd
  obtain ⟨-, hsame⟩ := runs_done_iff.mp hupd
  cases hsame
  exact not_runs_writeRecord hstr hkey hwrite

end RecordStream

end GmStack.Tls
