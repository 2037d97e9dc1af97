import GmStack.Foundation.Polling
import GmStack.Tlcp.Delivery

/-! The asynchronous side of `TlcpStream`: `poll_read`, `poll_write`, `poll_shutdown` and `close`.
-/

namespace GmStack.Tlcp

open Foundation Crypto List TlcpStream

/-- `TlcpStream` with the decrypted data that was not handed out yet and with `close_notify_sent`.
-/
structure PolledStream where
  stream : TlcpStream
  readBuf : Bytes
  closeNotifySent : Bool

def headerOf (filled : Bytes) : Bytes := filled ++ List.replicate (5 - filled.length) 0

def checkHeader (header : Bytes) : Except String Unit := do
  let version := (header.drop 1).take 2
  rejectIf (version ≠ [0x01, 0x01]) ("unexpected TLCP version: " ++ hexOctet (version.headD 0) ++
    hexOctet ((version.drop 1).headD 0))
  rejectIf (beNat (header.drop 3) > maxRecordSize) "TLCP record exceeds size limit"

lemma length_headerOf {filled : Bytes} (hfilled : filled.length ≤ 5) :
    (headerOf filled).length = 5 := by
  rw [headerOf, length_append, length_replicate]
  omega

lemma checkHeader_eq_ok {header : Bytes} : checkHeader header = .ok () ↔
      (header.drop 1).take 2 = [0x01, 0x01] ∧ beNat (header.drop 3) ≤ maxRecordSize := by
  simp only [checkHeader, unit_bind_eq_ok, rejectIf_eq_ok, not_not, gt_iff_lt, Nat.not_lt]

section Polls

variable (sm3 : Sm3Library) (sm4 : Sm4Library)

def TlcpStream.openPolled (stream : TlcpStream) (buf header : Bytes) : Except String Bytes :=
  if stream.cipherSuite.gcm then do
    rejectIf (buf.length < 8 + 16) "TLCP GCM record too short"
    let tag := buf.drop (buf.length - 16)
    let ciphertext := (buf.take (buf.length - 16)).drop 8
    let nonce ← (nextNonce stream.readNonce (stream.readSeq - 1)).mapError fun e ↦
      "Nonce overflow: " ++ e.display
    let aad := recordAad (stream.readSeq - 1) (header.take 3) ciphertext.length
    let cipher ← (TlcpStream.getCipher stream.readKey).mapError fun e ↦
      "SM4 key error: " ++ e.display
    (cipher.decryptGcm sm4 ciphertext nonce.bytes aad tag).mapError fun e ↦
      "GCM decryption failed: " ++ e.debug
  else (stream.decryptCbc sm3 sm4 buf header).mapError fun e ↦ "CBC decryption failed: " ++ e.debug

namespace PolledStream

def deliver (capacity : ℕ) (data : Bytes) : PollM PolledStream Bytes := do
  let state ← PollM.get
  PollM.set { state with readBuf := data.drop capacity }
  pure (data.take capacity)

def pollData (capacity : ℕ) (header buf : Bytes) : PollM PolledStream Bytes := do
  let state ← PollM.get
  let counted ← PollM.check (state.stream.countRead.mapError fun _ ↦ "Sequence overflow")
  PollM.set { state with stream := counted }
  let plaintext ← PollM.check (counted.openPolled sm3 sm4 buf header)
  if plaintext = [0x01, 0x00] then pure []
  else deliver capacity plaintext

def pollAlert (buf : Bytes) : PollM PolledStream Bytes :=
  if buf.take 2 = [0x01, 0x00] then pure []
  else PollM.exit (.failed ("TLCP alert: level=" ++ toString (buf.headD 0).toNat ++
    " description=" ++
    toString ((buf.drop 1).headD 0).toNat))

def pollRecord (capacity : ℕ) (header : Bytes) : PollM PolledStream Bytes := do
  PollM.check (checkHeader header)
  let ctLen := beNat (header.drop 3)
  if header.headD 0 = 0x17 then
    let buf ← PollM.readLoop "TLCP record read incomplete" (fun _ state ↦ state) ctLen ctLen
    pollData sm3 sm4 capacity header buf
  else if header.headD 0 = 0x15 then
    let buf ← PollM.readLoop "TLCP alert read incomplete" (fun _ state ↦ state) ctLen ctLen
    pollAlert buf
  else PollM.exit (.failed ("unexpected TLCP content type: 0x" ++ hexOctet (header.headD 0)))

def pollRead (capacity : ℕ) : PollM PolledStream Bytes := do
  let state ← PollM.get
  if state.readBuf ≠ [] then deliver capacity state.readBuf
  else do
    let filled ← PollM.readSome 5
    pollRecord sm3 sm4 capacity (headerOf filled)

def pollWrite (plaintext : Bytes) (iv : Octets 16) : PollM PolledStream ℕ := do
  let state ← PollM.get
  let counted ← PollM.check (state.stream.countWrite "Sequence overflow")
  PollM.set { state with stream := counted }
  let record ← PollM.check (counted.pollWriteRecord sm3 sm4 plaintext iv)
  PollM.writeLoop "failed to write record" record.length record
  pure plaintext.length

def announceEnd (counted : TlcpStream) (iv : Octets 16) : PollM PolledStream Unit := do
  let state ← PollM.get
  PollM.set { state with stream := counted }
  match counted.pollWriteRecord sm3 sm4 [0x01, 0x00] iv with
  | .error _ => pure ()
  | .ok record =>
    let ended ← PollM.attempt (PollM.writeLoop "" record.length record)
    if ended = .pending then PollM.exit .pending else pure ()
  PollM.set { state with stream := counted, closeNotifySent := true }

def pollShutdown (iv : Octets 16) : PollM PolledStream Unit := do
  let state ← PollM.get
  if state.closeNotifySent then PollM.shut
  else match state.stream.countWrite () with
    | .error _ => PollM.shut
    | .ok counted => do
      announceEnd sm3 sm4 counted iv
      PollM.shut

def close (state : PolledStream) (iv : Octets 16) : Handshake PolledStream :=
  if state.closeNotifySent then pure state
  else do
    let stream ← state.stream.writeEncryptedRecordWithType sm3 sm4 0x17 [0x01, 0x00] iv
    pure { state with stream, closeNotifySent := true }

end PolledStream

def TlcpStream.opened (stream : TlcpStream) (header buf : Bytes) : Option Bytes :=
  (stream.countRead >>= fun counted ↦ counted.unprotect sm3 sm4 buf header).toOption

variable {header buf plaintext : Bytes} {stream : TlcpStream}

lemma TlcpStream.opened_eq_some :
    stream.opened sm3 sm4 header buf = some plaintext ↔ ∃ counted, stream.countRead = .ok counted ∧
        counted.unprotect sm3 sm4 buf header = .ok plaintext := by
  rw [opened, toOption_eq_some, bind_eq_ok]

lemma TlcpStream.openPolled_eq_ok :
    stream.openPolled sm3 sm4 buf header = .ok plaintext ↔ stream.unprotect sm3 sm4 buf header =
    .ok plaintext := by
  rw [openPolled, unprotect]
  split_ifs with hgcm
  · simp only [decryptGcm, bind_eq_ok, mapError_eq_ok, rejectIf_eq_ok]
  · rw [mapError_eq_ok]

namespace PolledStream

def counted (start : PolledStream) : PolledStream :=
  { start with stream := { start.stream with readSeq := start.stream.readSeq + 1 } }

variable {sm3 sm4} {capacity : ℕ} {header buf plaintext : Bytes} {start state : PolledStream}
  {trace : List Exchange}

lemma pollData_of_opened (hopened : start.stream.opened sm3 sm4 header buf = some plaintext) :
    pollData sm3 sm4 capacity header buf start =
      if plaintext = [0x01, 0x00] then .done start.counted (.ready [])
      else .done { start.counted with readBuf := plaintext.drop capacity }
      (.ready (plaintext.take capacity)) := by
  obtain ⟨counted, hcount, hopen⟩ := (opened_eq_some sm3 sm4).mp hopened
  obtain ⟨-, rfl⟩ := countRead_eq_ok.mp hcount
  have hpolled := (openPolled_eq_ok sm3 sm4).mpr hopen
  show ((PollM.check (start.stream.countRead.mapError fun _ ↦ "Sequence overflow") start).bind _) =
    _
  rw [hcount]
  show ((PollM.check (openPolled sm3 sm4 _ buf header) _).bind _) = _
  rw [hpolled]
  show (if plaintext = [0x01, 0x00] then pure [] else deliver capacity plaintext :
    PollM PolledStream Bytes)
    start.counted = _
  split_ifs <;> rfl

lemma pollData_of_not_opened (hopened : start.stream.opened sm3 sm4 header buf = none) :
    ∃ text, pollData sm3 sm4 capacity header buf start = .done start (.failed text) ∨
      pollData sm3 sm4 capacity header buf start = .done start.counted (.failed text) := by
  have hdata : pollData sm3 sm4 capacity header buf start =
      ((PollM.check (start.stream.countRead.mapError fun _ ↦ "Sequence overflow") start).bind _) :=
      rfl
  cases hcount : start.stream.countRead with
  | error error =>
    rw [hcount] at hdata
    exact ⟨_, .inl hdata⟩
  | ok counted =>
    obtain ⟨-, rfl⟩ := countRead_eq_ok.mp hcount
    rw [hcount] at hdata
    cases hopen : openPolled sm3 sm4 _ buf header with
    | error text =>
      refine ⟨text, .inr (hdata.trans ?_)⟩
      show ((PollM.check (openPolled sm3 sm4 _ buf header) _).bind _) = _
      rw [hopen]
      rfl
    | ok plaintext =>
      have hsome := (opened_eq_some sm3 sm4).mpr ⟨_, hcount, (openPolled_eq_ok sm3 sm4).mp hopen⟩
      rw [hopened] at hsome
      cases hsome

variable (sm3 sm4) in
/-- All that `poll_read` can do after its header. -/
inductive RecordPoll (capacity : ℕ) (header : Bytes) (start : PolledStream) :
    List Exchange → PolledStream → Polled Bytes → Prop
  | rejected {text : String} (hheader : checkHeader header = .error text) :
      RecordPoll capacity header start [] start (.failed text)
  | unexpected {text : String} (htype : header.headD 0 ≠ 0x17 ∧ header.headD 0 ≠ 0x15) :
      RecordPoll capacity header start [] start (.failed text)
  | stopped {chunks : List Exchange} {last : Exchange} {eof : String} {outcome : Polled Bytes}
      (hchunks : Chunks chunks) (hlast : ReadStops eof last outcome)
      (hshort : (received (chunks ++ [last])).length < beNat (header.drop 3)) :
      RecordPoll capacity header start (chunks ++ [last]) start outcome
  | data {chunks : List Exchange} {state : PolledStream} {outcome : Polled Bytes}
      (hheader : checkHeader header = .ok ()) (htype : header.headD 0 = 0x17)
        (hchunks : Chunks chunks)
      (hlength : (received chunks).length = beNat (header.drop 3))
      (hdata : pollData sm3 sm4 capacity header (received chunks) start = .done state outcome) :
      RecordPoll capacity header start chunks state outcome
  | alert {chunks : List Exchange} {state : PolledStream} {outcome : Polled Bytes}
      (hheader : checkHeader header = .ok ()) (htype : header.headD 0 = 0x15)
        (hchunks : Chunks chunks)
      (hlength : (received chunks).length = beNat (header.drop 3))
      (halert : pollAlert (received chunks) start = .done state outcome) :
      RecordPoll capacity header start chunks state outcome

variable (sm3 sm4) in
lemma exists_pollData_eq_done (capacity : ℕ) (header buf : Bytes) (start : PolledStream) :
    ∃ state outcome, pollData sm3 sm4 capacity header buf start = .done state outcome := by
  cases hopened : start.stream.opened sm3 sm4 header buf with
  | some plaintext =>
    rw [pollData_of_opened hopened]
    split_ifs <;> exact ⟨_, _, rfl⟩
  | none =>
    obtain ⟨text, hdone | hdone⟩ := pollData_of_not_opened hopened <;> exact ⟨_, _, hdone⟩

lemma exists_pollAlert_eq_done (buf : Bytes) (start : PolledStream) :
    ∃ outcome, pollAlert buf start = .done start outcome := by
  rw [pollAlert]
  split_ifs <;> exact ⟨_, rfl⟩

variable {outcome : Polled Bytes}

lemma polls_pollRecord (hpolls : Polls (pollRecord sm3 sm4 capacity header start)
    trace state outcome) :
    RecordPoll sm3 sm4 capacity header start trace state outcome := by
  rcases polls_check_bind.mp hpolls with ⟨text, hhdr, rfl, rfl, rfl⟩ | ⟨⟨⟩, hhdr, hrest⟩
  · exact .rejected hhdr
  by_cases hdataType : header.headD 0 = 0x17
  · rw [if_pos hdataType] at hrest
    rcases polls_readLoop_bind (fun _ ↦ rfl) (fun _ _ _ ↦ rfl) hrest with
      ⟨rfl, hshort, chunks, last, rfl, hchunks, hlast⟩ | ⟨chunks, after, rfl, hchunks, hlen, hdata⟩
    · exact .stopped hchunks hlast hshort
    obtain ⟨final, answer, hdone⟩ := exists_pollData_eq_done sm3 sm4 capacity header
      (received chunks) start
    rw [hdone] at hdata
    obtain ⟨rfl, rfl, rfl⟩ := polls_done_iff.mp hdata
    rw [append_nil]
    exact .data hhdr hdataType hchunks hlen hdone
  rw [if_neg hdataType] at hrest
  by_cases halertType : header.headD 0 = 0x15
  · rw [if_pos halertType] at hrest
    rcases polls_readLoop_bind (fun _ ↦ rfl) (fun _ _ _ ↦ rfl) hrest with
      ⟨rfl, hshort, chunks, last, rfl, hchunks, hlast⟩ | ⟨chunks, after, rfl, hchunks, hlen, halert⟩
    · exact .stopped hchunks hlast hshort
    obtain ⟨answer, hdone⟩ := exists_pollAlert_eq_done (received chunks) start
    rw [hdone] at halert
    obtain ⟨rfl, rfl, rfl⟩ := polls_done_iff.mp halert
    rw [append_nil]
    exact .alert hhdr halertType hchunks hlen hdone
  rw [if_neg halertType] at hrest
  obtain ⟨rfl, rfl, rfl⟩ := polls_exit.mp hrest
  exact .unexpected ⟨hdataType, halertType⟩

lemma polls_pollRead (hpolls : Polls (pollRead sm3 sm4 capacity start) trace state outcome) :
    (start.readBuf ≠ [] ∧ trace = [] ∧
    state = { start with readBuf := start.readBuf.drop capacity } ∧
        outcome = .ready (start.readBuf.take capacity)) ∨
      (start.readBuf = [] ∧ ((trace = [.readPending] ∧ state = start ∧ outcome = .pending) ∨
          (∃ text, trace = [.readFailed text] ∧ state = start ∧ outcome = .failed text) ∨
            ∃ filled rest, trace = .received filled :: rest ∧ filled.length ≤ 5 ∧
              RecordPoll sm3 sm4 capacity (headerOf filled) start rest state outcome)) := by
  replace hpolls := polls_get_bind.mp hpolls
  by_cases hbuf : start.readBuf = []
  · rw [if_neg (not_not.mpr hbuf)] at hpolls
    refine .inr ⟨hbuf, ?_⟩
    rcases Polls.of_readSome_bind hpolls with hpend | hfailed | ⟨filled, rest, rfl, hroom, hrest⟩
    · exact .inl hpend
    · exact .inr (.inl hfailed)
    · exact .inr (.inr ⟨filled, rest, rfl, hroom, polls_pollRecord hrest⟩)
  rw [if_pos hbuf] at hpolls
  obtain ⟨rfl, rfl, rfl⟩ := polls_done_iff.mp hpolls
  exact .inl ⟨hbuf, rfl, rfl, rfl⟩

lemma polls_pollWrite {iv : Octets 16} {outcome : Polled ℕ}
    (hpolls : Polls (pollWrite sm3 sm4 plaintext iv start) trace state outcome) :
    (start.stream.writeSeq = 2 ^ 64 - 1 ∧ trace = [] ∧ state = start ∧
        outcome = .failed "Sequence overflow") ∨
      ∃ counted, start.stream.countWrite "Sequence overflow" = .ok counted ∧
        state = { start with stream := counted } ∧
          ((∃ text, counted.pollWriteRecord sm3 sm4 plaintext iv = .error text ∧ trace = [] ∧
          outcome = .failed text) ∨
            ∃ record, counted.pollWriteRecord sm3 sm4 plaintext iv = .ok record ∧
              ((outcome = .ready plaintext.length ∧ accepted trace = record ∧ Pieces trace) ∨
                ∃ left pieces last, record = accepted trace ++ left ∧ left ≠ [] ∧ trace = pieces ++
                [last] ∧ Pieces pieces ∧
                    WriteStops "failed to write record" last outcome)) := by
  rcases polls_check_bind.mp hpolls with ⟨text, hcount, rfl, rfl, rfl⟩ | ⟨counted, hcount, hrest⟩
  · by_cases hlast : state.stream.writeSeq = 2 ^ 64 - 1
    · rw [countWrite, rejectIf_pos hlast, error_bind] at hcount
      exact .inl ⟨hlast, rfl, rfl, by rw [Except.error.inj hcount]⟩
    · rw [countWrite, rejectIf_bind hlast] at hcount
      cases hcount
  refine .inr ⟨counted, hcount, ?_⟩
  rcases polls_check_bind.mp hrest with ⟨text, hseal, rfl, rfl, rfl⟩ | ⟨record, hseal, hwrite⟩
  · exact ⟨rfl, .inl ⟨text, hseal, rfl, rfl⟩⟩
  rcases polls_writeLoop_bind hwrite with ⟨rfl, hstopped⟩ | ⟨pieces, after, rfl,
    hpieces, hwhole, hdone⟩
  · exact ⟨rfl, .inr ⟨record, hseal, .inr hstopped⟩⟩
  obtain ⟨rfl, rfl, rfl⟩ := polls_pure.mp hdone
  rw [append_nil]
  exact ⟨rfl, .inr ⟨record, hseal, .inl ⟨rfl, hwhole, hpieces⟩⟩⟩

end PolledStream

end Polls

def miniPolled (isClient : Bool) : PolledStream := ⟨miniStream .eccSm4GcmSm3 isClient, [], false⟩

lemma miniPolled_delivers : (miniPolled true).stream.Delivers (miniPolled false).stream :=
  delivers_new _ _ true _

def miniRecord (seq : ℕ) (plaintext : Bytes) : Bytes :=
  (({ miniStream .eccSm4GcmSm3 true with writeSeq := seq + 1 } : TlcpStream).pollWriteRecord
    Tls.miniSm3
    Tls.miniSm4 plaintext (.fill 16 0)).toOption.getD []

def miniBody (plaintext : Bytes) : Bytes := (miniRecord 0 plaintext).drop 5

end GmStack.Tlcp
