import GmStack.Foundation.Polling
import GmStack.Tls.RecordLayer

/-! `poll_read`, `poll_write` and `poll_shutdown` of `gm-tls/src/record_layer.rs`. A polled write
builds its record anew on every poll. -/

namespace GmStack.Tls

open Foundation Crypto List Polls

variable {F P : Type} [CommRing F] [AddCommGroup P] [Module F P] (lib : TlsLibrary F P)

/-- `ReadState`: the octets of the header and of the body that have arrived, and the length of the
body once it is known. -/
structure ReadState where
  header : Bytes
  ctLen : ℕ
  body : Bytes

def ReadState.empty : ReadState := ⟨[], 0, []⟩

/-- A stream with the decrypted data that was not handed out yet and the record that is being read.
-/
structure PolledStream where
  stream : RecordStream
  readBuf : Bytes
  readState : ReadState

def checkHeader (header : Bytes) : Except String Unit := do
  rejectIf (header.headD 0 ≠ 0x17) ("expected application_data record 0x17, got 0x" ++
    hexOctet (header.headD 0))
  rejectIf (beNat (header.drop 3) < 16) "TLS record too short"
  rejectIf (beNat (header.drop 3) > maxRecordSize) "TLS record exceeds size limit"

lemma checkHeader_eq_ok {header : Bytes} : checkHeader header = .ok () ↔
      header.headD 0 = 0x17 ∧ 16 ≤ beNat (header.drop 3) ∧ beNat (header.drop 3) ≤
      maxRecordSize := by
  simp only [checkHeader, unit_bind_eq_ok, rejectIf_eq_ok, not_not, gt_iff_lt, Nat.not_lt]

namespace PolledStream

def storeHeader (chunk : Bytes) (state : PolledStream) : PolledStream :=
  { state with readState := { state.readState with header := state.readState.header ++ chunk } }

def storeBody (chunk : Bytes) (state : PolledStream) : PolledStream :=
  { state with readState := { state.readState with body := state.readState.body ++ chunk } }

def deliver (capacity : ℕ) (data : Bytes) : PollM PolledStream Bytes := do
  let state ← PollM.get
  PollM.set { state with readBuf := data.drop capacity }
  pure (data.take capacity)

def beginBody (ctLen : ℕ) (state : PolledStream) : PolledStream :=
  if state.readState.ctLen ≠ ctLen then
    { state with readState := { state.readState with ctLen := ctLen, body := [] } }
  else state

def pollInner (capacity : ℕ) (plaintext : Bytes) : PollM PolledStream Bytes := do
  let state ← PollM.get
  let inner := plaintext.dropLast
  if plaintext = [] then
    PollM.exit (.failed "decrypted record is empty (missing inner content type)")
  else if plaintext.getLastD 0 = 0x17 then deliver capacity inner
  else if plaintext.getLastD 0 = 0x16 then
    match state.stream.processInnerHandshake lib inner with
    | .ok stream => do
      PollM.set { state with stream }
      PollM.exit .pending
    | .error e => PollM.exit (.failed ("post-handshake processing failed: " ++ e.display))
  else if plaintext.getLastD 0 = 0x15 then
    if inner.take 2 = [0x01, 0x00] then pure []
    else PollM.exit (.failed ("TLS alert: level=" ++ toString (inner.headD 0).toNat ++
      " description=" ++ toString ((inner.drop 1).headD 0).toNat))
  else PollM.exit (.failed ("unknown inner content type: 0x" ++ hexOctet (plaintext.getLastD 0)))

def pollRecord (capacity : ℕ) : PollM PolledStream Bytes := do
  let state ← PollM.get
  match state.stream.unprotect lib (fun e ↦ "Nonce overflow: " ++ e.display) "Sequence overflow"
      (fun e ↦ "SM4 key error: " ++ e.display) (fun e ↦ "GCM decryption failed: " ++ e.debug)
      state.readState.header state.readState.body with
  | .error (text, stream) => do
    PollM.set { state with stream, readState := .empty }
    PollM.exit (.failed text)
  | .ok (plaintext, stream) => do
    PollM.set { state with stream, readState := .empty }
    pollInner lib capacity plaintext

def pollBody (capacity : ℕ) : PollM PolledStream Bytes := do
  let state ← PollM.get
  PollM.check (checkHeader state.readState.header)
  let begun := state.beginBody (beNat (state.readState.header.drop 3))
  PollM.set begun
  let missing := begun.readState.ctLen - begun.readState.body.length
  let _ ← PollM.readLoop "TLS record read incomplete" storeBody missing missing
  pollRecord lib capacity

def pollRead (capacity : ℕ) : PollM PolledStream Bytes := do
  let state ← PollM.get
  if state.readBuf ≠ [] then deliver capacity state.readBuf
  else do
    let missing := 5 - state.readState.header.length
    let _ ← PollM.readLoop "TLS record header read incomplete" storeHeader missing missing
    pollBody lib capacity

/-! ### What one read can do -/

@[simp] lemma storeHeader_nil (state : PolledStream) : state.storeHeader [] = state := by
  rw [storeHeader, append_nil]

lemma storeHeader_append (first second : Bytes) (state : PolledStream) :
    (state.storeHeader first).storeHeader second = state.storeHeader (first ++ second) := by
  simp only [storeHeader, append_assoc]

@[simp] lemma storeBody_nil (state : PolledStream) : state.storeBody [] = state := by
  rw [storeBody, append_nil]

lemma storeBody_append (first second : Bytes) (state : PolledStream) :
    (state.storeBody first).storeBody second = state.storeBody (first ++ second) := by
  simp only [storeBody, append_assoc]

def withBody (state : PolledStream) : PolledStream :=
  state.beginBody (beNat (state.readState.header.drop 3))

def missingBody (state : PolledStream) : ℕ := state.readState.ctLen - state.readState.body.length

def consumed (state : PolledStream) : PolledStream :=
  { state with
    stream := { state.stream with readSeq := state.stream.readSeq + 1 }
    readState := .empty }

section Specifications

/-- What a poll makes of a record whose header is there. -/
inductive RecordPoll (capacity : ℕ) (start : PolledStream) : List Exchange → PolledStream →
    Polled Bytes → Prop
  | rejected {text : String} (hheader : checkHeader start.readState.header = .error text) :
      RecordPoll capacity start [] start (.failed text)
  | stopped {chunks : List Exchange} {last : Exchange} {outcome : Polled Bytes}
      (hheader : checkHeader start.readState.header = .ok ()) (hchunks : Chunks chunks)
      (hlast : ReadStops "TLS record read incomplete" last outcome)
      (hshort : (received (chunks ++ [last])).length < start.withBody.missingBody) :
      RecordPoll capacity start (chunks ++ [last])
        (start.withBody.storeBody (received (chunks ++ [last]))) outcome
  | record {chunks : List Exchange} {state : PolledStream} {outcome : Polled Bytes}
      (hheader : checkHeader start.readState.header = .ok ()) (hchunks : Chunks chunks)
      (hwhole : (received chunks).length = start.withBody.missingBody)
      (hrecord : pollRecord lib capacity (start.withBody.storeBody (received chunks)) =
        .done state outcome) :
      RecordPoll capacity start chunks state outcome

variable {start state : PolledStream} {capacity : ℕ} {trace : List Exchange}

lemma pollRecord_of_not_opened (start : PolledStream)
    (hopened : start.stream.opened lib start.readState.header start.readState.body = none) :
    ∃ text next, pollRecord lib capacity start =
      .done { start with stream := next, readState := .empty } (.failed text) := by
  cases hunprotect : start.stream.unprotect lib (fun e ↦ "Nonce overflow: " ++ e.display)
      "Sequence overflow" (fun e ↦ "SM4 key error: " ++ e.display)
      (fun e ↦ "GCM decryption failed: " ++ e.debug) start.readState.header
        start.readState.body with
  | error failure =>
    refine ⟨failure.1, failure.2, ?_⟩
    simp only [pollRecord, bind, Poll.bind, PollM.get, hunprotect]
    rfl
  | ok value =>
    rw [((RecordStream.unprotect_eq_ok lib).mp hunprotect).1] at hopened
    cases hopened

variable {plaintext : Bytes}

lemma pollRecord_of_opened (start : PolledStream)
    (hopened : start.stream.opened lib start.readState.header start.readState.body =
    some plaintext) :
    pollRecord lib capacity start = pollInner lib capacity plaintext start.consumed := by
  have hunprotect : start.stream.unprotect lib (fun e ↦ "Nonce overflow: " ++ e.display)
      "Sequence overflow" (fun e ↦ "SM4 key error: " ++ e.display)
      (fun e ↦ "GCM decryption failed: " ++ e.debug) start.readState.header start.readState.body =
        .ok (plaintext, { start.stream with readSeq := start.stream.readSeq + 1 }) :=
    (RecordStream.unprotect_eq_ok lib).mpr ⟨hopened, rfl⟩
  simp only [pollRecord, bind, Poll.bind, PollM.get, hunprotect]
  rfl

lemma pollInner_data (inner : Bytes) : pollInner lib capacity (inner ++ [0x17]) start =
      .done { start with readBuf := inner.drop capacity } (.ready (inner.take capacity)) := by
  simp only [pollInner, bind, Poll.bind, PollM.get]
  rw [if_neg (by simp), if_pos (by simp), dropLast_concat]
  rfl

lemma pollInner_alert (halert : plaintext.getLastD 0 = 0x15)
    (hclose : plaintext.dropLast.take 2 = [0x01, 0x00]) :
    pollInner lib capacity plaintext start = .done start (.ready []) := by
  have hnil : plaintext ≠ [] := by
    rintro rfl
    cases hclose
  simp only [pollInner, bind, Poll.bind, PollM.get]
  rw [if_neg hnil, halert, if_neg (by decide), if_neg (by decide), if_pos rfl, if_pos hclose]
  rfl

lemma exists_pollInner (plaintext : Bytes) :
    ∃ state outcome, pollInner lib capacity plaintext start = .done state outcome := by
  simp only [pollInner, bind, Poll.bind, PollM.get]
  split_ifs
  · exact ⟨_, _, rfl⟩
  · exact ⟨_, _, rfl⟩
  · cases start.stream.processInnerHandshake lib plaintext.dropLast with
    | error error => exact ⟨_, _, rfl⟩
    | ok next => exact ⟨_, _, rfl⟩
  · exact ⟨_, _, rfl⟩
  · exact ⟨_, _, rfl⟩
  · exact ⟨_, _, rfl⟩

lemma exists_pollRecord (capacity : ℕ) (start : PolledStream) :
    ∃ state outcome, pollRecord lib capacity start = .done state outcome := by
  cases hopened : start.stream.opened lib start.readState.header start.readState.body with
  | none =>
    obtain ⟨text, next, hdone⟩ := pollRecord_of_not_opened lib start hopened
    exact ⟨_, _, hdone⟩
  | some plaintext =>
    rw [pollRecord_of_opened lib start hopened]
    exact exists_pollInner lib plaintext

lemma eq_of_pollInner_ready_nil (hcap : 0 < capacity)
    (hready : pollInner lib capacity plaintext start = .done state (.ready [])) :
    plaintext = [0x17] ∨ plaintext.getLastD 0 = 0x15 ∧ plaintext.dropLast.take 2 =
    [0x01, 0x00] := by
  simp only [pollInner, bind, Poll.bind, PollM.get] at hready
  split_ifs at hready with hnil hdata hhs halert hclose
  · cases (Poll.done.inj hready).2
  · obtain ⟨-, htake⟩ := Poll.done.inj hready
    rcases take_eq_nil_iff.mp (Polled.ready.inj htake) with hzero | hinner
    · exact absurd hzero (Nat.ne_of_gt hcap)
    refine .inl ?_
    rw [getLastD_eq_getLast?, getLast?_eq_some_getLast hnil] at hdata
    rw [← dropLast_append_getLast hnil, hinner, show plaintext.getLast hnil = 0x17 from hdata]
    rfl
  · cases hproc : start.stream.processInnerHandshake lib plaintext.dropLast with
    | error error =>
      rw [hproc] at hready
      cases (Poll.done.inj hready).2
    | ok next =>
      rw [hproc] at hready
      cases (Poll.done.inj hready).2
  · exact .inr ⟨halert, hclose⟩
  · cases (Poll.done.inj hready).2
  · cases (Poll.done.inj hready).2

variable {lib} {outcome : Polled Bytes}

lemma polls_pollBody (hpolls : Polls (pollBody lib capacity start) trace state outcome) :
    RecordPoll lib capacity start trace state outcome := by
  rcases polls_check_bind.mp hpolls with ⟨text, hhdr, rfl, rfl, rfl⟩ | ⟨⟨⟩, hhdr, hpolls⟩
  · exact .rejected hhdr
  have hloop :
    Polls ((PollM.readLoop "TLS record read incomplete" storeBody start.withBody.missingBody
      start.withBody.missingBody >>= fun _ ↦ pollRecord lib capacity) start.withBody)
      trace state outcome :=
    polls_set_bind.mp hpolls
  rcases polls_readLoop_bind storeBody_nil storeBody_append hloop with
    ⟨rfl, hshort, chunks, last, rfl, hchunks, hlast⟩ | ⟨chunks, after, rfl, hchunks, hwhole, hrest⟩
  · exact .stopped hhdr hchunks hlast hshort
  obtain ⟨final, answer, hrec⟩ :=
    exists_pollRecord lib capacity (start.withBody.storeBody (received chunks))
  rw [hrec] at hrest
  obtain ⟨rfl, rfl, rfl⟩ := polls_done_iff.mp hrest
  rw [append_nil]
  exact .record hhdr hchunks hwhole hrec

lemma polls_pollRead (hpolls : Polls (pollRead lib capacity start) trace state outcome) :
    (start.readBuf ≠ [] ∧ trace = [] ∧
    state = { start with readBuf := start.readBuf.drop capacity } ∧
        outcome = .ready (start.readBuf.take capacity)) ∨
      (start.readBuf = [] ∧ ((state = start.storeHeader (received trace) ∧
            (received trace).length < 5 - start.readState.header.length ∧
              ∃ chunks last, trace = chunks ++ [last] ∧ Chunks chunks ∧
                ReadStops "TLS record header read incomplete" last outcome) ∨
          ∃ chunks after, trace = chunks ++ after ∧ Chunks chunks ∧
            (received chunks).length = 5 - start.readState.header.length ∧
              RecordPoll lib capacity (start.storeHeader (received chunks))
              after state outcome)) := by
  replace hpolls := polls_get_bind.mp hpolls
  by_cases hbuf : start.readBuf = []
  · rw [if_neg (not_not.mpr hbuf)] at hpolls
    refine .inr ⟨hbuf, ?_⟩
    rcases polls_readLoop_bind storeHeader_nil storeHeader_append hpolls with
      hstopped | ⟨chunks, after, htrace, hchunks, hwhole, hrest⟩
    · exact .inl hstopped
    · exact .inr ⟨chunks, after, htrace, hchunks, hwhole, polls_pollBody hrest⟩
  rw [if_pos hbuf] at hpolls
  obtain ⟨rfl, rfl, rfl⟩ := polls_done_iff.mp hpolls
  exact .inl ⟨hbuf, rfl, rfl, rfl⟩

variable (lib) in
lemma readState_of_pollInner (hinner : pollInner lib capacity plaintext start =
    .done state outcome) :
    state.readState = start.readState := by
  simp only [pollInner, bind, Poll.bind, PollM.get] at hinner
  split_ifs at hinner
  · rw [← (Poll.done.inj hinner).1]
  · rw [← (Poll.done.inj hinner).1]
  · cases hproc : start.stream.processInnerHandshake lib plaintext.dropLast with
    | error error =>
      rw [hproc] at hinner
      rw [← (Poll.done.inj hinner).1]
    | ok next =>
      rw [hproc] at hinner
      rw [← (Poll.done.inj hinner).1]
  · rw [← (Poll.done.inj hinner).1]
  · rw [← (Poll.done.inj hinner).1]
  · rw [← (Poll.done.inj hinner).1]

variable (lib) in
lemma readState_of_pollRecord (hrec : pollRecord lib capacity start = .done state outcome) :
    state.readState = .empty := by
  cases hopened : start.stream.opened lib start.readState.header start.readState.body with
  | none =>
    obtain ⟨text, next, hdone⟩ := pollRecord_of_not_opened lib start hopened
    rw [← (Poll.done.inj (hdone.symm.trans hrec)).1]
  | some plaintext =>
    rw [pollRecord_of_opened lib start hopened] at hrec
    exact readState_of_pollInner lib hrec

end Specifications

/-! ### A record over several polls -/

end PolledStream

def ReadState.octets (readState : ReadState) : Bytes := readState.header ++ readState.body

/-- The body is begun when the header is there, for the length that it announces. -/
structure ReadState.WellFormed (readState : ReadState) : Prop where
  header : readState.header.length ≤ 5
  body : readState.body = [] ∨ readState.header.length = 5 ∧
    readState.ctLen = beNat (readState.header.drop 3) ∧ readState.body.length ≤ readState.ctLen

lemma ReadState.wellFormed_empty : ReadState.empty.WellFormed := ⟨by decide, .inl rfl⟩

namespace PolledStream

variable {start : PolledStream} {chunk : Bytes}

section

variable (hstart : start.readState.WellFormed)

include hstart

section

variable (hroom : chunk.length ≤ 5 - start.readState.header.length)

include hroom

lemma octets_storeHeader : (start.storeHeader chunk).readState.octets = start.readState.octets ++
    chunk := by
  have hempty : start.readState.body = [] ∨ chunk = [] := by
    rcases hstart.body with hbody | ⟨hhdr, -⟩
    · exact .inl hbody
    · rw [hhdr] at hroom
      exact .inr (eq_nil_of_length_eq_zero (Nat.le_zero.mp hroom))
  show start.readState.header ++ chunk ++ start.readState.body = start.readState.header ++
    start.readState.body ++ chunk
  rcases hempty with hbody | hchunk
  · rw [hbody, append_nil, append_nil]
  · rw [hchunk, append_nil, append_nil]

lemma wellFormed_storeHeader : (start.storeHeader chunk).readState.WellFormed := by
  have hlen := hstart.header
  constructor
  · show (start.readState.header ++ chunk).length ≤ 5
    rw [length_append]
    omega
  rcases hstart.body with hbody | ⟨hhdr, hcount, hbody⟩
  · exact .inl hbody
  rw [hhdr] at hroom
  obtain rfl := eq_nil_of_length_eq_zero (Nat.le_zero.mp hroom)
  rw [storeHeader_nil]
  exact .inr ⟨hhdr, hcount, hbody⟩

end

lemma withBody_eq : start.withBody = { start with readState :=
      ⟨start.readState.header, beNat (start.readState.header.drop 3), start.readState.body⟩ } := by
  rw [withBody, beginBody]
  split_ifs with hdiffers
  · rcases hstart.body with hbody | ⟨-, hcount, -⟩
    · rw [hbody]
    · exact absurd hcount hdiffers
  · rw [← not_not.mp hdiffers]

end

lemma wellFormed_storeBody {header body : Bytes} (hhdr : header.length = 5)
    (hroom : (body ++ chunk).length ≤ beNat (header.drop 3)) :
    ReadState.WellFormed ⟨header, beNat (header.drop 3), body ++ chunk⟩ :=
  ⟨hhdr.le, .inr ⟨hhdr, rfl, hroom⟩⟩

/-- What a poll makes of the octets that have arrived so far. -/
inductive Gathers (capacity : ℕ) (start : PolledStream) : List Exchange → PolledStream →
    Polled Bytes → Prop
  | buffered (hbuffer : start.readBuf ≠ []) :
      Gathers capacity start [] { start with readBuf := start.readBuf.drop capacity }
        (.ready (start.readBuf.take capacity))
  | rejected {chunks : List Exchange} {readState : ReadState} {text : String}
      (hbuffer : start.readBuf = []) (hchunks : Chunks chunks) (hformed : readState.WellFormed)
      (hoctets : readState.octets = start.readState.octets ++ received chunks)
      (hlength : readState.header.length = 5)
        (hheader : checkHeader readState.header = .error text) :
      Gathers capacity start chunks { start with readState } (.failed text)
  | stopped {chunks : List Exchange} {last : Exchange} {readState : ReadState} {eof : String}
      {outcome : Polled Bytes} (hbuffer : start.readBuf = []) (hchunks : Chunks chunks)
      (hformed : readState.WellFormed) (hstopped : readState.header.length < 5 ∨
        readState.header.length = 5 ∧ readState.body.length < beNat (readState.header.drop 3))
      (hoctets : readState.octets = start.readState.octets ++ received chunks)
      (hlast : ReadStops eof last outcome) :
      Gathers capacity start (chunks ++ [last]) { start with readState } outcome
  | record {chunks : List Exchange} {header body : Bytes} {state : PolledStream}
    {outcome : Polled Bytes}
      (hbuffer : start.readBuf = []) (hchunks : Chunks chunks) (hlength : header.length = 5)
      (hheader : checkHeader header = .ok ()) (hwhole : body.length = beNat (header.drop 3))
      (hoctets : header ++ body = start.readState.octets ++ received chunks)
      (hrecord : pollRecord lib capacity { start with readState := ⟨header, body.length, body⟩ } =
        .done state outcome) :
      Gathers capacity start chunks state outcome

variable {lib} {state : PolledStream} {capacity : ℕ} {trace : List Exchange}
  {outcome : Polled Bytes}

lemma received_of_stops {eof : String} {last : Exchange} {outcome : Polled Bytes}
    (hlast : ReadStops eof last outcome) (chunks : List Exchange) : received (chunks ++ [last]) =
    received chunks := by
  rw [received_append]
  cases hlast <;> exact append_nil _

lemma gathers_pollRead (hstart : start.readState.WellFormed)
    (hpolls : Polls (pollRead lib capacity start) trace state outcome) :
    Gathers lib capacity start trace state outcome := by
  rcases polls_pollRead hpolls with ⟨hbuf, rfl, rfl, rfl⟩ | ⟨hbuf,
    ⟨rfl, hshort, chunks, last, rfl, hchunks, hlast⟩ | ⟨before, after, rfl, hbefore,
      hheaderWhole, hrec⟩⟩
  · exact .buffered hbuf
  · rw [received_of_stops hlast] at hshort ⊢
    have hstopped : (start.storeHeader (received chunks)).readState.header.length < 5 := by
      show (start.readState.header ++ received chunks).length < 5
      rw [length_append]
      omega
    exact .stopped hbuf hchunks (wellFormed_storeHeader hstart hshort.le) (.inl hstopped)
      (octets_storeHeader hstart hshort.le) hlast
  have hfilled := wellFormed_storeHeader hstart hheaderWhole.le
  have hoct := octets_storeHeader hstart hheaderWhole.le
  have hlen : (start.storeHeader (received before)).readState.header.length = 5 := by
    show (start.readState.header ++ received before).length = 5
    have hroom := hstart.header
    rw [length_append]
    omega
  have hbegun := withBody_eq hfilled
  have hbody : (start.storeHeader (received before)).readState.body.length ≤
      beNat ((start.storeHeader (received before)).readState.header.drop 3) := by
    rcases hfilled.body with hnil | ⟨-, hcount, hroom⟩
    · rw [hnil]
      exact Nat.zero_le _
    · exact hroom.trans hcount.le
  cases hrec with
  | rejected hhdr =>
    rw [append_nil]
    exact .rejected hbuf hbefore hfilled hoct hlen hhdr
  | @stopped chunks last _ hhdr hchunks hlast hshort =>
    rw [received_of_stops hlast, hbegun] at hshort ⊢
    have hroom : ((start.storeHeader (received before)).readState.body ++ received chunks).length <
        beNat ((start.storeHeader (received before)).readState.header.drop 3) := by
      rw [length_append]
      simp only [missingBody] at hshort
      omega
    rw [← append_assoc]
    refine .stopped hbuf (hbefore.append hchunks) (wellFormed_storeBody hlen hroom.le)
      (.inr ⟨hlen, hroom⟩) ?_ hlast
    · rw [received_append, ← append_assoc, ← hoct]
      exact (append_assoc _ _ _).symm
  | record hhdr hchunks hwhole hdone =>
    rw [hbegun] at hwhole hdone
    have hcount : ((start.storeHeader (received before)).readState.body ++ received after).length =
        beNat ((start.storeHeader (received before)).readState.header.drop 3) := by
      rw [length_append]
      simp only [missingBody] at hwhole
      omega
    refine .record hbuf (hbefore.append hchunks) hlen hhdr hcount ?_ ?_
    · rw [received_append, ← append_assoc, ← append_assoc]
      exact congrArg (· ++ received after) hoct
    · rw [hcount]
      exact hdone

lemma Gathers.wellFormed (hgathers : Gathers lib capacity start trace state outcome)
    (hstart : start.readState.WellFormed) : state.readState.WellFormed := by
  cases hgathers with
  | buffered => exact hstart
  | rejected _ _ hformed => exact hformed
  | stopped _ _ hformed => exact hformed
  | record _ _ _ _ _ _ hrec =>
    rw [readState_of_pollRecord lib hrec]
    exact ReadState.wellFormed_empty

end PolledStream

namespace RecordStream

def countedWrite (stream : RecordStream) : RecordStream :=
  { stream with writeSeq := stream.writeSeq + 1 }

def pollWriteParts (buf ciphertext tag : Bytes) (version : Octets 2) : PollM RecordStream ℕ := do
  PollM.writeOnce "failed to write content type" [0x17]
  PollM.writeOnce "failed to write version" version.bytes
  PollM.writeOnce "failed to write length" (beOctets 2 ((buf ++ [0x17]).length + 16))
  PollM.writeLoop "failed to write ciphertext" ciphertext.length ciphertext
  PollM.writeLoop "failed to write tag" tag.length tag
  pure buf.length

def pollWrite (buf : Bytes) : PollM RecordStream ℕ := do
  let stream ← PollM.get
  let nonce ← PollM.check ((nextNonce stream.writeNonce stream.writeSeq).mapError
    fun e ↦ "Nonce overflow: " ++ e.display)
  PollM.check (rejectIf (stream.writeSeq = 2 ^ 64 - 1) "Sequence overflow")
  PollM.set stream.countedWrite
  let (ciphertext, tag, next) ← PollM.check (stream.countedWrite.protect lib
    (fun e ↦ "SM4 key error: " ++ e.display) (fun e ↦ "GCM encryption failed: " ++ e.debug) nonce
    stream.writeSeq (buf ++ [0x17]))
  PollM.set next
  PollM.check (rejectIf ((ciphertext.length + tag.length) % 2 ^ 16 > 65535 - 1024)
    "TLS record too large")
  pollWriteParts buf ciphertext tag next.version

def announceEnd (record : Bytes) : PollM RecordStream Unit := do
  let ended ← PollM.attempt (PollM.writeLoop "" record.length record)
  if ended = .pending then PollM.exit .pending
  else do
    let stream ← PollM.get
    PollM.set { stream with closeNotifySent := true }
    PollM.shut

def pollShutdown : PollM RecordStream Unit := do
  let stream ← PollM.get
  if stream.closeNotifySent then PollM.shut
  else match nextNonce stream.writeNonce stream.writeSeq with
    | .error _ => PollM.shut
    | .ok nonce =>
      if stream.writeSeq = 2 ^ 64 - 1 then PollM.shut
      else do
        PollM.set stream.countedWrite
        match stream.countedWrite.protect lib (fun _ ↦ ()) (fun _ ↦ ()) nonce stream.writeSeq
          [0x01, 0x00, 0x15] with
        | .error _ => PollM.shut
        | .ok (ciphertext, tag, next) => do
          PollM.set next
          announceEnd (recordHeader next.version (ciphertext.length + tag.length) ++
            ciphertext ++ tag)

variable {start state : RecordStream} {trace : List Exchange} {buf : Bytes} {outcome : Polled ℕ}

lemma polls_pollWriteParts {ciphertext tag : Bytes} {version : Octets 2}
    (hpolls : Polls (pollWriteParts buf ciphertext tag version start) trace state outcome) :
    state = start := by
  rcases of_writeOnce_bind hpolls with ⟨-, rfl, -⟩ | ⟨_, -, rfl, -⟩ | ⟨_, _, -, -, -, rfl, -⟩ | ⟨_,
    -, hpolls⟩ <;> try rfl
  rcases of_writeOnce_bind hpolls with ⟨-, rfl, -⟩ | ⟨_, -, rfl, -⟩ | ⟨_, _, -, -, -, rfl, -⟩ | ⟨_,
    -, hpolls⟩ <;> try rfl
  rcases of_writeOnce_bind hpolls with ⟨-, rfl, -⟩ | ⟨_, -, rfl, -⟩ | ⟨_, _, -, -, -, rfl, -⟩ | ⟨_,
    -, hpolls⟩ <;> try rfl
  rcases polls_writeLoop_bind hpolls with ⟨rfl, -⟩ | ⟨_, _, -, -, -, hpolls⟩
  · rfl
  rcases polls_writeLoop_bind hpolls with ⟨rfl, -⟩ | ⟨_, _, -, -, -, hpolls⟩
  · rfl
  exact (polls_pure.mp hpolls).2.1

lemma polls_pollWrite (hbound : start.writeSeq < 2 ^ 64)
    (hpolls : Polls (pollWrite lib buf start) trace state outcome) :
    (start.writeSeq = 2 ^ 64 - 1 ∧ trace = [] ∧ state = start ∧ ∃ text, outcome = .failed text) ∨
      (start.writeSeq < 2 ^ 64 - 1 ∧ ∃ nonce, nextNonce start.writeNonce start.writeSeq =
      .ok nonce ∧
          ((start.writeKey.length ≠ 16 ∧ trace = [] ∧ state = start.countedWrite ∧ ∃ text,
          outcome = .failed text) ∨
            (start.writeKey.length = 16 ∧
            state = start.countedWrite.withSealing nonce start.writeSeq (buf ++ [0x17]) ∧
                ∃ ciphertext tag, start.countedWrite.protect lib (fun e ↦
                "SM4 key error: " ++ e.display)
                    (fun e ↦ "GCM encryption failed: " ++ e.debug) nonce start.writeSeq
                    (buf ++ [0x17]) = .ok (ciphertext, tag, state) ∧
                  (((ciphertext.length + tag.length) % 2 ^ 16 > 65535 - 1024 ∧ trace = [] ∧
                      outcome = .failed "TLS record too large") ∨
                    ((ciphertext.length + tag.length) % 2 ^ 16 ≤ 65535 - 1024 ∧
                      Polls (pollWriteParts buf ciphertext tag state.version state)
                      trace state outcome))))) := by
  replace hpolls := polls_get_bind.mp hpolls
  by_cases hseq : start.writeSeq = 2 ^ 64 - 1
  · have hnone : nextNonce start.writeNonce start.writeSeq = .error .sequenceOverflow := by
      rw [nextNonce, rejectIf_pos hseq, error_bind]
    rw [hnone, mapError_error] at hpolls
    obtain ⟨rfl, rfl, rfl⟩ := polls_done_iff.mp hpolls
    exact .inl ⟨hseq, rfl, rfl, _, rfl⟩
  have hlt : start.writeSeq < 2 ^ 64 - 1 := by omega
  obtain ⟨nonce, hnonce⟩ := exists_nextNonce start.writeNonce hlt
  refine .inr ⟨hlt, nonce, hnonce, ?_⟩
  rw [hnonce, mapError_ok, rejectIf_neg hseq] at hpolls
  have hcount : Polls ((PollM.check (start.countedWrite.protect lib _ _ nonce start.writeSeq
      (buf ++ [0x17])) >>= _) start.countedWrite) trace state outcome := hpolls
  by_cases hkey : start.writeKey.length = 16
  · have hcnt : start.countedWrite.writeKey.length = 16 := hkey
    obtain ⟨ciphertext, tag, hprot, -⟩ := opened_protect lib (fun e : TlsError ↦
      "SM4 key error: " ++ e.display)
      (fun e ↦ "GCM encryption failed: " ++ e.debug) hcnt hnonce (buf ++ [0x17])
    rw [hprot] at hcount
    have hchecked : Polls ((PollM.check (rejectIf
        ((ciphertext.length + tag.length) % 2 ^ 16 > 65535 - 1024) "TLS record too large") >>= _)
        (start.countedWrite.withSealing nonce start.writeSeq (buf ++ [0x17])))
          trace state outcome :=
      hcount
    rcases polls_check_bind.mp hchecked with ⟨text, hlarge, rfl, rfl, rfl⟩ | ⟨⟨⟩, hfits, hparts⟩
    · refine .inr ⟨hkey, rfl, ciphertext, tag, hprot, .inl ?_⟩
      by_cases hsize : (ciphertext.length + tag.length) % 2 ^ 16 > 65535 - 1024
      · rw [rejectIf_pos hsize] at hlarge
        exact ⟨hsize, rfl, by rw [Except.error.inj hlarge]⟩
      · rw [rejectIf_neg hsize] at hlarge
        cases hlarge
    · obtain rfl := polls_pollWriteParts hparts
      exact .inr ⟨hkey, rfl, ciphertext, tag, hprot,
        .inr ⟨Nat.not_lt.mp (rejectIf_eq_ok.mp hfits), hparts⟩⟩
  have hcnt : start.countedWrite.writeKey.length ≠ 16 := hkey
  obtain ⟨error, herror⟩ := protect_of_length_ne lib hcnt nonce start.writeSeq (buf ++ [0x17])
  rw [herror] at hcount
  obtain ⟨rfl, rfl, rfl⟩ := polls_done_iff.mp hcount
  exact .inl ⟨hkey, rfl, rfl, _, rfl⟩

variable {nonce : Octets 12}

lemma polls_pollWrite_pending (hkey : start.writeKey.length = 16)
    (hnonce : nextNonce start.writeNonce start.writeSeq = .ok nonce)
    (hsize : (buf.length + 17) % 2 ^ 16 ≤ 65535 - 1024) :
    Polls (pollWrite lib buf start) [.writePending]
      (start.countedWrite.withSealing nonce start.writeSeq (buf ++ [0x17])) .pending := by
  have hcnt : start.countedWrite.writeKey.length = 16 := hkey
  obtain ⟨ciphertext, tag, hprot, hlen, htag, -⟩ := opened_protect lib
    (fun e : TlsError ↦ "SM4 key error: " ++ e.display)
    (fun e ↦ "GCM encryption failed: " ++ e.debug) hcnt hnonce (buf ++ [0x17])
  rw [length_append, length_singleton] at hlen
  have hfits : (ciphertext.length + tag.length) % 2 ^ 16 ≤ 65535 - 1024 := by
    rw [hlen, htag]
    exact hsize
  refine polls_get_bind.mpr ?_
  rw [hnonce, mapError_ok]
  refine polls_check_bind.mpr (.inr ⟨nonce, rfl, ?_⟩)
  rw [rejectIf_neg (nextNonce_eq_ok hnonce).1]
  refine polls_check_bind.mpr (.inr ⟨(), rfl, polls_set_bind.mpr ?_⟩)
  rw [hprot]
  refine polls_check_bind.mpr (.inr ⟨_, rfl, polls_set_bind.mpr ?_⟩)
  rw [rejectIf_neg (Nat.not_lt.mpr hfits)]
  exact polls_check_bind.mpr (.inr ⟨(), rfl, ask rfl (.done _ _)⟩)

lemma polls_announceEnd {record : Bytes} {outcome : Polled Unit}
    (hpolls : Polls (announceEnd record start) trace state outcome) :
    (outcome = .pending ∧ state = start ∧ ∃ pieces, trace = pieces ++ [.writePending]) ∨
      (state = { start with closeNotifySent := true } ∧ ∃ writes, trace = writes ++
      [.closed outcome] ∧
        ((accepted writes = record ∧ Pieces writes) ∨ ∃ pieces last, writes = pieces ++ [last] ∧
            ((∃ text, last = .writeFailed text) ∨ last = .accepted []))) := by
  have hbind : Polls (((PollM.writeLoop "" record.length record start).attempt).bind _) trace state
    outcome := hpolls
  rcases of_bind hbind with ⟨stop, hstop, hloop⟩ | ⟨ended, middle, writes, after, rfl, hloop, hrest⟩
  · obtain ⟨answer, rfl, -⟩ := of_attempt hloop
    cases hstop
  obtain ⟨answer, hans, hloop⟩ := of_attempt hloop
  obtain rfl := Polled.ready.inj hans
  have hclose {closing : Polled Unit} (hready : closing ≠ .pending)
      (hrest : Polls ((if closing = .pending then PollM.exit .pending else do
        let stream ← PollM.get
        PollM.set { stream with closeNotifySent := true }
        PollM.shut : PollM RecordStream Unit) middle) after state outcome) :
      after = [.closed outcome] ∧ state = { middle with closeNotifySent := true } := by
    rw [if_neg hready] at hrest
    exact of_shut hrest
  obtain ⟨rfl, ⟨rfl, hwhole, hpieces⟩ | ⟨left, pieces, last, -, -, rfl, -, hlast⟩⟩ :=
    polls_writeLoop le_rfl hloop
  · obtain ⟨rfl, rfl⟩ := hclose (by simp) hrest
    exact .inr ⟨rfl, writes, rfl, .inl ⟨hwhole, hpieces⟩⟩
  cases hlast with
  | pending =>
    obtain ⟨rfl, rfl, rfl⟩ := polls_exit.mp hrest
    exact .inl ⟨rfl, rfl, pieces, by rw [append_nil]⟩
  | failed text =>
    obtain ⟨rfl, rfl⟩ := hclose (by simp) hrest
    exact .inr ⟨rfl, _, rfl, .inr ⟨pieces, _, rfl, .inl ⟨text, rfl⟩⟩⟩
  | refused =>
    obtain ⟨rfl, rfl⟩ := hclose (by simp) hrest
    exact .inr ⟨rfl, _, rfl, .inr ⟨pieces, _, rfl, .inr rfl⟩⟩

lemma polls_pollShutdown {outcome : Polled Unit} (hbound : start.writeSeq < 2 ^ 64)
    (hpolls : Polls (pollShutdown lib start) trace state outcome) :
    ((start.closeNotifySent = true ∨ start.writeSeq = 2 ^ 64 - 1) ∧ trace = [.closed outcome] ∧
    state = start) ∨
      (start.closeNotifySent = false ∧ start.writeSeq < 2 ^ 64 - 1 ∧
        ∃ nonce, nextNonce start.writeNonce start.writeSeq = .ok nonce ∧
          ((start.writeKey.length ≠ 16 ∧ trace = [.closed outcome] ∧ state = start.countedWrite) ∨
            (start.writeKey.length = 16 ∧ ∃ ciphertext tag, start.countedWrite.protect lib (fun _ ↦
            ()) (fun _ ↦ ()) nonce
                  start.writeSeq [0x01, 0x00, 0x15] = .ok (ciphertext, tag,
                    start.countedWrite.withSealing nonce start.writeSeq [0x01, 0x00, 0x15]) ∧
                Polls (announceEnd (recordHeader start.version (ciphertext.length + tag.length) ++
                    ciphertext ++ tag)
                    (start.countedWrite.withSealing nonce start.writeSeq [0x01, 0x00, 0x15]))
                  trace state outcome))) := by
  replace hpolls := polls_get_bind.mp hpolls
  by_cases hsent : start.closeNotifySent = true
  · rw [if_pos hsent] at hpolls
    obtain ⟨rfl, rfl⟩ := of_shut hpolls
    exact .inl ⟨.inl hsent, rfl, rfl⟩
  rw [if_neg hsent] at hpolls
  by_cases hseq : start.writeSeq = 2 ^ 64 - 1
  · have hnone : nextNonce start.writeNonce start.writeSeq = .error .sequenceOverflow := by
      rw [nextNonce, rejectIf_pos hseq, error_bind]
    rw [hnone] at hpolls
    obtain ⟨rfl, rfl⟩ := of_shut hpolls
    exact .inl ⟨.inr hseq, rfl, rfl⟩
  have hlt : start.writeSeq < 2 ^ 64 - 1 := by omega
  obtain ⟨nonce, hnonce⟩ := exists_nextNonce start.writeNonce hlt
  refine .inr ⟨Bool.not_eq_true _ ▸ hsent, hlt, nonce, hnonce, ?_⟩
  rw [hnonce] at hpolls
  dsimp only at hpolls
  rw [if_neg hseq] at hpolls
  by_cases hkey : start.writeKey.length = 16
  · have hcnt : start.countedWrite.writeKey.length = 16 := hkey
    obtain ⟨ciphertext, tag, hprot, -⟩ := opened_protect lib (fun _ : TlsError ↦ ())
      (fun _ ↦ ()) hcnt hnonce [0x01, 0x00, 0x15]
    rw [hprot] at hpolls
    exact .inr ⟨hkey, ciphertext, tag, hprot, hpolls⟩
  have hcnt : start.countedWrite.writeKey.length ≠ 16 := hkey
  obtain ⟨error, herror⟩ := protect_of_length_ne lib hcnt nonce start.writeSeq [0x01, 0x00, 0x15]
  rw [herror] at hpolls
  obtain ⟨rfl, rfl⟩ := of_shut (polls_set_bind.mp hpolls)
  exact .inl ⟨hkey, rfl, rfl⟩

end RecordStream

end GmStack.Tls
