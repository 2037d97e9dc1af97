import GmStack.Tlcp.Polling

/-! When a reader may take a TLCP stream for ended. -/

namespace GmStack.Tlcp

open Foundation Crypto List PolledStream TlcpStream Option Prod

/-- What the peer does after the handshake: it writes data, or announces the end with `close` or
`poll_shutdown`. -/
inductive PeerCall
  | data (plaintext : Bytes)
  | close

def PeerCall.payload : PeerCall → Bytes
  | .data plaintext => plaintext
  | .close => [0x01, 0x00]

/-- One read of a stream with what it exchanged and how it ended: `read_application_data`, or one
`poll_read` into a buffer with room for `capacity` octets. -/
inductive ReadAttempt
  | application (trace : List (Event TlcpNote)) (result : Except TlcpError (Bytes × TlcpStream))
  | poll (capacity : ℕ) (trace : List Exchange) (state : PolledStream) (outcome : Polled Bytes)

namespace ReadAttempt

def record : ReadAttempt → Option (Bytes × Bytes)
  | application [.received header, .received buf] _ => some (header, buf)
  | poll _ (.received filled :: chunks) _ _ =>
    if (received chunks).length = beNat ((headerOf filled).drop 3) then
      some (headerOf filled, received chunks)
    else none
  | _ => none

/-- The read tells its caller that the stream has ended. -/
def SignalsEnd : ReadAttempt → Prop
  | application _ result => ∃ stream, result = .ok ([], stream)
  | poll _ _ _ outcome => outcome = .ready []

/-- The read hands data out, as far as there is room, and keeps the rest for the next one. -/
def HandsOut (plaintext : Bytes) : ReadAttempt → Prop
  | application _ result => ∃ stream, result = .ok (plaintext, stream)
  | poll capacity _ state outcome =>
    outcome = .ready (plaintext.take capacity) ∧ state.readBuf = plaintext.drop capacity

def IsPoll : ReadAttempt → Prop
  | application _ _ => False
  | poll _ _ _ _ => True

section

variable (sm3 : Sm3Library) (sm4 : Sm4Library)

/-- The read is one of a stream; a poll has room for an octet at least. -/
def Of (start : PolledStream) : ReadAttempt → Prop
  | application trace result => Runs (start.stream.readApplicationData sm3 sm4) trace result
  | poll capacity trace state outcome =>
    0 < capacity ∧ Polls (PolledStream.pollRead sm3 sm4 capacity start) trace state outcome

/-- The stream after the read. One that failed may have counted its record. -/
def Leads (start next : PolledStream) : ReadAttempt → Prop
  | application _ (.ok (_, stream)) => next = { start with stream }
  | application _ (.error _) => next = start ∨ next = start.counted
  | poll _ _ state _ => next = state

variable (calls : ℕ → Option PeerCall)

/-- What the peer writes is what authenticates. -/
def Genuine (start : PolledStream) (attempt : ReadAttempt) : Prop :=
  ∀ header buf plaintext, attempt.record = some (header, buf) →
    (header.headD 0 = 0x17 ∨ header.headD 0 = 0x16) →
      start.stream.opened sm3 sm4 header buf = some plaintext → header.headD 0 = 0x17 ∧
          ∃ call, calls start.stream.readSeq = some call ∧ call.payload = plaintext

/-- The end is signalled only on a record that authenticates as the peer's announcement, and data
that the peer wrote is handed out as data. -/
structure Right (start : PolledStream) (attempt : ReadAttempt) : Prop where
  ends : attempt.SignalsEnd → ∃ header buf, attempt.record = some (header, buf) ∧
    header.take 3 = [0x17, 0x01, 0x01] ∧ start.stream.opened sm3 sm4 header buf =
    some PeerCall.close.payload ∧
        calls start.stream.readSeq = some .close
  delivers : ∀ header buf plaintext, attempt.record = some (header, buf) →
    header.take 3 = [0x17, 0x01, 0x01] →
      start.stream.opened sm3 sm4 header buf = some plaintext →
        calls start.stream.readSeq = some (.data plaintext) → attempt.HandsOut plaintext

/-- The record is no alert that looks like the end, and for a poll no data that does. -/
def Unambiguous (start : PolledStream) (attempt : ReadAttempt) : Prop :=
  ∀ header buf, attempt.record = some (header, buf) →
    ¬ (header.headD 0 = 0x15 ∧ buf.take 2 = [0x01, 0x00]) ∧
      (attempt.IsPoll → header.headD 0 = 0x17 → start.stream.opened sm3 sm4 header buf =
      some [0x01, 0x00] →
          calls start.stream.readSeq ≠ some (.data [0x01, 0x00]))

end

section Records

variable {sm3 : Sm3Library} {sm4 : Sm4Library} {start state : PolledStream} {header buf : Bytes}
  {result : Except TlcpError (Bytes × TlcpStream)}

lemma trace_of_application_record {trace : List (Event TlcpNote)}
    (hrec : (application trace result).record = some (header, buf)) :
    trace = [.received header, .received buf] := by
  unfold record at hrec
  split at hrec
  case h_1 heq =>
    obtain ⟨rfl, rfl⟩ := mk.inj (some.inj hrec)
    exact (application.inj heq).1
  case h_2 heq => cases heq
  case h_3 => cases hrec

lemma runs_readApplicationData_record {reader : TlcpStream}
    (hrun : Runs (reader.readApplicationData sm3 sm4) [.received header, .received buf] result) :
    ((header.headD 0 = 0x17 ∨ header.headD 0 = 0x16) ∧
        ∀ plaintext, reader.opened sm3 sm4 header buf = some plaintext → ∃ next,
        result = .ok (plaintext, next)) ∨
      (header.headD 0 = 0x15 ∧ (buf.take 2 = [0x01, 0x00] → result = .ok ([], reader))) := by
  obtain ⟨-, hrest⟩ := runs_readExact_bind_received hrun
  dsimp only at hrest
  by_cases hvers : (header.drop 1).take 2 = [0x01, 0x01]
  swap
  · rw [rejectIf_pos hvers] at hrest
    cases (runs_done_iff.mp hrest).1
  rw [rejectIf_neg (not_not.mpr hvers)] at hrest
  by_cases hsize : beNat (header.drop 3) > maxRecordSize
  · rw [rejectIf_pos hsize] at hrest
    cases (runs_done_iff.mp hrest).1
  rw [rejectIf_neg hsize, Proc.check_ok_bind, Proc.check_ok_bind] at hrest
  split_ifs at hrest with hdata halert
  · refine .inl ⟨hdata, fun plaintext hopened ↦ ?_⟩
    obtain ⟨-, hbody⟩ := runs_readExact_bind_received hrest
    obtain ⟨counted, hcount, hopen⟩ := (opened_eq_some sm3 sm4).mp hopened
    rw [hcount, Proc.check_ok_bind, hopen, Proc.check_ok_bind] at hbody
    exact ⟨counted, (runs_done_iff.mp hbody).2⟩
  · refine .inr ⟨halert, fun hclose ↦ ?_⟩
    obtain ⟨-, hbody⟩ := runs_readExact_bind_received hrest
    rw [if_pos hclose] at hbody
    exact (runs_done_iff.mp hbody).2
  · cases (runs_done_iff.mp hrest).1

lemma take_three_eq {contentType major minor : UInt8} (hlen : header.length = 5)
    (htype : header.headD 0 = contentType) (hvers : (header.drop 1).take 2 = [major, minor]) :
    header.take 3 = [contentType, major, minor] := by
  match header, hlen with
  | first :: rest, _ =>
    rw [← htype, take_succ_cons, show rest.take 2 = [major, minor] from hvers]
    rfl

variable {trace : List Exchange} {capacity : ℕ}

lemma polls_pollRead_record {outcome : Polled Bytes}
    (hpolls : Polls (pollRead sm3 sm4 capacity start) trace state outcome)
    (hrec : (poll capacity trace state outcome).record = some (header, buf)) :
    (buf = [] ∧ ∀ bytes, outcome ≠ .ready bytes) ∨ (header.take 3 = [0x17, 0x01, 0x01] ∧
        pollData sm3 sm4 capacity header buf start = .done state outcome) ∨
      (header.headD 0 = 0x15 ∧ pollAlert buf start = .done state outcome) := by
  rcases polls_pollRead hpolls with ⟨-, rfl, -⟩ | ⟨-, ⟨rfl, -⟩ | ⟨text, rfl, -⟩ | ⟨filled, rest,
    rfl, hroom, hpoll⟩⟩
  · cases hrec
  · cases hrec
  · cases hrec
  rw [record] at hrec
  split_ifs at hrec with hwhole
  obtain ⟨rfl, rfl⟩ := mk.inj (some.inj hrec)
  cases hpoll with
  | rejected => exact .inl ⟨rfl, fun bytes hready ↦ by cases hready⟩
  | unexpected => exact .inl ⟨rfl, fun bytes hready ↦ by cases hready⟩
  | stopped _ _ hshort => exact absurd hwhole (Nat.ne_of_lt hshort)
  | data hhdr htype _ _ hdata =>
    have hvers := (checkHeader_eq_ok.mp hhdr).1
    exact .inr (.inl ⟨take_three_eq (length_headerOf hroom) htype hvers, hdata⟩)
  | alert _ htype _ _ halert => exact .inr (.inr ⟨htype, halert⟩)

lemma exists_record_of_poll_ready_nil (hcap : 0 < capacity)
    (hpolls : Polls (pollRead sm3 sm4 capacity start) trace state (.ready [])) :
    ∃ header buf, (poll capacity trace state (.ready [])).record = some (header, buf) := by
  rcases polls_pollRead hpolls with ⟨hbuf, -, -, hready⟩ | ⟨-, ⟨-, -, hready⟩ |
    ⟨text, -, -, hready⟩ | ⟨filled, rest, rfl, -, hpoll⟩⟩
  · have htake := (take_eq_nil_iff.mp (Polled.ready.inj hready).symm)
    rcases htake with hzero | hnil
    · exact absurd hzero (Nat.ne_of_gt hcap)
    · exact absurd hnil hbuf
  · cases hready
  · cases hready
  cases hpoll with
  | stopped _ hlast _ => cases hlast
  | data _ _ _ hlen _ => exact ⟨_, _, if_pos hlen⟩
  | alert _ _ _ hlen _ => exact ⟨_, _, if_pos hlen⟩

end Records

/-! ### When a read is right -/

variable {sm3 : Sm3Library} {sm4 : Sm4Library} {calls : ℕ → Option PeerCall} {start : PolledStream}
  {call : PeerCall}

lemma eq_close_of_payload (hpay : call.payload = [0x01, 0x00]) (hdata : call ≠ .data [0x01, 0x00]) :
    call = .close := by
  cases call with
  | data plaintext => exact absurd (congrArg PeerCall.data hpay) hdata
  | close => rfl

lemma payload_ne_nil (hpeer : ∀ seq, calls seq ≠ some (.data [])) {seq : ℕ}
    (hcall : calls seq = some call) : call.payload ≠ [] := by
  intro hnil
  cases call with
  | data plaintext => exact hpeer seq (by rw [hcall, ← hnil, PeerCall.payload])
  | close => cases hnil

lemma headD_of_take_three {header : Bytes} {contentType major minor : UInt8}
    (hstart : header.take 3 = [contentType, major, minor]) : header.headD 0 = contentType := by
  cases header with
  | nil => cases hstart
  | cons first rest => exact (cons.inj hstart).1

variable (hpeer : ∀ seq, calls seq ≠ some (.data []))

include hpeer

lemma application_right_iff {trace : List (Event TlcpNote)}
    {result : Except TlcpError (Bytes × TlcpStream)}
    (hof : (application trace result).Of sm3 sm4 start)
    (hgenuine : (application trace result).Genuine sm3 sm4 calls start) :
    (application trace result).Right sm3 sm4 calls start ↔
    (application trace result).Unambiguous sm3 sm4 calls start := by
  constructor
  · intro hright header buf hrec
    refine ⟨?_, fun hpoll ↦ hpoll.elim⟩
    rintro ⟨htype, hclose⟩
    obtain rfl := trace_of_application_record hrec
    rcases runs_readApplicationData_record hof with ⟨hdata, -⟩ | ⟨-, hres⟩
    · rw [htype] at hdata
      exact absurd hdata (by decide)
    obtain ⟨header', buf', hrecord', hstart, -⟩ := hright.ends ⟨_, hres hclose⟩
    obtain ⟨rfl, rfl⟩ := mk.inj (some.inj (hrec.symm.trans hrecord'))
    rw [headD_of_take_three hstart] at htype
    exact absurd htype (by decide)
  intro hunamb
  constructor
  · rintro ⟨next, rfl⟩
    obtain ⟨header, buf, rfl, hreads⟩ := (runs_readApplicationData_ok sm3 sm4).mp hof
    rcases hreads.content with ⟨htype, hcount, hopen⟩ | ⟨htype, hclose, -⟩
    · have hopened := (opened_eq_some sm3 sm4).mpr ⟨_, hcount, hopen⟩
      obtain ⟨-, call, hcall, hpay⟩ := hgenuine header buf [] rfl htype hopened
      exact absurd hpay (payload_ne_nil hpeer hcall)
    · exact absurd ⟨htype, hclose⟩ (hunamb header buf rfl).1
  intro header buf plaintext hrec hstart hopened hcall
  obtain rfl := trace_of_application_record hrec
  rcases runs_readApplicationData_record hof with ⟨-, hres⟩ | ⟨htype, -⟩
  · exact hres plaintext hopened
  · rw [headD_of_take_three hstart] at htype
    exact absurd htype (by decide)

lemma poll_right_iff {capacity : ℕ} {trace : List Exchange} {state : PolledStream}
    {outcome : Polled Bytes}
    (hof : (poll capacity trace state outcome).Of sm3 sm4 start)
    (hgenuine : (poll capacity trace state outcome).Genuine sm3 sm4 calls start) :
    (poll capacity trace state outcome).Right sm3 sm4 calls start ↔
      (poll capacity trace state outcome).Unambiguous sm3 sm4 calls start := by
  obtain ⟨hcap, hpolls⟩ := hof
  constructor
  · intro hright header buf hrec
    -- a poll that is ready without data takes the record for the peer's announcement
    have hends (hready : outcome = .ready []) : header.headD 0 = 0x17 ∧ calls start.stream.readSeq =
        some .close := by
      obtain ⟨header', buf', hrecord', hstart, -, hclose⟩ := hright.ends hready
      obtain ⟨rfl, rfl⟩ := mk.inj (some.inj (hrec.symm.trans hrecord'))
      exact ⟨headD_of_take_three hstart, hclose⟩
    constructor
    · rintro ⟨htype, hclose⟩
      rcases polls_pollRead_record hpolls hrec with ⟨rfl, -⟩ | ⟨hstart, -⟩ | ⟨-, halert⟩
      · cases hclose
      · rw [headD_of_take_three hstart] at htype
        exact absurd htype (by decide)
      rw [pollAlert, if_pos hclose] at halert
      obtain ⟨-, rfl⟩ := Poll.done.inj halert
      have hdata := (hends rfl).1
      rw [htype] at hdata
      exact absurd hdata (by decide)
    intro _ htype hopened hcall
    rcases polls_pollRead_record hpolls hrec with ⟨rfl, -⟩ | ⟨-, hdata⟩ | ⟨halertType, -⟩
    · obtain ⟨counted, -, hopen⟩ := (opened_eq_some sm3 sm4).mp hopened
      exact absurd (length_le_of_unprotect sm3 sm4 hopen) (by decide)
    · rw [pollData_of_opened hopened, if_pos rfl] at hdata
      obtain ⟨-, rfl⟩ := Poll.done.inj hdata
      have hclose := (hends rfl).2
      rw [hcall] at hclose
      cases hclose
    · rw [htype] at halertType
      exact absurd halertType (by decide)
  intro hunamb
  constructor
  · intro hready
    obtain rfl : outcome = .ready [] := hready
    obtain ⟨header, buf, hrec⟩ := exists_record_of_poll_ready_nil hcap hpolls
    refine ⟨header, buf, hrec, ?_⟩
    rcases polls_pollRead_record hpolls hrec with ⟨-, hnever⟩ | ⟨hstart, hdata⟩ | ⟨htype, halert⟩
    · exact absurd rfl (hnever [])
    · have htype := headD_of_take_three hstart
      cases hopened : start.stream.opened sm3 sm4 header buf with
      | none =>
        obtain ⟨text, hdone | hdone⟩ := pollData_of_not_opened hopened
        · rw [hdone] at hdata
          cases (Poll.done.inj hdata).2
        · rw [hdone] at hdata
          cases (Poll.done.inj hdata).2
      | some plaintext =>
        obtain ⟨-, call, hcall, hpay⟩ := hgenuine header buf plaintext hrec (.inl htype) hopened
        rw [pollData_of_opened hopened] at hdata
        split_ifs at hdata with htwo
        · subst htwo
          refine ⟨hstart, rfl, ?_⟩
          rw [hcall]
          refine congrArg some (eq_close_of_payload hpay fun hdataCall ↦ ?_)
          exact (hunamb header buf hrec).2 trivial htype hopened (hdataCall ▸ hcall)
        -- nothing was added, so the plaintext is empty
        have htake := Polled.ready.inj (Poll.done.inj hdata).2
        rcases take_eq_nil_iff.mp htake with hzero | hnil
        · exact absurd hzero (Nat.ne_of_gt hcap)
        · exact absurd (hpay.trans hnil) (payload_ne_nil hpeer hcall)
    rw [pollAlert] at halert
    split_ifs at halert with hclose
    · exact absurd ⟨htype, hclose⟩ (hunamb header buf hrec).1
    · cases (Poll.done.inj halert).2
  intro header buf plaintext hrec hstart hopened hcall
  have htype := headD_of_take_three hstart
  rcases polls_pollRead_record hpolls hrec with ⟨rfl, -⟩ | ⟨-, hdata⟩ | ⟨halertType, -⟩
  · obtain ⟨counted, -, hopen⟩ := (opened_eq_some sm3 sm4).mp hopened
    have hnil := eq_nil_of_length_eq_zero (Nat.le_zero.mp (length_le_of_unprotect sm3 sm4 hopen))
    exact absurd (hnil ▸ hcall) (hpeer _)
  · rw [pollData_of_opened hopened] at hdata
    split_ifs at hdata with htwo
    · subst htwo
      exact absurd hcall ((hunamb header buf hrec).2 trivial htype hopened)
    · obtain ⟨rfl, rfl⟩ := Poll.done.inj hdata
      exact ⟨rfl, rfl⟩
  · rw [htype] at halertType
    exact absurd halertType (by decide)

end ReadAttempt

section Runs

variable (sm3 : Sm3Library) (sm4 : Sm4Library)

/-- Reads one after the other, each listed with the stream it started from. What arrives is up to
the network. -/
inductive ReadRun : PolledStream → List (PolledStream × ReadAttempt) → Prop
  | done (start : PolledStream) : ReadRun start []
  | read {start next : PolledStream} {attempt : ReadAttempt}
      {steps : List (PolledStream × ReadAttempt)} (hof : attempt.Of sm3 sm4 start)
      (hleads : attempt.Leads start next) (hrest : ReadRun next steps) :
        ReadRun start ((start, attempt) :: steps)

variable {sm3 sm4}

lemma ReadRun.of {start : PolledStream} {steps : List (PolledStream × ReadAttempt)}
    (hrun : ReadRun sm3 sm4 start steps) : ∀ step ∈ steps, step.2.Of sm3 sm4 step.1 := by
  induction hrun with
  | done => simp
  | read hof _ _ ih => exact forall_mem_cons.mpr ⟨hof, ih⟩

/-- The reads of a run are right exactly when none takes an alert record that looks like the end and
no poll reads data that does. -/
theorem endOfStream_right_iff {calls : ℕ → Option PeerCall}
    (hpeer : ∀ seq, calls seq ≠ some (.data []))
    {start : PolledStream} {steps : List (PolledStream × ReadAttempt)}
    (hrun : ReadRun sm3 sm4 start steps)
    (hgenuine : ∀ step ∈ steps, step.2.Genuine sm3 sm4 calls step.1) :
    (∀ step ∈ steps, step.2.Right sm3 sm4 calls step.1) ↔ ∀ step ∈ steps,
    step.2.Unambiguous sm3 sm4 calls step.1 := by
  refine forall₂_congr fun step hmem ↦ ?_
  have hof := hrun.of step hmem
  have hstep := hgenuine step hmem
  obtain ⟨origin, attempt⟩ := step
  cases attempt with
  | application trace result => exact ReadAttempt.application_right_iff hpeer hof hstep
  | poll capacity trace state outcome => exact ReadAttempt.poll_right_iff hpeer hof hstep

end Runs

def miniPoll : ReadAttempt :=
  .poll 10 [.received [0x17, 0x01, 0x01, 0x00, 0x1A], .received (miniBody [0x01, 0x00])]
    (miniPolled false).counted (.ready [])

lemma miniPoll_record : miniPoll.record = some ([0x17, 0x01, 0x01, 0x00, 0x1A],
    miniBody [0x01, 0x00]) := by
  decide

lemma readRun_miniPoll : ReadRun Tls.miniSm3 Tls.miniSm4 (miniPolled false)
    [(miniPolled false, miniPoll)] :=
  .read ⟨by decide, polls_of_follow (by rfl)⟩ rfl (.done _)

lemma miniPoll_genuine {calls : ℕ → Option PeerCall} {call : PeerCall} (hcall : calls 0 = some call)
    (hpay : call.payload = [0x01, 0x00]) : miniPoll.Genuine Tls.miniSm3 Tls.miniSm4 calls
    (miniPolled false) := by
  intro header buf plaintext hrec _ hopened
  obtain ⟨rfl, rfl⟩ := mk.inj (some.inj (miniPoll_record.symm.trans hrec))
  exact ⟨rfl, call, hcall, hpay.trans (some.inj hopened)⟩

/-- A poll that takes the announcement of the peer for the end of the stream. -/
theorem announced_end_right :
    ReadRun Tls.miniSm3 Tls.miniSm4 (miniPolled false) [(miniPolled false, miniPoll)] ∧
    miniPoll.SignalsEnd ∧
      miniPoll.Right Tls.miniSm3 Tls.miniSm4 (fun _ ↦ some .close) (miniPolled false) := by
  refine ⟨readRun_miniPoll, rfl, ?_⟩
  have hpeer (seq : ℕ) : (fun _ : ℕ ↦ some PeerCall.close) seq ≠ some (.data []) :=
    fun hdata ↦ by cases hdata
  have hright := (endOfStream_right_iff hpeer readRun_miniPoll
    (forall_mem_singleton.mpr (miniPoll_genuine rfl rfl))).mpr (forall_mem_singleton.mpr ?_)
  · exact hright _ (mem_singleton_self _)
  intro header buf hrecord
  obtain ⟨rfl, rfl⟩ := mk.inj (some.inj (miniPoll_record.symm.trans hrecord))
  exact ⟨fun halert ↦ absurd halert.1 (by decide), fun _ _ _ hdata ↦ by cases hdata⟩

def miniAlert : ReadAttempt :=
  .application [.received [0x15, 0x01, 0x01, 0x00, 0x02], .received [0x01, 0x00]]
    (.ok ([], (miniPolled false).stream))

/-- The end is signalled on an alert that nobody authenticated, and on data of the peer. -/
theorem end_signalled_without_close :
    (ReadRun Tls.miniSm3 Tls.miniSm4 (miniPolled false) [(miniPolled false, miniAlert)] ∧
        miniAlert.Genuine Tls.miniSm3 Tls.miniSm4 (fun _ ↦ none) (miniPolled false) ∧
          ¬ miniAlert.Right Tls.miniSm3 Tls.miniSm4 (fun _ ↦ none) (miniPolled false)) ∧
      ReadRun Tls.miniSm3 Tls.miniSm4 (miniPolled false) [(miniPolled false, miniPoll)] ∧
        miniPoll.Genuine Tls.miniSm3 Tls.miniSm4 (fun _ ↦ some (.data [0x01, 0x00]))
        (miniPolled false) ∧
          ¬ miniPoll.Right Tls.miniSm3 Tls.miniSm4 (fun _ ↦ some (.data [0x01, 0x00]))
          (miniPolled false) := by
  refine ⟨⟨.read ?_ rfl (.done _), ?_, fun hright ↦ ?_⟩, readRun_miniPoll, miniPoll_genuine rfl rfl,
    fun hright ↦ ?_⟩
  · exact (runs_readApplicationData_ok _ _).mpr ⟨_, _, rfl, rfl, rfl, rfl, by decide,
      .inr ⟨rfl, rfl, rfl, rfl⟩⟩
  · intro header buf plaintext hrecord htype
    obtain ⟨rfl, rfl⟩ := mk.inj (some.inj hrecord)
    exact absurd htype (by decide)
  · obtain ⟨header, buf, hrecord, hstart, -⟩ := hright.ends ⟨_, rfl⟩
    obtain ⟨rfl, rfl⟩ := mk.inj (some.inj hrecord)
    exact absurd hstart (by decide)
  · obtain ⟨header, buf, hrecord, hstart, -, hclose⟩ := hright.ends rfl
    cases hclose

end GmStack.Tlcp
