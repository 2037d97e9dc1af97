import GmStack.Tls.Delivery

/-! When a reader may take a TLS stream for ended. -/

namespace GmStack.Tls

open Foundation Crypto List PolledStream Option RecordStream Prod

variable {F P : Type} [CommRing F] [AddCommGroup P] [Module F P]

def closeNotify : Bytes := [0x01, 0x00, 0x15]

/-- One read of a stream with what it exchanged and how it ended: one `poll_read` into a buffer with
room for `capacity` octets, `recv_close_notify`, or `read_application_data`. -/
inductive ReadAttempt
  | poll (capacity : ℕ) (trace : List Exchange) (state : PolledStream) (outcome : Polled Bytes)
  | recvClose (trace : List (Event TlsNote))
    (result : Except (TlsError × RecordStream) (Bool × RecordStream))
  | application (rounds : ℕ) (trace : List (Event TlsNote))
      (result : Except (TlsError × RecordStream) (Bytes × RecordStream))

def wholeRecord (octets : Bytes) : Option (Bytes × Bytes) :=
  if 5 ≤ octets.length ∧ (octets.drop 5).length = beNat ((octets.take 5).drop 3) then
    some (octets.take 5, octets.drop 5)
  else none

variable {body header : Bytes}

lemma wholeRecord_append (hlen : header.length = 5)
    (hwhole : body.length = beNat (header.drop 3)) : wholeRecord (header ++ body) =
    some (header, body) := by
  have htake : (header ++ body).take 5 = header := by rw [← hlen, take_left]
  have hdrop : (header ++ body).drop 5 = body := by rw [← hlen, drop_left]
  have hlong : 5 ≤ (header ++ body).length := by
    rw [length_append, hlen]
    exact Nat.le_add_right _ _
  rw [wholeRecord, htake, hdrop, if_pos ⟨hlong, hwhole⟩]

lemma eq_append_of_wholeRecord {octets : Bytes} (hrec : wholeRecord octets = some (header, body)) :
    octets = header ++ body ∧ header.length = 5 ∧ body.length = beNat (header.drop 3) := by
  rw [wholeRecord] at hrec
  split_ifs at hrec with hwhole
  cases hrec
  exact ⟨(take_append_drop 5 octets).symm, length_take_of_le hwhole.1, hwhole.2⟩

namespace ReadAttempt

def after (start : PolledStream) : ReadAttempt → PolledStream
  | poll _ _ state _ => state
  | recvClose _ result => { start with stream := RecordStream.settled result }
  | application _ _ result => { start with stream := RecordStream.settled result }

def record (start : PolledStream) : ReadAttempt → Option (Bytes × Bytes)
  | poll _ trace _ _ =>
    if start.readBuf = [] then wholeRecord (start.readState.octets ++ received trace) else none
  | recvClose [.received header, .received buf] _ => some (header, buf)
  | _ => none

/-- The read tells its caller that the stream has ended; a poll does so when there was room for an
octet at least. -/
def SignalsEnd : ReadAttempt → Prop
  | poll capacity _ _ outcome => 0 < capacity ∧ outcome = .ready []
  | recvClose _ result => ∃ stream, result = .ok (true, stream)
  | application _ _ _ => False

section Library

variable (lib : TlsLibrary F P) (isEof : String → Bool)

/-- The read is one of a stream. -/
def Of (start : PolledStream) : ReadAttempt → Prop
  | poll capacity trace state outcome =>
    Polls (PolledStream.pollRead lib capacity start) trace state outcome
  | recvClose trace result => Runs (start.stream.recvCloseNotify lib isEof) trace result
  | application rounds trace result =>
    Runs (start.stream.readApplicationData lib rounds) trace result

/-- The end is signalled only on a record that opens, under the current key and sequence number, to
close_notify. -/
def Right (start : PolledStream) (attempt : ReadAttempt) : Prop :=
  attempt.SignalsEnd → ∃ header buf, attempt.record start = some (header, buf) ∧
    start.stream.opened lib header buf = some closeNotify

/-- What a record opens to must not be mistaken for the end. -/
def Mistakable (plaintext : Bytes) : ReadAttempt → Prop
  | poll capacity _ _ _ => 0 < capacity ∧ (plaintext = [0x17] ∨
      plaintext.getLastD 0 = 0x15 ∧ plaintext.dropLast.take 2 = [0x01, 0x00] ∧
        plaintext ≠ closeNotify)
  | recvClose _ _ => plaintext ≠ closeNotify
  | application _ _ _ => False

/-- The record that a read takes, if its header is accepted, opens to nothing that is mistaken for
the end. -/
def Unambiguous (start : PolledStream) (attempt : ReadAttempt) : Prop :=
  ∀ header buf plaintext, attempt.record start = some (header, buf) →
    checkHeader header = .ok () → start.stream.opened lib header buf = some plaintext →
    ¬ attempt.Mistakable plaintext

end Library

/-! ### When a read is right -/

variable {lib : TlsLibrary F P} {isEof : String → Bool} {start : PolledStream}

lemma poll_right_iff {capacity : ℕ} {trace : List Exchange} {state : PolledStream}
    {outcome : Polled Bytes} (hstart : start.readState.WellFormed)
    (hof : (poll capacity trace state outcome).Of lib isEof start) :
    (poll capacity trace state outcome).Right lib start ↔
    (poll capacity trace state outcome).Unambiguous lib start := by
  have hgathers := gathers_pollRead hstart hof
  constructor
  · intro hright header buf plaintext hrec hhdr hopened hmistaken
    have hends (hready : outcome = .ready []) : plaintext = closeNotify := by
      obtain ⟨header', buf', hrecord', hclose⟩ := hright ⟨hmistaken.1, hready⟩
      obtain ⟨rfl, rfl⟩ := mk.inj (some.inj (hrec.symm.trans hrecord'))
      exact some.inj (hopened.symm.trans hclose)
    unfold record at hrec
    split_ifs at hrec with hbuf
    obtain ⟨hoct, hlen, hwhole⟩ := eq_append_of_wholeRecord hrec
    cases hgathers with
    | buffered hdata => exact hdata hbuf
    | rejected _ _ _ hgathered hfull hrejected =>
      rw [hoct] at hgathered
      obtain ⟨hsame, -⟩ := append_inj hgathered (hfull.trans hlen.symm)
      rw [hsame, hhdr] at hrejected
      cases hrejected
    | @stopped chunks last readState _ _ _ _ hformed hstopped hgathered hlast =>
      rw [received_of_stops hlast, ← hgathered] at hoct
      have hcount := congrArg length hoct
      rcases hstopped with hshort | ⟨hfull, hshort⟩
      · rcases hformed.body with hnil | ⟨hfive, -⟩
        · rw [ReadState.octets, hnil, append_nil, length_append] at hcount
          omega
        · omega
      obtain ⟨hsame, hbody⟩ := append_inj hoct (hfull.trans hlen.symm)
      rw [hsame, hbody, hwhole] at hshort
      exact absurd hshort (lt_irrefl _)
    | @record _ head body _ _ _ _ hfull _ _ hgathered hdone =>
      rw [hoct] at hgathered
      obtain ⟨rfl, rfl⟩ := append_inj hgathered (hfull.trans hlen.symm)
      have hinner := (pollRecord_of_opened lib
        { start with readState := ⟨head, body.length, body⟩ } hopened).symm.trans hdone
      rcases hmistaken.2 with rfl | ⟨halert, hclose, hother⟩
      · obtain ⟨-, rfl⟩ := Poll.done.inj ((pollInner_data lib []).symm.trans hinner)
        have hequal := hends (by rw [take_nil])
        cases hequal
      · obtain ⟨-, rfl⟩ := Poll.done.inj ((pollInner_alert lib halert hclose).symm.trans hinner)
        exact hother (hends rfl)
  rintro hunamb ⟨hcap, rfl⟩
  generalize hready : (Polled.ready [] : Polled Bytes) = outcome at hgathers
  cases hgathers with
  | buffered hdata =>
    rcases take_eq_nil_iff.mp (Polled.ready.inj hready).symm with hzero | hnil
    · exact absurd hzero (Nat.ne_of_gt hcap)
    · exact absurd hnil hdata
  | rejected => cases hready
  | stopped _ _ _ _ _ hlast =>
    subst hready
    cases hlast
  | @record _ header body _ _ hbuf _ hlen hhdr hwhole hgathered hdone =>
    subst hready
    have hrec : (poll capacity trace state (.ready [])).record start = some (header, body) := by
      rw [record, if_pos hbuf, ← hgathered]
      exact wholeRecord_append hlen hwhole
    refine ⟨header, body, hrec, ?_⟩
    cases hopened : start.stream.opened lib header body with
    | none =>
      obtain ⟨text, next, hfailed⟩ := pollRecord_of_not_opened lib
        { start with readState := ⟨header, body.length, body⟩ } hopened
      cases (Poll.done.inj (hdone.symm.trans hfailed)).2
    | some plaintext =>
      by_contra hother
      have hnot := hunamb header body plaintext hrec hhdr hopened
      have hinner := (pollRecord_of_opened lib
        { start with readState := ⟨header, body.length, body⟩ } hopened).symm.trans hdone
      rcases eq_of_pollInner_ready_nil lib hcap hinner with hempty | ⟨halert, hclose⟩
      · exact hnot ⟨hcap, .inl hempty⟩
      · exact hnot ⟨hcap, .inr ⟨halert, hclose, fun hequal ↦ hother (by rw [hequal])⟩⟩

variable {trace : List (Event TlsNote)}

lemma runs_readBody_bind {α : Type} {short long : String} {header : Bytes} {stream : RecordStream}
    {next : Bytes → StreamCall α}
    {result : Except (TlsError × RecordStream) α}
    (hruns : Runs (stream.readBody short long header >>= next) trace result) :
    (∃ error, result = .error error ∧ ∀ buf, trace ≠ [.received buf]) ∨
      ∃ buf rest, trace = .received buf :: rest ∧ checkHeader header = .ok () ∧
      Runs (next buf) rest result := by
  rcases runs_bind.mp hruns with ⟨error, rfl, hbody⟩ | ⟨buf, before, after, rfl, hbody, hnext⟩
  · refine .inl ⟨error, rfl, ?_⟩
    rintro buf rfl
    rcases runs_check_bind.mp hbody with ⟨_, -, htrace, -⟩ | ⟨-, -, hbody⟩
    · cases htrace
    rcases runs_check_bind.mp hbody with ⟨_, -, htrace, -⟩ | ⟨-, -, hbody⟩
    · cases htrace
    rcases runs_check_bind.mp hbody with ⟨_, -, htrace, -⟩ | ⟨-, -, hbody⟩
    · cases htrace
    generalize hcount : beNat (header.drop 3) = count at hbody
    cases hbody with
    | received _ hrest => cases (runs_done_iff.mp hrest).2
  obtain ⟨_, htype, hbody⟩ := runs_check_bind_ok.mp hbody
  obtain ⟨_, hshort, hbody⟩ := runs_check_bind_ok.mp hbody
  obtain ⟨_, hlong, hbody⟩ := runs_check_bind_ok.mp hbody
  obtain ⟨-, rfl⟩ := runs_readExact_ok.mp hbody
  have htype := not_not.mp (rejectIf_eq_ok.mp htype)
  refine .inr ⟨buf, after, rfl, checkHeader_eq_ok.mpr ⟨htype, ?_, ?_⟩, hnext⟩
  · exact Nat.not_lt.mp (rejectIf_eq_ok.mp hshort)
  · exact Nat.not_lt.mp (rejectIf_eq_ok.mp hlong)

variable {result : Except (TlsError × RecordStream) (Bool × RecordStream)}

lemma trace_of_recvClose_record {header buf : Bytes}
    (hrec : (recvClose trace result).record start = some (header, buf)) :
    trace = [.received header, .received buf] := by
  unfold record at hrec
  split at hrec
  case h_1 heq => cases heq
  case h_2 heq =>
    obtain ⟨rfl, rfl⟩ := mk.inj (some.inj hrec)
    exact (recvClose.inj heq).1
  case h_3 => cases hrec

lemma recvClose_right_iff (hof : (recvClose trace result).Of lib isEof start) :
    (recvClose trace result).Right lib start ↔ (recvClose trace result).Unambiguous lib start := by
  have hruns : Runs (start.stream.recvCloseNotify lib isEof) trace result := hof
  have hcases : (∀ header buf, trace ≠ [.received header, .received buf]) ∧
    (∀ next, result ≠ .ok (true, next)) ∨
      ∃ header buf, trace = [.received header, .received buf] ∧ checkHeader header = .ok () ∧
        (start.stream.opened lib header buf = none ∧ (∀ next, result ≠ .ok (true, next)) ∨
          ∃ plaintext next, start.stream.opened lib header buf = some plaintext ∧
          result = .ok (true, next)) := by
    rcases runs_attempt_readExact_bind hruns with ⟨text, rest, rfl, hrest⟩ | ⟨header,
      rest, -, rfl, hrest⟩
    · refine .inl ⟨fun header buf ↦ (by simp), ?_⟩
      rintro next rfl
      dsimp only at hrest
      split_ifs at hrest
      · cases (runs_done_iff.mp hrest).2
      · cases (runs_done_iff.mp hrest).2
    rcases runs_readBody_bind hrest with ⟨error, rfl, hnone⟩ | ⟨buf, after, rfl, hhdr, hafter⟩
    · refine .inl ⟨?_, fun next ↦ (by simp)⟩
      intro other buf htrace
      exact hnone buf (cons.inj htrace).2
    rcases runs_check_bind.mp hafter with ⟨error, herror, rfl, rfl⟩ | ⟨⟨plaintext, next⟩,
      hok, hdone⟩
    · refine .inr ⟨header, buf, rfl, hhdr, .inl ⟨?_, fun next ↦ (by simp)⟩⟩
      cases hopened : start.stream.opened lib header buf with
      | none => rfl
      | some plaintext =>
        cases herror.symm.trans ((unprotect_eq_ok lib).mpr ⟨hopened, rfl⟩)
    · obtain ⟨rfl, rfl⟩ := runs_done_iff.mp hdone
      exact .inr ⟨header, buf, rfl, hhdr,
        .inr ⟨plaintext, next, ((unprotect_eq_ok lib).mp hok).1, rfl⟩⟩
  rcases hcases with ⟨hnone, hfalse⟩ | ⟨header, buf, rfl, hhdr,
    ⟨hclosed, hfalse⟩ | ⟨plaintext, next, hopened, rfl⟩⟩
  · refine iff_of_true ?_ ?_
    · rintro ⟨next, hok⟩
      exact absurd hok (hfalse next)
    · intro header buf plaintext hrec
      exact absurd (trace_of_recvClose_record hrec) (hnone header buf)
  · refine iff_of_true ?_ ?_
    · rintro ⟨next, hok⟩
      exact absurd hok (hfalse next)
    intro other others plaintext hrec _ hopened
    obtain ⟨rfl, rfl⟩ := mk.inj (some.inj hrec)
    rw [hclosed] at hopened
    cases hopened
  constructor
  · intro hright other others found hrec _ hfound hmistaken
    obtain ⟨header', buf', hrecord', hclose⟩ := hright ⟨next, rfl⟩
    obtain ⟨rfl, rfl⟩ := mk.inj (some.inj hrec)
    obtain ⟨rfl, rfl⟩ := mk.inj (some.inj hrecord')
    exact hmistaken (some.inj (hfound.symm.trans hclose))
  intro hunamb _
  have hequal := not_not.mp (hunamb header buf plaintext rfl hhdr hopened)
  exact ⟨header, buf, rfl, hequal ▸ hopened⟩

variable {attempt : ReadAttempt} (hof : attempt.Of lib isEof start)

include hof

variable (hstart : start.readState.WellFormed)

include hstart

lemma wellFormed_after : (attempt.after start).readState.WellFormed := by
  cases attempt with
  | poll capacity trace state outcome =>
    exact (gathers_pollRead hstart hof).wellFormed hstart
  | recvClose => exact hstart
  | application => exact hstart

lemma right_iff : attempt.Right lib start ↔ attempt.Unambiguous lib start := by
  cases attempt with
  | poll => exact poll_right_iff hstart hof
  | recvClose => exact recvClose_right_iff hof
  | application =>
    refine iff_of_true (fun hends ↦ hends.elim) ?_
    intro header buf plaintext hrec
    cases hrec

end ReadAttempt

def PolledStream.new (stream : RecordStream) : PolledStream := ⟨stream, [], .empty⟩

section Runs

variable (lib : TlsLibrary F P) (isEof : String → Bool)

/-- Reads one after the other, each listed with the stream it started from. What arrives, and in
which pieces, is up to the network. -/
inductive ReadRun : PolledStream → List (PolledStream × ReadAttempt) → Prop
  | done (start : PolledStream) : ReadRun start []
  | read {start : PolledStream} {attempt : ReadAttempt} {steps : List (PolledStream × ReadAttempt)}
      (hof : attempt.Of lib isEof start) (hrest : ReadRun (attempt.after start) steps) :
      ReadRun start ((start, attempt) :: steps)

variable {lib isEof}

lemma ReadRun.of {start : PolledStream} {steps : List (PolledStream × ReadAttempt)}
    (hrun : ReadRun lib isEof start steps) (hstart : start.readState.WellFormed) :
    ∀ step ∈ steps, step.2.Of lib isEof step.1 ∧ step.1.readState.WellFormed := by
  induction hrun with
  | done => exact fun step hmem ↦ absurd hmem not_mem_nil
  | read hof _ ih =>
    exact forall_mem_cons.mpr ⟨⟨hof, hstart⟩, ih (ReadAttempt.wellFormed_after hof hstart)⟩

/-- No `recv_close_notify` takes a record that opens to anything but close_notify, and no poll takes
empty application data or an alert that only begins like close_notify. -/
theorem endOfStream_right_iff_unambiguous {stream : RecordStream}
    {steps : List (PolledStream × ReadAttempt)} (hrun : ReadRun lib isEof (.new stream) steps) :
    (∀ step ∈ steps, step.2.Right lib step.1) ↔ ∀ step ∈ steps, step.2.Unambiguous lib step.1 := by
  refine forall₂_congr fun step hmem ↦ ?_
  obtain ⟨hof, hformed⟩ := hrun.of ReadState.wellFormed_empty step hmem
  exact ReadAttempt.right_iff hof hformed

end Runs

def miniReader : PolledStream := .new ((miniSide false).withVersion versionTls13)

def miniTag (seq : UInt8) : Bytes := List.replicate 11 0 ++ [seq, 0, 0, 0, 1]

/-- A poll that takes the announcement of the peer for the end of the stream. -/
theorem announced_close_right : ∃ trace, ReadRun miniTls (fun _ ↦ false) miniReader
        [(miniReader, .poll 10 trace miniReader.consumed (.ready []))] ∧
      (ReadAttempt.poll 10 trace miniReader.consumed (.ready [])).Right miniTls miniReader := by
  have hrun :
    ReadRun miniTls (fun _ ↦ false) miniReader [(miniReader, .poll 10 [.received [23, 3, 3, 0, 19],
      .received (closeNotify ++ miniTag 0)] miniReader.consumed (.ready []))] :=
    .read (polls_of_follow (by rfl)) (.done _)
  refine ⟨_, hrun, (endOfStream_right_iff_unambiguous hrun).mpr ?_ _ (mem_singleton_self _)⟩
  rw [forall_mem_singleton]
  intro header body plaintext hrecord _ hfound hmistaken
  obtain ⟨rfl, rfl⟩ := mk.inj (some.inj hrecord)
  have hopened : miniReader.stream.opened miniTls [23, 3, 3, 0, 19] (closeNotify ++ miniTag 0) =
      some closeNotify := by decide
  obtain rfl := some.inj (hopened.symm.trans hfound)
  rcases hmistaken.2 with hempty | ⟨-, -, hother⟩
  · cases hempty
  · exact hother rfl

/-- The end is signalled on an empty record of application data by `poll_read`, and on data by
`recv_close_notify`. -/
theorem close_signalled_on_data : (∃ trace, ReadRun miniTls (fun _ ↦ false) miniReader
        [(miniReader, .poll 10 trace miniReader.consumed (.ready []))] ∧
      ¬ (ReadAttempt.poll 10 trace miniReader.consumed (.ready [])).Right miniTls miniReader) ∧
      ∃ trace, ReadRun miniTls (fun _ ↦ false) miniReader
          [(miniReader, .recvClose trace (.ok (true, miniReader.consumed.stream)))] ∧
        ¬ (ReadAttempt.recvClose trace (.ok (true, miniReader.consumed.stream))).Right miniTls
          miniReader := by
  constructor
  · refine ⟨[.received [23, 3, 3, 0, 17], .received (0x17 :: miniTag 0)],
      .read (polls_of_follow (by rfl)) (.done _), fun hright ↦ ?_⟩
    obtain ⟨header, body, hrecord, hclose⟩ := hright ⟨by decide, rfl⟩
    obtain ⟨rfl, rfl⟩ := mk.inj (some.inj hrecord)
    exact absurd hclose (by decide)
  refine ⟨[.received [23, 3, 3, 0, 18], .received (7 :: 0x17 :: miniTag 0)], .read ?_ (.done _),
    fun hright ↦ ?_⟩
  · exact runs_feed (miniReader.stream.recvCloseNotify miniTls fun _ ↦ false)
      ([23, 3, 3, 0, 18, 7, 0x17] ++ miniTag 0)
  obtain ⟨header, body, hrecord, hclose⟩ := hright ⟨_, rfl⟩
  obtain ⟨rfl, rfl⟩ := mk.inj (some.inj hrecord)
  exact absurd hclose (by decide)

end GmStack.Tls
