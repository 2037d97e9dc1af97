import GmStack.Tls.EndOfStream

/-! `poll_write` and `poll_read` over a transport that answers as it likes. A writer that has to
wait leaves a part of a record behind. -/

namespace GmStack.Tls

open Foundation Crypto List

variable {F P : Type} [CommRing F] [AddCommGroup P] [Module F P] {lib : TlsLibrary F P}

section Tasks

variable (lib)

/-- The polls of a call of `poll_write`. -/
def WritePoll (buf : Bytes) (start : RecordStream) (attempt : Poll RecordStream ℕ) : Prop :=
  attempt = RecordStream.pollWrite lib buf start

/-- The polls of a call of `poll_shutdown`. -/
def ShutdownPoll (_ : Unit) (start : RecordStream) (attempt : Poll RecordStream Unit) : Prop :=
  attempt = RecordStream.pollShutdown lib start

/-- The polls of a call of `poll_read`. -/
def ReadPoll (capacity : ℕ) (start : PolledStream) (attempt : Poll PolledStream Bytes) : Prop :=
  attempt = PolledStream.pollRead lib capacity start

/-- The octets are the records of inner plaintexts under consecutive sequence numbers. -/
def Half.CarriesAll : Half → List Bytes → Bytes → Prop
  | _, [], bytes => bytes = []
  | half, inner :: inners, bytes => ∃ record rest, bytes = record ++ rest ∧
      half.Carries lib inner record ∧ Half.CarriesAll { half with seq := half.seq + 1 } inners rest

/-- What two sides may rely on, given the calls of both with their outcomes, the exchanges of both,
and the reader at the end. -/
structure AtomicRecords (writer : RecordStream) (writes : List (Bytes × Polled ℕ))
    (sent : List Exchange) (reads : List (ℕ × Polled Bytes)) (taken : List Exchange)
    (reader : PolledStream) : Prop where
  whole : writer.writeHalf.CarriesAll lib ((reported writes).map (· ++ [0x17]) ++ [closeNotify])
    (accepted sent)
  noFailure : ∀ call ∈ reads, ∀ text, call.2 ≠ .failed text
  inOrder : handedOut reads ++ reader.readBuf <+: (reported writes).flatten
  complete : received taken = accepted sent → handedOut reads = (reported writes).flatten ∧
    reader.readBuf = [] ∧ ∃ earlier capacity, reads = earlier ++ [(capacity, .ready [])]

/-- A write that does not wait, and whose version and length are taken at once. -/
def PromptWrite (exchanges : List Exchange) : Prop :=
  Fair exchanges ∧ .writePending ∉ exchanges ∧ ∀ place taken, (place = 1 ∨ place = 2) →
    exchanges[place]? = some (.accepted taken) → taken.length = 2

/-- A shutdown that does not wait while it writes. -/
def PromptShutdown (exchanges : List Exchange) : Prop :=
  Fair exchanges ∧ .writePending ∉ exchanges

end Tasks

/-! ### Writing -/

namespace RecordStream

variable {start state : RecordStream} {trace : List Exchange} {bytes : Bytes} {α : Type}
  {next : Unit → PollM RecordStream α} {outcome : Polled α}

lemma polls_writeOnce_prompt {partly : String} (hfair : Fair trace) (hwaits : .writePending ∉ trace)
    (hwhole : ∀ taken left, trace = [.accepted taken] → bytes = taken ++ left → taken ≠ [] →
    taken.length = bytes.length)
    (hpolls : Polls ((PollM.writeOnce partly bytes >>= next) start) trace state outcome) :
    ∃ rest, trace = .accepted bytes :: rest ∧ Polls (next () start) rest state outcome := by
  rcases Polls.of_writeOnce_bind hpolls with ⟨rfl, -⟩ | ⟨text, rfl, -⟩ | ⟨taken, left, rfl,
    rfl, hleft, -⟩ | hrest
  · exact absurd mem_cons_self hwaits
  · cases hfair _ mem_cons_self
  · have hsome : taken ≠ [] := by
      rintro rfl
      cases hfair _ mem_cons_self
    have hlen := hwhole taken left rfl rfl hsome
    rw [length_append] at hlen
    exact absurd (eq_nil_of_length_eq_zero (by omega)) hleft
  · exact hrest

lemma polls_writeLoop_prompt {refused : String} (hfair : Fair trace)
    (hwaits : .writePending ∉ trace)
    (hpolls : Polls ((PollM.writeLoop refused bytes.length bytes >>= next) start)
    trace state outcome) :
    ∃ pieces rest, trace = pieces ++ rest ∧ accepted pieces = bytes ∧
    Polls (next () start) rest state outcome := by
  rcases polls_writeLoop_bind hpolls with ⟨-, left, pieces, last, -, -, rfl, -, hlast⟩ |
    ⟨pieces, rest, htrace, -, hwhole, hrest⟩
  · have hmem : last ∈ pieces ++ [last] := mem_append_right _ (mem_singleton_self _)
    obtain ⟨rfl, -⟩ := hfair.writePending_of_stops hmem hlast
    exact absurd hmem hwaits
  · exact ⟨pieces, rest, htrace, hwhole, hrest⟩

variable {outcome : Polled ℕ}

lemma accepted_of_prompt {buf ciphertext tag : Bytes} {version : Octets 2}
    (hprompt : PromptWrite trace)
    (hpolls : Polls (pollWriteParts buf ciphertext tag version start) trace state outcome) :
    outcome = .ready buf.length ∧
      accepted trace = recordHeader version ((buf ++ [0x17]).length + 16) ++
      (ciphertext ++ tag) := by
  obtain ⟨hfair, hwaits, hparts⟩ := hprompt
  have htype {taken left : Bytes} (hbytes : [0x17] = taken ++ left) (hsome : taken ≠ []) :
      taken.length = [(0x17 : UInt8)].length := by
    have hcount := congrArg length hbytes
    have hpos := length_pos_iff.mpr hsome
    rw [length_append] at hcount
    simp only [length_singleton] at hcount ⊢
    omega
  obtain ⟨afterType, rfl, hvers⟩ := polls_writeOnce_prompt hfair hwaits (fun taken left _ ↦
    htype) hpolls
  rw [fair_cons] at hfair
  rw [mem_cons, not_or] at hwaits
  obtain ⟨afterVersion, rfl, hlen⟩ := polls_writeOnce_prompt hfair.2 hwaits.2 (by
    intro taken left hrest _ _
    rw [version.length_bytes]
    exact hparts 1 taken (.inl rfl) (by rw [hrest]; rfl)) hvers
  rw [fair_cons] at hfair
  rw [mem_cons, not_or] at hwaits
  obtain ⟨afterLength, rfl, hbody⟩ := polls_writeOnce_prompt hfair.2.2 hwaits.2.2 (by
    intro taken left hrest _ _
    exact hparts 2 taken (.inr rfl) (by rw [hrest]; rfl)) hlen
  rw [fair_cons] at hfair
  rw [mem_cons, not_or] at hwaits
  obtain ⟨pieces, afterBody, rfl, hciphertext, htagPolls⟩ :=
    polls_writeLoop_prompt hfair.2.2.2 hwaits.2.2.2 hbody
  rw [fair_append] at hfair
  rw [mem_append, not_or] at hwaits
  obtain ⟨last, rest, rfl, htag, hdone⟩ :=
    polls_writeLoop_prompt hfair.2.2.2.2 hwaits.2.2.2.2 htagPolls
  obtain ⟨rfl, -, rfl⟩ := polls_pure.mp hdone
  simp [accepted, hciphertext, htag, recordHeader]

variable (lib) in
lemma carries_of_protect {ε : Type} {onKey : TlsError → ε} {onCipher : CryptoError → ε}
    {nonce : Octets 12} {inner ciphertext tag : Bytes} (hkey : start.writeKey.length = 16)
    (hnonce : nextNonce start.writeNonce start.writeSeq = .ok nonce)
    (hprot : start.countedWrite.protect lib onKey onCipher nonce start.writeSeq inner =
    .ok (ciphertext, tag, state)) :
    state = start.countedWrite.withSealing nonce start.writeSeq inner ∧
      (ciphertext ++ tag).length = inner.length + 16 ∧ start.writeHalf.Carries lib inner
          (recordHeader start.version (inner.length + 16) ++ (ciphertext ++ tag)) := by
  have hcnt : start.countedWrite.writeKey.length = 16 := hkey
  obtain ⟨cipher, mac, hok, hlen, hmac, hopens⟩ :=
    opened_protect lib onKey onCipher hcnt hnonce inner
  cases hok.symm.trans hprot
  have hbody : (ciphertext ++ tag).length = inner.length + 16 := by
    rw [length_append, hlen, hmac]
  refine ⟨rfl, hbody, start.version, ciphertext ++ tag, by rw [hbody], hbody,
    fun reader hreader ↦ ?_⟩
  simp only [readHalf, writeHalf, Half.mk.injEq] at hreader
  rw [hbody]
  exact hopens reader hreader.1 hreader.2.1 hreader.2.2.1

lemma polls_pollWrite_prompt {buf : Bytes} (hkey : start.writeKey.length = 16)
    (hseq : start.writeSeq < 2 ^ 64 - 1) (hprompt : PromptWrite trace)
    (hpolls : Polls (pollWrite lib buf start) trace state outcome) :
    (65535 - 1024 < (buf.length + 17) % 2 ^ 16 ∧ trace = [] ∧
    outcome = .failed "TLS record too large") ∨
      ((buf.length + 17) % 2 ^ 16 ≤ 65535 - 1024 ∧ outcome = .ready buf.length ∧
        start.writeHalf.Carries lib (buf ++ [0x17]) (accepted trace) ∧
          state.writeHalf = { start.writeHalf with seq := start.writeSeq + 1 } ∧
            state.closeNotifySent = start.closeNotifySent) := by
  have hbound : start.writeSeq < 2 ^ 64 := by omega
  rcases polls_pollWrite lib hbound hpolls with ⟨hlast, -⟩ |
    ⟨-, nonce, hnonce, ⟨hother, -⟩ | ⟨-, -, ciphertext, tag, hprot, hrest⟩⟩
  · exact absurd hlast (Nat.ne_of_lt hseq)
  · exact absurd hkey hother
  obtain ⟨rfl, hlen, hcarry⟩ := carries_of_protect lib hkey hnonce hprot
  have hsum : ciphertext.length + tag.length = buf.length + 17 := by
    rw [← length_append, hlen, length_append]
    rfl
  rw [hsum] at hrest
  rcases hrest with hlarge | ⟨hfits, hparts⟩
  · exact .inl hlarge
  obtain ⟨hout, haccepted⟩ := accepted_of_prompt hprompt hparts
  refine .inr ⟨hfits, hout, ?_, rfl, rfl⟩
  rw [haccepted]
  exact hcarry

lemma polls_pollWrite_of_prompt {buf : Bytes} (hkey : start.writeKey.length = 16)
    (hseq : start.writeSeq < 2 ^ 64 - 1)
    (hsize : buf.length ≤ Message.maxPlaintext) (hprompt : PromptWrite trace)
    (hpolls : Polls (pollWrite lib buf start) trace state outcome) :
    outcome = .ready buf.length ∧ start.writeHalf.Carries lib (buf ++ [0x17]) (accepted trace) ∧
      state.writeHalf = { start.writeHalf with seq := start.writeSeq + 1 } ∧
        state.closeNotifySent = start.closeNotifySent := by
  have hlimit : Message.maxPlaintext + 17 ≤ 65535 - 1024 := by decide
  have hfits : (buf.length + 17) % 2 ^ 16 ≤ 65535 - 1024 := (Nat.mod_le _ _).trans (by omega)
  rcases polls_pollWrite_prompt hkey hseq hprompt hpolls with ⟨hlarge, -⟩ | ⟨-, hwritten⟩
  · exact absurd hfits (Nat.not_le.mpr hlarge)
  · exact hwritten

variable {final : RecordStream}

lemma carriesAll_of_prompt {writes : List (Bytes × Polled ℕ)}
    (hdrives : Drives (WritePoll lib) PromptWrite start writes trace final)
    (hkey : start.writeKey.length = 16) (hcount : start.writeSeq + writes.length < 2 ^ 64)
    (hfits : ∀ call ∈ writes, call.1.length ≤ Message.maxPlaintext) {inners : List Bytes}
    {rest : Bytes}
    (hrest : Half.CarriesAll lib { start.writeHalf with seq := start.writeSeq + writes.length }
    inners rest) :
    reported writes = writes.map Prod.fst ∧
      start.writeHalf.CarriesAll lib ((reported writes).map (· ++ [0x17]) ++ inners)
      (accepted trace ++ rest) ∧
      final.writeHalf = { start.writeHalf with seq := start.writeSeq + writes.length } ∧
        final.closeNotifySent = start.closeNotifySent := by
  induction hdrives with
  | idle => exact ⟨rfl, hrest, rfl, rfl⟩
  | again hpoll hpolls hprompt _ hsame _ =>
    obtain rfl := hpoll
    obtain ⟨outcome, others, rfl⟩ := hsame
    rw [length_cons] at hcount
    cases (polls_pollWrite_of_prompt hkey (by omega) (hfits _ mem_cons_self) hprompt hpolls).1
  | @next buf start middle final _ before after outcome writes hpoll hpolls hprompt _ _ ih =>
    obtain rfl := hpoll
    rw [length_cons] at hcount
    have hsize : buf.length ≤ Message.maxPlaintext := hfits (buf, outcome) mem_cons_self
    obtain ⟨rfl, hcarry, hhalf, hsent⟩ :=
      polls_pollWrite_of_prompt hkey (by omega) hsize hprompt hpolls
    have hmiddleKey : middle.writeKey.length = 16 :=
      (congrArg length (congrArg Half.key hhalf)).trans hkey
    have hmiddleSeq : middle.writeSeq = start.writeSeq + 1 := congrArg Half.seq hhalf
    have hlast : ({ middle.writeHalf with seq := middle.writeSeq + writes.length } : Half) =
        { start.writeHalf with seq := start.writeSeq + (writes.length + 1) } := by
      rw [hhalf, hmiddleSeq, Nat.add_assoc, Nat.add_comm 1]
    rw [length_cons, ← hlast] at hrest
    obtain ⟨hreported, hall, hfinal, hfinalSent⟩ := ih hmiddleKey (by omega)
      (forall_mem_cons.mp hfits).2 hrest
    refine ⟨?_, ?_, ?_, hfinalSent.trans hsent⟩
    · rw [reported, take_length, map_cons, hreported]
    · rw [reported, take_length, map_cons, accepted_append, append_assoc]
      refine ⟨accepted before, accepted after ++ rest, rfl, hcarry, ?_⟩
      rw [hhalf] at hall
      exact hall
    · rw [hfinal, hlast, length_cons]

lemma carries_of_promptShutdown {outcome : Polled Unit} (hkey : start.writeKey.length = 16)
    (hseq : start.writeSeq < 2 ^ 64 - 1) (hsent : start.closeNotifySent = false)
    (hprompt : PromptShutdown trace)
    (hpolls : Polls (pollShutdown lib start) trace state outcome) :
    start.writeHalf.Carries lib closeNotify (accepted trace) ∧ state.closeNotifySent = true := by
  have hbound : start.writeSeq < 2 ^ 64 := by omega
  rcases polls_pollShutdown lib hbound hpolls with ⟨hclosed | hlast, -⟩ |
    ⟨-, -, nonce, hnonce, ⟨hother, -⟩ | ⟨-, ciphertext, tag, hprot, hannounce⟩⟩
  · rw [hsent] at hclosed
    cases hclosed
  · exact absurd hlast (Nat.ne_of_lt hseq)
  · exact absurd hkey hother
  obtain ⟨-, hlen, hcarry⟩ := carries_of_protect lib hkey hnonce hprot
  rcases polls_announceEnd hannounce with ⟨-, -, pieces, rfl⟩ | ⟨rfl, writes, rfl, ⟨haccepted, -⟩ |
    ⟨pieces, last, rfl, hlast⟩⟩
  · exact absurd (mem_append_right _ (mem_singleton_self _)) hprompt.2
  · refine ⟨?_, rfl⟩
    rw [accepted_append, haccepted, show accepted [Exchange.closed outcome] = [] from rfl,
      append_nil,
      append_assoc, ← length_append, hlen]
    exact hcarry
  have hmem : last ∈ pieces ++ [last] ++ [Exchange.closed outcome] :=
    mem_append_left _ (mem_append_right _ (mem_singleton_self _))
  have hfair := hprompt.1 last hmem
  rcases hlast with ⟨text, rfl⟩ | rfl
  · cases hfair
  · cases hfair

lemma accepted_of_closed {calls : List (Unit × Polled Unit)}
    (hdrives : Drives (ShutdownPoll lib) PromptShutdown start calls trace final)
    (hsent : start.closeNotifySent = true) : accepted trace = [] := by
  have hpoll {start state : RecordStream} {trace : List Exchange} {outcome : Polled Unit}
      (hsent : start.closeNotifySent = true)
      (hpolls : Polls (pollShutdown lib start) trace state outcome) :
      trace = [.closed outcome] ∧ state = start := by
    replace hpolls := polls_get_bind.mp hpolls
    rw [if_pos hsent] at hpolls
    exact Polls.of_shut hpolls
  induction hdrives with
  | idle => rfl
  | again hatt hpolls _ _ _ ih =>
    obtain rfl := hatt
    obtain ⟨rfl, rfl⟩ := hpoll hsent hpolls
    exact ih hsent
  | next hatt hpolls _ _ _ ih =>
    obtain rfl := hatt
    obtain ⟨rfl, rfl⟩ := hpoll hsent hpolls
    exact ih hsent

lemma carries_of_shutdown {outcome : Polled Unit}
    (hdrives : Drives (ShutdownPoll lib) PromptShutdown start [((), outcome)] trace final)
    (hkey : start.writeKey.length = 16) (hseq : start.writeSeq < 2 ^ 64 - 1)
    (hsent : start.closeNotifySent = false) :
    start.writeHalf.Carries lib closeNotify (accepted trace) := by
  generalize hcalls : [((), outcome)] = calls at hdrives
  cases hdrives with
  | idle => cases hcalls
  | again hatt hpolls hprompt hrest _ =>
    obtain rfl := hatt
    obtain ⟨hcarry, hclosed⟩ := carries_of_promptShutdown hkey hseq hsent hprompt hpolls
    rw [accepted_append, accepted_of_closed hrest hclosed, append_nil]
    exact hcarry
  | next hatt hpolls hprompt _ hrest =>
    obtain rfl := hatt
    obtain ⟨hcarry, hclosed⟩ := carries_of_promptShutdown hkey hseq hsent hprompt hpolls
    rw [accepted_append, accepted_of_closed hrest hclosed, append_nil]
    exact hcarry

end RecordStream

/-! ### Reading -/

def innerData (inner : Bytes) : Bytes := if inner.getLastD 0 = 0x17 then inner.dropLast else []

@[simp] lemma innerData_append (plaintext : Bytes) :
    innerData (plaintext ++ [0x17]) = plaintext := by
  rw [innerData, if_pos (by simp), dropLast_concat]

@[simp] lemma innerData_closeNotify : innerData closeNotify = [] := rfl

/-- The inner plaintexts a writer sends. -/
def Writable (inner : Bytes) : Prop :=
  inner = closeNotify ∨ ∃ plaintext, inner = plaintext ++ [0x17] ∧ plaintext.length ≤
    Message.maxPlaintext

lemma Writable.length_le {inner : Bytes} (hinner : Writable inner) :
    inner.length + 16 ≤ maxRecordSize := by
  rcases hinner with rfl | ⟨plaintext, rfl, hlen⟩
  · decide
  have hlimit : Message.maxPlaintext + 17 = maxRecordSize := by decide
  rw [length_append, length_singleton]
  omega

/-- A whole record with an accepted header that opens for its reader. -/
def IsRecord (lib : TlsLibrary F P) (reader : RecordStream) (inner header body : Bytes) : Prop :=
  header.length = 5 ∧ checkHeader header = .ok () ∧ body.length = beNat (header.drop 3) ∧
    reader.opened lib header body = some inner

namespace PolledStream

variable {start state : PolledStream} {capacity : ℕ} {trace : List Exchange} {inners : List Bytes}

lemma exists_first_record {reader : RecordStream} {bytes : Bytes}
    (hcarry : reader.readHalf.CarriesAll lib inners bytes)
    (hwritable : ∀ inner ∈ inners, Writable inner)
    (hbytes : bytes ≠ []) : ∃ inner header body rest, bytes = header ++ (body ++ rest) ∧
      IsRecord lib reader inner header body ∧ ∃ others, inners = inner :: others ∧
        Half.CarriesAll lib { reader.readHalf with seq := reader.readHalf.seq + 1 }
        others rest := by
  cases inners with
  | nil => exact absurd hcarry hbytes
  | cons inner others =>
    obtain ⟨record, rest, rfl, ⟨version, body, rfl, hlen, hopens⟩, hothers⟩ := hcarry
    have hlimit := (hwritable inner mem_cons_self).length_le
    have hcount : beNat ((recordHeader version body.length).drop 3) = body.length := by
      rw [drop_recordHeader, beNat_beOctets (lt_of_le_of_lt (hlen.trans_le hlimit) (by decide))]
    refine ⟨inner, recordHeader version body.length, body, rest, append_assoc _ _ _,
      ⟨length_recordHeader _ _, checkHeader_eq_ok.mpr ⟨rfl, ?_, ?_⟩, hcount.symm,
      hopens reader rfl⟩, others, rfl, hothers⟩
    · rw [hcount]
      omega
    · rw [hcount]
      exact hlen.trans_le hlimit

lemma pollInner_writable {inner : Bytes} (hinner : Writable inner) (hbuf : start.readBuf = []) :
    pollInner lib capacity inner start =
      .done { start with readBuf := (innerData inner).drop capacity }
        (.ready ((innerData inner).take capacity)) := by
  rcases hinner with rfl | ⟨plaintext, rfl, -⟩
  · rw [pollInner_alert lib rfl rfl, innerData_closeNotify, drop_nil, take_nil]
    cases start
    cases hbuf
    rfl
  · rw [pollInner_data, innerData_append]

/-- A read that hands out what is buffered, or waits with what has arrived kept. -/
def TakesNoRecord (capacity : ℕ) (start state : PolledStream) (trace : List Exchange)
    (outcome : Polled Bytes) : Prop :=
  (start.readBuf ≠ [] ∧ received trace = [] ∧ outcome = .ready (start.readBuf.take capacity) ∧
      state = { start with readBuf := start.readBuf.drop capacity }) ∨
    (start.readBuf = [] ∧ outcome = .pending ∧ state.readState.WellFormed ∧
      state.readState.octets = start.readState.octets ++ received trace ∧ state.stream =
      start.stream ∧ state.readBuf = [])

variable {outcome : Polled Bytes}

lemma polls_pollRead_of_record {further : Bytes} {follows : Bytes → Bytes → Prop}
    (hformed : start.readState.WellFormed) (hfair : Fair trace)
    (hpolls : Polls (pollRead lib capacity start) trace state outcome)
    (hrecords : start.readState.octets ++ received trace ++ further ≠ [] → ∃ inner header body rest,
      start.readState.octets ++ received trace ++ further = header ++ (body ++ rest) ∧
        IsRecord lib start.stream inner header body ∧ follows inner rest) :
    TakesNoRecord capacity start state trace outcome ∨ start.readBuf = [] ∧
      ∃ inner, follows inner further ∧ pollInner lib capacity inner start.consumed =
      .done state outcome := by
  have hnonempty {head tail : Bytes} (hlen : head.length = 5) : head ++ tail ++ further ≠ [] := by
    intro hnil
    have hcount := congrArg length (append_eq_nil_iff.mp (append_eq_nil_iff.mp hnil).1).1
    rw [hlen] at hcount
    cases hcount
  cases gathers_pollRead hformed hpolls with
  | buffered hbuf => exact .inl (.inl ⟨hbuf, rfl, rfl, rfl⟩)
  | @rejected chunks readState _ hbuf _ _ hoct hlen hhdr =>
    rw [← hoct] at hrecords
    obtain ⟨inner, header, body, rest, hsame, ⟨hfive, haccepted, -⟩, -⟩ := hrecords (hnonempty hlen)
    rw [ReadState.octets, append_assoc] at hsame
    obtain ⟨hhead, -⟩ := append_inj hsame (hlen.trans hfive.symm)
    rw [hhead, haccepted] at hhdr
    cases hhdr
  | @stopped chunks last readState _ _ hbuf _ hwell _ hoct hlast =>
    have hmem : last ∈ chunks ++ [last] := mem_append_right _ (mem_singleton_self _)
    obtain ⟨rfl, rfl⟩ := hfair.readPending_of_stops hmem hlast
    rw [TakesNoRecord, received_of_stops hlast]
    exact .inl (.inr ⟨hbuf, rfl, hwell, hoct, rfl, hbuf⟩)
  | @record _ head body _ _ hbuf _ hlen _ hwhole hoct hrec =>
    rw [← hoct] at hrecords
    obtain ⟨inner, header, sealed, rest, hsame, ⟨hfive, -, hsealed, hopens⟩, hfollows⟩ :=
      hrecords (hnonempty hlen)
    rw [append_assoc] at hsame
    obtain ⟨rfl, htail⟩ := append_inj hsame (hlen.trans hfive.symm)
    obtain ⟨rfl, rfl⟩ := append_inj htail (hwhole.trans hsealed.symm)
    have hinner := hrec.symm.trans (pollRecord_of_opened lib { start with readState :=
      ⟨head, body.length, body⟩ } hopens)
    exact .inr ⟨hbuf, inner, hfollows, hinner.symm⟩

lemma polls_pollRead_of_sealed {further : Bytes} (hformed : start.readState.WellFormed)
    (hcarry : start.stream.readHalf.CarriesAll lib inners (start.readState.octets ++
      received trace ++ further))
    (hwritable : ∀ inner ∈ inners, Writable inner) (hfair : Fair trace)
    (hpolls : Polls (pollRead lib capacity start) trace state outcome) :
    TakesNoRecord capacity start state trace outcome ∨
      (start.readBuf = [] ∧ ∃ inner others, inners = inner :: others ∧
        outcome = .ready ((innerData inner).take capacity) ∧
          state.readBuf = (innerData inner).drop capacity ∧ state.readState = .empty ∧
            state.stream.readHalf =
              { start.stream.readHalf with seq := start.stream.readHalf.seq + 1 } ∧
              state.stream.readHalf.CarriesAll lib others further) := by
  refine (polls_pollRead_of_record hformed hfair hpolls
    (exists_first_record hcarry hwritable)).imp_right ?_
  rintro ⟨hbuf, inner, ⟨others, rfl, hothers⟩, hinner⟩
  obtain ⟨rfl, rfl⟩ :=
    Poll.done.inj (hinner.symm.trans (pollInner_writable (hwritable inner mem_cons_self) hbuf))
  exact ⟨hbuf, inner, others, rfl, rfl, rfl, rfl, rfl, hothers⟩

variable (lib) in
/-- What a task makes of a stream of records that hold the inner plaintexts. -/
structure HandsOut (start final : PolledStream) (reads : List (ℕ × Polled Bytes))
    (inners : List Bytes)
    (further : Bytes) : Prop where
  noFailure : ∀ call ∈ reads, ∀ text, call.2 ≠ .failed text
  settled : reads = [] ∧ final = start ∨ final.readState = .empty
  exhausted : inners = [] → start.readBuf = [] → reads = []
  progress : ∃ count, handedOut reads ++ final.readBuf = start.readBuf ++
    ((inners.take count).map innerData).flatten ∧
    final.stream.readHalf.CarriesAll lib (inners.drop count) (final.readState.octets ++ further) ∧
      (inners.drop count = [] → inners.getLast? = some closeNotify → final.readBuf = [] ∧
        ∃ earlier capacity, reads = earlier ++ [(capacity, .ready [])])

lemma handsOut_of_sealed {final : PolledStream} {reads : List (ℕ × Polled Bytes)}
    (hdrives : Drives (ReadPoll lib) Fair start reads trace final) {further : Bytes}
    (hformed : start.readState.WellFormed) (hidle : start.readBuf = [] ∨ start.readState = .empty)
    (hcarry : start.stream.readHalf.CarriesAll lib inners (start.readState.octets ++
    received trace ++ further))
    (hwritable : ∀ inner ∈ inners, Writable inner) :
    HandsOut lib start final reads inners further := by
  induction hdrives generalizing inners with
  | idle start =>
    refine ⟨by simp, .inl ⟨rfl, rfl⟩, fun _ _ ↦ rfl, 0, by simp [handedOut], ?_, ?_⟩
    · rwa [received, append_nil] at hcarry
    · rintro rfl hlast
      cases hlast
  | @again capacity start middle final _ before after reads hpoll hpolls hfair hrest hsame ih =>
    obtain rfl := hpoll
    have hwire : start.stream.readHalf.CarriesAll lib inners
        (start.readState.octets ++ received before ++ (received after ++ further)) := by
      simpa only [received_append, append_assoc] using hcarry
    rcases polls_pollRead_of_sealed hformed hwire hwritable hfair hpolls with (⟨-, -, hready, -⟩ |
      ⟨hbuf, -, hwell, hoct, hstr, hempty⟩) | ⟨-, _, _, -, hready, -⟩
    · cases hready
    · rw [← hoct, ← hstr, ← append_assoc] at hwire
      obtain ⟨hnever, hsettled, hexh, count, hdata, hleft, hends⟩ :=
        ih hwell (.inl hempty) hwire hwritable
      rw [hempty, ← hbuf] at hdata
      refine ⟨hnever, .inr ?_, fun hnone _ ↦ hexh hnone hempty, count, hdata, hleft, hends⟩
      obtain ⟨outcome, others, rfl⟩ := hsame
      rcases hsettled with ⟨hnil, -⟩ | hdone
      · cases hnil
      · exact hdone
    · cases hready
  | @next capacity start middle final _ before after outcome reads hpoll hpolls
    hfair hout hrest ih =>
    obtain rfl := hpoll
    have hwire : start.stream.readHalf.CarriesAll lib inners
        (start.readState.octets ++ received before ++ (received after ++ further)) := by
      simpa only [received_append, append_assoc] using hcarry
    have hnotFailed (bytes : Bytes) : ∀ text, (Polled.ready bytes : Polled Bytes) ≠ .failed text :=
      fun _ hfailed ↦ by cases hfailed
    rcases polls_pollRead_of_sealed hformed hwire hwritable hfair hpolls with
      (⟨hbuf, hnothing, rfl, rfl⟩ | ⟨-, hpend, -⟩) | ⟨hbuf, inner, others, rfl, rfl, hkept,
      hempty, -, hothers⟩
    · have hfresh : start.readState = .empty := hidle.resolve_left hbuf
      rw [hnothing, append_nil, ← append_assoc] at hwire
      obtain ⟨hnever, hsettled, -, count, hdata, hleft, hends⟩ :=
        ih hformed (.inr hfresh) hwire hwritable
      refine ⟨forall_mem_cons.mpr ⟨hnotFailed _, hnever⟩, .inr ?_,
        fun _ hnil ↦ absurd hnil hbuf, count, ?_, hleft, fun hnone hlast ↦ ?_⟩
      · rcases hsettled with ⟨-, rfl⟩ | hdone
        · exact hfresh
        · exact hdone
      · rw [handedOut, append_assoc, hdata, ← append_assoc, take_append_drop]
      · obtain ⟨hdrained, earlier, last, rfl⟩ := hends hnone hlast
        exact ⟨hdrained, (capacity, .ready (start.readBuf.take capacity)) :: earlier, last, rfl⟩
    · exact absurd hpend hout
    have hmiddle : middle.stream.readHalf.CarriesAll lib others (middle.readState.octets ++
        received after ++ further) := by
      rw [hempty]
      exact hothers
    have hmiddleFormed : middle.readState.WellFormed := hempty ▸ ReadState.wellFormed_empty
    obtain ⟨hnever, hsettled, hexh, count, hdata, hleft, hends⟩ := ih hmiddleFormed
      (.inr hempty) hmiddle (forall_mem_cons.mp hwritable).2
    refine ⟨forall_mem_cons.mpr ⟨hnotFailed _, hnever⟩, .inr ?_, fun hnone ↦ (by cases hnone),
      count + 1, ?_, hleft, fun hnone hlast ↦ ?_⟩
    · rcases hsettled with ⟨-, rfl⟩ | hdone
      · exact hempty
      · exact hdone
    · rw [handedOut, append_assoc, hdata, hkept, ← append_assoc, take_append_drop,
        hbuf, take_succ_cons, map_cons, flatten_cons, nil_append]
    cases others with
    | nil =>
      obtain rfl : inner = closeNotify := Option.some.inj hlast
      rw [innerData_closeNotify, drop_nil] at hkept
      obtain rfl := hexh rfl hkept
      rw [take_nil, hkept] at hdata
      rw [innerData_closeNotify, take_nil]
      exact ⟨hdata, [], capacity, rfl⟩
    | cons other rest =>
      obtain ⟨hdrained, earlier, last, rfl⟩ := hends hnone hlast
      exact ⟨hdrained, (capacity, .ready ((innerData inner).take capacity)) :: earlier, last, rfl⟩

end PolledStream

lemma Half.CarriesAll.eq_nil {half : Half} {inners : List Bytes}
    (hcarry : half.CarriesAll lib inners []) : inners = [] := by
  cases inners with
  | nil => rfl
  | cons inner others =>
    obtain ⟨record, rest, hnil, ⟨version, body, rfl, -⟩, -⟩ := hcarry
    cases (append_eq_nil_iff.mp (append_eq_nil_iff.mp hnil.symm).1).1

/-- Where no write waits and the version and the length of each record are taken at once, both sides
may rely on all of `AtomicRecords`. -/
theorem promptRecords_atomic {writer middle final : RecordStream} {reader readerEnd : PolledStream}
    {writes : List (Bytes × Polled ℕ)} {ended : Polled Unit} {reads : List (ℕ × Polled Bytes)}
    {sent closing taken : List Exchange} (hkey : writer.writeKey.length = 16)
    (hopen : writer.closeNotifySent = false) (hcount : writer.writeSeq + writes.length < 2 ^ 64 - 1)
    (hfits : ∀ call ∈ writes, call.1.length ≤ Message.maxPlaintext)
    (hhalf : reader.stream.readHalf = writer.writeHalf) (hbuffer : reader.readBuf = [])
    (hempty : reader.readState = .empty)
    (hwrites : Drives (WritePoll lib) PromptWrite writer writes sent middle)
    (hshutdown : Drives (ShutdownPoll lib) PromptShutdown middle [((), ended)] closing final)
    (hreads : Drives (ReadPoll lib) Fair reader reads taken readerEnd)
    (hwire : received taken <+: accepted (sent ++ closing)) :
    AtomicRecords lib writer writes (sent ++ closing) reads taken readerEnd := by
  -- the writer's side; the last record is that of the shutdown
  have hnoRecord : Half.CarriesAll lib { writer.writeHalf with seq :=
    writer.writeSeq + writes.length } [] [] := rfl
  obtain ⟨hreported, -, hmiddleHalf, hmiddleOpen⟩ :=
    RecordStream.carriesAll_of_prompt hwrites hkey (by omega) hfits hnoRecord
  have hmiddleKey : middle.writeKey.length = 16 :=
    (congrArg length (congrArg Half.key hmiddleHalf)).trans hkey
  have hmiddleSeq : middle.writeSeq = writer.writeSeq + writes.length :=
    congrArg Half.seq hmiddleHalf
  have hclose := RecordStream.carries_of_shutdown hshutdown hmiddleKey (by omega)
    (hmiddleOpen.trans hopen)
  rw [hmiddleHalf] at hclose
  have hclosing : Half.CarriesAll lib
      { writer.writeHalf with seq := writer.writeSeq + writes.length } [closeNotify]
      (accepted closing) :=
    ⟨accepted closing, [], (append_nil _).symm, hclose, rfl⟩
  obtain ⟨-, hwhole, -, -⟩ := RecordStream.carriesAll_of_prompt hwrites hkey
    (by omega) hfits hclosing
  rw [← accepted_append] at hwhole
  -- the reader's side
  have hwritable : ∀ inner ∈ (reported writes).map (· ++ [0x17]) ++ [closeNotify],
      Writable inner := by
    intro inner hmem
    rcases mem_append.mp hmem with hdata | hlast
    · obtain ⟨plaintext, hplaintext, rfl⟩ := mem_map.mp hdata
      rw [hreported] at hplaintext
      obtain ⟨call, hcall, rfl⟩ := mem_map.mp hplaintext
      exact .inr ⟨call.1, rfl, hfits call hcall⟩
    · exact .inl (mem_singleton.mp hlast)
  have hdatas : (((reported writes).map (· ++ [0x17]) ++ [closeNotify]).map innerData).flatten =
      (reported writes).flatten := by
    rw [map_append, map_map, flatten_append]
    have hsame : innerData ∘ (· ++ [0x17]) = id := funext innerData_append
    rw [hsame, map_id]
    exact append_nil _
  obtain ⟨further, hfurther⟩ := hwire
  have hcarries : reader.stream.readHalf.CarriesAll lib ((reported writes).map (· ++ [0x17]) ++
    [closeNotify])
      (reader.readState.octets ++ received taken ++ further) := by
    rw [hhalf, hempty, append_assoc, hfurther]
    exact hwhole
  obtain ⟨hnever, hsettled, -, count, hdata, hleft, hends⟩ := PolledStream.handsOut_of_sealed hreads
    (hempty ▸ ReadState.wellFormed_empty) (.inr hempty) hcarries hwritable
  rw [hbuffer, nil_append] at hdata
  refine ⟨hwhole, hnever, ?_, fun hcomplete ↦ ?_⟩
  · rw [hdata, ← hdatas]
    conv_rhs => rw [← take_append_drop count ((reported writes).map (· ++ [0x17]) ++ [closeNotify]),
      map_append, flatten_append]
    exact prefix_append _ _
  have hnone : further = [] := by
    rw [hcomplete] at hfurther
    exact append_right_eq_self.mp hfurther
  have hfinal : readerEnd.readState = .empty := by
    rcases hsettled with ⟨-, rfl⟩ | hdone
    · exact hempty
    · exact hdone
  rw [hnone, hfinal] at hleft
  have hdrop := Half.CarriesAll.eq_nil hleft
  obtain ⟨hdrained, hlast⟩ := hends hdrop getLast?_concat
  rw [take_of_length_le (drop_eq_nil_iff.mp hdrop), hdatas, hdrained, append_nil] at hdata
  exact ⟨hdata, hdrained, hlast⟩

lemma Half.CarriesAll.length_eq {half : Half} {inners : List Bytes} {bytes : Bytes}
    (hcarry : half.CarriesAll lib inners bytes) :
    bytes.length = (inners.map fun inner ↦ inner.length + 21).sum := by
  induction inners generalizing half bytes with
  | nil =>
    rw [show bytes = [] from hcarry]
    rfl
  | cons inner others ih =>
    obtain ⟨record, rest, rfl, ⟨version, body, rfl, hlen, -⟩, hothers⟩ := hcarry
    rw [length_append, length_append, length_recordHeader, hlen, ih hothers, map_cons, sum_cons]
    omega

def miniWriter : RecordStream := (miniSide true).withVersion versionTls13

def miniWrite (seq : UInt8) : List Exchange :=
  [.accepted [23], .accepted [3, 3], .accepted [0, 18], .accepted [7, 23], .accepted (miniTag seq)]

def miniShutdown (seq : UInt8) : List Exchange :=
  [.accepted ([23, 3, 3, 0, 19] ++ closeNotify ++ miniTag seq), .closed (.ready ())]

/-- One octet is written and the connection is shut down, and the peer reads it all. -/
theorem octet_written_promptly : ∃ sent closing reads taken readerEnd, received taken =
    accepted (sent ++ closing) ∧
      AtomicRecords miniTls miniWriter [([7], .ready 1)]
      (sent ++ closing) reads taken readerEnd := by
  have hprompt : PromptWrite (miniWrite 0) := by
    refine ⟨by decide, by decide, ?_⟩
    rintro place taken (rfl | rfl) htaken
    · rw [← Exchange.accepted.inj (Option.some.inj htaken)]
      rfl
    · rw [← Exchange.accepted.inj (Option.some.inj htaken)]
      rfl
  have hsent : ∃ middle final, Drives (WritePoll miniTls) PromptWrite miniWriter [([7], .ready 1)]
    (miniWrite 0) middle ∧
        Drives (ShutdownPoll miniTls) PromptShutdown middle [((), .ready ())]
        (miniShutdown 1) final :=
    ⟨_, _, .single rfl (polls_of_follow (by rfl)) hprompt (by simp),
      .single rfl (polls_of_follow (by rfl)) ⟨by decide, by decide⟩ (by simp)⟩
  have hread : ∃ readerEnd, Drives (ReadPoll miniTls) Fair miniReader
    [(1, .ready [7]), (1, .ready [])]
      ([.received [23, 3, 3, 0, 18], .received ([7, 23] ++ miniTag 0)] ++
        [.received [23, 3, 3, 0, 19], .received (closeNotify ++ miniTag 1)]) readerEnd :=
    ⟨_, .next rfl (polls_of_follow (by rfl)) (by decide) (by simp)
      (.single rfl (polls_of_follow (by rfl)) (by decide) (by simp))⟩
  obtain ⟨middle, final, hwrites, hshutdown⟩ := hsent
  obtain ⟨readerEnd, hreads⟩ := hread
  exact ⟨_, _, _, _, readerEnd, rfl, promptRecords_atomic rfl rfl (by decide)
    (by decide) rfl rfl rfl
    hwrites hshutdown hreads (prefix_refl _)⟩

/-- A transport that lets the writer wait once, and one that takes only the first octet of the
version: what follows are not the records. -/
theorem interrupted_write_breaks_records : (∃ sent middle closing final,
      Drives (WritePoll miniTls) Fair miniWriter [([7], .ready 1)] sent middle ∧
        Drives (ShutdownPoll miniTls) PromptShutdown middle [((), .ready ())] closing final ∧
        ∀ reads taken reader,
            ¬AtomicRecords miniTls miniWriter [([7], .ready 1)]
            (sent ++ closing) reads taken reader) ∧
      ∃ sent middle closing final,
        Drives (WritePoll miniTls) Fair miniWriter [([7], .failed "failed to write version")]
        sent middle ∧
          Drives (ShutdownPoll miniTls) PromptShutdown middle [((), .ready ())] closing final ∧
            ∀ reads taken reader, ¬AtomicRecords miniTls miniWriter
              [([7], .failed "failed to write version")] (sent ++ closing) reads taken reader := by
  constructor
  · have hsent : ∃ middle final, Drives (WritePoll miniTls) Fair miniWriter [([7], .ready 1)]
          ([.accepted [23], .writePending] ++ miniWrite 1) middle ∧
        Drives (ShutdownPoll miniTls) PromptShutdown middle [((), .ready ())]
          (miniShutdown 2) final :=
      ⟨_, _, .again rfl (polls_of_follow (by rfl)) (by decide)
        (.single rfl (polls_of_follow (by rfl)) (by decide) (by simp)) ⟨_, _, rfl⟩,
        .single rfl (polls_of_follow (by rfl)) ⟨by decide, by decide⟩ (by simp)⟩
    obtain ⟨middle, final, hwrites, hshutdown⟩ := hsent
    exact ⟨_, middle, _, final, hwrites, hshutdown, fun _ _ _ hatomic ↦
      absurd hatomic.whole.length_eq (by decide)⟩
  have hsent : ∃ middle final, Drives (WritePoll miniTls) Fair miniWriter
        [([7], .failed "failed to write version")] [.accepted [23], .accepted [3]] middle ∧
      Drives (ShutdownPoll miniTls) PromptShutdown middle [((), .ready ())]
        (miniShutdown 1) final :=
    ⟨_, _, .single rfl (polls_of_follow (by rfl)) (by decide) (by simp),
      .single rfl (polls_of_follow (by rfl)) ⟨by decide, by decide⟩ (by simp)⟩
  obtain ⟨middle, final, hwrites, hshutdown⟩ := hsent
  exact ⟨_, middle, _, final, hwrites, hshutdown, fun _ _ _ hatomic ↦
    absurd hatomic.whole.length_eq (by decide)⟩

end GmStack.Tls
