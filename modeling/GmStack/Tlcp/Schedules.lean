import GmStack.Tlcp.Polling

/-! `poll_write` and `poll_read` over a transport that answers as it likes. A poll that has to wait
forgets the record it was writing or reading. -/

namespace GmStack.Tlcp

open Foundation Crypto List TlcpStream Drives

section Tasks

variable (sm3 : Sm3Library) (sm4 : Sm4Library)

namespace PolledStream

/-- The polls of a call of `poll_write`; each draws its own initialization vector. -/
def WritePoll (plaintext : Bytes) (start : PolledStream) (attempt : Poll PolledStream ℕ) : Prop :=
  ∃ iv, attempt = pollWrite sm3 sm4 plaintext iv start

/-- The polls of a call of `poll_read`. -/
def ReadPoll (capacity : ℕ) (start : PolledStream) (attempt : Poll PolledStream Bytes) : Prop :=
  attempt = pollRead sm3 sm4 capacity start

end PolledStream

/-- The records of plaintexts under consecutive sequence numbers, beginning with that of the stream.
-/
def TlcpStream.SealsAll : TlcpStream → List Bytes → List Bytes → Prop
  | _, [], records => records = []
  | writer, plaintext :: plaintexts, records =>
    ∃ iv record rest, records = record :: rest ∧
      ({ writer with writeSeq := writer.writeSeq + 1 } : TlcpStream).pollWriteRecord sm3 sm4
      plaintext iv = .ok record ∧
      TlcpStream.SealsAll { writer with writeSeq := writer.writeSeq + 1 } plaintexts rest

/-- What two sides may rely on, given the calls of both with their outcomes, the exchanges of both,
and the reader at the end. -/
structure ScheduleIndependent (writer : PolledStream) (writes : List (Bytes × Polled ℕ))
    (sent : List Exchange) (reads : List (ℕ × Polled Bytes)) (taken : List Exchange)
    (reader : PolledStream) : Prop where
  whole : ∃ records, writer.stream.SealsAll sm3 sm4 (reported writes) records ∧
    accepted sent = records.flatten
  noFailure : ∀ call ∈ reads, ∀ text, call.2 ≠ .failed text
  inOrder : handedOut reads ++ reader.readBuf <+: (reported writes).flatten
  complete : received taken = accepted sent → handedOut reads ++ reader.readBuf =
    (reported writes).flatten

/-- A write that does not wait. -/
def PromptWrite (trace : List Exchange) : Prop := Fair trace ∧ .writePending ∉ trace

/-- A read that gets its header at once and does not wait after it. -/
def PromptRead (trace : List Exchange) : Prop :=
  Fair trace ∧ ∀ filled rest, trace = .received filled :: rest → filled.length = 5 ∧
    .readPending ∉ rest

end Tasks

section Prompt

variable {sm3 : Sm3Library} {sm4 : Sm4Library}

namespace PolledStream

variable {reader : TlcpStream} {start : PolledStream} {trace : List Exchange} {state : PolledStream}
  {iv : Octets 16}

lemma polls_pollWrite_of_prompt {plaintext : Bytes} {outcome : Polled ℕ}
    (hdeliv : start.stream.Delivers reader) (hkey : start.stream.writeKey.length = 16)
    (hcount : start.stream.writeSeq < 2 ^ 64 - 1) (hprompt : PromptWrite trace)
    (hpolls : Polls (pollWrite sm3 sm4 plaintext iv start) trace state outcome) :
    outcome = .ready plaintext.length ∧
      state = { start with stream := { start.stream with writeSeq := start.stream.writeSeq + 1 } } ∧
        ({ start.stream with writeSeq := start.stream.writeSeq + 1 } :
        TlcpStream).pollWriteRecord sm3 sm4
          plaintext iv = .ok (accepted trace) := by
  obtain ⟨nonce, hnonce⟩ := exists_nextNonce start.stream.writeNonce hcount
  obtain ⟨buf, hsealed, -⟩ :=
    unprotect_pollWriteRecord sm3 sm4 hdeliv.count hkey hnonce plaintext iv
  rcases polls_pollWrite hpolls with ⟨hlast, -⟩ | ⟨counted, hcnt, rfl, hrest⟩
  · exact absurd hlast (Nat.ne_of_lt hcount)
  obtain ⟨-, rfl⟩ := countWrite_eq_ok.mp hcnt
  rcases hrest with ⟨text, hseal, -⟩ | ⟨record, hseal, ⟨rfl, rfl, -⟩ | ⟨left, pieces, last,
    -, -, rfl, -, hstops⟩⟩
  · rw [hsealed] at hseal
    cases hseal
  · exact ⟨rfl, rfl, hseal⟩
  have hmem : last ∈ pieces ++ [last] := mem_append_right _ (mem_singleton_self _)
  obtain ⟨rfl, -⟩ := hprompt.1.writePending_of_stops hmem hstops
  exact absurd hmem hprompt.2

variable {final : PolledStream}

lemma sealsAll_of_prompt {writes : List (Bytes × Polled ℕ)}
    (hdrives : Drives (WritePoll sm3 sm4) PromptWrite start writes trace final)
    (hdeliv : start.stream.Delivers reader) (hkey : start.stream.writeKey.length = 16)
    (hcount : start.stream.writeSeq + writes.length < 2 ^ 64) :
    reported writes = writes.map Prod.fst ∧
      ∃ records, start.stream.SealsAll sm3 sm4 (reported writes) records ∧ accepted trace =
      records.flatten := by
  induction hdrives generalizing reader with
  | idle => exact ⟨rfl, [], rfl, rfl⟩
  | again hpoll hpolls hprompt _ hsame _ =>
    obtain ⟨iv, rfl⟩ := hpoll
    obtain ⟨outcome, others, rfl⟩ := hsame
    rw [length_cons] at hcount
    cases (polls_pollWrite_of_prompt hdeliv hkey (by omega) hprompt hpolls).1
  | @next plaintext start middle _ _ before after outcome writes hpoll hpolls hprompt _ _ ih =>
    obtain ⟨iv, rfl⟩ := hpoll
    rw [length_cons] at hcount
    obtain ⟨rfl, rfl, hseal⟩ := polls_pollWrite_of_prompt hdeliv hkey (by omega) hprompt hpolls
    have hnext : start.stream.writeSeq + 1 + writes.length < 2 ^ 64 := by omega
    obtain ⟨hreported, records, hseals, haccepted⟩ := ih hdeliv.count hkey hnext
    rw [reported, take_length, map_cons, hreported, accepted_append, haccepted]
    rw [hreported] at hseals
    exact ⟨rfl, accepted before :: records, ⟨iv, _, records, rfl, hseal, hseals⟩, rfl⟩

variable {writer : TlcpStream}

lemma exists_record_eq {plaintext record : Bytes}
    (hdeliv : writer.Delivers reader) (hkey : writer.writeKey.length = 16)
    (hcount : writer.writeSeq < 2 ^ 64 - 1)
    (hseal : ({ writer with writeSeq := writer.writeSeq + 1 } : TlcpStream).pollWriteRecord sm3 sm4
      plaintext iv = .ok record) :
    ∃ buf, record = recordHeader 0x17 buf.length ++ buf ∧
      buf.length = sealedLength writer.cipherSuite plaintext.length ∧
        reader.opened sm3 sm4 (recordHeader 0x17 buf.length) buf = some plaintext := by
  obtain ⟨nonce, hnonce⟩ := exists_nextNonce writer.writeNonce hcount
  obtain ⟨buf, hsealed, hlen, hopen⟩ :=
    unprotect_pollWriteRecord sm3 sm4 hdeliv.count hkey hnonce plaintext iv
  rw [hsealed] at hseal
  refine ⟨buf, (Except.ok.inj hseal).symm, hlen, (opened_eq_some sm3 sm4).mpr ⟨_, ?_, hopen⟩⟩
  exact countRead_eq_ok.mpr ⟨hdeliv.seq ▸ Nat.ne_of_lt hcount, rfl⟩

variable {plaintexts records : List Bytes} {further : Bytes}

lemma polls_pollRead_of_prompt {capacity : ℕ} {outcome : Polled Bytes}
    (hseals : writer.SealsAll sm3 sm4 plaintexts records) (hdeliv : writer.Delivers start.stream)
    (hkey : writer.writeKey.length = 16) (hcount : writer.writeSeq + plaintexts.length < 2 ^ 64)
    (hfits : ∀ plaintext ∈ plaintexts, plaintext.length ≤ maxPlaintext writer.cipherSuite ∧
    plaintext ≠ [0x01, 0x00])
    (hwire : received trace ++ further = records.flatten) (hprompt : PromptRead trace)
    (hpolls : Polls (pollRead sm3 sm4 capacity start) trace state outcome) :
    (outcome = .pending ∧ state = start ∧ received trace = []) ∨
      (start.readBuf ≠ [] ∧ received trace = [] ∧ outcome = .ready (start.readBuf.take capacity) ∧
        state = { start with readBuf := start.readBuf.drop capacity }) ∨
      (start.readBuf = [] ∧ ∃ plaintext others rest, plaintexts = plaintext :: others ∧
        records = received trace :: rest ∧ outcome = .ready (plaintext.take capacity) ∧
          state = { start.counted with readBuf := plaintext.drop capacity } ∧
            ({ writer with writeSeq := writer.writeSeq + 1 } : TlcpStream).SealsAll sm3
            sm4 others rest) := by
  rcases polls_pollRead hpolls with ⟨hbuf, rfl, rfl, rfl⟩ | ⟨hbuf, ⟨rfl, rfl, rfl⟩ |
    ⟨text, rfl, -⟩ | ⟨filled, chunks, rfl, -, hrec⟩⟩
  · exact .inr (.inl ⟨hbuf, rfl, rfl, rfl⟩)
  · exact .inl ⟨rfl, rfl, rfl⟩
  · cases hprompt.1 _ mem_cons_self
  obtain ⟨hfilled, hwaits⟩ := hprompt.2 filled chunks rfl
  have hfair : Fair chunks := (forall_mem_cons.mp hprompt.1).2
  rw [received] at hwire ⊢
  cases plaintexts with
  | nil =>
    obtain rfl : records = [] := hseals
    have hnil := (append_eq_nil_iff.mp (append_eq_nil_iff.mp hwire).1).1
    rw [hnil] at hfilled
    cases hfilled
  | cons plaintext others =>
    obtain ⟨iv, record, rest, rfl, hseal, hothers⟩ := hseals
    rw [length_cons] at hcount
    obtain ⟨buf, rfl, hlen, hopened⟩ := exists_record_eq hdeliv hkey (by omega) hseal
    obtain ⟨hshort, hdata⟩ := hfits plaintext mem_cons_self
    have hsize : buf.length ≤ maxRecordSize :=
      hlen ▸ (sealedLength_le_maxRecordSize_iff _ _).mpr hshort
    have hbytes : beNat ((recordHeader 0x17 buf.length).drop 3) = buf.length :=
      beNat_beOctets (lt_of_le_of_lt hsize (by decide))
    have hheaderLength : (recordHeader 0x17 buf.length).length = 5 := by
      rfl
    rw [flatten_cons, append_assoc, append_assoc] at hwire
    obtain ⟨rfl, hbody⟩ := append_inj hwire (hfilled.trans hheaderLength.symm)
    have hheaderOf : headerOf (recordHeader 0x17 buf.length) = recordHeader 0x17 buf.length := by
      rw [headerOf, hheaderLength, Nat.sub_self, replicate_zero, append_nil]
    rw [hheaderOf] at hrec
    cases hrec with
    | rejected hhdr =>
      rw [checkHeader_eq_ok.mpr ⟨rfl, hbytes.symm ▸ hsize⟩] at hhdr
      cases hhdr
    | unexpected htype => exact absurd rfl htype.1
    | @stopped pieces last _ _ _ hlast _ =>
      have hmem : last ∈ pieces ++ [last] := mem_append_right _ (mem_singleton_self _)
      obtain ⟨rfl, -⟩ := hfair.readPending_of_stops hmem hlast
      exact absurd hmem hwaits
    | data _ _ _ hwhole hdone =>
      obtain ⟨htaken, -⟩ := append_inj hbody (hwhole.trans hbytes)
      rw [htaken] at hdone ⊢
      rw [pollData_of_opened hopened, if_neg hdata] at hdone
      obtain ⟨rfl, rfl⟩ := Poll.done.inj hdone
      exact .inr (.inr ⟨hbuf, plaintext, others, rest, rfl, rfl, rfl, rfl, hothers⟩)
    | alert _ htype => exact absurd (show (0x17 : UInt8) = 0x15 from htype) (by decide)

lemma handsOut_of_prompt {reads : List (ℕ × Polled Bytes)}
    (hdrives : Drives (ReadPoll sm3 sm4) PromptRead start reads trace final)
    (hseals : writer.SealsAll sm3 sm4 plaintexts records) (hdeliv : writer.Delivers start.stream)
    (hkey : writer.writeKey.length = 16) (hcount : writer.writeSeq + plaintexts.length < 2 ^ 64)
    (hfits : ∀ plaintext ∈ plaintexts, plaintext.length ≤ maxPlaintext writer.cipherSuite ∧
    plaintext ≠ [0x01, 0x00])
    (hwire : received trace ++ further = records.flatten) :
    (∀ call ∈ reads, ∀ text, call.2 ≠ .failed text) ∧ ∃ count, handedOut reads ++ final.readBuf =
          start.readBuf ++ (plaintexts.take count).flatten ∧
        further = (records.drop count).flatten := by
  induction hdrives generalizing writer plaintexts records with
  | idle => exact ⟨by simp, 0, by simp [handedOut], hwire⟩
  | again hpoll hpolls hprompt _ _ ih =>
    obtain rfl := hpoll
    rw [received_append, append_assoc] at hwire
    rcases polls_pollRead_of_prompt hseals hdeliv hkey hcount hfits hwire hprompt hpolls with
      ⟨-, rfl, hnothing⟩ | ⟨-, -, hready, -⟩ | ⟨-, _, _, _, -, -, hready, -⟩
    · rw [hnothing] at hwire
      exact ih hseals hdeliv hkey hcount hfits hwire
    · cases hready
    · cases hready
  | @next capacity start _ _ _ before after _ reads hpoll hpolls hprompt hout _ ih =>
    obtain rfl := hpoll
    rw [received_append, append_assoc] at hwire
    have hnever (bytes : Bytes) : ∀ text, (Polled.ready bytes : Polled Bytes) ≠ .failed text :=
      fun _ hfailed ↦ by cases hfailed
    rcases polls_pollRead_of_prompt hseals hdeliv hkey hcount hfits hwire hprompt hpolls with
      ⟨hpend, -⟩ | ⟨-, hnothing, rfl, rfl⟩ | ⟨hbuf, plaintext, others, rest, rfl,
      rfl, rfl, rfl, hothers⟩
    · exact absurd hpend hout
    · rw [hnothing] at hwire
      obtain ⟨hreads, count, hdata, hleft⟩ := ih hseals hdeliv hkey hcount hfits hwire
      refine ⟨forall_mem_cons.mpr ⟨hnever _, hreads⟩, count, ?_, hleft⟩
      rw [handedOut, append_assoc, hdata, ← append_assoc, take_append_drop]
    rw [length_cons] at hcount
    have hnext : writer.writeSeq + 1 + others.length < 2 ^ 64 := by omega
    obtain ⟨hreads, count, hdata, hleft⟩ := ih hothers hdeliv.count hkey hnext
      (forall_mem_cons.mp hfits).2 (append_cancel_left hwire)
    refine ⟨forall_mem_cons.mpr ⟨hnever _, hreads⟩, count + 1, ?_, hleft⟩
    rw [handedOut, append_assoc, hdata, ← append_assoc, take_append_drop, hbuf,
      take_succ_cons, flatten_cons, nil_append]

lemma take_eq_of_flatten_drop {count : ℕ} (hseals : writer.SealsAll sm3 sm4 plaintexts records)
    (hdeliv : writer.Delivers reader) (hkey : writer.writeKey.length = 16)
    (hcount : writer.writeSeq + plaintexts.length < 2 ^ 64)
    (hnone : (records.drop count).flatten = []) :
    plaintexts.take count = plaintexts := by
  induction plaintexts generalizing writer reader records count with
  | nil => rw [take_nil]
  | cons plaintext others ih =>
    obtain ⟨iv, record, rest, rfl, hseal, hothers⟩ := hseals
    rw [length_cons] at hcount
    cases count with
    | zero =>
      obtain ⟨buf, rfl, -⟩ := exists_record_eq hdeliv hkey (by omega) hseal
      cases hnone
    | succ count =>
      have hnext : writer.writeSeq + 1 + others.length < 2 ^ 64 := by omega
      rw [take_succ_cons, ih hothers hdeliv.count hkey hnext hnone]

end PolledStream

/-- Where no write waits and every read is prompt, both sides may rely on all of
`ScheduleIndependent`. What is taken from the transport is a beginning of what was put in, since the
two tasks run side by side. -/
theorem promptSchedule_independent {writer reader writerEnd readerEnd : PolledStream}
    {writes : List (Bytes × Polled ℕ)} {reads : List (ℕ × Polled Bytes)}
    {sent taken : List Exchange}
    (hdelivers : writer.stream.Delivers reader.stream) (hkey : writer.stream.writeKey.length = 16)
    (hbuffer : reader.readBuf = [])
    (hfits : ∀ call ∈ writes, call.1.length ≤ TlcpStream.maxPlaintext writer.stream.cipherSuite ∧
    call.1 ≠ [0x01, 0x00])
    (hcount : writer.stream.writeSeq + writes.length < 2 ^ 64)
    (hwrites : Drives (PolledStream.WritePoll sm3 sm4) PromptWrite writer writes sent writerEnd)
    (hreads : Drives (PolledStream.ReadPoll sm3 sm4) PromptRead reader reads taken readerEnd)
    (hwire : received taken <+: accepted sent) :
    ScheduleIndependent sm3 sm4 writer writes sent reads taken readerEnd := by
  obtain ⟨hreported, records, hseals, haccepted⟩ :=
    PolledStream.sealsAll_of_prompt hwrites hdelivers hkey hcount
  obtain ⟨further, hfurther⟩ := hwire
  have hlength : writer.stream.writeSeq + (reported writes).length < 2 ^ 64 := by
    rw [hreported, length_map]
    exact hcount
  have hall : ∀ plaintext ∈ reported writes, plaintext.length ≤
    maxPlaintext writer.stream.cipherSuite ∧
        plaintext ≠ [0x01, 0x00] := by
    rw [hreported]
    exact forall_mem_map.mpr hfits
  obtain ⟨hnoFailure, count, hdata, hleft⟩ :=
    PolledStream.handsOut_of_prompt hreads hseals hdelivers hkey
    hlength hall (hfurther.trans haccepted)
  rw [hbuffer, nil_append] at hdata
  refine ⟨⟨records, hseals, haccepted⟩, hnoFailure, ?_, fun hcomplete ↦ ?_⟩
  · rw [hdata]
    conv_rhs => rw [← take_append_drop count (reported writes), flatten_append]
    exact prefix_append _ _
  have hnone : further = [] := by
    rw [hcomplete] at hfurther
    exact append_right_eq_self.mp hfurther
  rw [hdata, PolledStream.take_eq_of_flatten_drop hseals hdelivers hkey hlength (hleft ▸ hnone)]

end Prompt

def miniWritten (seq : ℕ) : PolledStream :=
  { miniPolled true with stream := { miniStream .eccSm4GcmSm3 true with writeSeq := seq } }

/-- One octet, written in two pieces and read in two. -/
theorem octet_delivered_in_pieces : ScheduleIndependent Tls.miniSm3 Tls.miniSm4 (miniPolled true)
    [([7], .ready 1)]
      [.accepted ((miniRecord 0 [7]).take 9), .accepted ((miniRecord 0 [7]).drop 9)]
      [(10, .ready [7])]
      [.received ((miniRecord 0 [7]).take 5), .received ((miniRecord 0 [7]).drop 5)]
      (miniPolled false).counted := by
  have hwrites : Drives (PolledStream.WritePoll Tls.miniSm3 Tls.miniSm4) PromptWrite
    (miniPolled true) [([7], .ready 1)]
      [.accepted ((miniRecord 0 [7]).take 9), .accepted ((miniRecord 0 [7]).drop 9)]
      (miniWritten 1) := by
    refine single ⟨.fill 16 0, rfl⟩ (polls_of_follow (by rfl)) ⟨?_, by decide⟩ (by decide)
    decide
  have hreads : Drives (PolledStream.ReadPoll Tls.miniSm3 Tls.miniSm4) PromptRead (miniPolled false)
      [(10, .ready [7])] [.received ((miniRecord 0 [7]).take 5),
      .received ((miniRecord 0 [7]).drop 5)]
      (miniPolled false).counted := by
    refine single rfl (polls_of_follow (by rfl)) ⟨?_, ?_⟩ (by decide)
    · decide
    intro filled rest htrace
    obtain ⟨hfilled, rfl⟩ := cons.inj htrace
    rw [← Exchange.received.inj hfilled]
    exact ⟨by decide, by decide⟩
  refine promptSchedule_independent miniPolled_delivers rfl rfl ?_ (by decide) hwrites hreads
    ⟨[], by decide⟩
  rw [forall_mem_singleton]
  decide

/-- On a fair transport that lets a write wait once, or returns the first octet of a header alone, a
read fails. -/
theorem waiting_breaks_delivery : (∃ reads sent taken writerEnd readerEnd,
      Drives (PolledStream.WritePoll Tls.miniSm3 Tls.miniSm4) Fair (miniPolled true)
      [([7], .ready 1)] sent writerEnd ∧
        Drives (PolledStream.ReadPoll Tls.miniSm3 Tls.miniSm4) Fair (miniPolled false)
        reads taken readerEnd ∧
        received taken = accepted sent ∧ .writePending ∈ sent ∧
          ¬ ScheduleIndependent Tls.miniSm3 Tls.miniSm4 (miniPolled true)
          [([7], .ready 1)] sent reads taken readerEnd) ∧
      ∃ reads sent taken writerEnd readerEnd,
        Drives (PolledStream.WritePoll Tls.miniSm3 Tls.miniSm4) Fair (miniPolled true)
        [([7], .ready 1)] sent writerEnd ∧
          Drives (PolledStream.ReadPoll Tls.miniSm3 Tls.miniSm4) Fair (miniPolled false)
          reads taken readerEnd ∧
          received taken <+: accepted sent ∧ .writePending ∉ sent ∧
            ¬ ScheduleIndependent Tls.miniSm3 Tls.miniSm4 (miniPolled true)
            [([7], .ready 1)] sent reads
              taken readerEnd := by
  refine ⟨⟨[(10, .failed ("GCM decryption failed: " ++
    (CryptoError.sm4Error "SM4-GCM authentication failed").debug))],
    [.writePending] ++ [.accepted (miniRecord 1 [7])],
    [.received ((miniRecord 1 [7]).take 5), .received ((miniRecord 1 [7]).drop 5)], miniWritten 2,
    (miniPolled false).counted, ?_, ?_, by decide, by decide, fun hindependent ↦ ?_⟩,
    [(10, .failed ("unexpected TLCP version: " ++ hexOctet 0 ++ hexOctet 0))],
      [.accepted (miniRecord 0 [7])], [.received [0x17]],
    miniWritten 1, miniPolled false, ?_, ?_, ⟨(miniRecord 0 [7]).drop 1, by decide⟩, by decide,
      fun hindependent ↦ ?_⟩
  · refine .again ⟨.fill 16 0, rfl⟩
      (show Polls _ [.writePending] (miniWritten 1) .pending from polls_of_follow (by rfl)) ?_
      (single ⟨.fill 16 0, rfl⟩ (polls_of_follow (by rfl)) ?_ (by decide)) ⟨_, _, rfl⟩
    · decide
    · decide
  · exact single rfl (polls_of_follow (by rfl)) (by decide) (by decide)
  · exact hindependent.noFailure _ mem_cons_self _ rfl
  · exact single ⟨.fill 16 0, rfl⟩ (polls_of_follow (by rfl)) (by decide) (by decide)
  · exact single rfl (polls_of_follow (by rfl)) (by decide) (by decide)
  · exact hindependent.noFailure _ mem_cons_self _ rfl

end GmStack.Tlcp
