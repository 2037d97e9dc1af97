import GmStack.Tls.Schedules

/-! The records of one direction as `poll_read` meets them, with close_notify at the end
(`Arrives`). -/

namespace GmStack.Tls

open Foundation Crypto List PolledStream

variable {F P : Type} [CommRing F] [AddCommGroup P] [Module F P]

section Library

variable (lib : TlsLibrary F P)

/-- The octets are valid records for their reader, with the application data they hold, and end with
close_notify. -/
inductive Arrives : RecordStream → List Bytes → Bytes → Prop
  | close {reader : RecordStream} {header body : Bytes}
    (hrecord : IsRecord lib reader closeNotify header body) :
      Arrives reader [] (header ++ (body ++ []))
  | data {reader : RecordStream} {payload header body rest : Bytes} {payloads : List Bytes}
      (hrecord : IsRecord lib reader (payload ++ [0x17]) header body)
      (hrest : Arrives { reader with readSeq := reader.readSeq + 1 } payloads rest) :
      Arrives reader (payload :: payloads) (header ++ (body ++ rest))
  | handshake {reader next : RecordStream} {msg header body rest : Bytes} {payloads : List Bytes}
      (hrecord : IsRecord lib reader (msg ++ [0x16]) header body)
      (hnext : ({ reader with readSeq := reader.readSeq + 1 } : RecordStream).processInnerHandshake
        lib msg = .ok next)
      (hrest : Arrives next payloads rest) : Arrives reader payloads (header ++ (body ++ rest))

/-- What a read makes of the next record. -/
inductive Takes (capacity : ℕ) : List Bytes → Bytes → PolledStream → Polled Bytes → Prop
  | close {rest : Bytes} {state : PolledStream} : Takes capacity [] rest state (.ready [])
  | data {payload rest : Bytes} {payloads : List Bytes} {state : PolledStream}
      (hbuffer : state.readBuf = payload.drop capacity)
        (hrest : Arrives lib state.stream payloads rest) :
      Takes capacity (payload :: payloads) rest state (.ready (payload.take capacity))
  | handshake {rest : Bytes} {payloads : List Bytes} {state : PolledStream}
    (hbuffer : state.readBuf = [])
      (hrest : Arrives lib state.stream payloads rest) : Takes capacity payloads rest state .pending

variable {lib} {payloads : List Bytes} {capacity : ℕ} {start state : PolledStream}
  {trace : List Exchange}

lemma Arrives.exists_record {reader : RecordStream} {bytes : Bytes}
    (harrives : Arrives lib reader payloads bytes)
    (capacity : ℕ) :
    ∃ inner header body rest, bytes = header ++ (body ++ rest) ∧
    IsRecord lib reader inner header body ∧
      ∀ consumed : PolledStream, consumed.stream = { reader with readSeq := reader.readSeq + 1 } →
        consumed.readBuf = [] → ∃ state outcome, pollInner lib capacity inner consumed =
        .done state outcome ∧
          state.readState = consumed.readState ∧
          Takes lib capacity payloads rest state outcome := by
  cases harrives with
  | close hrecord => exact ⟨_, _, _, _, rfl, hrecord, fun _ _ _ ↦
    ⟨_, _, pollInner_alert lib rfl rfl, rfl, .close⟩⟩
  | data hrecord hrest =>
    refine ⟨_, _, _, _, rfl, hrecord, fun consumed hstream _ ↦
      ⟨_, _, pollInner_data lib _, rfl, .data rfl ?_⟩⟩
    rw [← hstream] at hrest
    exact hrest
  | @handshake _ next msg _ _ _ _ hrecord hnext hrest =>
    refine ⟨_, _, _, _, rfl, hrecord, fun consumed hstream hbuffer ↦
      ⟨{ consumed with stream := next }, .pending, ?_, rfl, .handshake hbuffer hrest⟩⟩
    simp only [pollInner, bind, Poll.bind, PollM.get]
    rw [if_neg (by simp), if_neg (by simp), if_pos (by simp), dropLast_concat, hstream, hnext]
    rfl

lemma polls_pollRead_of_arrives {outcome : Polled Bytes} {further : Bytes}
    (hformed : start.readState.WellFormed)
    (harrives : Arrives lib start.stream payloads (start.readState.octets ++
    received trace ++ further))
    (hfair : Fair trace) (hpolls : Polls (pollRead lib capacity start) trace state outcome) :
    TakesNoRecord capacity start state trace outcome ∨
      (start.readBuf = [] ∧ state.readState = .empty ∧
      Takes lib capacity payloads further state outcome) := by
  have hrecord := harrives.exists_record capacity
  refine (polls_pollRead_of_record hformed hfair hpolls fun _ ↦ hrecord).imp_right ?_
  rintro ⟨hbuffer, inner, htakes, hinner⟩
  obtain ⟨next, result, hnext, hempty, htakes⟩ := htakes start.consumed rfl hbuffer
  obtain ⟨rfl, rfl⟩ := Poll.done.inj (hinner.symm.trans hnext)
  exact ⟨hbuffer, hempty, htakes⟩

/-- The reads of a task that goes on until one of them adds nothing to its buffer, which has room.
-/
def UntilEmpty : List (ℕ × Polled Bytes) → Prop
  | [] => False
  | (capacity, outcome) :: rest => 0 < capacity ∧ if outcome = .ready [] then rest =
    [] else UntilEmpty rest

lemma handedOut_of_arrives {final : PolledStream} {reads : List (ℕ × Polled Bytes)}
    (hdrives : Drives (ReadPoll lib) Fair start reads trace final) {further : Bytes}
    (hformed : start.readState.WellFormed) (hidle : start.readBuf = [] ∨ start.readState = .empty)
    (harrives : Arrives lib start.stream payloads (start.readState.octets ++
    received trace ++ further))
    (huntil : UntilEmpty reads) : (∀ call ∈ reads, ∀ text, call.2 ≠ .failed text) ∧
      handedOut reads = start.readBuf ++ (payloads.takeWhile (· ≠ [])).flatten := by
  induction hdrives generalizing payloads with
  | idle => cases huntil
  | @again capacity start middle final _ before after reads hpoll hpolls hfair hrest hsame ih =>
    obtain rfl := hpoll
    rw [received_append, ← append_assoc, append_assoc] at harrives
    rcases polls_pollRead_of_arrives hformed harrives hfair hpolls with (⟨-, -, hready, -⟩ |
      ⟨hbuffer, -, hwell, hoctets, hstream, hempty⟩) | ⟨hbuffer, hempty, htakes⟩
    · cases hready
    · rw [← hoctets, ← hstream, ← append_assoc] at harrives
      rw [hbuffer.trans hempty.symm]
      exact ih hwell (.inl hempty) harrives huntil
    cases htakes with
    | handshake hkept hnext =>
      rw [hbuffer.trans hkept.symm]
      refine ih (hempty ▸ ReadState.wellFormed_empty) (.inl hkept) ?_ huntil
      rw [hempty]
      exact hnext
  | @next capacity start middle final _ before after outcome reads hpoll hpolls hfair
    houtcome hrest ih =>
    obtain rfl := hpoll
    obtain ⟨hroom, huntil⟩ := huntil
    have hnever (bytes : Bytes) (hothers : ∀ call ∈ reads, ∀ text, call.2 ≠ .failed text) :
        ∀ call ∈ (capacity, Polled.ready bytes) :: reads, ∀ text, call.2 ≠ .failed text :=
      forall_mem_cons.mpr ⟨fun _ hfailed ↦ (by cases hfailed), hothers⟩
    have hsome {bytes : Bytes} (hbytes : bytes ≠ []) : (Polled.ready (bytes.take capacity)) ≠
        .ready [] := by
      intro hnone
      rcases take_eq_nil_iff.mp (Polled.ready.inj hnone) with hzero | hnil
      · omega
      · exact hbytes hnil
    rw [received_append, ← append_assoc, append_assoc] at harrives
    rcases polls_pollRead_of_arrives hformed harrives hfair
      hpolls with (⟨hbuffer, hnothing, rfl, rfl⟩ |
      ⟨-, hpending, -⟩) | ⟨hbuffer, hempty, htakes⟩
    · rw [if_neg (hsome hbuffer)] at huntil
      rw [hnothing, append_nil, ← append_assoc] at harrives
      obtain ⟨hothers, hout⟩ := ih hformed (.inr (hidle.resolve_left hbuffer)) harrives huntil
      refine ⟨hnever _ hothers, ?_⟩
      rw [handedOut, hout, ← append_assoc, take_append_drop]
    · exact absurd hpending houtcome
    cases htakes with
    | close =>
      subst huntil
      exact ⟨hnever _ (by simp), by rw [hbuffer]; rfl⟩
    | @data payload _ others _ hkept hnext =>
      by_cases hpayload : payload = []
      · subst hpayload
        rw [take_nil, if_pos rfl] at huntil
        subst huntil
        exact ⟨hnever _ (by simp), by simp [handedOut, hbuffer]⟩
      rw [if_neg (hsome hpayload)] at huntil
      have harr : Arrives lib middle.stream others (middle.readState.octets ++ received after ++
          further) := by
        rw [hempty]
        exact hnext
      obtain ⟨hothers, hout⟩ := ih (hempty ▸ ReadState.wellFormed_empty) (.inr hempty) harr huntil
      refine ⟨hnever _ hothers, ?_⟩
      rw [handedOut, hout, hkept, ← append_assoc, take_append_drop, hbuffer, nil_append,
        takeWhile_cons_of_pos (by simpa using hpayload), flatten_cons]
    | handshake => exact absurd rfl houtcome

/-- What a task gets of valid records is the same on every schedule and with all buffers. It is all
of the data exactly when none comes after a record without any. -/
theorem pollRead_chunking_iff {stream : RecordStream} {final : PolledStream}
    {reads : List (ℕ × Polled Bytes)}
    {bytes : Bytes} (harrives : Arrives lib stream payloads bytes)
    (hreceived : received trace <+: bytes)
    (hdrives : Drives (ReadPoll lib) Fair (.new stream) reads trace final)
    (huntil : UntilEmpty reads) :
    (∀ call ∈ reads, ∀ text, call.2 ≠ .failed text) ∧ handedOut reads =
    (payloads.takeWhile (· ≠ [])).flatten ∧
      (handedOut reads = payloads.flatten ↔ (payloads.dropWhile (· ≠ [])).flatten = []) := by
  obtain ⟨further, rfl⟩ := hreceived
  obtain ⟨hnever, hout⟩ := handedOut_of_arrives hdrives ReadState.wellFormed_empty
    (.inl rfl) harrives huntil
  refine ⟨hnever, hout, ?_⟩
  have hsplit : payloads.flatten = (payloads.takeWhile (· ≠ [])).flatten ++
      (payloads.dropWhile (· ≠ [])).flatten := by
    rw [← flatten_append, takeWhile_append_dropWhile]
  rw [hout, hsplit]
  exact self_eq_append_right

end Library

/-- One octet, read with a buffer for one octet. -/
theorem octet_read : handedOut [(1, .ready [7]), (1, .ready [])] = [7] := by
  have hclose : Arrives miniTls miniReader.consumed.stream []
      ([23, 3, 3, 0, 19] ++ (closeNotify ++ miniTag 1 ++ [])) :=
      .close ⟨rfl, by decide, rfl, by decide +kernel⟩
  have hdata : Arrives miniTls miniReader.stream [[7]]
    ([23, 3, 3, 0, 18] ++ ([7, 0x17] ++ miniTag 0 ++ _)) :=
    .data ⟨rfl, by decide, rfl, by decide +kernel⟩ hclose
  have hend : Drives (ReadPoll miniTls) Fair miniReader.consumed [(1, .ready [])]
      [.received [23, 3, 3, 0, 19], .received (closeNotify ++ miniTag 1)]
      miniReader.consumed.consumed :=
    .single rfl (polls_of_follow (by rfl)) (by decide) (by decide)
  have hdrives : Drives (ReadPoll miniTls) Fair miniReader [(1, .ready [7]), (1, .ready [])]
      ([.received [23, 3, 3, 0, 18], .received ([7, 0x17] ++ miniTag 0)] ++ _) _ :=
    .next rfl (polls_of_follow (by rfl)) (by decide) (by decide) hend
  exact (pollRead_chunking_iff hdata (by decide) hdrives ⟨by decide, by decide, rfl⟩).2.2.mpr rfl

/-- After an empty record of application data the task takes the stream for ended, and loses the
octet that follows. -/
theorem empty_record_ends_reading : ∃ reads trace final bytes,
    Arrives miniTls miniReader.stream [[], [7]] bytes ∧ received trace <+: bytes ∧
      Drives (ReadPoll miniTls) Fair miniReader reads trace final ∧ UntilEmpty reads ∧
      handedOut reads ≠ [7] := by
  have hclose : Arrives miniTls miniReader.consumed.consumed.stream []
      ([23, 3, 3, 0, 19] ++ (closeNotify ++ miniTag 2 ++ [])) :=
      .close ⟨rfl, by decide, rfl, by decide +kernel⟩
  have hdata : Arrives miniTls miniReader.consumed.stream [[7]]
      ([23, 3, 3, 0, 18] ++ ([7, 0x17] ++ miniTag 1 ++ _)) :=
      .data ⟨rfl, by decide, rfl, by decide +kernel⟩ hclose
  have hempty : Arrives miniTls miniReader.stream [[], [7]]
    ([23, 3, 3, 0, 17] ++ ([0x17] ++ miniTag 0 ++ _)) :=
    .data ⟨rfl, by decide, rfl, by decide +kernel⟩ hdata
  refine ⟨[(10, .ready [])], [.received [23, 3, 3, 0, 17], .received (0x17 :: miniTag 0)],
    _, _, hempty, ⟨_, rfl⟩,
    .single rfl (polls_of_follow (by rfl)) (by decide) (by decide), by simp [UntilEmpty], by decide⟩

end GmStack.Tls
