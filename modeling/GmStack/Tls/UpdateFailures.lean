import GmStack.Tls.Schedules

/-! `send_key_update` counts a record, seals and writes it, and then derives the next key; a failure
on the way leaves what was done before it. -/

namespace GmStack.Tls

open Foundation Crypto List

variable {F P : Type} [CommRing F] [AddCommGroup P] [Module F P]

namespace RecordStream

/-- A call that fails, and not in the transport, has written nothing and left the write side as it
was. -/
def KeepsOnFailure (stream : RecordStream) (call : StreamCall RecordStream) : Prop :=
  ∀ trace error left, Runs call trace (.error (error, left)) → (∀ text, error ≠ .ioError text) →
    (∀ bytes, Event.sent bytes ∉ trace) ∧ left.writeKey = stream.writeKey ∧
    left.writeNonce = stream.writeNonce ∧
      left.writeSeq = stream.writeSeq ∧ left.writeTrafficSecret = stream.writeTrafficSecret ∧
        left.keyUpdatePending = stream.keyUpdatePending

variable (lib : TlsLibrary F P) {stream : RecordStream} (request : Bool)

lemma sendKeyUpdate_exhausted (hseq : stream.writeSeq = 2 ^ 64 - 1) :
    stream.sendKeyUpdate lib request = .done (.error (.sequenceOverflow, stream)) := by
  rw [sendKeyUpdate, writeHandshakeRecord, writeRecord, claimNonce_of_eq hseq]
  rfl

variable (hstr : stream.WellNumbered) (hseq : stream.writeSeq ≠ 2 ^ 64 - 1)

include hstr hseq

lemma sendKeyUpdate_of_length_ne (hkey : stream.writeKey.length ≠ 16) : ∃ text left,
    stream.sendKeyUpdate lib request = .done (.error (.cipherError text, left)) ∧ left.writeSeq =
    stream.writeSeq + 1 := by
  have hbound := hstr.bound
  obtain ⟨nonce, used, queue, -, hclaim, -⟩ := exists_claimNonce hstr (by omega)
  have hcnt : (stream.countedWith used queue).writeKey.length ≠ 16 := hkey
  rw [sendKeyUpdate, writeHandshakeRecord, writeRecord, hclaim, Proc.check_ok_bind]
  dsimp only
  rw [protect, getCipher, Sm4Cipher.new, dif_neg hcnt]
  exact ⟨_, _, rfl, rfl⟩

lemma writeHandshakeRecord_eq (hkey : stream.writeKey.length = 16) (msg : Bytes) :
    ∃ parts next, parts ≠ [] ∧
    next.writeTrafficSecret = stream.writeTrafficSecret ∧ stream.writeHandshakeRecord lib msg =
      (parts.forM (Proc.writeAll fun text ↦ (.ioError text, next)) >>= fun _ ↦ pure next) := by
  have hbound := hstr.bound
  obtain ⟨nonce, used, queue, hnonce, hclaim, -⟩ := exists_claimNonce hstr (by omega)
  have hcnt : (stream.countedWith used queue).writeKey.length = 16 := hkey
  obtain ⟨ciphertext, tag, hprot, -⟩ :=
    opened_protect lib (fun e ↦ (e, stream.countedWith used queue))
    (fun e ↦ (.cipherError ("KeyUpdate encrypt: " ++ e.debug), stream.countedWith used queue))
      hcnt hnonce
    (msg ++ [0x16])
  rw [writeHandshakeRecord, writeRecord, hclaim, Proc.check_ok_bind]
  dsimp only
  rw [hprot, Proc.check_ok_bind]
  exact ⟨_, (stream.countedWith used queue).withSealing nonce stream.writeSeq (msg ++ [0x16]),
    cons_ne_nil _ _, rfl, rfl⟩

omit hstr hseq

lemma rotateWriteKey_eq_error (hsec : ¬ stream.writeHalf.HasSecret) :
    ∃ text, stream.rotateWriteKey lib = .error (.handshakeFailed text) := by
  rw [rotateWriteKey, nextTrafficSecret]
  cases hsecret : stream.writeTrafficSecret with
  | none => exact ⟨_, rfl⟩
  | some secret =>
    have hlen : secret.length ≠ 32 := fun hlen ↦ hsec ⟨secret, hsecret, hlen⟩
    rw [presentSecret, ok_bind, updateTrafficSecret, rejectIf_pos hlen]
    exact ⟨_, rfl⟩

include hstr hseq

lemma sendKeyUpdate_of_no_secret (hkey : stream.writeKey.length = 16)
    (hsec : ¬ stream.writeHalf.HasSecret) :
    ∃ bytes trace text left, Runs (stream.sendKeyUpdate lib request) trace
    (.error (.handshakeFailed text, left)) ∧
      Event.sent bytes ∈ trace := by
  obtain ⟨parts, next, hparts, hsecret, hcall⟩ :=
    writeHandshakeRecord_eq lib hstr hseq hkey (keyUpdateMessage request)
  have hnext : ¬ next.writeHalf.HasSecret := by
    rintro ⟨secret, hsome, hlen⟩
    exact hsec ⟨secret, hsecret.symm.trans hsome, hlen⟩
  obtain ⟨text, hrot⟩ := rotateWriteKey_eq_error lib hnext
  obtain ⟨first, others, rfl⟩ := exists_cons_of_ne_nil hparts
  have hwrite : Runs (stream.writeHandshakeRecord lib (keyUpdateMessage request)) _ (.ok next) :=
    hcall ▸ Runs.bind (runs_forM_writeAll _ _) (.done _)
  have hfails : Runs (Proc.check ((next.rotateWriteKey lib).mapError fun e ↦ (e, next)) :
    StreamCall RecordStream) []
      (.error (.handshakeFailed text, next)) := by
    rw [hrot]
    exact .done _
  exact ⟨first, _, text, next, hwrite.bind hfails, by simp⟩

lemma ioError_of_sendKeyUpdate (hkey : stream.writeKey.length = 16)
    (hsec : stream.writeHalf.HasSecret)
    {trace : List (Event TlsNote)} {error : TlsError} {left : RecordStream}
    (hruns : Runs (stream.sendKeyUpdate lib request) trace (.error (error, left))) :
    ∃ text, error = .ioError text := by
  obtain ⟨parts, next, -, hsecret, hcall⟩ := writeHandshakeRecord_eq lib hstr hseq hkey
    (keyUpdateMessage request)
  obtain ⟨secret, hsome, hlen⟩ := hsec
  obtain ⟨newSecret, newKey, newNonce, hnew, -⟩ := exists_nextTrafficSecret lib hlen
  rw [sendKeyUpdate, hcall] at hruns
  rcases runs_bind.mp hruns with ⟨failure, hfailure, hwrote⟩ | ⟨middle, _, _, -, hwrote, hrest⟩
  · cases hfailure
    rcases runs_bind.mp hwrote with ⟨_, hcause, hparts⟩ | ⟨_, _, _, -, -, hdone⟩
    · cases hcause
      obtain hok | ⟨text, htext⟩ := hparts.of_forM_writeAll
      · cases hok
      · cases htext
        exact ⟨text, rfl⟩
    · cases (runs_done_iff.mp hdone).2
  · obtain ⟨_, _, _, -, -, hdone⟩ := runs_bind_ok.mp hwrote
    obtain ⟨-, rfl⟩ := runs_pure_ok.mp hdone
    have hrot := (runs_done_iff.mp hrest).2
    have hpresent : middle.writeTrafficSecret = some secret := hsecret.trans hsome
    rw [rotateWriteKey, hpresent, hnew] at hrot
    cases hrot

omit hseq

lemma sendKeyUpdate_fails (hfails : ¬ (stream.writeSeq ≠ 2 ^ 64 - 1 ∧ stream.writeKey.length = 16 ∧
    stream.writeHalf.HasSecret)) : ∃ trace error left,
      Runs (stream.sendKeyUpdate lib request) trace (.error (error, left)) ∧
      (∀ text, error ≠ .ioError text) ∧
      ((∃ bytes, Event.sent bytes ∈ trace) ∨ left.writeSeq = stream.writeSeq + 1 ∨
        stream.writeSeq = 2 ^ 64 - 1 ∧ left = stream) := by
  by_cases hseq : stream.writeSeq = 2 ^ 64 - 1
  · exact ⟨[], .sequenceOverflow, stream,
      by rw [sendKeyUpdate_exhausted lib request hseq]; exact .done _, by simp,
      .inr (.inr ⟨hseq, rfl⟩)⟩
  by_cases hkey : stream.writeKey.length = 16
  · have hsec : ¬ stream.writeHalf.HasSecret := fun hsec ↦ hfails ⟨hseq, hkey, hsec⟩
    obtain ⟨bytes, trace, text, left, hruns, hsent⟩ :=
      sendKeyUpdate_of_no_secret lib request hstr hseq hkey hsec
    exact ⟨trace, _, left, hruns, by simp, .inl ⟨bytes, hsent⟩⟩
  · obtain ⟨text, left, hcall, hleft⟩ := sendKeyUpdate_of_length_ne lib request hstr hseq hkey
    exact ⟨[], _, left, by rw [hcall]; exact .done _, by simp, .inr (.inl hleft)⟩

/-- Those that can count no more records, for an update that is not an answer, and those that can
seal a record and derive the next key. -/
theorem keepsOnFailure_iff : (stream.KeepsOnFailure (stream.sendKeyUpdate lib request) ↔
      stream.writeSeq = 2 ^ 64 - 1 ∨ stream.writeKey.length = 16 ∧ stream.writeHalf.HasSecret) ∧
      (stream.KeepsOnFailure (stream.flushPendingKeyUpdate lib) ↔ stream.keyUpdatePending = false ∨
        stream.writeSeq ≠ 2 ^ 64 - 1 ∧ stream.writeKey.length = 16 ∧
        stream.writeHalf.HasSecret) := by
  constructor
  · by_cases hseq : stream.writeSeq = 2 ^ 64 - 1
    · refine iff_of_true (fun trace error left hruns _ ↦ ?_) (.inl hseq)
      rw [sendKeyUpdate_exhausted lib request hseq] at hruns
      obtain ⟨rfl, hres⟩ := runs_done_iff.mp hruns
      cases hres
      simp
    rw [or_iff_right hseq]
    refine ⟨fun hkeeps ↦ by_contra fun hnot ↦ ?_, fun hsound trace error left hruns hnot ↦ ?_⟩
    · obtain ⟨trace, error, left, hruns, hother, hdid⟩ :=
        sendKeyUpdate_fails lib request hstr fun hall ↦ hnot hall.2
      obtain ⟨hsent, -, -, hsame, -⟩ := hkeeps trace error left hruns hother
      rcases hdid with ⟨bytes, hmem⟩ | hcounted | ⟨hlast, -⟩
      · exact hsent bytes hmem
      · omega
      · exact hseq hlast
    · obtain ⟨text, rfl⟩ := ioError_of_sendKeyUpdate lib request hstr hseq hsound.1 hsound.2 hruns
      exact absurd rfl (hnot text)
  · cases hpend : stream.keyUpdatePending with
    | false =>
      refine iff_of_true (fun trace error left hruns _ ↦ ?_) (.inl rfl)
      rw [flushPendingKeyUpdate, if_neg (by simp [hpend])] at hruns
      cases (runs_done_iff.mp hruns).2
    | true =>
      have hquiet : ({ stream with keyUpdatePending := false } : RecordStream).WellNumbered :=
        ⟨hstr.bound, hstr.nonces⟩
      rw [flushPendingKeyUpdate, if_pos hpend, or_iff_right (by simp)]
      refine ⟨fun hkeeps ↦ by_contra fun hnot ↦ ?_, fun hsound trace error left hruns hnot ↦ ?_⟩
      · obtain ⟨trace, error, left, hruns, hother, hdid⟩ :=
          sendKeyUpdate_fails lib false hquiet hnot
        obtain ⟨hsent, -, -, hsame, -, hflag⟩ := hkeeps trace error left hruns hother
        rcases hdid with ⟨bytes, hmem⟩ | hcounted | ⟨-, rfl⟩
        · exact hsent bytes hmem
        · exact absurd (hsame.symm.trans hcounted) (Nat.ne_of_lt (Nat.lt_succ_self _))
        · cases hflag.trans hpend
      · obtain ⟨text, rfl⟩ := ioError_of_sendKeyUpdate lib false hquiet hsound.1 hsound.2.1
          hsound.2.2 hruns
        exact absurd rfl (hnot text)

end RecordStream

open RecordStream

/-- The writer of the profile is as before when its update fails. -/
theorem miniWriter_keepsOnFailure :
    miniWriter.KeepsOnFailure (miniWriter.sendKeyUpdate miniTls false) :=
  (keepsOnFailure_iff miniTls false (wellNumbered_withVersion _ _)).1.mpr
    (.inr ⟨by decide, _, rfl, by decide⟩)

/-- Without its secret it has written a record that announces a key which it does not have. -/
theorem secretless_update_written :
    ¬ ({ miniWriter with writeTrafficSecret := none } : RecordStream).KeepsOnFailure
    (({ miniWriter with writeTrafficSecret := none } : RecordStream).sendKeyUpdate
      miniTls false) := by
  intro hkeeps
  have hnumbered : ({ miniWriter with writeTrafficSecret := none } : RecordStream).WellNumbered :=
    wellNumbered_withVersion _ _
  obtain ⟨bytes, trace, text, left, hruns, hsent⟩ :=
    sendKeyUpdate_of_no_secret miniTls false hnumbered (by decide)
    (by decide) fun ⟨_, hsome, _⟩ ↦ by cases hsome
  exact (hkeeps trace _ left hruns (by simp)).1 bytes hsent

end GmStack.Tls
