import GmStack.Tlcp.Polling
import GmStack.Tls.RecordLayer

/-! A call that encrypts counts the write sequence number first, whether it then succeeds, fails or
has to wait. -/

namespace GmStack.Tlcp

open Foundation Crypto List TlcpStream PolledStream Polls

lemma nextNonce_injective {base nonce : Octets 12} {seq other : ℕ} (hseq : seq < 2 ^ 64)
    (hother : other < 2 ^ 64)
    (hnonce : nextNonce base seq = .ok nonce) (hsame : nextNonce base other = .ok nonce) :
    seq = other := by
  have htls {seq : ℕ} (hok : nextNonce base seq = .ok nonce) :
      Tls.nextNonce base seq = .ok nonce := by
    simp only [nextNonce, unit_bind_eq_ok, rejectIf_eq_ok] at hok
    simp only [Tls.nextNonce, unit_bind_eq_ok, rejectIf_eq_ok]
    exact ⟨hok.1, hok.2.1, congrArg Except.ok (Except.ok.inj hok.2.2)⟩
  exact Tls.nextNonce_injective hseq hother (htls hnonce) (htls hsame)

/-- `record` stands for `write_application_data` and `write_encrypted_record_with_type`. -/
inductive WriteCall
  | record (contentType : UInt8) (plaintext : Bytes) (iv : Octets 16)
  | pollWrite (plaintext : Bytes) (iv : Octets 16)
  | pollShutdown (iv : Octets 16)
  | close (iv : Octets 16)

namespace WriteCall

def encrypts (start : PolledStream) : WriteCall → Bool
  | record .. | pollWrite .. => true
  | pollShutdown _ | close _ => !start.closeNotifySent

/-- The content type and the plaintext of the record a call writes. -/
def content : WriteCall → UInt8 × Bytes
  | record contentType plaintext _ => (contentType, plaintext)
  | pollWrite plaintext _ => (0x17, plaintext)
  | pollShutdown _ | close _ => (0x17, [0x01, 0x00])

/-- The nonce with which a call makes its encryption, if it comes to one. -/
def nonce (start : PolledStream) (call : WriteCall) : Option (Octets 12) :=
  if call.encrypts start then
    (do let counted ← start.stream.countWrite TlcpError.sequenceOverflow
        let encryption ← counted.gcmCall id id call.content.1 call.content.2
        .ok encryption.nonce).toOption
  else none

variable (sm3 : Sm3Library) (sm4 : Sm4Library)

def Leaves (start : PolledStream) : WriteCall → PolledStream → Prop
  | record contentType plaintext iv, state => ∃ trace result,
      Runs (start.stream.writeEncryptedRecordWithType sm3 sm4 contentType plaintext iv)
        trace result ∧
        state = { start with stream := result.toOption.getD start.stream.afterRefusal }
  | pollWrite plaintext iv, state => ∃ trace outcome,
      Polls (PolledStream.pollWrite sm3 sm4 plaintext iv start) trace state outcome
  | pollShutdown iv, state => ∃ trace outcome,
      Polls (PolledStream.pollShutdown sm3 sm4 iv start) trace state outcome
  | close iv, state => ∃ trace result, Runs (PolledStream.close sm3 sm4 start iv) trace result ∧
      state = result.toOption.getD { start with stream := start.stream.afterRefusal }

end WriteCall

section Steps

variable {sm3 : Sm3Library} {sm4 : Sm4Library} {start state : PolledStream} {iv : Octets 16}
  {stream : TlcpStream} {call : WriteCall} {counted : TlcpStream}

lemma afterRefusal_of_countWrite {ε : Type} {error : ε}
    (hcount : stream.countWrite error = .ok counted) : stream.afterRefusal = counted := by
  obtain ⟨hseq, rfl⟩ := countWrite_eq_ok.mp hcount
  rw [afterRefusal, countWrite_eq_ok.mpr ⟨hseq, rfl⟩]

lemma afterRefusal_of_eq (hseq : stream.writeSeq = 2 ^ 64 - 1) : stream.afterRefusal = stream := by
  rw [afterRefusal, countWrite, rejectIf_pos hseq, error_bind]

lemma runs_writeEncrypted_ok {contentType : UInt8} {plaintext : Bytes}
    {trace : List (Event TlcpNote)} {next : TlcpStream}
    (hrun : Runs (stream.writeEncryptedRecordWithType sm3 sm4 contentType plaintext iv)
    trace (.ok next)) :
    stream.afterRefusal = next := by
  obtain ⟨counted, hcount, hrest⟩ := runs_check_bind_ok.mp hrun
  obtain ⟨parts, -, hrest⟩ := runs_check_bind_ok.mp hrest
  obtain ⟨⟨⟩, before, after, -, -, hdone⟩ := runs_bind_ok.mp hrest
  obtain ⟨-, rfl⟩ := runs_pure_ok.mp hdone
  exact afterRefusal_of_countWrite hcount

variable {trace : List Exchange} {outcome : Polled Unit}

lemma stream_announceEnd
    (hpolls : Polls (announceEnd sm3 sm4 counted iv start) trace state outcome) :
    state.stream = counted := by
  replace hpolls := polls_get_bind.mp hpolls
  replace hpolls := polls_set_bind.mp hpolls
  cases hseal : counted.pollWriteRecord sm3 sm4 [0x01, 0x00] iv with
  | error text =>
    rw [hseal] at hpolls
    rw [(polls_done_iff.mp hpolls).2.1]
  | ok record =>
    rw [hseal] at hpolls
    rcases of_bind hpolls with ⟨stop, -, hloop⟩ | ⟨ended, middle, before, after, -, hloop, hrest⟩
    · obtain ⟨answer, -, hloop⟩ := of_attempt hloop
      rw [(polls_writeLoop le_rfl hloop).1]
    · obtain ⟨answer, -, hloop⟩ := of_attempt hloop
      obtain rfl := (polls_writeLoop le_rfl hloop).1
      split_ifs at hrest
      · rw [(polls_done_iff.mp hrest).2.1]
      · rw [(polls_done_iff.mp hrest).2.1]

lemma stream_pollShutdown (hpolls : Polls (PolledStream.pollShutdown sm3 sm4 iv start)
    trace state outcome) :
    state.stream = if start.closeNotifySent then start.stream else start.stream.afterRefusal := by
  replace hpolls := polls_get_bind.mp hpolls
  split_ifs at hpolls ⊢ with hsent
  · rw [(of_shut hpolls).2]
  cases hcount : start.stream.countWrite () with
  | error error =>
    have hseq : start.stream.writeSeq = 2 ^ 64 - 1 := by
      by_contra hseq
      rw [countWrite_eq_ok.mpr ⟨hseq, rfl⟩] at hcount
      cases hcount
    rw [hcount] at hpolls
    rw [(of_shut hpolls).2, afterRefusal_of_eq hseq]
  | ok counted =>
    rw [hcount] at hpolls
    rw [afterRefusal_of_countWrite hcount]
    rcases of_bind hpolls with ⟨stop, -, hend⟩ | ⟨⟨⟩, middle, before, after, -, hend, hshut⟩
    · exact stream_announceEnd hend
    · rw [(of_shut hshut).2]
      exact stream_announceEnd hend

lemma WriteCall.Leaves.stream_eq (hleaves : call.Leaves sm3 sm4 start state) :
    state.stream = if call.encrypts start then start.stream.afterRefusal else start.stream := by
  cases call with
  | record contentType plaintext iv =>
    obtain ⟨trace, result, hrun, rfl⟩ := hleaves
    cases result with
    | ok stream => exact (runs_writeEncrypted_ok hrun).symm
    | error error => rfl
  | pollWrite plaintext iv =>
    obtain ⟨trace, outcome, hpolls⟩ := hleaves
    rcases polls_pollWrite hpolls with ⟨hseq, -, rfl, -⟩ | ⟨counted, hcount, rfl, -⟩
    · exact (afterRefusal_of_eq hseq).symm
    · exact (afterRefusal_of_countWrite hcount).symm
  | pollShutdown iv =>
    obtain ⟨trace, outcome, hpolls⟩ := hleaves
    rw [stream_pollShutdown hpolls, encrypts]
    cases start.closeNotifySent <;> rfl
  | close iv =>
    obtain ⟨trace, result, hrun, rfl⟩ := hleaves
    rw [PolledStream.close] at hrun
    cases hsent : start.closeNotifySent with
    | true =>
      rw [if_pos hsent] at hrun
      obtain ⟨-, rfl⟩ := runs_done_iff.mp hrun
      simp [encrypts, hsent, Except.toOption]
    | false =>
      rw [if_neg (by simp [hsent])] at hrun
      rcases runs_bind.mp hrun with ⟨error, rfl, -⟩ | ⟨stream, before, after, -, hwrite, hdone⟩
      · simp [encrypts, hsent, Except.toOption]
      · obtain ⟨-, rfl⟩ := runs_done_iff.mp hdone
        simp [encrypts, hsent, Except.toOption, runs_writeEncrypted_ok hwrite]

lemma WriteCall.nonce_eq_some {nonce : Octets 12} (hnonce : call.nonce start = some nonce) :
    call.encrypts start = true ∧ start.stream.writeSeq ≠ 2 ^ 64 - 1 ∧
      nextNonce start.stream.writeNonce start.stream.writeSeq = .ok nonce := by
  rw [WriteCall.nonce] at hnonce
  split_ifs at hnonce with hencrypts
  obtain ⟨counted, hcount, hcall⟩ := bind_eq_ok.mp (toOption_eq_some.mp hnonce)
  obtain ⟨hseq, rfl⟩ := countWrite_eq_ok.mp hcount
  simp only [gcmCall, bind_eq_ok, mapError_eq_ok] at hcall
  obtain ⟨encryption, ⟨used, hnext, cipher, -, hargs⟩, hused⟩ := hcall
  cases hargs
  cases hused
  exact ⟨hencrypts, hseq, hnext⟩

lemma WriteCall.Leaves.counts (hleaves : call.Leaves sm3 sm4 start state)
    (hbound : start.stream.writeSeq < 2 ^ 64) : state.stream.writeNonce = start.stream.writeNonce ∧
      start.stream.writeSeq ≤ state.stream.writeSeq ∧ state.stream.writeSeq < 2 ^ 64 ∧
        ∀ nonce, call.nonce start = some nonce → state.stream.writeSeq =
        start.stream.writeSeq + 1 := by
  rw [hleaves.stream_eq]
  split_ifs with hencrypts
  · by_cases hseq : start.stream.writeSeq = 2 ^ 64 - 1
    · rw [afterRefusal_of_eq hseq]
      exact ⟨rfl, le_rfl, hbound, fun nonce hnonce ↦ absurd hseq (nonce_eq_some hnonce).2.1⟩
    · rw [afterRefusal_of_countWrite (countWrite_eq_ok.mpr ⟨hseq, rfl⟩ :
        start.stream.countWrite () = _)]
      exact ⟨rfl, Nat.le_succ _, by simp only; omega, fun _ _ ↦ rfl⟩
  · exact ⟨rfl, le_rfl, hbound, fun nonce hnonce ↦ absurd (nonce_eq_some hnonce).1 hencrypts⟩

end Steps

variable (sm3 : Sm3Library) (sm4 : Sm4Library)

/-- A sequence of calls, with the nonces of its encryptions. -/
inductive Calls : PolledStream → List (Octets 12) → PolledStream → Prop
  | nil (state : PolledStream) : Calls state [] state
  | cons {start middle final : PolledStream} {call : WriteCall} {nonces : List (Octets 12)}
      (hleaves : call.Leaves sm3 sm4 start middle) (hrest : Calls middle nonces final) :
      Calls start ((call.nonce start).toList ++ nonces) final

/-- Every run of the call fails for want of a sequence number. -/
def WriteCall.Overflows (start : PolledStream) : WriteCall → Prop
  | record contentType plaintext iv => ∀ trace result,
      Runs (start.stream.writeEncryptedRecordWithType sm3 sm4 contentType plaintext iv)
        trace result →
        result = .error .sequenceOverflow
  | pollWrite plaintext iv => ∀ trace state outcome,
      Polls (PolledStream.pollWrite sm3 sm4 plaintext iv start) trace state outcome →
        outcome = .failed "Sequence overflow"
  | close iv => ∀ trace result, Runs (PolledStream.close sm3 sm4 start iv) trace result →
      result = .error .sequenceOverflow
  | pollShutdown _ => False

variable {sm3 sm4} {start final : PolledStream} {nonces : List (Octets 12)}

lemma Calls.nonces_spec (hcalls : Calls sm3 sm4 start nonces final)
    (hbound : start.stream.writeSeq < 2 ^ 64) :
    nonces.Nodup ∧ ∀ nonce ∈ nonces, ∃ seq, start.stream.writeSeq ≤ seq ∧ seq < 2 ^ 64 ∧
      nextNonce start.stream.writeNonce seq = .ok nonce := by
  induction hcalls with
  | nil state => exact ⟨nodup_nil, by simp⟩
  | @cons start middle final call nonces hleaves hrest ih =>
    obtain ⟨hbase, hmono, hlt, hcount⟩ := hleaves.counts hbound
    obtain ⟨hnodup, hseqs⟩ := ih hlt
    rw [hbase] at hseqs
    cases hnonce : call.nonce start with
    | none =>
      refine ⟨hnodup, fun nonce hmem ↦ ?_⟩
      obtain ⟨seq, hseq, hrest⟩ := hseqs nonce hmem
      exact ⟨seq, hmono.trans hseq, hrest⟩
    | some nonce =>
      have hown := (WriteCall.nonce_eq_some hnonce).2.2
      rw [hcount nonce hnonce] at hseqs
      refine ⟨nodup_cons.mpr ⟨fun hmem ↦ ?_, hnodup⟩, ?_⟩
      · obtain ⟨seq, hseq, hbound', hsame⟩ := hseqs nonce hmem
        exact absurd (nextNonce_injective hbound hbound' hown hsame) (Nat.ne_of_lt hseq)
      · intro other hmem
        rcases mem_cons.mp hmem with rfl | hmem
        · exact ⟨_, le_rfl, hbound, hown⟩
        · obtain ⟨seq, hseq, hrest⟩ := hseqs other hmem
          exact ⟨seq, (Nat.le_succ _).trans hseq, hrest⟩

lemma overflows_of_eq (hseq : final.stream.writeSeq = 2 ^ 64 - 1) {call : WriteCall}
    (hencrypts : call.encrypts final = true) (hshutdown : ∀ iv, call ≠ .pollShutdown iv) :
    call.Overflows sm3 sm4 final := by
  have hrecord {contentType : UInt8} {plaintext : Bytes} {iv : Octets 16} :
      final.stream.writeEncryptedRecordWithType sm3 sm4 contentType plaintext iv =
      .done (.error .sequenceOverflow) := by
    rw [writeEncryptedRecordWithType, countWrite, rejectIf_pos hseq]
    rfl
  cases call with
  | record contentType plaintext iv =>
    intro trace result hrun
    rw [hrecord] at hrun
    exact (runs_done_iff.mp hrun).2
  | pollWrite plaintext iv =>
    intro trace state outcome hpolls
    rcases polls_pollWrite hpolls with ⟨-, -, -, hfailed⟩ | ⟨counted, hcount, -⟩
    · exact hfailed
    · exact absurd hseq (countWrite_eq_ok.mp hcount).1
  | pollShutdown iv => exact absurd rfl (hshutdown iv)
  | close iv =>
    intro trace result hrun
    rw [PolledStream.close, if_neg (by simpa [WriteCall.encrypts] using hencrypts), hrecord] at hrun
    exact (runs_done_iff.mp hrun).2

def polledAt (seq : ℕ) : PolledStream :=
    ⟨{ miniStream .eccSm4GcmSm3 true with writeSeq := seq }, [], false⟩

def octetPoll : WriteCall := .pollWrite [7] (.fill 16 0)

end GmStack.Tlcp
