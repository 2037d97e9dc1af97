import GmStack.Foundation.Duplex
import GmStack.Tlcp.RecordLayer
import GmStack.Tls.MiniProfile

/-! What one TLCP stream writes, the other reads. A reader refuses a long record, and a writer looks
at no size. -/

namespace GmStack.Tlcp

open Foundation Crypto List TlcpStream

variable {seq : ℕ}

lemma exists_nextNonce (base : Octets 12) (hseq : seq < 2 ^ 64 - 1) :
    ∃ nonce, nextNonce base seq = .ok nonce := by
  rw [nextNonce, rejectIf_bind (Nat.ne_of_lt hseq)]
  dsimp only
  rw [rejectIf_neg, ok_bind]
  · exact ⟨_, rfl⟩
  · rintro ⟨hpos, hbase⟩
    exact hpos (eq_zero_of_masked base.length_bytes (by omega) (congrArg Octets.bytes hbase))

section Protected

variable (sm3 : Sm3Library) (sm4 : Sm4Library)

lemma sealedLength_le (suite : TlcpCipherSuite) (length : ℕ) :
    sealedLength suite length ≤ length + 64 := by
  obtain ⟨padLen, hlt, hpadding, -⟩ := exists_cbcPadding_eq length
  have hlen : (cbcPadding length).length = padLen + 1 := by
    rw [hpadding, length_append, length_replicate, length_singleton]
  rw [sealedLength, hlen]
  split_ifs <;> omega

variable {reader : TlcpStream} {next : TlcpStream}

lemma TlcpStream.Reads.talks {header buf plaintext : Bytes}
    (hreads : reader.Reads sm3 sm4 header buf plaintext next) :
    Talks (reader.readApplicationData sm3 sm4) (receiving (header ++ buf)) (plaintext, next) := by
  refine ⟨_, (runs_readApplicationData_ok sm3 sm4).mpr ⟨header, buf, rfl, hreads⟩, ?_, ?_⟩
  · simp [Reliable]
  · simp [wire]

lemma talks_readApplicationData {contentType : UInt8}
    (htype : contentType = 0x17 ∨ contentType = 0x16) {buf plaintext : Bytes}
    (hsize : buf.length ≤ maxRecordSize) (hcount : reader.readSeq ≠ 2 ^ 64 - 1)
    (hopen : ({ reader with readSeq := reader.readSeq + 1 } : TlcpStream).unprotect sm3 sm4 buf
      (recordHeader contentType buf.length) = .ok plaintext) :
    Talks (reader.readApplicationData sm3 sm4)
      (receiving (recordHeader contentType buf.length ++ buf))
      (plaintext, { reader with readSeq := reader.readSeq + 1 }) :=
  TlcpStream.Reads.talks sm3 sm4
    { length_header := by rw [recordHeader, length_append, length_beOctets]; rfl
      version := rfl
      length_buf := beNat_beOctets (lt_of_le_of_lt hsize (by decide))
      size := hsize
      content := .inl ⟨htype, countRead_eq_ok.mpr ⟨hcount, rfl⟩, hopen⟩ }

lemma TlcpStream.Delivers.count {writer : TlcpStream} (hdeliv : writer.Delivers reader) :
    ({ writer with writeSeq := writer.writeSeq + 1 } : TlcpStream).Delivers
      { reader with readSeq := reader.readSeq + 1 } where
  key := hdeliv.key
  macKey := hdeliv.macKey
  nonce := hdeliv.nonce
  seq := congrArg (· + 1) hdeliv.seq
  suite := hdeliv.suite

lemma delivers_new (material : TlcpKeyMaterial) (suite : TlcpCipherSuite) (isClient : Bool)
    (sessionId : Bytes) :
    (new material suite isClient sessionId).Delivers
    (new material suite (!isClient) sessionId) := by
  cases isClient with
  | false => exact ⟨rfl, rfl, rfl, rfl, rfl⟩
  | true => exact ⟨rfl, rfl, rfl, rfl, rfl⟩

section Delivery

variable {writer reader : TlcpStream} {contentType : UInt8} {plaintext : Bytes}

lemma exists_talks_writeEncryptedRecordWithType (hdeliv : writer.Delivers reader)
    (hkey : writer.writeKey.length = 16) (hcount : writer.writeSeq < 2 ^ 64 - 1)
    (contentType : UInt8) (plaintext : Bytes) (iv : Octets 16) :
    ∃ buf, Talks (writer.writeEncryptedRecordWithType sm3 sm4 contentType plaintext iv)
        (sending (recordHeader contentType buf.length ++ buf))
        { writer with writeSeq := writer.writeSeq + 1 } ∧
      buf.length = sealedLength writer.cipherSuite plaintext.length ∧
        ({ reader with readSeq := reader.readSeq + 1 } : TlcpStream).unprotect sm3 sm4 buf
          (recordHeader contentType buf.length) = .ok plaintext := by
  obtain ⟨nonce, hnonce⟩ := exists_nextNonce writer.writeNonce hcount
  obtain ⟨parts, buf, hseal, hflatten, hlen, hopen⟩ := unprotect_sealRecord sm3 sm4
    hdeliv.count hkey hnonce contentType plaintext iv
  refine ⟨buf, ?_, hlen, hopen⟩
  rw [← hflatten]
  refine .check_bind (countWrite_eq_ok.mpr ⟨Nat.ne_of_lt hcount, rfl⟩) (.check_bind hseal ?_)
  exact .last (.forM_writeAll _ _) (.pure _)

lemma exists_talks_sealRecord (hdeliv : writer.Delivers reader)
    (hkey : writer.writeKey.length = 16) (hcount : writer.writeSeq < 2 ^ 64 - 1)
    (htype : contentType = 0x17 ∨ contentType = 0x16)
    (hsize : sealedLength writer.cipherSuite plaintext.length ≤ maxRecordSize) (iv : Octets 16) :
    ∃ record, Talks (writer.writeEncryptedRecordWithType sm3 sm4 contentType plaintext iv)
        (sending record) { writer with writeSeq := writer.writeSeq + 1 } ∧
      Talks (reader.readApplicationData sm3 sm4) (receiving record)
        (plaintext, { reader with readSeq := reader.readSeq + 1 }) := by
  obtain ⟨buf, hwrite, hlen, hopen⟩ := exists_talks_writeEncryptedRecordWithType sm3 sm4 hdeliv
    hkey hcount contentType plaintext iv
  exact ⟨_, hwrite, talks_readApplicationData sm3 sm4 htype (hlen ▸ hsize)
    (hdeliv.seq ▸ Nat.ne_of_lt hcount) hopen⟩

lemma exists_talks_writeAll (wrap : String → TlcpError) (hdeliv : writer.Delivers reader)
    (hkey : writer.writeKey.length = 16) (hcount : writer.writeSeq < 2 ^ 64 - 1)
    (hsize : sealedLength writer.cipherSuite plaintext.length ≤ maxRecordSize) (iv : Octets 16) :
    ∃ record, Talks (writer.writeAll sm3 sm4 wrap plaintext iv) (sending record)
        { writer with writeSeq := writer.writeSeq + 1 } ∧
      Talks (reader.readApplicationData sm3 sm4) (receiving record)
        (plaintext, { reader with readSeq := reader.readSeq + 1 }) := by
  obtain ⟨nonce, hnonce⟩ := exists_nextNonce writer.writeNonce hcount
  obtain ⟨buf, hseal, hlen, hopen⟩ :=
    unprotect_pollWriteRecord sm3 sm4 hdeliv.count hkey hnonce plaintext iv
  refine ⟨recordHeader 0x17 buf.length ++ buf, ?_, ?_⟩
  · refine .check_bind (countWrite_eq_ok.mpr ⟨Nat.ne_of_lt hcount, rfl⟩)
      (.check_bind (congrArg (Except.mapError wrap) hseal) ?_)
    exact .last (.writeAll _ _) (.pure _)
  · exact talks_readApplicationData sm3 sm4 (.inl rfl) (hlen ▸ hsize)
      (hdeliv.seq ▸ Nat.ne_of_lt hcount) hopen

end Delivery

section Acceptance

variable {stream : TlcpStream} {buf header plaintext : Bytes}

lemma TlcpStream.length_le_of_splitCbcInner {decrypted mac : Bytes}
    (hsplit : splitCbcInner decrypted = .ok (plaintext, mac)) :
    plaintext.length ≤ decrypted.length := by
  simp only [splitCbcInner, unit_bind_eq_ok, rejectIf_eq_ok, Except.ok.injEq,
    Prod.mk.injEq] at hsplit
  obtain ⟨-, -, -, -, -, rfl, -⟩ := hsplit
  exact length_take_le' _ _

lemma TlcpStream.length_le_of_unprotect
    (hopen : stream.unprotect sm3 sm4 buf header = .ok plaintext) :
    plaintext.length ≤ buf.length := by
  by_cases hgcm : stream.cipherSuite.gcm = true
  · rw [unprotect, if_pos hgcm, decryptGcm, unit_bind_eq_ok] at hopen
    replace hopen := hopen.2
    simp only [bind_eq_ok, mapError_eq_ok] at hopen
    obtain ⟨nonce, -, cipher, -, hdec⟩ := hopen
    have hlen := Sm4Cipher.length_le_of_decryptGcm sm4 hdec
    rw [length_drop, length_take] at hlen
    omega
  rw [unprotect, if_neg hgcm, decryptCbc, unit_bind_eq_ok] at hopen
  replace hopen := hopen.2
  simp only [openCbc, bind_eq_ok, mapError_eq_ok, Except.ok.injEq] at hopen
  obtain ⟨_, ⟨cipher, -, decrypted, hdec, ⟨first, mac⟩, hsplit, rfl⟩, -, -, rfl⟩ := hopen
  have hlen := Sm4Cipher.length_of_decryptCbcRaw sm4 hdec
  rw [length_drop] at hlen
  exact (length_le_of_splitCbcInner hsplit).trans (hlen.le.trans (Nat.sub_le _ _))

end Acceptance

/-! ### Sequences of records -/

/-- A call of `write_application_data`, or of `write_encrypted_record_with_type` for a handshake
message, with the initialization vector it draws in a CBC suite. -/
structure RecordWrite where
  handshake : Bool
  plaintext : Bytes
  iv : Octets 16

namespace RecordWrite

def contentType (write : RecordWrite) : UInt8 := if write.handshake then 0x16 else 0x17

def call (writer : TlcpStream) (write : RecordWrite) : Handshake TlcpStream :=
  writer.writeEncryptedRecordWithType sm3 sm4 write.contentType write.plaintext write.iv

lemma contentType_protected (write : RecordWrite) : write.contentType = 0x17 ∨
    write.contentType = 0x16 := by
  by_cases hhs : write.handshake = true
  · exact .inr (if_pos hhs)
  · exact .inl (if_neg hhs)

end RecordWrite

namespace TlcpStream

def afterRefusal (writer : TlcpStream) : TlcpStream :=
  match writer.countWrite TlcpError.sequenceOverflow with
  | .ok counted => counted
  | .error _ => writer

/-- Calls one after the other, each of which writes a record or refuses a plaintext of more than `2
^ 14` octets without writing. -/
inductive WritesAll : TlcpStream → List RecordWrite → Bytes → List Bytes → Prop
  | nil (writer : TlcpStream) : WritesAll writer [] [] []
  | written {writer next : TlcpStream} {write : RecordWrite} {writes : List RecordWrite}
      {record bytes : Bytes} {plaintexts : List Bytes}
      (hwritten : Talks (write.call sm3 sm4 writer) (sending record) next)
      (hrest : WritesAll next writes bytes plaintexts) :
      WritesAll writer (write :: writes) (record ++ bytes) (write.plaintext :: plaintexts)
  | refused {writer : TlcpStream} {write : RecordWrite} {writes : List RecordWrite} {bytes : Bytes}
      {plaintexts : List Bytes} {error : TlcpError} (hlong : 2 ^ 14 < write.plaintext.length)
      (hrefused : write.call sm3 sm4 writer = .done (.error error))
      (hrest : WritesAll writer.afterRefusal writes bytes plaintexts) :
      WritesAll writer (write :: writes) bytes plaintexts

/-- Reads one after the other that return the given plaintexts and leave nothing on the wire. -/
inductive ReadsAll : TlcpStream → Bytes → List Bytes → Prop
  | nil (reader : TlcpStream) : ReadsAll reader [] []
  | read {reader next : TlcpStream} {record bytes plaintext : Bytes} {plaintexts : List Bytes}
      (hread : Talks (reader.readApplicationData sm3 sm4) (receiving record) (plaintext, next))
      (hrest : ReadsAll next bytes plaintexts) : ReadsAll reader (record ++ bytes)
        (plaintext :: plaintexts)

/-- All that one side writes is read by the other, unchanged and in order, and only a plaintext of
more than `2 ^ 14` octets is refused. -/
def DeliversAll (writer reader : TlcpStream) (writes : List RecordWrite) : Prop :=
  ∃ bytes plaintexts, writer.WritesAll sm3 sm4 writes bytes plaintexts ∧
    reader.ReadsAll sm3 sm4 bytes plaintexts

def maxPlaintext (suite : TlcpCipherSuite) : ℕ := if suite.gcm then 16360 else 16335

/-- What lets a call be served under a sequence number. -/
def Carries (suite : TlcpCipherSuite) (seq : ℕ) (write : RecordWrite) : Prop :=
  if seq < 2 ^ 64 - 1 then write.plaintext.length ≤ maxPlaintext suite
  else 2 ^ 14 < write.plaintext.length

lemma sealedLength_le_maxRecordSize_iff (suite : TlcpCipherSuite) (length : ℕ) :
    sealedLength suite length ≤ maxRecordSize ↔ length ≤ maxPlaintext suite := by
  obtain ⟨padLen, hlt, hpadding, -, hblk⟩ := exists_cbcPadding_eq length
  have hlen : (cbcPadding length).length = padLen + 1 := by
    rw [hpadding, length_append, length_replicate, length_singleton]
  rw [sealedLength, hlen, maxRecordSize, maxPlaintext]
  split_ifs <;> omega

variable {sm3 sm4} {writer reader : TlcpStream} {write : RecordWrite} {writes : List RecordWrite}

lemma length_le_maxPlaintext_of_read {buf further record rest : Bytes} {plaintext : Bytes}
    (hlen : buf.length = sealedLength writer.cipherSuite plaintext.length)
    (hwire : recordHeader write.contentType buf.length ++ buf ++ further = record ++ rest)
    (hread : Talks (reader.readApplicationData sm3 sm4) (receiving record) (plaintext, next)) :
    plaintext.length ≤ maxPlaintext writer.cipherSuite := by
  obtain ⟨trace, hrun, -, htrace⟩ := hread
  obtain ⟨header, body, rfl, hreads⟩ := (runs_readApplicationData_ok sm3 sm4).mp hrun
  have hrec : header ++ body = record := by
    apply receiving_injective
    rw [← htrace, receiving_append]
    simp [wire]
  have hhdr : header = recordHeader write.contentType buf.length := by
    rw [← hrec, append_assoc, append_assoc] at hwire
    refine (append_inj_left hwire ?_).symm
    rw [hreads.length_header, recordHeader, length_append, length_beOctets]
    rfl
  have hsize : body.length = buf.length % 2 ^ 16 := by
    rw [← hreads.length_buf, hhdr]
    exact beNat_beOctets_mod 2 buf.length
  have hplain : plaintext.length ≤ body.length := by
    rcases hreads.content with ⟨-, -, hopen⟩ | ⟨-, -, hnil, -⟩
    · exact length_le_of_unprotect sm3 sm4 hopen
    · rw [hnil]
      exact Nat.zero_le _
  have hbody := hreads.size
  have hslack := sealedLength_le writer.cipherSuite plaintext.length
  have hfits : buf.length < 2 ^ 16 := by
    omega
  rw [← sealedLength_le_maxRecordSize_iff, ← hlen, ← Nat.mod_eq_of_lt hfits, ← hsize]
  exact hbody

lemma deliversAll_cons_of_lt (hdeliv : writer.Delivers reader)
    (hkey : writer.writeKey.length = 16) (hcount : writer.writeSeq < 2 ^ 64 - 1) :
    writer.DeliversAll sm3 sm4 reader (write :: writes) ↔ write.plaintext.length ≤
    maxPlaintext writer.cipherSuite ∧
        ({ writer with writeSeq := writer.writeSeq + 1 } : TlcpStream).DeliversAll sm3 sm4
          { reader with readSeq := reader.readSeq + 1 } writes := by
  obtain ⟨buf, hwrite, hlen, hopen⟩ := exists_talks_writeEncryptedRecordWithType sm3 sm4 hdeliv
    hkey hcount write.contentType write.plaintext write.iv
  have hreads (hfits : write.plaintext.length ≤ maxPlaintext writer.cipherSuite) :=
    talks_readApplicationData sm3 sm4 write.contentType_protected
      (hlen ▸ (sealedLength_le_maxRecordSize_iff _ _).mpr hfits)
      (hdeliv.seq ▸ Nat.ne_of_lt hcount) hopen
  constructor
  · rintro ⟨bytes, plaintexts, hwrites, hall⟩
    cases hwrites with
    | @written _ _ _ _ record bytes _ hwrote hrest =>
      obtain ⟨rfl, rfl⟩ := Talks.unique_sending hwrote hwrite
      generalize hwire : recordHeader write.contentType buf.length ++ buf ++ bytes = onWire at hall
      cases hall with
      | read hread hothers =>
        have hfits := length_le_maxPlaintext_of_read hlen hwire hread
        obtain ⟨rfl, hnext⟩ := Talks.unique_receiving (hreads hfits) hread hwire
        obtain ⟨-, rfl⟩ := Prod.mk.inj hnext
        obtain rfl := append_cancel_left hwire
        exact ⟨hfits, _, _, hrest, hothers⟩
    | refused hlong hrefused hrest =>
      rw [← RecordWrite.call, hrefused] at hwrite
      exact absurd hwrite not_talks_error
  · rintro ⟨hfits, bytes, plaintexts, hwrites, hall⟩
    exact ⟨_, _, .written hwrite hwrites, .read (hreads hfits) hall⟩

lemma deliversAll_cons_of_eq (hcount : writer.writeSeq = 2 ^ 64 - 1) :
    writer.DeliversAll sm3 sm4 reader (write :: writes) ↔
      2 ^ 14 < write.plaintext.length ∧ writer.DeliversAll sm3 sm4 reader writes := by
  have hcnt : writer.countWrite TlcpError.sequenceOverflow = .error .sequenceOverflow := by
    rw [countWrite, rejectIf_pos hcount, error_bind]
  have hrefused : write.call sm3 sm4 writer = .done (.error .sequenceOverflow) := by
    rw [RecordWrite.call, writeEncryptedRecordWithType, hcnt]
    rfl
  have hafter : writer.afterRefusal = writer := by rw [afterRefusal, hcnt]
  constructor
  · rintro ⟨bytes, plaintexts, hwrites, hall⟩
    cases hwrites with
    | written hwrote hrest =>
      rw [hrefused] at hwrote
      exact absurd hwrote not_talks_error
    | refused hlong _ hrest => exact ⟨hlong, bytes, plaintexts, hafter ▸ hrest, hall⟩
  · rintro ⟨hlong, bytes, plaintexts, hwrites, hall⟩
    exact ⟨bytes, plaintexts, .refused hlong hrefused (hafter.symm ▸ hwrites), hall⟩

lemma forall_getElem?_cons {α : Type} {item : α} {items : List α} {P : ℕ → α → Prop} :
    (∀ index other, (item :: items)[index]? = some other → P index other) ↔
      P 0 item ∧ ∀ index other, items[index]? = some other → P (index + 1) other := by
  constructor
  · intro hall
    exact ⟨hall 0 item rfl, fun index other hother ↦ hall (index + 1) other hother⟩
  rintro ⟨hfirst, hrest⟩ index other hother
  cases index with
  | zero =>
    obtain rfl := Option.some.inj hother
    exact hfirst
  | succ index => exact hrest index other hother

variable {suite : TlcpCipherSuite}

lemma carries_of_lt (hseq : seq < 2 ^ 64 - 1) : Carries suite seq write ↔ write.plaintext.length ≤
    maxPlaintext suite := by
  rw [Carries, if_pos hseq]

lemma carries_of_le (hseq : 2 ^ 64 - 1 ≤ seq) : Carries suite seq write ↔
    2 ^ 14 < write.plaintext.length := by
  rw [Carries, if_neg (Nat.not_lt.mpr hseq)]

/-- A sequence of calls is delivered exactly when each plaintext fits, as long as the sequence
number can be counted. -/
theorem deliversAll_iff (hdelivers : writer.Delivers reader) (hkey : writer.writeKey.length = 16)
    (hseq : writer.writeSeq < 2 ^ 64) : writer.DeliversAll sm3 sm4 reader writes ↔
      ∀ index write, writes[index]? = some write →
      Carries writer.cipherSuite (writer.writeSeq + index) write := by
  induction writes generalizing writer reader with
  | nil => exact ⟨fun _ _ _ hnone ↦ by simp at hnone, fun _ ↦ ⟨[], [], .nil _, .nil _⟩⟩
  | cons write writes ih =>
    rw [forall_getElem?_cons]
    by_cases hcount : writer.writeSeq < 2 ^ 64 - 1
    · have hnext : writer.writeSeq + 1 < 2 ^ 64 := by omega
      rw [deliversAll_cons_of_lt hdelivers hkey hcount, ih hdelivers.count hkey hnext,
        carries_of_lt (show writer.writeSeq + 0 < 2 ^ 64 - 1 from hcount)]
      refine and_congr_right fun _ ↦ forall₃_congr fun index _ _ ↦ ?_
      rw [Nat.add_assoc, Nat.add_comm 1]
    have hlast : writer.writeSeq = 2 ^ 64 - 1 := by omega
    rw [deliversAll_cons_of_eq hlast, ih hdelivers hkey hseq, carries_of_le (by omega)]
    refine and_congr_right fun _ ↦ forall₃_congr fun index _ _ ↦ ?_
    rw [carries_of_le (by omega), carries_of_le (by omega)]

end TlcpStream

end Protected

def miniStream (suite : TlcpCipherSuite) (isClient : Bool) : TlcpStream :=
  .new ⟨[1], [2], List.replicate 16 1, List.replicate 16 2, [3], [4]⟩ suite isClient []

/-- The longest plaintext of a suite and a handshake message after it arrive. -/
theorem longest_records_delivered :
    (miniStream .eccSm4GcmSm3 true).DeliversAll Tls.miniSm3 Tls.miniSm4
    (miniStream .eccSm4GcmSm3 false)
        [⟨false, List.replicate 16360 7, .fill 16 0⟩, ⟨true, [1, 2], .fill 16 0⟩] ∧
      (miniStream .eccSm4CbcSm3 false).DeliversAll Tls.miniSm3 Tls.miniSm4
      (miniStream .eccSm4CbcSm3 true)
        [⟨false, List.replicate 16335 7, .fill 16 0⟩, ⟨true, [1, 2], .fill 16 0⟩] := by
  have hfits {suite : TlcpCipherSuite} {longest : ℕ} (hlongest : longest ≤ maxPlaintext suite)
      (htwo : 2 ≤ maxPlaintext suite) (index : ℕ) (write : RecordWrite)
      (hwrite : [(⟨false, replicate longest 7, .fill 16 0⟩ : RecordWrite),
        ⟨true, [1, 2], .fill 16 0⟩][index]? = some write) :
      TlcpStream.Carries suite (0 + index) write := by
    match index with
    | 0 =>
      obtain rfl := Option.some.inj hwrite
      rw [carries_of_lt (by decide), length_replicate]
      exact hlongest
    | 1 =>
      obtain rfl := Option.some.inj hwrite
      exact (carries_of_lt (by decide)).mpr htwo
    | index + 2 => simp at hwrite
  constructor
  · exact (deliversAll_iff (delivers_new _ _ true _) (by decide) (by decide)).mpr
      (hfits (by decide) (by decide))
  · exact (deliversAll_iff (delivers_new _ _ false _) (by decide) (by decide)).mpr
      (hfits (by decide) (by decide))

/-- A plaintext of 16361 octets is written in a GCM record that the other side refuses. -/
theorem record_below_limit_refused : (List.replicate 16361 (7 : UInt8)).length ≤ 2 ^ 14 ∧
      ¬ (miniStream .eccSm4GcmSm3 true).DeliversAll Tls.miniSm3 Tls.miniSm4
        (miniStream .eccSm4GcmSm3 false) [⟨false, List.replicate 16361 7, .fill 16 0⟩] := by
  rw [length_replicate]
  refine ⟨by decide, fun hdelivered ↦ ?_⟩
  have hfits :=
    ((deliversAll_cons_of_lt (delivers_new _ _ true _) (by decide) (by decide)).mp hdelivered).1
  rw [length_replicate] at hfits
  exact absurd hfits (by decide)

end GmStack.Tlcp
