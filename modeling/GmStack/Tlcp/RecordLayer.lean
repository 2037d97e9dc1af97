import GmStack.Foundation.Process
import GmStack.Tlcp.KeyMaterial

/-! The plaintext and the protected records of `gm-tlcp/src/tlcp/mod.rs`, with SM4-GCM or with
SM4-CBC and HMAC-SM3. -/

namespace GmStack.Tlcp

open Foundation Crypto List

/-- What a handshake notes of itself. -/
inductive TlcpNote
  | sent (message : Bytes)
  | received (contentType : UInt8) (payload : Bytes)
  | ccsReceived (octets : Bytes)
  | finishedOver (transcript : Bytes)
  | finishedSent (message : Bytes)
  | finishedReceived (message : Bytes)
  deriving DecidableEq

/-- A process of either side of a TLCP connection. -/
abbrev Handshake (α : Type) := Proc TlcpNote TlcpError α

def maxRecordSize : ℕ := 16 * 1024

def plaintextRecord (message : Bytes) : Bytes := [0x16, 0x01, 0x01] ++
    beOctets 2 message.length ++ message

def writeHandshakeRecord (wrap : String → TlcpError) (message : Bytes) : Handshake Unit := do
  Proc.writeAll wrap (plaintextRecord message)
  Proc.record (.sent message)

def readPlaintextRecord (wrap : String → TlcpError) : Handshake (UInt8 × Bytes) := do
  let header ← Proc.readExact wrap 5
  let len := beNat (header.drop 3)
  Proc.check (rejectIf (len > maxRecordSize)
    (wrap ("Record too large: " ++ toString len ++ " bytes")))
  let payload ← Proc.readExact wrap len
  Proc.record (.received (header.headD 0) payload)
  pure (header.headD 0, payload)

/-! ### Streams -/

/-- `TlcpResumedSession`, without its clock. -/
structure TlcpResumedSession where
  masterSecret : Bytes
  cipherSuite : SuiteId
  serverRandom : Octets 32
  clientRandom : Octets 32

/-- `TlcpStream`, without the transport and the buffer of decrypted data. -/
structure TlcpStream where
  writeKey : Bytes
  readKey : Bytes
  writeMacKey : Bytes
  readMacKey : Bytes
  writeNonce : Octets 12
  readNonce : Octets 12
  writeSeq : ℕ
  readSeq : ℕ
  isClient : Bool
  sessionId : Bytes
  cachedResumedSession : Option TlcpResumedSession
  cipherSuite : TlcpCipherSuite
  peerClientCerts : List Bytes
  peerServerCerts : Option CertPair

def copyIv (iv : Bytes) : Octets 12 :=
  ⟨iv.take 12 ++ List.replicate (12 - iv.length) 0, by
    rw [length_append, length_take, length_replicate]
    omega⟩

namespace TlcpStream

def new (material : TlcpKeyMaterial) (cipherSuite : TlcpCipherSuite) (isClient : Bool)
    (sessionId : Bytes) : TlcpStream :=
  let rest : TlcpStream :=
    { writeKey := material.serverEncKey
      readKey := material.clientEncKey
      writeMacKey := material.serverMacKey
      readMacKey := material.clientMacKey
      writeNonce := copyIv material.serverIv
      readNonce := copyIv material.clientIv
      writeSeq := 0
      readSeq := 0
      isClient
      sessionId
      cachedResumedSession := none
      cipherSuite
      peerClientCerts := []
      peerServerCerts := none }
  if isClient then
    { rest with
      writeKey := material.clientEncKey
      readKey := material.serverEncKey
      writeMacKey := material.clientMacKey
      readMacKey := material.serverMacKey
      writeNonce := copyIv material.clientIv
      readNonce := copyIv material.serverIv }
  else rest

end TlcpStream

def nextNonce (base : Octets 12) (seq : ℕ) : Except TlcpError (Octets 12) := do
  rejectIf (seq = 2 ^ 64 - 1) .sequenceOverflow
  let nonce : Octets 12 :=
    ⟨base.bytes.take 4 ++ xorBytes (base.bytes.drop 4) (beOctets 8 seq), length_nonce base seq⟩
  rejectIf (seq ≠ 0 ∧ nonce = base) .sequenceOverflow
  .ok nonce

def recordHeader (contentType : UInt8) (length : ℕ) : Bytes :=
  [contentType, 0x01, 0x01] ++ beOctets 2 length

def recordAad (seq : ℕ) (headerStart : Bytes) (length : ℕ) : Bytes :=
  beOctets 8 seq ++ headerStart ++ beOctets 2 length

def cbcPadding (plaintextLength : ℕ) : Bytes :=
  let padLen := (16 - (plaintextLength + 32 + 1) % 16) % 16
  List.replicate padLen (UInt8.ofNat padLen) ++ [UInt8.ofNat padLen]

variable (sm3 : Sm3Library) (sm4 : Sm4Library)

namespace TlcpStream

def getCipher (key : Bytes) : Except TlcpError Sm4Cipher :=
  (Sm4Cipher.new key).mapError fun e ↦ .cipherError ("SM4 key error: " ++ e.debug)

/-- The arguments of the encryption of a record. -/
structure GcmCall where
  cipher : Sm4Cipher
  plaintext : Bytes
  nonce : Octets 12
  aad : Bytes

def GcmCall.encrypt (call : GcmCall) : Except CryptoError (Bytes × Bytes) :=
  call.cipher.encryptGcm sm4 call.plaintext call.nonce.bytes call.aad

/-- What comes before the encryption of a record: its nonce, its associated data and its cipher. -/
def gcmCall {ε : Type} (onNonce onKey : TlcpError → ε) (stream : TlcpStream) (contentType : UInt8)
    (plaintext : Bytes) : Except ε GcmCall := do
  let nonce ← (nextNonce stream.writeNonce (stream.writeSeq - 1)).mapError onNonce
  let header := recordHeader contentType (8 + plaintext.length + 16)
  let aad := recordAad (stream.writeSeq - 1) (header.take 3) plaintext.length
  let cipher ← (getCipher stream.writeKey).mapError onKey
  .ok { cipher, plaintext, nonce, aad }

def sealGcm {ε : Type} (onNonce onKey : TlcpError → ε) (onCipher : CryptoError → ε)
    (stream : TlcpStream) (contentType : UInt8) (plaintext : Bytes) : Except ε (List Bytes) := do
  let call ← stream.gcmCall onNonce onKey contentType plaintext
  let (ciphertext, tag) ← (call.encrypt sm4).mapError onCipher
  .ok [recordHeader contentType (8 + plaintext.length + 16), beOctets 8 (stream.writeSeq - 1),
    ciphertext, tag]

def encryptCbcRecordWithType (stream : TlcpStream) (contentType : UInt8) (plaintext : Bytes)
    (iv : Octets 16) : Except String Bytes := do
  let macInput := beOctets 8 (stream.writeSeq - 1) ++ [contentType, 0x01, 0x01] ++
    beOctets 2 plaintext.length ++ plaintext
  let hmac := sm3Hmac sm3 stream.writeMacKey macInput
  let inner := plaintext ++ hmac ++ cbcPadding plaintext.length
  let cipher ← (getCipher stream.writeKey).mapError fun e ↦ "SM4 key error: " ++ e.display
  let ciphertext ← (cipher.encryptCbcRaw sm4 inner iv.bytes).mapError fun e ↦
    "CBC encryption failed: " ++ e.debug
  .ok (recordHeader contentType (16 + ciphertext.length) ++ iv.bytes ++ ciphertext)

def sealRecord (stream : TlcpStream) (contentType : UInt8) (plaintext : Bytes) (iv : Octets 16) :
    Except TlcpError (List Bytes) :=
  if stream.cipherSuite.gcm then
    stream.sealGcm sm4 (fun e ↦ e) (fun e ↦ e)
      (fun e ↦ .cipherError ("GCM encryption failed: " ++ e.debug)) contentType plaintext
  else do
    let record ← (stream.encryptCbcRecordWithType sm3 sm4 contentType plaintext iv).mapError
      .cipherError
    .ok [record]

def countWrite {ε : Type} (error : ε) (stream : TlcpStream) : Except ε TlcpStream := do
  rejectIf (stream.writeSeq = 2 ^ 64 - 1) error
  .ok { stream with writeSeq := stream.writeSeq + 1 }

variable {next : TlcpStream} {stream : TlcpStream} {ε : Type}

lemma countWrite_eq_ok {error : ε} : stream.countWrite error = .ok next ↔
      stream.writeSeq ≠ 2 ^ 64 - 1 ∧ next = { stream with writeSeq := stream.writeSeq + 1 } := by
  rw [countWrite, unit_bind_eq_ok, rejectIf_eq_ok, Except.ok.injEq]
  exact and_congr_right fun _ ↦ eq_comm

def writeEncryptedRecordWithType (stream : TlcpStream) (contentType : UInt8) (plaintext : Bytes)
    (iv : Octets 16) : Handshake TlcpStream := do
  let stream ← Proc.check (stream.countWrite .sequenceOverflow)
  let parts ← Proc.check (stream.sealRecord sm3 sm4 contentType plaintext iv)
  parts.forM (Proc.writeAll .ioError)
  pure stream

def pollWriteRecord (stream : TlcpStream) (plaintext : Bytes) (iv : Octets 16) :
    Except String Bytes :=
  if stream.cipherSuite.gcm then do
    let parts ← stream.sealGcm sm4 (fun e ↦ "Nonce overflow: " ++ e.display)
      (fun e ↦ "SM4 key error: " ++ e.debug)
      (fun e ↦ "GCM encryption failed: " ++ e.debug) 0x17 plaintext
    .ok parts.flatten
  else stream.encryptCbcRecordWithType sm3 sm4 0x17 plaintext iv

def writeAll (wrap : String → TlcpError) (stream : TlcpStream) (plaintext : Bytes)
    (iv : Octets 16) :
    Handshake TlcpStream := do
  let stream ← Proc.check (stream.countWrite (wrap "Sequence overflow"))
  let record ← Proc.check ((stream.pollWriteRecord sm3 sm4 plaintext iv).mapError wrap)
  Proc.writeAll wrap record
  pure stream

def decryptGcm (stream : TlcpStream) (buf header : Bytes) : Except TlcpError Bytes := do
  rejectIf (buf.length < 8 + 16) (.handshakeFailed "TLCP GCM record too short")
  let tag := buf.drop (buf.length - 16)
  let ciphertext := (buf.take (buf.length - 16)).drop 8
  let nonce ← nextNonce stream.readNonce (stream.readSeq - 1)
  let aad := recordAad (stream.readSeq - 1) (header.take 3) ciphertext.length
  let cipher ← getCipher stream.readKey
  (cipher.decryptGcm sm4 ciphertext nonce.bytes aad tag).mapError
    fun e ↦ .cipherError ("GCM decryption failed: " ++ e.debug)

def splitCbcInner (decrypted : Bytes) : Except TlcpError (Bytes × Bytes) := do
  rejectIf (decrypted = []) (.handshakeFailed "TLCP CBC empty plaintext")
  let padLen := (decrypted.getLastD 0).toNat
  rejectIf (padLen > 16) (.handshakeFailed "TLCP CBC invalid padding (length byte > block size)")
  let padConsumed := padLen + 1
  rejectIf (padConsumed > decrypted.length)
    (.handshakeFailed "TLCP CBC invalid padding (length byte overflows record)")
  let padding := (decrypted.drop (decrypted.length - padConsumed)).take padLen
  rejectIf (padding.all (fun octet ↦ octet.toNat == padLen) = false)
    (.handshakeFailed "TLCP CBC malformed padding")
  let unpaddedLen := decrypted.length - padConsumed
  rejectIf (unpaddedLen < 32) (.handshakeFailed "TLCP CBC inner too short for MAC")
  .ok (decrypted.take (unpaddedLen - 32), (decrypted.take unpaddedLen).drop (unpaddedLen - 32))

/-- A decrypted record: its plaintext, the code it carries and the octets the code is computed over.
-/
structure CbcParts where
  plaintext : Bytes
  macReceived : Bytes
  macInput : Bytes

/-- The part of `decrypt_cbc` that comes before the code is computed. -/
def openCbc (stream : TlcpStream) (buf header : Bytes) : Except TlcpError CbcParts := do
  let cipher ← getCipher stream.readKey
  let decrypted ← (cipher.decryptCbcRaw sm4 (buf.drop 16) (buf.take 16)).mapError
    fun _ ↦ .handshakeFailed "TLCP CBC decryption failed"
  let (plaintext, macReceived) ← splitCbcInner decrypted
  let macInput := beOctets 8 (stream.readSeq - 1) ++ header.take 3 ++ beOctets 2 plaintext.length ++
    plaintext
  .ok { plaintext, macReceived, macInput }

def decryptCbc (stream : TlcpStream) (buf header : Bytes) : Except TlcpError Bytes := do
  rejectIf (buf.length < 16 + 16 + 32) (.handshakeFailed "TLCP CBC record too short")
  let parts ← stream.openCbc sm4 buf header
  rejectIf (sm3Hmac sm3 stream.readMacKey parts.macInput ≠ parts.macReceived)
    (.handshakeFailed "TLCP CBC HMAC verification failed")
  .ok parts.plaintext

def unprotect (stream : TlcpStream) (buf header : Bytes) : Except TlcpError Bytes :=
  if stream.cipherSuite.gcm then stream.decryptGcm sm4 buf header
  else stream.decryptCbc sm3 sm4 buf header

def countRead (stream : TlcpStream) : Except TlcpError TlcpStream := do
  rejectIf (stream.readSeq = 2 ^ 64 - 1) .sequenceOverflow
  .ok { stream with readSeq := stream.readSeq + 1 }

lemma countRead_eq_ok : stream.countRead = .ok next ↔
      stream.readSeq ≠ 2 ^ 64 - 1 ∧ next = { stream with readSeq := stream.readSeq + 1 } := by
  rw [countRead, unit_bind_eq_ok, rejectIf_eq_ok, Except.ok.injEq]
  exact and_congr_right fun _ ↦ eq_comm

def readApplicationData (stream : TlcpStream) : Handshake (Bytes × TlcpStream) := do
  let header ← Proc.readExact .ioError 5
  let contentType := header.headD 0
  let version := (header.drop 1).take 2
  let ctLen := beNat (header.drop 3)
  Proc.check (rejectIf (version ≠ [0x01, 0x01])
    (.tlsRecordError ("unexpected TLCP version: " ++ hexOctet (version.headD 0) ++
      hexOctet ((version.drop 1).headD 0))))
  Proc.check (rejectIf (ctLen > maxRecordSize) (.handshakeFailed "TLCP record exceeds size limit"))
  if contentType = 0x17 ∨ contentType = 0x16 then
    let buf ← Proc.readExact .ioError ctLen
    let stream ← Proc.check stream.countRead
    let plaintext ← Proc.check (stream.unprotect sm3 sm4 buf header)
    pure (plaintext, stream)
  else if contentType = 0x15 then
    let buf ← Proc.readExact .ioError ctLen
    if buf.take 2 = [0x01, 0x00] then pure ([], stream)
    else Proc.check (.error (.tlsRecordError ("TLCP alert: level=" ++
      toString (buf.headD 0).toNat ++ " description=" ++ toString ((buf.drop 1).headD 0).toNat)))
  else Proc.check (.error (.tlsRecordError ("unexpected TLCP content type: 0x" ++
    hexOctet contentType)))

/-- What a reader takes for a record and what it makes of it. -/
structure Reads (reader : TlcpStream) (header buf plaintext : Bytes) (next : TlcpStream) :
    Prop where
  length_header : header.length = 5
  version : (header.drop 1).take 2 = [0x01, 0x01]
  length_buf : beNat (header.drop 3) = buf.length
  size : buf.length ≤ maxRecordSize
  content : ((header.headD 0 = 0x17 ∨ header.headD 0 = 0x16) ∧ reader.countRead = .ok next ∧
        next.unprotect sm3 sm4 buf header = .ok plaintext) ∨
      (header.headD 0 = 0x15 ∧ buf.take 2 = [0x01, 0x00] ∧ plaintext = [] ∧ next = reader)

variable {reader : TlcpStream}

lemma runs_readApplicationData_ok {plaintext : Bytes} {trace : List (Event TlcpNote)} :
    Runs (reader.readApplicationData sm3 sm4) trace (.ok (plaintext, next)) ↔
      ∃ header buf, trace = [.received header, .received buf] ∧
        reader.Reads sm3 sm4 header buf plaintext next := by
  constructor
  · intro hrun
    obtain ⟨header, before, after, rfl, hhdr, hrest⟩ := runs_bind_ok.mp hrun
    obtain ⟨hlen, rfl⟩ := runs_readExact_ok.mp hhdr
    simp only [runs_check_bind_ok, rejectIf_eq_ok] at hrest
    obtain ⟨-, hvers, -, hsize, hrest⟩ := hrest
    split_ifs at hrest with hdata halert
    · obtain ⟨buf, before, after, rfl, hbuf, hbody⟩ := runs_bind_ok.mp hrest
      obtain ⟨hbufLen, rfl⟩ := runs_readExact_ok.mp hbuf
      simp only [runs_check_bind_ok, runs_pure_ok, Prod.mk.injEq] at hbody
      obtain ⟨counted, hcount, opened, hopen, rfl, rfl, rfl⟩ := hbody
      exact ⟨header, buf, rfl, hlen, not_not.mp hvers, hbufLen.symm,
        hbufLen ▸ Nat.not_lt.mp hsize, .inl ⟨hdata, hcount, hopen⟩⟩
    · obtain ⟨buf, before, after, rfl, hbuf, hbody⟩ := runs_bind_ok.mp hrest
      obtain ⟨hbufLen, rfl⟩ := runs_readExact_ok.mp hbuf
      split_ifs at hbody with hclose
      · obtain ⟨rfl, hres⟩ := runs_pure_ok.mp hbody
        obtain ⟨rfl, rfl⟩ := Prod.mk.inj hres
        exact ⟨header, buf, rfl, hlen, not_not.mp hvers, hbufLen.symm,
          hbufLen ▸ Nat.not_lt.mp hsize, .inr ⟨halert, hclose, rfl, rfl⟩⟩
      · cases (runs_check_ok.mp hbody).2
    · cases (runs_check_ok.mp hrest).2
  rintro ⟨header, buf, rfl, hreads⟩
  refine runs_bind_ok.mpr ⟨header, [_], [_], rfl,
    runs_readExact_ok.mpr ⟨hreads.length_header, rfl⟩, ?_⟩
  simp only [runs_check_bind_ok, rejectIf_eq_ok]
  refine ⟨(), not_not.mpr hreads.version, (), Nat.not_lt.mpr (hreads.length_buf ▸ hreads.size), ?_⟩
  have hread : Runs (Proc.readExact .ioError (beNat (header.drop 3)) : Handshake Bytes)
      [.received buf] (.ok buf) := runs_readExact_ok.mpr ⟨hreads.length_buf.symm, rfl⟩
  rcases hreads.content with ⟨hdata, hcount, hopen⟩ | ⟨halert, hclose, rfl, rfl⟩
  · rw [if_pos hdata]
    refine runs_bind_ok.mpr ⟨buf, [_], [], rfl, hread, ?_⟩
    exact runs_check_bind_ok.mpr ⟨next, hcount, runs_check_bind_ok.mpr ⟨plaintext, hopen,
      runs_pure_ok.mpr ⟨rfl, rfl⟩⟩⟩
  have hnot : ¬ (header.headD 0 = 0x17 ∨ header.headD 0 = 0x16) := by
    rw [halert]
    decide
  rw [if_neg hnot, if_pos halert]
  refine runs_bind_ok.mpr ⟨buf, [_], [], rfl, hread, ?_⟩
  rw [if_pos hclose]
  exact runs_pure_ok.mpr ⟨rfl, rfl⟩

/-- What one side writes with, the other reads with. -/
structure Delivers (writer reader : TlcpStream) : Prop where
  key : writer.writeKey = reader.readKey
  macKey : writer.writeMacKey = reader.readMacKey
  nonce : writer.writeNonce = reader.readNonce
  seq : writer.writeSeq = reader.readSeq
  suite : writer.cipherSuite = reader.cipherSuite

def sealedLength (suite : TlcpCipherSuite) (length : ℕ) : ℕ :=
  if suite.gcm then length + 24 else 16 + (length + 32 + (cbcPadding length).length)

variable {nonce : Octets 12} {writer : TlcpStream}

lemma decryptGcm_sealGcm {onNonce onKey : TlcpError → ε} {onCipher : CryptoError → ε}
    (hdeliv : writer.Delivers reader)
    (hkey : writer.writeKey.length = 16)
    (hnonce : nextNonce writer.writeNonce (writer.writeSeq - 1) = .ok nonce) (contentType : UInt8)
    (plaintext : Bytes) :
    ∃ parts buf, writer.sealGcm sm4 onNonce onKey onCipher contentType plaintext = .ok parts ∧
      parts.flatten = recordHeader contentType buf.length ++ buf ∧
      buf.length = plaintext.length + 24 ∧
          reader.decryptGcm sm4 buf (recordHeader contentType buf.length) = .ok plaintext := by
  have hcipher := Sm4Cipher.new_eq_ok hkey
  have hstart (length : ℕ) : (recordHeader contentType length).take 3 =
    [contentType, 0x01, 0x01] := rfl
  obtain ⟨ciphertext, tag, henc, hlen, htag, hdec⟩ :=
    Sm4Cipher.decryptGcm_encryptGcm sm4 ⟨writer.writeKey, hkey⟩ plaintext nonce.length_bytes
      (recordAad (writer.writeSeq - 1) [contentType, 0x01, 0x01] plaintext.length)
  have hseq : (beOctets 8 (writer.writeSeq - 1)).length = 8 := length_beOctets _ _
  have hbuf : (beOctets 8 (writer.writeSeq - 1) ++ ciphertext ++ tag).length =
      plaintext.length + 24 := by
    simp only [length_append, hseq, hlen, htag]
    omega
  refine ⟨[recordHeader contentType (8 + plaintext.length + 16), beOctets 8 (writer.writeSeq - 1),
    ciphertext, tag], beOctets 8 (writer.writeSeq - 1) ++ ciphertext ++ tag, ?_, ?_, hbuf, ?_⟩
  · simp only [sealGcm, gcmCall, GcmCall.encrypt, hnonce, mapError_ok, ok_bind, getCipher,
      hcipher, hstart, henc]
  · rw [hbuf, show plaintext.length + 24 = 8 + plaintext.length + 16 by omega]
    simp
  have hbody : (beOctets 8 (writer.writeSeq - 1) ++ ciphertext ++ tag).length - 16 =
      (beOctets 8 (writer.writeSeq - 1) ++ ciphertext).length := by
    rw [length_append, htag, Nat.add_sub_cancel]
  have hcut : ((beOctets 8 (writer.writeSeq - 1) ++ ciphertext ++ tag).take
      ((beOctets 8 (writer.writeSeq - 1) ++ ciphertext ++ tag).length - 16)).drop 8 =
        ciphertext := by
    rw [hbody, take_left, drop_left' hseq]
  have htagCut : (beOctets 8 (writer.writeSeq - 1) ++ ciphertext ++ tag).drop
      ((beOctets 8 (writer.writeSeq - 1) ++ ciphertext ++ tag).length - 16) = tag := by
    rw [hbody, drop_left]
  rw [decryptGcm, rejectIf_bind (by rw [hbuf]; omega)]
  simp only [hcut, htagCut, ← hdeliv.nonce, ← hdeliv.seq, ← hdeliv.key, hnonce, ok_bind,
    getCipher, hcipher, mapError_ok, hstart, hlen, hdec]

lemma exists_cbcPadding_eq (length : ℕ) : ∃ padLen < 16, cbcPadding length =
        replicate padLen (UInt8.ofNat padLen) ++ [UInt8.ofNat padLen] ∧
      (UInt8.ofNat padLen).toNat = padLen ∧ (length + 32 + (padLen + 1)) % 16 = 0 := by
  refine ⟨(16 - (length + 32 + 1) % 16) % 16, by omega, rfl, ?_, by omega⟩
  rw [UInt8.toNat_ofNat']
  omega

lemma splitCbcInner_append (plaintext : Bytes) {mac : Bytes} (hmac : mac.length = 32) :
    splitCbcInner (plaintext ++ mac ++ cbcPadding plaintext.length) = .ok (plaintext, mac) ∧
      (plaintext ++ mac ++ cbcPadding plaintext.length).length % 16 = 0 ∧
        32 < (plaintext ++ mac ++ cbcPadding plaintext.length).length := by
  obtain ⟨padLen, hpadLt, hpadding, hpadNat, hblk⟩ := exists_cbcPadding_eq plaintext.length
  generalize hinner : plaintext ++ mac ++ cbcPadding plaintext.length = inner
  have hlen : inner.length = plaintext.length + 32 + (padLen + 1) := by
    rw [← hinner, hpadding]
    simp only [length_append, hmac, length_replicate, length_singleton]
  have hlast : inner.getLastD 0 = UInt8.ofNat padLen := by
    rw [← hinner, hpadding, ← append_assoc, getLastD_concat]
  have hunpadded : inner.length - (padLen + 1) = (plaintext ++ mac).length := by
    rw [hlen, length_append, hmac, Nat.add_sub_cancel]
  have hfront : inner.take (inner.length - (padLen + 1)) = plaintext ++ mac := by
    rw [hunpadded, ← hinner, take_left]
  have hplain : inner.length - (padLen + 1) - 32 = plaintext.length := by omega
  have htail : ((inner.drop (inner.length - (padLen + 1))).take padLen).all (fun octet ↦
      octet.toNat == padLen) = true := by
    rw [hunpadded, ← hinner, drop_left, hpadding, take_left' length_replicate, all_eq_true]
    intro octet hmem
    rw [eq_of_mem_replicate hmem, hpadNat, beq_self_eq_true]
  refine ⟨?_, by omega, by omega⟩
  rw [splitCbcInner, rejectIf_bind (by intro hnil; simp [hnil] at hlen)]
  simp only [hlast, hpadNat, htail, hfront, hplain]
  rw [rejectIf_bind (by omega), rejectIf_bind (by omega), rejectIf_bind (by decide),
    rejectIf_bind (by omega), drop_left, ← hinner, append_assoc, take_left]

variable (hdeliv : writer.Delivers reader)

include hdeliv

variable (hkey : writer.writeKey.length = 16)

include hkey

lemma decryptCbc_encryptCbcRecordWithType (contentType : UInt8)
    (plaintext : Bytes) (iv : Octets 16) :
    ∃ buf, writer.encryptCbcRecordWithType sm3 sm4 contentType plaintext iv =
        .ok (recordHeader contentType buf.length ++ buf) ∧
      buf.length = 16 + (plaintext.length + 32 + (cbcPadding plaintext.length).length) ∧
        reader.decryptCbc sm3 sm4 buf (recordHeader contentType buf.length) = .ok plaintext := by
  have hcipher := Sm4Cipher.new_eq_ok hkey
  have hstart (length : ℕ) : (recordHeader contentType length).take 3 =
    [contentType, 0x01, 0x01] := rfl
  generalize hmac : sm3Hmac sm3 writer.writeMacKey (beOctets 8 (writer.writeSeq - 1) ++
    [contentType, 0x01, 0x01] ++ beOctets 2 plaintext.length ++ plaintext) = mac
  have hmacLength : mac.length = 32 := by rw [← hmac, length_sm3Hmac]
  obtain ⟨hsplit, hblk, hlower⟩ := splitCbcInner_append plaintext hmacLength
  obtain ⟨encrypted, henc, hlen, hdec⟩ := Sm4Cipher.decryptCbcRaw_encryptCbcRaw sm4
    ⟨writer.writeKey, hkey⟩ (ne_nil_of_length_pos (Nat.zero_lt_of_lt hlower)) hblk iv.length_bytes
  have hbuf : (iv.bytes ++ encrypted).length = 16 + encrypted.length := by
    rw [length_append, iv.length_bytes]
  refine ⟨iv.bytes ++ encrypted, ?_, ?_, ?_⟩
  · simp only [encryptCbcRecordWithType, getCipher, hcipher, mapError_ok, ok_bind, hmac, henc, hbuf]
    rw [append_assoc]
  · simp only [hbuf, hlen, length_append, hmacLength]
  rw [decryptCbc, rejectIf_bind (by omega)]
  simp only [openCbc, ← hdeliv.key, ← hdeliv.macKey, ← hdeliv.seq, getCipher, hcipher, mapError_ok,
    ok_bind, take_left' iv.length_bytes, drop_left' iv.length_bytes, hdec, hsplit, hstart, hmac]
  rw [rejectIf_ne_bind rfl]

variable (hnonce : nextNonce writer.writeNonce (writer.writeSeq - 1) = .ok nonce)

include hnonce

lemma unprotect_sealRecord (contentType : UInt8)
    (plaintext : Bytes) (iv : Octets 16) :
    ∃ parts buf, writer.sealRecord sm3 sm4 contentType plaintext iv = .ok parts ∧
      parts.flatten = recordHeader contentType buf.length ++ buf ∧
        buf.length = sealedLength writer.cipherSuite plaintext.length ∧
          reader.unprotect sm3 sm4 buf (recordHeader contentType buf.length) = .ok plaintext := by
  by_cases hgcm : writer.cipherSuite.gcm = true
  · have hreader : reader.cipherSuite.gcm = true := by rw [← hdeliv.suite, hgcm]
    obtain ⟨parts, buf, hseal, hflatten, hlen, hopen⟩ :=
      decryptGcm_sealGcm sm4 hdeliv hkey hnonce contentType plaintext
    simp only [sealRecord, unprotect, sealedLength, if_pos hgcm, if_pos hreader]
    exact ⟨parts, buf, hseal, hflatten, hlen, hopen⟩
  have hreader : ¬ reader.cipherSuite.gcm = true := by rwa [← hdeliv.suite]
  obtain ⟨buf, henc, hlen, hopen⟩ := decryptCbc_encryptCbcRecordWithType sm3 sm4 hdeliv hkey
    contentType plaintext iv
  simp only [sealRecord, unprotect, sealedLength, if_neg hgcm, if_neg hreader]
  exact ⟨[_], buf, by rw [henc]; rfl, by simp, hlen, hopen⟩

lemma unprotect_pollWriteRecord (plaintext : Bytes) (iv : Octets 16) :
    ∃ buf, writer.pollWriteRecord sm3 sm4 plaintext iv = .ok (recordHeader 0x17 buf.length ++ buf) ∧
      buf.length = sealedLength writer.cipherSuite plaintext.length ∧
        reader.unprotect sm3 sm4 buf (recordHeader 0x17 buf.length) = .ok plaintext := by
  by_cases hgcm : writer.cipherSuite.gcm = true
  · have hreader : reader.cipherSuite.gcm = true := by rw [← hdeliv.suite, hgcm]
    obtain ⟨parts, buf, hseal, hflatten, hlen, hopen⟩ :=
      decryptGcm_sealGcm sm4 hdeliv hkey hnonce 0x17 plaintext
    simp only [pollWriteRecord, unprotect, sealedLength, if_pos hgcm, if_pos hreader]
    exact ⟨buf, by rw [hseal, ok_bind, hflatten], hlen, hopen⟩
  have hreader : ¬ reader.cipherSuite.gcm = true := by rwa [← hdeliv.suite]
  obtain ⟨buf, henc, hlen, hopen⟩ := decryptCbc_encryptCbcRecordWithType sm3 sm4 hdeliv
    hkey 0x17 plaintext iv
  simp only [pollWriteRecord, unprotect, sealedLength, if_neg hgcm, if_neg hreader]
  exact ⟨buf, henc, hlen, hopen⟩

end TlcpStream

end GmStack.Tlcp
