import GmStack.Tls.Handshake

/-! `gm-tls/src/record_layer.rs` and `key_update.rs`. An error comes with the stream the call leaves
behind. `sealed` and `epoch` are history that no function reads. -/

namespace GmStack.Tls

open Foundation Crypto List

variable {F P : Type} [CommRing F] [AddCommGroup P] [Module F P]

inductive KeyUpdateRequest
  | updateNotRequested
  | updateRequested
  deriving DecidableEq

def KeyUpdateRequest.fromByte (octet : UInt8) : Except TlsError KeyUpdateRequest :=
  if octet = 0 then .ok .updateNotRequested
  else if octet = 1 then .ok .updateRequested
  else .error (.invalidMessage ("invalid KeyUpdateRequest value: " ++ toString octet.toNat))

def KeyUpdateRequest.toByte : KeyUpdateRequest → UInt8
  | .updateNotRequested => 0
  | .updateRequested => 1

structure KeyUpdate where
  updateRequested : KeyUpdateRequest

def KeyUpdate.toBytes (update : KeyUpdate) : Bytes := [update.updateRequested.toByte]

def KeyUpdate.fromBytes (data : Bytes) : Except TlsError KeyUpdate := do
  rejectIf (data.length ≠ 1)
    (.invalidMessage ("KeyUpdate body must be exactly 1 byte, got " ++ toString data.length))
  let request ← KeyUpdateRequest.fromByte (data.headD 0)
  .ok ⟨request⟩

lemma KeyUpdate.fromBytes_toBytes (update : KeyUpdate) : KeyUpdate.fromBytes update.toBytes =
    .ok update := by
  obtain ⟨request⟩ := update
  cases request <;> rfl

def keyUpdateThreshold : ℕ := 2 ^ 32 * 4 / 5

def gcmConfidentialityLimit : ℕ := 2 ^ 32

section Secrets

variable (lib : TlsLibrary F P)

def updateTrafficSecret (oldSecret : Bytes) : Except TlsError Bytes := do
  rejectIf (oldSecret.length ≠ 32) (.handshakeFailed
    ("traffic secret must be 32 bytes, got " ++ toString oldSecret.length))
  hkdfSm3 lib oldSecret [] "traffic upd".toUTF8.toList 32

def deriveKeyAndNonce (secret : Bytes) : Except TlsError (Bytes × Octets 12) :=
  deriveKeyIvFromSecret lib secret

def presentSecret (text : String) : Option Bytes → Except TlsError Bytes
  | some secret => .ok secret
  | none => .error (.handshakeFailed text)

def nextTrafficSecret (text : String) (secret : Option Bytes) :
    Except TlsError (Bytes × Bytes × Octets 12) := do
  let oldSecret ← presentSecret text secret
  let newSecret ← updateTrafficSecret lib oldSecret
  let (newKey, newNonce) ← deriveKeyAndNonce lib newSecret
  .ok (newSecret, newKey, newNonce)

lemma exists_nextTrafficSecret {secret : Bytes} (hsec : secret.length = 32) :
    ∃ newSecret newKey newNonce,
      (∀ text, nextTrafficSecret lib text (some secret) = .ok (newSecret, newKey, newNonce)) ∧
        newSecret.length = 32 ∧ newKey.length = 16 := by
  obtain ⟨newSecret, hupd, hlen⟩ := exists_hkdfSm3 lib secret []
    "traffic upd".toUTF8.toList (show 32 ≤ 32 by decide)
  obtain ⟨newKey, newNonce, hderive, hkey⟩ := exists_deriveKeyIvFromSecret lib newSecret
  refine ⟨newSecret, newKey, newNonce, fun text ↦ ?_, hlen, hkey⟩
  rw [nextTrafficSecret, presentSecret, ok_bind, updateTrafficSecret, rejectIf_ne_bind hsec,
    hupd, ok_bind, deriveKeyAndNonce, hderive, ok_bind]

lemma length_of_nextTrafficSecret {text : String} {secret : Option Bytes} {newSecret newKey : Bytes}
    {newNonce : Octets 12}
    (hnext : nextTrafficSecret lib text secret = .ok (newSecret, newKey, newNonce)) :
    newKey.length = 16 := by
  simp only [nextTrafficSecret, bind_eq_ok, deriveKeyAndNonce] at hnext
  obtain ⟨oldSecret, -, updated, -, ⟨key, nonce⟩, hderive, hres⟩ := hnext
  obtain ⟨other, otherNonce, hother, hlen⟩ := exists_deriveKeyIvFromSecret lib updated
  rw [hother] at hderive
  cases hderive
  cases hres
  exact hlen

end Secrets

def nextNonce (base : Octets 12) (seq : ℕ) : Except TlsError (Octets 12) := do
  rejectIf (seq = 2 ^ 64 - 1) .sequenceOverflow
  let nonce : Octets 12 :=
    ⟨base.bytes.take 4 ++ xorBytes (base.bytes.drop 4) (beOctets 8 seq), length_nonce base seq⟩
  rejectIf (seq ≠ 0 ∧ nonce = base) .sequenceOverflow
  .ok nonce

variable {seq : ℕ} {base nonce : Octets 12}

lemma nextNonce_eq_ok (hnonce : nextNonce base seq = .ok nonce) : seq ≠ 2 ^ 64 - 1 ∧
      nonce.bytes = base.bytes.take 4 ++ xorBytes (base.bytes.drop 4) (beOctets 8 seq) := by
  simp only [nextNonce, unit_bind_eq_ok, rejectIf_eq_ok, Except.ok.injEq] at hnonce
  obtain ⟨hseq, -, rfl⟩ := hnonce
  exact ⟨hseq, rfl⟩

lemma exists_nextNonce (base : Octets 12) (hseq : seq < 2 ^ 64 - 1) :
    ∃ nonce, nextNonce base seq = .ok nonce := by
  rw [nextNonce, rejectIf_bind (Nat.ne_of_lt hseq)]
  dsimp only
  rw [rejectIf_neg, ok_bind]
  · exact ⟨_, rfl⟩
  · rintro ⟨hpos, hbase⟩
    exact hpos (eq_zero_of_masked base.length_bytes (by omega) (congrArg Octets.bytes hbase))

lemma nextNonce_injective {other : ℕ} (hseq : seq < 2 ^ 64)
    (hother : other < 2 ^ 64) (hnonce : nextNonce base seq = .ok nonce)
    (hsame : nextNonce base other = .ok nonce) : seq = other := by
  have hlen : (base.bytes.drop 4).length = 8 := by rw [length_drop, base.length_bytes]
  have hbytes := (nextNonce_eq_ok hnonce).2.symm.trans (nextNonce_eq_ok hsame).2
  exact eq_of_xorBytes_beOctets hlen hseq hother (append_cancel_left hbytes)

/-! ### Streams -/

/-- One encryption with a write key, and how many rotations of the key came before it. -/
structure Sealing where
  epoch : ℕ
  key : Bytes
  nonce : Octets 12
  aad : Bytes
  inner : Bytes
  deriving DecidableEq

/-- `GmTlsStream` with its record layer, without the transport and what polled reads have buffered.
The last two fields are history. -/
structure RecordStream extends GmTlsStream where
  version : Octets 2
  writeSeq : ℕ
  readSeq : ℕ
  closeNotifySent : Bool
  keyUpdatePending : Bool
  usedWriteNonces : Finset (Octets 12)
  nonceEvictionQueue : List (Octets 12)
  epoch : ℕ
  sealed : List Sealing

def GmTlsStream.withVersion (stream : GmTlsStream) (version : Octets 2) : RecordStream where
  toGmTlsStream := stream
  version := version
  writeSeq := 0
  readSeq := 0
  closeNotifySent := false
  keyUpdatePending := false
  usedWriteNonces := ∅
  nonceEvictionQueue := []
  epoch := 0
  sealed := []

/-- A call on a stream. -/
abbrev StreamCall (α : Type) := Proc TlsNote (TlsError × RecordStream) α

def maxNonceCache : ℕ := 1000000

def nonceEvictBatch : ℕ := 100000

def maxRecordSize : ℕ := 24 * 1024

def recordHeader (version : Octets 2) (length : ℕ) : Bytes :=
  0x17 :: version.bytes ++ beOctets 2 length

lemma length_recordHeader (version : Octets 2) (length : ℕ) :
    (recordHeader version length).length = 5 := by
  rw [recordHeader, length_append, length_cons, version.length_bytes, length_beOctets]

lemma drop_recordHeader (version : Octets 2) (length : ℕ) : (recordHeader version length).drop 3 =
    beOctets 2 length :=
  drop_left' (by rw [length_cons, version.length_bytes])

def recordAad (seq : ℕ) (header : Bytes) : Bytes := beOctets 8 seq ++ header

namespace RecordStream

abbrev ShouldUpdateKey (stream : RecordStream) : Prop := keyUpdateThreshold ≤ stream.writeSeq

abbrev IsKeyExhausted (stream : RecordStream) : Prop := gcmConfidentialityLimit ≤ stream.writeSeq

def getCipher (key : Bytes) : Except TlsError Sm4Cipher :=
  (Sm4Cipher.new key).mapError fun e ↦ .cipherError ("SM4 key: " ++ e.debug)

def evictNonces (stream : RecordStream) : RecordStream :=
  if stream.usedWriteNonces.card > maxNonceCache then
    { stream with
      usedWriteNonces :=
        stream.usedWriteNonces \ (stream.nonceEvictionQueue.take nonceEvictBatch).toFinset
      nonceEvictionQueue := stream.nonceEvictionQueue.drop nonceEvictBatch }
  else stream

def checkAndRecordNonce (stream : RecordStream) (nonce : Octets 12) :
    Except (TlsError × RecordStream) RecordStream :=
  let evicted := stream.evictNonces
  let queued := { evicted with nonceEvictionQueue := evicted.nonceEvictionQueue ++ [nonce] }
  if nonce ∈ queued.usedWriteNonces then .error (.nonceReuse, queued)
  else .ok { queued with usedWriteNonces := insert nonce queued.usedWriteNonces }

def claimNonce (stream : RecordStream) : Except (TlsError × RecordStream)
    (Octets 12 × RecordStream) := do
  let nonce ← (nextNonce stream.writeNonce stream.writeSeq).mapError fun e ↦ (e, stream)
  let stream ← stream.checkAndRecordNonce nonce
  rejectIf (stream.writeSeq = 2 ^ 64 - 1) (.sequenceOverflow, stream)
  .ok (nonce, { stream with writeSeq := stream.writeSeq + 1 })

variable (lib : TlsLibrary F P)

def protect {ε : Type} (onKey : TlsError → ε) (onCipher : CryptoError → ε) (stream : RecordStream)
    (nonce : Octets 12) (seq : ℕ) (inner : Bytes) : Except ε (Bytes × Bytes × RecordStream) := do
  let cipher ← (getCipher stream.writeKey).mapError onKey
  let aad := recordAad seq (recordHeader stream.version (inner.length + 16))
  let (ciphertext, tag) ← (cipher.encryptGcm lib.sm4 inner nonce.bytes aad).mapError onCipher
  .ok (ciphertext, tag,
    { stream with sealed := stream.sealed ++ [⟨stream.epoch, stream.writeKey, nonce, aad, inner⟩] })

def writeRecord (text : String) (inner : Bytes) (stream : RecordStream) :
    StreamCall RecordStream := do
  let (nonce, counted) ← Proc.check stream.claimNonce
  let (ciphertext, tag, next) ← Proc.check (counted.protect lib (fun e ↦ (e, counted))
    (fun e ↦ (.cipherError (text ++ e.debug), counted)) nonce stream.writeSeq inner)
  [[0x17], next.version.bytes, beOctets 2 (inner.length + 16), ciphertext, tag].forM
    (Proc.writeAll fun text ↦ (.ioError text, next))
  pure next

def rotateWriteKey (stream : RecordStream) : Except TlsError RecordStream := do
  let (newSecret, newKey, newNonce) ← nextTrafficSecret lib
    "cannot perform KeyUpdate: write traffic secret not set" stream.writeTrafficSecret
  .ok { stream with
    writeKey := newKey
    writeNonce := newNonce
    writeSeq := 0
    usedWriteNonces := ∅
    nonceEvictionQueue := []
    writeTrafficSecret := some newSecret
    epoch := stream.epoch + 1 }

def rotateReadKey (stream : RecordStream) : Except TlsError RecordStream := do
  let (newSecret, newKey, newNonce) ← nextTrafficSecret lib
    "cannot process KeyUpdate: read traffic secret not set" stream.readTrafficSecret
  .ok { stream with
    readKey := newKey
    readNonce := newNonce
    readSeq := 0
    readTrafficSecret := some newSecret }

def keyUpdateMessage (requestPeerUpdate : Bool) : Bytes :=
  let body :=
    KeyUpdate.toBytes ⟨if requestPeerUpdate then .updateRequested else .updateNotRequested⟩
  0x18 :: beOctets 3 body.length ++ body

def writeHandshakeRecord (msg : Bytes) (stream : RecordStream) : StreamCall RecordStream :=
  stream.writeRecord lib "KeyUpdate encrypt: " (msg ++ [0x16])

def sendKeyUpdate (requestPeerUpdate : Bool) (stream : RecordStream) : StreamCall RecordStream := do
  let stream ← stream.writeHandshakeRecord lib (keyUpdateMessage requestPeerUpdate)
  Proc.check ((stream.rotateWriteKey lib).mapError fun e ↦ (e, stream))

def flushPendingKeyUpdate (stream : RecordStream) : StreamCall RecordStream :=
  if stream.keyUpdatePending then
    ({ stream with keyUpdatePending := false } : RecordStream).sendKeyUpdate lib false
  else pure stream

def updateNearLimit (stream : RecordStream) : StreamCall RecordStream :=
  if stream.ShouldUpdateKey ∧ stream.writeTrafficSecret.isSome = true then
    stream.sendKeyUpdate lib false
  else pure stream

def writeBelowLimit (plaintext : Bytes) (stream : RecordStream) : StreamCall RecordStream := do
  Proc.check (rejectIf stream.IsKeyExhausted (.handshakeFailed
    ("GCM confidentiality limit reached: sequence number exhausted, KeyUpdate required " ++
      "but no traffic secret available"), stream))
  let stream ← stream.updateNearLimit lib
  stream.writeRecord lib "GCM encrypt: " (plaintext ++ [0x17])

def writeApplicationData (plaintext : Bytes) (stream : RecordStream) : StreamCall RecordStream := do
  let stream ← stream.flushPendingKeyUpdate lib
  stream.writeBelowLimit lib plaintext

def close (stream : RecordStream) : StreamCall RecordStream :=
  if stream.closeNotifySent then pure stream
  else do
    let stream ← stream.writeRecord lib "close_notify encrypt: " [0x01, 0x00, 0x15]
    pure { stream with closeNotifySent := true }

def unprotect {ε : Type} (onNonce : TlsError → ε) (onSequence : ε) (onKey : TlsError → ε)
    (onCipher : CryptoError → ε) (stream : RecordStream) (header buf : Bytes) :
    Except (ε × RecordStream) (Bytes × RecordStream) := do
  let nonce ← (nextNonce stream.readNonce stream.readSeq).mapError fun e ↦ (onNonce e, stream)
  rejectIf (stream.readSeq = 2 ^ 64 - 1) (onSequence, stream)
  let counted := { stream with readSeq := stream.readSeq + 1 }
  let cipher ← (getCipher stream.readKey).mapError fun e ↦ (onKey e, counted)
  let plaintext ← (cipher.decryptGcm lib.sm4 (buf.take (buf.length - 16)) nonce.bytes
    (recordAad stream.readSeq header) (buf.drop (buf.length - 16))).mapError fun e ↦
    (onCipher e, counted)
  .ok (plaintext, counted)

def processKeyUpdate (stream : RecordStream) (request : KeyUpdateRequest) :
    Except TlsError (Bool × RecordStream) := do
  let stream ← stream.rotateReadKey lib
  if request = .updateRequested then .ok (true, { stream with keyUpdatePending := true })
  else .ok (false, stream)

def processInnerHandshake (stream : RecordStream) (msg : Bytes) : Except TlsError RecordStream := do
  rejectIf (msg.length < 4) (.invalidMessage "handshake message too short")
  let handshakeType := msg.headD 0
  let handshakeLen := beNat ((msg.drop 1).take 3)
  rejectIf (msg.length < 4 + handshakeLen) (.invalidMessage
    ("handshake message truncated: expected " ++ toString handshakeLen ++ " bytes, got " ++
    toString (msg.length - 4)))
  let body := (msg.drop 4).take handshakeLen
  if handshakeType = 0x18 then do
    let update ← KeyUpdate.fromBytes body
    let (_, stream) ← stream.processKeyUpdate lib update.updateRequested
    .ok stream
  else if handshakeType = 0x04 then .ok stream
  else .error (.invalidHandshakeType handshakeType)

def readBody (short long : String) (header : Bytes) (stream : RecordStream) : StreamCall Bytes := do
  Proc.check (rejectIf (header.headD 0 ≠ 0x17) (.tlsRecordError
    ("expected application_data record 0x17, got 0x" ++ hexOctet (header.headD 0)), stream))
  let ctLen := beNat (header.drop 3)
  Proc.check (rejectIf (ctLen < 16) (.handshakeFailed short, stream))
  Proc.check (rejectIf (ctLen > maxRecordSize) (.handshakeFailed long, stream))
  Proc.readExact (fun text ↦ (.ioError text, stream)) ctLen

def interpret (plaintext : Bytes) (stream : RecordStream) :
    Except (TlsError × RecordStream) (Option Bytes × RecordStream) := do
  rejectIf (plaintext = [])
    (.invalidMessage "decrypted record is empty (missing inner content type)", stream)
  let innerContentType := plaintext.getLastD 0
  if innerContentType = 0x17 then .ok (some plaintext.dropLast, stream)
  else if innerContentType = 0x16 then do
    let stream ← (stream.processInnerHandshake lib plaintext.dropLast).mapError fun e ↦ (e, stream)
    .ok (none, stream)
  else .error (.invalidMessage ("unknown inner content type: 0x" ++ hexOctet innerContentType),
    stream)

def readRecord (stream : RecordStream) : StreamCall (Option Bytes × RecordStream) := do
  let header ← Proc.readExact (fun text ↦ (.ioError text, stream)) 5
  let buf ← stream.readBody "record too short" "record exceeds size limit" header
  let (plaintext, stream) ← Proc.check (stream.unprotect lib (fun e ↦ e) .sequenceOverflow
    (fun e ↦ e) (fun e ↦ .cipherError ("GCM decrypt: " ++ e.debug)) header buf)
  Proc.check (stream.interpret lib plaintext)

def readApplicationData : ℕ → RecordStream → StreamCall (Bytes × RecordStream)
  | 0, stream => Proc.check (.error (.panicked "out of fuel", stream))
  | rounds + 1, stream => do
    match ← stream.readRecord lib with
    | (some plaintext, stream) => pure (plaintext, stream)
    | (none, stream) => readApplicationData rounds stream

def recvCloseNotify (isEof : String → Bool) (stream : RecordStream) :
    StreamCall (Bool × RecordStream) := do
  match ← Proc.attempt (Proc.readExact id 5 : Proc TlsNote String Bytes) with
  | .error text =>
    if isEof text then pure (false, stream)
    else Proc.check (.error (.ioError text, stream))
  | .ok header =>
    let buf ← stream.readBody "close_notify record too short"
      "close_notify record exceeds size limit" header
    let (_, stream) ← Proc.check (stream.unprotect lib (fun e ↦ e) .sequenceOverflow (fun e ↦ e)
      (fun e ↦ .cipherError ("close_notify decrypt: " ++ e.debug)) header buf)
    pure (true, stream)

/-- The recorded nonces belong to records that were counted before. -/
structure WellNumbered (stream : RecordStream) : Prop where
  bound : stream.writeSeq < 2 ^ 64
  nonces : ∀ nonce ∈ stream.usedWriteNonces, ∃ seq < stream.writeSeq,
    nextNonce stream.writeNonce seq = .ok nonce

lemma wellNumbered_withVersion (stream : GmTlsStream) (version : Octets 2) :
    (stream.withVersion version).WellNumbered where
  bound := show 0 < 2 ^ 64 by decide
  nonces := fun nonce hmem ↦ absurd hmem (Finset.notMem_empty nonce)

lemma exists_evictNonces (stream : RecordStream) : ∃ used ⊆ stream.usedWriteNonces, ∃ queue,
    stream.evictNonces =
      { stream with usedWriteNonces := used, nonceEvictionQueue := queue } := by
  unfold evictNonces
  split_ifs
  · exact ⟨_, Finset.sdiff_subset, _, rfl⟩
  · exact ⟨_, Finset.Subset.refl _, _, rfl⟩

def countedWith (stream : RecordStream) (used : Finset (Octets 12)) (queue : List (Octets 12)) :
    RecordStream :=
  { stream with
    writeSeq := stream.writeSeq + 1, usedWriteNonces := used, nonceEvictionQueue := queue }

variable {stream : RecordStream}

lemma exists_claimNonce (hstr : stream.WellNumbered) (hseq : stream.writeSeq < 2 ^ 64 - 1) :
    ∃ nonce used queue, nextNonce stream.writeNonce stream.writeSeq = .ok nonce ∧
      stream.claimNonce = .ok (nonce, stream.countedWith used queue) ∧
      (stream.countedWith used queue).WellNumbered := by
  obtain ⟨nonce, hnonce⟩ := exists_nextNonce stream.writeNonce hseq
  obtain ⟨used, hused, queue, hevict⟩ := exists_evictNonces stream
  have hnew : nonce ∉ used := by
    intro hmem
    obtain ⟨seq, hlt, hsame⟩ := hstr.nonces nonce (hused hmem)
    exact absurd (nextNonce_injective (hlt.trans hstr.bound) hstr.bound hsame hnonce)
      (Nat.ne_of_lt hlt)
  refine ⟨nonce, insert nonce used, queue ++ [nonce], hnonce, ?_, ?_, ?_⟩
  · rw [claimNonce, hnonce, mapError_ok, ok_bind, checkAndRecordNonce, hevict]
    simp only [if_neg hnew, ok_bind]
    rw [rejectIf_bind (Nat.ne_of_lt hseq)]
    rfl
  · show stream.writeSeq + 1 < 2 ^ 64
    omega
  intro other hmem
  rcases Finset.mem_insert.mp hmem with rfl | hother
  · exact ⟨stream.writeSeq, Nat.lt_succ_self _, hnonce⟩
  · obtain ⟨seq, hlt, hsame⟩ := hstr.nonces other (hused hother)
    exact ⟨seq, Nat.lt_succ_of_lt hlt, hsame⟩

lemma claimNonce_of_eq (hseq : stream.writeSeq = 2 ^ 64 - 1) :
    stream.claimNonce = .error (.sequenceOverflow, stream) := by
  rw [claimNonce, nextNonce, rejectIf_pos hseq]
  rfl

/-- The entry that sealing adds holds the arguments of its call of `encrypt_gcm`. -/
theorem encryptGcm_of_protect {ε : Type} {onKey : TlsError → ε} {onCipher : CryptoError → ε}
    {nonce : Octets 12}
    {seq : ℕ} {inner ciphertext tag : Bytes} {next : RecordStream}
    (hprotect : stream.protect lib onKey onCipher nonce seq inner = .ok (ciphertext, tag, next)) :
    ∃ entry cipher, next.sealed = stream.sealed ++ [entry] ∧ getCipher entry.key = .ok cipher ∧
      cipher.encryptGcm lib.sm4 entry.inner entry.nonce.bytes entry.aad =
      .ok (ciphertext, tag) := by
  obtain ⟨cipher, hcipher, hprotect⟩ := bind_eq_ok.mp hprotect
  obtain ⟨sealedText, hsealed, hprotect⟩ := bind_eq_ok.mp hprotect
  cases hprotect
  exact ⟨_, cipher, rfl, mapError_eq_ok.mp hcipher, mapError_eq_ok.mp hsealed⟩

def withSealing (stream : RecordStream) (nonce : Octets 12) (seq : ℕ) (inner : Bytes) :
    RecordStream :=
  { stream with
    sealed := stream.sealed ++ [⟨stream.epoch, stream.writeKey, nonce,
      recordAad seq (recordHeader stream.version (inner.length + 16)), inner⟩] }

lemma getCipher_eq_ok {key : Bytes} (hkey : key.length = 16) : getCipher key = .ok ⟨key, hkey⟩ := by
  rw [getCipher, Sm4Cipher.new_eq_ok hkey, mapError_ok]

lemma getCipher_eq_error {key : Bytes} (hkey : key.length ≠ 16) :
    ∃ error, getCipher key = .error error := by
  rw [getCipher, Sm4Cipher.new, dif_neg hkey]
  exact ⟨_, rfl⟩

variable {ε : Type} {onCipher : CryptoError → ε} {onKey : TlsError → ε}

lemma protect_of_length_ne (hkey : stream.writeKey.length ≠ 16) (nonce : Octets 12) (seq : ℕ)
    (inner : Bytes) : ∃ error, stream.protect lib onKey onCipher nonce seq inner =
    .error (onKey error) := by
  obtain ⟨error, hcipher⟩ := getCipher_eq_error hkey
  rw [protect, hcipher]
  exact ⟨error, rfl⟩

def opened (stream : RecordStream) (header buf : Bytes) : Option Bytes :=
  ((stream.unprotect lib (fun _ ↦ ()) () (fun _ ↦ ()) (fun _ ↦ ()) header buf).toOption).map
    Prod.fst

variable {header buf plaintext : Bytes}

lemma unprotect_eq_ok {onNonce : TlsError → ε} {onSequence : ε} {next : RecordStream} :
    stream.unprotect lib onNonce onSequence onKey onCipher header buf = .ok (plaintext, next) ↔
      stream.opened lib header buf = some plaintext ∧
        next = { stream with readSeq := stream.readSeq + 1 } := by
  simp only [opened, Option.map_eq_some_iff, toOption_eq_some, unprotect, bind_eq_ok,
    mapError_eq_ok,
    rejectIf_eq_ok, Except.ok.injEq, Prod.exists, Prod.mk.injEq]
  constructor
  · rintro ⟨nonce, hnonce, -, hseq, cipher, hcipher, opened, hopen, rfl, rfl⟩
    exact ⟨⟨_, _, ⟨nonce, hnonce, (), hseq, cipher, hcipher, _, hopen, rfl, rfl⟩, rfl⟩, rfl⟩
  · rintro ⟨⟨_, _, ⟨nonce, hnonce, -, hseq, cipher, hcipher, opened, hopen, rfl, rfl⟩, rfl⟩, rfl⟩
    exact ⟨nonce, hnonce, (), hseq, cipher, hcipher, _, hopen, rfl, rfl⟩

lemma length_le_of_opened
    (hopened : stream.opened lib header buf = some plaintext) :
    plaintext.length ≤ buf.length - 16 := by
  have hopen : stream.unprotect lib (fun _ ↦ ()) () (fun _ ↦ ()) (fun _ ↦ ()) header buf =
      .ok (plaintext, { stream with readSeq := stream.readSeq + 1 }) :=
    (unprotect_eq_ok lib).mpr ⟨hopened, rfl⟩
  simp only [unprotect, bind_eq_ok, mapError_eq_ok] at hopen
  obtain ⟨nonce, -, -, -, cipher, -, opened, hdec, hres⟩ := hopen
  cases hres
  refine (Sm4Cipher.length_le_of_decryptGcm lib.sm4 hdec).trans ?_
  rw [length_take]
  exact Nat.min_le_left _ _

lemma opened_protect (onKey : TlsError → ε) (onCipher : CryptoError → ε)
    (hkey : stream.writeKey.length = 16) {nonce : Octets 12} {seq : ℕ}
    (hnonce : nextNonce stream.writeNonce seq = .ok nonce) (inner : Bytes) :
    ∃ ciphertext tag, stream.protect lib onKey onCipher nonce seq inner =
        .ok (ciphertext, tag, stream.withSealing nonce seq inner) ∧
      ciphertext.length = inner.length ∧ tag.length = 16 ∧ ∀ reader :
      RecordStream, reader.readKey = stream.writeKey →
          reader.readNonce = stream.writeNonce → reader.readSeq = seq →
            reader.opened lib (recordHeader stream.version (inner.length + 16))
            (ciphertext ++ tag) = some inner := by
  obtain ⟨ciphertext, tag, henc, hlen, htag, hdec⟩ :=
    Sm4Cipher.decryptGcm_encryptGcm lib.sm4 ⟨stream.writeKey, hkey⟩ inner nonce.length_bytes
      (recordAad seq (recordHeader stream.version (inner.length + 16)))
  refine ⟨ciphertext, tag, ?_, hlen, htag, ?_⟩
  · rw [protect, getCipher_eq_ok hkey, mapError_ok, ok_bind]
    simp only [henc, mapError_ok, ok_bind]
    rfl
  intro reader hreadKey hreadNonce hreadSeq
  have hcut : (ciphertext ++ tag).length - 16 = ciphertext.length := by
    rw [length_append, htag, Nat.add_sub_cancel]
  have hcount : reader.readSeq ≠ 2 ^ 64 - 1 := hreadSeq ▸ (nextNonce_eq_ok hnonce).1
  rw [opened, unprotect, hreadNonce, hreadSeq, hnonce, mapError_ok, ok_bind,
    rejectIf_bind (hreadSeq ▸ hcount), hreadKey, getCipher_eq_ok hkey]
  simp only [mapError_ok, ok_bind, hcut, take_left, drop_left, hdec]
  rfl

def leftBehind : Except (TlsError × RecordStream) RecordStream → RecordStream
  | .ok stream => stream
  | .error (_, stream) => stream

lemma runs_writeRecord {text : String} {inner : Bytes} (hstr : stream.WellNumbered)
    {trace : List (Event TlsNote)}
    {result : Except (TlsError × RecordStream) RecordStream}
    (hruns : Runs (stream.writeRecord lib text inner) trace result) :
    (stream.writeSeq = 2 ^ 64 - 1 ∧ ∃ error, result = .error (error, stream)) ∨
      (stream.writeSeq < 2 ^ 64 - 1 ∧ ∃ nonce used queue,
      nextNonce stream.writeNonce stream.writeSeq = .ok nonce ∧
          (stream.countedWith used queue).WellNumbered ∧ ((stream.writeKey.length ≠ 16 ∧
                ∃ error, result = .error (error, stream.countedWith used queue)) ∨
              (stream.writeKey.length = 16 ∧ leftBehind result =
                (stream.countedWith used queue).withSealing nonce stream.writeSeq inner))) := by
  unfold writeRecord at hruns
  by_cases hseq : stream.writeSeq = 2 ^ 64 - 1
  · rw [claimNonce_of_eq hseq, Proc.check_error_bind] at hruns
    obtain ⟨-, rfl⟩ := runs_done_iff.mp hruns
    exact .inl ⟨hseq, _, rfl⟩
  have hlt : stream.writeSeq < 2 ^ 64 - 1 := by
    have hbound := hstr.bound
    omega
  obtain ⟨nonce, used, queue, hnonce, hclaim, hnext⟩ := exists_claimNonce hstr hlt
  refine .inr ⟨hlt, nonce, used, queue, hnonce, hnext, ?_⟩
  rw [hclaim, Proc.check_ok_bind] at hruns
  by_cases hkey : stream.writeKey.length = 16
  · refine .inr ⟨hkey, ?_⟩
    have hcnt : (stream.countedWith used queue).writeKey.length = 16 := hkey
    obtain ⟨ciphertext, tag, hok, -⟩ := opened_protect lib _ _ hcnt hnonce inner
    rcases runs_check_bind.mp hruns with ⟨error, hprot, -⟩ | ⟨_, hprot, hwrites⟩
    · exact absurd (hok.symm.trans hprot) (by simp)
    cases hok.symm.trans hprot
    rcases runs_bind.mp hwrites with ⟨error, rfl, hfailed⟩ | ⟨_, _, _, -, -, hdone⟩
    · rcases hfailed.of_forM_writeAll with hok | ⟨failure, herror⟩
      · cases hok
      · cases herror
        rfl
    · obtain ⟨-, rfl⟩ := runs_done_iff.mp hdone
      rfl
  have hcnt : (stream.countedWith used queue).writeKey.length ≠ 16 := hkey
  rcases runs_check_bind.mp hruns with ⟨failure, hprot, -, rfl⟩ | ⟨_, hprot, -⟩
  · obtain ⟨error, herror⟩ := protect_of_length_ne lib hcnt nonce stream.writeSeq inner
    cases herror.symm.trans hprot
    exact .inl ⟨hkey, error, rfl⟩
  · obtain ⟨error, herror⟩ := protect_of_length_ne lib hcnt nonce stream.writeSeq inner
    exact absurd (herror.symm.trans hprot) (by simp)

end RecordStream

end GmStack.Tls
