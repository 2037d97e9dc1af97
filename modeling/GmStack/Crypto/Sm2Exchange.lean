import GmStack.Crypto.Sm2Encryption

/-! The three-message exchange of `gm-crypto/src/sm2_kex.rs`. A call returns a result and the
session after it, since a failed call may have stored values already. -/

namespace GmStack.Crypto

open Foundation List Sm2Curve

def defaultUserId : String := "1234567812345678"

structure EphemeralKeyPair where
  r : Octets 32
  rPub : Octets 64

structure Sm2KexMessage where
  msgType : UInt8
  senderId : Octets 16
  rPub : Octets 64
  signature : Option (Octets 64)
  confirmation : Option (Octets 32)

namespace Sm2KexMessage

def newInitiator (senderId : Octets 16) (r1 : Octets 64) : Sm2KexMessage :=
    ⟨1, senderId, r1, none, none⟩

def newResponder (senderId : Octets 16) (r2 signature : Octets 64) : Sm2KexMessage :=
  ⟨2, senderId, r2, some signature, none⟩

def newConfirmation (senderId : Octets 16) (sa : Octets 32) : Sm2KexMessage :=
  ⟨3, senderId, .fill 64 0, none, some sa⟩

end Sm2KexMessage

structure Sm2KexResult where
  sharedSecret : Octets 32
  sessionKey : Octets 32
  s : Octets 32

inductive KexState
  | init
  | waitForResponse
  | waitForConfirmation
  | completed
  | failed
  deriving DecidableEq

structure PeerInfo (P : Type) where
  userId : Octets 16
  peerRPub : Octets 64
  peerPublicKey : P

/-- `KexSession`, without the session identifier and the own public key, which no call reads. -/
structure KexSession (F P : Type) where
  privateKey : F
  userId : Octets 16
  ephemeral : EphemeralKeyPair
  state : KexState
  peerInfo : Option (PeerInfo P)
  result : Option Sm2KexResult
  isInitiator : Bool

def validateUserId (userId : Bytes) : Except CryptoError (Octets 16) := do
  rejectIf (userId = []) (.sm2KexError "user ID cannot be empty")
  if hlength : userId.length ≤ 16 then
    .ok ⟨userId ++ List.replicate (16 - userId.length) 0, by
      rw [length_append, length_replicate]
      omega⟩
  else .error (.sm2KexError "user ID too long (max 16 bytes)")

def copyFromSlice (n : ℕ) (data : Bytes) : Except CryptoError (Octets n) :=
  if hlength : data.length = n then .ok ⟨data, hlength⟩
  else .error
    (.panicked "copy_from_slice: source slice length does not match destination slice length")

section Exchange

variable {F P : Type} [CommRing F] [AddCommGroup P] [Module F P] [DecidableEq P]
  (sm2 : Sm2Curve F P) (sm3 : Sm3Library)

def validateEphemeralPublicKey (rPub : Octets 64) : Except CryptoError Unit := do
  let pointBytes := 0x04 :: rPub.bytes
  (sm2.encodedPointFromBytes pointBytes).mapError fun e ↦
    .sm2KexError ("invalid point encoding: " ++ e)
  rejectIf (pointBytes.length ≠ 65) (.sm2KexError "only uncompressed points (65 bytes) supported")
  match sm2.decode pointBytes with
  | none => .error (.sm2KexError "point not on curve or invalid encoding")
  | some point => rejectIf (point = 0) (.sm2KexError "point cannot be identity element")

def parseUncompressedPoint (rPub : Octets 64) : Except CryptoError P := do
  let pointBytes := 0x04 :: rPub.bytes
  (sm2.encodedPointFromBytes pointBytes).mapError fun e ↦ .sm2KexError ("invalid point: " ++ e)
  match sm2.decode pointBytes with
  | none => .error (.sm2KexError "point not on SM2 curve")
  | some point => .ok point

def pointToUncompressedBytes (point : P) : Except CryptoError (Octets 64) := do
  let bytes := sm2.encode point
  rejectIf (bytes.length ≠ 65 ∨ bytes.head? ≠ some 0x04) (.sm2KexError "invalid point encoding")
  copyFromSlice 64 (bytes.drop 1)

def kexPointXyBytes (point : P) : Except CryptoError (Octets 32 × Octets 32) := do
  let bytes := sm2.encode point
  rejectIf (bytes.length ≠ 65 ∨ bytes.head? ≠ some 0x04) (.sm2KexError "invalid point encoding")
  let x ← copyFromSlice 32 ((bytes.drop 1).take 32)
  let y ← copyFromSlice 32 (bytes.drop 33)
  .ok (x, y)

def EphemeralKeyPair.generate (secret : F) : Except CryptoError EphemeralKeyPair := do
  let rPub ← pointToUncompressedBytes sm2 (secret • sm2.generator)
  .ok ⟨⟨sm2.scalarToBytes secret, sm2.length_scalarToBytes secret⟩, rPub⟩

def sm2KdfRound (z : Bytes) (ct : UInt32) : Except CryptoError (Bytes × UInt32) := do
  let block := sm3.hash (z ++ beOctets 4 ct.toNat)
  rejectIf (ct = 0xFFFFFFFF) (.sm2KexError "KDF overflow")
  .ok (block, ct + 1)

def sm2Kdf (z : Bytes) (klen : ℕ) : Except CryptoError Bytes := do
  rejectIf (klen = 0 ∨ klen > 32 * 0xFFFFFFFF) (.sm2KexError "KDF length out of range")
  keyLoop (sm2KdfRound sm3 z) klen klen [] 1

def sm3Octets (data : Bytes) : Octets 32 := ⟨sm3.hash data, sm3.length_hash data⟩

def computeInnerHash (r1 r2 : Octets 64) (x y k : Octets 32) : Octets 32 :=
  sm3Octets sm3 (r1.bytes ++ r2.bytes ++ x.bytes ++ y.bytes ++ k.bytes)

def sessionKeyLabel : Bytes := [0x73, 0x65, 0x73, 0x73, 0x69, 0x6f, 0x6e, 0x2d, 0x6b, 0x65, 0x79]

def deriveSessionKey (sharedSecret : Octets 32) : Except CryptoError (Octets 32) := do
  let sessionKey ← sm2Kdf sm3 (sharedSecret.bytes ++ sessionKeyLabel) 32
  copyFromSlice 32 sessionKey

namespace KexSession

def newInitiator (keyPair : Sm2KeyPair F) (userId : Bytes) (secret : F) :
    Except CryptoError (KexSession F P) := do
  let userId ← validateUserId userId
  let ephemeral ← EphemeralKeyPair.generate sm2 secret
  .ok ⟨keyPair.privateKey, userId, ephemeral, .init, none, none, true⟩

def newResponder (keyPair : Sm2KeyPair F) (userId : Bytes) (secret : F) :
    Except CryptoError (KexSession F P) := do
  let userId ← validateUserId userId
  let ephemeral ← EphemeralKeyPair.generate sm2 secret
  .ok ⟨keyPair.privateKey, userId, ephemeral, .init, none, none, false⟩

def generateMsg1 (session : KexSession F P) : Except CryptoError Sm2KexMessage := do
  rejectIf (¬session.isInitiator) (.sm2KexError "not an initiator session")
  rejectIf (session.state ≠ .init) (.sm2KexError "invalid state for msg1")
  .ok (.newInitiator session.userId session.ephemeral.rPub)

def signedData (idA idB : Octets 16) (r1 r2 : Octets 64) : Bytes :=
  idA.bytes ++ idB.bytes ++ r1.bytes ++ r2.bytes

def checkMsg1 (session : KexSession F P) (msg : Sm2KexMessage) : Except CryptoError Unit := do
  rejectIf session.isInitiator (.sm2KexError "not a responder session")
  rejectIf (session.state ≠ .init) (.sm2KexError "invalid state for msg1 processing")
  rejectIf (msg.msgType ≠ 1) (.sm2KexError "expected msg_type=1")
  validateEphemeralPublicKey sm2 msg.rPub

def signReply (session : KexSession F P) (msg : Sm2KexMessage) :
    Except CryptoError Sm2KexMessage := do
  (sm2.signingKeyNew defaultUserId session.privateKey).mapError fun e ↦
    .sm2KexError ("signing error: " ++ e)
  let signature := sm2.sign session.privateKey defaultUserId
    (signedData msg.senderId session.userId msg.rPub session.ephemeral.rPub)
  .ok (.newResponder session.userId session.ephemeral.rPub ⟨signature, sm2.length_sign _ _ _⟩)

def withPeer (session : KexSession F P) (msg : Sm2KexMessage) (peerPublicKey : P) :
    KexSession F P :=
  { session with peerInfo := some ⟨msg.senderId, msg.rPub, peerPublicKey⟩ }

def processMsg1 (session : KexSession F P) (msg : Sm2KexMessage) (peerPublicKey : P) :
    Except CryptoError Sm2KexMessage × KexSession F P :=
  match checkMsg1 sm2 session msg with
  | .error error => (.error error, session)
  | .ok () =>
    let session := session.withPeer msg peerPublicKey
    match signReply sm2 session msg with
    | .error error => (.error error, session)
    | .ok reply => (.ok reply, { session with state := .waitForConfirmation })

def computeSharedSecretAndConfirmation (session : KexSession F P) (peerRPub : Octets 64) :
    Except CryptoError (Octets 32 × Octets 32) :=
  match session.peerInfo with
  | none => .error (.sm2KexError "missing peer info")
  | some peerInfo => do
    let peerPoint ← parseUncompressedPoint sm2 peerRPub
    let selfScalar ← (sm2.secretKeyFromBytes session.ephemeral.r.bytes).mapError
      fun e ↦ .sm2KexError ("invalid ephemeral private key: " ++ e)
    let (x, y) ← kexPointXyBytes sm2 (selfScalar • peerPoint)
    let kdfInput := x.bytes ++ y.bytes ++
      if session.isInitiator then
        session.userId.bytes ++ peerInfo.userId.bytes ++ session.ephemeral.rPub.bytes ++
          peerRPub.bytes
      else
        peerInfo.userId.bytes ++ session.userId.bytes ++ peerInfo.peerRPub.bytes ++
          session.ephemeral.rPub.bytes
    let sharedSecretVec ← sm2Kdf sm3 kdfInput 32
    let sharedSecret ← copyFromSlice 32 sharedSecretVec
    let (r1, r2) :=
      if session.isInitiator then (session.ephemeral.rPub, peerRPub)
      else (peerInfo.peerRPub, session.ephemeral.rPub)
    let innerHash := computeInnerHash sm3 r1 r2 x y sharedSecret
    .ok (sharedSecret, sm3Octets sm3 (session.userId.bytes ++ innerHash.bytes))

def computeConfirmationValue (session : KexSession F P) (x y sharedSecret : Octets 32) :
    Except CryptoError (Octets 32) :=
  match session.peerInfo with
  | none => .error (.sm2KexError "missing peer info")
  | some peerInfo =>
    let (r1, r2) :=
      if session.isInitiator then (session.ephemeral.rPub, peerInfo.peerRPub)
      else (peerInfo.peerRPub, session.ephemeral.rPub)
    let innerHash := computeInnerHash sm3 r1 r2 x y sharedSecret
    .ok (sm3Octets sm3 (session.userId.bytes ++ innerHash.bytes))

def checkMsg2 (session : KexSession F P) (msg : Sm2KexMessage) :
    Except CryptoError (Octets 64) := do
  rejectIf (¬session.isInitiator) (.sm2KexError "not an initiator session")
  rejectIf (session.state ≠ .init) (.sm2KexError "invalid state for msg2 processing")
  rejectIf (msg.msgType ≠ 2) (.sm2KexError "expected msg_type=2")
  match msg.signature with
  | none => .error (.sm2KexError "missing signature")
  | some signature => do
    validateEphemeralPublicKey sm2 msg.rPub
    .ok signature

def acceptMsg2 (session : KexSession F P) (msg : Sm2KexMessage) (signature : Octets 64)
    (peerPublicKey : P) :
    Except CryptoError Sm2KexResult := do
  (sm2.verifyingKeyFromSec1Bytes defaultUserId (sm2.encode peerPublicKey)).mapError
    fun e ↦ .sm2KexError ("verifying key error: " ++ e)
  (sm2.signatureFromBytes signature.bytes).mapError fun e ↦
    .sm2KexError ("signature parse error: " ++ e)
  (sm2.verify (sm2.encode peerPublicKey) defaultUserId
    (signedData session.userId msg.senderId session.ephemeral.rPub msg.rPub)
    signature.bytes).mapError
      fun _ ↦ .sm2KexError "signature verification failed"
  let (sharedSecret, s1) ← session.computeSharedSecretAndConfirmation sm2 sm3 msg.rPub
  let sessionKey ← deriveSessionKey sm3 sharedSecret
  .ok ⟨sharedSecret, sessionKey, s1⟩

def processMsg2 (session : KexSession F P) (msg : Sm2KexMessage) (peerPublicKey : P) :
    Except CryptoError Sm2KexMessage × KexSession F P :=
  match checkMsg2 sm2 session msg with
  | .error error => (.error error, session)
  | .ok signature =>
    let session := session.withPeer msg peerPublicKey
    match acceptMsg2 sm2 sm3 session msg signature peerPublicKey with
    | .error error => (.error error, session)
    | .ok result =>
      (.ok (.newConfirmation session.userId result.s),
        { session with state := .completed, result := some result })

def checkConfirmation (msg : Sm2KexMessage) (saExpected : Octets 32) : Except CryptoError Unit :=
  match msg.confirmation with
  | none => .error (.sm2KexError "missing confirmation")
  | some sa => rejectIf (sa ≠ saExpected) (.sm2KexError "confirmation value mismatch")

def acceptMsg3 (session : KexSession F P) (msg : Sm2KexMessage) :
    Except CryptoError Sm2KexResult := do
  rejectIf session.isInitiator (.sm2KexError "not a responder session")
  rejectIf (session.state ≠ .waitForConfirmation) (.sm2KexError "invalid state for msg3 processing")
  rejectIf (msg.msgType ≠ 3) (.sm2KexError "expected msg_type=3")
  match session.peerInfo with
  | none => .error (.sm2KexError "missing peer info")
  | some peerInfo => do
    let r1Point ← parseUncompressedPoint sm2 peerInfo.peerRPub
    let selfSecret ← (sm2.secretKeyFromBytes session.ephemeral.r.bytes).mapError
      fun e ↦ .sm2KexError ("invalid ephemeral private key: " ++ e)
    let (x, y) ← kexPointXyBytes sm2 (selfSecret • r1Point)
    let kdfInput := x.bytes ++ y.bytes ++ (peerInfo.userId.bytes ++ session.userId.bytes ++
      peerInfo.peerRPub.bytes ++ session.ephemeral.rPub.bytes)
    let sharedSecretVec ← sm2Kdf sm3 kdfInput 32
    let sharedSecret ← copyFromSlice 32 sharedSecretVec
    let s2 ← session.computeConfirmationValue sm3 x y sharedSecret
    let innerHash := sm3Octets sm3 (peerInfo.peerRPub.bytes ++ session.ephemeral.rPub.bytes ++
      x.bytes ++
      y.bytes ++ sharedSecret.bytes)
    checkConfirmation msg (sm3Octets sm3 (peerInfo.userId.bytes ++ innerHash.bytes))
    let sessionKey ← deriveSessionKey sm3 sharedSecret
    .ok ⟨sharedSecret, sessionKey, s2⟩

def processMsg3 (session : KexSession F P) (msg : Sm2KexMessage) :
    Except CryptoError Unit × KexSession F P :=
  match acceptMsg3 sm2 sm3 session msg with
  | .error error => (.error error, session)
  | .ok result => (.ok (), { session with state := .completed, result := some result })

def exchange (a b : KexSession F P) (keyA keyB : P) :
    Except CryptoError (KexSession F P × KexSession F P) := do
  let msg1 ← a.generateMsg1
  let msg2 ← (b.processMsg1 sm2 msg1 keyA).1
  let msg3 ← (a.processMsg2 sm2 sm3 msg2 keyB).1
  ((b.processMsg1 sm2 msg1 keyA).2.processMsg3 sm2 sm3 msg3).1
  .ok ((a.processMsg2 sm2 sm3 msg2 keyB).2,
    ((b.processMsg1 sm2 msg1 keyA).2.processMsg3 sm2 sm3 msg3).2)

end KexSession

end Exchange

/-! ### Agreement -/

@[simp] lemma copyFromSlice_bytes {n : ℕ} (octets : Octets n) :
    copyFromSlice n octets.bytes = .ok octets :=
  dif_pos octets.length_bytes

lemma exists_sm2Kdf (sm3 : Sm3Library) (z : Bytes) : ∃ key :
    Octets 32, sm2Kdf sm3 z 32 = .ok key.bytes := by
  have hround (ct : UInt32) (_ : 0 < ct.toNat) (hlimit : ct.toNat < 2 ^ 32 - 1) : ∃ block next,
      sm2KdfRound sm3 z ct = .ok (block, next) ∧ block.length = 32 ∧ next.toNat = ct.toNat + 1 := by
    have hlast : ct ≠ 0xFFFFFFFF := by
      rintro rfl
      exact absurd hlimit (by decide)
    refine ⟨_, ct + 1, by rw [sm2KdfRound, rejectIf_bind hlast], sm3.length_hash _, ?_⟩
    rw [UInt32.toNat_add, show (1 : UInt32).toNat = 1 from rfl, Nat.mod_eq_of_lt (by omega)]
  have hempty : ([] : Bytes).length ≤ 32 := by decide
  obtain ⟨derived, hderived, hlen⟩ :=
    exists_keyLoop hround hempty (show 32 ≤ ([] : Bytes).length + 32 from le_rfl)
    (show 0 < (1 : UInt32).toNat by decide) (by decide)
  refine ⟨⟨derived, hlen⟩, ?_⟩
  exact hderived

lemma exists_deriveSessionKey (sm3 : Sm3Library) (sharedSecret : Octets 32) :
    ∃ sessionKey, deriveSessionKey sm3 sharedSecret = .ok sessionKey := by
  obtain ⟨key, hkey⟩ := exists_sm2Kdf sm3 (sharedSecret.bytes ++ sessionKeyLabel)
  exact ⟨key, by rw [deriveSessionKey, hkey, ok_bind, copyFromSlice_bytes]⟩

/-- A session nothing has been done with. -/
structure KexSession.Fresh {F P : Type} (session : KexSession F P) (isInitiator : Bool) : Prop where
  role : session.isInitiator = isInitiator
  state : session.state = .init
  result : session.result = none

variable {F P : Type}

lemma KexSession.generateMsg1_fresh {a : KexSession F P} (ha : a.Fresh true) :
    a.generateMsg1 = .ok (.newInitiator a.userId a.ephemeral.rPub) := by
  rw [KexSession.generateMsg1, rejectIf_bind (by simp [ha.role]), rejectIf_ne_bind ha.state]

section Agreement

variable {F P : Type} [Field F] [AddCommGroup P] [Module F P] {sm2 : Sm2Curve F P}

/-- The key pair of a nonzero scalar. -/
structure EphemeralKeyPair.Honest (sm2 : Sm2Curve F P) (pair : EphemeralKeyPair) (secret : F) :
    Prop where
  ne_zero : secret ≠ 0
  r : pair.r.bytes = sm2.scalarToBytes secret
  rPub : 0x04 :: pair.rPub.bytes = sm2.encode (secret • sm2.generator)

lemma Sm2Curve.not_malformed {point : P} (hpoint : point ≠ 0) :
    ¬((sm2.encode point).length ≠ 65 ∨ (sm2.encode point).head? ≠ some 0x04) := by
  rintro (hlen | hhead)
  · exact hlen (sm2.length_encode point hpoint)
  · exact hhead (sm2.head_encode point hpoint)

variable {secret : F}

lemma EphemeralKeyPair.exists_generate (hfree : sm2.GeneratorFree) (hsec : secret ≠ 0) :
    ∃ pair, EphemeralKeyPair.generate sm2 secret = .ok pair ∧ pair.Honest sm2 secret := by
  have hpoint := smul_generator_ne_zero hfree hsec
  obtain ⟨x, y, henc, hx, hy⟩ := sm2.exists_encode_eq hpoint
  have hlen : (x ++ y).length = 64 := by rw [length_append, hx, hy]
  have hbytes : pointToUncompressedBytes sm2 (secret • sm2.generator) = .ok ⟨x ++ y, hlen⟩ := by
    rw [pointToUncompressedBytes, rejectIf_bind (not_malformed hpoint), henc]
    exact dif_pos hlen
  refine ⟨_, by rw [EphemeralKeyPair.generate, hbytes, ok_bind], hsec, rfl, henc.symm⟩

variable {pair : EphemeralKeyPair}

lemma EphemeralKeyPair.Honest.secretKeyFromBytes
    (hpair : pair.Honest sm2 secret) : sm2.secretKeyFromBytes pair.r.bytes = .ok secret := by
  rw [hpair.r, sm2.secretKeyFromBytes_scalarToBytes secret hpair.ne_zero]

lemma EphemeralKeyPair.Honest.parseUncompressedPoint (hpair : pair.Honest sm2 secret) :
    Crypto.parseUncompressedPoint sm2 pair.rPub = .ok (secret • sm2.generator) := by
  rw [Crypto.parseUncompressedPoint, hpair.rPub, sm2.encodedPointFromBytes_encode,
    sm2.decode_encode]
  rfl

lemma exists_kexPointXyBytes (sm2 : Sm2Curve F P) {point : P} (hpoint : point ≠ 0) :
    ∃ x y, kexPointXyBytes sm2 point = .ok (x, y) := by
  obtain ⟨x, y, henc, hx, hy⟩ := sm2.exists_encode_eq hpoint
  have htake : (sm2.encode point).drop 1 = x ++ y := by rw [henc, drop_succ_cons, drop_zero]
  have hdrop : (sm2.encode point).drop (1 + 32) = y := by rw [← drop_drop, htake, ← hx, drop_left]
  have hfront : (x ++ y).take 32 = x := by rw [← hx, take_left]
  refine ⟨⟨x, hx⟩, ⟨y, hy⟩, ?_⟩
  rw [kexPointXyBytes, rejectIf_bind (not_malformed hpoint), htake, hdrop, hfront,
    show copyFromSlice 32 x = .ok ⟨x, hx⟩ from dif_pos hx, ok_bind,
    show copyFromSlice 32 y = .ok ⟨y, hy⟩ from dif_pos hy, ok_bind]

variable (session : KexSession F P) {key : Octets 32} {sm3 : Sm3Library} {peerInfo : PeerInfo P}
  {peerPoint : P}

lemma KexSession.computeSharedSecretAndConfirmation_eq
    (hpeer : session.peerInfo = some peerInfo) (hrole : session.isInitiator = true)
    {peerRPub : Octets 64} (hpoint : parseUncompressedPoint sm2 peerRPub = .ok peerPoint)
    (hsec : sm2.secretKeyFromBytes session.ephemeral.r.bytes = .ok secret) {x y : Octets 32}
    (hxy : kexPointXyBytes sm2 (secret • peerPoint) = .ok (x, y))
    (hkdf : sm2Kdf sm3 (x.bytes ++ y.bytes ++ (session.userId.bytes ++ peerInfo.userId.bytes ++
      session.ephemeral.rPub.bytes ++ peerRPub.bytes)) 32 = .ok key.bytes) :
    session.computeSharedSecretAndConfirmation sm2 sm3 peerRPub =
    .ok (key, sm3Octets sm3 (session.userId.bytes ++
        (computeInnerHash sm3 session.ephemeral.rPub peerRPub x y key).bytes)) := by
  rw [KexSession.computeSharedSecretAndConfirmation, hpeer]
  dsimp only
  rw [hpoint, ok_bind, hsec]
  dsimp only [Except.mapError]
  rw [ok_bind, hxy, ok_bind]
  rw [if_pos hrole, hkdf, ok_bind, copyFromSlice_bytes, ok_bind, if_pos hrole]

lemma KexSession.acceptMsg3_eq (hrole : session.isInitiator = false)
    (hstate : session.state = .waitForConfirmation)
    (hpeer : session.peerInfo = some peerInfo)
    (hpoint : parseUncompressedPoint sm2 peerInfo.peerRPub = .ok peerPoint)
    (hsec : sm2.secretKeyFromBytes session.ephemeral.r.bytes = .ok secret)
    {x y sessionKey : Octets 32}
    (hxy : kexPointXyBytes sm2 (secret • peerPoint) = .ok (x, y))
    (hkdf : sm2Kdf sm3 (x.bytes ++ y.bytes ++ (peerInfo.userId.bytes ++ session.userId.bytes ++
      peerInfo.peerRPub.bytes ++ session.ephemeral.rPub.bytes)) 32 = .ok key.bytes)
    (hsess : deriveSessionKey sm3 key = .ok sessionKey) (senderId : Octets 16) :
    session.acceptMsg3 sm2 sm3 (.newConfirmation senderId (sm3Octets sm3 (peerInfo.userId.bytes ++
        (computeInnerHash sm3 peerInfo.peerRPub session.ephemeral.rPub x y key).bytes))) =
      .ok ⟨key, sessionKey, sm3Octets sm3 (session.userId.bytes ++
        (computeInnerHash sm3 peerInfo.peerRPub session.ephemeral.rPub x y key).bytes)⟩ := by
  have hconfirmation : session.computeConfirmationValue sm3 x y key =
    .ok (sm3Octets sm3 (session.userId.bytes ++
      (computeInnerHash sm3 peerInfo.peerRPub session.ephemeral.rPub x y key).bytes)) := by
    rw [KexSession.computeConfirmationValue, hpeer]
    dsimp only
    rw [if_neg (by rw [hrole]; simp)]
  have hmatch :
    KexSession.checkConfirmation (.newConfirmation senderId (sm3Octets sm3 (peerInfo.userId.bytes ++
      (computeInnerHash sm3 peerInfo.peerRPub session.ephemeral.rPub x y key).bytes)))
      (sm3Octets sm3 (peerInfo.userId.bytes ++ (sm3Octets sm3 (peerInfo.peerRPub.bytes ++
        session.ephemeral.rPub.bytes ++ x.bytes ++ y.bytes ++ key.bytes)).bytes)) = .ok () :=
    rejectIf_neg (not_not.mpr rfl) _
  rw [KexSession.acceptMsg3, rejectIf_bind (by rw [hrole]; simp), rejectIf_ne_bind hstate,
    rejectIf_bind (by simp [Sm2KexMessage.newConfirmation]), hpeer]
  dsimp only
  rw [hpoint, ok_bind, hsec]
  dsimp only [Except.mapError]
  rw [ok_bind, hxy, ok_bind]
  rw [hkdf, ok_bind, copyFromSlice_bytes, ok_bind, hconfirmation, ok_bind, hmatch,
    ok_bind, hsess, ok_bind]

variable {peerPublicKey : P}

lemma KexSession.acceptMsg2_eq (msg : Sm2KexMessage) (signature : Octets 64)
    (hacc : sm2.Accepts (sm2.encode peerPublicKey) defaultUserId
      (KexSession.signedData session.userId msg.senderId session.ephemeral.rPub msg.rPub)
      signature.bytes)
    {sessionKey s1 : Octets 32}
    (hcompute : session.computeSharedSecretAndConfirmation sm2 sm3 msg.rPub = .ok (key, s1))
    (hsess : deriveSessionKey sm3 key = .ok sessionKey) :
    KexSession.acceptMsg2 sm2 sm3 session msg signature peerPublicKey =
    .ok ⟨key, sessionKey, s1⟩ := by
  rw [KexSession.acceptMsg2, hacc.key, hacc.format, hacc.equation, hcompute]
  dsimp only [Except.mapError]
  rw [ok_bind, ok_bind, ok_bind, ok_bind]
  rw [hsess, ok_bind]

variable {result : Sm2KexResult}

lemma KexSession.processMsg3_eq {session : KexSession F P} {msg : Sm2KexMessage}
    (haccept : session.acceptMsg3 sm2 sm3 msg = .ok result) :
    session.processMsg3 sm2 sm3 msg =
    (.ok (), { session with state := .completed, result := some result }) := by
  rw [KexSession.processMsg3, haccept]

variable [DecidableEq P]

lemma EphemeralKeyPair.Honest.validate (hfree : sm2.GeneratorFree)
    (hpair : pair.Honest sm2 secret) : validateEphemeralPublicKey sm2 pair.rPub = .ok () := by
  have hpoint := smul_generator_ne_zero hfree hpair.ne_zero
  rw [validateEphemeralPublicKey, hpair.rPub, sm2.encodedPointFromBytes_encode]
  dsimp only [Except.mapError]
  rw [ok_bind, rejectIf_ne_bind (sm2.length_encode _ hpoint), sm2.decode_encode]
  exact rejectIf_neg hpoint _

namespace KexSession

variable {b : KexSession F P} {signature : Octets 64}

lemma processMsg1_fresh (hb : b.Fresh false)
    (hsignable : sm2.signingKeyNew defaultUserId b.privateKey = .ok ()) (msg : Sm2KexMessage)
    (htype : msg.msgType = 1)
    (hvalid : validateEphemeralPublicKey sm2 msg.rPub = .ok ())
    (hsig : signature.bytes = sm2.sign b.privateKey defaultUserId
      (signedData msg.senderId b.userId msg.rPub b.ephemeral.rPub)) (peerPublicKey : P) :
    processMsg1 sm2 b msg peerPublicKey = (.ok (.newResponder b.userId b.ephemeral.rPub signature),
      { b.withPeer msg peerPublicKey with state := .waitForConfirmation }) := by
  have hcheck : checkMsg1 sm2 b msg = .ok () := by
    rw [checkMsg1, rejectIf_bind (by simp [hb.role]), rejectIf_ne_bind hb.state,
      rejectIf_ne_bind htype, hvalid]
  have hreply : signReply sm2 (b.withPeer msg peerPublicKey) msg =
      .ok (.newResponder b.userId b.ephemeral.rPub signature) := by
    rw [signReply, withPeer, hsignable, show signature = ⟨_, sm2.length_sign _ _ _⟩
      from Octets.ext hsig]
    rfl
  rw [processMsg1, hcheck]
  dsimp only
  rw [hreply]

variable {a : KexSession F P}

lemma processMsg2_fresh {sm3 : Sm3Library} (ha : a.Fresh true) (msg : Sm2KexMessage)
    (htype : msg.msgType = 2) (hsig : msg.signature = some signature)
    (hvalid : validateEphemeralPublicKey sm2 msg.rPub = .ok ())
    (haccept : acceptMsg2 sm2 sm3 (a.withPeer msg peerPublicKey) msg signature peerPublicKey =
    .ok result) :
    processMsg2 sm2 sm3 a msg peerPublicKey = (.ok (.newConfirmation a.userId result.s),
        { a.withPeer msg peerPublicKey with state := .completed, result := some result }) := by
  have hcheck : checkMsg2 sm2 a msg = .ok signature := by
    rw [checkMsg2, rejectIf_bind (by simp [ha.role]), rejectIf_ne_bind ha.state,
      rejectIf_ne_bind htype, hsig]
    dsimp only
    rw [hvalid, ok_bind]
  rw [processMsg2, hcheck]
  dsimp only
  rw [haccept]
  rfl

lemma exchange_eq_ok {sm3 : Sm3Library} {a' waiting b' : KexSession F P} {keyA keyB : P}
    {msg1 msg2 msg3 : Sm2KexMessage} (hmsg1 : a.generateMsg1 = .ok msg1)
    (hmsg2 : processMsg1 sm2 b msg1 keyA = (.ok msg2, waiting))
    (hmsg3 : processMsg2 sm2 sm3 a msg2 keyB = (.ok msg3, a'))
    (hdone : processMsg3 sm2 sm3 waiting msg3 = (.ok (), b')) :
    exchange sm2 sm3 a b keyA keyB = .ok (a', b') := by
  rw [exchange, hmsg1, ok_bind, hmsg2]
  rw [ok_bind, hmsg3]
  rw [ok_bind, hdone]
  rfl

lemma exists_exchange (sm3 : Sm3Library) (hfree : sm2.GeneratorFree) (hsigns : sm2.SignaturesVerify)
    (ha : a.Fresh true) (hb : b.Fresh false) {secretA secretB : F}
    (hpairA : a.ephemeral.Honest sm2 secretA) (hpairB : b.ephemeral.Honest sm2 secretB)
    (hkey : b.privateKey ≠ 0) (hsignable : sm2.signingKeyNew defaultUserId b.privateKey = .ok ())
    (keyA : P) :
    ∃ a' b' resultA resultB, exchange sm2 sm3 a b keyA (b.privateKey • sm2.generator) =
    .ok (a', b') ∧
      a'.state = .completed ∧ b'.state = .completed ∧ a'.result = some resultA ∧
      b'.result = some resultB ∧
        resultA.sharedSecret = resultB.sharedSecret ∧ resultA.sessionKey = resultB.sessionKey := by
  have hcommon : secretA • secretB • sm2.generator ≠ 0 := by
    rw [smul_smul]
    exact smul_generator_ne_zero hfree (mul_ne_zero hpairA.ne_zero hpairB.ne_zero)
  obtain ⟨x, y, hxy⟩ := exists_kexPointXyBytes sm2 hcommon
  obtain ⟨key, hkdf⟩ :=
    exists_sm2Kdf sm3 (x.bytes ++ y.bytes ++ (a.userId.bytes ++ b.userId.bytes ++
    a.ephemeral.rPub.bytes ++ b.ephemeral.rPub.bytes))
  obtain ⟨sessionKey, hsess⟩ := exists_deriveSessionKey sm3 key
  have hacc := hsigns b.privateKey defaultUserId
    (signedData a.userId b.userId a.ephemeral.rPub b.ephemeral.rPub) hkey hsignable
  obtain ⟨signature, hsig⟩ : ∃ signature : Octets 64, signature.bytes =
    sm2.sign b.privateKey defaultUserId
    (signedData a.userId b.userId a.ephemeral.rPub b.ephemeral.rPub) := ⟨⟨_, hacc.length⟩, rfl⟩
  rw [← hsig] at hacc
  -- the three messages, in turn
  have hmsg1 := generateMsg1_fresh ha
  have hmsg2 := processMsg1_fresh hb hsignable (.newInitiator a.userId a.ephemeral.rPub) rfl
    (hpairA.validate hfree) hsig keyA
  have hcompute := computeSharedSecretAndConfirmation_eq
    (a.withPeer (.newResponder b.userId b.ephemeral.rPub
    signature) (b.privateKey • sm2.generator)) rfl ha.role hpairB.parseUncompressedPoint
      hpairA.secretKeyFromBytes
    hxy hkdf
  have haccept := acceptMsg2_eq (a.withPeer (.newResponder b.userId b.ephemeral.rPub signature)
    (b.privateKey • sm2.generator)) (.newResponder b.userId b.ephemeral.rPub signature)
    signature hacc hcompute
    hsess
  have hmsg3 := processMsg2_fresh ha (.newResponder b.userId b.ephemeral.rPub signature) rfl rfl
    (hpairB.validate hfree) haccept
  rw [smul_comm] at hxy
  have haccept3 := acceptMsg3_eq { b.withPeer (.newInitiator a.userId a.ephemeral.rPub) keyA with
    state := .waitForConfirmation } hb.role rfl rfl hpairA.parseUncompressedPoint
    hpairB.secretKeyFromBytes hxy hkdf
    hsess a.userId
  have hdone := processMsg3_eq haccept3
  exact ⟨_, _, _, _, exchange_eq_ok hmsg1 hmsg2 hmsg3 hdone, rfl, rfl, rfl, rfl, rfl, rfl⟩

end KexSession

end Agreement

/-! ### Calls in any order -/

/-- The calls of a session, by name. -/
inductive KexStep
  | generateMsg1
  | processMsg1
  | processMsg2
  | processMsg3
  deriving DecidableEq

/-- A call, with what it is given. -/
inductive KexCall (P : Type)
  | generateMsg1
  | processMsg1 (msg : Sm2KexMessage) (peerPublicKey : P)
  | processMsg2 (msg : Sm2KexMessage) (peerPublicKey : P)
  | processMsg3 (msg : Sm2KexMessage)

def KexCall.step {P : Type} : KexCall P → KexStep
  | .generateMsg1 => .generateMsg1
  | .processMsg1 _ _ => .processMsg1
  | .processMsg2 _ _ => .processMsg2
  | .processMsg3 _ => .processMsg3

/-- What a successful call does to the state of a session, by its role. -/
inductive KexTurn : Bool → KexState → KexStep → KexState → Prop
  | generate : KexTurn true .init .generateMsg1 .init
  | respond : KexTurn false .init .processMsg1 .waitForConfirmation
  | confirm : KexTurn true .init .processMsg2 .completed
  | finish : KexTurn false .waitForConfirmation .processMsg3 .completed

/-- The states a session reaches, with the calls that succeeded on the way. -/
inductive KexReached (isInitiator : Bool) : List KexStep → KexState → Prop
  | start : KexReached isInitiator [] .init
  | turn {done : List KexStep} {state next : KexState} {step : KexStep}
    (hreached : KexReached isInitiator done state)
      (hturn : KexTurn isInitiator state step next) : KexReached isInitiator (done ++ [step]) next

/-- A call in its turn, given the calls that succeeded before: nothing on an initiator once the
response is accepted, one response on a responder, and one confirmation after it. -/
def InTurn (isInitiator : Bool) (done : List KexStep) : KexStep → Prop
  | .generateMsg1 => isInitiator = true ∧ .processMsg2 ∉ done
  | .processMsg1 => isInitiator = false ∧ .processMsg1 ∉ done
  | .processMsg2 => isInitiator = true ∧ .processMsg2 ∉ done
  | .processMsg3 => isInitiator = false ∧ .processMsg1 ∈ done ∧ .processMsg3 ∉ done

/-- What the state of a session says about the calls that succeeded. -/
def StateRecords (isInitiator : Bool) (done : List KexStep) : KexState → Prop
  | .init => (isInitiator = true → .processMsg2 ∉ done) ∧
      (isInitiator = false → .processMsg1 ∉ done ∧ .processMsg3 ∉ done)
  | .waitForConfirmation => isInitiator = false ∧ .processMsg1 ∈ done ∧ .processMsg3 ∉ done
  | _ => True

variable {done : List KexStep} {isInitiator : Bool}

lemma KexReached.records {state : KexState}
    (hreach : KexReached isInitiator done state) : StateRecords isInitiator done state := by
  induction hreach with
  | start => simp [StateRecords]
  | turn _ hturn ih =>
    cases hturn with
    | generate => simpa [StateRecords] using ih
    | respond =>
      have hbefore := ih.2 rfl
      simp [StateRecords, hbefore.2]
    | confirm => trivial
    | finish => trivial

lemma KexTurn.inTurn {state next : KexState} {step : KexStep}
    (hturn : KexTurn isInitiator state step next) (hreach : KexReached isInitiator done state) :
    InTurn isInitiator done step := by
  have hrecs := hreach.records
  cases hturn with
  | generate => exact ⟨rfl, hrecs.1 rfl⟩
  | respond => exact ⟨rfl, (hrecs.2 rfl).1⟩
  | confirm => exact ⟨rfl, hrecs.1 rfl⟩
  | finish => exact hrecs

/-- What one call can do: it fails and changes neither the state nor the result, or it takes its
turn. -/
def KexSession.Outcome {F P α : Type} (session : KexSession F P) (step : KexStep) :
    Except CryptoError α × KexSession F P → Prop
  | (.error _, after) => after.state = session.state ∧ after.result = session.result ∧
      after.isInitiator = session.isInitiator
  | (.ok _, after) => KexTurn session.isInitiator session.state step after.state ∧
      after.isInitiator = session.isInitiator

lemma KexSession.outcome_generateMsg1 (session : KexSession F P) :
    session.Outcome .generateMsg1 (session.generateMsg1, session) := by
  cases hmsg : session.generateMsg1 with
  | error error => exact ⟨rfl, rfl, rfl⟩
  | ok msg =>
    simp only [KexSession.generateMsg1, unit_bind_eq_ok, rejectIf_eq_ok, not_not] at hmsg
    obtain ⟨hrole, hstate, -⟩ := hmsg
    refine ⟨?_, rfl⟩
    rw [hrole, hstate]
    exact .generate

lemma KexSession.Outcome.map {α β : Type} {session : KexSession F P} {step : KexStep}
    {result : Except CryptoError α × KexSession F P} (hout : session.Outcome step result)
    (f : α → β) :
    session.Outcome step (result.map (·.map f) id) := by
  obtain ⟨value | error, after⟩ := result <;> exact hout

section Calls

variable {F P : Type} [CommRing F] [AddCommGroup P] [Module F P] [DecidableEq P]
  (sm2 : Sm2Curve F P) (sm3 : Sm3Library)

namespace KexSession

def call (session : KexSession F P) :
    KexCall P → Except CryptoError (Option Sm2KexMessage) × KexSession F P
  | .generateMsg1 => (session.generateMsg1.map some, session)
  | .processMsg1 msg peerPublicKey => (session.processMsg1 sm2 msg peerPublicKey).map
    (·.map some) id
  | .processMsg2 msg peerPublicKey => (session.processMsg2 sm2 sm3 msg peerPublicKey).map
    (·.map some) id
  | .processMsg3 msg => (session.processMsg3 sm2 sm3 msg).map (·.map fun _ ↦ none) id

variable (session : KexSession F P)

lemma outcome_processMsg1 (msg : Sm2KexMessage) (peerPublicKey : P) :
    Outcome session .processMsg1 (session.processMsg1 sm2 msg peerPublicKey) := by
  rw [processMsg1]
  cases hcheck : checkMsg1 sm2 session msg with
  | error error => exact ⟨rfl, rfl, rfl⟩
  | ok _ =>
    dsimp only
    cases signReply sm2 (session.withPeer msg peerPublicKey) msg with
    | error error => exact ⟨rfl, rfl, rfl⟩
    | ok reply =>
      simp only [checkMsg1, unit_bind_eq_ok, rejectIf_eq_ok, not_not] at hcheck
      obtain ⟨hrole, hstate, -, -⟩ := hcheck
      refine ⟨?_, rfl⟩
      rw [Bool.not_eq_true] at hrole
      rw [hrole, hstate]
      exact .respond

lemma outcome_processMsg2 (msg : Sm2KexMessage) (peerPublicKey : P) :
    Outcome session .processMsg2 (session.processMsg2 sm2 sm3 msg peerPublicKey) := by
  rw [processMsg2]
  cases hcheck : checkMsg2 sm2 session msg with
  | error error => exact ⟨rfl, rfl, rfl⟩
  | ok signature =>
    dsimp only
    cases acceptMsg2 sm2 sm3 (session.withPeer msg peerPublicKey) msg signature peerPublicKey with
    | error error => exact ⟨rfl, rfl, rfl⟩
    | ok result =>
      simp only [checkMsg2, unit_bind_eq_ok, rejectIf_eq_ok, not_not] at hcheck
      obtain ⟨hrole, hstate, -, -⟩ := hcheck
      refine ⟨?_, rfl⟩
      rw [hrole, hstate]
      exact .confirm

omit [DecidableEq P] in
lemma outcome_processMsg3 (msg : Sm2KexMessage) :
    Outcome session .processMsg3 (session.processMsg3 sm2 sm3 msg) := by
  rw [processMsg3]
  cases haccept : acceptMsg3 sm2 sm3 session msg with
  | error error => exact ⟨rfl, rfl, rfl⟩
  | ok result =>
    simp only [acceptMsg3, unit_bind_eq_ok, rejectIf_eq_ok, not_not] at haccept
    obtain ⟨hrole, hstate, -, -⟩ := haccept
    refine ⟨?_, rfl⟩
    rw [Bool.not_eq_true] at hrole
    rw [hrole, hstate]
    exact .finish

lemma outcome_call (call : KexCall P) : Outcome session call.step (session.call sm2 sm3 call) := by
  cases call with
  | generateMsg1 => exact (outcome_generateMsg1 session).map some
  | processMsg1 msg peerPublicKey =>
    exact (outcome_processMsg1 sm2 session msg peerPublicKey).map some
  | processMsg2 msg peerPublicKey =>
    exact (outcome_processMsg2 sm2 sm3 session msg peerPublicKey).map some
  | processMsg3 msg => exact (outcome_processMsg3 sm2 sm3 session msg).map fun _ ↦ none

def record (history : List KexStep × KexSession F P) (call : KexCall P) :
    List KexStep × KexSession F P :=
  match history.2.call sm2 sm3 call with
  | (.ok _, after) => (history.1 ++ [call.step], after)
  | (.error _, after) => (history.1, after)

def run (session : KexSession F P) (calls : List (KexCall P)) : List KexStep × KexSession F P :=
  calls.foldl (record sm2 sm3) ([], session)

variable {isInitiator : Bool}

lemma reached_record {history : List KexStep × KexSession F P}
    (hrole : history.2.isInitiator = isInitiator)
    (hreach : KexReached isInitiator history.1 history.2.state)
    (call : KexCall P) : (record sm2 sm3 history call).2.isInitiator = isInitiator ∧
      KexReached isInitiator (record sm2 sm3 history call).1
      (record sm2 sm3 history call).2.state := by
  have hout := outcome_call sm2 sm3 history.2 call
  unfold record
  cases hcall : history.2.call sm2 sm3 call with
  | mk result after =>
    rw [hcall] at hout
    cases result with
    | error error =>
      obtain ⟨hstate, -, hsame⟩ := hout
      refine ⟨hsame.trans hrole, ?_⟩
      show KexReached isInitiator history.1 after.state
      rwa [hstate]
    | ok reply =>
      obtain ⟨hturn, hsame⟩ := hout
      rw [hrole] at hturn
      exact ⟨hsame.trans hrole, hreach.turn hturn⟩

variable {session : KexSession F P} (hfresh : session.Fresh isInitiator)

include hfresh

variable (calls : List (KexCall P))

lemma reached_run : (run sm2 sm3 session calls).2.isInitiator = isInitiator ∧
      KexReached isInitiator (run sm2 sm3 session calls).1 (run sm2 sm3 session calls).2.state := by
  induction calls using List.reverseRecOn with
  | nil =>
    refine ⟨hfresh.role, ?_⟩
    show KexReached isInitiator [] session.state
    rw [hfresh.state]
    exact .start
  | append_singleton calls call ih =>
    rw [run, foldl_append]
    exact reached_record sm2 sm3 ih.1 ih.2 call

lemma call_out_of_turn {call : KexCall P}
    (hturn : ¬InTurn isInitiator (run sm2 sm3 session calls).1 call.step) :
    ∃ error, ((run sm2 sm3 session calls).2.call sm2 sm3 call).1 = .error error ∧
      ((run sm2 sm3 session calls).2.call sm2 sm3 call).2.state =
      (run sm2 sm3 session calls).2.state ∧
        ((run sm2 sm3 session calls).2.call sm2 sm3 call).2.result =
        (run sm2 sm3 session calls).2.result := by
  obtain ⟨hrole, hreach⟩ := reached_run sm2 sm3 hfresh calls
  have hout := outcome_call sm2 sm3 (run sm2 sm3 session calls).2 call
  cases hcall : (run sm2 sm3 session calls).2.call sm2 sm3 call with
  | mk result after =>
    rw [hcall] at hout
    cases result with
    | error error => exact ⟨error, rfl, hout.1, hout.2.1⟩
    | ok reply =>
      have htaken := hout.1
      rw [hrole] at htaken
      exact absurd (htaken.inTurn hreach) hturn

end KexSession

end Calls

lemma validateUserId_eq_ok {userId : Bytes} (hsome : userId ≠ []) (hlen : userId.length ≤ 16) :
    ∃ padded, validateUserId userId = .ok padded := by
  rw [validateUserId, rejectIf_bind hsome, dif_pos hlen]
  exact ⟨_, rfl⟩

lemma tinyCurve_signaturesVerify : tinyCurve.SignaturesVerify := by
  intro secret distid data hsec _
  refine ⟨rfl, length_replicate, rfl, if_pos ?_⟩
  have hpoint : secret • tinyCurve.generator = secret := mul_one secret
  rw [hpoint]
  show List.replicate 64 (tinyOctet secret) =
    (if secret = 0 then [0] else 0x04 :: List.replicate 64 (tinyOctet secret)).drop 1
  rw [if_neg hsec, drop_succ_cons, drop_zero]

section Results

variable {F P : Type} [Field F] [AddCommGroup P] [Module F P] [DecidableEq P] {sm2 : Sm2Curve F P}

/-- Honest sides end the exchange with one secret, and any call out of turn fails and changes
nothing. -/
theorem exchange_agreement (sm3 : Sm3Library) (hfree : sm2.GeneratorFree)
    (hsigns : sm2.SignaturesVerify)
    (hsignable : ∀ secret : F, secret ≠ 0 → sm2.signingKeyNew defaultUserId secret = .ok ())
    (keyA : Sm2KeyPair F) {keyB : Sm2KeyPair F} (hkeyB : keyB.privateKey ≠ 0) {idA idB : Bytes}
    (hsomeA : idA ≠ []) (hlengthA : idA.length ≤ 16) (hsomeB : idB ≠ [])
    (hlengthB : idB.length ≤ 16)
    {secretA secretB : F} (hsecretA : secretA ≠ 0) (hsecretB : secretB ≠ 0) :
    ∃ a b : KexSession F P, KexSession.newInitiator sm2 keyA idA secretA = .ok a ∧
      KexSession.newResponder sm2 keyB idB secretB = .ok b ∧ (∃ a' b' resultA resultB,
        KexSession.exchange sm2 sm3 a b (keyA.privateKey • sm2.generator)
        (keyB.privateKey • sm2.generator) =
            .ok (a', b') ∧ a'.state = .completed ∧ b'.state = .completed ∧
            a'.result = some resultA ∧
          b'.result = some resultB ∧ resultA.sharedSecret = resultB.sharedSecret ∧
          resultA.sessionKey = resultB.sessionKey) ∧
      ∀ session ∈ [a, b], ∀ (calls : List (KexCall P)) (call : KexCall P),
        ¬InTurn session.isInitiator (session.run sm2 sm3 calls).1 call.step →
          ∃ error, ((session.run sm2 sm3 calls).2.call sm2 sm3 call).1 = .error error ∧
            ((session.run sm2 sm3 calls).2.call sm2 sm3 call).2.state =
            (session.run sm2 sm3 calls).2.state ∧
              ((session.run sm2 sm3 calls).2.call sm2 sm3 call).2.result =
              (session.run sm2 sm3 calls).2.result := by
  obtain ⟨paddedA, hidA⟩ := validateUserId_eq_ok hsomeA hlengthA
  obtain ⟨paddedB, hidB⟩ := validateUserId_eq_ok hsomeB hlengthB
  obtain ⟨pairA, hpairA, hhonestA⟩ := EphemeralKeyPair.exists_generate hfree hsecretA
  obtain ⟨pairB, hpairB, hhonestB⟩ := EphemeralKeyPair.exists_generate hfree hsecretB
  have hfreshA : KexSession.Fresh (P := P) ⟨keyA.privateKey, paddedA, pairA, .init, none,
    none, true⟩ true :=
    ⟨rfl, rfl, rfl⟩
  have hfreshB : KexSession.Fresh (P := P) ⟨keyB.privateKey, paddedB, pairB, .init, none,
    none, false⟩ false :=
    ⟨rfl, rfl, rfl⟩
  refine ⟨_, _, by rw [KexSession.newInitiator, hidA, ok_bind, hpairA, ok_bind],
    by rw [KexSession.newResponder, hidB, ok_bind, hpairB, ok_bind], ?_, ?_⟩
  · exact KexSession.exists_exchange sm3 hfree hsigns hfreshA hfreshB hhonestA hhonestB hkeyB
      (hsignable _ hkeyB) _
  simp only [forall_mem_cons]
  exact ⟨fun calls call hturn ↦ KexSession.call_out_of_turn sm2 sm3 hfreshA calls hturn,
    fun calls call hturn ↦ KexSession.call_out_of_turn sm2 sm3 hfreshB calls hturn, by simp⟩

theorem tiny_exchange_agreement : ∃ a b : KexSession (ZMod 3) (ZMod 3),
    KexSession.newInitiator tinyCurve.toSm2Curve ⟨1, defaultUserId⟩ [0x61] 1 = .ok a ∧
      KexSession.newResponder tinyCurve.toSm2Curve ⟨2, defaultUserId⟩ [0x62] 2 = .ok b ∧
        ∃ a' b', KexSession.exchange tinyCurve.toSm2Curve tinySm3 a b 1 2 = .ok (a', b') ∧
          a'.state = .completed ∧ b'.state = .completed := by
  obtain ⟨a, b, ha, hb, ⟨a', b', _, _, hexchange, hstateA, hstateB, -⟩, -⟩ :=
    exchange_agreement tinySm3 tinyCurve_generatorFree tinyCurve_signaturesVerify (fun _ _ ↦ rfl)
      ⟨1, defaultUserId⟩
      (show (Sm2KeyPair.mk 2 defaultUserId).privateKey ≠ (0 : ZMod 3) by decide)
        (show [0x61] ≠ [] by decide)
      (by decide) (show [0x62] ≠ [] by decide) (by decide) (show (1 : ZMod 3) ≠ 0 by decide)
      (show (2 : ZMod 3) ≠ 0 by decide)
  exact ⟨a, b, ha, hb, a', b', hexchange, hstateA, hstateB⟩

/-- An initiator that has sent nothing accepts a response; and it gives its first message twice. -/
theorem response_accepted_before_request : (do
      let a : KexSession (ZMod 3) (ZMod 3) ←
        KexSession.newInitiator tinyCurve.toSm2Curve ⟨1, defaultUserId⟩ [0x61] 1
      let b ← KexSession.newResponder tinyCurve.toSm2Curve ⟨2, defaultUserId⟩ [0x62] 2
      let msg2 ← (b.processMsg1 tinyCurve.toSm2Curve (.newInitiator a.userId a.ephemeral.rPub) 1).1
      .ok ((a.run tinyCurve.toSm2Curve tinySm3 [.processMsg2 msg2 2]).1,
        (a.run tinyCurve.toSm2Curve tinySm3 [.generateMsg1, .generateMsg1]).1)) =
      (.ok ([.processMsg2], [.generateMsg1, .generateMsg1]) :
        Except CryptoError (List KexStep × List KexStep)) := by
  decide

/-- Someone who speaks in another's name. What they send is made from public keys, the claimed one
and the victim's, and from what the victim has sent. -/
structure Impostor (P : Type) where
  msg1 : P → P → Sm2KexMessage
  msg2 : P → P → Sm2KexMessage → Sm2KexMessage
  msg3 : P → P → Sm2KexMessage → Sm2KexMessage

/-- The victim ends in `Completed`, with an impostor in place of the peer whose key it was given. -/
def KexSession.Deceived (sm2 : Sm2Curve F P) (sm3 : Sm3Library) (victim : KexSession F P)
    (impostor : Impostor P)
    (claimed : P) : Prop :=
  let own := victim.privateKey • sm2.generator
  if victim.isInitiator then
    ∃ msg1 msg3 after, victim.generateMsg1 = .ok msg1 ∧
      victim.processMsg2 sm2 sm3 (impostor.msg2 claimed own msg1) claimed = (.ok msg3, after) ∧
      after.state = .completed
  else
    ∃ msg2 waiting after, victim.processMsg1 sm2 (impostor.msg1 claimed own) claimed =
      (.ok msg2, waiting) ∧
      waiting.processMsg3 sm2 sm3 (impostor.msg3 claimed own msg2) = (.ok (), after) ∧
        after.state = .completed

/-- No impostor of a class, of those who do not know the private key of the claimed peer, deceives
the victim. -/
def KexSession.Resists (sm2 : Sm2Curve F P) (sm3 : Sm3Library) (victim : KexSession F P)
    (able : Set (Impostor P))
    (claimed : P) : Prop :=
  ∀ impostor ∈ able, ¬victim.Deceived sm2 sm3 impostor claimed

/-- No impostor of the class makes a signature that verifies under the claimed key. -/
def Unforgeable (sm2 : Sm2Curve F P) (able : Set (Impostor P)) (claimed : P) : Prop :=
  ∀ impostor ∈ able, ∀ (own : P) (idA : Octets 16) (r1 : Octets 64),
    let msg2 := impostor.msg2 claimed own (.newInitiator idA r1)
    ∀ signature, msg2.signature = some signature → ¬sm2.Accepts (sm2.encode claimed) defaultUserId
      (KexSession.signedData idA msg2.senderId r1 msg2.rPub) signature.bytes

def keylessSession (F P : Type) [Zero F] (userId : Octets 16) (ephemeral : EphemeralKeyPair) :
    KexSession F P :=
  ⟨0, userId, ephemeral, .init, none, none, true⟩

def selfMade (sm2 : Sm2Curve F P) (sm3 : Sm3Library) (userId : Octets 16)
    (ephemeral : EphemeralKeyPair) : Impostor P where
  msg1 := fun _ _ ↦ .newInitiator userId ephemeral.rPub
  msg2 := fun _ _ msg1 ↦ msg1
  msg3 := fun _ own msg2 ↦
    match ((keylessSession F P userId ephemeral).processMsg2 sm2 sm3 msg2 own).1 with
    | .ok msg3 => msg3
    | .error _ => msg2

lemma KexSession.exists_of_exchange_eq_ok {sm3 : Sm3Library} {a b a' b' : KexSession F P}
    {keyA keyB : P}
    (hexch : exchange sm2 sm3 a b keyA keyB = .ok (a', b')) :
    ∃ msg1 msg2 msg3 waiting, a.generateMsg1 = .ok msg1 ∧ processMsg1 sm2 b msg1 keyA =
    (.ok msg2, waiting) ∧
      processMsg2 sm2 sm3 a msg2 keyB = (.ok msg3, a') ∧ processMsg3 sm2 sm3 waiting msg3 =
      (.ok (), b') := by
  obtain ⟨msg1, hmsg1, hexch⟩ := bind_eq_ok.mp hexch
  obtain ⟨msg2, hmsg2, hexch⟩ := bind_eq_ok.mp hexch
  obtain ⟨msg3, hmsg3, hexch⟩ := bind_eq_ok.mp hexch
  obtain ⟨hdone, hends⟩ := unit_bind_eq_ok.mp hexch
  obtain ⟨rfl, rfl⟩ := Prod.mk.inj (Except.ok.inj hends)
  exact ⟨msg1, msg2, msg3, _, hmsg1, Prod.ext hmsg2 rfl, Prod.ext hmsg3 rfl, Prod.ext hdone rfl⟩

lemma selfMade_deceives (sm3 : Sm3Library) (hfree : sm2.GeneratorFree)
    (hsigns : sm2.SignaturesVerify)
    {victim : KexSession F P} (hvictim : victim.Fresh false) {secret : F}
    (hpair : victim.ephemeral.Honest sm2 secret) (hkey : victim.privateKey ≠ 0)
    (hsignable : sm2.signingKeyNew defaultUserId victim.privateKey = .ok ()) (userId : Octets 16)
    {ephemeral : EphemeralKeyPair} {r : F} (heph : ephemeral.Honest sm2 r) (claimed : P) :
    victim.Deceived sm2 sm3 (selfMade sm2 sm3 userId ephemeral) claimed := by
  have hfresh : (keylessSession F P userId ephemeral).Fresh true := ⟨rfl, rfl, rfl⟩
  obtain ⟨a', b', _, _, hexch, -, hstate, -⟩ :=
    KexSession.exists_exchange sm3 hfree hsigns hfresh hvictim
    heph hpair hkey hsignable claimed
  obtain ⟨msg1, msg2, msg3, waiting, hmsg1, hmsg2, hmsg3, hdone⟩ :=
    KexSession.exists_of_exchange_eq_ok hexch
  cases hmsg1
  have hans : (selfMade sm2 sm3 userId ephemeral).msg3 claimed (victim.privateKey • sm2.generator)
      msg2 = msg3 := by
    show (match ((keylessSession F P userId ephemeral).processMsg2 sm2 sm3 msg2
      (victim.privateKey • sm2.generator)).1 with
      | .ok msg3 => msg3
      | .error _ => msg2) = msg3
    rw [hmsg3]
  rw [KexSession.Deceived, if_neg (by simp [hvictim.role])]
  refine ⟨msg2, waiting, b', hmsg2, ?_, hstate⟩
  rw [hans, hdone]

lemma KexSession.accepts_of_processMsg2 {sm3 : Sm3Library} {session after : KexSession F P}
    {msg msg3 : Sm2KexMessage}
    {peerPublicKey : P} (hmsg2 : processMsg2 sm2 sm3 session msg peerPublicKey =
    (.ok msg3, after)) :
    ∃ signature, msg.signature = some signature ∧
    sm2.Accepts (sm2.encode peerPublicKey) defaultUserId
      (signedData session.userId msg.senderId session.ephemeral.rPub msg.rPub) signature.bytes := by
  rw [processMsg2] at hmsg2
  cases hcheck : checkMsg2 sm2 session msg with
  | error error =>
    rw [hcheck] at hmsg2
    cases hmsg2
  | ok signature =>
    rw [hcheck] at hmsg2
    dsimp only at hmsg2
    cases haccept : acceptMsg2 sm2 sm3 (session.withPeer msg peerPublicKey)
      msg signature peerPublicKey with
    | error error =>
      rw [haccept] at hmsg2
      cases hmsg2
    | ok result =>
      have hpresent : msg.signature = some signature := by
        simp only [checkMsg2, unit_bind_eq_ok] at hcheck
        obtain ⟨-, -, -, hcheck⟩ := hcheck
        cases hsig : msg.signature with
        | none =>
          rw [hsig] at hcheck
          cases hcheck
        | some found =>
          rw [hsig] at hcheck
          obtain ⟨-, hfound⟩ := unit_bind_eq_ok.mp hcheck
          rw [Except.ok.inj hfound]
      simp only [acceptMsg2, unit_bind_eq_ok, mapError_eq_ok] at haccept
      obtain ⟨hkey, hformat, hequation, -⟩ := haccept
      exact ⟨signature, hpresent, hkey, signature.length_bytes, hformat, hequation⟩

/-- Whatever key it was given for its peer, a fresh session resists those who cannot sign under that
key if and only if it is an initiator. -/
theorem resists_iff (sm3 : Sm3Library) (hfree : sm2.GeneratorFree) (hsigns : sm2.SignaturesVerify)
    {able : Set (Impostor P)} {userId : Octets 16} {ephemeral : EphemeralKeyPair} {r : F}
    (hephemeral : ephemeral.Honest sm2 r) (hable : selfMade sm2 sm3 userId ephemeral ∈ able)
    {claimed : P}
    (hunforgeable : Unforgeable sm2 able claimed) {victim : KexSession F P} {isInitiator : Bool}
    (hvictim : victim.Fresh isInitiator) {secret : F} (hpair : victim.ephemeral.Honest sm2 secret)
    (hkey : victim.privateKey ≠ 0)
    (hsignable : sm2.signingKeyNew defaultUserId victim.privateKey = .ok ()) :
    victim.Resists sm2 sm3 able claimed ↔ isInitiator = true := by
  cases isInitiator with
  | false =>
    refine iff_of_false (fun hresists ↦ ?_) (by simp)
    exact hresists _ hable (selfMade_deceives sm3 hfree hsigns hvictim hpair hkey hsignable
      userId hephemeral _)
  | true =>
    refine iff_of_true (fun impostor hmem hdeceived ↦ ?_) rfl
    have hforges := hunforgeable impostor hmem (victim.privateKey • sm2.generator)
      victim.userId victim.ephemeral.rPub
    rw [KexSession.Deceived, if_pos hvictim.role] at hdeceived
    obtain ⟨msg1, msg3, after, hmsg1, hmsg2, -⟩ := hdeceived
    rw [KexSession.generateMsg1_fresh hvictim] at hmsg1
    cases hmsg1
    obtain ⟨signature, hsignature, haccepts⟩ := KexSession.accepts_of_processMsg2 hmsg2
    exact hforges signature hsignature haccepts

def tinyEphemeral : EphemeralKeyPair := ⟨.fill 32 1, .fill 64 1⟩

lemma tinyEphemeral_honest : tinyEphemeral.Honest tinyCurve.toSm2Curve 1 := ⟨by decide, rfl, rfl⟩

def tinyResponder : KexSession (ZMod 3) (ZMod 3) :=
    ⟨-1, .fill 16 0x62, tinyEphemeral, .init, none, none, false⟩

theorem tinyResponder_does_not_resist : ¬tinyResponder.Resists tinyCurve.toSm2Curve tinySm3
      {selfMade tinyCurve.toSm2Curve tinySm3 (.fill 16 0x61) tinyEphemeral}
      ((2 : ZMod 3) • tinyCurve.toSm2Curve.generator) := by
  have hunforgeable : Unforgeable tinyCurve.toSm2Curve
      {selfMade tinyCurve.toSm2Curve tinySm3 (.fill 16 0x61) tinyEphemeral}
      ((2 : ZMod 3) • tinyCurve.toSm2Curve.generator) := by
    rintro impostor rfl own idA r1 _ signature hsignature
    cases hsignature
  have hvictim : tinyResponder.Fresh false := ⟨rfl, rfl, rfl⟩
  intro hresists
  have hrole :=
    (resists_iff tinySm3 tinyCurve_generatorFree tinyCurve_signaturesVerify tinyEphemeral_honest
    (Set.mem_singleton _) hunforgeable hvictim tinyEphemeral_honest (by decide) rfl).mp hresists
  cases hrole

/-- A responder that was given the key of the secret two completes with someone who knows the scalar
one only. -/
theorem tinyResponder_deceived : tinyResponder.Deceived tinyCurve.toSm2Curve tinySm3
      (selfMade tinyCurve.toSm2Curve tinySm3 (.fill 16 0x61) tinyEphemeral)
      ((2 : ZMod 3) • tinyCurve.toSm2Curve.generator) :=
  selfMade_deceives tinySm3 tinyCurve_generatorFree tinyCurve_signaturesVerify ⟨rfl, rfl, rfl⟩
    tinyEphemeral_honest
    (by decide) rfl _ tinyEphemeral_honest _

end Results

end GmStack.Crypto
