import GmStack.Crypto.Sm2Keys
import GmStack.Crypto.Symmetric
import Mathlib.Algebra.Field.ZMod

/-! The public key encryption of `gm-crypto/src/sm2.rs`. -/

namespace GmStack.Crypto

open Foundation List

/-- The arithmetic of the `sm2` crate, with the two decoders that the keys and the signatures do not
use. -/
structure Sm2Arithmetic (F P : Type) [CommRing F] [AddCommGroup P]
    [Module F P] extends Sm2Curve F P where
  scalarFromBytes : Bytes → Option F
  publicKeyFromSec1Bytes : Bytes → Except String P
  scalarFromBytes_scalarToBytes : ∀ scalar, scalarFromBytes (scalarToBytes scalar) = some scalar
  publicKeyFromSec1Bytes_encode : ∀ point, point ≠ 0 → publicKeyFromSec1Bytes (encode point) =
    .ok point

def keyLoop (round : UInt32 → Except CryptoError (Bytes × UInt32)) (keyLen : ℕ) :
    ℕ → Bytes → UInt32 → Except CryptoError Bytes
  | 0, key, _ => if key.length < keyLen then .error (.panicked "out of fuel") else .ok key
  | fuel + 1, key, ct =>
    if key.length < keyLen then do
      let (block, next) ← round ct
      keyLoop round keyLen fuel (key ++ block.take (keyLen - key.length)) next
    else .ok key

lemma exists_keyLoop {round : UInt32 → Except CryptoError (Bytes × UInt32)} {limit : ℕ}
    (hround : ∀ ct : UInt32, 0 < ct.toNat → ct.toNat < limit →
      ∃ block next, round ct = .ok (block, next) ∧ block.length = 32 ∧ next.toNat = ct.toNat + 1)
    {keyLen fuel : ℕ} {key : Bytes} {ct : UInt32} (hkey : key.length ≤ keyLen)
    (hfuel : keyLen ≤ key.length + fuel) (hpos : 0 < ct.toNat) (hlimit : ct.toNat + fuel ≤ limit) :
    ∃ derived, keyLoop round keyLen fuel key ct = .ok derived ∧ derived.length = keyLen := by
  induction fuel generalizing key ct with
  | zero => exact ⟨key, if_neg (by omega), by omega⟩
  | succ fuel ih =>
    by_cases hshort : key.length < keyLen
    · obtain ⟨block, next, hok, hblock, hnext⟩ := hround ct hpos (by omega)
      have htaken : (block.take (keyLen - key.length)).length = min (keyLen - key.length) 32 := by
        rw [length_take, hblock]
      have hlonger : (key ++ block.take (keyLen - key.length)).length ≤ keyLen := by
        rw [length_append, htaken]
        omega
      have henough : keyLen ≤ (key ++ block.take (keyLen - key.length)).length + fuel := by
        rw [length_append, htaken]
        omega
      obtain ⟨derived, hderived, hlen⟩ := ih hlonger henough (show 0 < next.toNat by omega)
        (by omega)
      refine ⟨derived, ?_, hlen⟩
      rw [keyLoop, if_pos hshort, hok, ok_bind]
      exact hderived
    · exact ⟨key, by rw [keyLoop, if_neg hshort], by omega⟩

section Kdf

variable (sm3 : Sm3Library)

def kdfSm3 (x y : Bytes) (keyLen : ℕ) : Except CryptoError Bytes :=
  keyLoop (fun ct ↦ do
    rejectIf (ct = 0) (.sm2Error "KDF key length exceeds maximum (128GB)")
    .ok (sm3.hash (x ++ y ++ beOctets 4 ct.toNat), ct + 1)) keyLen keyLen [] 1

def sm3HashConcat (x m y : Bytes) : Bytes := sm3.hash (x ++ m ++ y)

lemma exists_kdfSm3 (x y : Bytes) {keyLen : ℕ} (hlen : keyLen < 2 ^ 32 - 1) :
    ∃ keyStream, kdfSm3 sm3 x y keyLen = .ok keyStream ∧ keyStream.length = keyLen := by
  have hone : (1 : UInt32).toNat + keyLen ≤ 2 ^ 32 - 1 := by
    rw [show (1 : UInt32).toNat = 1 from rfl]
    omega
  refine exists_keyLoop (fun ct hpos hlimit ↦ ?_) (Nat.zero_le _) (by simp) (by decide) hone
  have hnonzero : ct ≠ 0 := by
    rintro rfl
    exact absurd hpos (by decide)
  refine ⟨_, ct + 1, by rw [rejectIf_bind hnonzero], sm3.length_hash _, ?_⟩
  rw [UInt32.toNat_add, show (1 : UInt32).toNat = 1 from rfl, Nat.mod_eq_of_lt (by omega)]

end Kdf

def derOctetStringLen (data : Bytes) : ℕ :=
  if data.length < 128 then 2 + data.length
  else if data.length < 256 then 3 + data.length
  else 4 + data.length

def derEncodeOctetString (data : Bytes) : Bytes := 0x04 :: (derLen data.length ++ data)

def parseDerOctetString (bytes : Bytes) : Except CryptoError (Bytes × ℕ) := do
  rejectIf (bytes.head? ≠ some 0x04) (.sm2Error "expected OCTET STRING tag 0x04")
  let (len, consumed) ← parseDerLength (bytes.drop 1)
  let pos := 1 + consumed
  rejectIf (bytes.length < pos + len) (.sm2Error "OCTET STRING content truncated")
  .ok ((bytes.drop pos).take len, pos + len)

/-- The parts of a ciphertext. -/
structure Sm2CipherParts where
  c1x : Bytes
  c1y : Bytes
  c3 : Bytes
  c2 : Bytes
  deriving DecidableEq

def Sm2CipherParts.raw (parts : Sm2CipherParts) : Bytes :=
  0x04 :: (parts.c1x ++ parts.c1y ++ parts.c3 ++ parts.c2)

def parseSm2CipherDer (der : Bytes) : Except CryptoError Sm2CipherParts := do
  rejectIf (der.head? ≠ some 0x30) (.sm2Error "expected SEQUENCE tag 0x30")
  let (seqLen, consumed) ← parseDerLength (der.drop 1)
  let start := 1 + consumed
  rejectIf (start + seqLen > der.length) (.sm2Error "SEQUENCE length exceeds input")
  let seqEnd := start + seqLen
  let (c1x, xLen) ← parseDerInteger (der.drop start)
  rejectIf (c1x.length ≠ 32) (.sm2Error ("C1x must be 32 bytes, got " ++ toString c1x.length))
  let (c1y, yLen) ← parseDerInteger (der.drop (start + xLen))
  rejectIf (c1y.length ≠ 32) (.sm2Error ("C1y must be 32 bytes, got " ++ toString c1y.length))
  let (c3, hashLen) ← parseDerOctetString (der.drop (start + xLen + yLen))
  let (c2, textLen) ← parseDerOctetString (der.drop (start + xLen + yLen + hashLen))
  rejectIf (start + xLen + yLen + hashLen + textLen ≠ seqEnd)
    (.sm2Error "extra bytes after SM2Cipher SEQUENCE")
  .ok { c1x, c1y, c3, c2 }

def sm2CipherDerToRaw (der : Bytes) : Except CryptoError Bytes := do
  let parts ← parseSm2CipherDer der
  .ok parts.raw

def sm2CipherRawToDer (raw : Bytes) : Except CryptoError Bytes := do
  rejectIf (raw.length < 65 + 32)
    (.sm2Error "raw ciphertext too short: need at least C1(65) + C3(32)")
  rejectIf (raw.head? ≠ some 0x04)
    (.sm2Error "raw ciphertext must start with 0x04 (uncompressed point)")
  let c1x := (raw.drop 1).take 32
  let c1y := (raw.drop 33).take 32
  let c3 := (raw.drop 65).take 32
  let c2 := raw.drop 97
  let contentLen := derIntegerLen c1x + derIntegerLen c1y + derOctetStringLen
    c3 + derOctetStringLen c2
  .ok (0x30 :: (derLen contentLen ++
    (derEncodeInteger c1x ++ derEncodeInteger c1y ++ derEncodeOctetString c3 ++
    derEncodeOctetString c2)))

lemma length_derLen (len : ℕ) :
    (derLen len).length = if len < 0x80 then 1 else if len < 0x100 then 2 else if len <
    0x10000 then 3
      else if len < 0x1000000 then 4 else 5 := by
  unfold derLen
  split_ifs <;> simp

lemma length_derEncodeOctetString (data : Bytes) : (derEncodeOctetString data).length =
    derOctetStringLen data +
      if data.length < 0x10000 then 0 else if data.length < 0x1000000 then 1 else 2 := by
  rw [derEncodeOctetString, length_cons, length_append, length_derLen, derOctetStringLen]
  split_ifs <;> omega

lemma parseDerOctetString_derEncodeOctetString {data : Bytes} (hlen : data.length < 2 ^ 32)
    (rest : Bytes) :
    parseDerOctetString (derEncodeOctetString data ++ rest) =
    .ok (data, (derEncodeOctetString data).length) := by
  have hread := parseDerLength_derLen hlen (data ++ rest)
  have hwrote : derEncodeOctetString data ++ rest = 0x04 ::
      (derLen data.length ++ (data ++ rest)) := by
    rw [derEncodeOctetString, cons_append, append_assoc]
  have hdrop : (0x04 :: (derLen data.length ++ (data ++ rest))).drop
      (1 + (derLen data.length).length) = data ++ rest := by
    rw [Nat.add_comm, drop_succ_cons, drop_left]
  rw [hwrote, parseDerOctetString, rejectIf_bind (by simp), drop_succ_cons,
    drop_zero, hread, ok_bind]
  dsimp only
  rw [rejectIf_bind (by simp only [length_cons, length_append]; omega), hdrop,
    take_left, derEncodeOctetString, length_cons, length_append]
  congr 2
  omega

def Sm2CipherParts.content (parts : Sm2CipherParts) : Bytes :=
  derEncodeInteger parts.c1x ++ derEncodeInteger parts.c1y ++ derEncodeOctetString parts.c3 ++
    derEncodeOctetString parts.c2

def Sm2CipherParts.announced (parts : Sm2CipherParts) : ℕ :=
  derIntegerLen parts.c1x + derIntegerLen parts.c1y + derOctetStringLen parts.c3 + derOctetStringLen
    parts.c2

lemma parseSm2CipherDer_sequence {parts : Sm2CipherParts} (hx : parts.c1x.length = 32)
    (hy : parts.c1y.length = 32) (hhash : parts.c3.length < 2 ^ 32)
    (htext : parts.c2.length < 2 ^ 32)
    {header : Bytes} {contentLen : ℕ} (hhdr : parseDerLength (header ++ parts.content) =
    .ok (contentLen, header.length))
    (hle : contentLen ≤ parts.content.length) :
    parseSm2CipherDer (0x30 :: (header ++ parts.content)) =
      if contentLen = parts.content.length then .ok parts
      else .error (.sm2Error "extra bytes after SM2Cipher SEQUENCE") := by
  unfold Sm2CipherParts.content at hhdr hle ⊢
  have hreadX := parseDerInteger_derEncodeInteger hx
  have hreadY := parseDerInteger_derEncodeInteger hy
  have hreadHash := parseDerOctetString_derEncodeOctetString hhash
  have hreadText := parseDerOctetString_derEncodeOctetString htext []
  rw [append_nil] at hreadText
  generalize derEncodeInteger parts.c1x = encX at *
  generalize derEncodeInteger parts.c1y = encY at *
  generalize derEncodeOctetString parts.c3 = encHash at *
  generalize derEncodeOctetString parts.c2 = encText at *
  rw [append_assoc, append_assoc] at hhdr hle ⊢
  generalize hbody : encX ++ (encY ++ (encHash ++ encText)) = body at hhdr hle ⊢
  have hlen : body.length = encX.length + encY.length + encHash.length + encText.length := by
    rw [← hbody]
    simp only [length_append]
    omega
  -- what is left of the input once the first `count` octets of the content are read
  have hdrop (count : ℕ) : (0x30 :: (header ++ body)).drop (1 + header.length + count) =
      body.drop count := by
    rw [Nat.add_comm 1, Nat.add_assoc, Nat.add_comm 1, ← Nat.add_assoc, drop_succ_cons,
      ← drop_drop, drop_left]
  have hdropX : body.drop encX.length = encY ++ (encHash ++ encText) := by
    rw [← hbody, drop_left]
  have hdropY : body.drop (encX.length + encY.length) = encHash ++ encText := by
    rw [← drop_drop, hdropX, drop_left]
  have hdropHash : body.drop (encX.length + encY.length + encHash.length) = encText := by
    rw [← drop_drop, hdropY, drop_left]
  have hstart : (0x30 :: (header ++ body)).drop (1 + header.length) = encX ++
    (encY ++ (encHash ++ encText)) :=
    (hdrop 0).trans hbody.symm
  unfold parseSm2CipherDer
  rw [rejectIf_bind (by simp), drop_succ_cons, drop_zero, hhdr, ok_bind]
  dsimp only
  rw [rejectIf_bind (by simp only [length_cons, length_append]; omega), hstart, hreadX, ok_bind]
  rw [rejectIf_bind (by rw [hx]; simp), hdrop, hdropX, hreadY, ok_bind]
  rw [rejectIf_bind (by rw [hy]; simp), Nat.add_assoc (1 + header.length), hdrop, hdropY,
    hreadHash, ok_bind]
  rw [Nat.add_assoc (1 + header.length), hdrop, hdropHash, hreadText, ok_bind]
  by_cases hall : contentLen = body.length
  · rw [rejectIf_bind (by omega), if_pos hall]
  · rw [rejectIf_pos (by omega), error_bind, if_neg hall]

def sm2MaxPlaintextLen : ℕ := 64 * 1024

def sm2CipherVersionedHeader : Bytes := [0x53, 0x4D]

def sm2CipherVersion1 : UInt8 := 0x01

def sm2CipherFormatRaw : UInt8 := 0x00

def sm2CipherFormatDer : UInt8 := 0x01

def sm2VersionedHeaderLen : ℕ := 4

section Cipher

variable {F P : Type} [CommRing F] [AddCommGroup P] [Module F P] [DecidableEq P]
  (sm2 : Sm2Arithmetic F P) (sm3 : Sm3Library)

def pointXyBytes (point : P) : Except CryptoError (Bytes × Bytes) := do
  let encoded := sm2.encode point
  rejectIf (encoded = [0]) (.sm2Error "X coordinate missing")
  .ok ((encoded.drop 1).take 32, encoded.drop 33)

structure Sm2Encryptor (P : Type) where
  publicKey : P

namespace Sm2Encryptor

def new (publicKeyBytes : Bytes) : Except CryptoError (Sm2Encryptor P) := do
  let publicKey ← (sm2.publicKeyFromSec1Bytes publicKeyBytes).mapError fun e ↦
    .sm2Error ("invalid public key: " ++ e)
  .ok { publicKey }

def encrypt (encryptor : Sm2Encryptor P) (k : F) (data : Bytes) : Except CryptoError Bytes := do
  rejectIf (data.length > sm2MaxPlaintextLen)
    (.sm2Error ("plaintext too large: " ++ toString data.length ++
    " bytes (max " ++ toString sm2MaxPlaintextLen ++ ")"))
  let c1Bytes := sm2.encode (k • sm2.generator)
  match sm2.decode (sm2.encode encryptor.publicKey) with
  | none => .error (.sm2Error "public key point parse failed")
  | some pPub => do
    let (x2, y2) ← pointXyBytes sm2 (k • pPub)
    let keyStream ← kdfSm3 sm3 x2 y2 data.length
    let c2 := xorBytes data keyStream
    let c3 := sm3HashConcat sm3 x2 data y2
    .ok (c1Bytes ++ c3 ++ c2)

def encryptDer (encryptor : Sm2Encryptor P) (k : F) (data : Bytes) : Except CryptoError Bytes := do
  let raw ← encryptor.encrypt sm2 sm3 k data
  sm2CipherRawToDer raw

def encryptVersioned (encryptor : Sm2Encryptor P) (k : F) (data : Bytes) :
    Except CryptoError Bytes := do
  let raw ← encryptor.encrypt sm2 sm3 k data
  .ok (sm2CipherVersionedHeader ++ [sm2CipherVersion1, sm2CipherFormatRaw] ++ raw)

def encryptVersionedDer (encryptor : Sm2Encryptor P) (k : F) (data : Bytes) :
    Except CryptoError Bytes := do
  let der ← encryptor.encryptDer sm2 sm3 k data
  .ok (sm2CipherVersionedHeader ++ [sm2CipherVersion1, sm2CipherFormatDer] ++ der)

end Sm2Encryptor

structure Sm2Decryptor (F : Type) where
  keyPair : Sm2KeyPair F

namespace Sm2Decryptor

def decryptRaw (decryptor : Sm2Decryptor F) (encryptedData : Bytes) : Except CryptoError Bytes := do
  rejectIf (encryptedData.length < 65 + 32) (.sm2Error "ciphertext length insufficient")
  rejectIf (encryptedData.head? ≠ some 0x04) (.sm2Error "raw ciphertext must start with 0x04")
  let c1Bytes := encryptedData.take 65
  let c3 := (encryptedData.drop 65).take 32
  let c2 := encryptedData.drop 97
  (sm2.encodedPointFromBytes c1Bytes).mapError fun e ↦ .sm2Error ("C1 parse failed: " ++ e)
  match sm2.decode c1Bytes with
  | none => .error (.sm2Error "C1 is not on the SM2 curve")
  | some c1Point => do
    rejectIf (c1Point = 0) (.sm2Error "C1 is the identity point (point at infinity)")
    match sm2.scalarFromBytes (decryptor.keyPair.privateKeyBytes sm2.toSm2Curve) with
    | none => .error (.sm2Error "private key conversion failed")
    | some d => do
      let (x2, y2) ← pointXyBytes sm2 (d • c1Point)
      let keyStream ← kdfSm3 sm3 x2 y2 c2.length
      let m := xorBytes c2 keyStream
      rejectIf (sm3HashConcat sm3 x2 m y2 ≠ c3)
        (.sm2Error "C3 verification failed, ciphertext has been tampered with")
      .ok m

def decrypt (decryptor : Sm2Decryptor F) (encryptedData : Bytes) : Except CryptoError Bytes :=
  if encryptedData.length ≥ sm2VersionedHeaderLen ∧ encryptedData.take 2 =
    sm2CipherVersionedHeader then
    let format := encryptedData.getD 3 0
    let payload := encryptedData.drop sm2VersionedHeaderLen
    if format = sm2CipherFormatRaw then decryptor.decryptRaw sm2 sm3 payload
    else if format = sm2CipherFormatDer then do
      let raw ← sm2CipherDerToRaw payload
      decryptor.decryptRaw sm2 sm3 raw
    else .error (.sm2Error ("unknown SM2 ciphertext format type: 0x" ++ hexOctet format))
  else if encryptedData.head? = some 0x30 then do
    let raw ← sm2CipherDerToRaw encryptedData
    decryptor.decryptRaw sm2 sm3 raw
  else if encryptedData.head? = some 0x04 then decryptor.decryptRaw sm2 sm3 encryptedData
  else .error (.sm2Error
    "ciphertext must start with 0x534D (versioned), 0x30 (DER), or 0x04 (raw C1||C3||C2)")

end Sm2Decryptor

/-- The four ways to write a ciphertext. -/
inductive CipherFormat
  | raw
  | der
  | versioned
  | versionedDer
  deriving DecidableEq

def Sm2Encryptor.encryptAs (format : CipherFormat) (encryptor : Sm2Encryptor P)
    (k : F) (data : Bytes) :
    Except CryptoError Bytes :=
  match format with
  | .raw => encryptor.encrypt sm2 sm3 k data
  | .der => encryptor.encryptDer sm2 sm3 k data
  | .versioned => encryptor.encryptVersioned sm2 sm3 k data
  | .versionedDer => encryptor.encryptVersionedDer sm2 sm3 k data

def decryptEncrypted (format : CipherFormat) (keyPair : Sm2KeyPair F) (k : F) (data : Bytes) :
    Except CryptoError Bytes := do
  let encryptor ← Sm2Encryptor.new sm2 (keyPair.publicKeyBytesUncompressed sm2.toSm2Curve)
  let encrypted ← encryptor.encryptAs sm2 sm3 format k data
  Sm2Decryptor.decrypt sm2 sm3 ⟨keyPair⟩ encrypted

end Cipher

def tinyOctet (element : ZMod 3) : UInt8 := UInt8.ofNat element.val

lemma natCast_toNat_tinyOctet : ∀ element : ZMod 3, ((tinyOctet element).toNat : ZMod 3) =
    element := by
  decide

def tinyCurve : Sm2Arithmetic (ZMod 3) (ZMod 3) where
  verifyingKeyFromSec1Bytes := fun _ _ ↦ .ok ()
  signatureFromBytes := fun _ ↦ .ok ()
  verify := fun key _ _ signature ↦ if signature =
    key.drop 1 then .ok () else .error "signature error"
  encodedPointFromBytes := fun _ ↦ .ok ()
  uncompress := fun _ ↦ none
  generator := 1
  secretKeyFromBytes := fun bytes ↦ .ok ((bytes.headD 0).toNat : ZMod 3)
  scalarToBytes := fun scalar ↦ List.replicate 32 (tinyOctet scalar)
  scalarFromRepr := fun bytes ↦ some (beNat bytes : ZMod 3)
  encode := fun point ↦ if point = 0 then [0] else 0x04 :: List.replicate 64 (tinyOctet point)
  decode := fun bytes ↦ some (((bytes.drop 1).headD 0).toNat : ZMod 3)
  signingKeyNew := fun _ _ ↦ .ok ()
  sign := fun secret _ _ ↦ List.replicate 64 (tinyOctet secret)
  secretKeyFromSec1Pem := fun _ ↦ .error "not modelled"
  secretKeyFromPkcs8Pem := fun _ ↦ .error "not modelled"
  scalarFromBytes := fun bytes ↦ some ((bytes.headD 0).toNat : ZMod 3)
  publicKeyFromSec1Bytes := fun bytes ↦ .ok (((bytes.drop 1).headD 0).toNat : ZMod 3)
  length_scalarToBytes := fun _ ↦ length_replicate
  secretKeyFromBytes_scalarToBytes := fun scalar _ ↦
    congrArg Except.ok (natCast_toNat_tinyOctet scalar)
  encode_zero := if_pos rfl
  length_encode := fun point hpoint ↦ by rw [if_neg hpoint, length_cons, length_replicate]
  head_encode := fun point hpoint ↦ by rw [if_neg hpoint, List.head?_cons]
  encodedPointFromBytes_encode := fun _ ↦ rfl
  decode_encode := fun point ↦ by
    by_cases hpoint : point = 0
    · rw [if_pos hpoint, hpoint]
      rfl
    · rw [if_neg hpoint]
      exact congrArg some (natCast_toNat_tinyOctet point)
  length_sign := fun _ _ _ ↦ length_replicate
  scalarFromBytes_scalarToBytes := fun scalar ↦ congrArg some (natCast_toNat_tinyOctet scalar)
  publicKeyFromSec1Bytes_encode := fun point hpoint ↦ by
    rw [if_neg hpoint]
    exact congrArg Except.ok (natCast_toNat_tinyOctet point)

lemma tinyCurve_generatorFree : tinyCurve.GeneratorFree := by
  intro secret hzero
  rwa [show tinyCurve.generator = 1 from rfl, smul_eq_mul, mul_one] at hzero

def tinySm3 : Sm3Library where
  hash := fun _ ↦ List.replicate 32 0
  length_hash := fun _ ↦ length_replicate

/-! ### Round trips -/

section RoundTrip

variable {F P : Type} [Field F] [AddCommGroup P] [Module F P] {point : P}

lemma Sm2Curve.exists_encode_eq (sm2 : Sm2Curve F P) (hpoint : point ≠ 0) :
    ∃ x y, sm2.encode point = 0x04 :: (x ++ y) ∧ x.length = 32 ∧ y.length = 32 := by
  have hlen := sm2.length_encode point hpoint
  obtain ⟨coordinates, henc⟩ : ∃ coordinates, sm2.encode point = 0x04 :: coordinates := by
    have hhead := sm2.head_encode point hpoint
    cases henc : sm2.encode point with
    | nil => rw [henc] at hhead; cases hhead
    | cons octet coordinates =>
      rw [henc, head?_cons, Option.some.injEq] at hhead
      exact ⟨coordinates, by rw [hhead]⟩
  rw [henc, length_cons] at hlen
  refine ⟨coordinates.take 32, coordinates.drop 32, by rw [henc, take_append_drop], ?_, ?_⟩
  · rw [length_take]
    omega
  · rw [length_drop]
    omega

lemma exists_pointXyBytes (sm2 : Sm2Arithmetic F P) (hpoint : point ≠ 0) :
    ∃ x y, pointXyBytes sm2 point = .ok (x, y) := by
  have hlen := sm2.length_encode point hpoint
  have hfin : sm2.encode point ≠ [0] := by
    intro hzero
    rw [hzero] at hlen
    exact absurd hlen (by decide)
  exact ⟨_, _, by rw [pointXyBytes, rejectIf_bind hfin]⟩

lemma Sm2Curve.smul_generator_ne_zero {sm2 : Sm2Curve F P} (hfree : sm2.GeneratorFree) {scalar : F}
    (hscal : scalar ≠ 0) : scalar • sm2.generator ≠ 0 :=
  fun hzero ↦ hscal (hfree scalar hzero)

variable [DecidableEq P] {sm2 : Sm2Arithmetic F P} (sm3 : Sm3Library)

lemma Sm2Decryptor.decryptRaw_encode (keyPair : Sm2KeyPair F) {c1Point : P} (hpoint : c1Point ≠ 0)
    {c3 : Bytes} (hhash : c3.length = 32) (c2 : Bytes) :
    Sm2Decryptor.decryptRaw sm2 sm3 ⟨keyPair⟩ (sm2.encode c1Point ++ (c3 ++ c2)) = (do
      let (x2, y2) ← pointXyBytes sm2 (keyPair.privateKey • c1Point)
      let keyStream ← kdfSm3 sm3 x2 y2 c2.length
      rejectIf (sm3HashConcat sm3 x2 (xorBytes c2 keyStream) y2 ≠ c3)
        (.sm2Error "C3 verification failed, ciphertext has been tampered with")
      .ok (xorBytes c2 keyStream)) := by
  have hfront := sm2.length_encode _ hpoint
  obtain ⟨x, y, henc, -, -⟩ := sm2.exists_encode_eq hpoint
  have htake : (sm2.encode c1Point ++ (c3 ++ c2)).take 65 = sm2.encode c1Point := by
    rw [← hfront, take_left]
  have hdrop : (sm2.encode c1Point ++ (c3 ++ c2)).drop 65 = c3 ++ c2 := by
    rw [← hfront, drop_left]
  have hrest : (sm2.encode c1Point ++ (c3 ++ c2)).drop (65 + 32) = c2 := by
    rw [← drop_drop, hdrop, ← hhash, drop_left]
  have hhead : (sm2.encode c1Point ++ (c3 ++ c2)).head? = some 0x04 := by
    rw [henc, cons_append, head?_cons]
  rw [Sm2Decryptor.decryptRaw, rejectIf_bind (by simp only [length_append, hfront, hhash]; omega),
    rejectIf_ne_bind hhead]
  dsimp only
  rw [htake, hdrop, hrest, sm2.encodedPointFromBytes_encode, sm2.decode_encode]
  dsimp only [Except.mapError]
  rw [ok_bind, rejectIf_bind hpoint, Sm2KeyPair.privateKeyBytes, sm2.scalarFromBytes_scalarToBytes,
    ← hhash, take_left]

variable {data : Bytes} {parts : Sm2CipherParts} {keyPair : Sm2KeyPair F}

lemma exists_encrypt (hfree : sm2.GeneratorFree) (hkey : keyPair.privateKey ≠ 0)
    {k : F} (hk : k ≠ 0) (hlen : data.length ≤ sm2MaxPlaintextLen) : ∃ parts : Sm2CipherParts,
      Sm2Encryptor.encrypt sm2 sm3 ⟨keyPair.privateKey • sm2.generator⟩ k data = .ok parts.raw ∧
        Sm2Decryptor.decryptRaw sm2 sm3 ⟨keyPair⟩ parts.raw = .ok data ∧ parts.c1x.length = 32 ∧
          parts.c1y.length = 32 ∧ parts.c3.length = 32 ∧ parts.c2.length = data.length := by
  have hc1 := Sm2Curve.smul_generator_ne_zero hfree hk
  have hshared : k • keyPair.privateKey • sm2.generator ≠ 0 := by
    rw [smul_smul]
    exact Sm2Curve.smul_generator_ne_zero hfree (mul_ne_zero hk hkey)
  obtain ⟨c1x, c1y, henc, hx, hy⟩ := sm2.exists_encode_eq hc1
  obtain ⟨x2, y2, hxy⟩ := exists_pointXyBytes sm2 hshared
  obtain ⟨keyStream, hkdf, hstr⟩ :=
    exists_kdfSm3 sm3 x2 y2 (show data.length < 2 ^ 32 - 1 from hlen.trans_lt (by decide))
  have hmasked : (xorBytes data keyStream).length = data.length := by
    rw [length_xorBytes, hstr, Nat.min_self]
  have hhash : (sm3HashConcat sm3 x2 data y2).length = 32 := sm3.length_hash _
  have hraw : Sm2CipherParts.raw ⟨c1x, c1y, sm3HashConcat sm3 x2 data y2, xorBytes data keyStream⟩ =
      sm2.encode (k • sm2.generator) ++
      (sm3HashConcat sm3 x2 data y2 ++ xorBytes data keyStream) := by
    simp only [Sm2CipherParts.raw, henc, cons_append, append_assoc]
  refine ⟨⟨c1x, c1y, sm3HashConcat sm3 x2 data y2, xorBytes data keyStream⟩, ?_, ?_,
    hx, hy, hhash, hmasked⟩
  · rw [hraw, Sm2Encryptor.encrypt, rejectIf_bind (not_lt.mpr hlen), sm2.decode_encode]
    dsimp only
    rw [hxy, ok_bind]
    rw [hkdf, ok_bind, append_assoc]
  rw [hraw, Sm2Decryptor.decryptRaw_encode sm3 keyPair hc1 hhash, smul_comm, hxy, ok_bind]
  dsimp only
  rw [hmasked, hkdf, ok_bind, xorBytes_xorBytes hstr.ge, rejectIf_ne_bind rfl]

section

variable (hx : parts.c1x.length = 32)

include hx

variable (hy : parts.c1y.length = 32)

include hy

variable (hhash : parts.c3.length = 32)

include hhash

lemma sm2CipherRawToDer_raw : sm2CipherRawToDer parts.raw =
    .ok (0x30 :: (derLen parts.announced ++ parts.content)) := by
  have hdropX : parts.raw.drop 1 = parts.c1x ++ (parts.c1y ++ (parts.c3 ++ parts.c2)) := by
    simp only [Sm2CipherParts.raw, drop_succ_cons, drop_zero, append_assoc]
  have hdropY : parts.raw.drop (1 + 32) = parts.c1y ++ (parts.c3 ++ parts.c2) := by
    rw [← drop_drop, hdropX, ← hx, drop_left]
  have hdropHash : parts.raw.drop (1 + 32 + 32) = parts.c3 ++ parts.c2 := by
    rw [← drop_drop, hdropY, ← hy, drop_left]
  have hdropText : parts.raw.drop (1 + 32 + 32 + 32) = parts.c2 := by
    rw [← drop_drop, hdropHash, ← hhash, drop_left]
  have hlen : parts.raw.length = 97 + parts.c2.length := by
    simp only [Sm2CipherParts.raw, length_cons, length_append, hx, hy, hhash]
    omega
  rw [sm2CipherRawToDer, rejectIf_bind (by omega), rejectIf_bind (by simp [Sm2CipherParts.raw])]
  rw [hdropX, hdropY, hdropHash, hdropText, ← hx, take_left, hx, ← hy, take_left,
    hy, ← hhash, take_left]
  rfl

lemma Sm2CipherParts.length_content : parts.content.length = parts.announced +
      if parts.c2.length < 0x10000 then 0 else if parts.c2.length < 0x1000000 then 1 else 2 := by
  simp only [content, announced, length_append, length_derEncodeInteger hx,
    length_derEncodeInteger hy,
    length_derEncodeOctetString, hhash, Nat.reduceLT, if_true]
  omega

lemma sm2CipherDerToRaw_rawToDer (htext : parts.c2.length ≤ 0x10000) :
    ∃ der, sm2CipherRawToDer parts.raw = .ok (0x30 :: der) ∧
      sm2CipherDerToRaw (0x30 :: der) = if parts.c2.length < 0x10000 then .ok parts.raw
        else .error (.sm2Error "extra bytes after SM2Cipher SEQUENCE") := by
  have hxLen := derIntegerLen_le hx
  have hyLen := derIntegerLen_le hy
  have hbounds : derOctetStringLen parts.c3 ≤ 4 + 32 ∧ derOctetStringLen parts.c2 ≤
      4 + 0x10000 := by
    unfold derOctetStringLen
    split_ifs <;> omega
  have hwrote := Sm2CipherParts.length_content hx hy hhash
  refine ⟨_, sm2CipherRawToDer_raw hx hy hhash, ?_⟩
  have hparse := parseSm2CipherDer_sequence hx hy (show parts.c3.length < 2 ^ 32 by omega)
    (show parts.c2.length < 2 ^ 32 by omega) (parseDerLength_derLen
      (show parts.announced < 2 ^ 32 by rw [Sm2CipherParts.announced]; omega) _) (by omega)
  rw [sm2CipherDerToRaw, hparse]
  by_cases hshort : parts.c2.length < 0x10000
  · rw [if_pos hshort, if_pos (by simp [hwrote, hshort]), ok_bind]
  · rw [if_neg hshort, if_neg (by rw [if_neg hshort] at hwrote; split_ifs at hwrote <;> omega),
      error_bind]

end

/-! Which DER forms are canonical. -/

lemma length_parseDerOctetString_lt {bytes : Bytes} {consumed : ℕ}
    (hread : parseDerOctetString bytes = .ok (data, consumed)) : data.length < 2 ^ 32 := by
  obtain ⟨_, -, hread⟩ := bind_eq_ok.mp hread
  obtain ⟨⟨len, taken⟩, hlen, hread⟩ := bind_eq_ok.mp hread
  obtain ⟨_, -, hread⟩ := bind_eq_ok.mp hread
  cases hread
  exact (length_take_le _ _).trans_lt (parseDerLength_lt hlen)

lemma length_of_parseSm2CipherDer {der : Bytes} (hparse : parseSm2CipherDer der = .ok parts) :
    parts.c1x.length = 32 ∧ parts.c1y.length = 32 ∧ parts.c2.length < 2 ^ 32 := by
  unfold parseSm2CipherDer at hparse
  simp only [bind_eq_ok, rejectIf_eq_ok, not_not] at hparse
  obtain ⟨_, -, _, -, _, -, ⟨c1x, _⟩, -, _, hx, ⟨c1y, _⟩, -, _, hy, _, -, ⟨c2, _⟩, htext,
    _, -, hparts⟩ := hparse
  cases hparts
  exact ⟨hx, hy, length_parseDerOctetString_lt htext⟩

lemma lengthOctets_long {width n : ℕ} (hpos : 0 < width) (hfour : width ≤ 4)
    (hfits : n < 256 ^ width) :
    LengthOctets (UInt8.ofNat (0x80 + width) :: beOctets width n) n := by
  have hlead : (UInt8.ofNat (0x80 + width)).toNat = 0x80 + width := by
    rw [UInt8.toNat_ofNat', Nat.mod_eq_of_lt (by omega)]
  have hlong := LengthOctets.long (UInt8.ofNat (0x80 + width)) (beOctets width n)
    (UInt8.le_iff_toNat_le.mpr (by rw [hlead]; exact Nat.le_add_right _ _))
    (by rw [length_beOctets, hlead]; omega)
    (length_pos_iff.mp (by rwa [length_beOctets]))
  rwa [beNat_beOctets hfits] at hlong

lemma lengthOctets_derLen {n : ℕ} (hlen : n < 2 ^ 32) : LengthOctets (derLen n) n := by
  unfold derLen
  split_ifs with hshort
  · have hoctet : (UInt8.ofNat n).toNat = n := by
      rw [UInt8.toNat_ofNat', Nat.mod_eq_of_lt (by omega)]
    have hone := LengthOctets.short (UInt8.ofNat n) (UInt8.lt_iff_toNat_lt.mpr (by rwa [hoctet]))
    rw [hoctet] at hone
    simpa [beOctets] using hone
  · exact @lengthOctets_long 1 n (by decide) (by decide) (by omega)
  · exact @lengthOctets_long 2 n (by decide) (by decide) (by omega)
  · exact @lengthOctets_long 3 n (by decide) (by decide) (by omega)
  · exact @lengthOctets_long 4 n (by decide) (by decide) (by omega)

lemma shortest_derLen {n : ℕ} (hlen : n < 2 ^ 32) : Shortest (LengthOctets · n) (derLen n) := by
  refine ⟨lengthOctets_derLen hlen, fun other hother ↦ ?_⟩
  rw [length_derLen]
  cases hother with
  | short octet hshort =>
    have hlt : octet.toNat < 0x80 := hshort
    rw [if_pos hlt, length_singleton]
  | long first octets _ _ hpos =>
    have hone := length_pos_iff.mpr hpos
    have hlt := beNat_lt octets
    rw [length_cons]
    by_contra hlonger
    have hfew : octets.length = 1 ∨ octets.length = 2 ∨ octets.length = 3 := by
      split_ifs at hlonger <;> omega
    obtain hwidth | hwidth | hwidth :=
      hfew <;> rw [hwidth] at hlt hlonger <;> split_ifs at hlonger <;> omega

lemma shortElement_iff {tag : UInt8} {content encoding : Bytes} (hlen : content.length < 2 ^ 32) :
    ShortElement tag content encoding ↔ encoding = tag :: (derLen content.length ++ content) := by
  have hshortest {octets : Bytes} := @Shortest.eq_iff _ octets _ (shortest_derLen hlen)
    fun _ _ hfirst hsecond ↦ hfirst.eq_of_length hsecond
  constructor
  · rintro ⟨lengthOctets, hoctets, rfl⟩
    rw [hshortest.mp hoctets]
  · rintro rfl
    exact ⟨_, shortest_derLen hlen, rfl⟩

lemma beNat_stripLeadingZeros (value : Bytes) : beNat (stripLeadingZeros value) = beNat value := by
  induction value with
  | nil => rfl
  | cons octet rest ih =>
    by_cases hzero : octet = 0
    · rw [show stripLeadingZeros (octet :: rest) = stripLeadingZeros rest by
        simp [stripLeadingZeros, hzero], ih,
        beNat_cons, hzero, UInt8.toNat_zero, Nat.zero_mul, Nat.zero_add]
    · rw [show stripLeadingZeros (octet :: rest) = octet :: rest by simp [stripLeadingZeros, hzero]]

lemma lead_ne_zero_of_stripLeadingZeros {value tail : Bytes} {lead : UInt8}
    (hstrip : stripLeadingZeros value = lead :: tail) : lead ≠ 0 := by
  have hidem := (stripLeadingZeros_of_stripped hstrip).1
  rintro rfl
  have hle := length_stripLeadingZeros_le tail
  rw [show stripLeadingZeros (0 :: tail) = stripLeadingZeros tail by
    simp [stripLeadingZeros]] at hidem
  rw [hidem, length_cons] at hle
  omega

lemma top_bit_iff (octet : UInt8) : octet &&& 0x80 ≠ 0 ↔ 0x80 ≤ octet.toNat := by
  have hall : ∀ n : Fin 256, UInt8.ofNat n &&& 0x80 ≠ 0 ↔ 0x80 ≤ n.val := by decide +kernel
  have hoctet := hall ⟨octet.toNat, octet.toNat_lt⟩
  rwa [UInt8.ofNat_toNat] at hoctet

/-- `der_encode_integer` writes the shortest octets of its value. -/
lemma exists_shortest_integer (value : Bytes) : ∃ content, content.length ≤ value.length + 1 ∧
    derEncodeInteger value = 0x02 :: (derLen content.length ++ content) ∧
      Shortest (UnsignedOctets (beNat value)) content := by
  have hvalue := beNat_stripLeadingZeros value
  have hle := length_stripLeadingZeros_le value
  unfold derEncodeInteger
  cases hstrip : stripLeadingZeros value with
  | nil =>
    rw [hstrip] at hvalue
    exact ⟨[0], by simp, rfl, ⟨by simp, by decide, hvalue⟩, fun other hother ↦
      length_pos_iff.mpr hother.nonempty⟩
  | cons lead tail =>
    rw [hstrip] at hvalue hle
    have hpositive : 1 ≤ lead.toNat := Nat.pos_of_ne_zero fun hzero ↦
      lead_ne_zero_of_stripLeadingZeros hstrip (UInt8.toNat_inj.mp hzero)
    have hlarge := beNat_cons lead tail
    rw [hvalue] at hlarge
    rw [length_cons] at hle
    dsimp only
    split_ifs with htop
    · rw [top_bit_iff] at htop
      have hvalue : beNat (0 :: lead :: tail) = beNat value := by
        rw [beNat_cons, UInt8.toNat_zero, Nat.zero_mul, Nat.zero_add, hvalue]
      refine ⟨0 :: lead :: tail, by simp only [length_cons]; omega, rfl,
        ⟨by simp, by simp, hvalue⟩, ?_⟩
      intro other hother
      have hlt := hother.lt
      have hmul := Nat.mul_le_mul_right (256 ^ tail.length) htop
      have hpow : 256 ^ tail.length < 256 ^ (other.length - 1) := by omega
      have := (Nat.pow_lt_pow_iff_right (by decide)).mp hpow
      simp only [length_cons]
      omega
    · rw [top_bit_iff] at htop
      have hclear : lead < 0x80 := UInt8.lt_iff_toNat_lt.mpr (not_le.mp htop)
      refine ⟨lead :: tail, by simp only [length_cons]; omega, rfl, ⟨by simp, hclear, hvalue⟩, ?_⟩
      intro other hother
      have hlt := beNat_lt other
      rw [hother.value] at hlt
      have hmul := Nat.mul_le_mul_right (256 ^ tail.length) hpositive
      have hpow : 256 ^ tail.length < 256 ^ other.length := by omega
      exact (Nat.pow_lt_pow_iff_right (by decide)).mp hpow

/-- A SEQUENCE of two INTEGERs and two OCTET STRINGs, each with the shortest octets, and nothing
after it. -/
def Sm2CipherParts.CanonicalForm (parts : Sm2CipherParts) (der : Bytes) : Prop :=
  ∃ x y encX encY encHash encText,
    Shortest (UnsignedOctets (beNat parts.c1x)) x ∧ Shortest (UnsignedOctets (beNat parts.c1y)) y ∧
    ShortElement 0x02 x encX ∧ ShortElement 0x02 y encY ∧
    ShortElement 0x04 parts.c3 encHash ∧ ShortElement 0x04 parts.c2 encText ∧
    ShortElement 0x30 (encX ++ encY ++ encHash ++ encText) der

lemma canonicalForm_iff {der : Bytes} (hx : parts.c1x.length = 32) (hy : parts.c1y.length = 32)
    (hhash : parts.c3.length = 32) (htext : parts.c2.length < 0x10000) :
    parts.CanonicalForm der ↔ der = 0x30 :: (derLen parts.content.length ++ parts.content) := by
  obtain ⟨x, hxLen, hencX, hshortX⟩ := exists_shortest_integer parts.c1x
  obtain ⟨y, hyLen, hencY, hshortY⟩ := exists_shortest_integer parts.c1y
  have hcontent : parts.content = 0x02 :: (derLen x.length ++ x) ++ 0x02 ::
    (derLen y.length ++ y) ++
      0x04 :: (derLen parts.c3.length ++ parts.c3) ++ 0x04 ::
      (derLen parts.c2.length ++ parts.c2) := by
    rw [Sm2CipherParts.content, hencX, hencY]
    rfl
  have hxBound := derIntegerLen_le hx
  have hyBound := derIntegerLen_le hy
  have hfits : parts.content.length < 2 ^ 32 := by
    rw [Sm2CipherParts.length_content hx hy hhash, if_pos htext, Sm2CipherParts.announced,
      derOctetStringLen,
      derOctetStringLen]
    split_ifs <;> omega
  have hintX {encoding : Bytes} := @shortElement_iff 0x02 x encoding (by omega)
  have hintY {encoding : Bytes} := @shortElement_iff 0x02 y encoding (by omega)
  constructor
  · rintro ⟨x', y', encX, encY, encHash, encText, hx', hy', helemX, helemY, helemHash,
      helemText, hseq⟩
    obtain rfl := (hshortX.eq_iff fun _ _ hfst hsnd ↦ hfst.eq_of_length hsnd).mp hx'
    obtain rfl := (hshortY.eq_iff fun _ _ hfst hsnd ↦ hfst.eq_of_length hsnd).mp hy'
    rw [hintX.mp helemX, hintY.mp helemY, (shortElement_iff (by omega)).mp helemHash,
      (shortElement_iff (by omega)).mp helemText, ← hcontent] at hseq
    exact (shortElement_iff hfits).mp hseq
  · rintro rfl
    refine ⟨x, y, _, _, _, _, hshortX, hshortY, hintX.mpr rfl, hintY.mpr rfl,
      (shortElement_iff (by omega)).mpr rfl,
      (shortElement_iff (by omega)).mpr rfl, ?_⟩
    rw [← hcontent]
    exact (shortElement_iff hfits).mpr rfl

variable (decryptor : Sm2Decryptor F)

lemma Sm2Decryptor.decrypt_raw (rest : Bytes) :
    decryptor.decrypt sm2 sm3 (0x04 :: rest) = decryptor.decryptRaw sm2 sm3 (0x04 :: rest) := by
  have hhdr : ¬((0x04 :: rest).length ≥ sm2VersionedHeaderLen ∧ (0x04 :: rest).take 2 =
      sm2CipherVersionedHeader) := by
    rintro ⟨-, htake⟩
    exact absurd (cons.inj htake).1 (by decide)
  rw [Sm2Decryptor.decrypt, if_neg hhdr, head?_cons, if_neg (by decide), if_pos rfl]

lemma Sm2Decryptor.decrypt_der (rest : Bytes) : decryptor.decrypt sm2 sm3 (0x30 :: rest) = (do
      let raw ← sm2CipherDerToRaw (0x30 :: rest)
      decryptor.decryptRaw sm2 sm3 raw) := by
  have hhdr : ¬((0x30 :: rest).length ≥ sm2VersionedHeaderLen ∧ (0x30 :: rest).take 2 =
      sm2CipherVersionedHeader) := by
    rintro ⟨-, htake⟩
    exact absurd (cons.inj htake).1 (by decide)
  rw [Sm2Decryptor.decrypt, if_neg hhdr, head?_cons, if_pos rfl]

lemma Sm2Decryptor.decrypt_versioned (payload : Bytes) : decryptor.decrypt sm2 sm3
        (sm2CipherVersionedHeader ++ [sm2CipherVersion1, sm2CipherFormatRaw] ++ payload) =
      decryptor.decryptRaw sm2 sm3 payload := by
  rw [Sm2Decryptor.decrypt, if_pos ⟨Nat.le_add_left _ _, rfl⟩]
  exact if_pos rfl

lemma Sm2Decryptor.decrypt_versionedDer (payload : Bytes) : decryptor.decrypt sm2 sm3
        (sm2CipherVersionedHeader ++ [sm2CipherVersion1, sm2CipherFormatDer] ++ payload) = (do
      let raw ← sm2CipherDerToRaw payload
      decryptor.decryptRaw sm2 sm3 raw) := by
  rw [Sm2Decryptor.decrypt, if_pos ⟨Nat.le_add_left _ _, rfl⟩]
  exact (if_neg (show sm2CipherFormatDer ≠ sm2CipherFormatRaw by decide)).trans (if_pos rfl)

lemma decryptEncrypted_eq (hfree : sm2.GeneratorFree) (hkey : keyPair.privateKey ≠ 0)
    {k : F} (hk : k ≠ 0)
    (hlen : data.length ≤ sm2MaxPlaintextLen) (format : CipherFormat) :
    decryptEncrypted sm2 sm3 format keyPair k data =
      if format = .raw ∨ format = .versioned ∨ data.length < sm2MaxPlaintextLen then .ok data
      else .error (.sm2Error "extra bytes after SM2Cipher SEQUENCE") := by
  obtain ⟨parts, henc, hdec, hx, hy, hhash, htext⟩ := exists_encrypt sm3 hfree hkey hk hlen
  obtain ⟨der, hder, hraw⟩ := sm2CipherDerToRaw_rawToDer hx hy hhash (htext.trans_le hlen)
  have hnew : Sm2Encryptor.new sm2 (keyPair.publicKeyBytesUncompressed sm2.toSm2Curve) =
      .ok ⟨keyPair.privateKey • sm2.generator⟩ := by
    rw [Sm2Encryptor.new, Sm2KeyPair.publicKeyBytesUncompressed,
      sm2.publicKeyFromSec1Bytes_encode _ (Sm2Curve.smul_generator_ne_zero hfree hkey)]
    rfl
  have hopened : (do
      let raw ← sm2CipherDerToRaw (0x30 :: der)
      Sm2Decryptor.decryptRaw sm2 sm3 ⟨keyPair⟩ raw) = if data.length <
        sm2MaxPlaintextLen then .ok data
        else .error (.sm2Error "extra bytes after SM2Cipher SEQUENCE") := by
    rw [hraw, htext, show 0x10000 = sm2MaxPlaintextLen from rfl]
    by_cases hshort : data.length < sm2MaxPlaintextLen
    · rw [if_pos hshort, if_pos hshort, ok_bind, hdec]
    · rw [if_neg hshort, if_neg hshort, error_bind]
  rw [decryptEncrypted, hnew, ok_bind]
  cases format with
  | raw =>
    rw [if_pos (.inl rfl), Sm2Encryptor.encryptAs, henc, ok_bind, Sm2CipherParts.raw,
      Sm2Decryptor.decrypt_raw]
    exact hdec
  | der =>
    rw [Sm2Encryptor.encryptAs, Sm2Encryptor.encryptDer, henc, ok_bind, hder, ok_bind,
      Sm2Decryptor.decrypt_der, hopened]
    simp
  | versioned =>
    rw [if_pos (.inr (.inl rfl)), Sm2Encryptor.encryptAs, Sm2Encryptor.encryptVersioned,
      henc, ok_bind,
      ok_bind, Sm2Decryptor.decrypt_versioned, hdec]
  | versionedDer =>
    rw [Sm2Encryptor.encryptAs, Sm2Encryptor.encryptVersionedDer, Sm2Encryptor.encryptDer,
      henc, ok_bind,
      hder, ok_bind, ok_bind, Sm2Decryptor.decrypt_versionedDer, hopened]
    simp

/-- Every format brings a message back if and only if it is shorter than the longest one that the
encryptor accepts. -/
theorem decrypt_encrypt_iff (hfree : sm2.GeneratorFree) {keyPair : Sm2KeyPair F}
    (hkey : keyPair.privateKey ≠ 0) {k : F} (hk : k ≠ 0) {data : Bytes}
    (hlength : data.length ≤ sm2MaxPlaintextLen) :
    (∀ format, decryptEncrypted sm2 sm3 format keyPair k data = .ok data) ↔ data.length <
    sm2MaxPlaintextLen := by
  constructor
  · intro hall
    have hder := hall .der
    rw [decryptEncrypted_eq sm3 hfree hkey hk hlength] at hder
    by_contra hlong
    rw [if_neg (by simpa using hlong)] at hder
    cases hder
  · intro hshort format
    rw [decryptEncrypted_eq sm3 hfree hkey hk hlength, if_pos (.inr (.inr hshort))]

theorem short_message_roundTrips : (1 : ZMod 3) ≠ 0 ∧ ∀ format,
    decryptEncrypted tinyCurve tinySm3 format ⟨2, "1234567812345678"⟩ 1 [1, 2, 3] = .ok [1, 2, 3] :=
  ⟨by decide, (decrypt_encrypt_iff tinySm3 tinyCurve_generatorFree (by decide) (by decide)
    (by decide)).mpr (by decide)⟩

/-- The longest message does not come back from the DER form. -/
theorem longest_message_not_decrypted : (List.replicate sm2MaxPlaintextLen (0 : UInt8)).length ≤
    sm2MaxPlaintextLen ∧
      decryptEncrypted tinyCurve tinySm3 .der ⟨2, "1234567812345678"⟩ 1
      (List.replicate sm2MaxPlaintextLen 0) =
        .error (.sm2Error "extra bytes after SM2Cipher SEQUENCE") := by
  have hlength : (replicate sm2MaxPlaintextLen (0 : UInt8)).length = sm2MaxPlaintextLen :=
    length_replicate
  refine ⟨hlength.le, ?_⟩
  rw [decryptEncrypted_eq tinySm3 tinyCurve_generatorFree (by decide) (by decide) hlength.le,
    hlength]
  exact if_neg (by decide)

end RoundTrip

end GmStack.Crypto
