import GmStack.Crypto.Sm2Keys
import GmStack.Crypto.Symmetric
import GmStack.Tlcp.Messages

/-! `gm-tlcp/src/tlcp/key_material.rs`, the Finished values of `messages/finished.rs`, and the
pre-master secret of the ECDHE suites from `pms.rs`. -/

namespace GmStack.Tlcp

open Foundation Crypto List

section Prf

variable (sm3 : Sm3Library)

def prfLoop (secret labelSeed : Bytes) (length : ℕ) : ℕ → Bytes → Bytes → Bytes
  | 0, _, result => result
  | fuel + 1, a, result =>
    if result.length < length then
      let result := result ++ sm3Hmac sm3 secret (a ++ labelSeed)
      let a := if result.length < length then sm3Hmac sm3 secret a else a
      prfLoop secret labelSeed length fuel a result
    else result

def prfOutput (secret label seed : Bytes) (length : ℕ) : Bytes :=
  let labelSeed := label ++ seed
  (prfLoop sm3 secret labelSeed length length (sm3Hmac sm3 secret labelSeed) []).take length

def prfExpand (secret label seed : Bytes) (length : ℕ) : Except TlcpError Bytes := do
  rejectIf (length > 16 * 1024) (.handshakeFailed ("prf_expand length " ++ toString length ++
    " exceeds limit " ++ toString (16 * 1024)))
  .ok (prfOutput sm3 secret label seed length)

lemma le_length_prfLoop (secret labelSeed : Bytes) (length fuel : ℕ) (a result : Bytes)
    (hfuel : length ≤ result.length + fuel) :
    length ≤ (prfLoop sm3 secret labelSeed length fuel a result).length := by
  induction fuel generalizing a result with
  | zero => simpa [prfLoop] using hfuel
  | succ fuel ih =>
    rw [prfLoop]
    split_ifs with hshort
    · apply ih
      rw [length_append, length_sm3Hmac]
      omega
    · exact Nat.not_lt.mp hshort

@[simp] lemma length_prfOutput (secret label seed : Bytes) (length : ℕ) :
    (prfOutput sm3 secret label seed length).length = length :=
  length_take_of_le (le_length_prfLoop sm3 _ _ _ _ _ _ (by simp))

lemma prfExpand_eq_ok {secret label seed : Bytes} {length : ℕ} (hlimit : length ≤ 16 * 1024) :
    prfExpand sm3 secret label seed length = .ok (prfOutput sm3 secret label seed length) := by
  rw [prfExpand, rejectIf_bind (Nat.not_lt.mpr hlimit)]

structure TlcpKeyMaterial where
  clientMacKey : Bytes
  serverMacKey : Bytes
  clientEncKey : Bytes
  serverEncKey : Bytes
  clientIv : Bytes
  serverIv : Bytes

def slice (block : Bytes) (start stop : ℕ) : Bytes := (block.drop start).take (stop - start)

def TlcpKeyMaterial.ofBlock (block : Bytes) (gcm : Bool) : TlcpKeyMaterial :=
  if gcm then
    { clientMacKey := []
      serverMacKey := []
      clientEncKey := slice block 0 16
      serverEncKey := slice block 16 32
      clientIv := slice block 32 36
      serverIv := slice block 36 40 }
  else
    { clientMacKey := slice block 0 32
      serverMacKey := slice block 32 64
      clientEncKey := slice block 64 80
      serverEncKey := slice block 80 96
      clientIv := slice block 96 112
      serverIv := slice block 112 128 }

def TlcpKeyMaterial.derive (masterSecret : Bytes) (clientRandom serverRandom : Octets 32)
    (suite : TlcpCipherSuite) : Except TlcpError TlcpKeyMaterial := do
  let needed := if suite.gcm then 40 else 128
  let keyBlock ← prfExpand sm3 masterSecret "key expansion".toUTF8.toList
    (serverRandom.bytes ++ clientRandom.bytes) needed
  .ok (TlcpKeyMaterial.ofBlock keyBlock suite.gcm)

/-- The keys have the lengths of their suite. -/
structure TlcpKeyMaterial.Sized (material : TlcpKeyMaterial) : Prop where
  clientEncKey : material.clientEncKey.length = 16
  serverEncKey : material.serverEncKey.length = 16

lemma length_slice {block : Bytes} {start stop : ℕ} (hstop : stop ≤ block.length) :
    (slice block start stop).length = stop - start := by
  rw [slice, length_take, length_drop]
  omega

lemma TlcpKeyMaterial.exists_derive (masterSecret : Bytes) (clientRandom serverRandom : Octets 32)
    (suite : TlcpCipherSuite) :
    ∃ material, TlcpKeyMaterial.derive sm3 masterSecret clientRandom serverRandom suite =
      .ok material ∧ material.Sized := by
  rw [TlcpKeyMaterial.derive, prfExpand_eq_ok sm3 (by split_ifs <;> decide), ok_bind]
  refine ⟨_, rfl, ?_⟩
  cases suite.gcm with
  | true => exact ⟨length_slice (by simp), length_slice (by simp)⟩
  | false => exact ⟨length_slice (by simp), length_slice (by simp)⟩

def masterSecret (preMasterSecret : Bytes) (clientRandom serverRandom : Octets 32) :
    Except TlcpError Bytes :=
  (prfExpand sm3 preMasterSecret "master secret".toUTF8.toList
    (clientRandom.bytes ++ serverRandom.bytes) 48).mapError fun e ↦ .handshakeFailed e.display

lemma exists_masterSecret (preMasterSecret : Bytes) (clientRandom serverRandom : Octets 32) :
    ∃ master, masterSecret sm3 preMasterSecret clientRandom serverRandom = .ok master := by
  exact ⟨_, rfl⟩

def clientFinishedLabel : Bytes := "client finished".toUTF8.toList

def serverFinishedLabel : Bytes := "server finished".toUTF8.toList

def Finished.compute (masterSecret label transcript : Bytes) : Finished :=
  ⟨⟨prfOutput sm3 masterSecret label (sm3.hash transcript) 12, length_prfOutput sm3 _ _ _ _⟩⟩

end Prf

def sm2CurveBytes : Bytes :=
  [0xFF, 0xFF, 0xFF, 0xFE, 0xFF, 0xFF, 0xFF, 0xFF, 0xFF, 0xFF, 0xFF, 0xFF, 0xFF, 0xFF, 0xFF, 0xFF,
    0xFF, 0xFF, 0xFF, 0xFF, 0x00, 0x00, 0x00, 0x00, 0xFF, 0xFF, 0xFF, 0xFF, 0xFF, 0xFF, 0xFF, 0xFC,
    0x28, 0xE9, 0xFA, 0x9E, 0x9D, 0x9F, 0x5E, 0x34, 0x4D, 0x5A, 0x9E, 0x4B, 0xCF, 0x65, 0x09, 0xA7,
    0xF3, 0x97, 0x89, 0xF5, 0x15, 0xAB, 0x8F, 0x92, 0xDD, 0xBC, 0xBD, 0x41, 0x4D, 0x94, 0x0E, 0x93,
    0x32, 0xC4, 0xAE, 0x2C, 0x1F, 0x19, 0x81, 0x19, 0x5F, 0x99, 0x04, 0x46, 0x6A, 0x39, 0xC9, 0x94,
    0x8F, 0xE3, 0x0B, 0xBF, 0xF2, 0x66, 0x0B, 0xE1, 0x71, 0x5A, 0x45, 0x89, 0x33, 0x4C, 0x74, 0xC7,
    0xBC, 0x37, 0x36, 0xA2, 0xF4, 0xF6, 0x77, 0x9C, 0x59, 0xBD, 0xCE, 0xE3, 0x6B, 0x69, 0x21, 0x53,
    0xD0, 0xA9, 0x87, 0x7C, 0xC6, 0x2A, 0x47, 0x40, 0x02, 0xDF, 0x32, 0xE5, 0x21, 0x39, 0xF0, 0xA0]

def sm2ComputeZ (sm3 : Sm3Library) (pubXy userId : Bytes) : Except TlcpError Bytes := do
  rejectIf (userId.length > 0xFFFF)
    (.handshakeFailed ("user ID too long: " ++ toString userId.length ++ " bytes"))
  .ok (sm3.hash (beOctets 2 (userId.length * 8) ++ userId ++ sm2CurveBytes ++ pubXy))

def sm2Kdf (sm3 : Sm3Library) (z : Bytes) (klen : ℕ) : Except CryptoError Bytes := do
  rejectIf (klen = 0 ∨ klen > 16 * 1024) (.sm2KexError ("sm2_kdf: invalid klen " ++ toString klen))
  .ok (((List.range ((klen + 31) / 32)).flatMap fun i ↦
    sm3.hash (z ++ beOctets 4 (i + 1))).take klen)

variable {F P : Type} [CommRing F] [AddCommGroup P] [Module F P] [DecidableEq F] [DecidableEq P]
  (sm2 : Sm2Curve F P) (sm3 : Sm3Library)

def parseUncompressedPoint (xy : Bytes) : Except CryptoError P := do
  (sm2.encodedPointFromBytes (0x04 :: xy)).mapError fun e ↦
    .sm2KexError ("invalid SM2 point bytes: " ++ e)
  match sm2.decode (0x04 :: xy) with
  | some point => .ok point
  | none => .error (.sm2KexError "invalid SM2 point encoding")

def pointXyBytes (point : P) : Except CryptoError Bytes := do
  let bytes := sm2.encode point
  rejectIf (bytes.head? ≠ some 0x04 ∨ bytes.length ≠ 65) (.sm2KexError
    ("SM2 affine point has unexpected wire format (len=" ++ toString bytes.length ++ ", tag=0x" ++
      String.ofList (Nat.toDigits 16 (bytes.headD 0).toNat) ++ ")"))
  .ok (bytes.drop 1)

def scalarFromBytesChecked (bytes : Bytes) : Except CryptoError F :=
  (sm2.secretKeyFromBytes bytes).mapError fun e ↦
    .sm2KexError ("invalid scalar (must be 1..n-1): " ++ e)

/-- The octets of the transformed coordinate: the lower half of the coordinate with its top bit set.
-/
def xHatRepr (x : Bytes) : Bytes :=
  let xLo := UInt64.ofNat (beNat ((x.drop 24).take 8))
  let xMid := UInt64.ofNat (beNat ((x.drop 16).take 8))
  let xhMid := (xMid &&& 0x7fffffffffffffff) ||| 0x8000000000000000
  replicate 16 0 ++ (beOctets 8 xhMid.toNat ++ beOctets 8 xLo.toNat)

def scalarFromXHat (x : Bytes) : Except CryptoError F := do
  let scalar ← match sm2.scalarFromRepr (xHatRepr x) with
    | some scalar => .ok scalar
    | none => .error (.sm2KexError "invalid x̂ transform (canonical decode failed)")
  rejectIf (scalar = 0) (.sm2KexError "x̂ transform produced zero scalar")
  .ok scalar

def computeTlcpEcdhePms (localStaticPriv localEphemeralXy localEphemeralPriv peerStaticXy
    peerEphemeralXy zA zB : Bytes) (klen : ℕ) : Except TlcpError Bytes := do
  let pointError (what : String) (e : CryptoError) : TlcpError :=
    .sm2KeyError (what ++ e.display)
  let cipherError (e : CryptoError) : TlcpError := .cipherError e.display
  let localEphemeral ← (parseUncompressedPoint sm2 localEphemeralXy).mapError
    (pointError "local ephemeral point: ")
  let peerEphemeral ← (parseUncompressedPoint sm2 peerEphemeralXy).mapError
    (pointError "peer ephemeral point: ")
  let peerStatic ← (parseUncompressedPoint sm2 peerStaticXy).mapError
    (pointError "peer static point: ")
  let localXy ← (pointXyBytes sm2 localEphemeral).mapError cipherError
  let localXHat : F ← (scalarFromXHat sm2 (localXy.take 32)).mapError cipherError
  let localEphemeralScalar ← (scalarFromBytesChecked sm2 localEphemeralPriv).mapError cipherError
  let localStaticScalar ← (scalarFromBytesChecked sm2 localStaticPriv).mapError cipherError
  let t := localXHat * localEphemeralScalar + localStaticScalar
  let peerXy ← (pointXyBytes sm2 peerEphemeral).mapError cipherError
  let peerXHat : F ← (scalarFromXHat sm2 (peerXy.take 32)).mapError cipherError
  let sharedPoint := peerXHat • peerEphemeral + peerStatic
  rejectIf (sharedPoint = 0) (.handshakeFailed "shared point V is identity element")
  let v := t • sharedPoint
  rejectIf (v = 0) (.handshakeFailed "shared point V is identity element")
  let vXy ← (pointXyBytes sm2 v).mapError cipherError
  (sm2Kdf sm3 (vXy ++ zA ++ zB) klen).mapError cipherError

def pointXy (point : P) : Bytes := (sm2.encode point).drop 1

variable {sm2 sm3} {point : P}

omit [DecidableEq F] [DecidableEq P] in
lemma cons_pointXy (hpoint : point ≠ 0) : 0x04 :: pointXy sm2 point = sm2.encode point := by
  have hhead := sm2.head_encode point hpoint
  rw [pointXy]
  cases hbytes : sm2.encode point with
  | nil => simp [hbytes] at hhead
  | cons tag rest =>
    rw [hbytes, head?_cons, Option.some.injEq] at hhead
    rw [hhead, drop_succ_cons, drop_zero]

omit [DecidableEq F] [DecidableEq P] in
lemma parseUncompressedPoint_pointXy (hpoint : point ≠ 0) :
    parseUncompressedPoint sm2 (pointXy sm2 point) = .ok point := by
  rw [parseUncompressedPoint, cons_pointXy hpoint, sm2.encodedPointFromBytes_encode,
    sm2.decode_encode]
  rfl

omit [DecidableEq F] [DecidableEq P] in
lemma pointXyBytes_eq (hpoint : point ≠ 0) : pointXyBytes sm2 point = .ok (pointXy sm2 point) := by
  have hshape : ¬((sm2.encode point).head? ≠ some 0x04 ∨ (sm2.encode point).length ≠ 65) := by
    simp [sm2.head_encode point hpoint, sm2.length_encode point hpoint]
  rw [pointXyBytes, rejectIf_bind hshape, pointXy]

/-- The number the transform stands for. -/
def xHat (x : Bytes) : ℕ := 2 ^ 127 + beNat x % 2 ^ 127

/-- A mask and an or on 64 bits keep the low 63 and set the top one. -/
lemma toNat_setTopBit (word : UInt64) :
    ((word &&& 0x7fffffffffffffff) ||| 0x8000000000000000).toNat =
    2 ^ 63 + word.toNat % 2 ^ 63 := by
  have hmask : word.toNat &&& 0x7fffffffffffffff = word.toNat % 2 ^ 63 :=
    Nat.and_two_pow_sub_one_eq_mod word.toNat 63
  have hor : 2 ^ 63 * 1 + word.toNat % 2 ^ 63 = 2 ^ 63 * 1 ||| word.toNat % 2 ^ 63 :=
    Nat.two_pow_add_eq_or_of_lt (Nat.mod_lt _ (by decide)) 1
  rw [UInt64.toNat_or, UInt64.toNat_and]
  change word.toNat &&& 0x7fffffffffffffff ||| 2 ^ 63 * 1 = _
  rw [hmask, Nat.or_comm, ← hor, mul_one]

lemma toNat_ofNat_beNat {octets : Bytes} (hlen : octets.length = 8) :
    (UInt64.ofNat (beNat octets)).toNat = beNat octets := by
  have hlt := beNat_lt octets
  rw [hlen] at hlt
  exact UInt64.toNat_ofNat_of_lt' hlt

lemma xHatRepr_eq {x : Bytes} (hlen : x.length = 32) : xHatRepr x = beOctets 32 (xHat x) := by
  have hlo : ((x.drop 24).take 8).length = 8 := by simp [hlen]
  have hmid : ((x.drop 16).take 8).length = 8 := by simp [hlen]
  have hparts : x = x.take 16 ++ ((x.drop 16).take 8 ++ (x.drop 24).take 8) := by
    have hend : (x.drop 24).take 8 = (x.drop 16).drop 8 := by
      rw [drop_drop, take_of_length_le (by simp [hlen])]
    rw [hend, take_append_drop, take_append_drop]
  have hnat : beNat x = beNat (x.take 16) * 2 ^ 128 +
      (beNat ((x.drop 16).take 8) * 2 ^ 64 + beNat ((x.drop 24).take 8)) := by
    conv_lhs => rw [hparts, beNat_append, beNat_append, length_append, hlo, hmid]
    norm_num
  have hrepr : beNat (xHatRepr x) = xHat x := by
    have hlt := beNat_lt ((x.drop 24).take 8)
    rw [hlo] at hlt
    simp only [xHatRepr, xHat, beNat_append, length_append, length_beOctets, toNat_setTopBit,
      toNat_ofNat_beNat hlo,
      toNat_ofNat_beNat hmid, hnat]
    rw [beNat_beOctets (by omega), beNat_beOctets hlt, show beNat (replicate 16 0) = 0 by decide]
    omega
  have hoctets := beOctets_beNat (xHatRepr x)
  rw [hrepr, show (xHatRepr x).length = 32 from rfl] at hoctets
  exact hoctets.symm

variable (sm2) in
/-- Positive numbers below 2 ^ 128 decode to scalars, and these are not zero. -/
def WideScalars : Prop :=
  ∀ n : ℕ, 0 < n → n < 2 ^ 128 → sm2.scalarFromRepr (beOctets 32 n) = some (n : F) ∧ (n : F) ≠ 0

omit [DecidableEq P] in
lemma scalarFromXHat_eq (hwide : WideScalars sm2) {x : Bytes} (hlen : x.length = 32) :
    scalarFromXHat sm2 x = .ok (xHat x : F) := by
  have hbound : xHat x < 2 ^ 128 := by
    rw [xHat]
    omega
  have hpos : 0 < xHat x := Nat.add_pos_left (by decide) _
  obtain ⟨hdecode, hzero⟩ := hwide _ hpos hbound
  simp only [scalarFromXHat, xHatRepr_eq hlen, hdecode, ok_bind]
  rw [rejectIf_bind hzero]

omit [DecidableEq F] [DecidableEq P] in
lemma length_take_pointXy (hpoint : point ≠ 0) : ((pointXy sm2 point).take 32).length = 32 := by
  simp [pointXy, sm2.length_encode point hpoint]

omit [DecidableEq F] [DecidableEq P] in
lemma scalarFromBytesChecked_scalarToBytes {scalar : F} (hscal : scalar ≠ 0) :
    scalarFromBytesChecked sm2 (sm2.scalarToBytes scalar) = .ok scalar := by
  rw [scalarFromBytesChecked, sm2.secretKeyFromBytes_scalarToBytes scalar hscal]
  rfl

variable (sm2) in
def contribution (static ephemeral : F) : F :=
  (xHat ((pointXy sm2 (ephemeral • sm2.generator)).take 32) : F) * ephemeral + static

variable (sm2 sm3) in
def sharedPreMasterSecret (product : F) (zA zB : Bytes) (klen : ℕ) : Except TlcpError Bytes :=
  if product • sm2.generator = 0 then
    .error (.handshakeFailed "shared point V is identity element")
  else
    (sm2Kdf sm3 (pointXy sm2 (product • sm2.generator) ++ zA ++ zB) klen).mapError fun e ↦
      .cipherError e.display

variable (sm3) in
lemma computeTlcpEcdhePms_eq (hfree : sm2.GeneratorFree) (hwide : WideScalars sm2)
    {static ephemeral peerStatic peerEphemeral : F} (hstatic : static ≠ 0)
    (heph : ephemeral ≠ 0) (hpeerStatic : peerStatic ≠ 0) (hpeerEphemeral : peerEphemeral ≠ 0)
    (zA zB : Bytes) (klen : ℕ) : computeTlcpEcdhePms sm2 sm3 (sm2.scalarToBytes static)
        (pointXy sm2 (ephemeral • sm2.generator)) (sm2.scalarToBytes ephemeral)
        (pointXy sm2 (peerStatic • sm2.generator)) (pointXy sm2 (peerEphemeral • sm2.generator))
        zA zB klen =
      sharedPreMasterSecret sm2 sm3
        (contribution sm2 static ephemeral * contribution sm2 peerStatic peerEphemeral)
        zA zB klen := by
  have hpoint : ∀ {scalar : F}, scalar ≠ 0 → scalar • sm2.generator ≠ 0 :=
    fun hscal hzero ↦ hscal (hfree _ hzero)
  have hshared : (xHat ((pointXy sm2 (peerEphemeral • sm2.generator)).take 32) : F) •
      peerEphemeral • sm2.generator + peerStatic • sm2.generator =
        contribution sm2 peerStatic peerEphemeral • sm2.generator := by
    rw [contribution, add_smul, mul_smul]
  simp only [computeTlcpEcdhePms, parseUncompressedPoint_pointXy (hpoint heph),
    parseUncompressedPoint_pointXy (hpoint hpeerEphemeral),
    parseUncompressedPoint_pointXy (hpoint hpeerStatic), pointXyBytes_eq (hpoint heph),
    pointXyBytes_eq (hpoint hpeerEphemeral),
      scalarFromXHat_eq hwide (length_take_pointXy (hpoint heph)),
    scalarFromXHat_eq hwide (length_take_pointXy (hpoint hpeerEphemeral)),
    scalarFromBytesChecked_scalarToBytes heph, scalarFromBytesChecked_scalarToBytes hstatic,
    Except.mapError, ok_bind, hshared]
  rw [← contribution, ← mul_smul, sharedPreMasterSecret]
  by_cases hpeer : contribution sm2 peerStatic peerEphemeral • sm2.generator = 0
  · rw [rejectIf_pos hpeer, mul_smul, hpeer, smul_zero, if_pos rfl]
    rfl
  rw [rejectIf_bind hpeer]
  by_cases hprod : (contribution sm2 static ephemeral * contribution sm2 peerStatic peerEphemeral) •
    sm2.generator = 0
  · rw [rejectIf_pos hprod, if_pos hprod]
    rfl
  · rw [rejectIf_bind hprod, pointXyBytes_eq hprod, if_neg hprod]
    rfl

end GmStack.Tlcp
