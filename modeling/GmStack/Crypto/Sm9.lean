import GmStack.Crypto.Symmetric
import Mathlib.Data.Nat.Prime.Basic

/-! The schemes of `gm-sm9-rs`. Points arrive without a check that they lie on the curve, so only
laws on the multiples of the generators are assumed (`Sm9Library.Bilinear`). -/

namespace GmStack.Crypto

open Foundation List Except

/-- `Sm9Error`, for the errors the modelled functions return. -/
inductive Sm9Error
  | invalidParameter (text : String)
  | decryptionFailed
  | cryptoError (text : String)
  | invalidPoint
  | signingError (text : String)
  | encryptionError (text : String)
  | arithError (text : String)
  deriving DecidableEq

def Sm9Error.display : Sm9Error → String
  | .invalidParameter text => "invalid parameter: " ++ text
  | .decryptionFailed => "decryption failed"
  | .cryptoError text => "cryptography error: " ++ text
  | .invalidPoint => "invalid point"
  | .signingError text => "signing error: " ++ text
  | .encryptionError text => "encryption error: " ++ text
  | .arithError text => "arithmetic error: " ++ text

/-- The groups, the field of coordinates, the pairing and the hash functions. A field element is its
32 canonical octets and a scalar is a number. -/
structure Sm9Library (G1 G2 GT : Type) where
  order : ℕ
  p1 : G1
  p2 : G2
  g1Mul : ℕ → G1 → G1
  g1Add : G1 → G1 → G1
  g2Mul : ℕ → G2 → G2
  g2Add : G2 → G2 → G2
  pairing : G1 → G2 → GT
  gtMul : GT → GT → GT
  gtPow : GT → ℕ → GT
  fpFromBytes : Bytes → Except String Bytes
  toAffine : G1 → Option (Bytes × Bytes)
  fromAffine : Bytes → Bytes → G1
  gtToBytes : GT → Bytes
  gtToBytesGmssl : GT → Bytes
  hash1 : Bytes → UInt8 → ℕ
  hash2 : Bytes → Bytes → ℕ
  modinv : ℕ → Option ℕ

variable {G1 G2 GT : Type} (sm9 : Sm9Library G1 G2 GT) (sm3 : Sm3Library)

def g1Octets (point : G1) : Bytes :=
  match sm9.toAffine point with
  | some (x, y) => 0x04 :: x ++ y
  | none => List.replicate 65 0

def g1FromOctets (xy : Bytes) : Except Sm9Error G1 := do
  let x ← (sm9.fpFromBytes (xy.take 32)).mapError .arithError
  let y ← (sm9.fpFromBytes (xy.drop 32)).mapError .arithError
  .ok (sm9.fromAffine x y)

def sm9KdfBlocks (seed : Bytes) (klen : ℕ) : Bytes :=
  ((List.range ((klen + 31) / 32)).flatMap fun i ↦ sm3.hash (seed ++ beOctets 4 (i + 1))).take klen

def userScalar (s h1 : ℕ) : Except Sm9Error ℕ := do
  rejectIf (s = 0)
    (.cryptoError "Cannot extract key: master secret s is zero (public-key-only instance)")
  match sm9.modinv ((s + h1) % sm9.order) with
  | some inverse => .ok (s * inverse % sm9.order)
  | none => .error (.cryptoError "modular inverse failed")

structure SignMasterKey (G2 : Type) where
  s : ℕ
  ppubs : G2

structure SignUserKey (G1 G2 : Type) where
  ds : G1
  ppubs : G2

structure EncMasterKey (G1 : Type) where
  s : ℕ
  ppube : G1

structure EncUserKey (G1 G2 : Type) where
  de : G2
  ppube : G1

def SignMasterKey.extractKey (master : SignMasterKey G2) (identity : Bytes) :
    Except Sm9Error (SignUserKey G1 G2) := do
  let scalar ← userScalar sm9 master.s (sm9.hash1 identity 0x01)
  .ok { ds := sm9.g1Mul scalar sm9.p1, ppubs := master.ppubs }

def EncMasterKey.extractKeyWithHid (master : EncMasterKey G1) (identity : Bytes) (hid : UInt8) :
    Except Sm9Error (EncUserKey G1 G2) := do
  let scalar ← userScalar sm9 master.s (sm9.hash1 identity hid)
  .ok { de := sm9.g2Mul scalar sm9.p2, ppube := master.ppube }

def EncMasterKey.extractKey (master : EncMasterKey G1) (identity : Bytes) :
    Except Sm9Error (EncUserKey G1 G2) := master.extractKeyWithHid sm9 identity 0x02

def EncMasterKey.extractKeyExchange (master : EncMasterKey G1) (identity : Bytes) :
    Except Sm9Error (EncUserKey G1 G2) := master.extractKeyWithHid sm9 identity 0x03

structure Sm9Signature (G1 : Type) where
  h : ℕ
  s : G1

def Sm9Signature.toBytes (signature : Sm9Signature G1) : Bytes :=
  beOctets 32 signature.h ++ g1Octets sm9 signature.s

def Sm9Signature.fromBytes (bytes : Bytes) : Except Sm9Error (Sm9Signature G1) := do
  if bytes.length = 97 then
    rejectIf (bytes[32]? ≠ some 0x04) (.invalidParameter
      ("Invalid S point prefix: expected 0x04, got 0x" ++ hexOctetLower (bytes.getD 32 0)))
    let s ← g1FromOctets sm9 (bytes.drop 33)
    .ok { h := beNat (bytes.take 32), s }
  else if bytes.length = 96 then
    let s ← g1FromOctets sm9 (bytes.drop 32)
    .ok { h := beNat (bytes.take 32), s }
  else
    .error (.invalidParameter ("Invalid signature bytes length: expected 97 or 96, got " ++
      toString bytes.length))

def sm9Verify (identity : Bytes) (ppubs : G2) (message : Bytes) (signature : Sm9Signature G1) :
    Except Sm9Error Bool :=
  if (sm9.toAffine signature.s).isNone then .ok false
  else
    let h1 := sm9.hash1 identity 0x01
    let p := sm9.g2Add (sm9.g2Mul h1 sm9.p2) ppubs
    let g := sm9.pairing sm9.p1 ppubs
    let u := sm9.pairing signature.s p
    let t := sm9.gtPow g signature.h
    let wPrime := sm9.gtMul u t
    .ok (sm9.hash2 message (sm9.gtToBytesGmssl wPrime) == signature.h)

def signAttempt (key : SignUserKey G1 G2) (message : Bytes) (r : ℕ) : ℕ × Sm9Signature G1 :=
  let w := sm9.gtPow (sm9.pairing sm9.p1 key.ppubs) r
  let h := sm9.hash2 message (sm9.gtToBytesGmssl w)
  let l := (r + sm9.order - h) % sm9.order
  (l, { h, s := sm9.g1Mul l key.ds })

def signLoop (key : SignUserKey G1 G2) (identity message : Bytes) :
    List ℕ → Except Sm9Error (Sm9Signature G1)
  | [] => .error (.signingError "Max retries exceeded — this should never happen")
  | r :: draws => do
    let (l, signature) := signAttempt sm9 key message r
    if l = 0 then signLoop key identity message draws
    else if identity = [] then .ok signature
    else if ← sm9Verify sm9 identity key.ppubs message signature then .ok signature
    else signLoop key identity message draws

def sm9Sign (key : SignUserKey G1 G2) (identity message : Bytes) (draws : List ℕ) :
    Except Sm9Error (Sm9Signature G1) := signLoop sm9 key identity message (draws.take 128)

structure Sm9Ciphertext (G1 : Type) where
  c1 : G1
  c2 : Bytes
  c3 : Bytes

def Sm9Ciphertext.toBytes (ciphertext : Sm9Ciphertext G1) : Bytes :=
  g1Octets sm9 ciphertext.c1 ++ ciphertext.c3 ++ ciphertext.c2

def Sm9Ciphertext.fromBytes (bytes : Bytes) : Except Sm9Error (Sm9Ciphertext G1) := do
  rejectIf (bytes.length < 97) (.invalidParameter
    ("Ciphertext too short: " ++ toString bytes.length ++ " bytes, need at least 97"))
  rejectIf (bytes.head? ≠ some 0x04 ∧ bytes.head? ≠ some 0x00) (.invalidParameter
    ("Invalid C1 prefix: expected 0x04 or 0x00, got 0x" ++ hexOctetLower (bytes.headD 0)))
  let c1 ← g1FromOctets sm9 ((bytes.drop 1).take 64)
  .ok { c1, c2 := bytes.drop 97, c3 := (bytes.drop 65).take 32 }

def kemAttempt (recipient : Bytes) (ppube : G1) (klen r : ℕ) :
    Except Sm9Error (Option (Bytes × G1)) := do
  let q := sm9.g1Add (sm9.g1Mul (sm9.hash1 recipient 0x02) sm9.p1) ppube
  let c1 := sm9.g1Mul r q
  let w := sm9.gtPow (sm9.pairing ppube sm9.p2) r
  rejectIf ((sm9.toAffine c1).isNone) .invalidPoint
  let k := sm9KdfBlocks sm3 (g1Octets sm9 c1 ++ sm9.gtToBytesGmssl w ++ recipient) klen
  .ok (if k.all (· == 0) then none else some (k, c1))

def kemEncrypt (recipient : Bytes) (ppube : G1) (klen : ℕ) : List ℕ → Except Sm9Error (Bytes × G1)
  | [] => .error (.encryptionError "Max retries exceeded — KDF output all zeros")
  | r :: draws => do
    match ← kemAttempt sm9 sm3 recipient ppube klen r with
    | some encapsulated => .ok encapsulated
    | none => kemEncrypt recipient ppube klen draws

def sm9Encrypt (recipient : Bytes) (ppube : G1) (message : Bytes) (draws : List ℕ) :
    Except Sm9Error (Sm9Ciphertext G1) := do
  let (k, c1) ← kemEncrypt sm9 sm3 recipient ppube (message.length + 32) (draws.take 128)
  let c2 := xorBytes message (k.take message.length)
  let c3 := sm3.hash (k.drop message.length ++ c2)
  .ok { c1, c2, c3 }

def sm9Decrypt (key : EncUserKey G1 G2) (ciphertext : Sm9Ciphertext G1) (identity : Bytes) :
    Except Sm9Error Bytes := do
  let w := sm9.pairing ciphertext.c1 key.de
  rejectIf ((sm9.toAffine ciphertext.c1).isNone) .invalidPoint
  let k := sm9KdfBlocks sm3 (g1Octets sm9 ciphertext.c1 ++ sm9.gtToBytesGmssl w ++ identity)
    (ciphertext.c2.length + 32)
  rejectIf (k.all (· == 0)) .decryptionFailed
  let computed := sm3.hash (k.drop ciphertext.c2.length ++ ciphertext.c2)
  rejectIf (computed ≠ ciphertext.c3) .decryptionFailed
  .ok (xorBytes ciphertext.c2 (k.take ciphertext.c2.length))

/-- `InitiatorState`, with the point that `InitiatorRound1` also carries. -/
structure InitiatorState (G1 : Type) where
  rA : ℕ
  rAPoint : G1

/-- `ResponderOutput`, for a responder that confirms. -/
structure ResponderOutput (G1 : Type) where
  rB : G1
  sharedKey : Bytes
  sB : Bytes

def computeQ (identity : Bytes) (ppube : G1) : G1 :=
  sm9.g1Add (sm9.g1Mul (sm9.hash1 identity 0x03) sm9.p1) ppube

def initiatorBegin (idB : Bytes) (ppube : G1) (rA : ℕ) : InitiatorState G1 :=
  { rA, rAPoint := sm9.g1Mul rA (computeQ sm9 idB ppube) }

/-- The three pairing values that both sides hold. -/
structure ExchangeValues (GT : Type) where
  g1 : GT
  g2 : GT
  g3 : GT

def computeSb (values : ExchangeValues GT) (idA idB : Bytes) (rA rB : G1) : Bytes :=
  let inner := sm3.hash (sm9.gtToBytes values.g2 ++ sm9.gtToBytes values.g3 ++ idA ++ idB ++
    g1Octets sm9 rA ++ g1Octets sm9 rB)
  sm3.hash (0x82 :: sm9.gtToBytes values.g1 ++ inner)

def kdfKeyExchange (idA idB : Bytes) (rA rB : G1) (values : ExchangeValues GT) (klen : ℕ) : Bytes :=
  sm9KdfBlocks sm3 (idA ++ idB ++ g1Octets sm9 rA ++ g1Octets sm9 rB ++ sm9.gtToBytes values.g1 ++
    sm9.gtToBytes values.g2 ++ sm9.gtToBytes values.g3) klen

def responderProcess (idA idB : Bytes) (ppube : G1) (deB : EncUserKey G1 G2)
    (rA : G1) (klen rB : ℕ) :
    Except Sm9Error (ResponderOutput G1) := do
  let rBPoint := sm9.g1Mul rB (computeQ sm9 idA ppube)
  rejectIf ((sm9.toAffine rA).isNone) .invalidPoint
  let g1 := sm9.pairing rA deB.de
  let g2 := sm9.gtPow (sm9.pairing ppube sm9.p2) rB
  let g3 := sm9.gtPow g1 rB
  .ok
    { rB := rBPoint
      sharedKey := kdfKeyExchange sm9 sm3 idA idB rA rBPoint ⟨g1, g2, g3⟩ klen
      sB := computeSb sm9 sm3 ⟨g1, g2, g3⟩ idA idB rA rBPoint }

def InitiatorState.values (state : InitiatorState G1) (rB : G1) (deA : EncUserKey G1 G2) :
    ExchangeValues GT :=
  let g1 := sm9.gtPow (sm9.pairing deA.ppube sm9.p2) state.rA
  let g2 := sm9.pairing rB deA.de
  ⟨g1, g2, sm9.gtPow g2 state.rA⟩

def initiatorFinish (state : InitiatorState G1) (rB : G1) (deA : EncUserKey G1 G2) (idA idB : Bytes)
    (klen : ℕ) (sB : Bytes) : Except Sm9Error Bytes := do
  rejectIf ((sm9.toAffine rB).isNone) .invalidPoint
  let values := state.values sm9 rB deA
  rejectIf (computeSb sm9 sm3 values idA idB state.rAPoint rB ≠ sB)
    (.cryptoError "Key confirmation failed: S_B mismatch")
  .ok (kdfKeyExchange sm9 sm3 idA idB state.rAPoint rB values klen)

/-- What the schemes need of the curve arithmetic. The pairing is bilinear where its second argument
is not the point at infinity, for which its loop has no case. -/
structure Sm9Library.Bilinear : Prop where
  prime_order : sm9.order.Prime
  order_le : sm9.order ≤ 256 ^ 32
  g1Mul_one : sm9.g1Mul 1 sm9.p1 = sm9.p1
  g1Add_mul : ∀ a b, sm9.g1Add (sm9.g1Mul a sm9.p1) (sm9.g1Mul b sm9.p1) = sm9.g1Mul (a + b) sm9.p1
  g1Mul_mul : ∀ a b, sm9.g1Mul a (sm9.g1Mul b sm9.p1) = sm9.g1Mul (a * b) sm9.p1
  g2Mul_one : sm9.g2Mul 1 sm9.p2 = sm9.p2
  g2Add_mul : ∀ a b, sm9.g2Add (sm9.g2Mul a sm9.p2) (sm9.g2Mul b sm9.p2) = sm9.g2Mul (a + b) sm9.p2
  pairing_mul : ∀ a b, ¬ sm9.order ∣ b → sm9.pairing (sm9.g1Mul a sm9.p1) (sm9.g2Mul b sm9.p2) =
    sm9.gtPow (sm9.pairing sm9.p1 sm9.p2) (a * b)
  gtPow_pow : ∀ a b, sm9.gtPow (sm9.gtPow (sm9.pairing sm9.p1 sm9.p2) a) b =
    sm9.gtPow (sm9.pairing sm9.p1 sm9.p2) (a * b)
  gtMul_pow : ∀ a b, sm9.gtMul (sm9.gtPow (sm9.pairing sm9.p1 sm9.p2) a)
    (sm9.gtPow (sm9.pairing sm9.p1 sm9.p2) b) = sm9.gtPow (sm9.pairing sm9.p1 sm9.p2) (a + b)
  gtPow_congr : ∀ a b, a ≡ b [MOD sm9.order] →
    sm9.gtPow (sm9.pairing sm9.p1 sm9.p2) a = sm9.gtPow (sm9.pairing sm9.p1 sm9.p2) b
  toAffine_mul : ∀ a, (sm9.toAffine (sm9.g1Mul a sm9.p1)).isNone = true ↔ sm9.order ∣ a
  affine : ∀ point x y, sm9.toAffine point = some (x, y) →
    x.length = 32 ∧ y.length = 32 ∧ sm9.fpFromBytes x = .ok x ∧ sm9.fpFromBytes y = .ok y ∧
    sm9.fromAffine x y = point
  modinv_mul : ∀ a b, sm9.modinv a = some b → a * b ≡ 1 [MOD sm9.order]
  hash2_lt : ∀ message w, sm9.hash2 message w < sm9.order

/-- A master key pair for signatures. -/
structure SignMasterKey.Valid (master : SignMasterKey G2) : Prop where
  s_lt : master.s < sm9.order
  ppubs_eq : master.ppubs = sm9.g2Mul master.s sm9.p2

/-- A master key pair for encryption and key exchange. -/
structure EncMasterKey.Valid (master : EncMasterKey G1) : Prop where
  s_lt : master.s < sm9.order
  ppube_eq : master.ppube = sm9.g1Mul master.s sm9.p1

variable {sm9 sm3} {h1 s scalar : ℕ}

lemma userScalar_mul (hlaws : sm9.Bilinear)
    (hscal : userScalar sm9 s h1 = .ok scalar) : (h1 + s) * scalar ≡ s [MOD sm9.order] := by
  simp only [userScalar, unit_bind_eq_ok] at hscal
  obtain ⟨-, hscal⟩ := hscal
  cases hinverse : sm9.modinv ((s + h1) % sm9.order) with
  | none => simp [hinverse] at hscal
  | some inverse =>
    rw [hinverse] at hscal
    obtain rfl := ok.inj hscal
    have hcancel := hlaws.modinv_mul _ _ hinverse
    calc (h1 + s) * (s * inverse % sm9.order) ≡ (s + h1) * (s * inverse) [MOD sm9.order] := by
          rw [Nat.add_comm h1 s]
          exact (Nat.mod_modEq _ _).mul_left _
      _ = (s + h1) * inverse * s := by ring
      _ ≡ ((s + h1) % sm9.order * inverse) * s [MOD sm9.order] :=
          ((Nat.mod_modEq _ _).symm.mul_right _).mul_right _
      _ ≡ 1 * s [MOD sm9.order] := hcancel.mul_right _
      _ = s := one_mul s

lemma userScalar_pos (hscal : userScalar sm9 s h1 = .ok scalar) : s ≠ 0 := by
  simp only [userScalar, unit_bind_eq_ok, rejectIf_eq_ok] at hscal
  exact hscal.1

lemma toAffine_mul_ne (hlaws : sm9.Bilinear) {a : ℕ} (ha : ¬ sm9.order ∣ a) :
    (sm9.toAffine (sm9.g1Mul a sm9.p1)).isNone = false :=
  Bool.eq_false_iff.mpr (mt (hlaws.toAffine_mul a).mp ha)

lemma not_order_dvd {a : ℕ} (hpos : a ≠ 0) (hlt : a < sm9.order) : ¬ sm9.order ∣ a :=
  fun hdvd ↦ Nat.not_lt.mpr (Nat.le_of_dvd (Nat.pos_of_ne_zero hpos) hdvd) hlt

lemma not_order_dvd_userScalar (hlaws : sm9.Bilinear)
    (hscal : userScalar sm9 s h1 = .ok scalar) (hs : s < sm9.order) :
    ¬ sm9.order ∣ (h1 + s) * scalar := by
  intro hdvd
  exact not_order_dvd (userScalar_pos hscal) hs
    ((Nat.ModEq.dvd_iff (userScalar_mul hlaws hscal) dvd_rfl).mp hdvd)

lemma pairing_p1_ppubs (hlaws : sm9.Bilinear) {master : SignMasterKey G2} (hms : master.Valid sm9)
    (hs : master.s ≠ 0) :
    sm9.pairing sm9.p1 master.ppubs = sm9.gtPow (sm9.pairing sm9.p1 sm9.p2) master.s := by
  have hpairing := hlaws.pairing_mul 1 master.s (not_order_dvd hs hms.s_lt)
  rwa [hlaws.g1Mul_one, one_mul, ← hms.ppubs_eq] at hpairing

variable {master : EncMasterKey G1}

lemma pairing_ppube_p2 (hlaws : sm9.Bilinear) (hms : master.Valid sm9) :
    sm9.pairing master.ppube sm9.p2 = sm9.gtPow (sm9.pairing sm9.p1 sm9.p2) master.s := by
  have hpairing := hlaws.pairing_mul master.s 1 hlaws.prime_order.not_dvd_one
  rwa [hlaws.g2Mul_one, mul_one, ← hms.ppube_eq] at hpairing

variable {identity : Bytes} {key : SignUserKey G1 G2}

lemma extractKey_eq_ok {master : SignMasterKey G2}
    (hkey : master.extractKey sm9 identity = .ok key) :
    ∃ scalar, userScalar sm9 master.s (sm9.hash1 identity 0x01) = .ok scalar ∧
      key = ⟨sm9.g1Mul scalar sm9.p1, master.ppubs⟩ := by
  rw [SignMasterKey.extractKey, bind_eq_ok] at hkey
  obtain ⟨scalar, hscal, hval⟩ := hkey
  exact ⟨scalar, hscal, (ok.inj hval).symm⟩

lemma verify_signAttempt (hlaws : sm9.Bilinear) {master : SignMasterKey G2} (hms : master.Valid sm9)
    (hkey : master.extractKey sm9 identity = .ok key) (message : Bytes) {r : ℕ}
    (hl : (signAttempt sm9 key message r).1 ≠ 0) :
    sm9Verify sm9 identity master.ppubs message (signAttempt sm9 key message r).2 = .ok true := by
  obtain ⟨scalar, hscal, rfl⟩ := extractKey_eq_ok hkey
  simp only [signAttempt] at hl ⊢
  generalize hh : sm9.hash2 message
    (sm9.gtToBytesGmssl (sm9.gtPow (sm9.pairing sm9.p1 master.ppubs) r)) = h at hl ⊢
  generalize hldef : (r + sm9.order - h) % sm9.order = l at hl ⊢
  have hhlt : h < sm9.order := hh ▸ hlaws.hash2_lt _ _
  have hllt : l < sm9.order := hldef ▸ Nat.mod_lt _ hlaws.prime_order.pos
  -- `l` and `h` add up to the draw.
  have hsum : l + h ≡ r [MOD sm9.order] := by
    rw [← hldef]
    calc (r + sm9.order - h) % sm9.order + h ≡ (r + sm9.order - h) + h [MOD sm9.order] :=
          (Nat.mod_modEq _ _).add_right _
      _ = r + sm9.order := by omega
      _ ≡ r [MOD sm9.order] := Nat.add_modEq_right
  have hcancel := userScalar_mul hlaws hscal
  have hfin : (sm9.toAffine (sm9.g1Mul (l * scalar) sm9.p1)).isNone = false := by
    apply toAffine_mul_ne hlaws
    intro hdvd
    rcases hlaws.prime_order.dvd_mul.mp hdvd with hdvd | hdvd
    · exact not_order_dvd hl hllt hdvd
    · exact not_order_dvd_userScalar hlaws hscal hms.s_lt (Dvd.dvd.mul_left hdvd _)
  have hw : sm9.gtMul (sm9.pairing (sm9.g1Mul (l * scalar) sm9.p1)
      (sm9.g2Add (sm9.g2Mul (sm9.hash1 identity 0x01) sm9.p2) master.ppubs))
      (sm9.gtPow (sm9.pairing sm9.p1 master.ppubs) h) =
        sm9.gtPow (sm9.pairing sm9.p1 master.ppubs) r := by
    have hpoint : ¬ sm9.order ∣ sm9.hash1 identity 0x01 + master.s := fun hdvd ↦
      not_order_dvd_userScalar hlaws hscal hms.s_lt (Dvd.dvd.mul_right hdvd _)
    rw [pairing_p1_ppubs hlaws hms (userScalar_pos hscal), hms.ppubs_eq, hlaws.g2Add_mul,
      hlaws.pairing_mul _ _ hpoint,
      hlaws.gtPow_pow, hlaws.gtPow_pow, hlaws.gtMul_pow]
    apply hlaws.gtPow_congr
    calc l * scalar * (sm9.hash1 identity 0x01 + master.s) + master.s * h
        = l * ((sm9.hash1 identity 0x01 + master.s) * scalar) + master.s * h := by ring
      _ ≡ l * master.s + master.s * h [MOD sm9.order] := (hcancel.mul_left l).add_right _
      _ = master.s * (l + h) := by ring
      _ ≡ master.s * r [MOD sm9.order] := hsum.mul_left _
  simp only [sm9Verify, hlaws.g1Mul_mul, hfin, hw, hh, beq_self_eq_true,
    Bool.false_eq_true, if_false]

variable {draws : List ℕ} {message : Bytes} {signature : Sm9Signature G1}

lemma signLoop_eq_ok (hsign : signLoop sm9 key identity message draws = .ok signature) :
    ∃ r, (signAttempt sm9 key message r).1 ≠ 0 ∧ signature = (signAttempt sm9 key message r).2 := by
  induction draws with
  | nil => cases hsign
  | cons r draws ih =>
    simp only [signLoop] at hsign
    split_ifs at hsign with hl hid
    · exact ih hsign
    · exact ⟨r, hl, (ok.inj hsign).symm⟩
    rw [bind_eq_ok] at hsign
    obtain ⟨accepted, -, hsign⟩ := hsign
    split_ifs at hsign
    · exact ⟨r, hl, (ok.inj hsign).symm⟩
    · exact ih hsign

lemma verify_sign (hlaws : sm9.Bilinear) {master : SignMasterKey G2} (hms : master.Valid sm9)
    (hkey : master.extractKey sm9 identity = .ok key)
    (hsign : sm9Sign sm9 key identity message draws = .ok signature) :
    sm9Verify sm9 identity master.ppubs message signature = .ok true := by
  obtain ⟨r, hl, rfl⟩ := signLoop_eq_ok hsign
  exact verify_signAttempt hlaws hms hkey message hl

variable {point : G1}

lemma g1Octets_eq (hfin : (sm9.toAffine point).isNone = false) :
    ∃ x y, sm9.toAffine point = some (x, y) ∧ g1Octets sm9 point = 0x04 :: x ++ y := by
  cases haffine : sm9.toAffine point with
  | none => simp [haffine] at hfin
  | some coordinates => exact ⟨coordinates.1, coordinates.2, rfl, by rw [g1Octets, haffine]⟩

lemma length_g1Octets (hlaws : sm9.Bilinear)
    (hfin : (sm9.toAffine point).isNone = false) : (g1Octets sm9 point).length = 65 := by
  obtain ⟨x, y, haffine, hoct⟩ := g1Octets_eq hfin
  obtain ⟨hx, hy, -⟩ := hlaws.affine _ _ _ haffine
  simp [hoct, hx, hy]

lemma head?_g1Octets (hfin : (sm9.toAffine point).isNone = false) :
    (g1Octets sm9 point).head? = some 0x04 := by
  obtain ⟨x, y, -, hoct⟩ := g1Octets_eq hfin
  rw [hoct]
  rfl

lemma g1FromOctets_g1Octets (hlaws : sm9.Bilinear) (hfin : (sm9.toAffine point).isNone = false) :
    g1FromOctets sm9 ((g1Octets sm9 point).drop 1) = .ok point := by
  obtain ⟨x, y, haffine, hoct⟩ := g1Octets_eq hfin
  obtain ⟨hx, hy, hparseX, hparseY, hpoint⟩ := hlaws.affine _ _ _ haffine
  have hparts : (g1Octets sm9 point).drop 1 = x ++ y := by rw [hoct]; rfl
  rw [hparts, g1FromOctets, take_left' hx, drop_left' hx, hparseX, hparseY]
  simp [hpoint]

lemma Sm9Signature.fromBytes_toBytes (hlaws : sm9.Bilinear)
    (hh : signature.h < 256 ^ 32) (hfin : (sm9.toAffine signature.s).isNone = false) :
    Sm9Signature.fromBytes sm9 (signature.toBytes sm9) = .ok signature := by
  have hpoint := length_g1Octets hlaws hfin
  have hh32 : (beOctets 32 signature.h).length = 32 := length_beOctets _ _
  have hlen : (signature.toBytes sm9).length = 97 := by
    rw [Sm9Signature.toBytes, length_append, hh32, hpoint]
  have htag : (signature.toBytes sm9)[32]? = some 0x04 := by
    rw [Sm9Signature.toBytes, getElem?_append_right hh32.le, hh32, Nat.sub_self,
      ← head?_eq_getElem?, head?_g1Octets hfin]
  have htail : (signature.toBytes sm9).drop 33 = (g1Octets sm9 signature.s).drop 1 := by
    rw [Sm9Signature.toBytes, drop_append, hh32, drop_eq_nil_of_le (hh32.le.trans (by decide)),
      nil_append]
  rw [Sm9Signature.fromBytes, if_pos hlen, rejectIf_ne_bind htag, htail,
    g1FromOctets_g1Octets hlaws hfin, ok_bind, Sm9Signature.toBytes, take_left' hh32,
    beNat_beOctets hh]

variable {ciphertext : Sm9Ciphertext G1}

lemma Sm9Ciphertext.fromBytes_toBytes (hlaws : sm9.Bilinear)
    (hfin : (sm9.toAffine ciphertext.c1).isNone = false) (hc3 : ciphertext.c3.length = 32) :
    Sm9Ciphertext.fromBytes sm9 (ciphertext.toBytes sm9) = .ok ciphertext := by
  have hpoint := length_g1Octets hlaws hfin
  have hhead : (ciphertext.toBytes sm9).head? = some 0x04 := by
    obtain ⟨x, y, -, hoct⟩ := g1Octets_eq hfin
    rw [Sm9Ciphertext.toBytes, hoct]
    rfl
  have hlen : ¬ (ciphertext.toBytes sm9).length < 97 := by
    simp only [Sm9Ciphertext.toBytes, length_append, hpoint, hc3]
    omega
  have hxy : ((ciphertext.toBytes sm9).drop 1).take 64 = (g1Octets sm9 ciphertext.c1).drop 1 := by
    rw [Sm9Ciphertext.toBytes, append_assoc, drop_append_of_le_length (by omega),
      take_left' (by rw [length_drop, hpoint])]
  have hc3' : ((ciphertext.toBytes sm9).drop 65).take 32 = ciphertext.c3 := by
    rw [Sm9Ciphertext.toBytes, append_assoc, drop_left' hpoint, take_left' hc3]
  have hc2 : (ciphertext.toBytes sm9).drop 97 = ciphertext.c2 :=
    drop_left' (by rw [length_append, hpoint, hc3])
  rw [Sm9Ciphertext.fromBytes, rejectIf_bind hlen,
    rejectIf_bind (fun hneither ↦ hneither.1 hhead), hxy, g1FromOctets_g1Octets hlaws hfin,
    ok_bind, hc3', hc2]

lemma fits_of_sign (hlaws : sm9.Bilinear) {master : SignMasterKey G2} (hms : master.Valid sm9)
    (hkey : master.extractKey sm9 identity = .ok key)
    (hsign : sm9Sign sm9 key identity message draws = .ok signature) :
    signature.h < 256 ^ 32 ∧ (sm9.toAffine signature.s).isNone = false := by
  have hver := verify_sign hlaws hms hkey hsign
  obtain ⟨r, -, rfl⟩ := signLoop_eq_ok hsign
  refine ⟨(hlaws.hash2_lt _ _).trans_le hlaws.order_le, ?_⟩
  by_contra hinfinite
  rw [Bool.not_eq_false] at hinfinite
  simp [sm9Verify, hinfinite] at hver

variable {hid : UInt8}

lemma extractKeyWithHid_eq_ok {key : EncUserKey G1 G2}
    (hkey : master.extractKeyWithHid sm9 identity hid = .ok key) :
    ∃ scalar, userScalar sm9 master.s (sm9.hash1 identity hid) = .ok scalar ∧
      key = ⟨sm9.g2Mul scalar sm9.p2, master.ppube⟩ := by
  rw [EncMasterKey.extractKeyWithHid, bind_eq_ok] at hkey
  obtain ⟨scalar, hscal, hval⟩ := hkey
  exact ⟨scalar, hscal, (ok.inj hval).symm⟩

lemma pairing_userKey (hlaws : sm9.Bilinear) (hms : master.Valid sm9) {key : EncUserKey G1 G2}
    (hkey : master.extractKeyWithHid sm9 identity hid = .ok key) (r : ℕ) :
    sm9.pairing (sm9.g1Mul r (sm9.g1Add (sm9.g1Mul (sm9.hash1 identity hid) sm9.p1) master.ppube))
    key.de =
      sm9.gtPow (sm9.pairing master.ppube sm9.p2) r := by
  obtain ⟨scalar, hscal, rfl⟩ := extractKeyWithHid_eq_ok hkey
  have hpoint : ¬ sm9.order ∣ scalar := fun hdvd ↦
    not_order_dvd_userScalar hlaws hscal hms.s_lt (Dvd.dvd.mul_left hdvd _)
  rw [pairing_ppube_p2 hlaws hms, hlaws.gtPow_pow, hms.ppube_eq, hlaws.g1Add_mul, hlaws.g1Mul_mul,
    hlaws.pairing_mul _ _ hpoint]
  apply hlaws.gtPow_congr
  calc r * (sm9.hash1 identity hid + master.s) * scalar =
    r * ((sm9.hash1 identity hid + master.s) * scalar) := by ring
    _ ≡ r * master.s [MOD sm9.order] := (userScalar_mul hlaws hscal).mul_left r
    _ = master.s * r := Nat.mul_comm _ _

lemma finite_identityPoint (hlaws : sm9.Bilinear) (hms : master.Valid sm9) {key : EncUserKey G1 G2}
    (hkey : master.extractKeyWithHid sm9 identity hid = .ok key) {r : ℕ} (hr : r ≠ 0)
    (hlt : r < sm9.order) :
    (sm9.toAffine (sm9.g1Mul r (sm9.g1Add (sm9.g1Mul (sm9.hash1 identity hid) sm9.p1)
    master.ppube))).isNone = false := by
  obtain ⟨scalar, hscal, rfl⟩ := extractKeyWithHid_eq_ok hkey
  rw [hms.ppube_eq, hlaws.g1Add_mul, hlaws.g1Mul_mul]
  apply toAffine_mul_ne hlaws
  intro hdvd
  rcases hlaws.prime_order.dvd_mul.mp hdvd with hdvd | hdvd
  · exact not_order_dvd hr hlt hdvd
  · exact not_order_dvd_userScalar hlaws hscal hms.s_lt (Dvd.dvd.mul_right hdvd _)

variable {recipient : Bytes} {ppube : G1} {klen : ℕ}

lemma kemEncrypt_eq_ok {encapsulated : Bytes × G1}
    (hkem : kemEncrypt sm9 sm3 recipient ppube klen draws = .ok encapsulated) :
    ∃ r, kemAttempt sm9 sm3 recipient ppube klen r = .ok (some encapsulated) := by
  induction draws with
  | nil => cases hkem
  | cons r draws ih =>
    simp only [kemEncrypt, bind_eq_ok] at hkem
    obtain ⟨outcome, hatt, hkem⟩ := hkem
    cases outcome with
    | none => exact ih hkem
    | some found => exact ⟨r, by rw [hatt, ok.inj hkem]⟩

lemma length_sm9KdfBlocks (seed : Bytes) (klen : ℕ) :
    (sm9KdfBlocks sm3 seed klen).length = klen := by
  apply length_take_of_le
  rw [length_flatMap, map_congr_left (g := fun _ ↦ 32) fun i _ ↦ sm3.length_hash _]
  simp only [map_const', length_range, sum_replicate_nat]
  omega

lemma decrypt_encrypt (hlaws : sm9.Bilinear) (hms : master.Valid sm9) {key : EncUserKey G1 G2}
    (hkey : master.extractKey sm9 recipient = .ok key)
    (henc : sm9Encrypt sm9 sm3 recipient master.ppube message draws = .ok ciphertext) :
    sm9Decrypt sm9 sm3 key ciphertext recipient = .ok message := by
  simp only [sm9Encrypt, bind_eq_ok] at henc
  obtain ⟨⟨k, c1⟩, hkem, hval⟩ := henc
  obtain rfl := ok.inj hval
  obtain ⟨r, hatt⟩ := kemEncrypt_eq_ok hkem
  simp only [kemAttempt, unit_bind_eq_ok, rejectIf_eq_ok, ok.injEq] at hatt
  obtain ⟨hfin, hfound⟩ := hatt
  split_ifs at hfound with hzeros
  obtain ⟨rfl, rfl⟩ := hfound
  have hpairing := pairing_userKey hlaws hms hkey r
  have hmask : ∀ seed, message.length ≤
      ((sm9KdfBlocks sm3 seed (message.length + 32)).take message.length).length := by
    intro seed
    rw [length_take, length_sm9KdfBlocks]
    omega
  have hc2 : ∀ seed, (xorBytes message ((sm9KdfBlocks sm3 seed (message.length + 32)).take
      message.length)).length = message.length := by
    intro seed
    rw [length_xorBytes, Nat.min_eq_left (hmask seed)]
  simp only [sm9Decrypt, hpairing, hc2, rejectIf_neg hfin, rejectIf_neg hzeros, ok_bind,
    ne_eq, not_true_eq_false, not_false_eq_true, rejectIf_neg, xorBytes_xorBytes (hmask _)]

lemma fits_of_encrypt (henc : sm9Encrypt sm9 sm3 recipient ppube message draws = .ok ciphertext) :
    (sm9.toAffine ciphertext.c1).isNone = false ∧ ciphertext.c3.length = 32 := by
  simp only [sm9Encrypt, bind_eq_ok] at henc
  obtain ⟨⟨k, c1⟩, hkem, hval⟩ := henc
  obtain rfl := ok.inj hval
  obtain ⟨r, hatt⟩ := kemEncrypt_eq_ok hkem
  simp only [kemAttempt, unit_bind_eq_ok, rejectIf_eq_ok, ok.injEq] at hatt
  obtain ⟨hfin, hfound⟩ := hatt
  split_ifs at hfound with hzeros
  obtain ⟨-, rfl⟩ := hfound
  exact ⟨Bool.eq_false_iff.mpr hfin, sm3.length_hash _⟩

lemma initiatorFinish_eq_ok {state : InitiatorState G1} {rB : G1} {deA : EncUserKey G1 G2}
    {idA idB sB key : Bytes} : initiatorFinish sm9 sm3 state rB deA idA idB klen sB = .ok key ↔
      (sm9.toAffine rB).isNone = false ∧ computeSb sm9 sm3 (state.values sm9 rB deA)
      idA idB state.rAPoint rB = sB ∧
          kdfKeyExchange sm9 sm3 idA idB state.rAPoint rB (state.values sm9 rB deA) klen = key := by
  simp only [initiatorFinish, unit_bind_eq_ok, rejectIf_eq_ok, Bool.not_eq_true, ne_eq,
    not_not, ok.injEq]

variable (sm3) in
lemma initiatorFinish_responderProcess (hlaws : sm9.Bilinear)
    (hms : master.Valid sm9) {idA idB : Bytes} {deA deB : EncUserKey G1 G2}
    (hdeA : master.extractKeyExchange sm9 idA = .ok deA)
    (hdeB : master.extractKeyExchange sm9 idB = .ok deB) {rA rB : ℕ} (hrA : rA ≠ 0)
    (hrA_lt : rA < sm9.order) (hrB : rB ≠ 0) (hrB_lt : rB < sm9.order) (klen : ℕ) :
    ∃ output, responderProcess sm9 sm3 idA idB master.ppube deB
        (initiatorBegin sm9 idB master.ppube rA).rAPoint klen rB = .ok output ∧
      initiatorFinish sm9 sm3 (initiatorBegin sm9 idB master.ppube rA) output.rB deA idA idB klen
        output.sB = .ok output.sharedKey := by
  have hfiniteA : (sm9.toAffine (initiatorBegin sm9 idB master.ppube rA).rAPoint).isNone = false :=
    finite_identityPoint hlaws hms hdeB hrA hrA_lt
  have hfiniteB : (sm9.toAffine (sm9.g1Mul rB (computeQ sm9 idA master.ppube))).isNone = false :=
    finite_identityPoint hlaws hms hdeA hrB hrB_lt
  have hpairA := pairing_userKey hlaws hms hdeB rA
  have hpairB := pairing_userKey hlaws hms hdeA rB
  have hppube : deA.ppube = master.ppube := by
    obtain ⟨_, -, rfl⟩ := extractKeyWithHid_eq_ok hdeA
    rfl
  have hthird : sm9.gtPow (sm9.gtPow (sm9.pairing master.ppube sm9.p2) rA) rB =
      sm9.gtPow (sm9.gtPow (sm9.pairing master.ppube sm9.p2) rB) rA := by
    simp only [pairing_ppube_p2 hlaws hms, hlaws.gtPow_pow]
    ring_nf
  have hvalues : (initiatorBegin sm9 idB master.ppube rA).values sm9
    (sm9.g1Mul rB (computeQ sm9 idA master.ppube)) deA =
        ⟨sm9.pairing (initiatorBegin sm9 idB master.ppube rA).rAPoint deB.de,
        sm9.gtPow (sm9.pairing master.ppube sm9.p2) rB,
          sm9.gtPow (sm9.pairing (initiatorBegin sm9 idB master.ppube rA).rAPoint deB.de) rB⟩ := by
    simp only [InitiatorState.values, initiatorBegin, computeQ, hpairA, hpairB, hppube, hthird]
  refine ⟨_, by
    rw [responderProcess, rejectIf_bind (Bool.eq_false_iff.mp hfiniteA)], ?_⟩
  exact initiatorFinish_eq_ok.mpr ⟨hfiniteB, by rw [hvalues], by rw [hvalues]⟩

end GmStack.Crypto
