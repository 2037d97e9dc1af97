import GmStack.Tlcp.Delivery
import GmStack.Tlcp.MiniProfile

/-! `prf_expand` and RFC 5246, the key block, the pre-master secret of the ECDHE suites, and the
length of an identity in the hash `Z`. -/

namespace GmStack.Tlcp

open Foundation Crypto List Tls

section Prf

variable (sm3 : Sm3Library) (secret labelSeed : Bytes)

def prfA : ℕ → Bytes
  | 0 => labelSeed
  | i + 1 => rfcHmac sm3 secret (prfA i)

def pSm3 (rounds : ℕ) : Bytes :=
  (range rounds).flatMap fun i ↦ rfcHmac sm3 secret (prfA sm3 secret labelSeed (i + 1) ++ labelSeed)

lemma length_pSm3 (rounds : ℕ) : (pSm3 sm3 secret labelSeed rounds).length = 32 * rounds :=
  length_flatMap_range fun _ ↦ sm3.length_hash _

lemma take_pSm3 {length first second : ℕ} (hfirst : length ≤ 32 * first)
    (hsecond : length ≤ 32 * second) :
    (pSm3 sm3 secret labelSeed first).take length =
    (pSm3 sm3 secret labelSeed second).take length := by
  wlog hle : first ≤ second generalizing first second
  · exact (this hsecond hfirst (Nat.le_of_not_le hle)).symm
  obtain ⟨more, rfl⟩ := Nat.exists_eq_add_of_le hle
  exact (take_flatMap_range (fun _ ↦ sm3.length_hash _) hfirst more).symm

lemma prfLoop_of_le {length fuel : ℕ} {a result : Bytes} (hlen : length ≤ result.length) :
    prfLoop sm3 secret labelSeed length fuel a result = result := by
  cases fuel with
  | zero => rfl
  | succ fuel => exact if_neg (Nat.not_lt.mpr hlen)

lemma exists_prfLoop_eq {length fuel rounds : ℕ} (hfuel : length ≤ 32 * rounds + fuel) :
    ∃ all, length ≤ 32 * all ∧ prfLoop sm3 secret labelSeed length fuel
    (prfA sm3 secret labelSeed (rounds + 1))
      (pSm3 sm3 secret labelSeed rounds) = pSm3 sm3 secret labelSeed all := by
  induction fuel generalizing rounds with
  | zero => exact ⟨rounds, hfuel, rfl⟩
  | succ fuel ih =>
    by_cases hlen : length ≤ 32 * rounds
    · exact ⟨rounds, hlen, prfLoop_of_le _ _ _ (by rwa [length_pSm3])⟩
    have hround : pSm3 sm3 secret labelSeed rounds ++
        sm3Hmac sm3 secret (prfA sm3 secret labelSeed (rounds + 1) ++ labelSeed) =
          pSm3 sm3 secret labelSeed (rounds + 1) := by
      rw [sm3Hmac_eq_rfcHmac, pSm3, pSm3, range_succ, flatMap_append, flatMap_singleton]
    rw [prfLoop, length_pSm3, if_pos (Nat.not_le.mp hlen)]
    simp only [hround, length_pSm3]
    split_ifs with hmore
    · rw [sm3Hmac_eq_rfcHmac]
      exact ih (by omega)
    · exact ⟨rounds + 1, Nat.not_lt.mp hmore,
        prfLoop_of_le _ _ _ (by rw [length_pSm3]; exact Nat.not_lt.mp hmore)⟩

lemma prfOutput_eq (label seed : Bytes) {length rounds : ℕ} (hlen : length ≤ 32 * rounds) :
    prfOutput sm3 secret label seed length =
    (pSm3 sm3 secret (label ++ seed) rounds).take length := by
  obtain ⟨all, hall, hloop⟩ := @exists_prfLoop_eq sm3 secret (label ++ seed)
    length length 0 (by omega)
  rw [prfOutput, sm3Hmac_eq_rfcHmac]
  exact (congrArg (take length) hloop).trans (take_pSm3 _ _ _ hall hlen)

def TlcpKeyMaterial.fields (material : TlcpKeyMaterial) : List Bytes :=
  [material.clientMacKey, material.serverMacKey, material.clientEncKey, material.serverEncKey,
    material.clientIv,
    material.serverIv]

lemma ofBlock_fields {block : Bytes} {gcm : Bool} (hlen : block.length = if gcm then 40 else 128) :
    (TlcpKeyMaterial.ofBlock block gcm).fields.flatten = block ∧
    (TlcpKeyMaterial.ofBlock block gcm).fields.map length =
        if gcm then [0, 0, 16, 16, 4, 4] else [32, 32, 16, 16, 16, 16] := by
  have hcut (start stop : ℕ) (hle : start ≤ stop) : slice block start stop ++ block.drop stop =
      block.drop start := by
    rw [slice, ← Nat.add_sub_cancel' hle, ← drop_drop, Nat.add_sub_cancel_left, take_append_drop]
  have hend : block.drop (if gcm then 40 else 128) = [] := drop_of_length_le hlen.le
  cases gcm with
  | true | false =>
    refine ⟨?_, by simp [TlcpKeyMaterial.ofBlock, TlcpKeyMaterial.fields, length_slice, hlen]⟩
    simp only [TlcpKeyMaterial.ofBlock, TlcpKeyMaterial.fields, if_pos, Bool.false_eq_true,
      if_false, flatten_cons,
      flatten_nil, nil_append] at hend ⊢
    rw [← hend]
    simp only [hcut, Nat.reduceLeDiff, Nat.zero_le, drop_zero]

lemma exists_derive_fields (clientRandom serverRandom : Octets 32) (suite : TlcpCipherSuite) :
    ∃ block material, prfExpand sm3 secret "key expansion".toUTF8.toList (serverRandom.bytes ++
    clientRandom.bytes)
        (if suite.gcm then 40 else 128) = .ok block ∧
      TlcpKeyMaterial.derive sm3 secret clientRandom serverRandom suite = .ok material ∧
      material.fields.flatten = block ∧
          material.fields.map length = if suite.gcm then [0, 0, 16, 16, 4, 4] else [32, 32,
          16, 16, 16, 16] := by
  have hneeded : (if suite.gcm then 40 else 128) ≤ 16 * 1024 := by split_ifs <;> decide
  have hblock := @prfExpand_eq_ok sm3 secret "key expansion".toUTF8.toList
    (serverRandom.bytes ++ clientRandom.bytes) _ hneeded
  obtain ⟨hflatten, hlengths⟩ :=
    ofBlock_fields (length_prfOutput sm3 secret "key expansion".toUTF8.toList
    (serverRandom.bytes ++ clientRandom.bytes) (if suite.gcm then 40 else 128))
  refine ⟨_, _, hblock, ?_, hflatten, hlengths⟩
  rw [TlcpKeyMaterial.derive, hblock, ok_bind]

/-- `prf_expand` is the expansion `P_SM3`, and the key block is its fields one after the other,
which the two sides take up alike. -/
theorem prfExpand_eq_pSm3 (label seed : Bytes) (length : ℕ) (clientRandom serverRandom : Octets 32)
    (suite : TlcpCipherSuite) :
    (if length ≤ 16384 then
      ∃ output, prfExpand sm3 secret label seed length = .ok output ∧ output.length = length ∧
        (∀ rounds, length ≤ 32 * rounds →
        output = (pSm3 sm3 secret (label ++ seed) rounds).take length) ∧
          ∀ shorter ≤ length, prfExpand sm3 secret label seed shorter = .ok (output.take shorter)
    else ∃ error, prfExpand sm3 secret label seed length = .error error) ∧
      ∃ block material, prfExpand sm3 secret "key expansion".toUTF8.toList (serverRandom.bytes ++
      clientRandom.bytes)
          (if suite.gcm then 40 else 128) = .ok block ∧
        TlcpKeyMaterial.derive sm3 secret clientRandom serverRandom suite = .ok material ∧
        material.fields.flatten = block ∧
            material.fields.map List.length =
            (if suite.gcm then [0, 0, 16, 16, 4, 4] else [32, 32, 16, 16, 16, 16]) ∧
              ∀ isClient sessionId, (TlcpStream.new material suite isClient sessionId).Delivers
                (TlcpStream.new material suite (!isClient) sessionId) := by
  constructor
  · split_ifs with hlen
    · refine ⟨_, prfExpand_eq_ok sm3 hlen, length_prfOutput sm3 _ _ _ _, fun rounds hrounds ↦
        ?_, fun shorter hle ↦ ?_⟩
      · exact prfOutput_eq _ _ _ _ hrounds
      · have hall : length ≤ 32 * length := by omega
        rw [prfExpand_eq_ok sm3 (hle.trans hlen), prfOutput_eq _ _ _ _ hall, take_take,
          Nat.min_eq_left hle,
          prfOutput_eq _ _ _ _ (hle.trans hall)]
    · rw [prfExpand, rejectIf_pos (Nat.not_le.mp hlen)]
      exact ⟨_, rfl⟩
  · obtain ⟨block, material, hblock, hderive, hflatten, hlengths⟩ :=
      exists_derive_fields sm3 secret clientRandom serverRandom suite
    exact ⟨block, material, hblock, hderive, hflatten, hlengths, fun isClient sessionId ↦
      delivers_new _ _ _ _⟩

end Prf

lemma exists_sm2Kdf (sm3 : Sm3Library) (z : Bytes) {klen : ℕ} (hpos : 1 ≤ klen)
    (hlimit : klen ≤ 16384) :
    ∃ key, sm2Kdf sm3 z klen = .ok key ∧ key.length = klen := by
  rw [sm2Kdf, rejectIf_bind (by omega)]
  refine ⟨_, rfl, length_take_of_le ?_⟩
  rw [length_flatMap_range fun _ ↦ sm3.length_hash _]
  omega

def lengthField (userId : Bytes) : Bytes := beOctets 2 (userId.length * 8)

lemma beNat_lengthField (userId : Bytes) : beNat (lengthField userId) = userId.length * 8 % 65536 :=
  beNat_beOctets_mod 2 _

/-- The bit length of an identity is exact below 8192 octets only. -/
theorem sm2ComputeZ_length_iff (sm3 : Sm3Library) (pubXy : Bytes) {userId : Bytes}
    (hlen : userId.length ≤ 0xFFFF) :
    sm2ComputeZ sm3 pubXy userId =
    .ok (sm3.hash (lengthField userId ++ userId ++ sm2CurveBytes ++ pubXy)) ∧
      (beNat (lengthField userId) = userId.length * 8 ↔ userId.length < 8192) ∧
        ∀ other, lengthField other = lengthField userId ↔ other.length % 8192 =
        userId.length % 8192 := by
  refine ⟨?_, ?_, fun other ↦ ?_⟩
  · rw [sm2ComputeZ, rejectIf_bind (by omega), lengthField]
  · rw [beNat_lengthField]
    omega
  · have hback (name : Bytes) : beOctets 2 (beNat (lengthField name)) = lengthField name := by
      have hoctets := beOctets_beNat (lengthField name)
      rwa [show (lengthField name).length = 2 from length_beOctets _ _] at hoctets
    have hinj : lengthField other = lengthField userId ↔ beNat (lengthField other) =
      beNat (lengthField userId) :=
      ⟨congrArg beNat, fun hnat ↦ by rw [← hback other, hnat, hback]⟩
    rw [hinj, beNat_lengthField, beNat_lengthField]
    omega

theorem default_identity_length : (sm2ComputeZ miniSm3 [] (replicate 16 0x31)).isOk ∧
    beNat (lengthField (replicate 16 0x31)) = 128 := by
  obtain ⟨hz, hexact, -⟩ := @sm2ComputeZ_length_iff miniSm3 [] (replicate 16 0x31) (by decide)
  exact ⟨by rw [hz]; rfl, hexact.mpr (by decide)⟩

/-- The empty identity and one of 8192 octets have the same length field. -/
theorem identity_length_wraps : (replicate 8192 (0x31 : UInt8)).length ≤ 0xFFFF ∧
    lengthField (replicate 8192 0x31) = lengthField [] ∧ beNat (lengthField (replicate 8192 0x31)) ≠
    8192 * 8 := by
  have hwrapped : lengthField (replicate 8192 0x31) = beOctets 2 65536 := by
    rw [lengthField, length_replicate]
  rw [hwrapped, length_replicate]
  decide

end GmStack.Tlcp
