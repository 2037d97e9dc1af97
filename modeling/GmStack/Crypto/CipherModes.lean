import GmStack.Crypto.Symmetric

/-! `gm-crypto/src/sm4.rs` against its standards. GCM counts in 128 bits where SP 800-38D counts in
32; up to the limit on a text the blocks are the same. -/

namespace GmStack.Crypto.Sm4Cipher

open Foundation List

variable (sm4 : Sm4Library) (cipher : Sm4Cipher)

def addPadding (data : Bytes) : Bytes :=
  let paddingLen := 16 - data.length % 16
  data ++ replicate paddingLen (UInt8.ofNat paddingLen)

def removePadding (result : Bytes) : Except CryptoError Bytes :=
  match result.getLast? with
  | some paddingByte =>
    let paddingLen := paddingByte.toNat
    if paddingLen > 0 ∧ paddingLen ≤ 16 then
      let expectedLen := result.length - paddingLen
      if (result.drop expectedLen).all (· == paddingByte) then .ok (result.take expectedLen)
      else .error (.invalidPadding paddingLen)
    else .error (.invalidPadding paddingLen)
  | none => .ok result

def encryptCbc (data iv : Bytes) : Except CryptoError Bytes := do
  rejectIf (iv.length ≠ 16) (.invalidDataLength "IV length must be 16 bytes")
  let paddedData := addPadding data
  .ok (cbcEncrypt (sm4.encryptBlock cipher.key) iv
    (chunksExact 16 (paddedData.length / 16) paddedData)).flatten

def decryptCbc (encryptedData iv : Bytes) : Except CryptoError Bytes := do
  rejectIf (iv.length ≠ 16) (.invalidDataLength "IV length must be 16 bytes")
  rejectIf (encryptedData.length % 16 ≠ 0)
    (.invalidDataLength "Data length must be a multiple of 16 bytes")
  removePadding
    (cbcDecrypt (sm4.decryptBlock cipher.key) iv (chunksExact 16 (encryptedData.length / 16)
    encryptedData)).flatten

lemma length_addPadding (data : Bytes) : (addPadding data).length % 16 = 0 ∧
    addPadding data ≠ [] := by
  have hlen : (addPadding data).length = data.length + (16 - data.length % 16) := by
    simp [addPadding]
  refine ⟨by omega, fun hnil ↦ ?_⟩
  rw [hnil, length_nil] at hlen
  omega

lemma removePadding_eq_ok {result data : Bytes} (hblk : result.length % 16 = 0)
    (hne : result ≠ []) :
    removePadding result = .ok data ↔ result = addPadding data := by
  constructor
  · intro hremoved
    have hpos := length_pos_iff.mpr hne
    rw [removePadding, getLast?_eq_some_getLast hne] at hremoved
    generalize result.getLast hne = last at hremoved
    dsimp only at hremoved
    split_ifs at hremoved with hrange hall
    cases hremoved
    have hrest : result.drop (result.length - last.toNat) = replicate last.toNat last := by
      refine eq_replicate_iff.mpr ⟨by rw [length_drop]; omega, fun octet hmem ↦ ?_⟩
      exact eq_of_beq (all_eq_true.mp hall octet hmem)
    have hpad : 16 - (result.take (result.length - last.toNat)).length % 16 = last.toNat := by
      rw [length_take]
      omega
    rw [addPadding, hpad, UInt8.ofNat_toNat, ← hrest, take_append_drop]
  · rintro rfl
    obtain ⟨pad, hpad⟩ : ∃ pad, pad = 16 - data.length % 16 := ⟨_, rfl⟩
    have hlast : (addPadding data).getLast? = some (UInt8.ofNat pad) := by
      rw [addPadding, ← hpad, getLast?_append, getLast?_replicate, if_neg (by omega)]
      rfl
    have hlen : (addPadding data).length - pad = data.length := by
      rw [addPadding, ← hpad, length_append, length_replicate, Nat.add_sub_cancel]
    have htoNat : (UInt8.ofNat pad).toNat = pad := by
      rw [UInt8.toNat_ofNat', Nat.mod_eq_of_lt (by omega)]
    rw [removePadding, hlast]
    simp only [htoNat, hlen]
    rw [if_pos (by omega), addPadding, ← hpad, drop_left, take_left, if_pos (by simp)]

/-- Decryption inverts encryption and accepts only what encryption returns, except the empty string.
-/
theorem cbc_inverse_iff {iv : Bytes} (hiv : iv.length = 16) :
    (∀ data, ∃ encrypted, cipher.encryptCbc sm4 data iv = .ok encrypted ∧
    cipher.decryptCbc sm4 encrypted iv = .ok data) ∧
      (∀ encrypted, (∀ data, cipher.decryptCbc sm4 encrypted iv = .ok data →
        cipher.encryptCbc sm4 data iv = .ok encrypted) ↔ encrypted ≠ []) ∧
        ∀ data : Bytes, data.length % 16 = 0 →
        ((∃ encrypted, cipher.encryptCbcRaw sm4 data iv = .ok encrypted ∧
            cipher.decryptCbcRaw sm4 encrypted iv = .ok data) ↔ data ≠ []) ∧
            ((∃ plain, cipher.decryptCbcRaw sm4 data iv = .ok plain ∧
              cipher.encryptCbcRaw sm4 plain iv = .ok data) ↔ data ≠ []) := by
  have henc (data : Bytes) : cipher.encryptCbc sm4 data iv =
    .ok (cbcEncrypt (sm4.encryptBlock cipher.key) iv
      (chunksExact 16 ((addPadding data).length / 16) (addPadding data))).flatten := by
    rw [encryptCbc, rejectIf_ne_bind hiv]
  have hdec (data : Bytes) (hblk : data.length % 16 = 0) :
    cipher.decryptCbc sm4 data iv = removePadding
      (cbcDecrypt (sm4.decryptBlock cipher.key) iv
      (chunksExact 16 (data.length / 16) data)).flatten := by
    rw [decryptCbc, rejectIf_ne_bind hiv, rejectIf_ne_bind hblk]
  have hempty {first second : Bytes} (hlen : first.length = second.length) (hnil : first = []) :
      second = [] := by
    rw [← length_eq_zero_iff, ← hlen, hnil, length_nil]
  have hguard : checkCbcInput [] iv ≠ .ok () := by
    rw [checkCbcInput, rejectIf_ne_bind hiv, rejectIf_pos (.inl rfl)]
    rintro ⟨⟩
  refine ⟨fun data ↦ ?_, fun encrypted ↦ ⟨fun hall ↦ ?_, fun hne data haccept ↦ ?_⟩,
    fun data hblk ↦ ⟨?_, ?_⟩⟩
  · obtain ⟨hblk, hne⟩ := length_addPadding data
    obtain ⟨hlen, hback⟩ := cbcDecrypt_inverse sm4 cipher hiv hblk
    refine ⟨_, henc data, ?_⟩
    rw [hdec _ (by rw [hlen, hblk]), hback]
    exact (removePadding_eq_ok hblk hne).mpr rfl
  · rintro rfl
    have hnil := hall [] (by rw [hdec [] rfl]; rfl)
    rw [henc, Except.ok.injEq] at hnil
    have hlen := (cbcDecrypt_inverse sm4 cipher hiv (length_addPadding []).1).1
    rw [hnil] at hlen
    exact (length_addPadding []).2 (length_eq_zero_iff.mp hlen.symm)
  · simp only [decryptCbc, unit_bind_eq_ok, rejectIf_eq_ok, not_not] at haccept
    obtain ⟨-, hblk, hremoved⟩ := haccept
    obtain ⟨hlen, hback⟩ := cbcEncrypt_inverse sm4 cipher hiv hblk
    have hpadded := (removePadding_eq_ok (by rw [hlen, hblk]) (hne.imp (hempty hlen))).mp hremoved
    rw [henc, ← hpadded, hback]
  · refine ⟨?_, fun hdata ↦ ?_⟩
    · rintro ⟨encrypted, hraw, -⟩ rfl
      exact absurd (unit_bind_eq_ok.mp hraw).1 hguard
    · obtain ⟨encrypted, hraw, -, hback⟩ := decryptCbcRaw_encryptCbcRaw sm4 cipher hdata hblk hiv
      exact ⟨encrypted, hraw, hback⟩
  · refine ⟨?_, fun hdata ↦ ?_⟩
    · rintro ⟨plain, hraw, -⟩ rfl
      exact absurd (unit_bind_eq_ok.mp hraw).1 hguard
    · obtain ⟨hlen, hback⟩ := cbcEncrypt_inverse sm4 cipher hiv hblk
      refine ⟨_, by rw [decryptCbcRaw, checkCbcInput_eq_ok hiv hblk hdata, ok_bind], ?_⟩
      rw [encryptCbcRaw, checkCbcInput_eq_ok hiv (by rw [hlen, hblk]) (hdata.imp (hempty hlen)),
        ok_bind, hback]

lemma length_zeroBlock (_ : Bytes) (_ : List Bytes) : (replicate 16 (0 : UInt8)).length = 16 :=
  length_replicate

def plainSm4 : Sm4Library where
  encryptBlock := fun _ block ↦ block
  decryptBlock := fun _ block ↦ block
  applyKeystream := fun _ counter data ↦
    xorBytes data (keystream id counter ((data.length + 15) / 16))
  ghash := fun _ _ ↦ replicate 16 0
  length_encryptBlock := fun _ _ hblock ↦ hblock
  decryptBlock_encryptBlock := fun _ _ _ ↦ rfl
  length_ghash := length_zeroBlock
  applyKeystream_eq := fun _ _ _ _ ↦ rfl

/-- A ciphertext of one block that is accepted is what encryption returns. -/
theorem cbc_block_inverse :
    let encrypted : Bytes := [0x60, 0x63, 0x62] ++ replicate 13 12
    decryptCbc plainSm4 ⟨replicate 16 0, rfl⟩ encrypted (replicate 16 1) = .ok [0x61, 0x62, 0x63] ∧
      encryptCbc plainSm4 ⟨replicate 16 0, rfl⟩ [0x61, 0x62, 0x63] (replicate 16 1) =
      .ok encrypted := by
  intro encrypted
  have haccept : decryptCbc plainSm4 ⟨replicate 16 0, rfl⟩ encrypted (replicate 16 1) =
      .ok [0x61, 0x62, 0x63] := by
    decide
  exact ⟨haccept, ((cbc_inverse_iff plainSm4 ⟨replicate 16 0, rfl⟩ rfl).2.1 _).mpr
    (by decide) _ haccept⟩

/-- The empty ciphertext is accepted, and is not what encryption returns. -/
theorem cbc_empty_accepted : decryptCbc plainSm4 ⟨replicate 16 0, rfl⟩ []
    (replicate 16 0) = .ok [] ∧
    encryptCbc plainSm4 ⟨replicate 16 0, rfl⟩ [] (replicate 16 0) = .ok (replicate 16 16) := by
  decide

def gcmCiphertext (nonce data : Bytes) : Bytes :=
  xorBytes data ((List.range ((data.length + 15) / 16)).flatMap fun i ↦
    sm4.encryptBlock cipher.key (nonce ++ beOctets 4 (i + 2)))

def zeroPadded (data : Bytes) : Bytes := data ++ replicate ((16 - data.length % 16) % 16) 0

def gcmAuthentication (nonce aad ciphertext : Bytes) : Bytes :=
  let hashed := zeroPadded aad ++ zeroPadded ciphertext ++
    (beOctets 8 (aad.length * 8) ++ beOctets 8 (ciphertext.length * 8))
  xorBytes (sm4.encryptBlock cipher.key (nonce ++ beOctets 4 1))
    (sm4.ghash (sm4.encryptBlock cipher.key (replicate 16 0))
    (chunksExact 16 (hashed.length / 16) hashed))

lemma ghashBlocks_eq (data : Bytes) :
    (ghashBlocks data).flatten = zeroPadded data ∧ ∀ block ∈ ghashBlocks data,
    block.length = 16 := by
  have hle : 16 * (data.length / 16) ≤ data.length := Nat.mul_div_le _ _
  have hlen : (data.drop (16 * (data.length / 16))).length = data.length % 16 := by
    rw [length_drop]
    omega
  have hsplit := take_append_drop (16 * (data.length / 16)) data
  unfold ghashBlocks zeroPadded
  dsimp only
  split_ifs with hrest
  · rw [hrest, length_nil] at hlen
    rw [hrest, append_nil] at hsplit
    rw [append_nil, flatten_chunksExact_take, hsplit, ← hlen]
    exact ⟨(append_nil _).symm, fun block ↦ length_of_mem_chunksExact hle⟩
  · have hpos : data.length % 16 ≠ 0 := fun hzero ↦ hrest (length_eq_zero_iff.mp (hlen.trans hzero))
    refine ⟨?_, fun block hmem ↦ ?_⟩
    · rw [flatten_append, flatten_chunksExact_take, flatten_singleton, ← append_assoc, hsplit, hlen,
        Nat.mod_eq_of_lt (show 16 - data.length % 16 < 16 by omega)]
    · rcases mem_append.mp hmem with hmem | hmem
      · exact length_of_mem_chunksExact hle hmem
      · rw [mem_singleton.mp hmem, length_append, hlen, length_replicate]
        omega

lemma gcmTag_eq (nonce aad ciphertext : Bytes) :
    cipher.gcmTag sm4 nonce aad ciphertext = gcmAuthentication sm4 cipher nonce aad ciphertext := by
  obtain ⟨haad, haadBlocks⟩ := ghashBlocks_eq aad
  obtain ⟨htext, htextBlocks⟩ := ghashBlocks_eq ciphertext
  have hall : ∀ block ∈ ghashBlocks aad ++ ghashBlocks ciphertext ++
    [ghashLengths aad.length ciphertext.length],
      block.length = 16 := by
    intro block hmem
    simp only [mem_append, mem_singleton] at hmem
    rcases hmem with (hmem | hmem) | rfl
    · exact haadBlocks block hmem
    · exact htextBlocks block hmem
    · simp [ghashLengths]
  have hcount := length_flatten_of_blocks hall
  have hchunks := chunksExact_flatten hall
  rw [← Nat.mul_div_cancel_left (length _) (show 0 < 16 by decide), ← hcount] at hchunks
  simp only [flatten_append, flatten_singleton, haad, htext] at hchunks
  rw [gcmTag, gcmAuthentication, ← hchunks]
  rfl

section Gcm

variable {nonce : Bytes} (hnonce : nonce.length = 12)

include hnonce

lemma inc32_initialCounter : inc32 (initialCounter nonce) = nonce ++ beOctets 4 2 := by
  rw [inc32, initialCounter, take_left' hnonce, drop_left' hnonce]
  rfl

lemma applyKeystream_eq {data : Bytes} (hdata : data.length ≤ 2 ^ 36 - 32) :
    cipher.applyKeystream sm4 (inc32 (initialCounter nonce)) data =
    gcmCiphertext sm4 cipher nonce data := by
  have hblock (i : ℕ) (hi : i < (data.length + 15) / 16) :
      beOctets 16 (beNat (nonce ++ beOctets 4 2) + i) = nonce ++ beOctets 4 (i + 2) := by
    have hvalue := beOctets_beNat (nonce ++ beOctets 4 (i + 2))
    rw [beNat_append, length_append, length_beOctets, hnonce, beNat_beOctets (by omega)] at hvalue
    rw [beNat_append, length_beOctets, beNat_beOctets (by decide), Nat.add_assoc, Nat.add_comm 2]
    exact hvalue
  have hlen : (nonce ++ beOctets 4 2).length = 16 := by rw [length_append, length_beOctets, hnonce]
  rw [applyKeystream, inc32_initialCounter hnonce, sm4.applyKeystream_eq _ _ _ hlen, gcmCiphertext,
    keystream, hlen, flatMap_def]
  congr 2
  exact map_congr_left fun i hi ↦ by rw [hblock i (mem_range.mp hi)]

/-- The two functions are those of SP 800-38D, for texts up to its limit. -/
theorem gcm_eq_sp800_38d :
    (∀ data aad, data.length ≤ 2 ^ 36 - 32 → cipher.encryptGcm sm4 data nonce aad =
      .ok (gcmCiphertext sm4 cipher nonce data,
        gcmAuthentication sm4 cipher nonce aad (gcmCiphertext sm4 cipher nonce data))) ∧
      ∀ encrypted aad, (gcmAuthentication sm4 cipher nonce aad encrypted).length = 16 ∧ ∀ tag,
        ((∃ data, cipher.decryptGcm sm4 encrypted nonce aad tag = .ok data) ↔
          tag = gcmAuthentication sm4 cipher nonce aad encrypted) ∧
        ∀ data, cipher.decryptGcm sm4 encrypted nonce aad tag = .ok data →
          cipher.encryptGcm sm4 data nonce aad = .ok (encrypted, tag) := by
  have henc (data aad : Bytes) : cipher.encryptGcm sm4 data nonce aad =
      let ciphertext := cipher.applyKeystream sm4 (inc32 (initialCounter nonce)) data
      .ok (ciphertext, gcmAuthentication sm4 cipher nonce aad ciphertext) := by
    rw [encryptGcm, rejectIf_ne_bind hnonce]
    simp only [gcmTag_eq]
  have hlen (aad encrypted : Bytes) : (gcmAuthentication sm4 cipher nonce aad encrypted).length =
      16 := by
    rw [← gcmTag_eq, length_gcmTag sm4 cipher hnonce]
  refine ⟨fun data aad hdata ↦ ?_, fun encrypted aad ↦ ⟨hlen aad encrypted, fun tag ↦ ?_⟩⟩
  · rw [henc, applyKeystream_eq sm4 cipher hnonce hdata]
  simp only [decryptGcm, unit_bind_eq_ok, rejectIf_eq_ok, not_not, Except.ok.injEq, gcmTag_eq]
  refine ⟨⟨?_, ?_⟩, ?_⟩
  · rintro ⟨data, -, -, htag, -⟩
    exact htag.symm
  · rintro rfl
    exact ⟨_, hnonce, hlen aad encrypted, rfl, rfl⟩
  · rintro data ⟨-, -, rfl, rfl⟩
    have hcounter : (inc32 (initialCounter nonce)).length = 16 :=
      length_inc32 (by simp [initialCounter, hnonce])
    rw [henc, applyKeystream_applyKeystream sm4 cipher hcounter]

end Gcm

/-- One octet is encrypted with the first octet of the second counter block. -/
theorem gcm_octet : encryptGcm plainSm4 ⟨replicate 16 0, rfl⟩ [7] (replicate 12 1) [] =
    .ok ([6], replicate 12 1 ++ [0, 0, 0, 1]) :=
  ((gcm_eq_sp800_38d plainSm4 ⟨replicate 16 0, rfl⟩ (show (replicate 12 1 : Bytes).length =
    12 from rfl)).1 [7] []
    (by decide)).trans (by decide)

end GmStack.Crypto.Sm4Cipher
