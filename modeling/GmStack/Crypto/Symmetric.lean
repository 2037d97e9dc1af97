import GmStack.Crypto.Sm2Signature
import GmStack.Foundation.BlockModes
import Mathlib.Data.FinEnum

/-! SM3, HMAC-SM3 and the SM4 modes: `gm-crypto/src/sm3.rs` and `gm-crypto/src/sm4.rs`. -/

namespace GmStack.Crypto

open Foundation

/-- The `sm3` crate: a hash with values of 32 octets. -/
structure Sm3Library where
  hash : Bytes → Bytes
  length_hash : ∀ data, (hash data).length = 32

section Sm3

variable (sm3 : Sm3Library)

def hmacKeyPadded (key : Bytes) : Bytes :=
  let short := if key.length > 64 then sm3.hash key else key
  short ++ List.replicate (64 - short.length) 0

def sm3Hmac (key data : Bytes) : Bytes :=
  let padded := hmacKeyPadded sm3 key
  let ipad := xorBytes (List.replicate 64 0x36) padded
  let opad := xorBytes (List.replicate 64 0x5C) padded
  sm3.hash (opad ++ sm3.hash (ipad ++ data))

@[simp] lemma length_sm3Hmac (key data : Bytes) : (sm3Hmac sm3 key data).length = 32 :=
  sm3.length_hash _

end Sm3

/-- The crates `sm4`, `ctr` and `ghash`: the block cipher, its counter mode and the hash of GCM. -/
structure Sm4Library where
  encryptBlock : Bytes → Bytes → Bytes
  decryptBlock : Bytes → Bytes → Bytes
  applyKeystream : Bytes → Bytes → Bytes → Bytes
  ghash : Bytes → List Bytes → Bytes
  length_encryptBlock : ∀ key block, block.length = 16 → (encryptBlock key block).length = 16
  decryptBlock_encryptBlock : ∀ key block, block.length = 16 →
    decryptBlock key (encryptBlock key block) = block
  length_ghash : ∀ key blocks, (ghash key blocks).length = 16
  applyKeystream_eq : ∀ key counter data, counter.length = 16 →
    applyKeystream key counter data =
    xorBytes data (keystream (encryptBlock key) counter ((data.length + 15) / 16))

/-- `Sm4Cipher`: a key of the right length. -/
structure Sm4Cipher where
  key : Bytes
  length_key : key.length = 16

def Sm4Cipher.new (key : Bytes) : Except CryptoError Sm4Cipher :=
  if hlength : key.length = 16 then .ok ⟨key, hlength⟩
  else .error (.invalidKeyLength 16 key.length)

lemma Sm4Cipher.new_eq_ok {key : Bytes} (hlen : key.length = 16) :
    Sm4Cipher.new key = .ok ⟨key, hlen⟩ := dif_pos hlen

namespace Sm4Cipher

variable (sm4 : Sm4Library)

def ghashBlocks (data : Bytes) : List Bytes :=
  let count := data.length / 16
  let rest := data.drop (16 * count)
  chunksExact 16 count data ++
    if rest = [] then [] else [rest ++ List.replicate (16 - rest.length) 0]

def ghashLengths (aadLen cLen : ℕ) : Bytes :=
  beOctets 8 (aadLen * 8) ++ beOctets 8 (cLen * 8)

def initialCounter (nonce : Bytes) : Bytes := nonce ++ [0, 0, 0, 1]

def inc32 (block : Bytes) : Bytes :=
  block.take 12 ++ beOctets 4 (beNat (block.drop 12) + 1)

def applyKeystream (cipher : Sm4Cipher) (counter data : Bytes) : Bytes :=
  sm4.applyKeystream cipher.key counter data

def gcmTag (cipher : Sm4Cipher) (nonce aad ciphertext : Bytes) : Bytes :=
  let hashKey := sm4.encryptBlock cipher.key (List.replicate 16 0)
  let s := sm4.ghash hashKey (ghashBlocks aad ++ ghashBlocks ciphertext ++
    [ghashLengths aad.length ciphertext.length])
  xorBytes (sm4.encryptBlock cipher.key (initialCounter nonce)) s

def encryptGcm (cipher : Sm4Cipher) (data nonce aad : Bytes) :
    Except CryptoError (Bytes × Bytes) := do
  rejectIf (nonce.length ≠ 12) (.invalidDataLength "Nonce length must be 12 bytes")
  let ciphertext := cipher.applyKeystream sm4 (inc32 (initialCounter nonce)) data
  .ok (ciphertext, cipher.gcmTag sm4 nonce aad ciphertext)

def decryptGcm (cipher : Sm4Cipher) (encryptedData nonce aad tag : Bytes) :
    Except CryptoError Bytes := do
  rejectIf (nonce.length ≠ 12) (.invalidDataLength "Nonce length must be 12 bytes")
  rejectIf (tag.length ≠ 16) (.invalidDataLength "Tag length must be 16 bytes")
  rejectIf (cipher.gcmTag sm4 nonce aad encryptedData ≠ tag)
    (.sm4Error "SM4-GCM authentication failed")
  .ok (cipher.applyKeystream sm4 (inc32 (initialCounter nonce)) encryptedData)

def checkCbcInput (data iv : Bytes) : Except CryptoError Unit := do
  rejectIf (iv.length ≠ 16) (.invalidDataLength "IV length must be 16 bytes")
  rejectIf (data = [] ∨ data.length % 16 ≠ 0)
    (.invalidDataLength "Raw CBC input must be a non-empty multiple of 16 bytes")

def encryptCbcRaw (cipher : Sm4Cipher) (data iv : Bytes) : Except CryptoError Bytes := do
  checkCbcInput data iv
  .ok (cbcEncrypt (sm4.encryptBlock cipher.key) iv (chunksExact 16 (data.length / 16) data)).flatten

def decryptCbcRaw (cipher : Sm4Cipher) (encryptedData iv : Bytes) : Except CryptoError Bytes := do
  checkCbcInput encryptedData iv
  .ok (cbcDecrypt (sm4.decryptBlock cipher.key) iv (chunksExact 16 (encryptedData.length / 16)
    encryptedData)).flatten

variable {block counter : Bytes}

lemma length_inc32 (hlen : block.length = 16) : (inc32 block).length = 16 := by
  rw [inc32, List.length_append, length_beOctets, List.length_take, hlen]
  rfl

variable (cipher : Sm4Cipher)

section

variable (hcounter : counter.length = 16)

include hcounter

lemma length_keystream_le (length : ℕ) :
    length ≤ (keystream (sm4.encryptBlock cipher.key) counter ((length + 15) / 16)).length := by
  have henc (block : Bytes) (hblock : block.length = counter.length) :
    (sm4.encryptBlock cipher.key block).length = 16 :=
    sm4.length_encryptBlock _ _ (hblock.trans hcounter)
  rw [length_keystream henc]
  omega

lemma length_applyKeystream (data : Bytes) : (cipher.applyKeystream sm4 counter data).length =
    data.length := by
  rw [applyKeystream, sm4.applyKeystream_eq _ _ _ hcounter, length_xorBytes,
    Nat.min_eq_left (length_keystream_le sm4 cipher hcounter data.length)]

lemma applyKeystream_applyKeystream (data : Bytes) :
    cipher.applyKeystream sm4 counter (cipher.applyKeystream sm4 counter data) = data := by
  rw [applyKeystream, sm4.applyKeystream_eq _ _ _ hcounter,
    length_applyKeystream sm4 cipher hcounter, applyKeystream,
    sm4.applyKeystream_eq _ _ _ hcounter]
  exact xorBytes_xorBytes (length_keystream_le sm4 cipher hcounter data.length)

end

variable {nonce : Bytes}

lemma length_gcmTag (hnonce : nonce.length = 12)
    (aad ciphertext : Bytes) : (cipher.gcmTag sm4 nonce aad ciphertext).length = 16 := by
  have hcounter : (initialCounter nonce).length = 16 := by simp [initialCounter, hnonce]
  rw [gcmTag, length_xorBytes, sm4.length_encryptBlock _ _ hcounter, sm4.length_ghash]
  rfl

lemma decryptGcm_encryptGcm (data : Bytes) (hnonce : nonce.length = 12) (aad : Bytes) :
    ∃ ciphertext tag, cipher.encryptGcm sm4 data nonce aad = .ok (ciphertext, tag) ∧
      ciphertext.length = data.length ∧ tag.length = 16 ∧
      cipher.decryptGcm sm4 ciphertext nonce aad tag = .ok data := by
  have hcounter : (inc32 (initialCounter nonce)).length = 16 :=
    length_inc32 (by simp [initialCounter, hnonce])
  have hlen := length_applyKeystream sm4 cipher hcounter data
  have htag := length_gcmTag sm4 cipher hnonce aad
    (cipher.applyKeystream sm4 (inc32 (initialCounter nonce)) data)
  refine ⟨_, _, ?_, hlen, htag, ?_⟩
  · rw [encryptGcm, rejectIf_ne_bind hnonce]
  rw [decryptGcm, rejectIf_ne_bind hnonce, rejectIf_ne_bind htag,
    rejectIf_ne_bind rfl, applyKeystream_applyKeystream sm4 cipher hcounter]

variable {data : Bytes}

lemma length_le_of_decryptGcm {cipher : Sm4Cipher} {encrypted aad tag : Bytes}
    (hdec : cipher.decryptGcm sm4 encrypted nonce aad tag = .ok data) :
    data.length ≤ encrypted.length := by
  simp only [decryptGcm, unit_bind_eq_ok, rejectIf_eq_ok, not_not, Except.ok.injEq] at hdec
  obtain ⟨hnonce, -, -, rfl⟩ := hdec
  exact (length_applyKeystream sm4 cipher (length_inc32 (by simp [initialCounter, hnonce]))
    encrypted).le

lemma encryptBlock_surjective (key : Bytes) (hblock : block.length = 16) :
    ∃ plain : Bytes, plain.length = 16 ∧ sm4.encryptBlock key plain = block := by
  have hinj : Function.Injective fun plain : List.Vector UInt8 16 ↦
      (⟨sm4.encryptBlock key plain.1, sm4.length_encryptBlock key plain.1 plain.2⟩ :
        List.Vector UInt8 16) := by
    intro plain other heq
    have hdec := congrArg (fun result : List.Vector UInt8 16 ↦ sm4.decryptBlock key result.1) heq
    simp only [sm4.decryptBlock_encryptBlock _ _ plain.2,
      sm4.decryptBlock_encryptBlock _ _ other.2] at hdec
    exact Subtype.ext hdec
  obtain ⟨plain, hplain⟩ := Finite.injective_iff_surjective.mp hinj ⟨block, hblock⟩
  exact ⟨plain.1, plain.2, congrArg Subtype.val hplain⟩

lemma encryptBlock_decryptBlock (key : Bytes) (hblock : block.length = 16) :
    (sm4.decryptBlock key block).length = 16 ∧ sm4.encryptBlock key (sm4.decryptBlock key block) =
    block := by
  obtain ⟨plain, hplain, rfl⟩ := encryptBlock_surjective sm4 key hblock
  rw [sm4.decryptBlock_encryptBlock key plain hplain]
  exact ⟨hplain, rfl⟩

section Cbc

variable {iv : Bytes} (hiv : iv.length = 16) (hblk : data.length % 16 = 0)

include hiv hblk

lemma cbcDecrypt_inverse :
    let result :=
    (cbcEncrypt (sm4.encryptBlock cipher.key) iv (chunksExact 16 (data.length / 16) data)).flatten
    result.length = data.length ∧ (cbcDecrypt (sm4.decryptBlock cipher.key) iv
      (chunksExact 16 (result.length / 16) result)).flatten = data := by
  have hkeeps := sm4.length_encryptBlock cipher.key
  exact flatten_inverse (length_cbcEncrypt _ iv)
    (fun _ hsize _ ↦ length_of_mem_cbcEncrypt hkeeps hiv hsize)
    (fun _ hsize ↦ cbcDecrypt_cbcEncrypt hkeeps (sm4.decryptBlock_encryptBlock cipher.key)
      hiv hsize) (by omega)

lemma cbcEncrypt_inverse :
    let result :=
    (cbcDecrypt (sm4.decryptBlock cipher.key) iv (chunksExact 16 (data.length / 16) data)).flatten
    result.length = data.length ∧ (cbcEncrypt (sm4.encryptBlock cipher.key) iv
      (chunksExact 16 (result.length / 16) result)).flatten = data := by
  have hkeeps (block : Bytes) (hblock : block.length = 16) :=
    (encryptBlock_decryptBlock sm4 cipher.key hblock).1
  exact flatten_inverse (length_cbcDecrypt _ iv)
    (fun _ hsize _ ↦ length_of_mem_cbcDecrypt hkeeps hiv hsize)
    (fun _ hsize ↦ cbcEncrypt_cbcDecrypt hkeeps (fun _ hblock ↦
      (encryptBlock_decryptBlock sm4 _ hblock).2) hiv hsize)
    (by omega)

lemma checkCbcInput_eq_ok (hdata : data ≠ []) : checkCbcInput data iv = .ok () := by
  rw [checkCbcInput, rejectIf_ne_bind hiv, rejectIf_neg (not_or.mpr ⟨hdata, not_not.mpr hblk⟩)]

end Cbc

lemma decryptCbcRaw_encryptCbcRaw {iv : Bytes} (hdata : data ≠ []) (hblk : data.length % 16 = 0)
    (hiv : iv.length = 16) :
    ∃ encrypted, cipher.encryptCbcRaw sm4 data iv = .ok encrypted ∧
      encrypted.length = data.length ∧ cipher.decryptCbcRaw sm4 encrypted iv = .ok data := by
  obtain ⟨hlen, hback⟩ := cbcDecrypt_inverse sm4 cipher hiv hblk
  refine ⟨_, by rw [encryptCbcRaw, checkCbcInput_eq_ok hiv hblk hdata, ok_bind], hlen, ?_⟩
  rw [decryptCbcRaw, checkCbcInput_eq_ok hiv (by rw [hlen, hblk]) (fun hnil ↦ hdata ?_),
    ok_bind, hback]
  rw [← List.length_eq_zero_iff, ← hlen, hnil, List.length_nil]

lemma length_of_decryptCbcRaw {cipher : Sm4Cipher} {encrypted iv : Bytes}
    (hdec : cipher.decryptCbcRaw sm4 encrypted iv = .ok data) : data.length = encrypted.length := by
  simp only [decryptCbcRaw, checkCbcInput, unit_bind_eq_ok, rejectIf_eq_ok, Except.ok.injEq,
    not_or, not_not] at hdec
  obtain ⟨⟨hiv, -, hblk⟩, rfl⟩ := hdec
  exact (cbcEncrypt_inverse sm4 cipher hiv hblk).1

end Sm4Cipher

end GmStack.Crypto
