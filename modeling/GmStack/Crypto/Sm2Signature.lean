import GmStack.Foundation.Der
import GmStack.Foundation.Result
import Mathlib.Data.List.DropRight

/-! The verifier of `gm-crypto/src/sm2.rs` and the raw and DER encodings of a signature. Curve
arithmetic belongs to the `sm2` crate (`Sm2Library`). -/

namespace GmStack.Crypto

open Foundation List

/-- The variants of `CryptoError` that the modelled code raises. `panicked` is no variant of the
source: it stands for the panic of an index or a slice out of range, which no caller catches. -/
inductive CryptoError
  | sm2Error (message : String)
  | sm2KexError (message : String)
  | sm4Error (message : String)
  | invalidKeyLength (expected actual : ℕ)
  | invalidDataLength (message : String)
  | invalidPadding (expected : ℕ)
  | certificateVerificationFailed (message : String)
  | crlVerificationFailed (message : String)
  | panicked (message : String)
  deriving DecidableEq

def CryptoError.display : CryptoError → String
  | .sm2Error message => "SM2 error: " ++ message
  | .sm2KexError message => "SM2 KEX error: " ++ message
  | .sm4Error message => "SM4 error: " ++ message
  | .invalidKeyLength expected actual => "invalid key length: expected " ++ toString expected ++
      ", got " ++ toString actual
  | .invalidDataLength message => "invalid data length: " ++ message
  | .invalidPadding expected => "invalid PKCS#7 padding: expected " ++ toString expected ++
    " padding bytes"
  | .certificateVerificationFailed message => "certificate verification failed: " ++ message
  | .crlVerificationFailed message => "CRL verification failed: " ++ message
  | .panicked message => message

def CryptoError.debug : CryptoError → String
  | .sm2Error message => "Sm2Error(" ++ message.quote ++ ")"
  | .sm2KexError message => "Sm2KexError(" ++ message.quote ++ ")"
  | .sm4Error message => "Sm4Error(" ++ message.quote ++ ")"
  | .invalidKeyLength expected actual => "InvalidKeyLength \x7b expected: " ++ toString expected ++
      ", actual: " ++ toString actual ++ " \x7d"
  | .invalidDataLength message => "InvalidDataLength(" ++ message.quote ++ ")"
  | .invalidPadding expected => "InvalidPadding \x7b expected: " ++ toString expected ++ " \x7d"
  | .certificateVerificationFailed message =>
    "CertificateVerificationFailed(" ++ message.quote ++ ")"
  | .crlVerificationFailed message => "CrlVerificationFailed(" ++ message.quote ++ ")"
  | .panicked message => message

/-- The calls into the `sm2` crate for signatures and point decoding. -/
structure Sm2Library where
  verifyingKeyFromSec1Bytes : String → Bytes → Except String Unit
  signatureFromBytes : Bytes → Except String Unit
  verify : Bytes → String → Bytes → Bytes → Except String Unit
  encodedPointFromBytes : Bytes → Except String Unit
  uncompress : Bytes → Option Bytes

section Verifier

variable (sm2 : Sm2Library)

/-- A verifier: an accepted public key with its identifier. -/
structure Sm2Verifier where
  publicKey : Bytes
  distid : String

def Sm2Verifier.new (publicKey : Bytes) (distid : String) : Except CryptoError Sm2Verifier := do
  (sm2.verifyingKeyFromSec1Bytes distid publicKey).mapError fun e ↦
    .sm2Error ("invalid public key: " ++ e)
  .ok { publicKey, distid }

def Sm2Verifier.verify (verifier : Sm2Verifier) (data signature : Bytes) :
    Except CryptoError Unit := do
  rejectIf (signature.length ≠ 64) (.sm2Error ("signature length error: expected 64 bytes, got " ++
    toString signature.length ++ " bytes"))
  (sm2.signatureFromBytes signature).mapError fun e ↦ .sm2Error ("invalid signature format: " ++ e)
  (sm2.verify verifier.publicKey verifier.distid data signature).mapError
    fun e ↦ .sm2Error ("signature verification failed: " ++ e)

def decompressSm2Pubkey (sec1Pubkey : Bytes) : Except CryptoError Bytes := do
  (sm2.encodedPointFromBytes sec1Pubkey).mapError fun e ↦
    .sm2Error ("invalid SEC1 public key format: " ++ e)
  match sm2.uncompress sec1Pubkey with
  | some uncompressed => .ok uncompressed
  | none => .error (.sm2Error "invalid SM2 public key point")

/-- The library accepts the signature. -/
structure Sm2Library.Accepts (publicKey : Bytes) (distid : String) (data signature : Bytes) :
    Prop where
  key : sm2.verifyingKeyFromSec1Bytes distid publicKey = .ok ()
  length : signature.length = 64
  format : sm2.signatureFromBytes signature = .ok ()
  equation : sm2.verify publicKey distid data signature = .ok ()

variable {publicKey : Bytes} {distid : String}

lemma Sm2Verifier.new_eq_ok {verifier : Sm2Verifier} :
    Sm2Verifier.new sm2 publicKey distid = .ok verifier ↔
      sm2.verifyingKeyFromSec1Bytes distid publicKey = .ok () ∧ verifier = ⟨publicKey, distid⟩ := by
  unfold Sm2Verifier.new
  simp only [unit_bind_eq_ok, mapError_eq_ok, Except.ok.injEq]
  exact and_congr_right fun _ ↦ eq_comm

lemma Sm2Verifier.verify_eq_ok {data signature : Bytes}
    (hkey : sm2.verifyingKeyFromSec1Bytes distid publicKey = .ok ()) :
    Sm2Verifier.verify sm2 ⟨publicKey, distid⟩ data signature = .ok () ↔
    sm2.Accepts publicKey distid data signature := by
  unfold Sm2Verifier.verify
  simp only [unit_bind_eq_ok, mapError_eq_ok, rejectIf_eq_ok, not_not]
  constructor
  · rintro ⟨hlen, hformat, hequation⟩
    exact ⟨hkey, hlen, hformat, hequation⟩
  · rintro ⟨-, hlen, hformat, hequation⟩
    exact ⟨hlen, hformat, hequation⟩

end Verifier

def derLen (len : ℕ) : Bytes :=
  if len < 0x80 then beOctets 1 len
  else if len < 0x100 then 0x81 :: beOctets 1 len
  else if len < 0x10000 then 0x82 :: beOctets 2 len
  else if len < 0x1000000 then 0x83 :: beOctets 3 len
  else 0x84 :: beOctets 4 len

def parseDerLength : Bytes → Except CryptoError (ℕ × ℕ)
  | [] => .error (.sm2Error "DER parse error: truncated length")
  | first :: rest =>
    if first < 0x80 then .ok (first.toNat, 1)
    else do
      let numBytes := (first &&& 0x7F).toNat
      rejectIf (numBytes = 0 ∨ numBytes > 4)
        (.sm2Error ("DER parse error: invalid long form length (" ++ toString numBytes ++ ")"))
      rejectIf (rest.length < numBytes) (.sm2Error "DER parse error: truncated long form length")
      .ok (beNat (rest.take numBytes), 1 + numBytes)

def stripLeadingZeros (value : Bytes) : Bytes := value.dropWhile (· == 0)

def derIntegerLen (value : Bytes) : ℕ :=
  match stripLeadingZeros value with
  | [] => 3
  | lead :: rest =>
    if lead &&& 0x80 ≠ 0 then 3 + (lead :: rest).length else 2 + (lead :: rest).length

def derEncodeInteger (value : Bytes) : Bytes :=
  match stripLeadingZeros value with
  | [] => 0x02 :: (derLen 1 ++ [0])
  | lead :: rest =>
    if lead &&& 0x80 ≠ 0 then 0x02 :: (derLen ((lead :: rest).length + 1) ++ 0 :: lead :: rest)
    else 0x02 :: (derLen (lead :: rest).length ++ lead :: rest)

def parseDerInteger (bytes : Bytes) : Except CryptoError (Bytes × ℕ) := do
  rejectIf (bytes.head? ≠ some 0x02) (.sm2Error "expected INTEGER tag 0x02")
  let (len, consumed) ← parseDerLength (bytes.drop 1)
  let pos := 1 + consumed
  rejectIf (bytes.length < pos + len) (.sm2Error "INTEGER content truncated")
  let stripped := stripLeadingZeros ((bytes.drop pos).take len)
  let value := if stripped = [] then List.replicate len 0 else stripped
  rejectIf (value.length > 32)
    (.sm2Error ("INTEGER too large for SM2 field: " ++ toString value.length ++ " bytes"))
  .ok (List.replicate (32 - value.length) 0 ++ value, pos + len)

/-! ### Signatures -/

def sm2SignatureDerToRaw (der : Bytes) : Except CryptoError Bytes := do
  rejectIf (der.head? ≠ some 0x30) (.sm2Error "expected SEQUENCE tag 0x30 for signature")
  let (seqLen, consumed) ← parseDerLength (der.drop 1)
  let start := 1 + consumed
  let seqEnd := start + seqLen
  rejectIf (seqEnd > der.length) (.sm2Error "signature SEQUENCE length exceeds input")
  let (r, rLen) ← parseDerInteger (der.drop start)
  rejectIf (r.length ≠ 32) (.sm2Error ("signature r must be 32 bytes, got " ++ toString r.length))
  let (s, sLen) ← parseDerInteger (der.drop (start + rLen))
  rejectIf (s.length ≠ 32) (.sm2Error ("signature s must be 32 bytes, got " ++ toString s.length))
  rejectIf (start + rLen + sLen ≠ seqEnd) (.sm2Error "extra bytes after signature SEQUENCE")
  .ok (r ++ s)

def sm2SignatureRawToDer (raw : Bytes) : Bytes :=
  let r := raw.take 32
  let s := raw.drop 32
  0x30 :: (derLen (derIntegerLen r + derIntegerLen s) ++ (derEncodeInteger r ++ derEncodeInteger s))

lemma parseDerLength_long {first : UInt8} {octets : Bytes} (hlong : ¬ first < 0x80)
    (hcount : (first &&& 0x7F).toNat = octets.length) (hpos : octets ≠ [])
    (hfour : octets.length ≤ 4) (rest : Bytes) :
    parseDerLength (first :: octets ++ rest) = .ok (beNat octets, 1 + octets.length) := by
  have hnonzero : octets.length ≠ 0 := fun hzero ↦ hpos (length_eq_zero_iff.mp hzero)
  have hcountOk : ¬ (octets.length = 0 ∨ octets.length > 4) := by omega
  have hpresent : ¬ (octets ++ rest).length < octets.length := by simp
  rw [cons_append, parseDerLength, if_neg hlong]
  simp only [hcount, rejectIf_neg hcountOk, rejectIf_neg hpresent, ok_bind, take_left]

lemma parseDerLength_derLen_mod (len : ℕ) (rest : Bytes) :
    parseDerLength (derLen len ++ rest) = .ok (len % 2 ^ 32, (derLen len).length) := by
  have hlong (first : UInt8) (width : ℕ) (hfirst : ¬ first < 0x80)
      (hcount : (first &&& 0x7F).toNat = width) (hpos : width ≠ 0) (hfour : width ≤ 4)
      (hfits : len % 256 ^ width = len % 2 ^ 32) :
        parseDerLength (first :: beOctets width len ++ rest) =
        .ok (len % 2 ^ 32, (first :: beOctets width len).length) := by
    rw [parseDerLength_long hfirst (by rw [length_beOctets, hcount]) (fun hnil ↦ hpos (by
        rw [← length_beOctets width len, hnil, length_nil])) (by rwa [length_beOctets]),
      beNat_beOctets_mod, hfits, length_cons, add_comm]
  unfold derLen
  split_ifs with h1 h2 h3 h4
  · have hshort : UInt8.ofNat len < 0x80 := by
      exact lt_of_le_of_lt (Nat.mod_le _ _) h1
    simp [parseDerLength, beOctets, hshort, Nat.mod_eq_of_lt (by omega : len < 256),
      Nat.mod_eq_of_lt (by omega : len < 4294967296)]
  · exact hlong 0x81 1 (by decide) (by decide) (by decide) (by decide) (by omega)
  · exact hlong 0x82 2 (by decide) (by decide) (by decide) (by decide) (by omega)
  · exact hlong 0x83 3 (by decide) (by decide) (by decide) (by decide) (by omega)
  · exact hlong 0x84 4 (by decide) (by decide) (by decide) (by decide) rfl

lemma parseDerLength_derLen {len : ℕ} (hlen : len < 2 ^ 32) (rest : Bytes) :
    parseDerLength (derLen len ++ rest) = .ok (len, (derLen len).length) := by
  rw [parseDerLength_derLen_mod, Nat.mod_eq_of_lt hlen]

lemma parseDerLength_lt {bytes : Bytes} {len consumed : ℕ}
    (hread : parseDerLength bytes = .ok (len, consumed)) :
    len < 2 ^ 32 := by
  cases bytes with
  | nil => cases hread
  | cons first rest =>
    rw [parseDerLength] at hread
    split_ifs at hread with hshort
    · cases hread
      have := first.toNat_lt
      omega
    obtain ⟨_, hcount, hread⟩ := bind_eq_ok.mp hread
    obtain ⟨_, -, hread⟩ := bind_eq_ok.mp hread
    cases hread
    rw [rejectIf_eq_ok] at hcount
    calc beNat (rest.take (first &&& 0x7F).toNat) <
      256 ^ (rest.take (first &&& 0x7F).toNat).length := beNat_lt _
      _ ≤ 256 ^ 4 := Nat.pow_le_pow_right (by decide) ((length_take_le _ _).trans (by omega))

lemma replicate_append_stripLeadingZeros (value : Bytes) :
    replicate (value.length - (stripLeadingZeros value).length) 0 ++ stripLeadingZeros value =
      value := by
  induction value with
  | nil => rfl
  | cons octet rest ih =>
    by_cases hzero : octet = 0
    · have hle : (stripLeadingZeros rest).length ≤ rest.length := by
        exact (dropWhile_suffix _).length_le
      have hstrip : stripLeadingZeros (octet :: rest) = stripLeadingZeros rest := by
        simp [stripLeadingZeros, hzero]
      rw [hstrip, length_cons, Nat.succ_sub hle, replicate_succ, cons_append, ih, hzero]
    have hstrip : stripLeadingZeros (octet :: rest) = octet :: rest := by
      simp [stripLeadingZeros, hzero]
    simp [hstrip]

lemma length_stripLeadingZeros_le (value : Bytes) :
    (stripLeadingZeros value).length ≤ value.length :=
  (dropWhile_suffix _).length_le

variable {value : Bytes}

lemma stripLeadingZeros_of_stripped {stripped : Bytes}
    (hstrip : stripLeadingZeros value = stripped) :
    stripLeadingZeros stripped = stripped ∧ stripLeadingZeros (0 :: stripped) = stripped := by
  have hidem : stripLeadingZeros stripped = stripped := by
    rw [← hstrip]
    exact dropWhile_idempotent _ _
  refine ⟨hidem, ?_⟩
  exact hidem

lemma parseDerInteger_element (content : Bytes) (hlen : content.length ≤ 33)
    (hstrip : (stripLeadingZeros content).length ≤ 32)
    (hzeros : stripLeadingZeros content = [] → content.length ≤ 32) (rest : Bytes) :
    parseDerInteger (0x02 :: (derLen content.length ++ content) ++ rest) =
      .ok (replicate (32 - (stripLeadingZeros content).length) 0 ++ stripLeadingZeros content,
        (0x02 :: (derLen content.length ++ content)).length) := by
  set header := derLen content.length with hhdr
  have hread : parseDerLength (header ++ (content ++ rest)) = .ok (content.length, header.length) :=
    parseDerLength_derLen (by omega) _
  have hdrop : (0x02 :: (header ++ content) ++ rest).drop (1 + header.length) =
      content ++ rest := by
    rw [add_comm, cons_append, drop_succ_cons, append_assoc, drop_left]
  have hpresent : ¬ (0x02 :: (header ++ content) ++ rest).length <
      1 + header.length + content.length := by
    simp only [cons_append, length_cons, length_append]
    omega
  have hval : (if stripLeadingZeros content = [] then replicate content.length (0 : UInt8)
      else stripLeadingZeros content).length ≤ 32 := by
    split_ifs with hnil
    · simpa using hzeros hnil
    · exact hstrip
  unfold parseDerInteger
  rw [rejectIf_bind (by simp), cons_append, drop_succ_cons, drop_zero,
    append_assoc, hread, ok_bind, ← append_assoc, ← cons_append]
  dsimp only
  rw [rejectIf_bind hpresent, hdrop, take_left, rejectIf_bind (not_lt.mpr hval)]
  congr 2
  · split_ifs with hnil
    · rw [hnil, length_replicate, append_nil, length_nil, replicate_append_replicate]
      congr 1
      have := hzeros hnil
      omega
    · rfl
  · simp only [length_cons, length_append]
    omega

section

variable (hval : value.length = 32)

include hval

lemma parseDerInteger_derEncodeInteger (rest : Bytes) :
    parseDerInteger (derEncodeInteger value ++ rest) =
    .ok (value, (derEncodeInteger value).length) := by
  have hrestore := replicate_append_stripLeadingZeros value
  have hle := length_stripLeadingZeros_le value
  rw [hval] at hrestore hle
  unfold derEncodeInteger
  cases hstrip : stripLeadingZeros value with
  | nil =>
    rw [hstrip] at hrestore
    have hread := parseDerInteger_element [0] (by decide) (by decide) (by decide) rest
    have hzero : stripLeadingZeros [0] = [] := rfl
    rwa [hzero, hrestore] at hread
  | cons lead tail =>
    obtain ⟨hidem, hsign⟩ := stripLeadingZeros_of_stripped hstrip
    rw [hstrip] at hrestore hle
    dsimp only
    split_ifs with htop
    · have hread := parseDerInteger_element (0 :: lead :: tail) (by rw [length_cons]; omega)
        (by rwa [hsign])
        (fun hnil ↦ absurd (hsign.symm.trans hnil) (by simp)) rest
      rwa [hsign, hrestore] at hread
    · have hread := parseDerInteger_element (lead :: tail) (by omega) (by rwa [hidem])
        (fun _ ↦ hle) rest
      rwa [hidem, hrestore] at hread

lemma length_derEncodeInteger : (derEncodeInteger value).length = derIntegerLen value := by
  have hle := length_stripLeadingZeros_le value
  unfold derEncodeInteger derIntegerLen
  cases hstrip : stripLeadingZeros value with
  | nil => rfl
  | cons lead tail =>
    rw [hstrip] at hle
    have hshort (len : ℕ) (hlen : len ≤ 33) : (derLen len).length = 1 := by
      rw [derLen, if_pos (by omega), length_beOctets]
    dsimp only
    split_ifs
    · rw [length_cons, length_append, hshort _ (by omega), length_cons]
      omega
    · rw [length_cons, length_append, hshort _ (by omega)]
      omega

lemma derIntegerLen_le : derIntegerLen value ≤ 35 := by
  have hle := length_stripLeadingZeros_le value
  unfold derIntegerLen
  cases hstrip : stripLeadingZeros value with
  | nil => decide
  | cons lead tail =>
    rw [hstrip] at hle
    dsimp only
    split_ifs <;> omega

end

lemma sm2SignatureDerToRaw_sequence {r s encR encS : Bytes} (hr : r.length = 32)
    (hs : s.length = 32) (hreadR : parseDerInteger (encR ++ encS) = .ok (r, encR.length))
    (hreadS : parseDerInteger encS = .ok (s, encS.length))
    (hseq : encR.length + encS.length < 2 ^ 32) :
    sm2SignatureDerToRaw (0x30 :: (derLen (encR.length + encS.length) ++ (encR ++ encS))) =
    .ok (r ++ s) := by
  have hreadSeq := parseDerLength_derLen hseq (encR ++ encS)
  generalize derLen (encR.length + encS.length) = header at hreadSeq ⊢
  have hdrop (count : ℕ) : (0x30 :: (header ++ (encR ++ encS))).drop (1 + header.length + count) =
      (encR ++ encS).drop count := by
    rw [add_comm 1, add_assoc, add_comm 1, ← add_assoc, drop_succ_cons, drop_append,
      drop_of_length_le (by omega), nil_append]
    congr 1
    omega
  unfold sm2SignatureDerToRaw
  rw [rejectIf_bind (by simp), drop_succ_cons, drop_zero, hreadSeq, ok_bind]
  dsimp only
  rw [rejectIf_bind (by simp only [length_cons, length_append]; omega),
    ← add_zero (1 + header.length), hdrop 0, drop_zero, hreadR, ok_bind]
  rw [rejectIf_bind (by rw [hr]; simp), add_zero, hdrop encR.length, drop_left, hreadS, ok_bind]
  rw [rejectIf_bind (by rw [hs]; simp), rejectIf_bind (by omega)]

variable {raw : Bytes} (hraw : raw.length = 64)

include hraw

lemma sm2SignatureDerToRaw_rawToDer : sm2SignatureDerToRaw (sm2SignatureRawToDer raw) =
    .ok raw := by
  have hr : (raw.take 32).length = 32 := by rw [length_take, hraw]; rfl
  have hs : (raw.drop 32).length = 32 := by rw [length_drop, hraw]
  have hreadR := parseDerInteger_derEncodeInteger hr (derEncodeInteger (raw.drop 32))
  have hreadS := parseDerInteger_derEncodeInteger hs []
  rw [append_nil] at hreadS
  have hlenR := derIntegerLen_le hr
  have hlenS := derIntegerLen_le hs
  rw [← length_derEncodeInteger hr] at hlenR
  rw [← length_derEncodeInteger hs] at hlenS
  have hread := sm2SignatureDerToRaw_sequence hr hs hreadR hreadS (by omega)
  rwa [length_derEncodeInteger hr, length_derEncodeInteger hs, take_append_drop] at hread

lemma length_sm2SignatureRawToDer_le : (sm2SignatureRawToDer raw).length ≤ 72 := by
  have hr : (raw.take 32).length = 32 := by rw [length_take, hraw]; rfl
  have hs : (raw.drop 32).length = 32 := by rw [length_drop, hraw]
  have hlenR := derIntegerLen_le hr
  have hlenS := derIntegerLen_le hs
  have hhdr : (derLen (derIntegerLen (raw.take 32) + derIntegerLen (raw.drop 32))).length = 1 := by
    rw [derLen, if_pos (by omega), length_beOctets]
  unfold sm2SignatureRawToDer
  rw [length_cons, length_append, hhdr, length_append, length_derEncodeInteger hr,
    length_derEncodeInteger hs]
  omega

end GmStack.Crypto
