import GmStack.Crypto.Sm2Keys
import GmStack.Crypto.Symmetric
import GmStack.Tls.Messages
import GmStack.X509.PeerChecks

/-! Key derivation (`gm-tls/src/kdf.rs`), session tickets (`session_ticket.rs`) and the keys a
stream starts with (`record_layer.rs`). -/

namespace GmStack.Tls

open Foundation Crypto X509

structure SessionKeys where
  clientKey : Bytes
  clientNonce : Octets 12
  serverKey : Bytes
  serverNonce : Octets 12
  deriving DecidableEq

/-- `SessionState`: what a session ticket holds. -/
structure SessionState where
  masterSecret : Bytes
  sessionKeys : SessionKeys
  clientTrafficSecret : Option Bytes
  serverTrafficSecret : Option Bytes
  serverRandom : Octets 32
  clientRandom : Octets 32
  alpn : Option Bytes
  lifetimeHint : ℕ
  requireClientAuth : Bool
  createdAt : ℕ
  deriving DecidableEq

/-- The crates under the handshake. -/
structure TlsLibrary (F P : Type) [CommRing F] [AddCommGroup P] [Module F P] where
  sm2 : Sm2Curve F P
  sm3 : Sm3Library
  sm4 : Sm4Library
  x509 : X509Library
  strFromUtf8 : Bytes → Except String String
  serializeTicket : SessionTicket → Except String Bytes
  deserializeTicket : Bytes → Except String SessionTicket
  serializeState : SessionState → Except String Bytes
  deserializeState : Bytes → Except String SessionState

structure TicketKey where
  id : UInt8
  secret : Octets 32
  deriving DecidableEq

structure TicketKeySet where
  keys : List TicketKey

def TicketKeySet.primaryKey (keySet : TicketKeySet) : Option TicketKey := keySet.keys.head?

def TicketKeySet.findKey (keySet : TicketKeySet) (id : UInt8) : Option TicketKey :=
  keySet.keys.find? fun key ↦ key.id == id

/-- The answers of a `SessionStore` during one connection. -/
structure SessionStore where
  isTicketReplay : Bytes → Bool
  markTicketUsed : Bytes → Except TlsError Unit

def SessionStore.inMemory : SessionStore where
  isTicketReplay := fun _ ↦ false
  markTicketUsed := fun _ ↦ .ok ()

section Library

variable {F P : Type} [CommRing F] [AddCommGroup P] [Module F P] (lib : TlsLibrary F P)

def deriveTicketSm4Key (ticketKey : Octets 32) : Bytes :=
  (lib.sm3.hash (ticketKey.bytes ++ "GM/TLS-session-ticket".toUTF8.toList)).take 16

def maxSessionTicketSize : ℕ := 64 * 1024

def maxTicketLifetime : ℕ := 86400

def checkTicketSize (combined : Bytes) : Except TlsError Unit := do
  rejectIf (combined.length < 29) (.sessionTicketInvalid "invalid session ticket")
  rejectIf (combined.length > maxSessionTicketSize) (.sessionTicketInvalid
    ("session ticket too large: " ++ toString combined.length ++ " bytes (max " ++
      toString maxSessionTicketSize ++ ")"))

def readTicket (combined : Bytes) (keySet : TicketKeySet) (now : ℕ) :
    Except TlsError SessionState := do
  let keyId := combined.headD 0
  let key ← match keySet.findKey keyId with
    | some key => .ok key
    | none => .error (.sessionTicketInvalid ("unknown ticket key ID: " ++ toString keyId.toNat))
  let cipher ← (Sm4Cipher.new (deriveTicketSm4Key lib key.secret)).mapError
    fun e ↦ .sessionTicketInvalid ("failed to create decryptor: " ++ e.display)
  let stateBytes ← (cipher.decryptGcm lib.sm4 (combined.drop 29) ((combined.drop 1).take 12) []
    ((combined.drop 13).take 16)).mapError
      fun e ↦ .sessionTicketInvalid ("session ticket decryption failed: " ++ e.display)
  let state ← (lib.deserializeState stateBytes).mapError fun e ↦ .sessionTicketInvalid
    ("session state parse failed: " ++ (TlsError.serializationFailed e).display)
  rejectIf (now - state.createdAt > min state.lifetimeHint maxTicketLifetime) .sessionTicketExpired
  rejectIf (state.requireClientAuth = true) (.sessionTicketInvalid
    "session ticket does not support resumption of client-authenticated sessions")
  .ok state

def decryptSessionTicket (ticket : SessionTicket) (keySet : TicketKeySet) (store : SessionStore)
    (now : ℕ) : Except TlsError SessionState := do
  checkTicketSize ticket.encryptedTicket
  rejectIf (store.isTicketReplay ticket.encryptedTicket = true) .sessionTicketReplay
  let state ← readTicket lib ticket.encryptedTicket keySet now
  store.markTicketUsed ticket.encryptedTicket
  .ok state

inductive TicketErrorClass
  | replayDetected
  | expired
  | tamperedOrForged
  | other
  deriving DecidableEq

def classifyTicketError : TlsError → TicketErrorClass
  | .sessionTicketReplay => .replayDetected
  | .sessionTicketExpired => .expired
  | .sessionTicketInvalid _ => .tamperedOrForged
  | _ => .other

def encryptSessionTicket (state : SessionState) (keySet : TicketKeySet) (nonce : Octets 12) :
    Except TlsError SessionTicket := do
  let key ← match keySet.primaryKey with
    | some key => .ok key
    | none => .error (.handshakeFailed "ticket key set is empty")
  let stateBytes ← (lib.serializeState state).mapError fun e ↦ .handshakeFailed
    ("session state serialization failed: " ++ (TlsError.serializationFailed e).display)
  let cipher ← (Sm4Cipher.new (deriveTicketSm4Key lib key.secret)).mapError
    fun e ↦ .handshakeFailed ("failed to create encryptor: " ++ e.display)
  let (encrypted, tag) ← (cipher.encryptGcm lib.sm4 stateBytes nonce.bytes []).mapError
    fun e ↦ .handshakeFailed ("session ticket encryption failed: " ++ e.display)
  .ok { encryptedTicket := key.id :: (nonce.bytes ++ tag ++ encrypted), ticketVersion := 1 }

lemma length_deriveTicketSm4Key (ticketKey : Octets 32) :
    (deriveTicketSm4Key lib ticketKey).length = 16 := by
  rw [deriveTicketSm4Key, List.length_take, lib.sm3.length_hash]
  rfl

lemma encryptSessionTicket_eq_ok {state : SessionState} {keySet : TicketKeySet} {key : TicketKey}
    {stateBytes : Bytes}
    (hkey : keySet.primaryKey = some key) (hserz : lib.serializeState state = .ok stateBytes)
    (nonce : Octets 12) :
    ∃ encrypted tag, encrypted.length = stateBytes.length ∧ tag.length = 16 ∧
      encryptSessionTicket lib state keySet nonce =
      .ok ⟨key.id :: (nonce.bytes ++ tag ++ encrypted), 1⟩ ∧
      Sm4Cipher.decryptGcm lib.sm4 ⟨_, length_deriveTicketSm4Key lib key.secret⟩
      encrypted nonce.bytes [] tag =
        .ok stateBytes := by
  obtain ⟨encrypted, tag, henc, hlen, htag, hdec⟩ := Sm4Cipher.decryptGcm_encryptGcm lib.sm4
    ⟨_, length_deriveTicketSm4Key lib key.secret⟩ stateBytes nonce.length_bytes []
  refine ⟨encrypted, tag, hlen, htag, ?_, hdec⟩
  rw [encryptSessionTicket, hkey]
  dsimp only
  rw [ok_bind, hserz, mapError_ok, ok_bind,
    Sm4Cipher.new_eq_ok (length_deriveTicketSm4Key lib key.secret), mapError_ok,
    ok_bind, henc, mapError_ok, ok_bind]

def hkdfExpand (prk info : Bytes) (len : ℕ) : ℕ → Bytes → Bytes → ℕ → Except TlsError Bytes
  | 0, _, _, _ => .error (.panicked "out of fuel")
  | fuel + 1, okm, tPrev, counter =>
    if okm.length < len then
      let t := sm3Hmac lib.sm3 prk (tPrev ++ info ++ [UInt8.ofNat counter])
      if (okm ++ t).length < len then
        if counter + 1 ≤ 255 then hkdfExpand prk info len fuel (okm ++ t) t (counter + 1)
        else .error (.handshakeFailed "HKDF-Expand counter overflow")
      else hkdfExpand prk info len fuel (okm ++ t) t counter
    else .ok (okm.take len)

def hkdfSm3 (ikm salt info : Bytes) (len : ℕ) : Except TlsError Bytes := do
  rejectIf (len > 255 * 32) (.handshakeFailed ("HKDF output length " ++ toString len ++
    " exceeds maximum " ++ toString (255 * 32) ++ " bytes"))
  let prk := sm3Hmac lib.sm3 (if salt = [] then List.replicate 32 0 else salt) ikm
  hkdfExpand lib prk info len 256 [] [] 1

section Hkdf

variable (sm3 : Sm3Library) (ikm salt prk info : Bytes)

def rfcHmac (key data : Bytes) : Bytes :=
  let short := if key.length > 64 then sm3.hash key else key
  let masked (pad : UInt8) := (List.range 64).map fun i ↦ pad ^^^ short.getD i 0
  sm3.hash (masked 0x5C ++ sm3.hash (masked 0x36 ++ data))

def hkdfBlock : ℕ → Bytes
  | 0 => []
  | i + 1 => rfcHmac sm3 prk (hkdfBlock i ++ info ++ [UInt8.ofNat (i + 1)])

def hkdfBlocks (count : ℕ) : Bytes := (List.range count).flatMap fun i ↦
    hkdfBlock sm3 prk info (i + 1)

lemma sm3Hmac_eq_rfcHmac (key data : Bytes) : sm3Hmac sm3 key data = rfcHmac sm3 key data := by
  have hmask (short : Bytes) (hshort : short.length ≤ 64) (pad : UInt8) :
      xorBytes (List.replicate 64 pad) (short ++ List.replicate (64 - short.length) 0) =
        (List.range 64).map fun i ↦ pad ^^^ short.getD i 0 := by
    refine List.ext_getElem (by simp [length_xorBytes]; omega) fun i _ _ ↦ ?_
    by_cases hin : i < short.length
    · simp [xorBytes, hin, -List.reduceReplicate]
    · simp [xorBytes, hin, List.getElem_append_right (Nat.not_lt.mp hin), -List.reduceReplicate]
  have hshort : (if key.length > 64 then sm3.hash key else key).length ≤ 64 := by
    split_ifs with hlong
    · rw [sm3.length_hash]
      decide
    · omega
  simp only [sm3Hmac, hmacKeyPadded, rfcHmac, hmask _ hshort]

lemma hkdfBlocks_succ (count : ℕ) :
    hkdfBlocks sm3 prk info (count + 1) = hkdfBlocks sm3 prk info count ++
    hkdfBlock sm3 prk info (count + 1) := by
  rw [hkdfBlocks, hkdfBlocks, List.range_succ, List.flatMap_append, List.flatMap_singleton]

@[simp] lemma length_hkdfBlocks (count : ℕ) : (hkdfBlocks sm3 prk info count).length = 32 * count :=
  length_flatMap_range fun _ ↦ sm3.length_hash _

lemma take_hkdfBlocks {count len : ℕ} (hlen : len ≤ 32 * count) (more : ℕ) :
    (hkdfBlocks sm3 prk info (count + more)).take len = (hkdfBlocks sm3 prk info count).take len :=
  take_flatMap_range (fun _ ↦ sm3.length_hash _) hlen more

lemma hkdfExpand_eq {len fuel counter count rounds : ℕ} (hfuel : rounds < fuel)
    (hcounter : rounds = 0 ∨ counter = count + 1) (hlen : len ≤ 32 * (count + rounds))
    (hneeded : rounds = 0 ∨ 32 * (count + rounds) < len + 32) (hmax : count + rounds ≤ 255) :
    hkdfExpand lib prk info len fuel (hkdfBlocks lib.sm3 prk info count)
    (hkdfBlock lib.sm3 prk info count) counter =
      .ok ((hkdfBlocks lib.sm3 prk info (count + rounds)).take len) := by
  induction rounds generalizing fuel counter count with
  | zero =>
    obtain ⟨fuel, rfl⟩ := Nat.exists_eq_succ_of_ne_zero (Nat.ne_of_gt hfuel)
    rw [hkdfExpand, length_hkdfBlocks]
    exact if_neg (Nat.not_lt.mpr hlen)
  | succ rounds ih =>
    obtain ⟨fuel, rfl⟩ := Nat.exists_eq_succ_of_ne_zero (Nat.ne_of_gt (Nat.zero_lt_of_lt hfuel))
    obtain rfl : counter = count + 1 := hcounter.resolve_left (Nat.succ_ne_zero _)
    have hround : sm3Hmac lib.sm3 prk (hkdfBlock lib.sm3 prk info count ++ info ++
      [UInt8.ofNat (count + 1)]) =
        hkdfBlock lib.sm3 prk info (count + 1) := sm3Hmac_eq_rfcHmac _ _ _
    have hnext (next : ℕ) (hlast : rounds = 0 ∨ next = count + 1 + 1) :=
      @ih fuel next (count + 1) (by omega) hlast (by omega) (by omega) (by omega)
    rw [hkdfExpand, length_hkdfBlocks, if_pos (by omega)]
    simp only [hround, ← hkdfBlocks_succ, length_hkdfBlocks]
    rw [show count + (rounds + 1) = count + 1 + rounds by omega]
    split_ifs with hmore hcount
    · exact hnext _ (.inr rfl)
    · omega
    · exact hnext _ (.inl (by omega))

def hkdfExtract : Bytes := rfcHmac lib.sm3 (if salt = [] then List.replicate 32 0 else salt) ikm

lemma hkdfSm3_eq_ok {len : ℕ} (hlen : len ≤ 255 * 32) :
    hkdfSm3 lib ikm salt info len =
    .ok ((hkdfBlocks lib.sm3 (hkdfExtract lib ikm salt) info 255).take len) := by
  obtain ⟨more, hmore⟩ := Nat.exists_eq_add_of_le (show (len + 31) / 32 ≤ 255 by omega)
  have hexpand := @hkdfExpand_eq _ _ _ _ _ lib (hkdfExtract lib ikm salt) info len 256 1 0
    ((len + 31) / 32)
    (by omega) (.inr rfl) (by omega) (by omega) (by omega)
  rw [Nat.zero_add] at hexpand
  rw [hkdfSm3, rejectIf_bind (by omega), hmore, take_hkdfBlocks _ _ _ (by omega),
    ← hexpand, hkdfExtract,
    sm3Hmac_eq_rfcHmac]
  rfl

lemma exists_hkdfSm3 {len : ℕ} (hlen : len ≤ 32) : ∃ okm, hkdfSm3 lib ikm salt info len = .ok okm ∧
    okm.length = len := by
  refine ⟨_, hkdfSm3_eq_ok lib ikm salt info (by omega), ?_⟩
  rw [List.length_take, length_hkdfBlocks, Nat.min_eq_left (by omega)]

/-- `hkdf_sm3` is HKDF: up to 255 blocks it returns that many octets of them; beyond them it
refuses. -/
theorem hkdfSm3_rfc5869 (len : ℕ) :
    if len ≤ 255 * 32 then
      ∃ okm, hkdfSm3 lib ikm salt info len = .ok okm ∧ okm.length = len ∧
        (∀ count, len ≤ 32 * count →
        okm = (hkdfBlocks lib.sm3 (hkdfExtract lib ikm salt) info count).take len) ∧
          ∀ shorter ≤ len, hkdfSm3 lib ikm salt info shorter = .ok (okm.take shorter)
    else hkdfSm3 lib ikm salt info len =
    .error (.handshakeFailed ("HKDF output length " ++ toString len ++
      " exceeds maximum " ++ toString (255 * 32) ++ " bytes")) := by
  split_ifs with hlen
  · refine ⟨_, hkdfSm3_eq_ok lib ikm salt info hlen, ?_, fun count hcount ↦ ?_,
      fun shorter hshort ↦ ?_⟩
    · rw [List.length_take, length_hkdfBlocks, Nat.min_eq_left (by omega)]
    · rw [← take_hkdfBlocks lib.sm3 _ info hcount 255, Nat.add_comm,
        take_hkdfBlocks _ _ _ (by omega)]
    · rw [hkdfSm3_eq_ok lib ikm salt info (hshort.trans hlen), List.take_take,
        Nat.min_eq_left hshort]
  · rw [hkdfSm3, rejectIf_pos (Nat.not_le.mp hlen), error_bind]

end Hkdf

def copyNonce (material : Bytes) : Except TlsError (Octets 12) :=
  if hlength : material.length = 12 then .ok ⟨material, hlength⟩
  else .error (.panicked "source slice length does not match destination slice length")

def deriveKeyIvFromSecret (secret : Bytes) : Except TlsError (Bytes × Octets 12) := do
  let key ← hkdfSm3 lib secret [] "key".toUTF8.toList 16
  let ivMaterial ← hkdfSm3 lib secret [] "iv".toUTF8.toList 12
  let nonce ← copyNonce ivMaterial
  .ok (key, nonce)

lemma exists_deriveKeyIvFromSecret (secret : Bytes) :
    ∃ key nonce, deriveKeyIvFromSecret lib secret = .ok (key, nonce) ∧ key.length = 16 := by
  obtain ⟨key, hkey, hlen⟩ := exists_hkdfSm3 lib secret [] "key".toUTF8.toList
    (show 16 ≤ 32 by decide)
  obtain ⟨iv, hiv, hivLength⟩ := exists_hkdfSm3 lib secret [] "iv".toUTF8.toList
    (show 12 ≤ 32 by decide)
  refine ⟨key, ⟨iv, hivLength⟩, ?_, hlen⟩
  rw [deriveKeyIvFromSecret, hkey, ok_bind, hiv, ok_bind, copyNonce, dif_pos hivLength, ok_bind]

structure HandshakeSecrets where
  masterSecret : Bytes
  clientTrafficSecret : Bytes
  serverTrafficSecret : Bytes
  sessionKeys : SessionKeys

def deriveSessionKeysSm2 (sharedPoint : P) : Except TlsError HandshakeSecrets := do
  let enc := lib.sm2.encode sharedPoint
  rejectIf (enc.length = 1) (.handshakeFailed "shared point missing X")
  let ikm := enc.drop 1
  let masterSecret ← hkdfSm3 lib ikm [] "GM/TLS-master-secret".toUTF8.toList 32
  let clientTrafficSecret ← hkdfSm3 lib masterSecret
    [] "GM/TLS-client-traffic-secret".toUTF8.toList 32
  let serverTrafficSecret ← hkdfSm3 lib masterSecret
    [] "GM/TLS-server-traffic-secret".toUTF8.toList 32
  let (clientKey, clientNonce) ← deriveKeyIvFromSecret lib clientTrafficSecret
  let (serverKey, serverNonce) ← deriveKeyIvFromSecret lib serverTrafficSecret
  .ok {
    masterSecret, clientTrafficSecret, serverTrafficSecret
    sessionKeys := { clientKey, clientNonce, serverKey, serverNonce } }

end Library

/-- The part of `GmTlsStream` that the handshake sets. -/
structure GmTlsStream where
  writeKey : Bytes
  readKey : Bytes
  writeNonce : Octets 12
  readNonce : Octets 12
  peerCertPem : Option Bytes
  alpn : Option Bytes
  writeTrafficSecret : Option Bytes
  readTrafficSecret : Option Bytes
  deriving DecidableEq

def GmTlsStream.new (keys : SessionKeys) (isClient : Bool) (peerCertPem : Option Bytes)
    (alpn : Option Bytes) : GmTlsStream where
  writeKey := if isClient then keys.clientKey else keys.serverKey
  readKey := if isClient then keys.serverKey else keys.clientKey
  writeNonce := if isClient then keys.clientNonce else keys.serverNonce
  readNonce := if isClient then keys.serverNonce else keys.clientNonce
  peerCertPem := peerCertPem
  alpn := alpn
  writeTrafficSecret := none
  readTrafficSecret := none

def GmTlsStream.setTrafficSecrets (stream : GmTlsStream) (writeSecret readSecret : Bytes) :
    GmTlsStream :=
  { stream with writeTrafficSecret := some writeSecret, readTrafficSecret := some readSecret }

end GmStack.Tls
