import GmStack.Crypto.CipherModes
import GmStack.Tls.Handshake
import Mathlib.Data.ZMod.Basic

/-! Concrete libraries, small enough to run a handshake on given bytes. -/

namespace GmStack.Tls

open Foundation Crypto X509 List

def miniOctet (element : ZMod 256) : UInt8 := UInt8.ofNat element.val

lemma natCast_toNat_miniOctet (element : ZMod 256) :
    ((miniOctet element).toNat : ZMod 256) = element := by
  have hsize : (miniOctet element).toNat = element.val :=
    UInt8.toNat_ofNat_of_lt (ZMod.val_lt element)
  rw [hsize, ZMod.natCast_val, ZMod.cast_id]

lemma sm2PubKey_miniParsed (texts : SignatureTexts)
    (issuer subject constraints serial signer : UInt8) :
    sm2PubKey miniSm2 texts (miniParsed issuer subject constraints serial signer) =
    .ok (0x04 :: replicate 64 subject) := by
  rfl

def miniCurve : Sm2Curve (ZMod 256) (ZMod 256) where
  toSm2Library := miniSm2
  generator := 1
  secretKeyFromBytes := fun bytes ↦
    match bytes with
    | octet :: _ => .ok (octet.toNat : ZMod 256)
    | [] => .error "crypto error"
  scalarToBytes := fun scalar ↦ List.replicate 32 (miniOctet scalar)
  scalarFromRepr := fun bytes ↦ some (beNat bytes : ZMod 256)
  encode := fun point ↦ if point = 0 then [0] else 0x04 :: List.replicate 64 (miniOctet point)
  decode := fun bytes ↦
    match bytes with
    | [_] => some 0
    | _ :: octet :: _ => some (octet.toNat : ZMod 256)
    | [] => none
  signingKeyNew := fun _ _ ↦ .ok ()
  sign := fun secret _ _ ↦ List.replicate 64 (miniOctet secret)
  secretKeyFromSec1Pem := fun text ↦ .ok (text.length : ZMod 256)
  secretKeyFromPkcs8Pem := fun text ↦ .ok (text.length : ZMod 256)
  length_scalarToBytes := fun _ ↦ length_replicate
  secretKeyFromBytes_scalarToBytes := fun scalar _ ↦
    congrArg Except.ok (natCast_toNat_miniOctet scalar)
  encode_zero := if_pos rfl
  length_encode := fun point hpoint ↦ by
    rw [if_neg hpoint, length_cons, length_replicate]
  head_encode := fun point hpoint ↦ by rw [if_neg hpoint, List.head?_cons]
  encodedPointFromBytes_encode := fun _ ↦ rfl
  decode_encode := fun point ↦ by
    by_cases hpoint : point = 0
    · rw [if_pos hpoint, hpoint]
    · rw [if_neg hpoint]
      exact congrArg some (natCast_toNat_miniOctet point)
  length_sign := fun _ _ _ ↦ length_replicate

lemma miniCurve_signaturesVerify : miniCurve.SignaturesVerify := by
  intro secret distid data hsec _
  have hkey : miniCurve.encode (secret • miniCurve.generator) = 0x04 ::
      replicate 64 (miniOctet secret) := by
    show (if secret * 1 = 0 then [0] else 0x04 :: replicate 64 (miniOctet (secret * 1))) = _
    rw [mul_one, if_neg hsec]
  rw [hkey]
  constructor
  · simp [miniCurve, miniSm2]
  · exact length_replicate
  · rfl
  · simp [miniCurve, miniSm2]

def miniSm3 : Sm3Library where
  hash := fun data ↦ List.replicate 32 (data.foldl (· + ·) 0)
  length_hash := fun _ ↦ length_replicate

def miniSm4 : Sm4Library := Sm4Cipher.plainSm4

def miniState : SessionState where
  masterSecret := []
  sessionKeys := ⟨[], .fill 12 0, [], .fill 12 0⟩
  clientTrafficSecret := none
  serverTrafficSecret := none
  serverRandom := .fill 32 0
  clientRandom := .fill 32 0
  alpn := none
  lifetimeHint := 3600
  requireClientAuth := false
  createdAt := 0

def miniTls : TlsLibrary (ZMod 256) (ZMod 256) where
  sm2 := miniCurve
  sm3 := miniSm3
  sm4 := miniSm4
  x509 := miniX509
  strFromUtf8 := fun bytes ↦ .ok (String.ofList (bytes.map fun octet ↦ Char.ofNat octet.toNat))
  serializeTicket := fun ticket ↦ .ok ticket.encryptedTicket
  deserializeTicket := fun bytes ↦ .ok ⟨bytes, 1⟩
  serializeState := fun _ ↦ .ok [0]
  deserializeState := fun _ ↦ .ok miniState

def miniSessionKeys : SessionKeys :=
  ⟨List.replicate 16 1, .fill 12 0, List.replicate 16 2, .fill 12 0⟩

def miniTrafficSecret (isClient : Bool) : Bytes := List.replicate 32 (if isClient then 1 else 2)

def miniSide (isClient : Bool) : GmTlsStream :=
  (GmTlsStream.new miniSessionKeys isClient none none).setTrafficSecrets
    (miniTrafficSecret isClient)
    (miniTrafficSecret !isClient)

def miniEntropy (secret : ZMod 256) : Entropy (ZMod 256) := ⟨secret, .fill 32 0, .fill 12 0⟩

def miniClock : Clock := ⟨500, 0⟩

def miniRecord (payload : Bytes) : Bytes :=
  0x16 :: versionTls13.bytes ++ beOctets 2 payload.length ++ payload

def miniRoot : Bytes := miniCertificate 3 3 2 9 3

def miniLeaf (subject : UInt8) : Bytes := miniCertificate 3 subject 0 7 3

def miniServerHello (secret : ZMod 256) : Bytes :=
  (buildServerHello miniTls (miniEntropy secret) none [] false).toBytes

def miniClientHello (secret : ZMod 256) : Bytes :=
  (buildClientHello miniTls (miniEntropy secret) [] none none).toBytes

def miniFinished (secret : UInt8) : Bytes := Finished.toBytes ⟨List.replicate 64 secret⟩

def miniTicketOptions : HandshakeOptions :=
  { HandshakeOptions.default with
    sessionTicket := some ⟨1 :: (List.replicate 27 0 ++ [1, 0]), 1⟩
    sessionTicketKey := some ⟨[⟨1, .fill 32 0⟩]⟩ }

abbrev clientEntropy := miniEntropy 4

abbrev serverEntropy := miniEntropy 5

def miniConnect (opts : HandshakeOptions) : Handshake GmTlsStream :=
  connectGmRustInner miniTls [] [] miniRoot none [] opts miniClock (miniEntropy 4)

def miniAccept : Handshake (GmTlsStream × Option Bytes × Option SessionTicket) :=
  acceptGmRustInnerWithCert miniTls (miniLeaf 1) [1] miniRoot true [] .default miniClock
    (miniEntropy 4)

def miniServerFlight : Bytes :=
  miniRecord (miniServerHello 5) ++ miniRecord (ClientCertificate.toBytes ⟨miniLeaf 1⟩) ++
    miniRecord (CertificateVerify.toBytes ⟨List.replicate 64 1⟩) ++ miniRecord (miniFinished 5)

def miniRejectingFlight : Bytes := miniRecord (miniServerHello 5) ++ miniRecord (miniFinished 5)

def miniClientFlight (secret : UInt8) : Bytes :=
  miniRecord (miniClientHello secret.toNat) ++
    miniRecord (ClientCertificate.toBytes ⟨miniLeaf 2⟩) ++ miniRecord (miniFinished secret)

end GmStack.Tls
