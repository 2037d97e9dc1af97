import GmStack.Crypto.Sm9
import GmStack.Tlcp.RecordLayer
import GmStack.X509.PeerChecks

/-! What client and server share: the libraries (`TlcpLibrary`), the checks of a peer's certificates
and the signatures of the ServerKeyExchange. -/

namespace GmStack.Tlcp

open Foundation Crypto X509 ServerKeyExchangeBody

/-- The libraries below `gm-tlcp`. Randomness of a call is an argument of it, and an RSA key is its
encoding. -/
structure TlcpLibrary (F P G1 G2 GT : Type) [CommRing F] [AddCommGroup P] [Module F P] where
  sm2 : Sm2Curve F P
  sm3 : Sm3Library
  sm4 : Sm4Library
  sm9 : Sm9Library G1 G2 GT
  x509 : X509Library
  sm2EncryptorNew : Bytes → Except CryptoError Unit
  sm2EncryptDer : Bytes → Bytes → Bytes → Except CryptoError Bytes
  sm2Decrypt : F → Bytes → Except CryptoError Bytes
  sm2KeyFromEncryptedPem : String → String → Except CryptoError F
  rsaSign : Bytes → Bytes → Except String Bytes
  rsaVerify : Bytes → Bytes → Bytes → Except String Unit
  rsaEncrypt : Bytes → Bytes → Bytes → Except String Bytes
  rsaDecrypt : Bytes → Bytes → Except String Bytes

def wrapCrypto (wrap : String → TlcpError) : CryptoError → TlcpError
  | .panicked message => .panicked message
  | error => wrap error.display

variable {F P G1 G2 GT : Type} [CommRing F] [AddCommGroup P] [Module F P]
  (lib : TlcpLibrary F P G1 G2 GT)

def extractSm2PubkeyFromCertDer (certDer : Bytes) : Except String Bytes :=
  let extract : Except CryptoError Bytes := do
    let cert ← (lib.x509.certificateFromDer certDer).mapError fun e ↦
      .sm2Error ("certificate DER parse failed: " ++ e)
    rejectIf (cert.unusedBits > 7) (.sm2Error
      ("BIT STRING unused-bits count " ++ toString cert.unusedBits ++ " exceeds 7"))
    let mask : UInt8 := UInt8.ofNat (256 - 2 ^ cert.unusedBits)
    let pk := if cert.unusedBits = 0 then cert.subjectPublicKey
      else cert.subjectPublicKey.dropLast ++ cert.subjectPublicKey.getLast?.toList.map (· &&& mask)
    rejectIf (pk.length ≠ 65 ∨ pk.head? ≠ some 0x04) (.sm2Error
      ("SM2 public key must be 65-byte uncompressed point, got " ++ toString pk.length ++
        " bytes starting with " ++ hexOctetLower (pk.headD 0)))
    .ok pk
  extract.mapError fun e ↦ "SM2 pubkey extract: " ++ e.display

def uncompressedXy (what : String) (point : Bytes) : Except TlcpError Bytes := do
  rejectIf (point.length ≠ 65 ∨ point.head? ≠ some 0x04) (.handshakeFailed
    (what ++ ", got " ++ toString point.length ++ " bytes"))
  .ok (point.drop 1)

def checkChainCrls (who : String) (chain anchors : List Bytes) (now : Instant) (strictCrl : Bool)
    (crls : List Bytes) : Except TlcpError Unit := do
  if strictCrl ∨ crls ≠ [] then
    let owned ← ((chain ++ anchors).mapM (OwnedCert.fromPemOrDer lib.x509)).mapError
      (wrapCrypto .handshakeFailed)
    if strictCrl then
      (ensureCrlCoverage lib.x509 owned crls).mapError
        (wrapCrypto fun e ↦ .handshakeFailed (who ++ " strict-CRL coverage failed: " ++ e))
    if crls ≠ [] then
      (checkRevocations lib.x509 lib.sm2.toSm2Library owned crls now).mapError
        (wrapCrypto fun e ↦ .handshakeFailed (who ++ " revocation check failed: " ++ e))

def verifyChain (who : String) (chain anchors : List Bytes) (now : Instant)
    (domain : Option String) (role : CertRole) (policy : Option DistidPolicy) (strictCrl : Bool)
    (crls : List Bytes) : Except TlcpError Unit := do
  (verifyAgainstAnchorsWithDistidPolicy lib.x509 lib.sm2.toSm2Library chain anchors now domain
    (some role) (policy.getD .strict)).mapError
      (wrapCrypto fun e ↦ .handshakeFailed (who ++ " failed trust-anchor validation: " ++ e))
  checkChainCrls lib who chain anchors now strictCrl crls

def ecdheSignedInput (clientRandom serverRandom : Octets 32) (ephemeralPublic : Bytes) : Bytes :=
  clientRandom.bytes ++ serverRandom.bytes ++ ecdhePoint ephemeralPublic

def certSignedInput (clientRandom serverRandom : Octets 32) (encCert : Bytes) : Bytes :=
  clientRandom.bytes ++ serverRandom.bytes ++ lengthThen 3 encCert

def ibcSignedInput (clientRandom serverRandom : Octets 32) (serverId : Bytes) : Bytes :=
  clientRandom.bytes ++ serverRandom.bytes ++ serverId

def rawSignature (text : String) (signature : Bytes) : Except TlcpError Bytes :=
  if signature.length = 64 then .ok signature
  else (sm2SignatureDerToRaw signature).mapError fun e ↦ .sm2KeyError (text ++ e.display)

def verifySkeSignature (isEccMode : Bool) (skeBody : Bytes) (clientRandom serverRandom : Octets 32)
    (encCert : Bytes) (verifier : Sm2Verifier) : Except TlcpError Unit :=
  if isEccMode then do
    let (signatureDer, _) ← takeLengthThen 2 (.invalidMessage "ECC SKE body too short")
      (fun sigLen ↦ .invalidMessage ("ECC SKE signature truncated: " ++
        toString (skeBody.length - 2) ++ " < " ++ toString sigLen)) skeBody
    let signatureRaw ← (sm2SignatureDerToRaw signatureDer).mapError
      fun e ↦ .sm2KeyError ("ECC SKE signature DER decode: " ++ e.display)
    (verifier.verify lib.sm2.toSm2Library (certSignedInput clientRandom serverRandom encCert)
      signatureRaw).mapError fun e ↦ .sm2KeyError ("ECC SKE signature verify: " ++ e.display)
  else do
    let ske ← ServerKeyExchangeBody.fromBody skeBody .ecdhe
    match ske.asEcdhe with
    | none => .error (.invalidMessage "ECDHE verify called on non-ECDHE ServerKeyExchange body")
    | some params =>
      let rawSig ← rawSignature "ECDHE SKE signature DER decode: " params.signature
      (verifier.verify lib.sm2.toSm2Library
        (ecdheSignedInput clientRandom serverRandom params.ephemeralPublic) rawSig).mapError
          fun e ↦ .sm2KeyError ("ECDHE SKE signature verify: " ++ e.display)

variable {skeBody : Bytes}

variable {lib} in
lemma verifySkeSignature_ecdhe_eq_ok {encCert pubkey : Bytes}
    {clientRandom serverRandom : Octets 32} {distid : String}
    (hkey : lib.sm2.verifyingKeyFromSec1Bytes distid pubkey = .ok ()) :
    verifySkeSignature lib false skeBody clientRandom serverRandom encCert ⟨pubkey, distid⟩ =
    .ok () ↔
      ∃ params signature, fromBody skeBody .ecdhe = .ok (.ecdhe params) ∧
        rawSignature "ECDHE SKE signature DER decode: " params.signature = .ok signature ∧
        lib.sm2.Accepts pubkey distid
          (ecdheSignedInput clientRandom serverRandom params.ephemeralPublic) signature := by
  rw [verifySkeSignature, if_neg Bool.false_ne_true, bind_eq_ok]
  constructor
  · rintro ⟨ske, hparse, hver⟩
    split at hver
    · cases hver
    rename_i params hparams
    cases ske with
    | ecdhe found =>
      obtain rfl : found = params := Option.some.inj hparams
      obtain ⟨signature, hsig, hver⟩ := bind_eq_ok.mp hver
      rw [mapError_eq_ok, Sm2Verifier.verify_eq_ok lib.sm2.toSm2Library hkey] at hver
      exact ⟨found, signature, hparse, hsig, hver⟩
    | ecc | ibc | ibsdh => cases hparams
  rintro ⟨params, signature, hparse, hsig, hacc⟩
  refine ⟨_, hparse, ?_⟩
  simp only [asEcdhe]
  rw [hsig, ok_bind, mapError_eq_ok, Sm2Verifier.verify_eq_ok lib.sm2.toSm2Library hkey]
  exact hacc

lemma fromBody_ecc_eq_ok {signature : Bytes} : fromBody skeBody .ecc = .ok (.ecc signature) ↔
      ∃ rest, skeBody = lengthThen 2 signature ++ rest ∧ signature.length < 256 ^ 2 := by
  simp only [fromBody, bind_eq_ok, Prod.exists, takeLengthThen_eq_ok, Except.ok.injEq, ecc.injEq]
  constructor
  · rintro ⟨found, rest, ⟨hbody, hlen⟩, rfl⟩
    exact ⟨rest, hbody, hlen⟩
  · rintro ⟨rest, hbody, hlen⟩
    exact ⟨signature, rest, ⟨hbody, hlen⟩, rfl⟩

variable {lib} in
lemma verifySkeSignature_ecc_eq_ok {encCert pubkey : Bytes} {clientRandom serverRandom : Octets 32}
    {distid : String}
    (hkey : lib.sm2.verifyingKeyFromSec1Bytes distid pubkey = .ok ()) :
    verifySkeSignature lib true skeBody clientRandom serverRandom encCert ⟨pubkey, distid⟩ =
    .ok () ↔
      ∃ signatureDer signature, fromBody skeBody .ecc = .ok (.ecc signatureDer) ∧
        sm2SignatureDerToRaw signatureDer = .ok signature ∧
        lib.sm2.Accepts pubkey distid (certSignedInput clientRandom serverRandom encCert)
          signature := by
  simp only [verifySkeSignature, if_pos, bind_eq_ok, Prod.exists, takeLengthThen_eq_ok,
    mapError_eq_ok,
    Sm2Verifier.verify_eq_ok lib.sm2.toSm2Library hkey, fromBody_ecc_eq_ok]
  constructor
  · rintro ⟨signatureDer, rest, hbody, signature, hraw, hacc⟩
    exact ⟨signatureDer, signature, ⟨rest, hbody⟩, hraw, hacc⟩
  · rintro ⟨signatureDer, signature, ⟨rest, hbody⟩, hraw, hacc⟩
    exact ⟨signatureDer, rest, hbody, signature, hraw, hacc⟩

def sm3Pkcs1V15Start : Bytes :=
  [0x30, 0x31, 0x30, 0x0C, 0x06, 0x08, 0x2A, 0x81, 0x1C, 0x81, 0x1C, 0x81, 0x1C, 0x81, 0x1C,
    0x81, 0x1C, 0x81, 0x07]

def sm3Pkcs1V15Encoding (data : Bytes) : Bytes := sm3Pkcs1V15Start ++ lib.sm3.hash data

def rsaVerifierVerify (publicKey data signature : Bytes) : Except TlcpError Unit :=
  (lib.rsaVerify publicKey (sm3Pkcs1V15Encoding lib data) signature).mapError
    fun e ↦ .sm2KeyError ("RSA SKE signature verify: " ++ e)

def rsaSignerSign (privateKey data : Bytes) : Except TlcpError Bytes :=
  (lib.rsaSign privateKey (sm3Pkcs1V15Encoding lib data)).mapError fun e ↦
    .sm2KeyError ("RSA SKE sign: " ++ e)

def generateEcdhe (clientRandom serverRandom : Octets 32) (signer : Sm2Signer F) (ephemeral : F) :
    Except TlcpError ServerKeyExchangeBody := do
  let ephemeralPublic := lib.sm2.encode (ephemeral • lib.sm2.generator)
  let signature ← (signer.sign lib.sm2 (ecdheSignedInput clientRandom serverRandom
    ephemeralPublic)).mapError fun e ↦ .sm2KeyError ("SKE sign failed: " ++ e.debug)
  .ok (.ecdhe { ephemeralPublic, signature })

def generateEcc (clientRandom serverRandom : Octets 32) (encCertDer : Bytes)
    (signer : Sm2Signer F) :
    Except TlcpError ServerKeyExchangeBody := do
  rejectIf (encCertDer.length > 0xFFFFFF) (.handshakeFailed
    ("enc_cert_der too long for static-ECC SKE: " ++ toString encCertDer.length ++
    " bytes (max 16777215)"))
  let rawSignature ← (signer.sign lib.sm2 (certSignedInput clientRandom serverRandom
    encCertDer)).mapError fun e ↦ .sm2KeyError ("ECC SKE sign failed: " ++ e.debug)
  rejectIf (rawSignature.length ≠ 64) (.sm2KeyError "ECC SKE raw sig not 64 bytes")
  .ok (.ecc (sm2SignatureRawToDer rawSignature))

def generateRsa (clientRandom serverRandom : Octets 32) (rsaCertDer rsaKey : Bytes) :
    Except TlcpError ServerKeyExchangeBody := do
  rejectIf (rsaCertDer.length > 0xFFFFFF) (.handshakeFailed
    ("rsa_cert_der too long for RSA SKE: " ++ toString rsaCertDer.length ++
    " bytes (max 16777215)"))
  let signature ← (rsaSignerSign lib rsaKey (certSignedInput clientRandom serverRandom
    rsaCertDer)).mapError fun e ↦ .sm2KeyError ("RSA SKE sign: " ++ e.display)
  .ok (.ecc signature)

def g1PointToUncompressed (point : G1) : Except TlcpError Bytes :=
  match lib.sm9.toAffine point with
  | some (x, y) => .ok (0x04 :: x ++ y)
  | none =>
    .error (.invalidMessage "SM9 G1Point at infinity — invalid wire form (no SEC1 encoding)")

def g1PointFromUncompressed (bytes : Bytes) : Except TlcpError G1 := do
  rejectIf (bytes.length ≠ 65) (.invalidMessage
    ("SM9 G1Point wire form must be 65 bytes, got " ++ toString bytes.length))
  rejectIf (bytes.head? ≠ some 0x04) (.invalidMessage
    ("SM9 G1Point wire form must start with 0x04, got 0x" ++ hexOctetLower (bytes.headD 0)))
  let x ← (lib.sm9.fpFromBytes ((bytes.drop 1).take 32)).mapError
    fun e ↦ .invalidMessage ("SM9 G1Point x-coord parse: " ++ e)
  let y ← (lib.sm9.fpFromBytes ((bytes.drop 33).take 32)).mapError
    fun e ↦ .invalidMessage ("SM9 G1Point y-coord parse: " ++ e)
  .ok (lib.sm9.fromAffine x y)

end GmStack.Tlcp
