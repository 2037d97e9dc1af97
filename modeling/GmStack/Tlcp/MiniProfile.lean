import GmStack.Tlcp.Server
import GmStack.Tls.MiniProfile
import Mathlib.Tactic.NormNum.Prime

/-! Concrete libraries for TLCP, small enough to run a side of the handshake on given bytes. -/

namespace GmStack.Tlcp

open Foundation Crypto X509 List

/-- The scalars and points of the SM2 group. -/
abbrev MiniScalar := ZMod (2 ^ 128)

def miniXy (point : MiniScalar) : Bytes :=
  let octets := beOctets 16 point.val
  octets ++ (octets ++ (octets ++ octets))

lemma length_miniXy (point : MiniScalar) : (miniXy point).length = 64 := by
  simp [miniXy]

lemma natCast_beNat_miniXy (point : MiniScalar) : (beNat ((miniXy point).take 16) : MiniScalar) =
    point := by
  have htake : (miniXy point).take 16 = beOctets 16 point.val := take_left' (length_beOctets _ _)
  have hval : point.val < 256 ^ 16 := ZMod.val_lt point
  rw [htake, beNat_beOctets hval, ZMod.natCast_val, ZMod.cast_id]

def miniEncode (point : MiniScalar) : Bytes := if point = 0 then [0] else 0x04 :: miniXy point

def miniSecret (subject : UInt8) : MiniScalar := beNat (List.replicate 16 subject)

def miniTlcpCurve : Sm2Curve MiniScalar MiniScalar where
  toSm2Library := miniSm2
  generator := 1
  secretKeyFromBytes := fun bytes ↦ .ok (beNat (bytes.take 16) : MiniScalar)
  scalarToBytes := fun scalar ↦ (miniXy scalar).take 32
  scalarFromRepr := fun bytes ↦ if beNat bytes <
    2 ^ 128 then some (beNat bytes : MiniScalar) else none
  encode := miniEncode
  decode := fun bytes ↦
    match bytes with
    | [_] => some 0
    | _ :: xy => some (beNat (xy.take 16) : MiniScalar)
    | [] => none
  signingKeyNew := fun _ _ ↦ .ok ()
  sign := fun secret _ _ ↦ miniXy secret
  secretKeyFromSec1Pem := fun text ↦ .ok (miniSecret (UInt8.ofNat text.length))
  secretKeyFromPkcs8Pem := fun text ↦ .ok (miniSecret (UInt8.ofNat text.length))
  length_scalarToBytes := fun scalar ↦ by
    rw [length_take, length_miniXy]
    rfl
  secretKeyFromBytes_scalarToBytes := fun scalar _ ↦ by
    rw [take_take]
    exact congrArg Except.ok (natCast_beNat_miniXy scalar)
  encode_zero := if_pos rfl
  length_encode := fun point hpoint ↦ by
    rw [miniEncode, if_neg hpoint, length_cons, length_miniXy]
  head_encode := fun point hpoint ↦ by rw [miniEncode, if_neg hpoint, List.head?_cons]
  encodedPointFromBytes_encode := fun _ ↦ rfl
  decode_encode := fun point ↦ by
    by_cases hpoint : point = 0
    · rw [miniEncode, if_pos hpoint, hpoint]
    have hxy : miniXy point ≠ [] := by
      intro hnil
      have hlength := length_miniXy point
      rw [hnil] at hlength
      cases hlength
    rw [miniEncode, if_neg hpoint]
    split
    · rename_i hsingle
      exact absurd (List.cons.inj hsingle).2 hxy
    · rename_i hcons
      rw [← (List.cons.inj hcons).2, natCast_beNat_miniXy]
    · rename_i hempty
      cases hempty
  length_sign := fun secret _ _ ↦ length_miniXy secret

lemma miniTlcpCurve_signaturesVerify : miniTlcpCurve.SignaturesVerify := by
  intro secret distid data hsec _
  have hkey : miniTlcpCurve.encode (secret • miniTlcpCurve.generator) = 0x04 :: miniXy secret := by
    show miniEncode (secret * 1) = _
    rw [mul_one, miniEncode, if_neg hsec]
  rw [hkey]
  constructor
  · simp [miniTlcpCurve, miniSm2, length_miniXy]
  · exact length_miniXy secret
  · rfl
  · simp [miniTlcpCurve, miniSm2]

lemma miniTlcpCurve_generatorFree : miniTlcpCurve.GeneratorFree := fun secret hzero ↦ by
  rwa [show secret • miniTlcpCurve.generator = secret from mul_one secret] at hzero

lemma wideScalars_mini : WideScalars miniTlcpCurve := by
  intro n hpos hlt
  have hnat : beNat (beOctets 32 n) = n := beNat_beOctets (hlt.trans (by decide))
  constructor
  · simp only [miniTlcpCurve, hnat, if_pos hlt]
  · rw [ne_eq, ZMod.natCast_eq_zero_iff]
    exact fun hzero ↦ absurd (Nat.le_of_dvd hpos hzero) (Nat.not_le.mpr hlt)

/-- The elements of the SM9 groups. -/
abbrev MiniElement := ZMod 251

def miniCoordinate (element : MiniElement) : Bytes := beOctets 32 element.val

def miniSm9 : Sm9Library MiniElement MiniElement MiniElement where
  order := 251
  p1 := 1
  p2 := 1
  g1Mul := fun scalar point ↦ scalar * point
  g1Add := fun first second ↦ first + second
  g2Mul := fun scalar point ↦ scalar * point
  g2Add := fun first second ↦ first + second
  pairing := fun first second ↦ first * second
  gtMul := fun first second ↦ first + second
  gtPow := fun element power ↦ power * element
  fpFromBytes := fun bytes ↦ .ok bytes
  toAffine := fun point ↦
    if point = 0 then none else some (miniCoordinate point, miniCoordinate point)
  fromAffine := fun x _ ↦ (beNat x : MiniElement)
  gtToBytes := fun element ↦ miniCoordinate element
  gtToBytesGmssl := fun element ↦ miniCoordinate element
  hash1 := fun identity hid ↦ (identity.foldl (fun sum octet ↦ sum + octet.toNat) hid.toNat) % 251
  hash2 := fun message w ↦ ((message ++ w).foldl (fun sum octet ↦ sum + octet.toNat) 1) % 251
  modinv := fun scalar ↦ (List.range 251).find? fun inverse ↦ scalar * inverse % 251 == 1

lemma natCast_beNat_miniCoordinate (element : MiniElement) :
    (beNat (miniCoordinate element) : MiniElement) = element := by
  have hval : element.val < 256 ^ 32 := (ZMod.val_lt element).trans (by decide)
  rw [miniCoordinate, beNat_beOctets hval, ZMod.natCast_val, ZMod.cast_id]

lemma miniSm9_bilinear : miniSm9.Bilinear where
  prime_order := by norm_num [miniSm9]
  order_le := by norm_num [miniSm9]
  g1Mul_one := by simp [miniSm9]
  g1Add_mul := fun a b ↦ by simp [miniSm9]
  g1Mul_mul := fun a b ↦ by simp [miniSm9]
  g2Mul_one := by simp [miniSm9]
  g2Add_mul := fun a b ↦ by simp [miniSm9]
  pairing_mul := fun a b _ ↦ by simp [miniSm9]
  gtPow_pow := fun a b ↦ by simp [miniSm9, mul_comm]
  gtMul_pow := fun a b ↦ by simp [miniSm9]
  gtPow_congr := fun a b hab ↦ by
    have hcast : (a : MiniElement) = b := (ZMod.natCast_eq_natCast_iff a b 251).mpr hab
    simp [miniSm9, hcast]
  toAffine_mul := fun a ↦ by
    have hzero : (a : MiniElement) = 0 ↔ 251 ∣ a := ZMod.natCast_eq_zero_iff a 251
    simp only [miniSm9, mul_one, ← hzero]
    by_cases ha : (a : MiniElement) = 0 <;> simp [ha]
  affine := fun point x y haffine ↦ by
    simp only [miniSm9] at haffine
    split_ifs at haffine
    obtain ⟨rfl, rfl⟩ := Prod.mk.inj (Option.some.inj haffine)
    exact ⟨length_beOctets _ _, length_beOctets _ _, rfl, rfl, natCast_beNat_miniCoordinate point⟩
  modinv_mul := fun a b hinverse ↦ by
    have hone := find?_some hinverse
    exact eq_of_beq hone
  hash2_lt := fun message w ↦ Nat.mod_lt _ (by decide)

def miniTlcp : TlcpLibrary MiniScalar MiniScalar MiniElement MiniElement MiniElement where
  sm2 := miniTlcpCurve
  sm3 := Tls.miniSm3
  sm4 := Tls.miniSm4
  sm9 := miniSm9
  x509 := miniX509
  sm2EncryptorNew := fun _ ↦ .ok ()
  sm2EncryptDer := fun _ _ message ↦ .ok message
  sm2Decrypt := fun _ ciphertext ↦ .ok ciphertext
  sm2KeyFromEncryptedPem := fun _ _ ↦ .error (.sm2Error "not encrypted")
  rsaSign := fun key _ ↦ .ok key
  rsaVerify := fun key _ signature ↦ if signature = key then .ok () else .error "verification error"
  rsaEncrypt := fun _ _ message ↦ .ok message
  rsaDecrypt := fun _ ciphertext ↦ .ok ciphertext

def miniClientEntropy : ClientEntropy MiniScalar where
  random := .fill 32 1
  pmsRandom := .fill 46 2
  ephemeral := miniSecret 5
  sm9Draws := [7, 8]
  sm9Scalar := 3
  encryptSeed := []
  recordIv := .fill 16 0

def miniServerEntropy : ServerEntropy MiniScalar where
  random := .fill 32 3
  sessionId := .fill 32 4
  ephemeral := miniSecret 6
  sm9Draws := [7, 8]
  sm9Scalar := 5
  recordIv := .fill 16 0

def miniMaster (pms : Bytes) : Bytes :=
  ((masterSecret miniTlcp.sm3 pms miniClientEntropy.random miniServerEntropy.random).toOption).getD
    []

def miniFinished (isClient : Bool) (master transcript : Bytes) : Bytes :=
  (Finished.compute miniTlcp.sm3 master
    (if isClient then clientFinishedLabel else serverFinishedLabel) transcript).toBytes

def miniProtected (isClient : Bool) (suite : TlcpCipherSuite) (master plaintext : Bytes) : Bytes :=
  match TlcpKeyMaterial.derive miniTlcp.sm3 master miniClientEntropy.random miniServerEntropy.random
    suite with
  | .ok material =>
    let stream := { TlcpStream.new material suite isClient [] with writeSeq := 1 }
    ((stream.pollWriteRecord miniTlcp.sm3 miniTlcp.sm4 plaintext (.fill 16 0)).toOption).getD []
  | .error _ => []

def miniConnector (offered : List SuiteId) : TlcpConnector MiniElement MiniElement where
  cipherSuites := offered
  rsaServerPub := some [7]
  sm9KgcPpube := some 10
  sm9KgcPpubs := some 11
  sm9ServerId := some [9]

def miniConnect (offered : List SuiteId) : Handshake TlcpStream :=
  connectWithCerts miniTlcp (miniConnector offered) miniClientEntropy 500

def miniServerHello (suite : TlcpCipherSuite) : ServerHello :=
  serverHello miniServerEntropy suite miniServerEntropy.sessionId.bytes

def miniCertPair : CertPair := .withChains [1] [2] [] []

def miniServerFlight (offered : List SuiteId) (suite : TlcpCipherSuite)
    (ske : ServerKeyExchangeBody)
    (further : Bytes) : Bytes :=
  let ready := (miniServerHello suite).toBytes ++ miniCertPair.toCertificateMessage ++
    ske.toBytes ++
    serverHelloDoneBytes
  let cke := match clientExchange miniTlcp (miniConnector offered) miniClientEntropy suite []
    [2] with
    | .ok exchange => exchange.body.toBytes
    | .error _ => []
  let transcript := (clientHello (miniConnector offered) miniClientEntropy.random).toBytes ++
    ready ++ cke
  let master := miniMaster (chosenPms miniClientEntropy.pmsRandom)
  plaintextRecord (miniServerHello suite).toBytes ++
    plaintextRecord miniCertPair.toCertificateMessage ++ plaintextRecord ske.toBytes ++ further ++
    plaintextRecord serverHelloDoneBytes ++ ccsRecord ++ miniProtected false suite master
      (miniFinished false master (transcript ++ miniFinished true master transcript))

def miniIbcExchange (signature : Sm9Signature MiniElement) : ServerKeyExchangeBody :=
  .ibc [9] (signature.toBytes miniSm9)

def miniIbcFlight (signature : Sm9Signature MiniElement) : Bytes :=
  miniServerFlight [TlcpCipherSuite.ibcSm4GcmSm3.id] .ibcSm4GcmSm3 (miniIbcExchange signature) []

def miniAcceptor : TlcpAcceptor MiniScalar MiniElement MiniElement where
  signCert := some (Tls.miniLeaf 1)
  encCert := some (Tls.miniLeaf 1)
  signKey := some ⟨miniSecret 1, defaultUserId⟩
  encKey := some ⟨miniSecret 1, defaultUserId⟩
  rsaSigner := some [7]
  rsaDecryptor := some [7]
  clientCaAnchors := some [Tls.miniRoot]

def miniAccept : Handshake TlcpStream :=
  acceptWithCerts miniTlcp miniAcceptor miniServerEntropy 500

def miniServerMessages (suite : TlcpCipherSuite) : Bytes :=
  let certPair := CertPair.withChains (Tls.miniLeaf 1) (Tls.miniLeaf 1) [] []
  let ske := match serverExchange miniTlcp miniAcceptor miniServerEntropy suite
    miniClientEntropy.random
      certPair (Tls.miniLeaf 1) with
    | .ok (some (ske, _)) => ske.toBytes
    | _ => []
  (miniServerHello suite).toBytes ++ certPair.toCertificateMessage ++ ske ++
    (if suite.keyExchange.authenticatesClient then certificateRequestBytes else []) ++
    serverHelloDoneBytes

def miniClientHello (suite : TlcpCipherSuite) : Bytes :=
  (clientHello (miniConnector [suite.id]) miniClientEntropy.random).toBytes

def miniClientCertificate (subject : UInt8) : Bytes :=
  handshakeMessage .certificate
    (lengthThen 3 (certEntriesToBytes [Tls.miniLeaf subject, Tls.miniLeaf subject]))

def miniClientKeyExchange : Bytes :=
  handshakeMessage .clientKeyExchange (chosenPms miniClientEntropy.pmsRandom)

def miniCertificateVerify (subject : UInt8) : Bytes :=
  certificateVerifyBytes (sm2SignatureRawToDer (miniXy (miniSecret subject)))

def miniClientFlight (suite : TlcpCipherSuite) (hello : Bytes) (messages : List Bytes) : Bytes :=
  let master := miniMaster (chosenPms miniClientEntropy.pmsRandom)
  let transcript := miniClientHello suite ++ miniServerMessages suite ++ messages.flatten
  plaintextRecord hello ++ messages.flatMap plaintextRecord ++ ccsRecord ++
    miniProtected true suite master (miniFinished true master transcript)

def miniPeer (suite : TlcpCipherSuite) : TlcpConnector MiniElement MiniElement :=
  { miniConnector [suite.id] with
    serverSignPubkey := some (miniEncode (miniSecret 1))
    serverSignDistid := some defaultUserId
    clientCerts := [Tls.miniLeaf 2, Tls.miniLeaf 2]
    clientSignKey := some "  "
    clientEncKey := some "  "
    sm9IbsdhClientId := some [9]
    sm9IbsdhDeA := some ⟨183, 10⟩ }

def miniHost : TlcpAcceptor MiniScalar MiniElement MiniElement :=
  { miniAcceptor with
    sm9SignMaster := some ⟨11, 11⟩
    sm9EncMaster := some ⟨10, 10⟩
    sm9ServerId := some [9] }

end GmStack.Tlcp
