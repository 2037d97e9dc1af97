import GmStack.Crypto.Sm2Signature
import Mathlib.Algebra.Module.Defs

/-! Key pairs, signers and points of `gm-crypto/src/sm2.rs`. -/

namespace GmStack.Crypto

open Foundation

/-- The `sm2` crate: scalars `F`, points `P`, encodings and signatures. -/
structure Sm2Curve (F P : Type) [CommRing F] [AddCommGroup P] [Module F P] extends Sm2Library where
  generator : P
  secretKeyFromBytes : Bytes → Except String F
  scalarToBytes : F → Bytes
  scalarFromRepr : Bytes → Option F
  encode : P → Bytes
  decode : Bytes → Option P
  signingKeyNew : String → F → Except String Unit
  sign : F → String → Bytes → Bytes
  secretKeyFromSec1Pem : String → Except String F
  secretKeyFromPkcs8Pem : String → Except String F
  length_scalarToBytes : ∀ scalar, (scalarToBytes scalar).length = 32
  secretKeyFromBytes_scalarToBytes : ∀ scalar, scalar ≠ 0 →
    secretKeyFromBytes (scalarToBytes scalar) = .ok scalar
  encode_zero : encode 0 = [0]
  length_encode : ∀ point, point ≠ 0 → (encode point).length = 65
  head_encode : ∀ point, point ≠ 0 → (encode point).head? = some 0x04
  encodedPointFromBytes_encode : ∀ point, encodedPointFromBytes (encode point) = .ok ()
  decode_encode : ∀ point, decode (encode point) = some point
  length_sign : ∀ secret distid data, (sign secret distid data).length = 64

variable {F P : Type} [CommRing F] [AddCommGroup P] [Module F P] (sm2 : Sm2Curve F P)

/-- `Sm2KeyPair`; the public key is determined by the private one. -/
structure Sm2KeyPair (F : Type) where
  privateKey : F
  distid : String

namespace Sm2KeyPair

def fromPrivateKeyWithDistid (privateKeyBytes : Bytes) (distid : String) :
    Except CryptoError (Sm2KeyPair F) := do
  let privateKey ← (sm2.secretKeyFromBytes privateKeyBytes).mapError fun e ↦
    .sm2Error ("invalid private key: " ++ e)
  .ok { privateKey, distid }

def fromPrivateKey (privateKeyBytes : Bytes) : Except CryptoError (Sm2KeyPair F) :=
  fromPrivateKeyWithDistid sm2 privateKeyBytes "1234567812345678"

def containsText (text pattern : List Char) : Bool :=
  (List.range (text.length + 1)).any fun start ↦ (text.drop start).take pattern.length == pattern

def fromPrivateKeyPem (pemStr : String) : Except CryptoError (Sm2KeyPair F) := do
  let privateKey ←
    if containsText pemStr.toList "BEGIN EC PRIVATE KEY".toList then
      (sm2.secretKeyFromSec1Pem pemStr).mapError fun e ↦
        CryptoError.sm2Error ("SEC1 PEM parse failed: " ++ e)
    else if containsText pemStr.toList "BEGIN PRIVATE KEY".toList then
      (sm2.secretKeyFromPkcs8Pem pemStr).mapError fun e ↦
        CryptoError.sm2Error ("PKCS#8 PEM parse failed: " ++ e)
    else
      (sm2.secretKeyFromSec1Pem pemStr).mapError fun e ↦
        CryptoError.sm2Error ("PEM parse failed: " ++ e)
  .ok { privateKey, distid := "1234567812345678" }

def privateKeyBytes (keyPair : Sm2KeyPair F) : Bytes := sm2.scalarToBytes keyPair.privateKey

def publicKeyBytesUncompressed (keyPair : Sm2KeyPair F) : Bytes :=
  sm2.encode (keyPair.privateKey • sm2.generator)

end Sm2KeyPair

structure Sm2Signer (F : Type) where
  privateKey : F
  distid : String

def Sm2Signer.newWithDistid (keyPair : Sm2KeyPair F) (distid : String) :
    Except CryptoError (Sm2Signer F) := do
  (sm2.signingKeyNew distid keyPair.privateKey).mapError fun e ↦
    .sm2Error ("failed to create signing key: " ++ e)
  .ok { privateKey := keyPair.privateKey, distid }

def Sm2Signer.new (keyPair : Sm2KeyPair F) : Except CryptoError (Sm2Signer F) :=
  Sm2Signer.newWithDistid sm2 keyPair keyPair.distid

def Sm2Signer.sign (signer : Sm2Signer F) (data : Bytes) : Except CryptoError Bytes := do
  let signature := sm2.sign signer.privateKey signer.distid data
  (sm2.verify (sm2.encode (signer.privateKey • sm2.generator)) signer.distid
    data signature).mapError
    fun _ ↦ .sm2Error "Sign-then-verify check failed — possible fault injection"
  .ok signature

lemma Sm2Signer.sign_eq_ok {signer : Sm2Signer F} {data signature : Bytes} :
    signer.sign sm2 data = .ok signature ↔
      sm2.verify (sm2.encode (signer.privateKey • sm2.generator)) signer.distid data
          (sm2.sign signer.privateKey signer.distid data) = .ok () ∧
        sm2.sign signer.privateKey signer.distid data = signature := by
  simp only [Sm2Signer.sign, unit_bind_eq_ok, mapError_eq_ok, Except.ok.injEq]

/-- The `sm2` crate signs correctly. -/
def Sm2Curve.SignaturesVerify : Prop :=
  ∀ (secret : F) (distid : String) (data : Bytes), secret ≠ 0 →
    sm2.signingKeyNew distid secret = .ok () →
      sm2.Accepts (sm2.encode (secret • sm2.generator)) distid data (sm2.sign secret distid data)

/-- The points of the group have the order of the generator's scalars. -/
def Sm2Curve.GeneratorFree : Prop := ∀ secret : F, secret • sm2.generator = 0 → secret = 0

end GmStack.Crypto
