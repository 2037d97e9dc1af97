import GmStack.X509.Certificate

/-! A concrete instance of the X.509 and SM2 libraries, small enough to evaluate the verifier on
whole chains. -/

namespace GmStack.X509

open Foundation Crypto

def miniConstraints (code : UInt8) : List X509Extension :=
  if code = 0 then []
  else
    [{ oid := [2, 5, 29, 19]
       critical := true
       parsed :=
        if code = 1 then .other
        else if code = 2 then .basicConstraints ⟨true, none⟩
        else .basicConstraints ⟨true, some (code.toNat - 3)⟩ }]

def miniTbs (issuer subject constraints serial : UInt8) : Bytes :=
  [0x30, 0x04, issuer, subject, constraints, serial]

def miniCertificate (issuer subject constraints serial signer : UInt8) : Bytes :=
  [0x30, 0x0b] ++ (miniTbs issuer subject constraints serial ++ [0x03, 0x03, 0x00, signer, signer])

def miniCrl (issuer serial signer : UInt8) : Bytes :=
  [0x30, 0x47, 0x30, 0x02, issuer, serial, 0x03, 0x41, 0x00] ++ List.replicate 64 signer

def miniName (id : UInt8) : X509Name := ⟨[id], []⟩

def miniParsed (issuer subject constraints serial signer : UInt8) : X509Certificate where
  tbsCertificate := miniTbs issuer subject constraints serial
  serial := serial.toNat
  issuer := miniName issuer
  subject := miniName subject
  notBefore := 0
  notAfter := 1000
  subjectPublicKey := 0x04 :: List.replicate 64 subject
  extensions := miniConstraints constraints
  signatureValue := List.replicate 64 signer

def miniCertificateFromDer (der : Bytes) : Except String X509Certificate :=
  match der with
  | [_, _, _, _, issuer, subject, constraints, serial, _, _, _, signer, _] =>
    if der = miniCertificate issuer subject constraints serial signer then
      .ok (miniParsed issuer subject constraints serial signer)
    else .error "not a certificate"
  | _ => .error "not a certificate"

def miniCrlFromDer (der : Bytes) : Except String CertificateRevocationList :=
  match der with
  | _ :: _ :: _ :: _ :: issuer :: serial :: _ :: _ :: _ :: signer :: _ =>
    if der = miniCrl issuer serial signer then
      .ok {
        issuer := miniName issuer
        lastUpdate := 0
        nextUpdate := some 1000
        revokedSerials := [integerOctets serial.toNat]
        signatureValue := List.replicate 64 signer }
    else .error "not a revocation list"
  | _ => .error "not a revocation list"

def miniX509 : X509Library where
  certificateFromDer := miniCertificateFromDer
  crlFromDer := miniCrlFromDer
  pemRead := fun bytes ↦ .ok bytes
  pemIterFromBuffer := fun bytes ↦ if bytes = [] then [] else [.ok bytes]
  domainToAscii := fun domain ↦ some domain

def miniSm2 : Sm2Library where
  verifyingKeyFromSec1Bytes := fun _ key ↦
    if key.length = 65 then .ok () else .error "signature error"
  signatureFromBytes := fun _ ↦ .ok ()
  verify := fun key _ _ signature ↦
    if signature = key.drop 1 then .ok () else .error "signature error"
  encodedPointFromBytes := fun _ ↦ .ok ()
  uncompress := fun _ ↦ none

lemma miniCertificateFromDer_eq_ok {der : Bytes} {cert : X509Certificate}
    (hparse : miniCertificateFromDer der = .ok cert) : ∃ issuer subject constraints serial signer,
      der = miniCertificate issuer subject constraints serial signer ∧
        cert = miniParsed issuer subject constraints serial signer := by
  unfold miniCertificateFromDer at hparse
  split at hparse
  · split_ifs at hparse with hder
    exact ⟨_, _, _, _, _, hder, (Except.ok.inj hparse).symm⟩
  · cases hparse

lemma miniX509_faithful : miniX509.Faithful where
  tbsCertificate_first := fun der cert hparse ↦ by
    obtain ⟨issuer, subject, constraints, serial, signer, rfl, rfl⟩ :=
      miniCertificateFromDer_eq_ok hparse
    refine ⟨[issuer, subject, constraints, serial], [0x03, 0x03, 0x00, signer, signer], [], ?_, _,
      ?_, (List.append_nil _).symm⟩
    · exact ⟨[0x04], LengthOctets.short 0x04 (by decide), rfl⟩
    · exact ⟨[0x0b], LengthOctets.short 0x0b (by decide), rfl⟩

lemma miniCrlFromDer_eq_ok {der : Bytes} {crl : CertificateRevocationList}
    (hparse : miniCrlFromDer der = .ok crl) :
    ∃ serial : UInt8, crl.revokedSerials = [integerOctets serial.toNat] := by
  unfold miniCrlFromDer at hparse
  split at hparse
  · split_ifs at hparse with hder
    rw [← Except.ok.inj hparse]
    exact ⟨_, rfl⟩
  · cases hparse

end GmStack.X509
