import GmStack.Ca.Service

/-! The signer counts the validity from five minutes before the clock, the service from the clock.
-/

namespace GmStack.Ca

open Foundation Crypto CaSigner

lemma secondsLong_le_secondsLong {first second : ℤ} (hle : first ≤ second) :
    secondsLong first ≤ secondsLong second := by
  show first * 1000000000 ≤ second * 1000000000
  omega

lemma wholeSeconds_mono {first second : Instant} (hle : first ≤ second) :
    wholeSeconds first ≤ wholeSeconds second :=
  Int.ediv_le_ediv (by decide) hle

lemma secondsLong_wholeSeconds_le (time : ℤ) : secondsLong (wholeSeconds time) ≤ time := by
  show (time / 1000000000 * 1000000000 : ℤ) ≤ time
  omega

lemma lt_secondsLong_iff (time seconds : ℤ) : time < secondsLong (wholeSeconds time + seconds) ↔
    0 < seconds := by
  show time < (time / 1000000000 + seconds) * 1000000000 ↔ 0 < seconds
  omega

def SignedCertificate.notBefore (certificate : SignedCertificate) :
    ℤ := wholeSeconds certificate.tbs.notBefore

def SignedCertificate.notAfter (certificate : SignedCertificate) :
    ℤ := wholeSeconds certificate.tbs.notAfter

/-- The certificate is valid at a time, and for the given number of seconds in all. -/
structure HasLifetime (certificate : SignedCertificate) (validitySeconds : ℤ) (time : Instant) :
    Prop where
  begun : secondsLong certificate.notBefore ≤ time
  running : time < secondsLong certificate.notAfter
  duration : certificate.notAfter - certificate.notBefore = validitySeconds

/-- The dates of a row are those of a certificate, up to one second. -/
structure DatesAgree (row : NewCertificate) (certificate : SignedCertificate) : Prop where
  notBefore : |row.notBefore - secondsLong certificate.notBefore| ≤ secondsLong 1
  notAfter : |row.notAfter - secondsLong certificate.notAfter| ≤ secondsLong 1

section Lifetimes

variable {F P : Type} [CommRing F] [AddCommGroup P] [Module F P]
  {sm2 : Sm2Curve F P} {sm3 : Sm3Library} {library : CaLibrary} {signer : CaSigner F}
  {certificate : SignedCertificate} {now : Instant}

lemma notBefore_eq (hnotBefore : certificate.tbs.notBefore = nowUtcForX509 now) :
    certificate.notBefore = wholeSeconds now - 300 := by
  unfold SignedCertificate.notBefore
  rw [hnotBefore]
  unfold wholeSeconds nowUtcForX509 secondsLong notBeforeClockSkewTolerance
  omega

variable {validitySeconds : ℤ}

lemma notAfter_eq (hnotAfter : certificate.tbs.notAfter =
    nowUtcForX509 now + secondsLong validitySeconds) :
    certificate.notAfter = wholeSeconds now - 300 + validitySeconds := by
  unfold SignedCertificate.notAfter
  rw [hnotAfter]
  unfold wholeSeconds nowUtcForX509 secondsLong notBeforeClockSkewTolerance
  omega

lemma hasLifetime_iff (hnotBefore : certificate.tbs.notBefore = nowUtcForX509 now)
    (hnotAfter : certificate.tbs.notAfter = nowUtcForX509 now + secondsLong validitySeconds) :
    HasLifetime certificate validitySeconds now ↔ 300 < validitySeconds := by
  have hfirst := notBefore_eq hnotBefore
  have hlast := notAfter_eq hnotAfter
  have hcount : wholeSeconds now - 300 + validitySeconds =
    wholeSeconds now + (validitySeconds - 300) := by ring
  constructor
  · rintro ⟨_, hrunning, _⟩
    rw [hlast, hcount, lt_secondsLong_iff] at hrunning
    omega
  intro hlong
  refine ⟨?_, ?_, by rw [hfirst, hlast]; ring⟩
  · rw [hfirst]
    exact (secondsLong_le_secondsLong (by omega)).trans (secondsLong_wholeSeconds_le now)
  · rw [hlast, hcount, lt_secondsLong_iff]
    omega

/-- The checks of the signer accept the request. -/
def ValidCsr (sm2 : Sm2Curve F P) (library : CaLibrary) (csrInput : Bytes) : Prop :=
  ∃ request, parseCsr library csrInput = .ok request ∧ CaSigner.checkCsr sm2 request = .ok ()

variable {csrInput : Bytes}

lemma CaSigner.signCsrWithProfileAndSeconds_eq_ok {random : Octets 20} {profile : CertProfile}
    (hsign : signer.signCsrWithProfileAndSeconds sm2 sm3 library now random csrInput
    validitySeconds profile =
      .ok certificate) :
    (1 ≤ validitySeconds ∧ validitySeconds ≤ 31536000) ∧ certificate.tbs.notBefore =
    nowUtcForX509 now ∧
        certificate.tbs.notAfter = nowUtcForX509 now + secondsLong validitySeconds := by
  obtain ⟨hrange, request, _, htbs⟩ := tbs_of_sign hsign
  exact ⟨hrange, by rw [htbs]; rfl, by rw [htbs]; rfl⟩

lemma CaSigner.exists_signCsrWithProfileAndSeconds (hsigns : signer.Signs sm2)
    (hcsr : ValidCsr sm2 library csrInput) (now : Instant) (random : Octets 20)
    (hrange : 1 ≤ validitySeconds ∧ validitySeconds ≤ 31536000) (profile : CertProfile) :
    ∃ certificate, signer.signCsrWithProfileAndSeconds sm2 sm3 library now random
    csrInput validitySeconds
      profile = .ok certificate := by
  obtain ⟨request, hparse, hcheck⟩ := hcsr
  obtain ⟨certificate, hissue⟩ := exists_issue sm3 library hsigns now random validitySeconds
    request.subjectRaw request.subjectPublicKey (csrSans library csrInput profile) profile
  refine ⟨certificate, ?_⟩
  rw [signCsrWithProfileAndSeconds, checkSeconds, rejectIf_bind (not_not.mpr hrange),
    hparse, ok_bind,
    hcheck, ok_bind, hissue]

lemma CaSigner.checkDays_eq_ok {validityDays : ℤ} (hdays : 1 ≤ validityDays ∧ validityDays ≤ 3650) :
    checkDays validityDays = .ok () :=
  rejectIf_neg (by omega) _

lemma signSeconds_lifetime_iff (hsigns : signer.Signs sm2)
    (hcsr : ValidCsr sm2 library csrInput) (now : Instant) (random : Octets 20)
    (profile : CertProfile)
    (validitySeconds : ℤ) :
    (∃ certificate, signer.signCsrWithProfileAndSeconds sm2 sm3 library now random
    csrInput validitySeconds
        profile = .ok certificate ∧ HasLifetime certificate validitySeconds now) ↔
      300 < validitySeconds ∧ validitySeconds ≤ 31536000 := by
  constructor
  · rintro ⟨certificate, hsign, hlifetime⟩
    obtain ⟨hrange, hnotBefore, hnotAfter⟩ := signCsrWithProfileAndSeconds_eq_ok hsign
    exact ⟨(hasLifetime_iff hnotBefore hnotAfter).mp hlifetime, hrange.2⟩
  rintro ⟨hlong, hyear⟩
  obtain ⟨certificate, hsign⟩ := exists_signCsrWithProfileAndSeconds hsigns hcsr now random
    ⟨by omega, hyear⟩ profile
  obtain ⟨_, hnotBefore, hnotAfter⟩ := signCsrWithProfileAndSeconds_eq_ok hsign
  exact ⟨certificate, hsign, (hasLifetime_iff hnotBefore hnotAfter).mpr hlong⟩

lemma renewSeconds_lifetime_iff (hsigns : signer.Signs sm2) {existing : SignedCertificate}
    (hdec : library.Decodes existing)
    (hunexpired : now ≤ secondsLong existing.notAfter) (random : Octets 20) (profile : CertProfile)
    (validitySeconds : ℤ) :
    (∃ certificate, signer.renewCertificateWithProfileAndSeconds sm2 sm3 library now random
        (existing.pem library) validitySeconds profile = .ok certificate ∧
        HasLifetime certificate validitySeconds now) ↔
      300 < validitySeconds ∧ validitySeconds ≤ 31536000 := by
  constructor
  · rintro ⟨certificate, hrenew, hlifetime⟩
    obtain ⟨hrange, info, _, _, htbs⟩ := renewCertificateWithProfileAndSeconds_eq_ok hrenew
    exact ⟨(hasLifetime_iff (by rw [htbs]; rfl) (by rw [htbs]; rfl)).mp hlifetime, hrange.2⟩
  rintro ⟨hlong, hyear⟩
  obtain ⟨certificate, hrenew⟩ := exists_renewCertificateWithProfileAndSeconds hsigns hdec
    hunexpired random ⟨by omega, hyear⟩ profile
  obtain ⟨_, info, _, _, htbs⟩ := renewCertificateWithProfileAndSeconds_eq_ok hrenew
  exact ⟨certificate, hrenew, (hasLifetime_iff (by rw [htbs]; rfl) (by rw [htbs]; rfl)).mpr hlong⟩

lemma not_datesAgree {row : NewCertificate}
    (hnotBefore : certificate.tbs.notBefore = nowUtcForX509 now)
    (hlater : secondsLong (wholeSeconds now) ≤ row.notBefore) : ¬ DatesAgree row certificate := by
  rintro ⟨hclose, _⟩
  have hupper := (abs_le.mp hclose).2
  rw [notBefore_eq hnotBefore] at hupper
  have hgap : secondsLong (wholeSeconds now) - secondsLong (wholeSeconds now - 300) ≤
    secondsLong 1 :=
    (sub_le_sub_right hlater _).trans hupper
  have hgap : wholeSeconds now * 1000000000 - (wholeSeconds now - 300) * 1000000000 ≤
    1 * 1000000000 := hgap
  omega

lemma Prepared.dates {call : CaCall} {new : NewCertificate}
    (hprep : Prepared sm2 sm3 library signer call certificate new) :
    ¬ DatesAgree new certificate := by
  cases hprep with
  | @sign context _ _ _ hprepared =>
    obtain ⟨_, _, hsign, -, -, hstored⟩ := prepareSign_eq_ok hprepared
    obtain ⟨_, hnotBefore, _⟩ := signCsrWithProfileAndSeconds_eq_ok hsign
    exact not_datesAgree hnotBefore (hstored ▸ secondsLong_le_secondsLong
      (wholeSeconds_mono context.ordered))
  | @renew context _ _ _ _ hprepared =>
    obtain ⟨_, _, _, hrenew, -, -, -, hstored⟩ := prepareRenew_eq_ok hprepared
    obtain ⟨_, _, _, _, htbs⟩ := renewCertificateWithProfileAndSeconds_eq_ok hrenew
    exact not_datesAgree (by rw [htbs]; rfl)
      (hstored ▸ (secondsLong_wholeSeconds_le _).trans context.ordered)

lemma answer_dates (hserials : library.ReadsSerials sm2 sm3 signer) {call : CaCall}
    {state : ServiceState}
    (hans : (call.answer sm2 sm3 library signer state).1 = .ok (.certificate certificate)) :
    ∃ row ∈ (call.answer sm2 sm3 library signer state).2.table.rows,
      row.serialNumber = hexEncode certificate.tbs.serial.octets ∧
      ¬ DatesAgree row.toNewCertificate certificate := by
  have heffect : Effect sm2 sm3 library signer state.table call (.ok (.certificate certificate))
      (call.answer sm2 sm3 library signer state).2.table := hans ▸ call.effect state
  generalize (call.answer sm2 sm3 library signer state).2.table = after at heffect ⊢
  cases heffect with
  | issued hprep hfresh =>
    exact ⟨_, List.mem_append_right _ (List.mem_singleton_self _), (hprep.row hserials).1,
      hprep.dates⟩

/-- Signing and renewing give the requested lifetime exactly up to 365 days or above 300 seconds;
and no certificate the service returns has the dates that it stores for it. -/
theorem lifetimes_iff (hsigns : signer.Signs sm2) {csrInput : Bytes}
    (hcsr : ValidCsr sm2 library csrInput)
    {existing : SignedCertificate} (hdecodes : library.Decodes existing)
    (hserials : library.ReadsSerials sm2 sm3 signer)
    {now : Instant} (hunexpired : now ≤ secondsLong existing.notAfter) (random : Octets 20)
    (profile : CertProfile) : (∀ validityDays : ℤ, 1 ≤ validityDays ∧ validityDays ≤ 3650 →
      ((∃ certificate, signer.signCsrWithProfile sm2 sm3 library now random csrInput
      validityDays profile =
          .ok certificate ∧ HasLifetime certificate (validityDays * 86400) now) ↔
          validityDays ≤ 365) ∧
      ((∃ certificate, signer.renewCertificateWithProfile sm2 sm3 library now random
      (existing.pem library)
          validityDays profile = .ok certificate ∧
          HasLifetime certificate (validityDays * 86400) now) ↔
        validityDays ≤ 365)) ∧
    (∀ validitySeconds : ℤ, 1 ≤ validitySeconds ∧ validitySeconds ≤ 31536000 →
      ((∃ certificate, signer.signCsrWithProfileAndSeconds sm2 sm3 library now random
      csrInput validitySeconds
          profile = .ok certificate ∧ HasLifetime certificate validitySeconds now) ↔
          300 < validitySeconds) ∧
      ((∃ certificate, signer.renewCertificateWithProfileAndSeconds sm2 sm3 library now random
          (existing.pem library) validitySeconds profile = .ok certificate ∧
            HasLifetime certificate validitySeconds now) ↔ 300 < validitySeconds)) ∧
    ∀ (call : CaCall) (state : ServiceState) (certificate : SignedCertificate),
      (call.answer sm2 sm3 library signer state).1 = .ok (.certificate certificate) →
        ∃ row ∈ (call.answer sm2 sm3 library signer state).2.table.rows,
          row.serialNumber = hexEncode certificate.tbs.serial.octets ∧
          ¬ DatesAgree row.toNewCertificate certificate := by
  refine ⟨fun validityDays hdays ↦ ⟨?_, ?_⟩, fun validitySeconds hseconds ↦ ⟨?_, ?_⟩,
    fun call state certificate hanswer ↦ answer_dates hserials hanswer⟩
  · unfold signCsrWithProfile
    rw [checkDays_eq_ok hdays, ok_bind, signSeconds_lifetime_iff hsigns hcsr]
    omega
  · unfold renewCertificateWithProfile
    rw [checkDays_eq_ok hdays, ok_bind, renewSeconds_lifetime_iff hsigns hdecodes hunexpired]
    omega
  · rw [signSeconds_lifetime_iff hsigns hcsr]
    exact and_iff_left hseconds.2
  · rw [renewSeconds_lifetime_iff hsigns hdecodes hunexpired]
    exact and_iff_left hseconds.2

end Lifetimes

lemma caLibrary_decodes : caLibrary.Decodes (sampleCertificate []) where
  pem := hexDecode_hexEncode _
  fields := by
    show Except.ok _ = Except.ok _
    rw [readSerial_der]
  names := (sampleLibrary_decodes []).names

lemma sampleRequest_valid : ValidCsr sampleCurve caLibrary [] := ⟨sampleRequest, rfl, rfl⟩

/-- A request for a year has the lifetime it asks for. -/
theorem year_has_lifetime :
    ∃ certificate, sampleSigner.signCsrWithProfile sampleCurve tinySm3 caLibrary 0
    (.fill 20 7) [] 365
      .default = .ok certificate ∧ HasLifetime certificate (365 * 86400) 0 :=
  ((lifetimes_iff sampleSigner_signs sampleRequest_valid caLibrary_decodes
    (serialLibrary_readsSerials _)
    (show (0 : ℤ) ≤ secondsLong (sampleCertificate []).notAfter by decide)
      (.fill 20 7) .default).1 365
      (by decide)).1.mpr (le_refl 365)

/-- A year and a day is refused, and a certificate for five minutes has expired when it is made. -/
theorem lifetimes_fail : sampleSigner.signCsrWithProfile sampleCurve tinySm3 caLibrary 0
    (.fill 20 7) [] 366 .default =
        .error (.invalidArgument ("validity_seconds must be 1-31536000 (1s-365d), got " ++
          toString (366 * 86400 : ℤ))) ∧
    (∃ certificate, sampleSigner.signCsrWithProfileAndSeconds sampleCurve tinySm3 caLibrary 0
    (.fill 20 7) []
        300 .default = .ok certificate ∧ secondsLong certificate.notAfter ≤ 0) ∧
    ∃ certificate row,
    (sampleSign.answer sampleCurve tinySm3 caLibrary sampleSigner (.start .empty)).1 =
        .ok (.certificate certificate) ∧
      row ∈ (sampleSign.answer sampleCurve tinySm3 caLibrary sampleSigner
      (.start .empty)).2.table.rows ∧
        row.notBefore = 0 ∧ secondsLong certificate.notBefore = -secondsLong 300 := by
  refine ⟨rfl, ⟨_, rfl, ?_⟩, ⟨_, _, rfl, List.mem_singleton_self _, ?_, ?_⟩⟩
  · decide
  · rfl
  · decide

end GmStack.Ca
