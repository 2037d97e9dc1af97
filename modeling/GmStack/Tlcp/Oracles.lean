import GmStack.Tlcp.Conversation
import GmStack.Tlcp.MiniProfile

/-! The refusals of a CBC record, and of a `ClientKeyExchange` in the RSA suites. -/

namespace GmStack.Tlcp

open Foundation Crypto List X509

namespace TlcpStream

variable {sm3 : Sm3Library} {sm4 : Sm4Library} {reader : TlcpStream} {buf header plaintext : Bytes}

lemma eq_append_of_splitCbcInner {decrypted tag : Bytes}
    (hsplit : splitCbcInner decrypted = .ok (plaintext, tag)) :
    ∃ last : UInt8, last.toNat ≤ 16 ∧ tag.length = 32 ∧
      decrypted = plaintext ++ tag ++ replicate (last.toNat + 1) last := by
  simp only [splitCbcInner, unit_bind_eq_ok, rejectIf_eq_ok, Except.ok.injEq,
    Prod.mk.injEq] at hsplit
  obtain ⟨hne, hpad, hfits, hall, hinner, hplain, htag⟩ := hsplit
  obtain rfl | ⟨front, last, rfl⟩ := eq_nil_or_concat' decrypted
  · exact absurd rfl hne
  simp only [getLastD_concat, length_append, length_singleton,
    Nat.add_sub_add_right] at hpad hfits hall hinner hplain htag
  have hcut : front.length - last.toNat ≤ front.length := Nat.sub_le _ _
  rw [drop_append_of_le_length hcut, take_left' (by rw [length_drop]; omega),
    Bool.not_eq_false, all_eq_true] at hall
  have htail : front.drop (front.length - last.toNat) = replicate last.toNat last := by
    refine eq_replicate_iff.mpr ⟨by rw [length_drop]; omega, fun octet hmem ↦ ?_⟩
    exact UInt8.toNat_inj.mp (beq_iff_eq.mp (hall octet hmem))
  rw [take_append_of_le_length hcut] at htag
  rw [take_append_of_le_length ((Nat.sub_le _ _).trans hcut)] at hplain
  have hfront : plaintext ++ tag = front.take (front.length - last.toNat) := by
    rw [← hplain, ← htag, ← Nat.min_eq_left (Nat.sub_le (front.length - last.toNat) 32),
      ← take_take,
      Nat.min_eq_left (Nat.sub_le _ _), take_append_drop]
  refine ⟨last, Nat.not_lt.mp hpad, ?_, ?_⟩
  · rw [← htag, length_drop, length_take]
    omega
  · rw [hfront, replicate_succ', ← htail, ← append_assoc, take_append_drop]

variable (sm4 reader) in
/-- How many octets the code of a record is computed over, if it comes to that. -/
def cbcHashed (buf header : Bytes) : Option ℕ :=
  (reader.openCbc sm4 buf header).toOption.map fun parts ↦ parts.macInput.length

lemma mod_length_of_decryptCbcRaw {cipher : Sm4Cipher} {decrypted : Bytes}
    (hdec : cipher.decryptCbcRaw sm4 (buf.drop 16) (buf.take 16) = .ok decrypted) :
    buf.length % 16 = 0 := by
  simp only [Sm4Cipher.decryptCbcRaw, Sm4Cipher.checkCbcInput, unit_bind_eq_ok, rejectIf_eq_ok,
    not_or, not_not] at hdec
  obtain ⟨⟨hiv, -, hblk⟩, -⟩ := hdec
  rw [length_take] at hiv
  rw [length_drop] at hblk
  omega

variable (sm4) in
lemma exists_decryptCbcRaw (cipher : Sm4Cipher) (hmin : 64 ≤ buf.length)
    (hblk : buf.length % 16 = 0) :
    ∃ decrypted, cipher.decryptCbcRaw sm4 (buf.drop 16) (buf.take 16) = .ok decrypted := by
  have hiv : (buf.take 16).length = 16 := by
    rw [length_take]
    omega
  have hdata : buf.drop 16 ≠ [] := ne_nil_of_length_pos (by rw [length_drop]; omega)
  rw [Sm4Cipher.decryptCbcRaw, Sm4Cipher.checkCbcInput_eq_ok hiv (by rw [length_drop]; omega) hdata,
    ok_bind]
  exact ⟨_, rfl⟩

lemma openCbc_of_mod_ne {cipher : Sm4Cipher} (hcipher : getCipher reader.readKey = .ok cipher)
    (hblk : buf.length % 16 ≠ 0) :
    reader.openCbc sm4 buf header = .error (.handshakeFailed "TLCP CBC decryption failed") := by
  rw [openCbc, hcipher, ok_bind]
  cases hdec : cipher.decryptCbcRaw sm4 (buf.drop 16) (buf.take 16) with
  | ok decrypted => exact absurd (mod_length_of_decryptCbcRaw hdec) hblk
  | error error => rfl

theorem cbcRecord_exact {writer : TlcpStream} (hdeliv : writer.Delivers reader)
    (hkey : writer.writeKey.length = 16) :
    (∀ contentType plaintext iv, ∃ buf,
    writer.encryptCbcRecordWithType sm3 sm4 contentType plaintext iv =
        .ok (recordHeader contentType buf.length ++ buf) ∧
      reader.decryptCbc sm3 sm4 buf (recordHeader contentType buf.length) = .ok plaintext) ∧
    ∀ buf header plaintext, reader.decryptCbc sm3 sm4 buf header = .ok plaintext →
      buf.length % 16 = 0 ∧ ∃ cipher decrypted tag, ∃ last :
      UInt8, getCipher reader.readKey = .ok cipher ∧
        cipher.decryptCbcRaw sm4 (buf.drop 16) (buf.take 16) = .ok decrypted ∧
        decrypted = plaintext ++ tag ++ replicate (last.toNat + 1) last ∧ last.toNat ≤ 16 ∧
        tag = sm3Hmac sm3 reader.readMacKey
          (beOctets 8 (reader.readSeq - 1) ++ header.take 3 ++ beOctets 2 plaintext.length ++
          plaintext) := by
  constructor
  · intro contentType plaintext iv
    obtain ⟨buf, hseal, -, hopen⟩ := decryptCbc_encryptCbcRecordWithType sm3 sm4 hdeliv hkey
      contentType plaintext iv
    exact ⟨buf, hseal, hopen⟩
  · intro buf header plaintext hopen
    simp only [decryptCbc, openCbc, bind_eq_ok, mapError_eq_ok, rejectIf_eq_ok, not_not,
      Except.ok.injEq] at hopen
    obtain ⟨-, -, _, ⟨cipher, hcipher, decrypted, hdec, ⟨first, tag⟩, hsplit, rfl⟩, -, htag, rfl⟩ :=
      hopen
    obtain ⟨last, hlast, -, hshape⟩ := eq_append_of_splitCbcInner hsplit
    exact ⟨mod_length_of_decryptCbcRaw hdec, cipher, decrypted, tag, last, hcipher, hdec,
      hshape, hlast, htag.symm⟩

theorem octet_cbc_exact : ∃ buf, (miniStream .eccSm4CbcSm3 true).encryptCbcRecordWithType
    Tls.miniSm3 Tls.miniSm4
      0x17 [7] ⟨replicate 16 0, rfl⟩ = .ok (recordHeader 0x17 buf.length ++ buf) ∧
    (miniStream .eccSm4CbcSm3 false).decryptCbc Tls.miniSm3 Tls.miniSm4 buf
    (recordHeader 0x17 buf.length) = .ok [7] :=
  (cbcRecord_exact (delivers_new _ _ true _) rfl).1 0x17 [7] _

/-- The length octet at the end exceeds the block size. -/
def LongPadding (decrypted : Bytes) : Prop := 16 < (decrypted.getLastD 0).toNat

instance (decrypted : Bytes) : Decidable (LongPadding decrypted) := Nat.decLt _ _

/-- The end is a length octet of at most the block size, behind as many octets of the same value. -/
def Padded (decrypted : Bytes) : Prop :=
  ∃ front, ∃ last : UInt8, last.toNat ≤ 16 ∧ decrypted = front ++ replicate (last.toNat + 1) last

/-- Both paddings have too large a length octet, or both have other octets than their length octet
says, or both are right and of the same length. -/
def SamePadding (first second : Bytes) : Prop :=
  LongPadding first ∧ LongPadding second ∨
    (¬ LongPadding first ∧ ¬ Padded first) ∧ ¬ LongPadding second ∧ ¬ Padded second ∨
      Padded first ∧ Padded second ∧ first.getLastD 0 = second.getLastD 0

lemma Padded.getLastD_le {decrypted : Bytes} (hpadded : Padded decrypted) :
    (decrypted.getLastD 0).toNat ≤ 16 := by
  obtain ⟨front, last, hlast, rfl⟩ := hpadded
  rwa [replicate_succ', ← append_assoc, getLastD_concat]

lemma padded_iff {decrypted : Bytes} (hlen : (decrypted.getLastD 0).toNat < decrypted.length)
    (hshort : ¬ LongPadding decrypted) : Padded decrypted ↔
      ((decrypted.drop (decrypted.length - ((decrypted.getLastD 0).toNat + 1))).take
      (decrypted.getLastD 0).toNat).all
        (fun octet ↦ octet.toNat == (decrypted.getLastD 0).toNat) = true := by
  obtain rfl | ⟨front, last, rfl⟩ := eq_nil_or_concat' decrypted
  · cases hlen
  rw [LongPadding] at hshort
  simp only [getLastD_concat, length_append, length_singleton,
    Nat.add_sub_add_right] at hlen hshort ⊢
  have hcut : front.length - last.toNat ≤ front.length := Nat.sub_le _ _
  rw [drop_append_of_le_length hcut, take_left' (by rw [length_drop]; omega), all_eq_true]
  constructor
  · rintro ⟨start, value, -, heq⟩ octet hmem
    rw [replicate_succ', ← append_assoc] at heq
    obtain ⟨rfl, hvalue⟩ := append_inj' heq rfl
    obtain rfl : last = value := by simpa using hvalue
    rw [drop_left' (by simp)] at hmem
    simp [eq_of_mem_replicate hmem]
  · intro hall
    refine ⟨front.take (front.length - last.toNat), last, Nat.not_lt.mp hshort, ?_⟩
    have htail : front.drop (front.length - last.toNat) = replicate last.toNat last := by
      refine eq_replicate_iff.mpr ⟨by rw [length_drop]; omega, fun octet hmem ↦ ?_⟩
      exact UInt8.toNat_inj.mp (beq_iff_eq.mp (hall octet hmem))
    rw [replicate_succ', ← htail, ← append_assoc, take_append_drop]

/-- The outcomes of the checks on decrypted octets, which are 48 or more. -/
lemma splitCbcInner_cases {decrypted : Bytes} (hlen : 48 ≤ decrypted.length) :
    LongPadding decrypted ∧ splitCbcInner decrypted =
        .error (.handshakeFailed "TLCP CBC invalid padding (length byte > block size)") ∨
      (¬ LongPadding decrypted ∧ ¬ Padded decrypted) ∧
        splitCbcInner decrypted = .error (.handshakeFailed "TLCP CBC malformed padding") ∨
      Padded decrypted ∧ decrypted.length < 33 + (decrypted.getLastD 0).toNat ∧
        splitCbcInner decrypted = .error (.handshakeFailed "TLCP CBC inner too short for MAC") ∨
      Padded decrypted ∧ 33 + (decrypted.getLastD 0).toNat ≤ decrypted.length ∧ ∃ plaintext tag,
        splitCbcInner decrypted = .ok (plaintext, tag) ∧
          plaintext.length + 33 + (decrypted.getLastD 0).toNat = decrypted.length := by
  have hne : decrypted ≠ [] := ne_nil_of_length_pos (by omega)
  by_cases hlong : LongPadding decrypted
  · refine .inl ⟨hlong, ?_⟩
    have hover : (decrypted.getLastD 0).toNat > 16 := hlong
    simp only [splitCbcInner, rejectIf_neg hne, rejectIf_pos hover, ok_bind, error_bind]
  have hlast : (decrypted.getLastD 0).toNat ≤ 16 := Nat.not_lt.mp hlong
  have hpadded := padded_iff (by omega) hlong
  simp only [splitCbcInner, rejectIf_neg hne, rejectIf_neg (Nat.not_lt.mpr hlast), ok_bind,
    rejectIf_neg (show ¬ (decrypted.getLastD 0).toNat + 1 > decrypted.length by omega)]
  by_cases hpad : Padded decrypted
  · rw [rejectIf_bind (Bool.not_eq_false _ ▸ hpadded.mp hpad)]
    by_cases hfits : decrypted.length - ((decrypted.getLastD 0).toNat + 1) < 32
    · exact .inr (.inr (.inl ⟨hpad, by omega, by rw [rejectIf_pos hfits]; rfl⟩))
    · refine .inr (.inr (.inr ⟨hpad, by omega, _, _, rejectIf_bind hfits, ?_⟩))
      rw [length_take]
      omega
  · refine .inr (.inl ⟨⟨hlong, hpad⟩, ?_⟩)
    rw [rejectIf_pos (Bool.eq_false_iff.mpr (mt hpadded.mpr hpad))]
    rfl

/-- What a refused record shows, by its decrypted octets. -/
lemma refusal_of_decryptCbcRaw {cipher : Sm4Cipher} {decrypted : Bytes} {error : TlcpError}
    (hcipher : getCipher reader.readKey = .ok cipher)
    (hdec : cipher.decryptCbcRaw sm4 (buf.drop 16) (buf.take 16) = .ok decrypted)
    (hmin : 64 ≤ buf.length) (hheader : header.length = 5)
    (hrefused : reader.decryptCbc sm3 sm4 buf header = .error error) :
    LongPadding decrypted ∧
    error = .handshakeFailed "TLCP CBC invalid padding (length byte > block size)" ∧
        reader.cbcHashed sm4 buf header = none ∨
      (¬ LongPadding decrypted ∧ ¬ Padded decrypted) ∧
        error = .handshakeFailed "TLCP CBC malformed padding" ∧
        reader.cbcHashed sm4 buf header = none ∨
      Padded decrypted ∧ decrypted.length < 33 + (decrypted.getLastD 0).toNat ∧
        error = .handshakeFailed "TLCP CBC inner too short for MAC" ∧
        reader.cbcHashed sm4 buf header = none ∨
      Padded decrypted ∧ 33 + (decrypted.getLastD 0).toNat ≤ decrypted.length ∧
        error = .handshakeFailed "TLCP CBC HMAC verification failed" ∧
          reader.cbcHashed sm4 buf header =
          some (decrypted.length - (decrypted.getLastD 0).toNat - 20) := by
  have hlen := Sm4Cipher.length_of_decryptCbcRaw sm4 hdec
  rw [length_drop] at hlen
  rw [decryptCbc, rejectIf_bind (by omega)] at hrefused
  simp only [cbcHashed, openCbc, hcipher, hdec, mapError_ok, ok_bind] at hrefused ⊢
  have hfull : 48 ≤ decrypted.length := by omega
  rcases splitCbcInner_cases hfull with ⟨hclass, hsplit⟩ | ⟨hclass, hsplit⟩ |
    ⟨hclass, hsize, hsplit⟩ | ⟨hclass, hsize, plaintext, tag, hsplit, hplain⟩
  all_goals simp only [hsplit, error_bind, ok_bind] at hrefused ⊢
  · exact .inl ⟨hclass, (Except.error.inj hrefused).symm, rfl⟩
  · exact .inr (.inl ⟨hclass, (Except.error.inj hrefused).symm, rfl⟩)
  · exact .inr (.inr (.inl ⟨hclass, hsize, (Except.error.inj hrefused).symm, rfl⟩))
  · refine .inr (.inr (.inr ⟨hclass, hsize, ?_, ?_⟩))
    · rw [rejectIf] at hrefused
      split at hrefused
      · exact (Except.error.inj hrefused).symm
      · cases hrefused
    · simp only [Except.toOption, Option.map_some, length_append, length_beOctets,
        length_take, hheader]
      congr 1
      omega

/-- **Refusals of CBC records.** Two refused records of one length show the same exactly when the
octets they decrypt to, if they decrypt, have the same kind of padding. -/
theorem cbcRefusals_agree_iff {first second firstHeader secondHeader : Bytes}
    {firstError secondError : TlcpError}
    (hlen : first.length = second.length) (hmin : 64 ≤ first.length)
    (hfirstHeader : firstHeader.length = 5) (hsecondHeader : secondHeader.length = 5)
    (hfirst : reader.decryptCbc sm3 sm4 first firstHeader = .error firstError)
    (hsecond : reader.decryptCbc sm3 sm4 second secondHeader = .error secondError) :
    firstError = secondError ∧ reader.cbcHashed sm4 first firstHeader =
    reader.cbcHashed sm4 second secondHeader ↔
      ∀ cipher firstOctets secondOctets, getCipher reader.readKey = .ok cipher →
        cipher.decryptCbcRaw sm4 (first.drop 16) (first.take 16) = .ok firstOctets →
        cipher.decryptCbcRaw sm4 (second.drop 16) (second.take 16) = .ok secondOctets →
          SamePadding firstOctets secondOctets := by
  have hmin' : 64 ≤ second.length := hlen ▸ hmin
  cases hcipher : getCipher reader.readKey with
  | error error =>
    rw [decryptCbc, rejectIf_bind (by omega), openCbc, hcipher] at hfirst hsecond
    refine iff_of_true ⟨Except.error.inj (hfirst.symm.trans hsecond), ?_⟩ (by simp)
    simp only [cbcHashed, openCbc, hcipher, error_bind]
  | ok cipher =>
    by_cases hblk : first.length % 16 = 0
    · obtain ⟨firstOctets, hdec⟩ := exists_decryptCbcRaw sm4 cipher hmin hblk
      obtain ⟨secondOctets, hdec'⟩ := exists_decryptCbcRaw sm4 cipher hmin' (hlen ▸ hblk)
      have hsame : firstOctets.length = secondOctets.length := by
        rw [Sm4Cipher.length_of_decryptCbcRaw sm4 hdec, Sm4Cipher.length_of_decryptCbcRaw sm4 hdec',
          length_drop,
          length_drop, hlen]
      have hcondition : (∀ other one two, Except.ok (ε := TlcpError) cipher = .ok other →
          other.decryptCbcRaw sm4 (first.drop 16) (first.take 16) = .ok one →
          other.decryptCbcRaw sm4 (second.drop 16) (second.take 16) = .ok two →
            SamePadding one two) ↔
            SamePadding firstOctets secondOctets := by
        constructor
        · exact fun hall ↦ hall cipher firstOctets secondOctets rfl hdec hdec'
        · intro hpadding other one two hother hone htwo
          cases hother
          cases hdec.symm.trans hone
          cases hdec'.symm.trans htwo
          exact hpadding
      rw [hcondition, SamePadding]
      clear hcondition
      have hfull : 48 ≤ firstOctets.length := by
        rw [Sm4Cipher.length_of_decryptCbcRaw sm4 hdec, length_drop]
        omega
      have hinj : (firstOctets.getLastD 0).toNat = (secondOctets.getLastD 0).toNat ↔
          firstOctets.getLastD 0 = secondOctets.getLastD 0 := UInt8.toNat_inj
      have hlast : Padded firstOctets → _ := Padded.getLastD_le
      have hlast' : Padded secondOctets → _ := Padded.getLastD_le
      rcases refusal_of_decryptCbcRaw hcipher hdec hmin hfirstHeader hfirst with h | h | h | h <;>
        rcases refusal_of_decryptCbcRaw hcipher hdec' hmin' hsecondHeader
          hsecond with h' | h' | h' | h' <;>
        grind [LongPadding]
    · have hopen := @openCbc_of_mod_ne sm4 reader first firstHeader cipher hcipher hblk
      have hopen' := @openCbc_of_mod_ne sm4 reader second secondHeader cipher hcipher (hlen ▸ hblk)
      rw [decryptCbc, rejectIf_bind (by omega), hopen] at hfirst
      rw [decryptCbc, rejectIf_bind (by omega), hopen'] at hsecond
      refine iff_of_true ⟨Except.error.inj (hfirst.symm.trans hsecond), ?_⟩ ?_
      · simp only [cbcHashed, hopen, hopen']
      · intro _ _ _ _ hdec
        exact absurd (mod_length_of_decryptCbcRaw hdec) hblk

def zerosThen (last : UInt8) : Bytes := replicate 63 0 ++ [last]

def openZerosThen (last : UInt8) : Except TlcpError Bytes :=
  (miniStream .eccSm4CbcSm3 false).decryptCbc Tls.miniSm3 Tls.miniSm4 (zerosThen last)
    (recordHeader 0x17 64)

def hashedZerosThen (last : UInt8) : Option ℕ :=
  (miniStream .eccSm4CbcSm3 false).cbcHashed Tls.miniSm4 (zerosThen last) (recordHeader 0x17 64)

theorem long_paddings_agree : openZerosThen 17 = openZerosThen 255 ∧ hashedZerosThen 17 =
    hashedZerosThen 255 := by
  have hlong (last : UInt8) (hlast : last = 17 ∨ last = 255) : openZerosThen last =
      .error (.handshakeFailed "TLCP CBC invalid padding (length byte > block size)") := by
    rcases hlast with rfl | rfl <;> rfl
  have hsize : (zerosThen 17).length = (zerosThen 255).length := rfl
  have hboth := (cbcRefusals_agree_iff hsize (by decide) rfl rfl (hlong 17 (.inl rfl))
    (hlong 255 (.inr rfl))).mpr
    fun _ _ _ hcipher hfirst hsecond ↦ by
      cases hcipher
      cases hfirst
      cases hsecond
      exact .inl ⟨by decide, by decide⟩
  exact ⟨(hlong 17 (.inl rfl)).trans (hlong 255 (.inr rfl)).symm, hboth.2⟩

theorem padding_told_from_mac :
    openZerosThen 0 = .error (.handshakeFailed "TLCP CBC HMAC verification failed") ∧
    hashedZerosThen 0 = some 28 ∧
      openZerosThen 255 =
      .error (.handshakeFailed "TLCP CBC invalid padding (length byte > block size)") ∧
        hashedZerosThen 255 = none :=
  by decide +kernel

end TlcpStream

variable {F P G1 G2 GT : Type} [CommRing F] [AddCommGroup P] [Module F P] [DecidableEq F]
  [DecidableEq P]
  (lib : TlcpLibrary F P G1 G2 GT) (acceptor : TlcpAcceptor F G1 G2) (entropy : ServerEntropy F)
  (now : Instant) (opened : ServerOpened)

def serveOpened : Handshake TlcpStream := do
  let ready ← readClientFlight lib acceptor entropy now opened
  finishServer lib opened.suite opened.sessionId opened.clientRandom entropy.random ready.master
    ready.transcript ready.clientCerts entropy.recordIv

def clientKeyExchangeRecord (body : Bytes) :
    Bytes := plaintextRecord (handshakeMessage .clientKeyExchange body)

/-- The server ends with the script when the client sends a `ClientKeyExchange` with the body and
further octets. -/
def Serves (body later : Bytes) (script : Script) : Prop :=
  inbound script <+: clientKeyExchangeRecord body ++ later ∧
    ∃ result, Concludes (serveOpened lib acceptor entropy now opened) script result

/-- With either body and the same octets behind it the server ends, writes the same octets and stops
reading at the same point behind the `ClientKeyExchange`. -/
def Indistinguishable (first second later : Bytes) : Prop :=
  ∃ firstScript secondScript, Serves lib acceptor entropy now opened first later firstScript ∧
    Serves lib acceptor entropy now opened second later secondScript ∧
    outbound firstScript = outbound secondScript ∧
    (inbound firstScript).length + (clientKeyExchangeRecord second).length =
      (inbound secondScript).length + (clientKeyExchangeRecord first).length

variable {lib acceptor entropy now opened} {body : Bytes}

lemma concludes_serveOpened (hmode : opened.suite.keyExchange = .rsa)
    (hsize : (handshakeMessage .clientKeyExchange body).length ≤ maxRecordSize) {after : Script}
    {error : TlcpError}
    (hlater : ∀ transcript, Concludes (do
      let pms ← Proc.check (rsaServerPms lib acceptor (.rsa body))
      let master ← Proc.check (masterSecret lib.sm3 pms opened.clientRandom entropy.random)
      let verifyPayload ← readClientProof lib acceptor [] transcript
      pure ({ master, clientCerts := [], transcript := transcript ++ verifyPayload } : ServerReady))
      after (.error error)) :
    Concludes (serveOpened lib acceptor entropy now opened)
      (receiving (clientKeyExchangeRecord body) ++ after) (.error error) := by
  refine Concludes.bind_error ?_ _
  have hcertificate : readClientCertificate lib acceptor now opened.suite = pure ([], []) := by
    rw [readClientCertificate, hmode]
    rfl
  have hdeferred (cke : ClientKeyExchangeBody) :
      sendDeferredKeyExchange lib acceptor entropy opened.suite cke = pure (none, []) := by
    rw [sendDeferredKeyExchange, hmode]
    rfl
  rw [readClientFlight, hcertificate, Proc.pure_bind]
  refine (talks_readHandshakeMessage _ hsize).concludes_bind ?_
  simp only [hmode, hdeferred, Proc.pure_bind, serverPms]
  exact hlater _

variable {later : Bytes} {script : Script}

/-- On a body without a pre-master secret the server stops right behind it and writes nothing. -/
lemma Serves.of_rsaServerPms_error {error : TlcpError}
    (hserves : Serves lib acceptor entropy now opened body later script)
    (hmode : opened.suite.keyExchange = .rsa)
    (hsize : (handshakeMessage .clientKeyExchange body).length ≤ maxRecordSize)
    (hpms : rsaServerPms lib acceptor (.rsa body) = .error error) :
    script = receiving (clientKeyExchangeRecord body) := by
  obtain ⟨⟨rest, hrest⟩, result, hconc⟩ := hserves
  have hstops : Concludes (serveOpened lib acceptor entropy now opened)
      (receiving (clientKeyExchangeRecord body) ++ []) (.error error) := by
    refine concludes_serveOpened hmode hsize fun transcript ↦ ?_
    rw [hpms, Proc.check_error_bind]
    exact concludes_done_iff.mpr ⟨rfl, rfl⟩
  rw [append_nil] at hstops
  exact (hconc.unique hstops (by rw [hrest, inbound_receiving])).1

/-- On a body with a pre-master secret the server reads on. -/
lemma Serves.of_rsaServerPms_ok {pms : Bytes}
    (hserves : Serves lib acceptor entropy now opened body later script)
    (hmode : opened.suite.keyExchange = .rsa)
    (hsize : (handshakeMessage .clientKeyExchange body).length ≤ maxRecordSize)
    (hpms : rsaServerPms lib acceptor (.rsa body) = .ok pms) :
    (clientKeyExchangeRecord body).length < (inbound script).length := by
  obtain ⟨hread, result, hconc⟩ := hserves
  by_contra hshort
  obtain ⟨rest, hrest⟩ := prefix_of_prefix_length_le hread (prefix_append _ _)
    (Nat.not_lt.mp hshort)
  -- were the header of an oversized record to follow, the server would read it
  obtain ⟨master, hmaster⟩ := exists_masterSecret lib.sm3 pms opened.clientRandom entropy.random
  have hreads : Concludes (serveOpened lib acceptor entropy now opened)
      (receiving (clientKeyExchangeRecord body) ++ receiving [0x14, 0x01, 0x01, 0xFF, 0xFF])
      (.error (parseFailure "read post-CKE record" ("Record too large: " ++ toString 65535 ++
        " bytes"))) := by
    refine concludes_serveOpened hmode hsize fun transcript ↦ ?_
    rw [hpms, Proc.check_ok_bind, hmaster, Proc.check_ok_bind]
    refine Concludes.bind_error (Concludes.bind_error ?_ _) _
    rw [readPlaintextRecord, ← append_nil (receiving _)]
    exact Talks.concludes_bind (Talks.readExact _ rfl) (concludes_done_iff.mpr ⟨rfl, rfl⟩)
  have hin : inbound script ++ (rest ++ [0x14, 0x01, 0x01, 0xFF, 0xFF]) =
      inbound (receiving (clientKeyExchangeRecord body) ++ receiving [0x14, 0x01, 0x01,
      0xFF, 0xFF]) ++ [] := by
    simp [← hrest]
  apply hshort
  rw [(hconc.unique hreads hin).1, inbound_append, inbound_receiving, inbound_receiving,
    length_append]
  exact Nat.lt_add_of_pos_right (by decide)

omit [DecidableEq F] [DecidableEq P] in
lemma rsaServerPms_eq_ok {key : Bytes} {pms : Bytes} (hkey : acceptor.rsaDecryptor = some key) :
    rsaServerPms lib acceptor (.rsa body) = .ok pms ↔ lib.rsaDecrypt key body = .ok pms ∧
    pms.length = 48 := by
  simp only [rsaServerPms, checkPmsLength, bind_eq_ok, required_eq_ok, mapError_eq_ok,
    hkey, Option.some.injEq,
    ClientKeyExchangeBody.asRsaCiphertext]
  constructor
  · rintro ⟨_, rfl, _, rfl, found, hdec, hcheck⟩
    rw [← bind_eq_ok, unit_bind_eq_ok, rejectIf_eq_ok, not_not] at hcheck
    obtain ⟨hsize, hfound⟩ := hcheck
    cases hfound
    exact ⟨hdec, hsize⟩
  · rintro ⟨hdec, hsize⟩
    exact ⟨body, rfl, key, rfl, pms, hdec, (), rejectIf_eq_ok.mpr (not_not.mpr hsize), rfl⟩

section Oracle

variable {first second pms : Bytes} {key : Bytes} (hmode : opened.suite.keyExchange = .rsa)
  (hkey : acceptor.rsaDecryptor = some key)
  (hfirst : (handshakeMessage .clientKeyExchange first).length ≤ maxRecordSize)
  (hsecond : (handshakeMessage .clientKeyExchange second).length ≤ maxRecordSize)
  (hvalid : lib.rsaDecrypt key first = .ok pms) (hlen : pms.length = 48)
  (hinvalid : ∀ other, lib.rsaDecrypt key second = .ok other → other.length ≠ 48)

include hmode hkey hfirst hsecond hvalid hlen hinvalid

lemma not_indistinguishable (later : Bytes) :
    ¬ Indistinguishable lib acceptor entropy now opened first second later := by
  rintro ⟨firstScript, secondScript, hserves, hserves', -, hpoint⟩
  have hmore := hserves.of_rsaServerPms_ok hmode hfirst
    ((rsaServerPms_eq_ok hkey).mpr ⟨hvalid, hlen⟩)
  cases hpms : rsaServerPms lib acceptor (.rsa second) with
  | ok other =>
    obtain ⟨hother, hsize⟩ := (rsaServerPms_eq_ok hkey).mp hpms
    exact hinvalid other hother hsize
  | error error =>
    rw [hserves'.of_rsaServerPms_error hmode hsecond hpms, inbound_receiving] at hpoint
    omega

/-- **The oracle.** The server never serves a body that decrypts to 48 octets as one that does not:
whatever follows, it stops behind the second and reads on behind the first. -/
theorem rsaBodies_told_apart :
    acceptWithCerts lib acceptor entropy now = openServer lib acceptor entropy >>=
    serveOpened lib acceptor entropy now ∧
      ∀ later, ¬ Indistinguishable lib acceptor entropy now opened first second later :=
  ⟨rfl, not_indistinguishable hmode hkey hfirst hsecond hvalid hlen hinvalid⟩

end Oracle

def strippingRsa : TlcpLibrary MiniScalar MiniScalar MiniElement MiniElement MiniElement :=
  { miniTlcp with rsaDecrypt := fun _ ciphertext ↦ .ok (ciphertext.dropWhile (· == 0)) }

/-- A body of the length of the modulus with leading zeros. -/
def zerosBody (zeros : ℕ) : Bytes := replicate zeros 0 ++ replicate (50 - zeros) 1

def rsaOpened : ServerOpened := ⟨.rsaSm4GcmSm3, [], .fill 32 1, []⟩

theorem short_secret_told_apart :
    ¬ Indistinguishable strippingRsa miniAcceptor miniServerEntropy 500 rsaOpened
    (zerosBody 2) (zerosBody 3) (plaintextRecord [0x14]) := by
  have hvalid : strippingRsa.rsaDecrypt [7] (zerosBody 2) = .ok (replicate 48 1) := rfl
  refine (rsaBodies_told_apart rfl rfl (by decide) (by decide) hvalid rfl ?_).2 _
  intro other hother
  cases hother
  decide

theorem valid_body_told_apart : (zerosBody 2).length = (zerosBody 1).length ∧
      ¬ Indistinguishable strippingRsa miniAcceptor miniServerEntropy 500 rsaOpened (zerosBody 2)
      (zerosBody 1)
        (plaintextRecord [0x14]) := by
  have hvalid : strippingRsa.rsaDecrypt [7] (zerosBody 2) = .ok (replicate 48 1) := rfl
  refine ⟨rfl, not_indistinguishable rfl rfl (by decide) (by decide) hvalid rfl ?_ _⟩
  intro other hother
  cases hother
  decide

end GmStack.Tlcp
