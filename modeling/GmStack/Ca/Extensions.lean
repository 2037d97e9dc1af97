import GmStack.Ca.Certificate

/-! Whether a certificate has the extensions its profile selects, and by default the common name of
the request. -/

namespace GmStack.Ca

open Foundation Crypto List CaSigner

def bitAt (contents : Bytes) (index : ℕ) :
    Bool := (contents.tail.getD (index / 8) 0).toNat.testBit (7 - index % 8)

lemma map_bitAt_toDerBytes (usage : KeyUsageBits) : (range 9).map (bitAt usage.toDerBytes) =
    usage.flags := by
  obtain ⟨a, b, c, d, e, f, g, h, i⟩ := usage
  revert a b c d e f g h i
  decide +kernel

def CertProfile.Selects (profile : CertProfile) (sans : List GeneralName)
    (subjectKeyId caKeyId : Bytes) :
    CertExtension → Prop
  | .basicConstraints isCa pathLen =>
    profile.includeBasicConstraints ∧ isCa = profile.isCa ∧ pathLen = profile.caPathLenConstraint
  | .keyUsage usage => profile.keyUsage.flags.any id ∧ usage = profile.keyUsage
  | .extKeyUsage purposes => profile.extKeyUsage ≠ [] ∧ purposes = profile.extKeyUsage
  | .subjectAltName names => profile.includeSan ∧ sans ≠ [] ∧ names = sans
  | .subjectKeyId keyId => profile.includeSki ∧ keyId = subjectKeyId
  | .authorityKeyId keyId => profile.includeAki ∧ keyId = caKeyId

variable {profile : CertProfile} {sans : List GeneralName}

lemma mem_buildExtensions {subjectKeyId caKeyId : Bytes} (extension : CertExtension) :
    extension ∈ buildExtensions subjectKeyId caKeyId sans profile ↔
    profile.Selects sans subjectKeyId caKeyId extension := by
  cases extension <;> simp [buildExtensions, CertProfile.Selects, and_assoc]

variable {F P : Type} [CommRing F] [AddCommGroup P] [Module F P]
  {sm2 : Sm2Curve F P} {sm3 : Sm3Library} {library : CaLibrary} {signer : CaSigner F}
  {now : Instant} {random : Octets 20} {validitySeconds : ℤ} {subjectDer publicKey : Bytes}

variable (sm2 sm3 signer) in
def FollowsProfile (tbs : TbsCertificate) (sans : List GeneralName)
    (profile : CertProfile) : Prop :=
  ∀ extension, extension ∈ tbs.extensionList ↔ profile.Selects sans (sm3KeyId sm3 tbs.publicKey)
    (sm3KeyId sm3 (signer.keyPair.publicKeyBytesUncompressed sm2)) extension

/-- No extension besides BasicConstraints and SubjectAltName. -/
def CertProfile.Bare (profile : CertProfile) : Prop :=
  profile.keyUsage.flags.any id = false ∧ profile.extKeyUsage = [] ∧ profile.includeSki = false ∧
    profile.includeAki = false

lemma followsProfile_tbsCertificate_iff : FollowsProfile sm2 sm3 signer
    (signer.tbsCertificate sm2 sm3 now random validitySeconds subjectDer publicKey sans profile)
    sans profile ↔
      sans ≠ [] ∨ profile.includeBasicConstraints = true ∨ profile.Bare := by
  unfold FollowsProfile TbsCertificate.extensionList tbsCertificate certificateExtensions
  split_ifs with hnone
  · obtain ⟨rfl, hconstraints⟩ := hnone
    simp only [Option.getD_none, not_mem_nil, false_iff, ne_eq, not_true_eq_false, hconstraints,
      Bool.false_eq_true,
      false_or]
    constructor
    · intro hnothing
      refine ⟨?_, ?_, ?_, ?_⟩
      · exact eq_false_of_ne_true fun hany ↦ hnothing (.keyUsage profile.keyUsage) ⟨hany, rfl⟩
      · exact not_not.mp fun hpurposes ↦ hnothing (.extKeyUsage profile.extKeyUsage)
          ⟨hpurposes, rfl⟩
      · exact eq_false_of_ne_true fun hski ↦ hnothing (.subjectKeyId _) ⟨hski, rfl⟩
      · exact eq_false_of_ne_true fun haki ↦ hnothing (.authorityKeyId _) ⟨haki, rfl⟩
    · rintro ⟨husage, hpurposes, hski, haki⟩ extension
      have hbits : true ∉ profile.keyUsage.flags := by simpa using husage
      cases extension <;> simp [CertProfile.Selects, hbits, hpurposes, hski, haki, hconstraints]
  · rw [Option.getD_some, iff_true_left fun extension ↦ mem_buildExtensions extension]
    tauto

lemma subjectCn_ne_empty (request : CertificationRequest) : subjectCn request ≠ "" := by
  unfold subjectCn
  dsimp only
  split_ifs <;> simp_all [String.ext_iff]

variable {request : CertificationRequest}

lemma csrSans_ne_nil {csrInput : Bytes} (hparse : parseCsr library csrInput = .ok request) :
    csrSans library csrInput profile ≠ [] := by
  unfold csrSans
  split_ifs with hsans
  · exact hsans
  · rw [extractCsrSubjectCn, hparse, ok_bind]
    simp [subjectCn_ne_empty]

/-- A certificate made from a request follows its profile. A renewed one does not where the existing
one has no dNSName, the profile no names and no BasicConstraints, but some other extension. -/
theorem extensions_follow_profile_iff :
    (∀ usage : KeyUsageBits, (range 9).map (bitAt usage.toDerBytes) = usage.flags) ∧
    (∀ now random csrInput validitySeconds profile certificate,
      signer.signCsrWithProfileAndSeconds sm2 sm3 library now random csrInput validitySeconds
      profile = .ok certificate →
        FollowsProfile sm2 sm3 signer certificate.tbs (csrSans library csrInput profile) profile) ∧
    ∀ now random existingCertPem validitySeconds profile renewed,
      signer.renewCertificateWithProfileAndSeconds sm2 sm3 library now random existingCertPem
      validitySeconds profile =
        .ok renewed → ∃ info, parseCertPem library existingCertPem = .ok info ∧
          (FollowsProfile sm2 sm3 signer renewed.tbs (renewedSans info profile) profile ↔
            renewedSans info profile ≠ [] ∨ profile.includeBasicConstraints = true ∨
            profile.Bare) := by
  refine ⟨map_bitAt_toDerBytes, ?_, ?_⟩
  · intro now random csrInput validitySeconds profile certificate hsign
    obtain ⟨-, request, hparse, htbs⟩ := tbs_of_sign hsign
    rw [htbs, followsProfile_tbsCertificate_iff]
    exact .inl (csrSans_ne_nil hparse)
  · intro now random existingCertPem validitySeconds profile renewed hrenew
    obtain ⟨-, info, hinfo, -, htbs⟩ := renewCertificateWithProfileAndSeconds_eq_ok hrenew
    exact ⟨info, hinfo, by rw [htbs, followsProfile_tbsCertificate_iff]⟩

def bareConstraints : CertProfile := { CertProfile.default with includeBasicConstraints := false }

/-- The profile selects key usages and key identifiers, and the renewed certificate has no
extension. -/
theorem renewed_without_extensions :
    ∃ renewed, sampleSigner.renewCertificateWithProfileAndSeconds sampleCurve tinySm3
      (sampleLibrary (sampleCertificate [])) 0 (.fill 20 9)
      ((sampleCertificate []).pem (sampleLibrary (sampleCertificate [])))
      3600 bareConstraints = .ok renewed ∧ renewed.tbs.extensionList = [] ∧
    ¬ FollowsProfile sampleCurve tinySm3 sampleSigner renewed.tbs [] bareConstraints := by
  obtain ⟨renewed, hrenew⟩ := exists_renewCertificateWithProfileAndSeconds sampleSigner_signs
    (sampleLibrary_decodes [])
    (show (0 : ℤ) ≤ secondsLong (wholeSeconds (nowUtcForX509 0 + secondsLong 1000)) by decide)
      (.fill 20 9)
    (show (1 : ℤ) ≤ 3600 ∧ (3600 : ℤ) ≤ 31536000 by decide) bareConstraints
  obtain ⟨-, info, hinfo, -, htbs⟩ := renewCertificateWithProfileAndSeconds_eq_ok hrenew
  rw [parseCertPem_of_decodes _ (sampleLibrary_decodes [])] at hinfo
  obtain rfl := Except.ok.inj hinfo
  have hnone : renewed.tbs.extensionList = [] := by
    rw [htbs]
    rfl
  refine ⟨renewed, hrenew, hnone, fun hfollows ↦ ?_⟩
  have hmem := (hfollows (.keyUsage bareConstraints.keyUsage)).mpr ⟨rfl, rfl⟩
  rw [hnone] at hmem
  cases hmem

def displaySubject (subject : List (Text × Text)) : Text :=
  [',', ' '].intercalate (subject.map fun entry ↦ entry.1 ++ '=' :: entry.2)

structure PlainName (value : Text) : Prop where
  ne_nil : value ≠ []
  trimmed : trim value = value
  comma : ',' ∉ value
  unlabelled : ¬ ['C', 'N', '='] <+: value

lemma displaySubject_cons (type value : Text) (others : List (Text × Text)) :
    ∃ tail : Text, displaySubject ((type, value) :: others) = type ++ '=' :: (value ++ tail) ∧
      (tail = [] ∨ ∃ more, tail = ',' :: more) := by
  cases others with
  | nil => exact ⟨[], by simp [displaySubject, intercalate], .inl rfl⟩
  | cons other rest =>
    exact ⟨',' :: ' ' :: displaySubject (other :: rest), by simp [displaySubject, intercalate],
      .inr ⟨_, rfl⟩⟩

/-- Names of attribute types are not empty and have no white space, comma or equality sign. -/
structure PlainType (type : Text) : Prop where
  ne_nil : type ≠ []
  plain : ∀ c ∈ type, isWhitespace c = false ∧ c ≠ ',' ∧ c ≠ '='

/-- The extraction finds the common name: it stands first and is plain, or the attribute that stands
first happens to be displayed as its value. -/
def FoundFirst (value : Text) : List (Text × Text) → Prop
  | [] => False
  | (type, first) :: _ =>
    if type = "CN".toList then PlainName value else trim
      (type ++ '=' :: first.takeWhile (· ≠ ',')) = value

lemma rdropWhile_append_spaces (text : Text) {spaces : Text}
    (hspaces : ∀ c ∈ spaces, isWhitespace c = true) :
    (text ++ spaces).rdropWhile isWhitespace = text.rdropWhile isWhitespace := by
  rw [rdropWhile, reverse_append, dropWhile_append, dropWhile_eq_nil_iff.mpr fun c hc ↦
    hspaces c (mem_reverse.mp hc)]
  rfl

lemma exists_rdropWhile_append (text : Text) :
    ∃ spaces, (∀ c ∈ spaces, isWhitespace c = true) ∧ text = text.rdropWhile isWhitespace ++
    spaces := by
  refine ⟨(text.reverse.takeWhile isWhitespace).reverse, ?_, ?_⟩
  · intro c hc
    exact mem_takeWhile_imp (mem_reverse.mp hc)
  · rw [rdropWhile, ← reverse_append, takeWhile_append_dropWhile, reverse_reverse]

lemma trim_append_spaces (text : Text) {spaces : Text}
    (hspaces : ∀ c ∈ spaces, isWhitespace c = true) :
    trim (text ++ spaces) = trim text := by
  have hnone : spaces.dropWhile isWhitespace = [] := dropWhile_eq_nil_iff.mpr hspaces
  unfold trim
  rw [dropWhile_append]
  split_ifs with hempty
  · rw [isEmpty_iff.mp hempty, hnone]
  · exact rdropWhile_append_spaces _ hspaces

lemma trimStartMatchesCn_of_not_prefix {text : Text} (hlabel : ¬ ['C', 'N', '='] <+: text) :
    trimStartMatchesCn text = text := by
  unfold trimStartMatchesCn
  split
  · exact absurd ⟨_, rfl⟩ hlabel
  · rfl

lemma trimStartMatchesCn_append (text : Text) {spaces : Text}
    (hspaces : ∀ c ∈ spaces, isWhitespace c = true) :
    trimStartMatchesCn (text ++ spaces) = trimStartMatchesCn text ++ spaces := by
  fun_induction trimStartMatchesCn text with
  | case1 rest ih => exact ih
  | case2 text hlabel =>
    apply trimStartMatchesCn_of_not_prefix
    rintro ⟨rest, hrest⟩
    have hnot (c : Char) (hc : c ∈ spaces) (hother : isWhitespace c = false) : False :=
      Bool.false_ne_true (hother.symm.trans (hspaces c hc))
    -- the label has no white space, so it lies in the text
    rcases text with _ | ⟨a, _ | ⟨b, _ | ⟨c, text⟩⟩⟩ <;> simp only [cons_append, nil_append,
      cons.injEq] at hrest
    · exact hnot 'C' (hrest ▸ mem_cons_self) (by decide)
    · exact hnot 'N' (hrest.2 ▸ mem_cons_self) (by decide)
    · exact hnot '=' (hrest.2.2 ▸ mem_cons_self) (by decide)
    · obtain ⟨rfl, rfl, rfl, -⟩ := hrest
      exact hlabel text rfl

lemma trimStartMatchesCn_suffix (text : Text) : trimStartMatchesCn text <:+ text := by
  fun_induction trimStartMatchesCn text with
  | case1 rest ih => exact ih.trans ⟨['C', 'N', '='], rfl⟩
  | case2 text hlabel => exact suffix_rfl

lemma trim_sublist (text : Text) : trim text <+ text :=
  ( rdropWhile_prefix isWhitespace _).sublist.trans (dropWhile_sublist _)

/-- Trimming first does not change the trimmed first part. -/
lemma trim_firstPart {text : Text} (hstart : text.dropWhile isWhitespace = text) :
    trim (trimStartMatchesCn ((trim text).takeWhile (· ≠ ','))) =
    trim (trimStartMatchesCn (text.takeWhile (· ≠ ','))) := by
  obtain ⟨spaces, hspaces, hsplit⟩ := exists_rdropWhile_append text
  have htrim : trim text = text.rdropWhile isWhitespace := by rw [trim, hstart, rdropWhile]
  have hplain (c : Char) (hc : c ∈ spaces) : decide (c ≠ ',') = true :=
    decide_eq_true fun heq ↦ absurd (hspaces c hc) (by rw [heq]; decide)
  rw [htrim]
  generalize text.rdropWhile isWhitespace = front at hsplit
  rw [hsplit, takeWhile_append]
  split_ifs with hall
  · have hfront : front.takeWhile (· ≠ ',') = front := ( takeWhile_prefix _).eq_of_length hall
    rw [hfront, takeWhile_eq_self_iff.mpr hplain, trimStartMatchesCn_append _ hspaces,
      trim_append_spaces _ hspaces]
  · rfl


section First

variable {type first : Text} (htype : PlainType type)

include htype

lemma dropWhile_typed (rest : Text) : (type ++ rest).dropWhile isWhitespace = type ++ rest := by
  cases htail : type with
  | nil => exact absurd htail htype.ne_nil
  | cons c tail =>
    have hc := (htype.plain c (by simp [htail])).1
    rw [cons_append, dropWhile_cons_of_neg (by simp [hc])]

lemma takeWhile_typed (rest : Text) :
    (type ++ '=' :: rest).takeWhile (· ≠ ',') = type ++ '=' :: rest.takeWhile (· ≠ ',') := by
  rw [takeWhile_append_of_pos fun c hc ↦ decide_eq_true (htype.plain c hc).2.1,
    takeWhile_cons_of_pos (by decide)]

lemma mem_trim_typed (rest : Text) : '=' ∈ trim (type ++ '=' :: rest) := by
  obtain ⟨spaces, hspaces, hsplit⟩ := exists_rdropWhile_append (type ++ '=' :: rest)
  rw [trim, dropWhile_typed htype]
  have hmem : '=' ∈ (type ++ '=' :: rest).rdropWhile isWhitespace ++ spaces := by
    rw [← hsplit]
    simp
  exact (mem_append.mp hmem).resolve_right fun hc ↦ absurd (hspaces _ hc) (by decide)

/-- What the extraction makes of a subject, by its first attribute. -/
lemma subjectCn_typed {others : List (Text × Text)} {request : CertificationRequest}
    (htext : request.subjectText = String.ofList (displaySubject ((type, first) :: others))) :
    subjectCn request = String.ofList
      (if trim (trimStartMatchesCn (type ++ '=' :: first.takeWhile (· ≠ ','))) ≠ [] then
        trim (trimStartMatchesCn (type ++ '=' :: first.takeWhile (· ≠ ',')))
      else trim (displaySubject ((type, first) :: others))) := by
  obtain ⟨tail, hdisplay, htail⟩ := displaySubject_cons type first others
  have hcut : (type ++ '=' :: (first ++ tail)).takeWhile (· ≠ ',') = type ++ '=' ::
      first.takeWhile (· ≠ ',') := by
    rw [takeWhile_typed htype]
    rcases htail with rfl | ⟨more, rfl⟩
    · rw [append_nil]
    · rw [takeWhile_append]
      split_ifs with hall
      · rw [takeWhile_cons_of_neg (by decide), append_nil, ( takeWhile_prefix _).eq_of_length hall]
      · rfl
  have hmem := mem_trim_typed htype (first ++ tail)
  have hshown : trim (type ++ '=' :: (first ++ tail)) ≠ "(empty)".toList := by
    intro hempty
    rw [hempty] at hmem
    revert hmem
    decide
  unfold subjectCn
  dsimp only
  rw [htext, hdisplay, String.toList_ofList, if_pos ⟨ne_nil_of_mem hmem, hshown⟩,
    trim_firstPart (dropWhile_typed htype _), hcut]
  exact (apply_ite String.ofList _ _ _).symm

end First

variable {value : Text}

lemma PlainName.trim_eq (hplain : PlainName value) :
    trim (trimStartMatchesCn (value.takeWhile (· ≠ ','))) = value := by
  have hclear (c : Char) (hc : c ∈ value) : decide (c ≠ ',') = true :=
    decide_eq_true fun heq ↦ hplain.comma (heq ▸ hc)
  rw [takeWhile_eq_self_iff.mpr hclear, trimStartMatchesCn_of_not_prefix hplain.unlabelled,
    hplain.trimmed]

lemma plainName_of_trim_eq (hne : value ≠ [])
    (hkept : trim (trimStartMatchesCn (value.takeWhile (· ≠ ','))) = value) : PlainName value := by
  have hstrip := (trimStartMatchesCn_suffix (value.takeWhile (· ≠ ','))).sublist
  have htaken : value.takeWhile (· ≠ ',') = value :=
    (takeWhile_sublist _).antisymm (by
      conv_lhs => rw [← hkept]
      exact (trim_sublist _).trans hstrip)
  rw [htaken] at hkept hstrip
  have hsame : trimStartMatchesCn value = value := hstrip.antisymm (by
    conv_lhs => rw [← hkept]
    exact trim_sublist _)
  refine ⟨hne, by rwa [hsame] at hkept, fun hcomma ↦ ?_, ?_⟩
  · exact absurd (takeWhile_eq_self_iff.mp htaken ',' hcomma) (by decide)
  · rintro ⟨rest, rfl⟩
    have hshort := (trimStartMatchesCn_suffix rest).length_le
    have hlength := congrArg length hsame
    simp only [trimStartMatchesCn, cons_append, nil_append, length_cons] at hlength
    omega

/-- The whole display of a subject is never the value of its common name: it has three more
characters that are not white space. -/
lemma trim_displayed_ne (value tail : Text) : trim ('C' :: 'N' :: '=' :: (value ++ tail)) ≠
    value := by
  intro heq
  obtain ⟨spaces, hspaces, hsplit⟩ :=
    exists_rdropWhile_append ('C' :: 'N' :: '=' :: (value ++ tail))
  rw [show ('C' :: 'N' :: '=' :: (value ++ tail)).rdropWhile isWhitespace =
    value from heq] at hsplit
  have hcount := congrArg (countP fun c ↦ !isWhitespace c) hsplit
  have hnone : countP (fun c ↦ !isWhitespace c) spaces = 0 := countP_eq_zero.mpr fun c hc ↦
    by simp [hspaces c hc]
  have hlabel (c : Char) (hc : isWhitespace c = false) (rest : Text) :
      countP (fun c ↦ !isWhitespace c) (c :: rest) = countP (fun c ↦ !isWhitespace c) rest + 1 :=
    countP_cons_of_pos (by simp [hc])
  rw [hlabel _ (by decide), hlabel _ (by decide), hlabel _ (by decide), countP_append,
    countP_append, hnone] at hcount
  omega

lemma subjectCn_eq_iff {subject : List (Text × Text)} {request : CertificationRequest}
    (htext : request.subjectText = String.ofList (displaySubject subject))
    (htypes : ∀ entry ∈ subject, PlainType entry.1)
    (hname : subject.filter (fun entry ↦ entry.1 == "CN".toList) = [("CN".toList, value)]) :
    subjectCn request = String.ofList value ↔ FoundFirst value subject := by
  cases subject with
  | nil => cases hname
  | cons entry others =>
    obtain ⟨type, first⟩ := entry
    have htype : PlainType type := htypes _ mem_cons_self
    have hinj {one two : Text} : String.ofList one = String.ofList two ↔ one = two :=
      ⟨fun hsame ↦ String.ofList_injective hsame, congrArg _⟩
    rw [subjectCn_typed htype htext, hinj, FoundFirst]
    by_cases hcn : type = "CN".toList
    · subst hcn
      -- the attribute is the common name, so the first value is the one that is asked for
      obtain rfl : first = value := by
        rw [filter_cons_of_pos (by simp), cons.injEq, Prod.mk.injEq] at hname
        exact hname.1.2
      have hstrip : trimStartMatchesCn ("CN".toList ++ '=' :: first.takeWhile (· ≠ ',')) =
          trimStartMatchesCn (first.takeWhile (· ≠ ',')) := rfl
      obtain ⟨tail, hdisplay, -⟩ := displaySubject_cons "CN".toList first others
      rw [if_pos rfl, hstrip]
      split_ifs with hsome
      · constructor
        · intro hkept
          exact plainName_of_trim_eq (hkept ▸ hsome) hkept
        · exact PlainName.trim_eq
      · rw [hdisplay]
        exact iff_of_false (trim_displayed_ne first tail) fun hplain ↦
          hsome (hplain.trim_eq.symm ▸ hplain.ne_nil)
    · have hlabel : ¬ ['C', 'N', '='] <+: type ++ '=' :: first.takeWhile (· ≠ ',') := by
        rintro ⟨rest, hrest⟩
        have hclear (c : Char) (hc : c ∈ type) : decide (c ≠ '=') = true :=
          decide_eq_true (htype.plain c hc).2.2
        have hcut := congrArg (takeWhile (· ≠ '=')) hrest
        rw [takeWhile_append_of_pos hclear, takeWhile_cons_of_neg (by decide), append_nil] at hcut
        exact hcn hcut.symm
      rw [if_neg hcn, trimStartMatchesCn_of_not_prefix hlabel,
        if_pos (ne_nil_of_mem (mem_trim_typed htype _))]

lemma FoundFirst.ne_nil {subject : List (Text × Text)} (hfound : FoundFirst value subject)
    (htypes : ∀ entry ∈ subject, PlainType entry.1) : value ≠ [] := by
  cases subject with
  | nil => cases hfound
  | cons entry others =>
    rw [FoundFirst] at hfound
    split_ifs at hfound with hcn
    · exact hfound.ne_nil
    · exact hfound ▸ ne_nil_of_mem (mem_trim_typed (htypes _ mem_cons_self) _)

/-- The common name becomes the default name exactly where it stands first and is plain, or the
first attribute is displayed as its value. -/
theorem default_san_is_commonName_iff {csrInput : Bytes} {request : CertificationRequest}
    {subject : List (Text × Text)}
    (hparse : parseCsr library csrInput = .ok request)
    (htext : request.subjectText = String.ofList (displaySubject subject))
    (htypes : ∀ entry ∈ subject, PlainType entry.1)
    (hname : subject.filter (fun entry ↦ entry.1 == "CN".toList) = [("CN".toList, value)]) :
    (extractCsrSubjectCn library csrInput = .ok (String.ofList value) ∧
      ∀ now random validitySeconds profile certificate, profile.sans = [] →
      profile.includeSan = true →
        signer.signCsrWithProfileAndSeconds sm2 sm3 library now random csrInput validitySeconds
        profile = .ok certificate →
        certificate.tbs.sans = [.dnsName (String.ofList value)]) ↔ FoundFirst value subject := by
  have hextract : extractCsrSubjectCn library csrInput = .ok (String.ofList value) ↔
      FoundFirst value subject := by
    rw [extractCsrSubjectCn, hparse, ok_bind, Except.ok.injEq, subjectCn_eq_iff htext htypes hname]
  rw [hextract]
  refine and_iff_left_of_imp fun hfound now random validitySeconds profile certificate hsans
    hinclude hsign ↦ ?_
  obtain ⟨-, request, -, htbs⟩ := tbs_of_sign hsign
  have hnonempty : String.ofList value ≠ "" := by simpa [String.ext_iff] using hfound.ne_nil htypes
  rw [htbs, sans_tbsCertificate _ _ _ _ _ _ hinclude, csrSans, if_neg (not_not.mpr hsans),
    hextract.mpr hfound]
  simp only [hnonempty, if_false]

def requestLibraryFor (subject : List (Text × Text)) : CaLibrary :=
  { requestLibrary with
    csrFromDer := fun _ ↦
      .ok { sampleRequest with subjectText := String.ofList (displaySubject subject) } }

theorem commonName_first_kept :
    extractCsrSubjectCn (requestLibraryFor [("CN".toList, "a.test".toList),
    ("O".toList, "Acme".toList)]) [] =
      .ok "a.test" := by
  have hplain : ∀ entry ∈ [("CN".toList, "a.test".toList), ("O".toList, "Acme".toList)],
      PlainType entry.1 := by
    intro entry hentry
    simp only [mem_cons, not_mem_nil, or_false] at hentry
    rcases hentry with rfl | rfl <;> exact ⟨by decide, by simp [isWhitespace]⟩
  exact ((@default_san_is_commonName_iff _ _ _ _ _ sampleCurve tinySm3 _ sampleSigner
    "a.test".toList _ _ _ rfl rfl
    hplain rfl).mpr ⟨by decide, by decide, by decide, by decide⟩).1

/-- The organisation stands first and is taken for the common name, with the name of its type. -/
theorem organisation_taken_for_name :
    extractCsrSubjectCn (requestLibraryFor [("O".toList, "Acme".toList),
      ("CN".toList, "a.test".toList)]) [] = .ok "O=Acme" ∧
    csrSans (requestLibraryFor [("O".toList, "Acme".toList), ("CN".toList, "a.test".toList)])
      [] .default =
      [.dnsName "O=Acme"] := by
  decide +kernel

end GmStack.Ca
