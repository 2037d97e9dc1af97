import GmStack.Tls.Messages

/-! `from_bytes` undoes `to_bytes` on hello messages, session tickets and some unknown extensions
apart. -/

namespace GmStack.Tls

open Foundation Crypto List

def decodeExtension {α : Type} (decode : UInt16 → Bytes → α) (input : Bytes) :
    Except TlsError α := do
  let (extType, extData) ← splitExtension input
  .ok (decode extType extData)

/-- The octets of a text, which a lossy decoding leaves as they are. -/
def IsText (octets : Bytes) : Prop := utf8Lossy octets = octets

instance (octets : Bytes) : Decidable (IsText octets) := inferInstanceAs (Decidable (_ = _))

lemma readU16_u16Octets (value : UInt16) (rest : Bytes) :
    readU16 (u16Octets value ++ rest) = value := by
  have hlen : (u16Octets value).length = 2 := length_beOctets _ _
  rw [readU16, take_append_of_le_length hlen.ge, take_of_length_le hlen.le, u16Octets,
    beNat_beOctets (by exact value.toNat_lt)]
  exact UInt16.ofNat_toNat

variable (values : List UInt16)

lemma length_flatMap_u16Octets : (values.flatMap u16Octets).length = values.length * 2 := by
  induction values with
  | nil => rfl
  | cons value values ih =>
    rw [flatMap_cons, length_append, ih, u16Octets, length_beOctets, length_cons]
    omega

lemma drop_flatMap_u16Octets (count : ℕ) :
    (values.flatMap u16Octets).drop (2 * count) = (values.drop count).flatMap u16Octets := by
  induction count generalizing values with
  | zero => rfl
  | succ count ih =>
    cases values with
    | nil => simp
    | cons value values =>
      rw [flatMap_cons, drop_succ_cons, ← ih, Nat.mul_succ, Nat.add_comm, ← drop_drop]
      have hlen : (u16Octets value).length = 2 := length_beOctets _ _
      rw [drop_append_of_le_length hlen.ge, drop_of_length_le hlen.le, nil_append]

lemma parseU16List_flatMap : ClientHelloExtension.parseU16List (values.flatMap u16Octets) =
    values := by
  rw [ClientHelloExtension.parseU16List, length_flatMap_u16Octets, Nat.mul_div_cancel _ (by decide)]
  refine ext_getElem (by simp) fun index hindex hbound ↦ ?_
  rw [getElem_map, getElem_range, drop_flatMap_u16Octets, drop_eq_getElem_cons hbound, flatMap_cons,
    readU16_u16Octets]

/-! ### Extensions -/

section ExtensionBytes

variable (extType : UInt16) (data rest : Bytes)

lemma length_extensionBytes : (extensionBytes extType data).length = 4 + data.length := by
  rw [extensionBytes, length_append, length_lengthThen, u16Octets, length_beOctets, ← Nat.add_assoc]

lemma drop_two_extensionBytes : (extensionBytes extType data ++ rest).drop 2 = lengthThen 2 data ++
    rest := by
  have htype : (u16Octets extType).length = 2 := length_beOctets _ _
  rw [extensionBytes, append_assoc, drop_append_of_le_length htype.ge, drop_of_length_le htype.le,
    nil_append]

lemma drop_extensionBytes : (extensionBytes extType data ++ rest).drop (2 + 2) = data ++ rest := by
  rw [← drop_drop, drop_two_extensionBytes, drop_lengthThen]

variable {data}

lemma beNat_extensionBytes (hlen : data.length < 256 ^ 2) :
    beNat (((extensionBytes extType data ++ rest).drop 2).take 2) = data.length := by
  rw [drop_two_extensionBytes, beNat_take_lengthThen hlen]

end ExtensionBytes

namespace ClientHelloExtension

def wireType : ClientHelloExtension → UInt16
  | .alpn _ => extTypeAlpn
  | .sni _ => extTypeServerName
  | .keyShare _ => extTypeKeyShare
  | .sessionTicket _ => extTypeSessionTicket
  | .supportedVersions _ => extTypeSupportedVersions
  | .signatureAlgorithms _ => extTypeSignatureAlgorithms
  | .unknown extType _ => extType

def wireData : ClientHelloExtension → Bytes
  | .alpn protocols => lengthThen 2 (protocols.flatMap fun proto ↦ lengthThen 1 proto)
  | .sni hostname => lengthThen 2 (0x00 :: lengthThen 2 hostname)
  | .keyShare key => lengthThen 2 (u16Octets sm2Group ++ lengthThen 2 key)
  | .sessionTicket ticket => lengthThen 2 ticket
  | .supportedVersions version => 2 :: version.bytes
  | .signatureAlgorithms algorithms => lengthThen 2 (algorithms.flatMap u16Octets)
  | .unknown _ data => data

lemma toBytes_eq (ext : ClientHelloExtension) :
    ext.toBytes = extensionBytes ext.wireType ext.wireData := by
  cases ext <;> rfl

/-- The texts of an extension are texts, and its fields fit their length fields. -/
def Fits (ext : ClientHelloExtension) : Prop :=
  ext.wireData.length < 2 ^ 16 ∧ match ext with
    | .alpn protocols => ∀ proto ∈ protocols, proto.length < 2 ^ 8 ∧ IsText proto
    | .sni hostname => IsText hostname
    | _ => True

/-- Data of the form that its type asks for. -/
def Recognised (extType : UInt16) (data : Bytes) : Prop :=
  if extType = extTypeAlpn then HasList data
  else if extType = extTypeServerName then HasList data
  else if extType = extTypeKeyShare then HasList data ∧ 4 ≤ beNat (data.take 2) ∧
    4 + beNat (((listOf data).drop 2).take 2) ≤ (listOf data).length
  else if extType = extTypeSessionTicket then True
  else if extType = extTypeSupportedVersions then ∃ major minor rest, data = 2 ::
    major :: minor :: rest
  else extType = extTypeSignatureAlgorithms ∧ HasList data ∧ beNat (data.take 2) % 2 = 0

lemma decode_eq_unknown_iff (extType : UInt16) (data : Bytes) :
    decode extType data = .unknown extType data ↔ ¬ Recognised extType data := by
  by_cases halpn : extType = extTypeAlpn
  · subst halpn
    simp [decode_alpn, Recognised]
  by_cases hname : extType = extTypeServerName
  · subst hname
    simp [decode_serverName, Recognised, halpn]
  by_cases hkey : extType = extTypeKeyShare
  · subst hkey
    simp [decode_keyShare, Recognised, halpn, hname]
  by_cases halgorithms : extType = extTypeSignatureAlgorithms
  · subst halgorithms
    simp [decode_signatureAlgorithms, Recognised, halpn, hname, hkey,
      show extTypeSignatureAlgorithms ≠ extTypeSessionTicket by decide,
      show extTypeSignatureAlgorithms ≠ extTypeSupportedVersions by decide]
  simp only [decode, Recognised, halpn, hname, hkey, halgorithms, if_false, false_and]
  split_ifs
  · simp
  · split <;> simp_all
  · simp

/-- An extension that is read back: not a session ticket, and if it is kept as it came, then its
data is not of the form that its type asks for. -/
def ReadBack : ClientHelloExtension → Prop
  | .sessionTicket _ => False
  | .unknown extType data => ¬ Recognised extType data
  | _ => True

lemma hasList_lengthThen {list : Bytes} (hlen : list.length < 2 ^ 16) :
    HasList (lengthThen 2 list) := by
  refine ⟨by simp, ?_⟩
  rw [beNat_take_lengthThen_self hlen]
  simp

lemma listOf_lengthThen {list : Bytes} (hlen : list.length < 2 ^ 16) :
    listOf (lengthThen 2 list) = list := by
  rw [listOf, beNat_take_lengthThen_self hlen, drop_lengthThen_self, take_length]

lemma parseProtocols_flatMap {protocols : List Bytes}
    (hprotocols : ∀ proto ∈ protocols, proto.length < 2 ^ 8 ∧ IsText proto) {fuel : ℕ}
    (hfuel : (protocols.flatMap fun proto ↦ lengthThen 1 proto).length ≤ fuel) :
    parseProtocols fuel (protocols.flatMap fun proto ↦ lengthThen 1 proto) = protocols := by
  induction protocols generalizing fuel with
  | nil => cases fuel <;> rfl
  | cons proto protocols ih =>
    obtain ⟨⟨hlen, htext⟩, hrest⟩ := forall_mem_cons.mp hprotocols
    obtain ⟨nameLen, hname, hcount⟩ := exists_lengthThen_one hlen
    rw [flatMap_cons, hname, cons_append] at hfuel ⊢
    rw [length_cons, length_append] at hfuel
    obtain ⟨fuel, rfl⟩ :=
      Nat.exists_eq_succ_of_ne_zero (Nat.ne_of_gt (Nat.lt_of_lt_of_le (Nat.succ_pos _) hfuel))
    rw [parseProtocols, hcount, if_neg (by rw [length_append]; omega), take_left, drop_left,
      ih hrest (by omega)]
    rw [show utf8Lossy proto = proto from htext]

lemma parseServerNames_cons {hostname : Bytes} (hlen : hostname.length < 2 ^ 16)
    (htext : IsText hostname)
    (fuel : ℕ) (other : Bytes) : parseServerNames (fuel + 1) (0x00 :: lengthThen 2 hostname) other =
    hostname := by
  have htotal : (0x00 :: lengthThen 2 hostname).length = 3 + hostname.length := by
    rw [length_cons, length_lengthThen]
    omega
  have hhead : (0x00 :: lengthThen 2 hostname).head? = some 0x00 := rfl
  rw [parseServerNames, if_neg (by rw [htotal]; omega)]
  rw [drop_succ_cons, drop_zero, beNat_take_lengthThen_self hlen,
    if_neg (by rw [htotal]; omega), if_pos hhead, drop_succ_cons, drop_lengthThen_self, take_length,
    show utf8Lossy hostname = hostname from htext, drop_of_length_le htotal.le]
  cases fuel <;> rfl

variable {ext : ClientHelloExtension}

lemma decode_wire (hfits : ext.Fits) (hreadBack : ext.ReadBack) :
    decode ext.wireType ext.wireData = ext := by
  obtain ⟨hlen, htexts⟩ := hfits
  cases ext with
  | alpn protocols =>
    have hlist : (protocols.flatMap fun proto ↦ lengthThen 1 proto).length < 2 ^ 16 := by
      simp only [wireData, length_lengthThen] at hlen
      omega
    rw [wireType, wireData, decode_alpn, if_pos (hasList_lengthThen hlist), listOf_lengthThen hlist,
      parseProtocols_flatMap htexts le_rfl]
  | sni hostname =>
    have hlist : (0x00 :: lengthThen 2 hostname).length < 2 ^ 16 := by
      simp only [wireData, length_lengthThen] at hlen
      omega
    have hname : hostname.length < 2 ^ 16 := by
      simp only [length_cons, length_lengthThen] at hlist
      omega
    rw [wireType, wireData, decode_serverName, if_pos (hasList_lengthThen hlist),
      listOf_lengthThen hlist,
      length_cons, parseServerNames_cons hname htexts]
  | keyShare key =>
    have hlist : (extensionBytes sm2Group key).length < 2 ^ 16 := by
      simp only [wireData, length_lengthThen] at hlen
      exact lt_of_le_of_lt (Nat.le_add_left _ _) hlen
    have hwhole := length_extensionBytes sm2Group key
    have hann := length_listOf (hasList_lengthThen hlist)
    have hcount := beNat_extensionBytes sm2Group [] (show key.length < 256 ^ 2 by omega)
    have hkey := drop_extensionBytes sm2Group key []
    rw [append_nil] at hcount hkey
    rw [listOf_lengthThen hlist, hwhole] at hann
    rw [wireType, show wireData (.keyShare key) =
      lengthThen 2 (extensionBytes sm2Group key) from rfl,
      decode_keyShare, listOf_lengthThen hlist, hcount,
      if_pos ⟨hasList_lengthThen hlist, by omega, hwhole.ge⟩, hkey, append_nil, take_length]
  | sessionTicket ticket => exact hreadBack.elim
  | supportedVersions version =>
    obtain ⟨bytes, hbytes⟩ := version
    match bytes, hbytes with
    | [major, minor], _ => rfl
  | signatureAlgorithms algorithms =>
    have hlist : (algorithms.flatMap u16Octets).length < 2 ^ 16 := by
      simp only [wireData, length_lengthThen] at hlen
      omega
    have hcount := length_listOf (hasList_lengthThen hlist)
    rw [listOf_lengthThen hlist, length_flatMap_u16Octets] at hcount
    rw [wireType, wireData, decode_signatureAlgorithms, if_pos ⟨hasList_lengthThen hlist, by omega⟩,
      listOf_lengthThen hlist, parseU16List_flatMap]
  | unknown extType data => exact (decode_eq_unknown_iff extType data).mpr hreadBack

lemma decode_wire_iff (hfits : ext.Fits) : decode ext.wireType ext.wireData = ext ↔
    ext.ReadBack := by
  refine ⟨fun hdec ↦ ?_, decode_wire hfits⟩
  cases ext with
  | sessionTicket ticket =>
    -- the length of the ticket has become a part of it
    have hlen := congrArg length (sessionTicket.inj hdec)
    rw [wireData, length_lengthThen] at hlen
    omega
  | unknown extType data => exact (decode_eq_unknown_iff extType data).mp hdec
  | _ => trivial

lemma consumedBytes_eq (ext : ClientHelloExtension) :
    ext.consumedBytes = 4 + ext.wireData.length := by
  cases ext with
  | alpn protocols =>
    have hnames : (protocols.flatMap fun proto ↦ lengthThen 1 proto).length =
        (protocols.map fun proto ↦ 1 + proto.length).sum := by
      simp [length_flatMap]
    rw [consumedBytes, wireData, length_lengthThen, hnames]
  | sni hostname =>
    rw [consumedBytes, wireData, length_lengthThen, length_cons, length_lengthThen]
    omega
  | keyShare key =>
    rw [consumedBytes, wireData, length_lengthThen, length_append, length_lengthThen, u16Octets,
      length_beOctets]
    omega
  | sessionTicket ticket => rw [consumedBytes, wireData, length_lengthThen]
  | supportedVersions version => rw [consumedBytes, wireData, length_cons, version.length_bytes]
  | signatureAlgorithms algorithms =>
    rw [consumedBytes, wireData, length_lengthThen, length_flatMap_u16Octets]
  | unknown extType data => rfl

end ClientHelloExtension

namespace ServerHelloExtension

def wireType : ServerHelloExtension → UInt16
  | .alpn _ => extTypeAlpn
  | .keyShare _ => extTypeKeyShare
  | .unknown extType _ => extType

def wireData : ServerHelloExtension → Bytes
  | .alpn proto => lengthThen 1 proto
  | .keyShare key => u16Octets sm2Group ++ lengthThen 2 key
  | .unknown _ data => data

lemma toBytes_eq (ext : ServerHelloExtension) :
    ext.toBytes = extensionBytes ext.wireType ext.wireData := by
  cases ext <;> rfl

/-- The texts of an extension are texts, and its fields fit their length fields. -/
def Fits (ext : ServerHelloExtension) : Prop :=
  ext.wireData.length < 2 ^ 16 ∧ match ext with
    | .alpn proto => proto.length < 2 ^ 8 ∧ IsText proto
    | _ => True

/-- Data of the form that its type asks for. -/
def Recognised (extType : UInt16) (data : Bytes) : Prop :=
  if extType = extTypeAlpn then ∃ nameLen rest, data = nameLen :: rest ∧ nameLen.toNat ≤ rest.length
  else extType = extTypeKeyShare ∧ 4 + beNat ((data.drop 2).take 2) ≤ data.length

lemma decode_eq_unknown_iff (extType : UInt16) (data : Bytes) :
    decode extType data = .unknown extType data ↔ ¬ Recognised extType data := by
  unfold decode Recognised
  split_ifs <;> simp_all
  split <;> simp_all

def ReadBack : ServerHelloExtension → Prop
  | .unknown extType data => ¬ Recognised extType data
  | _ => True

lemma decode_wire_iff {ext : ServerHelloExtension} (hfits : ext.Fits) :
    decode ext.wireType ext.wireData = ext ↔ ext.ReadBack := by
  obtain ⟨hlen, htexts⟩ := hfits
  cases ext with
  | alpn proto =>
    obtain ⟨hname, htext⟩ := htexts
    obtain ⟨nameLen, hwire, hcount⟩ := exists_lengthThen_one hname
    rw [wireType, wireData, hwire, decode_alpn_cons, hcount, if_pos le_rfl, take_length,
      show utf8Lossy proto = proto from htext]
    exact iff_of_true rfl trivial
  | keyShare key =>
    have hwhole := length_extensionBytes sm2Group key
    have hwire : wireData (.keyShare key) = extensionBytes sm2Group key := rfl
    rw [hwire, hwhole] at hlen
    have hcount := beNat_extensionBytes sm2Group [] (show key.length < 256 ^ 2 by omega)
    have hkey := drop_extensionBytes sm2Group key []
    rw [append_nil] at hcount hkey
    rw [wireType, hwire, decode_keyShare, hcount, if_pos hwhole.ge, hkey, append_nil, take_length]
    exact iff_of_true rfl trivial
  | unknown extType data => exact decode_eq_unknown_iff extType data

lemma consumedBytes_eq (ext : ServerHelloExtension) :
    ext.consumedBytes = 4 + ext.wireData.length := by
  cases ext with
  | alpn proto => rw [consumedBytes, wireData, length_lengthThen]
  | keyShare key =>
    rw [consumedBytes, wireData, length_append, length_lengthThen, u16Octets, length_beOctets]
    omega
  | unknown extType data => rfl

end ServerHelloExtension

lemma splitExtension_extensionBytes (extType : UInt16) {data : Bytes} (hlen : data.length < 2 ^ 16)
    (rest : Bytes) : splitExtension (extensionBytes extType data ++ rest) =
    .ok (extType, data) := by
  have hwhole : (extensionBytes extType data ++ rest).length = 4 + data.length + rest.length := by
    rw [length_append, length_extensionBytes]
  have htype : readU16 (extensionBytes extType data ++ rest) = extType := by
    rw [extensionBytes, append_assoc, readU16_u16Octets]
  rw [splitExtension, rejectIf_bind (by rw [hwhole]; omega)]
  rw [beNat_extensionBytes extType rest hlen, rejectIf_bind (by rw [hwhole]; omega),
    drop_extensionBytes, htype, take_left]

section Block

variable {α : Type} (decode : UInt16 → Bytes → α) (consumedBytes : α → ℕ) (wireType : α → UInt16)
  (wireData : α → Bytes)

lemma parseExtensions_eq_ok_iff (hconsumed : ∀ ext, consumedBytes ext = 4 + (wireData ext).length)
    {extensions : List α} (hlens : ∀ ext ∈ extensions, (wireData ext).length < 2 ^ 16) {fuel : ℕ}
    (hfuel : (extensions.flatMap fun ext ↦ extensionBytes (wireType ext) (wireData ext)).length ≤
    fuel) :
    parseExtensions (decodeExtension decode) consumedBytes fuel
        (extensions.flatMap fun ext ↦ extensionBytes (wireType ext) (wireData ext)) =
        .ok extensions ↔
      ∀ ext ∈ extensions, decode (wireType ext) (wireData ext) = ext := by
  induction extensions generalizing fuel with
  | nil =>
    refine iff_of_true ?_ (by simp)
    cases fuel <;> rfl
  | cons ext extensions ih =>
    obtain ⟨hlen, hlens⟩ := forall_mem_cons.mp hlens
    have hwire := length_extensionBytes (wireType ext) (wireData ext)
    rw [flatMap_cons] at hfuel ⊢
    generalize hrest : (extensions.flatMap fun ext ↦ extensionBytes (wireType ext) (wireData ext)) =
      rest at *
    rw [length_append, hwire] at hfuel
    obtain ⟨fuel, rfl⟩ := Nat.exists_eq_succ_of_ne_zero (show fuel ≠ 0 by omega)
    have hdec : decodeExtension decode (extensionBytes (wireType ext) (wireData ext) ++ rest) =
        .ok (decode (wireType ext) (wireData ext)) := by
      rw [decodeExtension, splitExtension_extensionBytes _ hlen, ok_bind]
    obtain ⟨octet, tail, htail⟩ := exists_cons_of_ne_nil (show extensionBytes (wireType ext)
      (wireData ext) ++ rest ≠ [] from
        ne_nil_of_length_pos (by rw [length_append, hwire]; omega))
    rw [htail, parseExtensions, ← htail, hdec, ok_bind, forall_mem_cons]
    -- an extension that is decoded to itself is stepped over exactly
    have hstep (hself : decode (wireType ext) (wireData ext) = ext) :
      ¬consumedBytes (decode (wireType ext) (wireData ext)) >
            (extensionBytes (wireType ext) (wireData ext) ++ rest).length ∧
          (extensionBytes (wireType ext) (wireData ext) ++ rest).drop
            (consumedBytes (decode (wireType ext) (wireData ext))) = rest := by
      rw [hself, hconsumed, length_append, hwire]
      refine ⟨by omega, ?_⟩
      rw [← hwire, drop_left]
    constructor
    · intro hparse
      obtain ⟨hinside, hparse⟩ := unit_bind_eq_ok.mp hparse
      obtain ⟨others, hothers, hsame⟩ := bind_eq_ok.mp hparse
      obtain ⟨hself, rfl⟩ := cons.inj (Except.ok.inj hsame)
      rw [(hstep hself).2] at hothers
      exact ⟨hself, (ih hlens (by omega)).mp hothers⟩
    rintro ⟨hself, hothers⟩
    obtain ⟨hinside, hdrop⟩ := hstep hself
    rw [rejectIf_bind hinside, hdrop, (ih hlens (by omega)).mpr hothers, ok_bind, hself]

lemma parseExtensionBlock_lengthThen {block : Bytes} (hlen : block.length < 2 ^ 16) :
    parseExtensionBlock (decodeExtension decode) consumedBytes (lengthThen 2 block) =
      parseExtensions (decodeExtension decode) consumedBytes block.length block := by
  have hsome : lengthThen 2 block ≠ [] := cons_ne_nil _ _
  have htake : takeExact 2 (TlsError.parseError "truncated extensions") (lengthThen 2 block) =
      .ok (⟨beOctets 2 block.length, length_beOctets _ _⟩, block) := takeExact_eq_ok.mpr rfl
  rw [parseExtensionBlock, if_neg hsome, htake, ok_bind]
  dsimp only
  rw [beNat_beOctets (by exact hlen), rejectIf_bind (by omega), take_length]

lemma block_roundTrip_iff {Hello : Type} (extensionsOf : Hello → List α) (note : List α → Hello)
    {hello : Hello}
    {toBytes : α → Bytes} (htoBytes : ∀ ext, toBytes ext = extensionBytes (wireType ext)
    (wireData ext))
    (hconsumed : ∀ ext, consumedBytes ext = 4 + (wireData ext).length)
    (hlens : ∀ ext ∈ extensionsOf hello, (wireData ext).length < 2 ^ 16)
    (hblock : ((extensionsOf hello).flatMap toBytes).length < 2 ^ 16)
    (hkept : ∀ extensions, extensionsOf (note extensions) = extensions)
    (hderived : note (extensionsOf hello) = hello) : (do
      let extensions ← parseExtensionBlock (decodeExtension decode) consumedBytes
        (lengthThen 2 ((extensionsOf hello).flatMap toBytes))
      .ok (note extensions)) = Except.ok hello ↔ ∀ ext ∈ extensionsOf hello, decode (wireType ext)
      (wireData ext) = ext := by
  have hparse := parseExtensions_eq_ok_iff decode consumedBytes wireType wireData
    hconsumed hlens le_rfl
  rw [← flatMap_congr fun ext _ ↦ htoBytes ext,
    ← parseExtensionBlock_lengthThen _ _ hblock] at hparse
  rw [← hparse]
  constructor
  · intro hok
    obtain ⟨extensions, hextensions, hsame⟩ := bind_eq_ok.mp hok
    rw [hextensions, ← Except.ok.inj hsame, hkept]
  · intro hok
    exact bind_eq_ok.mpr ⟨_, hok, congrArg Except.ok hderived⟩

end Block

/-! ### Hello messages -/

lemma parseSessionId_lengthThen (truncated : TlsError) {sessionId : Bytes}
    (hlen : sessionId.length ≤ 32)
    (rest : Bytes) : parseSessionId truncated (lengthThen 1 sessionId ++ rest) =
    .ok (sessionId, rest) := by
  obtain ⟨sidLen, hwire, hcount⟩ := exists_lengthThen_one (show sessionId.length < 256 ^ 1 by omega)
  rw [hwire, cons_append, parseSessionId, hcount, rejectIf_bind (by rw [length_append]; omega),
    take_left, drop_left]

namespace ClientHello

def head (hello : ClientHello) : ClientHello :=
  { hello with extensions := [], sessionTicket := none, ephPubkey := [], alpn := [], sni := none }

/-- The fields behind the extensions are those the extensions imply. -/
def Derived (deserializeTicket : Bytes → Except String SessionTicket)
    (hello : ClientHello) : Prop :=
  hello.extensions.foldl (noteExtension deserializeTicket)
    { hello.head with extensions := hello.extensions } = hello

/-- The session identifier has at most 32 octets, and every other field fits its length field. -/
structure Fits (hello : ClientHello) : Prop where
  sessionId : hello.sessionId.length ≤ 32
  cipherSuites : hello.cipherSuites.length * 2 < 2 ^ 16
  compressionMethods : hello.compressionMethods.length < 2 ^ 8
  extensions : ∀ ext ∈ hello.extensions, ext.Fits
  block : (hello.extensions.flatMap ClientHelloExtension.toBytes).length < 2 ^ 16

lemma extensions_foldl_noteExtension (deserializeTicket : Bytes → Except String SessionTicket)
    (extensions : List ClientHelloExtension) (hello : ClientHello) :
    (extensions.foldl (noteExtension deserializeTicket) hello).extensions = hello.extensions := by
  induction extensions generalizing hello with
  | nil => rfl
  | cons ext extensions ih =>
    rw [foldl_cons, ih]
    cases ext <;> rfl

variable {hello : ClientHello} (hfits : hello.Fits)

include hfits

lemma parseHead_toBytes : parseHead hello.toBytes =
      .ok (hello.head, lengthThen 2 (hello.extensions.flatMap ClientHelloExtension.toBytes)) := by
  have hsuites : (hello.cipherSuites.flatMap u16Octets).length < 256 ^ 2 :=
    (length_flatMap_u16Octets _).trans_lt hfits.cipherSuites
  rw [parseHead, toBytes]
  simp only [append_assoc]
  rw [takeExact_append, ok_bind, takeExact_append, ok_bind,
    parseSessionId_lengthThen _ hfits.sessionId, ok_bind]
  generalize hblock : lengthThen 2 (hello.extensions.flatMap ClientHelloExtension.toBytes) = block
  have htakeSuites : takeExact 2 (TlsError.parseError "truncated cipher_suites")
      (lengthThen 2 (hello.cipherSuites.flatMap u16Octets) ++
      (lengthThen 1 hello.compressionMethods ++ block)) =
        .ok (⟨beOctets 2 (hello.cipherSuites.flatMap u16Octets).length, length_beOctets _ _⟩,
          hello.cipherSuites.flatMap u16Octets ++
          (lengthThen 1 hello.compressionMethods ++ block)) :=
    takeExact_eq_ok.mpr (append_assoc _ _ _)
  have htakeMethods : takeExact 1 (TlsError.parseError "truncated compression")
      (lengthThen 1 hello.compressionMethods ++ block) =
        .ok (⟨beOctets 1 hello.compressionMethods.length, length_beOctets _ _⟩,
        hello.compressionMethods ++ block) :=
    takeExact_eq_ok.mpr (append_assoc _ _ _)
  rw [htakeSuites, ok_bind]
  have heven : (hello.cipherSuites.flatMap u16Octets).length % 2 = 0 := by
    rw [length_flatMap_u16Octets, Nat.mul_mod_left]
  rw [beNat_beOctets hsuites, rejectIf_bind (by rw [length_append]; omega), drop_left,
    take_left, htakeMethods, ok_bind, parseU16List_flatMap]
  rw [beNat_beOctets (show hello.compressionMethods.length < 256 ^ 1 from hfits.compressionMethods),
    rejectIf_bind (by rw [length_append]; omega), drop_left, take_left]
  rfl

lemma roundTrip_iff {deserializeTicket : Bytes → Except String SessionTicket}
    (hderived : hello.Derived deserializeTicket) :
    fromBytes deserializeTicket hello.toBytes = .ok hello ↔ ∀ ext ∈ hello.extensions,
    ext.ReadBack := by
  rw [fromBytes, parseHead_toBytes hfits, ok_bind]
  refine (block_roundTrip_iff ClientHelloExtension.decode _ _ _ extensions
    (fun extensions ↦ extensions.foldl (noteExtension deserializeTicket)
    { hello.head with extensions })
    ClientHelloExtension.toBytes_eq ClientHelloExtension.consumedBytes_eq (fun ext hmem ↦
      (hfits.extensions ext hmem).1) hfits.block
    (fun extensions ↦ extensions_foldl_noteExtension _ _ _) hderived).trans ?_
  exact forall₂_congr fun ext hmem ↦ ClientHelloExtension.decode_wire_iff
    (hfits.extensions ext hmem)

end ClientHello

namespace ServerHello

def head (hello : ServerHello) : ServerHello :=
  { hello with
    extensions := [], ephPubkey := [], alpn := none, certChainPem := []
    requireClientAuth := false }

/-- The fields behind the extensions are those the extensions imply. -/
def Derived (hello : ServerHello) : Prop :=
  hello.extensions.foldl noteExtension { hello.head with extensions := hello.extensions } = hello

/-- The session identifier has at most 32 octets, and the extensions fit their length fields. -/
structure Fits (hello : ServerHello) : Prop where
  sessionId : hello.sessionId.length ≤ 32
  extensions : ∀ ext ∈ hello.extensions, ext.Fits
  block : (hello.extensions.flatMap ServerHelloExtension.toBytes).length < 2 ^ 16

lemma extensions_foldl_noteExtension (extensions : List ServerHelloExtension)
    (hello : ServerHello) :
    (extensions.foldl noteExtension hello).extensions = hello.extensions := by
  induction extensions generalizing hello with
  | nil => rfl
  | cons ext extensions ih =>
    rw [foldl_cons, ih]
    cases ext <;> rfl

variable {hello : ServerHello} (hfits : hello.Fits)

include hfits

lemma parseHead_toBytes : parseHead hello.toBytes =
      .ok (hello.head, lengthThen 2 (hello.extensions.flatMap ServerHelloExtension.toBytes)) := by
  rw [parseHead, toBytes]
  simp only [append_assoc]
  rw [takeExact_append, ok_bind, takeExact_append, ok_bind,
    parseSessionId_lengthThen _ hfits.sessionId, ok_bind]
  generalize hblock : lengthThen 2 (hello.extensions.flatMap ServerHelloExtension.toBytes) = block
  have htakeSuite : takeExact 2 (TlsError.parseError "truncated cipher_suite")
      (u16Octets hello.cipherSuite ++ ([hello.compression] ++ block)) =
        .ok (⟨u16Octets hello.cipherSuite, length_beOctets _ _⟩, hello.compression :: block) :=
    takeExact_eq_ok.mpr rfl
  have hsuite := readU16_u16Octets hello.cipherSuite []
  rw [append_nil] at hsuite
  rw [htakeSuite, ok_bind]
  rw [hsuite]
  rfl

lemma roundTrip_iff (hderived : hello.Derived) :
    fromBytes hello.toBytes = .ok hello ↔ ∀ ext ∈ hello.extensions, ext.ReadBack := by
  rw [fromBytes, parseHead_toBytes hfits, ok_bind]
  refine (block_roundTrip_iff ServerHelloExtension.decode _ _ _ extensions
    (fun extensions ↦ extensions.foldl noteExtension { hello.head with extensions })
    ServerHelloExtension.toBytes_eq ServerHelloExtension.consumedBytes_eq (fun ext hmem ↦
      (hfits.extensions ext hmem).1) hfits.block
    (fun extensions ↦ extensions_foldl_noteExtension _ _) hderived).trans ?_
  exact forall₂_congr fun ext hmem ↦ ServerHelloExtension.decode_wire_iff
    (hfits.extensions ext hmem)

end ServerHello

/-- Hello messages are read back if and only if they hold no session ticket, and no unknown
extension whose type the decoder knows. -/
theorem hello_roundTrip_iff (deserializeTicket : Bytes → Except String SessionTicket)
    {client : ClientHello} (hclientFits : client.Fits)
    (hclientDerived : client.Derived deserializeTicket)
    {server : ServerHello} (hserverFits : server.Fits) (hserverDerived : server.Derived) :
    (ClientHello.fromBytes deserializeTicket client.toBytes = .ok client ↔
    ∀ ext ∈ client.extensions, ext.ReadBack) ∧
      (ServerHello.fromBytes server.toBytes = .ok server ↔ ∀ ext ∈ server.extensions,
      ext.ReadBack) :=
  ⟨ClientHello.roundTrip_iff hclientFits hclientDerived,
    ServerHello.roundTrip_iff hserverFits hserverDerived⟩

def sampleClientHello : ClientHello where
  version := .fill 2 3
  random := ⟨List.replicate 32 7, rfl⟩
  sessionId := [1, 2, 3]
  cipherSuites := [0x00c6, 0x00c7]
  compressionMethods := [0]
  extensions := [.unknown 0x1234 [9], .alpn [[0x68, 0x32], []], .sni [0x61], .keyShare [4, 5, 6],
    .supportedVersions ⟨[3, 4], rfl⟩, .signatureAlgorithms [0x0708, 0x0403]]
  sessionTicket := none
  ephPubkey := [4, 5, 6]
  alpn := [[0x68, 0x32], []]
  sni := some [0x61]

def sampleServerHello : ServerHello where
  version := .fill 2 3
  random := ⟨List.replicate 32 8, rfl⟩
  sessionId := []
  cipherSuite := 0x00c6
  compression := 0
  extensions := [.keyShare [4, 5, 6], .unknown 0x1234 [9], .alpn [0x68, 0x32]]
  ephPubkey := [4, 5, 6]
  alpn := some [0x68, 0x32]
  certChainPem := []
  requireClientAuth := false

lemma sampleClientHello_fits : sampleClientHello.Fits where
  sessionId := by decide
  cipherSuites := by decide
  compressionMethods := by decide
  extensions := by
    simp only [sampleClientHello, forall_mem_cons]
    refine ⟨⟨by decide, trivial⟩, ⟨by decide, by decide⟩, ⟨by decide, by decide⟩,
      ⟨by decide, trivial⟩,
      ⟨by decide, trivial⟩, ⟨by decide, trivial⟩, by simp⟩
  block := by decide

lemma sampleServerHello_fits : sampleServerHello.Fits where
  sessionId := by decide
  extensions := by
    simp only [sampleServerHello, forall_mem_cons]
    refine ⟨⟨by decide, trivial⟩, ⟨by decide, trivial⟩, ⟨by decide, by decide⟩, by simp⟩
  block := by decide

theorem samples_roundTrip :
    ClientHello.fromBytes (fun _ ↦ .error "not a ticket") sampleClientHello.toBytes =
    .ok sampleClientHello ∧
      ServerHello.fromBytes sampleServerHello.toBytes = .ok sampleServerHello := by
  have hsamples := hello_roundTrip_iff (fun _ ↦ .error "not a ticket") sampleClientHello_fits
    (by rfl)
    sampleServerHello_fits (by rfl)
  refine ⟨hsamples.1.mpr ?_, hsamples.2.mpr ?_⟩
  · simp only [sampleClientHello, forall_mem_cons]
    exact ⟨(ClientHelloExtension.decode_eq_unknown_iff _ _).mp rfl, trivial, trivial, trivial,
      trivial, trivial, by simp⟩
  · simp only [sampleServerHello, forall_mem_cons]
    exact ⟨trivial, (ServerHelloExtension.decode_eq_unknown_iff _ _).mp rfl, trivial, by simp⟩

def singleClientHello (ext : ClientHelloExtension) : ClientHello :=
  { sampleClientHello with extensions := [ext], ephPubkey := [], alpn := [], sni := none }

/-- A session ticket is read with the two octets of its length in front and then stepped over as if
those stood there twice. -/
theorem sessionTicket_not_read_back :
    let offering := singleClientHello (.sessionTicket [5])
    let keptName := singleClientHello (.unknown extTypeServerName [0, 4, 0, 0, 1, 0x61])
    (offering.Fits ∧ offering.Derived (fun _ ↦ .error "not a ticket") ∧
      ClientHello.fromBytes (fun _ ↦ .error "not a ticket") offering.toBytes =
        .error (.panicked "slice index out of range")) ∧
    keptName.Fits ∧ keptName.Derived (fun _ ↦ .error "not a ticket") ∧
      ClientHello.fromBytes (fun _ ↦ .error "not a ticket") keptName.toBytes =
        .ok { singleClientHello (.sni [0x61]) with sni := some [0x61] } := by
  refine ⟨⟨⟨by decide, by decide, by decide, ?_, by decide⟩, by rfl, by rfl⟩,
    ⟨by decide, by decide, by decide, ?_, by decide⟩, by rfl, by decide +kernel⟩
  all_goals
    simp only [singleClientHello, forall_mem_singleton]
    exact ⟨by decide, trivial⟩

end GmStack.Tls
