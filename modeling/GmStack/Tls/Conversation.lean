import GmStack.Foundation.Duplex
import GmStack.Tls.MiniProfile
import GmStack.Tls.RoundTrip

/-! What the two sides of a TLS 1.3 handshake put on the wire. -/

namespace GmStack.Tls

open Foundation Crypto X509 List ClientCertificate

variable {F P : Type} [CommRing F] [AddCommGroup P] [Module F P]

def handshakeRecord (version : Octets 2) (payload : Bytes) : Bytes :=
  0x16 :: version.bytes ++ beOctets 2 payload.length ++ payload

lemma handshakeRecord_inj {version other : Octets 2} {payload otherPayload rest otherRest : Bytes}
    (hpay : payload.length ≤ 65535) (hother : otherPayload.length ≤ 65535)
    (hsame : handshakeRecord version payload ++ rest = handshakeRecord other otherPayload ++
    otherRest) :
    payload = otherPayload ∧ rest = otherRest := by
  simp only [handshakeRecord, cons_append, append_assoc, cons.injEq, true_and] at hsame
  obtain ⟨-, hsame⟩ := append_inj hsame (version.length_bytes.trans other.length_bytes.symm)
  obtain ⟨hcount, hsame⟩ := append_inj hsame (by rw [length_beOctets, length_beOctets])
  have hlen : payload.length = otherPayload.length :=
    beOctets_injective (show payload.length < 256 ^ 2 by omega)
      (show otherPayload.length < 256 ^ 2 by omega) hcount
  exact append_inj hsame hlen

lemma exists_header {header : Bytes} (hlen : header.length = 5) (hhead : header.head? = some 0x16) :
    ∃ version : Octets 2, header = 0x16 :: version.bytes ++ beOctets 2 (beNat (header.drop 3)) := by
  rcases header with _ | ⟨kind, _ | ⟨major, _ | ⟨minor, _ | ⟨high, _ | ⟨low, _ | ⟨_, _⟩⟩⟩⟩⟩⟩ <;>
    simp at hlen
  obtain rfl := Option.some.inj hhead
  have hcount : beOctets 2 (beNat [high, low]) = [high, low] := beOctets_beNat [high, low]
  exact ⟨⟨[major, minor], rfl⟩, congrArg ([0x16, major, minor] ++ ·) hcount.symm⟩

section Records

variable {α : Type} {script : Script} {result : α} {data : Bytes}

lemma talks_writeHandshakeRecord (version : Octets 2) (hdata : data.length ≤ 65535) :
    Talks (writeHandshakeRecord data version) (sending (handshakeRecord version data)) () := by
  have hscript : sending (handshakeRecord version data) = sending [0x16] ++
    (sending version.bytes ++
      (sending (beOctets 2 data.length) ++ (sending data ++ []))) := by
    rw [handshakeRecord, append_nil, ← sending_append, ← sending_append, ← sending_append]
    simp
  rw [hscript]
  refine .check_bind (rejectIf_neg (Nat.not_lt.mpr hdata) _) ?_
  exact .bind (.writeAll _ _)
    (.bind (.writeAll _ _) (.bind (.writeAll _ _) (.bind (.writeAll _ _) (.record _))))

@[simp] lemma talks_writeHandshakeRecord_bind {version : Octets 2} {next : Unit → Handshake α} :
    Talks (writeHandshakeRecord data version >>= next) script result ↔ ∃ after,
    data.length ≤ 65535 ∧
      script = sending (handshakeRecord version data) ++ after ∧ Talks (next ()) after result := by
  rw [talks_bind_iff]
  constructor
  · rintro ⟨⟨⟩, before, after, rfl, hwrite, hnext⟩
    have hdata : data.length ≤ 65535 := by
      obtain ⟨_, hfits, -⟩ := talks_check_bind_iff.mp hwrite
      exact Nat.not_lt.mp (rejectIf_eq_ok.mp hfits)
    have hsame := (talks_writeHandshakeRecord version hdata).unique hwrite
      (show inbound (sending (handshakeRecord version data)) ++ inbound before =
      inbound before ++ [] by
        rw [inbound_sending, append_nil, nil_append])
    exact ⟨after, hdata, by rw [hsame.1], hnext⟩
  · rintro ⟨after, hdata, rfl, hnext⟩
    exact ⟨(), _, after, rfl, talks_writeHandshakeRecord version hdata, hnext⟩

lemma talks_readHandshakeRecord (version : Octets 2) {payload : Bytes}
    (hpay : payload.length ≤ 65535) :
    Talks readHandshakeRecord (receiving (handshakeRecord version payload)) payload := by
  have hhdr : (0x16 :: version.bytes ++ beOctets 2 payload.length : Bytes).length = 5 := by
    rw [length_append, length_cons, version.length_bytes, length_beOctets]
  have hcount : beNat ((0x16 :: version.bytes ++ beOctets 2 payload.length : Bytes).drop 3) =
      payload.length := by
    rw [drop_left' (by rw [length_cons, version.length_bytes]),
      beNat_beOctets (show payload.length < 256 ^ 2 by omega)]
  rw [handshakeRecord, receiving_append]
  refine .bind (.readExact _ hhdr) ?_
  refine .check_bind (rejectIf_neg (not_not.mpr rfl) _) ?_
  exact .last (.readExact _ hcount.symm) (.record_bind _ (.pure _))

@[simp] lemma talks_readHandshakeRecord_bind {next : Bytes → Handshake α} :
    Talks (readHandshakeRecord >>= next) script result ↔ ∃ version payload after,
      payload.length ≤ 65535 ∧ script = receiving (handshakeRecord version payload) ++ after ∧
        Talks (next payload) after result := by
  rw [talks_bind_iff]
  constructor
  · rintro ⟨payload, before, after, rfl, hread, hnext⟩
    obtain ⟨header, _, hlen, rfl, hheaded⟩ := hread.concludes.of_readExact_bind
    obtain ⟨_, hhead, hchecked⟩ := talks_check_bind_iff.mp hheaded
    obtain ⟨body, _, hbody, rfl, hrest⟩ := hchecked.concludes.of_readExact_bind
    obtain ⟨rfl, hsame⟩ :=
      (Talks.record_bind (TlsNote.received body) (Talks.pure (ε := TlsError) body)).concludes.unique
      hrest (show inbound [] ++ inbound _ = inbound _ ++ [] by rw [append_nil]; rfl)
    obtain rfl := Except.ok.inj hsame
    obtain ⟨version, hhdr⟩ := exists_header hlen (not_not.mp (rejectIf_eq_ok.mp hhead))
    have hsize := beNat_lt (header.drop 3)
    rw [← hbody, length_drop, hlen] at hsize
    refine ⟨version, body, after, Nat.le_of_lt_succ hsize, ?_, hnext⟩
    rw [handshakeRecord, hbody, ← hhdr, receiving_append, append_nil, append_assoc]
  · rintro ⟨version, payload, after, hpay, rfl, hnext⟩
    exact ⟨payload, _, after, rfl, talks_readHandshakeRecord version hpay, hnext⟩

end Records

lemma Finished.fromBytes_toBytes {finished : Finished}
    (hlen : finished.verifyData.length < 2 ^ 16) :
    Finished.fromBytes finished.toBytes = .ok finished := by
  have hsize : (lengthThen 2 finished.verifyData).length = 2 + finished.verifyData.length :=
    length_lengthThen 2 _
  rw [Finished.fromBytes, Finished.toBytes]
  rw [rejectIf_bind (by omega), beNat_take_lengthThen_self hlen, rejectIf_bind (by omega),
    drop_lengthThen_self, take_length]

lemma CertificateVerify.fromBytes_toBytes {verify : CertificateVerify}
    (hlen : verify.signature.length < 2 ^ 16) : CertificateVerify.fromBytes verify.toBytes =
    .ok verify := by
  have halgorithm : (lengthThen 2 sm2SigOid ++ [0x05, 0x00]).length = 14 := rfl
  have hcount := beNat_take_lengthThen
    (show (lengthThen 2 sm2SigOid ++ [0x05, 0x00]).length < 256 ^ 2 by rw [halgorithm]; decide)
    (lengthThen 2 verify.signature)
  have hrest : verify.toBytes.drop 16 = lengthThen 2 verify.signature := rfl
  have hsize : (lengthThen 2 verify.signature).length = 2 + verify.signature.length :=
    length_lengthThen 2 _
  have htotal : verify.toBytes.length = 16 + (2 + verify.signature.length) := by
    rw [toBytes, length_append, length_lengthThen, length_lengthThen, halgorithm]
  have halgorithmLength : beNat (verify.toBytes.take 2) = 14 := hcount
  rw [fromBytes]
  rw [rejectIf_bind (by omega), halgorithmLength, rejectIf_bind (by omega), hrest,
    rejectIf_bind (by omega), beNat_take_lengthThen_self hlen, rejectIf_bind (by omega),
    drop_lengthThen_self, take_length]

lemma ClientCertificate.fromBytes_toBytes {cert : ClientCertificate}
    (hlen : cert.toBytes.length ≤ 65535) : fromBytes cert.toBytes = .ok cert := by
  have hsize : (lengthThen 3 cert.certChainPem ++ beOctets 2 0).length =
      5 + cert.certChainPem.length := by
    rw [length_append, length_lengthThen, length_beOctets]
    omega
  have htotal : cert.toBytes.length = 3 + (5 + cert.certChainPem.length) := by
    rw [toBytes, length_lengthThen, hsize]
  have hcert := beNat_take_lengthThen (show cert.certChainPem.length < 256 ^ 3 by omega)
    (beOctets 2 0)
  have hpem := drop_lengthThen 3 cert.certChainPem (beOctets 2 0)
  have hlist : beNat (cert.toBytes.take 3) = _ := beNat_take_lengthThen_self
    (show (lengthThen 3 cert.certChainPem ++ beOctets 2 0).length < 256 ^ 3 by omega)
  have hlistData : cert.toBytes.drop 3 = _ := drop_lengthThen_self 3 _
  rw [fromBytes]
  rw [rejectIf_bind (by omega), hlist, rejectIf_bind (by omega), hlistData,
    take_length, rejectIf_bind (by omega), hcert, rejectIf_bind (by omega), hpem, take_left]

lemma fromBytes_newSessionTicketBytes (ticketBytes : Bytes) :
    Fails (fromBytes (newSessionTicketBytes ticketBytes)) := by
  obtain ⟨rest, hbytes⟩ : ∃ rest, newSessionTicketBytes ticketBytes =
      [0x00, 0x01, 0x51] ++ ([0x80, 0x00, 0x00] ++ rest) := ⟨_, rfl⟩
  have hlist : beNat ((newSessionTicketBytes ticketBytes).take 3) = 337 := rfl
  have hentries : (newSessionTicketBytes ticketBytes).drop 3 = [0x80, 0x00, 0x00] ++ rest := by
    rw [hbytes]
    rfl
  have hentry : beNat ((([0x80, 0x00, 0x00] ++ rest).take 337).take 3) = 8388608 := by
    rfl
  have hsize : (([0x80, 0x00, 0x00] ++ rest : Bytes).take 337).length ≤ 337 := length_take_le _ _
  rw [fromBytes]
  dsimp only
  rw [hlist, hentries, hentry]
  refine fails_bind_of_forall fun _ _ ↦ fails_bind_of_forall fun _ _ ↦
    fails_bind_of_forall fun _ _ ↦ ?_
  rw [rejectIf_pos (by omega)]
  exact fails_error _

/-! ### Hellos -/

lemma length_le_flatMap {α : Type} {items : List α} {item : α} (hmem : item ∈ items)
    (octets : α → Bytes) :
    (octets item).length ≤ (items.flatMap octets).length :=
  (sublist_flatten_of_mem (mem_map_of_mem hmem)).length_le

lemma ClientHello.length_wireData_lt {hello : ClientHello} (hsize : hello.toBytes.length ≤ 65535)
    {ext : ClientHelloExtension} (hmem : ext ∈ hello.extensions) :
    ext.wireData.length < 2 ^ 16 := by
  have hext := length_le_flatMap hmem ClientHelloExtension.toBytes
  rw [ext.toBytes_eq, length_extensionBytes] at hext
  simp only [ClientHello.toBytes, length_append, length_lengthThen] at hsize
  omega

lemma ServerHello.length_wireData_lt {hello : ServerHello} (hsize : hello.toBytes.length ≤ 65535)
    {ext : ServerHelloExtension} (hmem : ext ∈ hello.extensions) :
    ext.wireData.length < 2 ^ 16 := by
  have hext := length_le_flatMap hmem ServerHelloExtension.toBytes
  rw [ext.toBytes_eq, length_extensionBytes] at hext
  simp only [ServerHello.toBytes, length_append, length_lengthThen] at hsize
  omega

section Hellos

variable {lib : TlsLibrary F P} {entropy : Entropy F}

lemma fromBytes_buildClientHello {alpn : List Bytes} {domain : Option String}
    {ticket : Option SessionTicket}
    (hnames : ∀ proto ∈ alpn, proto.length ≤ 255 ∧ IsText proto)
    (hsize : (buildClientHello lib entropy alpn domain ticket).toBytes.length ≤ 65535) :
    ClientHello.fromBytes lib.deserializeTicket
    (buildClientHello lib entropy alpn domain ticket).toBytes =
      .ok (buildClientHello lib entropy alpn none none) := by
  have hbytes : (buildClientHello lib entropy alpn domain ticket).toBytes =
    (buildClientHello lib entropy alpn none none).toBytes := rfl
  rw [hbytes] at hsize ⊢
  have hfits : (buildClientHello lib entropy alpn none none).Fits := by
    constructor
    case sessionId => exact Nat.zero_le _
    case cipherSuites => exact show 1 * 2 < 2 ^ 16 by decide
    case compressionMethods => exact show 1 < 2 ^ 8 by decide
    case extensions =>
      intro ext hmem
      refine ⟨ClientHello.length_wireData_lt hsize hmem, ?_⟩
      rcases mem_cons.mp hmem with rfl | hmem
      · trivial
      rcases mem_cons.mp hmem with rfl | hmem
      · trivial
      obtain rfl := mem_singleton.mp hmem
      exact fun proto hproto ↦ ⟨Nat.lt_succ_of_le (hnames proto hproto).1, (hnames proto hproto).2⟩
    case block =>
      simp only [ClientHello.toBytes, length_append, length_lengthThen] at hsize
      omega
  refine (ClientHello.roundTrip_iff hfits (by exact rfl)).mpr ?_
  simp [buildClientHello, clientHelloExtensions, ClientHelloExtension.ReadBack]

/-- A hello as it is built reaches the server with its protocols and its key, and with the name of
the server and the ticket exactly if it has neither. -/
theorem builtClientHello_transmits_iff {alpn : List Bytes} {sni : Option String}
    {ticket : Option SessionTicket}
    (hnames : ∀ proto ∈ alpn, proto.length ≤ 255 ∧ IsText proto)
    (hsize : (buildClientHello lib entropy alpn sni ticket).toBytes.length ≤ 65535) :
    ∃ hello, ClientHello.fromBytes lib.deserializeTicket
    (buildClientHello lib entropy alpn sni ticket).toBytes =
        .ok hello ∧ hello.alpn = alpn ∧ hello.ephPubkey =
        (buildClientHello lib entropy alpn sni ticket).ephPubkey ∧
          (hello.sni = (buildClientHello lib entropy alpn sni ticket).sni ∧
          hello.sessionTicket = ticket ↔
            sni = none ∧ ticket = none) := by
  refine ⟨_, fromBytes_buildClientHello hnames hsize, rfl, rfl, ?_⟩
  cases sni <;> cases ticket <;> simp [buildClientHello]

/-- A hello without name and ticket reaches the server as it was built. -/
theorem plain_clientHello_transmitted : ∃ hello, ClientHello.fromBytes miniTls.deserializeTicket
    (buildClientHello miniTls (miniEntropy 5) [[104, 50]] none none).toBytes = .ok hello ∧
    hello.sessionTicket = none := by
  obtain ⟨hello, hread, -, -, hsame⟩ := @builtClientHello_transmits_iff _ _ _ _ _ miniTls
    (miniEntropy 5) [[104, 50]]
    none none (by decide) (by decide +kernel)
  exact ⟨hello, hread, (hsame.mpr ⟨rfl, rfl⟩).2⟩

/-- A ticket does not reach the server. -/
theorem ticket_not_transmitted : ∃ hello, ClientHello.fromBytes miniTls.deserializeTicket
    (buildClientHello miniTls (miniEntropy 5) [] none (some ⟨[7], 1⟩)).toBytes = .ok hello ∧
      hello.sessionTicket ≠ some ⟨[7], 1⟩ :=
  ⟨_, fromBytes_buildClientHello (by simp) (by decide +kernel), nofun⟩

variable (hkey : entropy.scalar • lib.sm2.generator ≠ 0)

include hkey

variable {alpn : Option Bytes}

lemma length_buildServerHello_le (hname : ∀ proto ∈ alpn, proto.length ≤ 255) (certPem : Bytes)
    (requireClientAuth : Bool) :
    (buildServerHello lib entropy alpn certPem requireClientAuth).toBytes.length ≤ 65535 := by
  have hlen := lib.sm2.length_encode _ hkey
  have hhead : (buildServerHello lib entropy alpn certPem requireClientAuth).toBytes.length = 40 +
      ((buildServerHello lib entropy alpn certPem requireClientAuth).extensions.flatMap
        ServerHelloExtension.toBytes).length := by
    simp only [ServerHello.toBytes, length_append, length_lengthThen, Octets.length_bytes,
      u16Octets,
      length_beOctets, length_singleton]
    show 2 + 32 + (1 + 0) + 2 + 1 + (2 + _) = 40 + _
    omega
  rw [hhead]
  cases alpn with
  | none =>
    simp only [buildServerHello, Option.toList_none, map_nil, flatMap_cons, flatMap_nil,
      append_nil, ServerHelloExtension.toBytes, length_extensionBytes, length_append, u16Octets,
      length_beOctets, length_lengthThen, hlen]
    decide
  | some proto =>
    have hproto := hname proto rfl
    simp only [buildServerHello, Option.toList_some, map_cons, map_nil, flatMap_cons,
      flatMap_nil, append_nil, ServerHelloExtension.toBytes, length_extensionBytes,
      length_append, u16Octets, length_beOctets, length_lengthThen, hlen]
    omega

lemma fromBytes_buildServerHello (hname : ∀ proto ∈ alpn, proto.length ≤ 255 ∧ IsText proto)
    (certPem : Bytes)
    (requireClientAuth : Bool) :
    ServerHello.fromBytes (buildServerHello lib entropy alpn certPem requireClientAuth).toBytes =
      .ok (buildServerHello lib entropy alpn [] false) := by
  have hsize := length_buildServerHello_le hkey (fun proto hproto ↦ (hname proto hproto).1) [] false
  have hbytes : (buildServerHello lib entropy alpn certPem requireClientAuth).toBytes =
    (buildServerHello lib entropy alpn [] false).toBytes := rfl
  have hmember {ext : ServerHelloExtension}
    (hmem : ext ∈ (buildServerHello lib entropy alpn [] false).extensions) :
      ext = .keyShare (lib.sm2.encode (entropy.scalar • lib.sm2.generator)) ∨ ∃ proto ∈ alpn,
      ext = .alpn proto := by
    rcases mem_cons.mp hmem with rfl | hmem
    · exact .inl rfl
    · obtain ⟨proto, hproto, rfl⟩ := mem_map.mp hmem
      exact .inr ⟨proto, Option.mem_toList.mp hproto, rfl⟩
  have hfits : (buildServerHello lib entropy alpn [] false).Fits := by
    constructor
    case sessionId => exact Nat.zero_le _
    case extensions =>
      intro ext hmem
      refine ⟨ServerHello.length_wireData_lt hsize hmem, ?_⟩
      rcases hmember hmem with rfl | ⟨proto, hproto, rfl⟩
      · trivial
      · exact ⟨Nat.lt_succ_of_le (hname proto hproto).1, (hname proto hproto).2⟩
    case block =>
      simp only [ServerHello.toBytes, length_append, length_lengthThen] at hsize
      omega
  have hderived : (buildServerHello lib entropy alpn [] false).Derived := by
    cases alpn <;> rfl
  refine (ServerHello.roundTrip_iff hfits hderived).mpr fun ext hmem ↦ ?_
  rcases hmember hmem with rfl | ⟨proto, hproto, rfl⟩
  · trivial
  · trivial

end Hellos

/-- The arguments of `connect_gm_rust_inner`, with what it draws and the time. -/
structure ClientSetup (F : Type) where
  certPem : Bytes
  keyPem : Bytes
  caPem : Bytes
  domain : Option String
  alpn : List Bytes
  opts : HandshakeOptions
  clock : Clock
  entropy : Entropy F

/-- The arguments of `accept_gm_rust_inner_with_cert`, with what it draws and the time. -/
structure ServerSetup (F : Type) where
  certPem : Bytes
  keyPem : Bytes
  caPem : Bytes
  requireClientAuth : Bool
  alpn : List Bytes
  opts : HandshakeOptions
  clock : Clock
  entropy : Entropy F

section Setups

variable (lib : TlsLibrary F P) (client : ClientSetup F) (server : ServerSetup F)

def ClientSetup.connect : Handshake GmTlsStream :=
  connectGmRustInner lib client.certPem client.keyPem client.caPem client.domain
    client.alpn client.opts
    client.clock client.entropy

def ServerSetup.accept : Handshake (GmTlsStream × Option Bytes × Option SessionTicket) :=
  acceptGmRustInnerWithCert lib server.certPem server.keyPem server.caPem server.requireClientAuth
    server.alpn server.opts server.clock server.entropy

def ClientSetup.hello : Bytes :=
  (buildClientHello lib client.entropy client.alpn client.domain none).toBytes

/-- A chain is accepted against trust anchors for a role. -/
def ChainAccepted (chainPem caPem : Bytes) (opts : HandshakeOptions) (clock : Clock)
    (domain : Option String) (role : CertRole) (chain trust : List OwnedCert) : Prop :=
  OwnedCert.chainFromPemConcat lib.x509 chainPem = .ok chain ∧
    OwnedCert.chainFromPemConcat lib.x509 caPem = .ok trust ∧
      verifyCertChainSm2ChainWithDistidPolicy lib.x509 lib.sm2.toSm2Library chain trust
      clock.nowUtc domain
          (some role) (opts.distidPolicy.getD .strict) = .ok () ∧
        checkLeafRevocation lib opts clock chain trust = .ok ()

/-- A client and a server that are honest to each other. -/
structure HonestSides (serverSecret : F) : Prop where
  signatures : lib.sm2.SignaturesVerify
  serializes : ∀ state, ∃ bytes, lib.serializeState state = .ok bytes
  names : ∀ proto ∈ client.alpn, IsText proto
  noTicketOffered : openTicket lib client.opts client.clock = .ok none
  shared : (client.entropy.scalar * server.entropy.scalar) • lib.sm2.generator ≠ 0
  clientSigns : lib.sm2.signingKeyNew gmTlsDistid client.entropy.scalar = .ok ()
  serverSigns : lib.sm2.signingKeyNew gmTlsDistid server.entropy.scalar = .ok ()
  certificate : server.certPem ≠ []
  secret : serverSecret ≠ 0
  key : signerFromPemKey lib server.keyPem = .ok ⟨serverSecret, gmTlsDistid⟩
  leaf : extractServerPubkeyForCertVerify lib.x509 lib.sm2.toSm2Library server.certPem =
    .ok (lib.sm2.encode (serverSecret • lib.sm2.generator))
  serverAccepted : client.caPem ≠ [] → ∃ chain trust, ChainAccepted lib server.certPem client.caPem
    client.opts client.clock client.domain .tlcServer chain trust ∧
      checkExpectedUri lib client.opts client.clock chain = .ok ()
  clientAccepted : server.requireClientAuth = true → client.certPem ≠ [] ∧ server.caPem ≠ [] ∧
    ∃ chain trust, ChainAccepted lib client.certPem server.caPem server.opts server.clock none
    .tlcClient chain trust

end Setups

section Messages

variable (lib : TlsLibrary F P) (client : ClientSetup F) (server : ServerSetup F) (serverSecret : F)

def ServerSetup.hello (alpn : List Bytes) : Bytes :=
  (buildServerHello lib server.entropy (selectAlpn server.alpn alpn) server.certPem
    server.requireClientAuth).toBytes

def certificateTranscript : Bytes :=
  computeTranscriptHashMulti lib [computeTranscriptHash lib (client.hello lib)
    (server.hello lib client.alpn), ClientCertificate.toBytes ⟨server.certPem⟩]

def verifyMessage : Bytes :=
  CertificateVerify.toBytes ⟨lib.sm2.sign serverSecret gmTlsDistid
    (certificateTranscript lib client server)⟩

def finishedTranscript : Bytes :=
  computeTranscriptHashMulti lib [certificateTranscript lib client server,
    verifyMessage lib client server serverSecret]

def finishedMessage (scalar : F) : Bytes :=
  Finished.toBytes
    ⟨lib.sm2.sign scalar gmTlsDistid (finishedTranscript lib client server serverSecret)⟩

def clientFlight : Bytes :=
  if client.certPem = [] then []
  else handshakeRecord versionTls13 (ClientCertificate.toBytes ⟨client.certPem⟩) ++
    handshakeRecord versionTls13
    (finishedMessage lib client server serverSecret client.entropy.scalar)

def serverFlight : Bytes :=
  handshakeRecord versionTls13 (ClientCertificate.toBytes ⟨server.certPem⟩) ++
    (handshakeRecord versionTls13 (verifyMessage lib client server serverSecret) ++
      handshakeRecord versionTls13
      (finishedMessage lib client server serverSecret server.entropy.scalar))

def conversation : Script :=
  sending (handshakeRecord versionTls13 (client.hello lib)) ++
    (receiving (handshakeRecord versionTls13 (server.hello lib client.alpn)) ++
      (receiving (serverFlight lib client server serverSecret) ++
      sending (clientFlight lib client server serverSecret)))

def sessionSecrets : Except TlsError HandshakeSecrets :=
  deriveSessionKeysSm2 lib ((client.entropy.scalar * server.entropy.scalar) • lib.sm2.generator)

end Messages

def serverStream (secrets : HandshakeSecrets) (alpn : Option Bytes) : GmTlsStream :=
  (GmTlsStream.new secrets.sessionKeys false (some []) alpn).setTrafficSecrets
    secrets.serverTrafficSecret secrets.clientTrafficSecret

variable {lib : TlsLibrary F P} {client : ClientSetup F} {server : ServerSetup F} {serverSecret : F}

variable (lib) in
lemma exists_deriveSessionKeysSm2 {point : P} (hpoint : point ≠ 0) :
    ∃ secrets, deriveSessionKeysSm2 lib point = .ok secrets ∧
      secrets.sessionKeys.clientKey.length = 16 ∧ secrets.sessionKeys.serverKey.length = 16 ∧
        secrets.clientTrafficSecret.length = 32 ∧ secrets.serverTrafficSecret.length = 32 := by
  have hlen : ¬ (lib.sm2.encode point).length = 1 := by
    rw [lib.sm2.length_encode point hpoint]
    decide
  obtain ⟨masterSecret, hms, -⟩ := exists_hkdfSm3 lib ((lib.sm2.encode point).drop 1) []
    "GM/TLS-master-secret".toUTF8.toList (le_refl 32)
  obtain ⟨clientSecret, hcli, hclientLength⟩ := exists_hkdfSm3 lib masterSecret []
    "GM/TLS-client-traffic-secret".toUTF8.toList (le_refl 32)
  obtain ⟨serverSecret, hsrv, hserverLength⟩ := exists_hkdfSm3 lib masterSecret []
    "GM/TLS-server-traffic-secret".toUTF8.toList (le_refl 32)
  obtain ⟨clientKey, clientNonce, hclientKey, hclientKeyLength⟩ :=
    exists_deriveKeyIvFromSecret lib clientSecret
  obtain ⟨serverKey, serverNonce, hserverKey, hserverKeyLength⟩ :=
    exists_deriveKeyIvFromSecret lib serverSecret
  refine ⟨⟨masterSecret, clientSecret, serverSecret,
    ⟨clientKey, clientNonce, serverKey, serverNonce⟩⟩, ?_,
    hclientKeyLength, hserverKeyLength, hclientLength, hserverLength⟩
  rw [deriveSessionKeysSm2]
  dsimp only
  rw [rejectIf_bind hlen, hms, ok_bind, hcli, ok_bind, hsrv, ok_bind, hclientKey, ok_bind,
    hserverKey, ok_bind]

lemma parseSm2Pubkey_encode (point : P) : parseSm2Pubkey lib (lib.sm2.encode point) =
    .ok point := by
  rw [parseSm2Pubkey, lib.sm2.encodedPointFromBytes_encode, lib.sm2.decode_encode]
  rfl

lemma signerFromScalar_eq {scalar : F} (hscal : scalar ≠ 0)
    (hsigns : lib.sm2.signingKeyNew gmTlsDistid scalar = .ok ()) :
    signerFromScalar lib scalar = .ok ⟨scalar, gmTlsDistid⟩ := by
  rw [signerFromScalar, Sm2KeyPair.fromPrivateKeyWithDistid,
    lib.sm2.secretKeyFromBytes_scalarToBytes scalar hscal, mapError_ok, ok_bind,
    mapError_ok, ok_bind,
    Sm2Signer.new, Sm2Signer.newWithDistid, hsigns, mapError_ok, ok_bind, mapError_ok]

variable {distid : String} {secret : F}

lemma signingKeyNew_of_signerFromPemKey {keyPem : Bytes}
    (hsigner : signerFromPemKey lib keyPem = .ok ⟨secret, distid⟩) :
    lib.sm2.signingKeyNew distid secret = .ok () := by
  simp only [signerFromPemKey, Sm2Signer.new, Sm2Signer.newWithDistid, bind_eq_ok, mapError_eq_ok,
    Except.ok.injEq, Sm2Signer.mk.injEq] at hsigner
  obtain ⟨_, -, keyPair, -, _, hnew, rfl, rfl⟩ := hsigner
  exact hnew

variable {data : Bytes}

section

variable (hacc : lib.sm2.Accepts (lib.sm2.encode (secret • lib.sm2.generator)) distid data
  (lib.sm2.sign secret distid data))

include hacc

lemma sign_of_accepts : Sm2Signer.sign lib.sm2 ⟨secret, distid⟩ data =
    .ok (lib.sm2.sign secret distid data) :=
  (Sm2Signer.sign_eq_ok lib.sm2).mpr ⟨hacc.equation, rfl⟩

lemma signFinished_of_accepts : signFinished lib ⟨secret, distid⟩ data =
    .ok ⟨lib.sm2.sign secret distid data⟩ := by
  rw [signFinished, sign_of_accepts hacc, mapError_ok, ok_bind]

end

variable {publicKey : Bytes}

lemma talks_newVerifier (text : String)
    (hkey : lib.sm2.verifyingKeyFromSec1Bytes gmTlsDistid publicKey = .ok ()) :
    Talks (newVerifier lib publicKey text) [] ⟨publicKey, gmTlsDistid⟩ := by
  have hnew := (Sm2Verifier.new_eq_ok lib.sm2.toSm2Library).mpr ⟨hkey,
    (rfl : (⟨publicKey, gmTlsDistid⟩ : Sm2Verifier) = _)⟩
  rw [newVerifier, hnew]
  exact .check rfl

lemma talks_verifyNoted {signature : Bytes} (text : String)
    (hacc : lib.sm2.Accepts publicKey gmTlsDistid data signature) :
    Talks (verifyNoted lib ⟨publicKey, gmTlsDistid⟩ data signature text) [] () := by
  have hver := (Sm2Verifier.verify_eq_ok lib.sm2.toSm2Library hacc.key).mpr hacc
  rw [verifyNoted, hver]
  exact .check_bind rfl (.record _)

lemma talks_readFinished {transcript signature : Bytes} (parseText verifierText : String)
    (hacc : lib.sm2.Accepts publicKey gmTlsDistid transcript signature) :
    Talks (readFinished lib publicKey transcript parseText verifierText)
      (receiving (handshakeRecord versionTls13 (Finished.toBytes ⟨signature⟩))) () := by
  have hsig : signature.length = 64 := hacc.length
  have hsize : (Finished.toBytes ⟨signature⟩).length ≤ 65535 := by
    rw [Finished.toBytes, length_lengthThen]
    show 2 + signature.length ≤ 65535
    omega
  have hparse : Finished.fromBytes (Finished.toBytes ⟨signature⟩) = .ok ⟨signature⟩ :=
    Finished.fromBytes_toBytes (show signature.length < 2 ^ 16 by omega)
  refine .last (talks_readHandshakeRecord versionTls13 hsize) ?_
  rw [hparse]
  exact .bind (talks_newVerifier verifierText hacc.key) (talks_verifyNoted _ hacc)

lemma talks_sendOptional (transcript : Bytes) {message : Bytes} (hmsg : message.length ≤ 65535) :
    Talks (sendOptional lib transcript (some message))
    (sending (handshakeRecord versionTls13 message))
      (computeTranscriptHashMulti lib [transcript, message]) := by
  exact .last (talks_writeHandshakeRecord versionTls13 hmsg) (.pure _)

variable (lib) in
lemma createTicket_eq_none {opts : HandshakeOptions}
    (hkeys : ∀ keySet, opts.sessionTicketKey = some keySet → keySet.keys = []) (clock : Clock)
    (entropy : Entropy F) (secrets : HandshakeSecrets) (sh : ServerHello) (ch : ClientHello)
    (requireClientAuth : Bool) :
    createTicket lib opts clock entropy secrets sh ch requireClientAuth = none := by
  rw [createTicket]
  cases hkeySet : opts.sessionTicketKey with
  | none => rfl
  | some keySet =>
    have hprimary : keySet.primaryKey = none := by
      rw [TicketKeySet.primaryKey, hkeys keySet hkeySet]
      rfl
    dsimp only
    rw [encryptSessionTicket, hprimary]
    rfl

/-- The sizes of the messages of a handshake. -/
structure MessagesFit (lib : TlsLibrary F P) (client : ClientSetup F) (server : ServerSetup F) :
    Prop where
  hello : (client.hello lib).length ≤ 65535
  serverCertificate : (ClientCertificate.toBytes ⟨server.certPem⟩).length ≤ 65535
  clientCertificate : client.certPem ≠ [] →
    (ClientCertificate.toBytes ⟨client.certPem⟩).length ≤ 65535

/-- The protocol names of the client have at most 255 octets. -/
def NamesFit (client : ClientSetup F) : Prop := ∀ proto ∈ client.alpn, proto.length ≤ 255

namespace HonestSides

variable (hhonest : HonestSides lib client server serverSecret)

include hhonest

lemma serverPoint_ne_zero : server.entropy.scalar • lib.sm2.generator ≠ 0 := by
  intro hzero
  apply hhonest.shared
  rw [mul_smul, hzero, smul_zero]

lemma clientScalar_ne_zero : client.entropy.scalar ≠ 0 := by
  intro hzero
  apply hhonest.shared
  rw [hzero, zero_mul, zero_smul]

lemma serverScalar_ne_zero : server.entropy.scalar ≠ 0 := by
  intro hzero
  apply hhonest.shared
  rw [hzero, mul_zero, zero_smul]

variable (data : Bytes)

lemma secret_accepts : lib.sm2.Accepts (lib.sm2.encode (serverSecret • lib.sm2.generator))
    gmTlsDistid data
      (lib.sm2.sign serverSecret gmTlsDistid data) :=
  hhonest.signatures _ _ _ hhonest.secret (signingKeyNew_of_signerFromPemKey hhonest.key)

lemma server_accepts : lib.sm2.Accepts (lib.sm2.encode (server.entropy.scalar • lib.sm2.generator))
    gmTlsDistid data
      (lib.sm2.sign server.entropy.scalar gmTlsDistid data) :=
  hhonest.signatures _ _ _ hhonest.serverScalar_ne_zero hhonest.serverSigns

lemma client_accepts : lib.sm2.Accepts (lib.sm2.encode (client.entropy.scalar • lib.sm2.generator))
    gmTlsDistid data
      (lib.sm2.sign client.entropy.scalar gmTlsDistid data) :=
  hhonest.signatures _ _ _ hhonest.clientScalar_ne_zero hhonest.clientSigns

omit hhonest in
lemma length_verifyMessage : (verifyMessage lib client server serverSecret).length ≤ 65535 := by
  have hsig := lib.sm2.length_sign serverSecret gmTlsDistid
    (certificateTranscript lib client server)
  rw [verifyMessage, CertificateVerify.toBytes, length_append, length_lengthThen, length_lengthThen]
  show 2 + 14 + (2 + (lib.sm2.sign serverSecret gmTlsDistid _).length) ≤ 65535
  omega

omit hhonest in
lemma length_finishedMessage (scalar : F) :
    (finishedMessage lib client server serverSecret scalar).length ≤ 65535 := by
  have hsig := lib.sm2.length_sign scalar gmTlsDistid
    (finishedTranscript lib client server serverSecret)
  rw [finishedMessage, Finished.toBytes, length_lengthThen]
  show 2 + (lib.sm2.sign scalar gmTlsDistid _).length ≤ 65535
  omega

lemma selected_text (hnames : NamesFit client) :
    ∀ proto ∈ selectAlpn server.alpn client.alpn, proto.length ≤ 255 ∧ IsText proto := by
  intro proto hproto
  have hmem := mem_of_find?_eq_some hproto
  exact ⟨hnames proto hmem, hhonest.names proto hmem⟩

lemma talks_checkServerCertificate :
    Talks (checkServerCertificate lib client.caPem client.domain client.opts client.clock
    ⟨server.certPem⟩) [] () := by
  rw [checkServerCertificate]
  by_cases hca : client.caPem = []
  · rw [if_pos hca]
    exact .pure ()
  rw [if_neg hca]
  obtain ⟨chain, trust, ⟨hchain, htrust, hver, hrevocation⟩, huri⟩ := hhonest.serverAccepted hca
  refine .check_bind (rejectIf_neg hhonest.certificate _) ?_
  rw [hchain, htrust]
  refine .check_bind rfl (.check_bind rfl ?_)
  rw [verifyPeerChain, hver, huri, hrevocation]
  exact .bind (.check_bind rfl (.record _)) (.check_bind rfl (.check rfl))

lemma talks_sendClientCertificate (hfits : MessagesFit lib client server) :
    Talks (sendClientCertificate lib client.certPem
    (finishedTranscript lib client server serverSecret)
      (signerFromScalar lib client.entropy.scalar))
      (sending (clientFlight lib client server serverSecret)) () := by
  rw [sendClientCertificate, clientFlight]
  by_cases hcert : client.certPem = []
  · rw [if_pos hcert, if_pos hcert]
    exact .pure ()
  rw [if_neg hcert, if_neg hcert, sending_append]
  refine .bind (talks_writeHandshakeRecord versionTls13 (hfits.clientCertificate hcert)) ?_
  rw [signerFromScalar_eq hhonest.clientScalar_ne_zero hhonest.clientSigns]
  refine .check_bind rfl (.check_bind (signFinished_of_accepts (hhonest.client_accepts _)) ?_)
  exact talks_writeHandshakeRecord versionTls13 (length_finishedMessage _)

lemma talks_connect (hnames : NamesFit client) (hfits : MessagesFit lib client server)
    {secrets : HandshakeSecrets} (hsecrets : sessionSecrets lib client server = .ok secrets) :
    Talks (client.connect lib) (conversation lib client server serverSecret)
      (clientStream secrets server.certPem (selectAlpn server.alpn client.alpn)) := by
  have hselected := hhonest.selected_text hnames
  have hserverHello : (server.hello lib client.alpn).length ≤ 65535 :=
    length_buildServerHello_le hhonest.serverPoint_ne_zero (fun proto hproto ↦
      (hselected proto hproto).1) _ _
  have hparse : ServerHello.fromBytes (server.hello lib client.alpn) = .ok _ :=
    fromBytes_buildServerHello hhonest.serverPoint_ne_zero hselected _ _
  have hcert : fromBytes (toBytes ⟨server.certPem⟩) = .ok ⟨server.certPem⟩ :=
    fromBytes_toBytes hfits.serverCertificate
  have hsig := lib.sm2.length_sign serverSecret gmTlsDistid
    (certificateTranscript lib client server)
  have hver : CertificateVerify.fromBytes (verifyMessage lib client server serverSecret) = .ok _ :=
    CertificateVerify.fromBytes_toBytes (hsig.trans_lt (by decide))
  have hshared : client.entropy.scalar • server.entropy.scalar • lib.sm2.generator =
    (client.entropy.scalar * server.entropy.scalar) • lib.sm2.generator := (mul_smul _ _ _).symm
  rw [ClientSetup.connect, connectGmRustInner, hhonest.noTicketOffered, conversation, serverFlight,
    receiving_append, receiving_append, append_assoc, append_assoc]
  refine .check_bind rfl ?_
  refine .bind (talks_writeHandshakeRecord versionTls13 hfits.hello) ?_
  refine .bind (talks_readHandshakeRecord versionTls13 hserverHello) ?_
  rw [hparse]
  refine .check_bind rfl ?_
  refine .bind (talks_readHandshakeRecord versionTls13 hfits.serverCertificate) ?_
  rw [hcert]
  refine .check_bind rfl (.silent_bind hhonest.talks_checkServerCertificate ?_)
  refine .bind (talks_readHandshakeRecord versionTls13 length_verifyMessage) ?_
  rw [hver, hhonest.leaf]
  refine .check_bind rfl (.check_bind rfl ?_)
  have hacc := hhonest.secret_accepts (certificateTranscript lib client server)
  refine .silent_bind (talks_newVerifier _ hacc.key) ?_
  refine .silent_bind (talks_verifyNoted _ hacc) ?_
  refine .check_bind (parseSm2Pubkey_encode _) ?_
  rw [hshared]
  refine .check_bind hsecrets ?_
  refine .bind (talks_readFinished _ _ (hhonest.server_accepts _)) ?_
  exact .last (hhonest.talks_sendClientCertificate hfits) (.pure _)

lemma talks_authenticateClient (hauth : server.requireClientAuth = true)
    (hfits : MessagesFit lib client server) :
    Talks (authenticateClient lib server.caPem (finishedTranscript lib client server serverSecret)
      server.opts server.clock (buildClientHello lib client.entropy client.alpn none none))
      (receiving (clientFlight lib client server serverSecret)) (utf8Lossy client.certPem) := by
  obtain ⟨hcert, hca, chain, trust, hchain, htrust, hver, hrevocation⟩ :=
    hhonest.clientAccepted hauth
  have hparse : fromBytes (toBytes ⟨client.certPem⟩) =
      .ok ⟨client.certPem⟩ := fromBytes_toBytes (hfits.clientCertificate hcert)
  rw [clientFlight, if_neg hcert, receiving_append, authenticateClient]
  refine .bind (talks_readHandshakeRecord versionTls13 (hfits.clientCertificate hcert)) ?_
  rw [hparse]
  refine .check_bind rfl (.check_bind (rejectIf_neg (not_or.mpr ⟨hcert, hca⟩) _) ?_)
  rw [hchain, htrust]
  refine .check_bind rfl (.check_bind rfl ?_)
  rw [verifyPeerChain, hver, hrevocation]
  refine .silent_bind (.check_bind rfl (.record _)) (.check_bind rfl ?_)
  exact .last (talks_readFinished _ _ (hhonest.client_accepts _)) (.pure _)

lemma talks_accept (hnames : NamesFit client) (hfits : MessagesFit lib client server)
    (hkeys : ∀ keySet, server.opts.sessionTicketKey = some keySet → keySet.keys = [])
    (hread : client.certPem ≠ [] → server.requireClientAuth = true) {secrets : HandshakeSecrets}
    (hsecrets : sessionSecrets lib client server = .ok secrets) :
    ∃ clientCertPem, Talks (server.accept lib)
    (mirror (conversation lib client server serverSecret))
      (serverStream secrets (selectAlpn server.alpn client.alpn), clientCertPem, none) := by
  have hselected := hhonest.selected_text hnames
  have hserverHello : (server.hello lib client.alpn).length ≤ 65535 :=
    length_buildServerHello_le hhonest.serverPoint_ne_zero (fun proto hproto ↦
      (hselected proto hproto).1) _ _
  have hparse : ClientHello.fromBytes lib.deserializeTicket (client.hello lib) = .ok _ :=
    fromBytes_buildClientHello (fun proto hproto ↦
      ⟨hnames proto hproto, hhonest.names proto hproto⟩) hfits.hello
  have hshared : server.entropy.scalar • client.entropy.scalar • lib.sm2.generator =
      (client.entropy.scalar * server.entropy.scalar) • lib.sm2.generator := by
    rw [mul_comm, mul_smul]
  have hticket := createTicket_eq_none lib hkeys server.clock server.entropy secrets
    (buildServerHello lib server.entropy (selectAlpn server.alpn client.alpn) server.certPem
      server.requireClientAuth) (buildClientHello lib client.entropy client.alpn none none)
    server.requireClientAuth
  refine ⟨if server.requireClientAuth = true then some (utf8Lossy client.certPem) else none, ?_⟩
  rw [ServerSetup.accept, acceptGmRustInnerWithCert, conversation, serverFlight]
  simp only [mirror_append, mirror_sending, mirror_receiving, sending_append, append_assoc]
  refine .bind (talks_readHandshakeRecord versionTls13 hfits.hello) ?_
  rw [hparse]
  refine .check_bind rfl (.check_bind (parseSm2Pubkey_encode _) ?_)
  rw [hshared]
  refine .check_bind hsecrets ?_
  refine .bind (talks_writeHandshakeRecord versionTls13 hserverHello) ?_
  have halpn : (buildClientHello lib client.entropy client.alpn none none).alpn = client.alpn := rfl
  rw [halpn, hticket]
  refine .check_bind rfl (.silent_bind (.pure _) ?_)
  rw [if_neg hhonest.certificate]
  refine .bind (talks_sendOptional _ hfits.serverCertificate) ?_
  rw [hhonest.key]
  have hacc := hhonest.secret_accepts (certificateTranscript lib client server)
  refine .check_bind rfl (.check_bind (congrArg _ (sign_of_accepts hacc)) ?_)
  refine .bind (talks_writeHandshakeRecord versionTls13 length_verifyMessage) ?_
  refine .check_bind (signerFromScalar_eq hhonest.serverScalar_ne_zero hhonest.serverSigns) ?_
  refine .check_bind (signFinished_of_accepts (hhonest.server_accepts _)) ?_
  refine .bind (talks_writeHandshakeRecord versionTls13 (length_finishedMessage _)) ?_
  by_cases hauth : server.requireClientAuth = true
  · rw [if_pos hauth, if_pos hauth]
    exact .last (hhonest.talks_authenticateClient hauth hfits) (.pure _)
  have hcert : client.certPem = [] := not_not.mp fun hcert ↦ hauth (hread hcert)
  rw [if_neg hauth, if_neg hauth, clientFlight, if_pos hcert]
  exact .pure _

end HonestSides

end GmStack.Tls
