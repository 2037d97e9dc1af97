import GmStack.Foundation.Wire
import GmStack.Crypto.Sm2Signature

/-! The messages of `gm-tlcp/src/tlcp/messages`, the cipher suites of `cipher_suite.rs` and the
message framing of `mod.rs`. -/

namespace GmStack.Tlcp

open Foundation Crypto List

/-- `TlcpError`; a panic is a value of its own. -/
inductive TlcpError
  | handshakeFailed (message : String)
  | cipherError (message : String)
  | handshakeMessageParse (message : String)
  | sm2KeyError (message : String)
  | certificateVerificationFailed (message : String)
  | ioError (message : String)
  | sequenceOverflow
  | tlsRecordError (message : String)
  | parseError (message : String)
  | nonceReuse
  | invalidHandshakeType (code : UInt8)
  | invalidMessage (message : String)
  | invalidState (message : String)
  | panicked (message : String)
  deriving DecidableEq

def TlcpError.display : TlcpError → String
  | .handshakeFailed message => "handshake failed: " ++ message
  | .cipherError message => "GM cipher error: " ++ message
  | .handshakeMessageParse message => "handshake message parse failed: " ++ message
  | .sm2KeyError message => "SM2/RSA key error: " ++ message
  | .certificateVerificationFailed message => "certificate verification failed: " ++ message
  | .ioError message => "I/O error: " ++ message
  | .sequenceOverflow => "sequence overflow: GCM nonce cannot exceed 2^64-1"
  | .tlsRecordError message => "TLS record error: " ++ message
  | .parseError message => "parse error: " ++ message
  | .nonceReuse => "GCM nonce reuse detected: same nonce used twice with the same key"
  | .invalidHandshakeType code =>
    "invalid handshake type: 0x" ++ String.ofList (Nat.toDigits 16 code.toNat)
  | .invalidMessage message => "invalid message: " ++ message
  | .invalidState message => "invalid state: " ++ message
  | .panicked message => message

def TlcpError.debug : TlcpError → String
  | .handshakeFailed message => "HandshakeFailed(" ++ message.quote ++ ")"
  | .cipherError message => "CipherError(" ++ message.quote ++ ")"
  | .handshakeMessageParse message => "HandshakeMessageParse(" ++ message.quote ++ ")"
  | .sm2KeyError message => "Sm2KeyError(" ++ message.quote ++ ")"
  | .certificateVerificationFailed message =>
    "CertificateVerificationFailed(" ++ message.quote ++ ")"
  | .ioError message => "IoError(" ++ message.quote ++ ")"
  | .sequenceOverflow => "SequenceOverflow"
  | .tlsRecordError message => "TlsRecordError(" ++ message.quote ++ ")"
  | .parseError message => "ParseError(" ++ message.quote ++ ")"
  | .nonceReuse => "NonceReuse"
  | .invalidHandshakeType code => "InvalidHandshakeType(" ++ toString code.toNat ++ ")"
  | .invalidMessage message => "InvalidMessage(" ++ message.quote ++ ")"
  | .invalidState message => "InvalidState(" ++ message.quote ++ ")"
  | .panicked message => message

def TlcpError.ofCrypto : CryptoError → TlcpError
  | .panicked message => .panicked message
  | other => .handshakeFailed other.display

inductive KeyExchangeMode
  | ecdhe
  | ecc
  | ibc
  | ibsdh
  | rsa
  deriving DecidableEq

/-- The two octets of a suite on the wire. -/
abbrev SuiteId := UInt8 × UInt8

/-- `TlcpCipherSuite`: the twelve suites. -/
inductive TlcpCipherSuite
  | ecdheSm4GcmSm3
  | ecdheSm4CbcSm3
  | eccSm4GcmSm3
  | eccSm4CbcSm3
  | ibcSm4GcmSm3
  | ibcSm4CbcSm3
  | ibsdhSm4GcmSm3
  | ibsdhSm4CbcSm3
  | rsaSm4GcmSm3
  | rsaSm4CbcSm3
  | rsaSm4GcmSha256
  | rsaSm4CbcSha256
  deriving DecidableEq

namespace TlcpCipherSuite

def all : List TlcpCipherSuite :=
  [ecdheSm4GcmSm3, ecdheSm4CbcSm3, eccSm4GcmSm3, eccSm4CbcSm3, ibcSm4GcmSm3, ibcSm4CbcSm3,
    ibsdhSm4GcmSm3, ibsdhSm4CbcSm3, rsaSm4GcmSm3, rsaSm4CbcSm3, rsaSm4GcmSha256, rsaSm4CbcSha256]

def id : TlcpCipherSuite → SuiteId
  | ecdheSm4GcmSm3 => (0xE0, 0x51)
  | ecdheSm4CbcSm3 => (0xE0, 0x11)
  | eccSm4GcmSm3 => (0xE0, 0x53)
  | eccSm4CbcSm3 => (0xE0, 0x13)
  | ibcSm4GcmSm3 => (0xE0, 0x57)
  | ibcSm4CbcSm3 => (0xE0, 0x17)
  | ibsdhSm4GcmSm3 => (0xE0, 0x55)
  | ibsdhSm4CbcSm3 => (0xE0, 0x15)
  | rsaSm4GcmSm3 => (0xE0, 0x59)
  | rsaSm4CbcSm3 => (0xE0, 0x19)
  | rsaSm4GcmSha256 => (0xE0, 0x5A)
  | rsaSm4CbcSha256 => (0xE0, 0x1C)

def keyExchange : TlcpCipherSuite → KeyExchangeMode
  | ecdheSm4GcmSm3 | ecdheSm4CbcSm3 => .ecdhe
  | eccSm4GcmSm3 | eccSm4CbcSm3 => .ecc
  | ibcSm4GcmSm3 | ibcSm4CbcSm3 => .ibc
  | ibsdhSm4GcmSm3 | ibsdhSm4CbcSm3 => .ibsdh
  | rsaSm4GcmSm3 | rsaSm4CbcSm3 | rsaSm4GcmSha256 | rsaSm4CbcSha256 => .rsa

def gcm : TlcpCipherSuite → Bool
  | ecdheSm4GcmSm3 | eccSm4GcmSm3 | ibcSm4GcmSm3 | ibsdhSm4GcmSm3 | rsaSm4GcmSm3
  | rsaSm4GcmSha256 => true
  | ecdheSm4CbcSm3 | eccSm4CbcSm3 | ibcSm4CbcSm3 | ibsdhSm4CbcSm3 | rsaSm4CbcSm3
  | rsaSm4CbcSha256 => false

def fromId (id : SuiteId) : Option TlcpCipherSuite := all.find? fun suite ↦ suite.id == id

@[simp] lemma fromId_id (suite : TlcpCipherSuite) : fromId suite.id = some suite := by
  cases suite <;> rfl

lemma id_of_fromId {id : SuiteId} {suite : TlcpCipherSuite} (hfound : fromId id = some suite) :
    suite.id = id := by
  have hid := find?_some hfound
  exact eq_of_beq hid

end TlcpCipherSuite

inductive HandshakeType
  | clientHello
  | serverHello
  | certificate
  | serverKeyExchange
  | certificateRequest
  | serverHelloDone
  | certificateVerify
  | clientKeyExchange
  | finished
  deriving DecidableEq

namespace HandshakeType

def code : HandshakeType → UInt8
  | clientHello => 0x01
  | serverHello => 0x02
  | certificate => 0x0B
  | serverKeyExchange => 0x0C
  | certificateRequest => 0x0D
  | serverHelloDone => 0x0E
  | certificateVerify => 0x0F
  | clientKeyExchange => 0x10
  | finished => 0x14

def debug : HandshakeType → String
  | clientHello => "ClientHello"
  | serverHello => "ServerHello"
  | certificate => "Certificate"
  | serverKeyExchange => "ServerKeyExchange"
  | certificateRequest => "CertificateRequest"
  | serverHelloDone => "ServerHelloDone"
  | certificateVerify => "CertificateVerify"
  | clientKeyExchange => "ClientKeyExchange"
  | finished => "Finished"

def tryFrom (value : UInt8) : Except TlcpError HandshakeType :=
  if value = 0x01 then .ok clientHello
  else if value = 0x02 then .ok serverHello
  else if value = 0x0B then .ok certificate
  else if value = 0x0C then .ok serverKeyExchange
  else if value = 0x0D then .ok certificateRequest
  else if value = 0x0E then .ok serverHelloDone
  else if value = 0x0F then .ok certificateVerify
  else if value = 0x10 then .ok clientKeyExchange
  else if value = 0x14 then .ok finished
  else .error (.invalidHandshakeType value)

@[simp] lemma tryFrom_code (type : HandshakeType) : tryFrom type.code = .ok type := by
  cases type <;> rfl

lemma code_of_tryFrom {value : UInt8} {type : HandshakeType} (htype : tryFrom value = .ok type) :
    value = type.code := by
  unfold tryFrom at htype
  split_ifs at htype <;> cases htype <;> assumption

end HandshakeType

def handshakeMessage (type : HandshakeType) (body : Bytes) : Bytes := type.code :: lengthThen 3 body

@[simp] lemma length_handshakeMessage (type : HandshakeType) (body : Bytes) :
    (handshakeMessage type body).length = body.length + 4 := by
  rw [handshakeMessage, length_cons, length_lengthThen]
  omega

def parseHandshakeMessage (payload : Bytes) : Except TlcpError (HandshakeType × Bytes × Bytes) := do
  rejectIf (payload.length < 4) (.invalidMessage "Handshake message too short")
  let type ← HandshakeType.tryFrom (payload.headD 0)
  let (body, remaining) ← takeLengthThen 3 (.invalidMessage "Handshake message too short")
    (fun bodyLen ↦ .invalidMessage ("Handshake body truncated: " ++
      toString (payload.length - 4) ++ " bytes available, " ++ toString bodyLen ++ " needed"))
    (payload.drop 1)
  .ok (type, body, remaining)

lemma parseHandshakeMessage_append {type : HandshakeType} {body : Bytes}
    (hlen : body.length < 256 ^ 3) (rest : Bytes) :
    parseHandshakeMessage (handshakeMessage type body ++ rest) = .ok (type, body, rest) := by
  have hshort : ¬ (handshakeMessage type body ++ rest).length < 4 := by simp; omega
  have hdrop : (handshakeMessage type body ++ rest).drop 1 = lengthThen 3 body ++ rest := rfl
  have hhead : (handshakeMessage type body ++ rest).headD 0 = type.code := rfl
  rw [parseHandshakeMessage, rejectIf_bind hshort, hhead, HandshakeType.tryFrom_code, ok_bind,
    hdrop, takeLengthThen_append hlen]
  rfl

lemma parseHandshakeMessage_handshakeMessage {type : HandshakeType} {body : Bytes}
    (hlen : body.length < 256 ^ 3) :
    parseHandshakeMessage (handshakeMessage type body) = .ok (type, body, []) := by
  simpa using parseHandshakeMessage_append hlen []

lemma parseHandshakeMessage_eq_ok {payload body trailing : Bytes} {type : HandshakeType} :
    parseHandshakeMessage payload = .ok (type, body, trailing) ↔
      payload = handshakeMessage type body ++ trailing ∧ body.length < 256 ^ 3 := by
  constructor
  · intro hparse
    simp only [parseHandshakeMessage, bind_eq_ok, Prod.exists, takeLengthThen_eq_ok,
      Except.ok.injEq,
      Prod.mk.injEq, rejectIf_eq_ok] at hparse
    obtain ⟨_, hlong, _, hcode, _, _, ⟨hdrop, hlen⟩, rfl, rfl, rfl⟩ := hparse
    refine ⟨?_, hlen⟩
    cases payload with
    | nil => simp at hlong
    | cons head rest =>
      have hhead := HandshakeType.code_of_tryFrom hcode
      rw [headD_cons] at hhead
      rw [drop_succ_cons, drop_zero] at hdrop
      rw [hhead, hdrop]
      rfl
  · rintro ⟨rfl, hlen⟩
    exact parseHandshakeMessage_append hlen trailing

/-! ### Hellos -/

def tlcpVersion10 : UInt8 × UInt8 := (0x01, 0x01)

def maxSessionIdLen : ℕ := 32

structure ClientHello where
  version : UInt8 × UInt8
  random : Octets 32
  sessionId : Bytes
  cipherSuites : List SuiteId
  compressionMethods : Bytes

def pairsToBytes (pairs : List (UInt8 × UInt8)) : Bytes := pairs.flatMap fun pair ↦ [pair.1, pair.2]

def pairsOfBytes : Bytes → List (UInt8 × UInt8)
  | first :: second :: rest => (first, second) :: pairsOfBytes rest
  | _ => []

@[simp] lemma length_pairsToBytes (pairs : List (UInt8 × UInt8)) : (pairsToBytes pairs).length =
    2 * pairs.length := by
  induction pairs with
  | nil => rfl
  | cons pair rest ih =>
    rw [pairsToBytes, flatMap_cons, length_append]
    rw [pairsToBytes] at ih
    simp only [length_cons, length_nil]
    omega

@[simp] lemma pairsOfBytes_pairsToBytes (pairs : List (UInt8 × UInt8)) :
    pairsOfBytes (pairsToBytes pairs) = pairs := by
  induction pairs with
  | nil => rfl
  | cons pair rest ih => exact congrArg (pair :: ·) ih

namespace ClientHello

def body (hello : ClientHello) : Bytes :=
  hello.version.1 :: hello.version.2 :: (hello.random.bytes ++
    (lengthThen 1 hello.sessionId ++ (lengthThen 2 (pairsToBytes hello.cipherSuites) ++
      lengthThen 1 hello.compressionMethods)))

def toBytes (hello : ClientHello) : Bytes := handshakeMessage .clientHello hello.body

def fromBody (data : Bytes) : Except TlcpError ClientHello := do
  rejectIf (data.length < 36) (.invalidMessage "ClientHello too short")
  let version := (data.headD 0, (data.drop 1).headD 0)
  let (random, rest) ← takeExact 32 (.invalidMessage "ClientHello too short") (data.drop 2)
  let (sidLen, rest) ← splitExact 1 (.invalidMessage "ClientHello truncated at session_id_len") rest
  let sidLen := beNat sidLen
  rejectIf (sidLen > maxSessionIdLen) (.invalidMessage ("ClientHello session_id_len " ++
    toString sidLen ++ " exceeds MAX_SESSION_ID_LEN (" ++ toString maxSessionIdLen ++ ")"))
  let (sessionId, rest) ← splitExact sidLen (.invalidMessage "ClientHello truncated at session_id")
    rest
  let (csLen, rest) ← splitExact 2 (.invalidMessage "ClientHello truncated at cipher_suites_len")
    rest
  let csLen := beNat csLen
  rejectIf (rest.length < csLen ∨ csLen % 2 ≠ 0)
    (.invalidMessage "ClientHello truncated at cipher_suites")
  let cipherSuites := pairsOfBytes (rest.take csLen)
  let (compressionMethods, _) ← takeLengthThen 1
    (.invalidMessage "ClientHello truncated at compression_len")
    (fun _ ↦ .invalidMessage "ClientHello truncated at compression") (rest.drop csLen)
  rejectIf (compressionMethods.all (· == 0x00) = false) (.invalidMessage
    "ClientHello compression_methods must be all 0x00 (TLCP only supports null)")
  .ok { version, random, sessionId, cipherSuites, compressionMethods }

/-- The fields of a hello fit the lengths in front of them, and only null compression is offered. -/
structure Fits (hello : ClientHello) : Prop where
  sessionId : hello.sessionId.length ≤ maxSessionIdLen
  cipherSuites : hello.cipherSuites.length < 32768
  compressionMethods : hello.compressionMethods.length < 256
  compression : hello.compressionMethods.all (· == 0x00) = true

variable {hello : ClientHello}

lemma Fits.length_body (hfits : hello.Fits) : hello.body.length < 256 ^ 3 := by
  have hsid : hello.sessionId.length ≤ 32 := hfits.sessionId
  have hsuites := hfits.cipherSuites
  have hcompr := hfits.compressionMethods
  simp only [body, length_cons, length_append, length_lengthThen, length_pairsToBytes,
    Octets.length_bytes]
  omega

lemma fromBody_append (hfits : hello.Fits) (trailing : Bytes) :
    fromBody (hello.body ++ trailing) = .ok hello := by
  have hsid : beNat (beOctets 1 hello.sessionId.length) = hello.sessionId.length :=
    beNat_beOctets (lt_of_le_of_lt hfits.sessionId (by decide))
  have hcs : beNat (beOctets 2 (pairsToBytes hello.cipherSuites).length) =
    (pairsToBytes hello.cipherSuites).length :=
    beNat_beOctets (by rw [length_pairsToBytes]; have := hfits.cipherSuites; omega)
  have hcomp : hello.compressionMethods.length < 256 ^ 1 := hfits.compressionMethods
  have hdrop : (hello.body ++ trailing).drop 2 = hello.random.bytes ++
      (beOctets 1 hello.sessionId.length ++ (hello.sessionId ++
        (beOctets 2 (pairsToBytes hello.cipherSuites).length ++ (pairsToBytes hello.cipherSuites ++
          (lengthThen 1 hello.compressionMethods ++ trailing))))) := by
    simp [body, lengthThen]
  rw [fromBody, rejectIf_bind (by simp [body]; omega)]
  simp only [hdrop, takeExact_append, ok_bind,
    splitExact_append (length_beOctets 1 hello.sessionId.length).symm, hsid,
    rejectIf_neg (Nat.not_lt.mpr hfits.sessionId),
      splitExact_append (Eq.refl hello.sessionId.length),
    splitExact_append (length_beOctets 2 (pairsToBytes hello.cipherSuites).length).symm, hcs,
    take_left, drop_left, takeLengthThen_append hcomp, pairsOfBytes_pairsToBytes]
  rw [rejectIf_bind (by simp), rejectIf_neg (by rw [hfits.compression]; decide)]
  rfl

end ClientHello

structure ServerHello where
  version : UInt8 × UInt8
  random : Octets 32
  sessionId : Bytes
  cipherSuite : SuiteId
  compressionMethod : UInt8
  deriving DecidableEq

namespace ServerHello

def body (hello : ServerHello) : Bytes :=
  hello.version.1 :: hello.version.2 :: (hello.random.bytes ++ (lengthThen 1 hello.sessionId ++
    [hello.cipherSuite.1, hello.cipherSuite.2, hello.compressionMethod]))

def toBytes (hello : ServerHello) : Bytes := handshakeMessage .serverHello hello.body

def fromBytes (data : Bytes) : Except TlcpError ServerHello := do
  rejectIf (data.length < 38) (.invalidMessage "ServerHello too short")
  let version := (data.headD 0, (data.drop 1).headD 0)
  let (random, rest) ← takeExact 32 (.invalidMessage "ServerHello too short") (data.drop 2)
  let (sessionIdLen, rest) ← splitExact 1 (.invalidMessage "ServerHello too short") rest
  let sessionIdLen := beNat sessionIdLen
  rejectIf (rest.length < sessionIdLen + 3) (.invalidMessage "ServerHello truncated")
  let sessionId := rest.take sessionIdLen
  let rest := rest.drop sessionIdLen
  let cipherSuite := (rest.headD 0, (rest.drop 1).headD 0)
  rejectIf (TlcpCipherSuite.fromId cipherSuite = none) (.invalidMessage
    ("ServerHello cipher_suite " ++ hexOctets [cipherSuite.1, cipherSuite.2] ++
      " is not a known TLCP suite (gm-tlcp 0.6.0 supports all 12 GB/T 38636-2020 suites: " ++
      "ECDHE/ECC + IBC + IBSDH + RSA)"))
  let compressionMethod := (rest.drop 2).headD 0
  rejectIf (compressionMethod ≠ 0x00) (.invalidMessage ("ServerHello compression_method " ++
    toString compressionMethod.toNat ++ " must be 0x00 (TLCP null compression)"))
  .ok { version, random, sessionId, cipherSuite, compressionMethod }

lemma fromBytes_body {hello : ServerHello} (hsid : hello.sessionId.length < 256)
    {suite : TlcpCipherSuite} (hsuite : hello.cipherSuite = suite.id)
    (hcompr : hello.compressionMethod = 0x00) : fromBytes hello.body = .ok hello := by
  have hann : beNat (beOctets 1 hello.sessionId.length) = hello.sessionId.length :=
    beNat_beOctets hsid
  have hdrop : hello.body.drop 2 = hello.random.bytes ++ (beOctets 1 hello.sessionId.length ++
      (hello.sessionId ++ [hello.cipherSuite.1, hello.cipherSuite.2,
      hello.compressionMethod])) := by
    simp [body, lengthThen]
  rw [fromBytes, rejectIf_bind (by simp [body]; omega)]
  simp only [hdrop, takeExact_append, ok_bind,
    splitExact_append (length_beOctets 1 hello.sessionId.length).symm, hann, take_left,
    drop_left, drop_succ_cons, drop_zero, headD_cons]
  have hknown : TlcpCipherSuite.fromId (hello.cipherSuite.1, hello.cipherSuite.2) ≠ none := by
    rw [Prod.mk.eta, hsuite, TlcpCipherSuite.fromId_id]
    exact Option.some_ne_none suite
  rw [rejectIf_bind (by simp), rejectIf_bind hknown, rejectIf_neg (not_not.mpr hcompr)]
  rfl

end ServerHello

def serverHelloDoneBytes : Bytes := handshakeMessage .serverHelloDone []

inductive CertMode
  | dual
  | single
  deriving DecidableEq

structure CertPair where
  signCert : Bytes
  encCert : Bytes
  signChain : List Bytes
  encChain : List Bytes
  mode : CertMode
  deriving DecidableEq

def certEntriesToBytes (certs : List Bytes) : Bytes := certs.flatMap (lengthThen 3)

def certEntries : ℕ → Bytes → List Bytes
  | 0, _ => []
  | fuel + 1, input =>
    match takeLengthThen 3 () (fun _ ↦ ()) input with
    | .ok (cert, rest) => cert :: certEntries fuel rest
    | .error _ => []

lemma certEntries_certEntriesToBytes {certs : List Bytes}
    (hlen : ∀ cert ∈ certs, cert.length < 256 ^ 3) {fuel : ℕ} (hfuel : certs.length ≤ fuel) :
    certEntries fuel (certEntriesToBytes certs) = certs := by
  induction certs generalizing fuel with
  | nil =>
    cases fuel with
    | zero => rfl
    | succ fuel => rfl
  | cons cert rest ih =>
    cases fuel with
    | zero => cases hfuel
    | succ fuel =>
      have hcert := hlen cert mem_cons_self
      have hrest := ih (forall_mem_cons.mp hlen).2 (Nat.le_of_succ_le_succ hfuel)
      simp only [certEntries, certEntriesToBytes, flatMap_cons, takeLengthThen_append hcert]
      exact congrArg (cert :: ·) hrest

lemma length_le_certEntriesToBytes (certs : List Bytes) :
    certs.length ≤ (certEntriesToBytes certs).length := by
  induction certs with
  | nil => exact le_refl 0
  | cons cert rest ih =>
    simp only [certEntriesToBytes, flatMap_cons, length_append, length_lengthThen,
      length_cons] at ih ⊢
    omega

namespace CertPair

def newSingle (cert : Bytes) : CertPair := ⟨cert, [], [], [], .single⟩

def withChains (signCert encCert : Bytes) (signChain encChain : List Bytes) : CertPair :=
  ⟨signCert, encCert, signChain, encChain, .dual⟩

def entries (pair : CertPair) : List Bytes :=
  match pair.mode with
  | .dual => pair.signCert :: pair.encCert :: (pair.signChain ++ pair.encChain)
  | .single => [pair.signCert]

def body (pair : CertPair) : Bytes := lengthThen 3 (certEntriesToBytes pair.entries)

def toCertificateMessage (pair : CertPair) : Bytes := handshakeMessage .certificate pair.body

def ofEntries : List Bytes → Except TlcpError CertPair
  | [] => .error (.invalidMessage "Certificate message contains no cert entries")
  | [signCert] => .ok (newSingle signCert)
  | signCert :: encCert :: rest => .ok (withChains signCert encCert rest [])

def fromCertificateMessage (body : Bytes) : Except TlcpError CertPair := do
  rejectIf (body.length < 3) (.invalidMessage "Certificate body too short")
  ofEntries (certEntries body.length (body.drop 3))

lemma fromCertificateMessage_body {pair : CertPair}
    (hlen : ∀ cert ∈ pair.entries, cert.length < 256 ^ 3) :
    fromCertificateMessage pair.body = ofEntries pair.entries := by
  have hdrop : pair.body.drop 3 = certEntriesToBytes pair.entries := by
    rw [body, lengthThen, drop_append_of_le_length (length_beOctets _ _).ge,
      drop_of_length_le (length_beOctets _ _).le, nil_append]
  have hfuel : pair.entries.length ≤ pair.body.length := by
    have := length_le_certEntriesToBytes pair.entries
    rw [body, length_lengthThen]
    omega
  rw [fromCertificateMessage, rejectIf_bind (by rw [body, length_lengthThen]; omega), hdrop,
    certEntries_certEntriesToBytes hlen hfuel]

end CertPair

def certificateRequestBytes : Bytes :=
  handshakeMessage .certificateRequest (lengthThen 1 [1, 64, 80] ++ beOctets 2 0)

/-! ### Key exchange -/

def echParamsPrefix : Bytes := [0x03, 0x00, 0x29]

def ecdhePoint (ephemeralPublic : Bytes) : Bytes := echParamsPrefix ++ lengthThen 1 ephemeralPublic

structure Sm2EcdheParams where
  ephemeralPublic : Bytes
  signature : Bytes
  deriving DecidableEq

namespace Sm2EcdheParams

def toBytes (params : Sm2EcdheParams) : Bytes :=
  ecdhePoint params.ephemeralPublic ++ lengthThen 2 params.signature

def fromBytes (data : Bytes) : Except TlcpError Sm2EcdheParams := do
  let tooShort (need : ℕ) : TlcpError := .invalidMessage ("ECDHE params too short: " ++
    toString data.length ++ " bytes, need at least " ++ toString need)
  rejectIf (data.length < 6) (tooShort 6)
  rejectIf (data.take 3 ≠ echParamsPrefix) (.invalidMessage
    ("ECDHE params have wrong ECParameters prefix: got " ++ hexOctets (data.take 3) ++ ", want " ++
      hexOctets echParamsPrefix))
  let (pubLen, rest) ← splitExact 1 (tooShort 6) (data.drop 3)
  let pubLen := beNat pubLen
  let (ephemeralPublic, rest) ← splitExact pubLen (tooShort (6 + pubLen)) rest
  let (signature, _) ← takeLengthThen 2 (tooShort (6 + pubLen))
    (fun sigLen ↦ .invalidMessage ("ECDHE signature too short: " ++
      toString (rest.length - 2) ++ " bytes, need " ++ toString sigLen)) rest
  .ok { ephemeralPublic, signature }

lemma fromBytes_toBytes {params : Sm2EcdheParams} (hpub : params.ephemeralPublic.length < 256)
    (hsig : params.signature.length < 256 ^ 2) : fromBytes params.toBytes = .ok params := by
  have hann : beNat (beOctets 1 params.ephemeralPublic.length) = params.ephemeralPublic.length :=
    beNat_beOctets hpub
  have hdrop : params.toBytes.drop 3 = beOctets 1 params.ephemeralPublic.length ++
      (params.ephemeralPublic ++ lengthThen 2 params.signature) := by
    simp [toBytes, ecdhePoint, echParamsPrefix, lengthThen]
  have htake : params.toBytes.take 3 = echParamsPrefix := rfl
  rw [fromBytes, rejectIf_bind (by simp [toBytes, ecdhePoint, echParamsPrefix]; omega),
    rejectIf_ne_bind htake, hdrop,
    splitExact_append (length_beOctets 1 params.ephemeralPublic.length).symm, ok_bind]
  simp only [hann, splitExact_append (Eq.refl params.ephemeralPublic.length), ok_bind]
  rw [takeLengthThen_lengthThen hsig]
  rfl

end Sm2EcdheParams

inductive ServerKeyExchangeBody
  | ecdhe (params : Sm2EcdheParams)
  | ecc (signature : Bytes)
  | ibc (serverId signature : Bytes)
  | ibsdh (ra rb sb : Bytes)
  deriving DecidableEq

namespace ServerKeyExchangeBody

def asEcdhe : ServerKeyExchangeBody → Option Sm2EcdheParams
  | ecdhe params => some params
  | _ => none

def asIbc : ServerKeyExchangeBody → Option (Bytes × Bytes)
  | ibc serverId signature => some (serverId, signature)
  | _ => none

def asIbsdh : ServerKeyExchangeBody → Option (Bytes × Bytes × Bytes)
  | ibsdh ra rb sb => some (ra, rb, sb)
  | _ => none

def bodyToBytes : ServerKeyExchangeBody → Bytes
  | ecdhe params => params.toBytes
  | ecc signature => lengthThen 2 signature
  | ibc serverId signature => lengthThen 2 serverId ++ lengthThen 2 signature
  | ibsdh ra rb sb => lengthThen 2 ra ++ (lengthThen 2 rb ++ lengthThen 2 sb)

def toBytes (ske : ServerKeyExchangeBody) : Bytes :=
  handshakeMessage .serverKeyExchange ske.bodyToBytes

def fromBody (body : Bytes) : KeyExchangeMode → Except TlcpError ServerKeyExchangeBody
  | .ecdhe => do
    rejectIf (body.take 3 ≠ echParamsPrefix)
      (.invalidMessage "ECDHE SKE body must start with ECParameters prefix")
    let params ← Sm2EcdheParams.fromBytes body
    .ok (ecdhe params)
  | .ecc => do
    let (signature, _) ← takeLengthThen 2 (.invalidMessage ("ECC SKE body too short: " ++
      toString body.length ++ " bytes, need at least 2")) (fun sigLen ↦ .invalidMessage
        ("ECC SKE signature truncated: body " ++ toString body.length ++ " < 2 + sig_len " ++
        toString sigLen)) body
    .ok (ecc signature)
  | .ibc => do
    rejectIf (body.length < 4) (.invalidMessage ("IBC SKE body too short: " ++
      toString body.length ++ " bytes, need at least 4"))
    let idTruncated (idLen : ℕ) : TlcpError := .invalidMessage ("IBC SKE id truncated: body " ++
      toString body.length ++ " < 4 + id_len " ++ toString idLen)
    let (serverId, rest) ← takeLengthThen 2 (idTruncated 0) idTruncated body
    let (signature, _) ← takeLengthThen 2 (idTruncated serverId.length)
      (fun sigLen ↦ .invalidMessage
      ("IBC SKE signature truncated: body " ++ toString body.length ++ " < " ++
        toString (4 + serverId.length) ++ " + sig_len " ++ toString sigLen)) rest
    .ok (ibc serverId signature)
  | .ibsdh => do
    let truncated (what : String) (offset len : ℕ) : TlcpError := .invalidMessage
      ("IBSDH SKE " ++ what ++ " truncated: body " ++ toString body.length ++ " < " ++
        toString offset ++ " + " ++ what ++ "_len " ++ toString len)
    let (ra, rest) ← takeLengthThen 2 (.invalidMessage ("IBSDH SKE body too short: " ++
      toString body.length ++ " bytes, need at least 2")) (truncated "ra" 4) body
    let (rb, rest) ← takeLengthThen 2 (truncated "ra" 4 ra.length)
      (truncated "rb" (6 + ra.length)) rest
    let (sb, _) ← takeLengthThen 2 (truncated "rb" (6 + ra.length) rb.length)
      (truncated "sb" (6 + ra.length + rb.length)) rest
    .ok (ibsdh ra rb sb)
  | .rsa => .error (.invalidMessage "ServerKeyExchange not used for RSA suites (yet)")

def mode : ServerKeyExchangeBody → KeyExchangeMode
  | ecdhe _ => .ecdhe
  | ecc _ => .ecc
  | ibc _ _ => .ibc
  | ibsdh _ _ _ => .ibsdh

/-- The parts of a body fit the lengths in front of them. -/
def Fits : ServerKeyExchangeBody → Prop
  | ecdhe params => params.ephemeralPublic.length < 256 ∧ params.signature.length < 256 ^ 2
  | ecc signature => signature.length < 256 ^ 2
  | ibc serverId signature => serverId.length < 256 ^ 2 ∧ signature.length < 256 ^ 2
  | ibsdh ra rb sb => ra.length < 256 ^ 2 ∧ rb.length < 256 ^ 2 ∧ sb.length < 256 ^ 2

lemma fromBody_bodyToBytes {ske : ServerKeyExchangeBody} (hfits : ske.Fits) :
    fromBody ske.bodyToBytes ske.mode = .ok ske := by
  cases ske with
  | ecdhe params =>
    have htake : params.toBytes.take 3 = echParamsPrefix := rfl
    rw [bodyToBytes, mode, fromBody, rejectIf_ne_bind htake,
      Sm2EcdheParams.fromBytes_toBytes hfits.1 hfits.2]
    rfl
  | ecc signature =>
    rw [bodyToBytes, mode, fromBody, takeLengthThen_lengthThen hfits]
    rfl
  | ibc serverId signature =>
    rw [bodyToBytes, mode, fromBody, rejectIf_neg (by simp; omega)]
    simp only [ok_bind, takeLengthThen_append hfits.1, takeLengthThen_lengthThen hfits.2]
  | ibsdh ra rb sb =>
    simp only [bodyToBytes, mode, fromBody, takeLengthThen_append hfits.1,
      takeLengthThen_append hfits.2.1, ok_bind, takeLengthThen_lengthThen hfits.2.2]

end ServerKeyExchangeBody

inductive ClientKeyExchangeBody
  | ecdhe (ephemeralPublic : Bytes)
  | ecc (ciphertext : Bytes)
  | ibc (ciphertext : Bytes)
  | ibsdh (ra : Bytes)
  | rsa (ciphertext : Bytes)

namespace ClientKeyExchangeBody

def newEcdhe (ephemeralPublic : Bytes) : ClientKeyExchangeBody := ecdhe (ecdhePoint ephemeralPublic)

def payload : ClientKeyExchangeBody → Bytes
  | ecdhe ephemeralPublic => ephemeralPublic
  | ecc ciphertext => ciphertext
  | ibc ciphertext => ciphertext
  | ibsdh ra => ra
  | rsa ciphertext => ciphertext

def toBytes (cke : ClientKeyExchangeBody) : Bytes := handshakeMessage .clientKeyExchange cke.payload

def fromBody (body : Bytes) (isEccMode isIbcMode isIbsdhMode isRsaMode : Bool) :
    ClientKeyExchangeBody :=
  if isIbcMode then ibc body
  else if isIbsdhMode then ibsdh body
  else if isEccMode then ecc body
  else if isRsaMode then rsa body
  else ecdhe body

def asIbcCiphertext : ClientKeyExchangeBody → Option Bytes
  | ibc ciphertext => some ciphertext
  | _ => none

def asEccCiphertext : ClientKeyExchangeBody → Option Bytes
  | ecc ciphertext => some ciphertext
  | _ => none

def asRsaCiphertext : ClientKeyExchangeBody → Option Bytes
  | rsa ciphertext => some ciphertext
  | _ => none

def asIbsdhRa : ClientKeyExchangeBody → Option Bytes
  | ibsdh ra => some ra
  | _ => none

def ecdhePublicKey : ClientKeyExchangeBody → Option Bytes
  | ecdhe envelope =>
    if envelope.take 3 = echParamsPrefix ∧ 4 ≤ envelope.length ∧ envelope.length =
      4 + beNat ((envelope.drop 3).take 1) then
      some (envelope.drop 4)
    else none
  | _ => none

lemma ecdhePublicKey_newEcdhe {ephemeralPublic : Bytes} (hlen : ephemeralPublic.length < 256) :
    (newEcdhe ephemeralPublic).ecdhePublicKey = some ephemeralPublic := by
  have hann : beNat (((ecdhePoint ephemeralPublic).drop 3).take 1) = ephemeralPublic.length := by
    have hbound : ephemeralPublic.length < 256 ^ 1 := hlen
    exact beNat_beOctets hbound
  have hsize : (ecdhePoint ephemeralPublic).length = 4 + ephemeralPublic.length := by
    simp [ecdhePoint, echParamsPrefix]
    omega
  have hdrop : (ecdhePoint ephemeralPublic).drop 4 = ephemeralPublic := rfl
  rw [newEcdhe, ecdhePublicKey, hann, hsize, hdrop]
  exact if_pos ⟨rfl, by omega, rfl⟩

end ClientKeyExchangeBody

def certificateVerifyBytes (signature : Bytes) : Bytes :=
  handshakeMessage .certificateVerify (lengthThen 2 signature)

structure Finished where
  verifyData : Octets 12

namespace Finished

def toBytes (finished : Finished) : Bytes := handshakeMessage .finished finished.verifyData.bytes

def fromBody (body : Bytes) : Except TlcpError Finished :=
  if hlength : body.length = 12 then .ok ⟨⟨body, hlength⟩⟩
  else .error (.handshakeFailed ("TLCP Finished body must be 12 bytes, got " ++
    toString body.length))

def verify (finished : Finished) (expected : Octets 12) : Bool := finished.verifyData == expected

lemma fromBody_verifyData (finished : Finished) :
    fromBody finished.verifyData.bytes = .ok finished := dif_pos finished.verifyData.length_bytes

end Finished

def ClientKeyExchangeBody.mode : ClientKeyExchangeBody → KeyExchangeMode
  | ecdhe _ => .ecdhe
  | ecc _ => .ecc
  | ibc _ => .ibc
  | ibsdh _ => .ibsdh
  | rsa _ => .rsa

/-- The message is one handshake message of the type, and `read` makes `value` of its body. -/
def ReadsBack {α : Type} (type : HandshakeType) (message : Bytes)
    (read : Bytes → Except TlcpError α) (value : α) : Prop :=
  ∃ body, parseHandshakeMessage message = .ok (type, body, []) ∧ read body = .ok value

lemma readsBack_handshakeMessage {α : Type} {type : HandshakeType} {body : Bytes}
    {read : Bytes → Except TlcpError α}
    {value : α} (hlen : body.length < 256 ^ 3) (hread : read body = .ok value) :
    ReadsBack type (handshakeMessage type body) read value :=
  ⟨body, parseHandshakeMessage_handshakeMessage hlen, hread⟩

lemma ServerKeyExchangeBody.Fits.length_bodyToBytes {ske : ServerKeyExchangeBody}
    (hfits : ske.Fits) :
    ske.bodyToBytes.length < 256 ^ 3 := by
  cases ske <;> simp [Fits, bodyToBytes, Sm2EcdheParams.toBytes, ecdhePoint,
    echParamsPrefix] at hfits ⊢ <;> omega

lemma CertPair.readsBack {pair received : CertPair} (hbody : pair.body.length < 256 ^ 3)
    (hreceived : ofEntries pair.entries = .ok received) :
    ReadsBack .certificate pair.toCertificateMessage fromCertificateMessage received := by
  refine readsBack_handshakeMessage hbody ?_
  rw [fromCertificateMessage_body, hreceived]
  intro cert hcert
  have hentry : (lengthThen 3 cert).length ≤ (certEntriesToBytes pair.entries).length :=
    (sublist_flatten_of_mem (mem_map_of_mem hcert)).length_le
  rw [length_lengthThen] at hentry
  rw [body, length_lengthThen] at hbody
  omega

/-- Every message is read back as it was made. A ServerHello has to name null compression for that;
of a dual pair the two chains come back as one. -/
theorem messages_readBack :
    (∀ hello : ClientHello, hello.Fits →
    ReadsBack .clientHello hello.toBytes ClientHello.fromBody hello) ∧
    (∀ (hello : ServerHello) (suite : TlcpCipherSuite), hello.sessionId.length < 256 →
    hello.cipherSuite = suite.id →
      hello.compressionMethod = 0x00 →
      ReadsBack .serverHello hello.toBytes ServerHello.fromBytes hello) ∧
    (∀ ske : ServerKeyExchangeBody, ske.Fits →
      ReadsBack .serverKeyExchange ske.toBytes (ServerKeyExchangeBody.fromBody · ske.mode) ske) ∧
    (∀ cke : ClientKeyExchangeBody, cke.payload.length < 256 ^ 3 →
      ReadsBack .clientKeyExchange cke.toBytes (fun body ↦
      .ok (.fromBody body (cke.mode = .ecc) (cke.mode = .ibc)
        (cke.mode = .ibsdh) (cke.mode = .rsa))) cke) ∧
    (∀ finished : Finished, ReadsBack .finished finished.toBytes Finished.fromBody finished) ∧
    (∀ signCert encCert signChain encChain,
    (CertPair.withChains signCert encCert signChain encChain).body.length < 256 ^ 3 →
      ReadsBack .certificate
      (CertPair.withChains signCert encCert signChain encChain).toCertificateMessage
        CertPair.fromCertificateMessage (.withChains signCert encCert (signChain ++ encChain) [])) ∧
    (∀ cert, (CertPair.newSingle cert).body.length < 256 ^ 3 →
      ReadsBack .certificate (CertPair.newSingle cert).toCertificateMessage
      CertPair.fromCertificateMessage (.newSingle cert)) ∧
    ∀ key : Bytes, key.length ≤ 255 → (ClientKeyExchangeBody.newEcdhe key).ecdhePublicKey =
    some key := by
  refine ⟨fun hello hfits ↦ ?_, fun hello suite hsid hsuite hcompr ↦ ?_, fun ske hfits ↦
    ?_, fun cke hlen ↦ ?_,
    fun finished ↦ ?_, fun _ _ _ _ hbody ↦ CertPair.readsBack hbody rfl, fun _ hbody ↦
      CertPair.readsBack hbody rfl,
    fun key hkey ↦ ClientKeyExchangeBody.ecdhePublicKey_newEcdhe (Nat.lt_succ_of_le hkey)⟩
  · refine readsBack_handshakeMessage hfits.length_body ?_
    simpa using ClientHello.fromBody_append hfits []
  · refine readsBack_handshakeMessage ?_ (ServerHello.fromBytes_body hsid hsuite hcompr)
    simp only [ServerHello.body, length_cons, length_append, length_lengthThen, Octets.length_bytes,
      length_nil]
    omega
  · exact readsBack_handshakeMessage hfits.length_bodyToBytes
      (ServerKeyExchangeBody.fromBody_bodyToBytes hfits)
  · refine readsBack_handshakeMessage hlen ?_
    cases cke <;> rfl
  · refine readsBack_handshakeMessage ?_ (Finished.fromBody_verifyData finished)
    rw [Octets.length_bytes]
    decide

/-- A known suite with compression method 1 is refused, and a single certificate loses its chain. -/
theorem serverHello_compressed_rejected :
    ServerHello.fromBytes (⟨tlcpVersion10, ⟨replicate 32 0, rfl⟩, [],
    TlcpCipherSuite.eccSm4GcmSm3.id, 1⟩ : ServerHello).body =
        .error
        (.invalidMessage "ServerHello compression_method 1 must be 0x00 (TLCP null compression)") ∧
      CertPair.fromCertificateMessage (⟨[1], [], [[2]], [], .single⟩ : CertPair).body =
      .ok (.newSingle [1]) :=
  ⟨by rfl, by decide⟩

end GmStack.Tlcp
