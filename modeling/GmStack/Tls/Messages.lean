import GmStack.Crypto.Sm2Signature
import GmStack.Foundation.Wire

/-! The messages of `gm-tls/src/handshake.rs`. The hello decoders step over an extension by the
length its decoded form would have (`consumedBytes`). -/

namespace GmStack.Tls

open Foundation Crypto

/-- The variants of `TlsError` that the modelled code raises, and the panics of the source. -/
inductive TlsError
  | handshakeFailed (message : String)
  | certificateVerificationFailed (message : String)
  | crlVerificationFailed (message : String)
  | ioError (message : String)
  | sessionStoreError (message : String)
  | serializationFailed (message : String)
  | tlsRecordError (message : String)
  | parseError (message : String)
  | sessionTicketInvalid (message : String)
  | sessionTicketExpired
  | sessionTicketReplay
  | handshakeMessageParse (message : String)
  | sm2KeyError (message : String)
  | sequenceOverflow
  | nonceReuse
  | invalidHandshakeType (handshakeType : UInt8)
  | invalidMessage (message : String)
  | cipherError (message : String)
  | panicked (message : String)
  deriving DecidableEq

def TlsError.display : TlsError → String
  | .handshakeFailed message => "handshake failed: " ++ message
  | .certificateVerificationFailed message => "certificate verification failed: " ++ message
  | .crlVerificationFailed message => "CRL verification failed: " ++ message
  | .ioError message => "I/O error: " ++ message
  | .sessionStoreError message => "session store error: " ++ message
  | .serializationFailed message => "serialization failed: " ++ message
  | .tlsRecordError message => "TLS record error: " ++ message
  | .parseError message => "parse error: " ++ message
  | .sessionTicketInvalid message => "session ticket invalid: " ++ message
  | .sessionTicketExpired => "session ticket has expired"
  | .sessionTicketReplay => "session ticket replay detected"
  | .handshakeMessageParse message => "handshake message parse failed: " ++ message
  | .sm2KeyError message => "SM2 key error: " ++ message
  | .sequenceOverflow => "sequence overflow: GCM nonce cannot exceed 2^64-1"
  | .nonceReuse => "GCM nonce reuse detected: same nonce used twice with the same key"
  | .invalidHandshakeType handshakeType => "invalid handshake type: " ++
    toString handshakeType.toNat
  | .invalidMessage message => "invalid message: " ++ message
  | .cipherError message => "GM cipher error: " ++ message
  | .panicked message => message

def TlsError.ofCrypto : CryptoError → TlsError
  | .certificateVerificationFailed message => .certificateVerificationFailed message
  | .crlVerificationFailed message => .crlVerificationFailed message
  | .panicked message => .panicked message
  | other => .handshakeFailed other.display

def u16Octets (value : UInt16) : Bytes := beOctets 2 value.toNat

def readU16 (input : Bytes) : UInt16 := UInt16.ofNat (beNat (input.take 2))

/-! ### Extensions -/

def extTypeServerName : UInt16 := 0x0000

def extTypeSignatureAlgorithms : UInt16 := 0x000D

def extTypeAlpn : UInt16 := 0x0010

def extTypeSessionTicket : UInt16 := 0x0023

def extTypeSupportedVersions : UInt16 := 0x002B

def extTypeKeyShare : UInt16 := 0x0033

def sm2Group : UInt16 := 0xE001

/-- Extensions of the ClientHello. -/
inductive ClientHelloExtension
  | alpn (protocols : List Bytes)
  | sni (hostname : Bytes)
  | keyShare (key : Bytes)
  | sessionTicket (ticket : Bytes)
  | supportedVersions (version : Octets 2)
  | signatureAlgorithms (algorithms : List UInt16)
  | unknown (extType : UInt16) (data : Bytes)
  deriving DecidableEq

/-- Extensions of the ServerHello. -/
inductive ServerHelloExtension
  | alpn (proto : Bytes)
  | keyShare (key : Bytes)
  | unknown (extType : UInt16) (data : Bytes)

def extensionBytes (extType : UInt16) (data : Bytes) :
    Bytes := u16Octets extType ++ lengthThen 2 data

def splitExtension (data : Bytes) : Except TlsError (UInt16 × Bytes) := do
  rejectIf (data.length < 4) (.parseError "truncated extension")
  let extLen := beNat ((data.drop 2).take 2)
  rejectIf (data.length < 4 + extLen) (.parseError "truncated extension data")
  .ok (readU16 data, (data.drop 4).take extLen)

namespace ClientHelloExtension

def toBytes : ClientHelloExtension → Bytes
  | .alpn protocols =>
    extensionBytes extTypeAlpn (lengthThen 2 (protocols.flatMap fun proto ↦ lengthThen 1 proto))
  | .sni hostname => extensionBytes extTypeServerName (lengthThen 2 (0x00 :: lengthThen 2 hostname))
  | .keyShare key =>
    extensionBytes extTypeKeyShare (lengthThen 2 (u16Octets sm2Group ++ lengthThen 2 key))
  | .sessionTicket ticket => extensionBytes extTypeSessionTicket (lengthThen 2 ticket)
  | .supportedVersions version => extensionBytes extTypeSupportedVersions (2 :: version.bytes)
  | .signatureAlgorithms algorithms =>
    extensionBytes extTypeSignatureAlgorithms (lengthThen 2 (algorithms.flatMap u16Octets))
  | .unknown extType data => extensionBytes extType data

def parseProtocols : ℕ → Bytes → List Bytes
  | _, [] => []
  | 0, _ :: _ => []
  | fuel + 1, nameLen :: rest =>
    if rest.length < nameLen.toNat then []
    else utf8Lossy (rest.take nameLen.toNat) :: parseProtocols fuel (rest.drop nameLen.toNat)

def parseServerNames : ℕ → Bytes → Bytes → Bytes
  | fuel + 1, input, hostname =>
    if input.length < 3 then hostname
    else
      let nameLen := beNat ((input.drop 1).take 2)
      if input.length < 3 + nameLen then hostname
      else
        parseServerNames fuel (input.drop (3 + nameLen))
          (if input.head? = some 0x00 then utf8Lossy ((input.drop 3).take nameLen) else hostname)
  | 0, _, hostname => hostname

def parseU16List (input : Bytes) : List UInt16 :=
  (List.range (input.length / 2)).map fun i ↦ readU16 (input.drop (2 * i))

def decode (extType : UInt16) (extData : Bytes) : ClientHelloExtension :=
  let fallback := ClientHelloExtension.unknown extType extData
  let listLen := beNat (extData.take 2)
  let list := (extData.drop 2).take listLen
  let fits := 2 ≤ extData.length ∧ listLen ≤ extData.length - 2
  if extType = extTypeAlpn then
    if fits then .alpn (parseProtocols list.length list) else fallback
  else if extType = extTypeServerName then
    if fits then .sni (parseServerNames list.length list []) else fallback
  else if extType = extTypeKeyShare then
    let keyLen := beNat ((list.drop 2).take 2)
    if fits ∧ 4 ≤ listLen ∧ 4 + keyLen ≤ list.length then .keyShare ((list.drop 4).take keyLen)
    else fallback
  else if extType = extTypeSessionTicket then .sessionTicket extData
  else if extType = extTypeSupportedVersions then
    match extData with
    | 2 :: major :: minor :: _ => .supportedVersions ⟨[major, minor], rfl⟩
    | _ => fallback
  else if extType = extTypeSignatureAlgorithms then
    if fits ∧ listLen % 2 = 0 then .signatureAlgorithms (parseU16List list) else fallback
  else fallback

/-- The data of an extension begins with a list behind its length. -/
def HasList (extData : Bytes) : Prop :=
  2 ≤ extData.length ∧ beNat (extData.take 2) ≤ extData.length - 2

instance (extData : Bytes) : Decidable (HasList extData) := inferInstanceAs (Decidable (_ ∧ _))

def listOf (extData : Bytes) : Bytes := (extData.drop 2).take (beNat (extData.take 2))

lemma length_listOf {extData : Bytes} (hlist : HasList extData) :
    (listOf extData).length = beNat (extData.take 2) := by
  rw [listOf, List.length_take, List.length_drop]
  exact Nat.min_eq_left hlist.2

variable (extData : Bytes)

lemma decode_alpn : decode extTypeAlpn extData = if HasList extData then
      .alpn (parseProtocols (listOf extData).length (listOf extData)) else .unknown
      extTypeAlpn extData := rfl

lemma decode_serverName : decode extTypeServerName extData = if HasList extData then
      .sni (parseServerNames (listOf extData).length (listOf extData) [])
        else .unknown extTypeServerName extData := rfl

lemma decode_keyShare : decode extTypeKeyShare extData =
      if HasList extData ∧ 4 ≤ beNat (extData.take 2) ∧
          4 + beNat (((listOf extData).drop 2).take 2) ≤ (listOf extData).length then
        .keyShare (((listOf extData).drop 4).take (beNat (((listOf extData).drop 2).take 2)))
      else .unknown extTypeKeyShare extData := rfl

lemma decode_signatureAlgorithms : decode extTypeSignatureAlgorithms extData =
      if HasList extData ∧ beNat (extData.take 2) % 2 = 0 then
        .signatureAlgorithms (parseU16List (listOf extData))
      else .unknown extTypeSignatureAlgorithms extData := rfl

def fromBytes (data : Bytes) : Except TlsError ClientHelloExtension := do
  let (extType, extData) ← splitExtension data
  .ok (decode extType extData)

def consumedBytes : ClientHelloExtension → ℕ
  | .alpn protocols => 4 + (2 + (protocols.map fun proto ↦ 1 + proto.length).sum)
  | .sni hostname => 4 + (2 + 1 + 2 + hostname.length)
  | .keyShare key => 4 + (2 + 2 + 2 + key.length)
  | .sessionTicket ticket => 4 + (2 + ticket.length)
  | .supportedVersions _ => 4 + (1 + 2)
  | .signatureAlgorithms algorithms => 4 + (2 + algorithms.length * 2)
  | .unknown _ data => 4 + data.length

end ClientHelloExtension

namespace ServerHelloExtension

def toBytes : ServerHelloExtension → Bytes
  | .alpn proto => extensionBytes extTypeAlpn (lengthThen 1 proto)
  | .keyShare key => extensionBytes extTypeKeyShare (u16Octets sm2Group ++ lengthThen 2 key)
  | .unknown extType data => extensionBytes extType data

def decode (extType : UInt16) (extData : Bytes) : ServerHelloExtension :=
  if extType = extTypeAlpn then
    match extData with
    | nameLen :: rest =>
      if nameLen.toNat ≤ rest.length then .alpn (utf8Lossy (rest.take nameLen.toNat))
      else .unknown extType extData
    | [] => .unknown extType extData
  else if extType = extTypeKeyShare then
    let keyLen := beNat ((extData.drop 2).take 2)
    if 4 + keyLen ≤ extData.length then .keyShare ((extData.drop 4).take keyLen)
    else .unknown extType extData
  else .unknown extType extData

lemma decode_alpn_cons (nameLen : UInt8) (rest : Bytes) :
    decode extTypeAlpn (nameLen :: rest) = if nameLen.toNat ≤ rest.length then
      .alpn (utf8Lossy (rest.take nameLen.toNat)) else .unknown extTypeAlpn (nameLen :: rest) := rfl

lemma decode_keyShare (extData : Bytes) :
    decode extTypeKeyShare extData = if 4 + beNat ((extData.drop 2).take 2) ≤ extData.length then
      .keyShare ((extData.drop 4).take (beNat ((extData.drop 2).take 2)))
        else .unknown extTypeKeyShare extData := rfl

def fromBytes (data : Bytes) : Except TlsError ServerHelloExtension := do
  let (extType, extData) ← splitExtension data
  .ok (decode extType extData)

def consumedBytes : ServerHelloExtension → ℕ
  | .alpn proto => 4 + (1 + proto.length)
  | .keyShare key => 4 + (2 + 2 + key.length)
  | .unknown _ data => 4 + data.length

end ServerHelloExtension

def parseExtensions {α : Type} (fromBytes : Bytes → Except TlsError α) (consumedBytes : α → ℕ) :
    ℕ → Bytes → Except TlsError (List α)
  | _, [] => .ok []
  | 0, _ :: _ => .error (.panicked "out of fuel")
  | fuel + 1, octet :: rest => do
    let ext ← fromBytes (octet :: rest)
    let consumed := consumedBytes ext
    rejectIf (consumed > (octet :: rest).length) (.panicked "slice index out of range")
    let others ← parseExtensions fromBytes consumedBytes fuel ((octet :: rest).drop consumed)
    .ok (ext :: others)

def parseExtensionBlock {α : Type} (fromBytes : Bytes → Except TlsError α) (consumedBytes : α → ℕ)
    (input : Bytes) : Except TlsError (List α) :=
  if input = [] then .ok []
  else do
    let (lenOctets, rest) ← takeExact 2 (.parseError "truncated extensions") input
    let extLen := beNat lenOctets.bytes
    rejectIf (extLen > rest.length) (.parseError "invalid extensions length")
    parseExtensions fromBytes consumedBytes extLen (rest.take extLen)

def parseSessionId (truncated : TlsError) : Bytes → Except TlsError (Bytes × Bytes)
  | [] => .error truncated
  | sidLen :: rest => do
    rejectIf (sidLen.toNat > 32 ∨ sidLen.toNat > rest.length)
      (.parseError "invalid session_id length")
    .ok (rest.take sidLen.toNat, rest.drop sidLen.toNat)

/-- `SessionTicket`: `key_id(1) || nonce(12) || tag(16) || ciphertext`, and a version. -/
structure SessionTicket where
  encryptedTicket : Bytes
  ticketVersion : UInt16
  deriving DecidableEq

/-- `ClientHello`. The fields after the extensions are those the decoder takes out of them. -/
structure ClientHello where
  version : Octets 2
  random : Octets 32
  sessionId : Bytes
  cipherSuites : List UInt16
  compressionMethods : Bytes
  extensions : List ClientHelloExtension
  sessionTicket : Option SessionTicket
  ephPubkey : Bytes
  alpn : List Bytes
  sni : Option Bytes
  deriving DecidableEq

namespace ClientHello

def toBytes (hello : ClientHello) : Bytes :=
  hello.version.bytes ++ hello.random.bytes ++ lengthThen 1 hello.sessionId ++
    lengthThen 2 (hello.cipherSuites.flatMap u16Octets) ++ lengthThen 1 hello.compressionMethods ++
    lengthThen 2 (hello.extensions.flatMap ClientHelloExtension.toBytes)

def noteExtension (deserializeTicket : Bytes → Except String SessionTicket) (hello : ClientHello) :
    ClientHelloExtension → ClientHello
  | .alpn protocols => { hello with alpn := protocols }
  | .sni hostname => { hello with sni := some hostname }
  | .keyShare key => { hello with ephPubkey := key }
  | .sessionTicket ticket => { hello with sessionTicket := (deserializeTicket ticket).toOption }
  | _ => hello

/-- The part of a ClientHello before its extensions. -/
def parseHead (data : Bytes) : Except TlsError (ClientHello × Bytes) := do
  let (version, input) ← takeExact 2 (.parseError "truncated version") data
  let (random, input) ← takeExact 32 (.parseError "truncated random") input
  let (sessionId, input) ← parseSessionId (.parseError "truncated session_id") input
  let (csLenOctets, input) ← takeExact 2 (.parseError "truncated cipher_suites") input
  let csLen := beNat csLenOctets.bytes
  rejectIf (csLen > input.length ∨ csLen % 2 ≠ 0) (.parseError "invalid cipher_suites length")
  let cipherSuites := ClientHelloExtension.parseU16List (input.take csLen)
  let (cmLenOctet, input) ← takeExact 1 (.parseError "truncated compression") (input.drop csLen)
  let cmLen := beNat cmLenOctet.bytes
  rejectIf (cmLen > input.length) (.parseError "invalid compression length")
  let hello : ClientHello := {
    version, random, sessionId, cipherSuites
    extensions := []
    compressionMethods := input.take cmLen
    sessionTicket := none
    ephPubkey := []
    alpn := []
    sni := none }
  .ok (hello, input.drop cmLen)

def fromBytes (deserializeTicket : Bytes → Except String SessionTicket) (data : Bytes) :
    Except TlsError ClientHello := do
  let (hello, input) ← parseHead data
  let extensions ← parseExtensionBlock ClientHelloExtension.fromBytes
    ClientHelloExtension.consumedBytes input
  .ok (extensions.foldl (noteExtension deserializeTicket) { hello with extensions })

end ClientHello

structure ServerHello where
  version : Octets 2
  random : Octets 32
  sessionId : Bytes
  cipherSuite : UInt16
  compression : UInt8
  extensions : List ServerHelloExtension
  ephPubkey : Bytes
  alpn : Option Bytes
  certChainPem : Bytes
  requireClientAuth : Bool

namespace ServerHello

def toBytes (hello : ServerHello) : Bytes :=
  hello.version.bytes ++ hello.random.bytes ++ lengthThen 1 hello.sessionId ++
    u16Octets hello.cipherSuite ++ [hello.compression] ++
    lengthThen 2 (hello.extensions.flatMap ServerHelloExtension.toBytes)

def noteExtension (hello : ServerHello) : ServerHelloExtension → ServerHello
  | .alpn proto => { hello with alpn := some proto }
  | .keyShare key => { hello with ephPubkey := key }
  | .unknown _ _ => hello

/-- The part of a ServerHello before its extensions. -/
def parseHead (data : Bytes) : Except TlsError (ServerHello × Bytes) := do
  let (version, input) ← takeExact 2 (.parseError "truncated version") data
  let (random, input) ← takeExact 32 (.parseError "truncated random") input
  let (sessionId, input) ← parseSessionId (.parseError "truncated ServerHello") input
  let (suiteOctets, input) ← takeExact 2 (.parseError "truncated cipher_suite") input
  match input with
  | [] => .error (.parseError "truncated compression")
  | compression :: input =>
    let hello : ServerHello := {
      version, random, sessionId, compression
      extensions := []
      cipherSuite := readU16 suiteOctets.bytes
      ephPubkey := []
      alpn := none
      certChainPem := []
      requireClientAuth := false }
    .ok (hello, input)

def fromBytes (data : Bytes) : Except TlsError ServerHello := do
  let (hello, input) ← parseHead data
  let extensions ← parseExtensionBlock ServerHelloExtension.fromBytes
    ServerHelloExtension.consumedBytes input
  .ok (extensions.foldl noteExtension { hello with extensions })

end ServerHello

def newSessionTicketBytes (ticketBytes : Bytes) : Bytes :=
  beOctets 4 86400 ++ beOctets 4 0 ++ [0] ++ lengthThen 2 ticketBytes ++ beOctets 2 0

structure Finished where
  verifyData : Bytes

def Finished.toBytes (finished : Finished) : Bytes := lengthThen 2 finished.verifyData

def Finished.fromBytes (data : Bytes) : Except TlsError Finished := do
  rejectIf (data.length < 2) (.parseError "truncated Finished")
  let len := beNat (data.take 2)
  rejectIf (data.length < 2 + len) (.parseError "invalid Finished length")
  .ok ⟨(data.drop 2).take len⟩

structure CertificateVerify where
  signature : Bytes

def sm2SigOid : Bytes := [0x06, 0x08, 0x2A, 0x81, 0x1C, 0xCF, 0x55, 0x01, 0x83, 0x75]

def CertificateVerify.toBytes (verify : CertificateVerify) : Bytes :=
  lengthThen 2 (lengthThen 2 sm2SigOid ++ [0x05, 0x00]) ++ lengthThen 2 verify.signature

def CertificateVerify.fromBytes (data : Bytes) : Except TlsError CertificateVerify := do
  rejectIf (data.length < 2) (.parseError "truncated CertificateVerify")
  let algLen := beNat (data.take 2)
  rejectIf (data.length < 2 + algLen) (.parseError "invalid algorithm length")
  let input := data.drop (2 + algLen)
  rejectIf (input.length < 2) (.parseError "truncated signature")
  let sigLen := beNat (input.take 2)
  rejectIf (input.length < 2 + sigLen) (.parseError "invalid signature length")
  .ok ⟨(input.drop 2).take sigLen⟩

/-- `ClientCertificate`, the certificate message of either side. -/
structure ClientCertificate where
  certChainPem : Bytes
  deriving DecidableEq

def ClientCertificate.toBytes (cert : ClientCertificate) : Bytes :=
  lengthThen 3 (lengthThen 3 cert.certChainPem ++ beOctets 2 0)

def ClientCertificate.fromBytes (data : Bytes) : Except TlsError ClientCertificate := do
  rejectIf (data.length < 3) (.parseError "truncated Certificate")
  let len := beNat (data.take 3)
  rejectIf (data.length < 3 + len) (.parseError "invalid Certificate length")
  let entries := (data.drop 3).take len
  rejectIf (entries.length < 3) (.parseError "truncated CertificateEntry")
  let certLen := beNat (entries.take 3)
  rejectIf (entries.length < 3 + certLen + 2) (.parseError "invalid CertificateEntry")
  .ok ⟨(entries.drop 3).take certLen⟩

end GmStack.Tls
