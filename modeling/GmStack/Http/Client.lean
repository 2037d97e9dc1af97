import GmStack.Foundation.Tasks
import GmStack.Foundation.Text

/-! `gm-http-client/src/client.rs` and the connection code of `pool.rs`: `Task`s over the operations
of the network (`NetOp`) and of the pool. -/

namespace GmStack.Http

open Foundation List Task

inductive HttpClientError
  | connectionFailed (message : String)
  | requestFailed (message : String)
  | responseParseError (message : String)
  | tlsError (message : String)
  | ioError (message : String)
  | urlValidationError (message : String)
  deriving DecidableEq

def maxResponseSize : ℕ := 10 * 1024 * 1024

def maxHeaderSize : ℕ := 64 * 1024

def blockedPrivateIps : List Text :=
  ["10.", "172.16.", "172.17.", "172.18.", "172.19.", "172.20.", "172.21.", "172.22.",
    "172.23.", "172.24.",
    "172.25.", "172.26.", "172.27.", "172.28.", "172.29.", "172.30.", "172.31.", "192.168.", "127.",
    "169.254.", "100.64.", "198.18.", "::1", "fc00:", "fd00:", "fe80:"].map String.toList

structure ParsedUrl where
  host : Text
  port : ℕ
  path : Text
  deriving DecidableEq

/-- `str::to_lowercase`, for comparison with lower-case ASCII texts without a `k`: no character
outside ASCII has a lower-case form made of letters of such a text only. -/
def toLowercase (text : Text) : Text := text.map Char.toLower

def isBlockedHostname (hostname : Text) : Bool :=
  hostname == "localhost".toList || hostname == "localhost.localdomain".toList ||
    [".local", ".internal", ".localhost", ".localdomain"].any (fun name ↦
      name.toList.isSuffixOf hostname) ||
      blockedPrivateIps.any fun start ↦ start.isPrefixOf hostname

def splitUrl (urlWithoutScheme : Text) : Text × Text :=
  (splitOnce '/' urlWithoutScheme).getD (urlWithoutScheme, ['/'])

def splitHostPort (hostPort : Text) : Except HttpClientError (Text × ℕ) :=
  match rsplitOnce ':' hostPort with
  | some (host, port) =>
    match parseUnsigned (2 ^ 16) port with
    | some portNum => .ok (host, portNum)
    | none => .error (.urlValidationError "invalid port number")
  | none => .ok (hostPort, 443)

def parseAndValidateUrl (url : Text) : Except HttpClientError ParsedUrl := do
  rejectIf ("https://".toList.isPrefixOf url = false)
    (.urlValidationError "URL must start with https://")
  let (hostPort, path) := splitUrl (url.drop 8)
  let (host, port) ← splitHostPort hostPort
  rejectIf (host = []) (.urlValidationError "hostname cannot be empty")
  rejectIf (isBlockedHostname (toLowercase host) = true) (.urlValidationError
    ("access to '" ++ String.ofList host ++ "' is blocked for security reasons"))
  .ok ⟨host, port, '/' :: path⟩

/-- `Ipv4Addr`, as its octets. -/
structure Ipv4Addr where
  octet0 : UInt8
  octet1 : UInt8
  octet2 : UInt8
  octet3 : UInt8
  deriving DecidableEq

/-- `Ipv6Addr`, as its segments. -/
structure Ipv6Addr where
  segment0 : UInt16
  segment1 : UInt16
  segment2 : UInt16
  segment3 : UInt16
  segment4 : UInt16
  segment5 : UInt16
  segment6 : UInt16
  segment7 : UInt16
  deriving DecidableEq

inductive IpAddr
  | v4 (address : Ipv4Addr)
  | v6 (address : Ipv6Addr)
  deriving DecidableEq

structure SocketAddr where
  ip : IpAddr
  port : ℕ
  deriving DecidableEq

def Ipv4Addr.isLinkLocal (address : Ipv4Addr) :
    Bool := address.octet0 == 169 && address.octet1 == 254

def Ipv4Addr.isLoopback (address : Ipv4Addr) : Bool := address.octet0 == 127

def Ipv6Addr.isLoopback (address : Ipv6Addr) : Bool := address == ⟨0, 0, 0, 0, 0, 0, 0, 1⟩

def Ipv6Addr.isMapped (address : Ipv6Addr) : Bool :=
  address.segment0 == 0 && address.segment1 == 0 && address.segment2 == 0 &&
    address.segment3 == 0 &&
    address.segment4 == 0 && address.segment5 == 0xffff

def isLinkLocalIp : IpAddr → Bool
  | .v4 address => address.isLinkLocal
  | .v6 address =>
    (address.segment0 &&& 0xffc0) == 0xfe80 ||
      (address.isMapped && (address.segment6 >>> 8).toUInt8 == 169 &&
        (address.segment6 &&& 0xff).toUInt8 == 254)

def isLoopbackOrMappedLoopback : IpAddr → Bool
  | .v4 address => address.isLoopback
  | .v6 address =>
    if address.isLoopback then true
    else if address.isMapped then (address.segment6 >>> 8).toUInt8 == 127
    else false

def isPrivateIp : IpAddr → Bool
  | .v4 address =>
    address.octet0 == 10 || (address.octet0 == 172 && (16 ≤ address.octet1 && address.octet1 ≤ 31))
      ||
      (address.octet0 == 192 && address.octet1 == 168) ||
        (address.octet0 == 169 && address.octet1 == 254)
  | .v6 address =>
    (address.segment0 &&& 0xfe00) == 0xfc00 || (address.segment0 &&& 0xffc0) == 0xfe80 ||
      (address.isMapped &&
        let octet1 := (address.segment6 >>> 8).toUInt8
        let octet2 := (address.segment6 &&& 0xff).toUInt8
        octet1 == 10 || (octet1 == 172 && (16 ≤ octet2 && octet2 ≤ 31)) ||
          (octet1 == 192 && octet2 == 168))

/-- A TCP connection. -/
abbrev ConnId := ℕ

/-- What a client does: `lookup_host`, connecting to one address, the TLS handshake on a connection,
`write_all` and `read` on it, and taking a connection from the pool or giving it back. -/
inductive NetOp
  | lookupHost (addr : Text)
  | connectTcp (addr : SocketAddr)
  | connectTls (connection : ConnId)
  | write (connection : ConnId) (data : Bytes)
  | read (connection : ConnId)
  | getConnection (host : Text) (port : ℕ)
  | returnConnection (host : Text) (port : ℕ) (connection : ConnId)

@[reducible] def NetAnswer : NetOp → Type
  | .lookupHost _ => Except String (List SocketAddr)
  | .connectTcp _ => Except String ConnId
  | .connectTls _ => Except String Unit
  | .write _ _ => Except String Unit
  | .read _ => Except String Bytes
  | .getConnection _ _ => Option ConnId
  | .returnConnection _ _ _ => Unit

/-- A call of a client. -/
abbrev Call := Task NetOp NetAnswer HttpClientError

def fail {α : Type} (error : HttpClientError) : Call α := Task.check (.error error)

def orFail {α : Type} (wrap : String → HttpClientError) (answer : Except String α) : Call α :=
  Task.check (answer.mapError wrap)

def authority (host : Text) (port : ℕ) : Text := host ++ ':' :: (toString port).toList

def lookupHost (addr : Text) (wrap : String → HttpClientError) : Call (List SocketAddr) := do
  let answer ← Task.ask (.lookupHost addr)
  orFail wrap answer

def isSkipped (addr : SocketAddr) : Bool :=
  isLoopbackOrMappedLoopback addr.ip || (isPrivateIp addr.ip || isLinkLocalIp addr.ip)

def validateAddressForSsrf (addr : Text) : Call SocketAddr := do
  let addrs ← lookupHost addr fun e ↦ .connectionFailed ("DNS resolution failed: " ++ e)
  if addrs = [] then fail (.connectionFailed "no addresses resolved")
  else
    match addrs.find? fun addr ↦ !isSkipped addr with
    | some valid => pure valid
    | none =>
      fail (.urlValidationError "connection to private/link-local/loopback address is not allowed")

def connectAddrs : Option String → List SocketAddr → Call ConnId
  | lastErr, [] => fail (.connectionFailed (lastErr.getD "could not resolve to any address"))
  | _, addr :: rest => Task.await (.connectTcp addr) fun
    | .ok connection => pure connection
    | .error e => connectAddrs (some e) rest

def tcpConnect (addr : Text) : Call ConnId := do
  let addrs ← lookupHost addr .connectionFailed
  connectAddrs none addrs

/-! ### Requests and responses -/

inductive Method
  | get
  | post

def Method.text : Method → Text
  | .get => "GET".toList
  | .post => "POST".toList

def buildRequest (method : Method) (host path : Text) (body : Bytes) : Text :=
  if body = [] then
    method.text ++ " ".toList ++ path ++ " HTTP/1.1\r\nHost: ".toList ++ host ++
      "\r\nConnection: keep-alive\r\n\r\n".toList
  else
    method.text ++ " ".toList ++ path ++ " HTTP/1.1\r\nHost: ".toList ++ host ++
      "\r\nContent-Length: ".toList ++
      (toString body.length).toList ++ "\r\nConnection: keep-alive\r\n\r\n".toList

structure Response where
  status : ℕ
  body : Bytes

def isLengthLine (line : Text) : Bool := "content-length:".toList.isPrefixOf (toLowercase line)

def contentLengthOf (headerLines : List Text) : ℕ :=
  (do
    let line ← headerLines.find? isLengthLine
    let value ← (line.splitOn ':')[1]?
    parseUnsigned (2 ^ 64) (trim value)).getD 0

def parseResponseStart (buf : Bytes) : Except HttpClientError (ℕ × ℕ) :=
  match lines (lossyText buf) with
  | [] => .error (.responseParseError "missing status line")
  | statusLine :: headerLines =>
    match (splitWhitespace statusLine)[1]? >>= parseUnsigned (2 ^ 16) with
    | none => .error (.responseParseError "invalid status code")
    | some status =>
      if contentLengthOf headerLines > maxResponseSize then
        .error (.responseParseError ("content-length " ++ toString (contentLengthOf headerLines) ++
          " exceeds maximum allowed " ++ toString maxResponseSize))
      else .ok (status, contentLengthOf headerLines)

def terminator : Bytes := [13, 10, 13, 10]

def headerEnd : Bytes → Option ℕ
  | [] => none
  | octet :: rest =>
    if (octet :: rest).take 4 = terminator then some 4 else (headerEnd rest).map (· + 1)

section Reading

variable (connection : ConnId)

def readHeader (responseBuf : Bytes) : Call (Bytes × Option ℕ) :=
  if responseBuf.length < maxHeaderSize then
    Task.await (.read connection) fun
    | .error e => fail (.ioError e)
    | .ok chunk =>
      if chunk = [] then pure (responseBuf, none)
      else
        match headerEnd (responseBuf ++ chunk) with
        | some found => pure (responseBuf ++ chunk, some found)
        | none => readHeader (responseBuf ++ chunk)
  else pure (responseBuf, none)
  termination_by maxHeaderSize - responseBuf.length
  decreasing_by
    have := length_pos_of_ne_nil ‹¬chunk = []›
    rw [length_append]
    omega

def readBody (contentLength : ℕ) (body : Bytes) : Call Bytes :=
  if body.length < contentLength then
    Task.await (.read connection) fun
    | .error e => fail (.ioError e)
    | .ok chunk =>
      if chunk = [] then pure body
      else readBody contentLength (body ++ chunk.take (contentLength - body.length))
  else pure body
  termination_by contentLength - body.length
  decreasing_by
    have := length_pos_of_ne_nil ‹¬chunk = []›
    rw [length_append, length_take]
    omega

def readResponse : Call Response := do
  let (responseBuf, found) ← readHeader connection []
  if found = none ∧ maxHeaderSize ≤ responseBuf.length then
    fail (.responseParseError "header size exceeds maximum allowed")
  else
    match found with
    | none => fail (.responseParseError "missing header terminator")
    | some headerEnd =>
      let (status, contentLength) ← Task.check (parseResponseStart (responseBuf.take headerEnd))
      if contentLength > maxResponseSize then
        fail (.responseParseError ("response body too large: " ++ toString contentLength ++
          " bytes (max: " ++
          toString maxResponseSize ++ " bytes)"))
      else
        let body ← readBody connection contentLength []
        pure ⟨status, body⟩

/-! What reading performs -/

variable {granted : (op : NetOp) → NetAnswer op → Prop}

lemma obeys_readHeader (responseBuf : Bytes) :
    (readHeader connection responseBuf).Obeys (· = .read connection) granted fun _ ↦ True := by
  induction responseBuf using readHeader.induct with
  | case1 responseBuf hsize ih =>
    rw [readHeader, if_pos hsize]
    refine ⟨rfl, fun answer _ ↦ ?_⟩
    cases answer with
    | error e => exact .error _
    | ok chunk =>
      by_cases hchunk : chunk = []
      · simp only [hchunk, if_true]
        exact .pure trivial
      simp only [hchunk, if_false]
      cases headerEnd (responseBuf ++ chunk) with
      | some found => exact .pure trivial
      | none => exact ih chunk hchunk
  | case2 responseBuf hsize =>
    rw [readHeader, if_neg hsize]
    exact .pure trivial

lemma obeys_readBody (contentLength : ℕ) (body : Bytes) :
    (readBody connection contentLength body).Obeys (· = .read connection) granted fun _ ↦ True := by
  induction body using readBody.induct contentLength with
  | case1 body hsize ih =>
    rw [readBody, if_pos hsize]
    refine ⟨rfl, fun answer _ ↦ ?_⟩
    cases answer with
    | error e => exact .error _
    | ok chunk =>
      by_cases hchunk : chunk = []
      · simp only [hchunk, if_true]
        exact .pure trivial
      · simp only [hchunk, if_false]
        exact ih chunk hchunk
  | case2 body hsize =>
    rw [readBody, if_neg hsize]
    exact .pure trivial

lemma obeys_readResponse : (readResponse connection).Obeys (· = .read connection) granted fun _ ↦
    True := by
  refine .bind (obeys_readHeader connection []) fun ⟨responseBuf, found⟩ _ ↦ ?_
  by_cases hfull : found = none ∧ maxHeaderSize ≤ responseBuf.length
  · simp only [hfull, and_self, if_true]
    exact .error _
  simp only [hfull, if_false]
  cases found with
  | none => exact .error _
  | some headerEnd =>
    refine .bind (.check fun _ _ ↦ trivial) fun ⟨status, contentLength⟩ _ ↦ ?_
    by_cases hlarge : contentLength > maxResponseSize
    · simp only [hlarge, if_true]
      exact .error _
    · simp only [hlarge, if_false]
      exact .bind (obeys_readBody connection contentLength []) fun _ _ ↦ .pure trivial

end Reading

/-- A call of `get` or `post`. -/
inductive Request
  | get (url : Text)
  | post (url : Text) (body : Bytes)

namespace Request

def url : Request → Text
  | .get url | .post url _ => url

def method : Request → Method
  | .get _ => .get
  | .post _ _ => .post

def body : Request → Bytes
  | .get _ => []
  | .post _ body => body

end Request

/-- The two clients. -/
inductive Client
  | gmHttpClient
  | pooledHttpClient
  deriving DecidableEq

def writeAll (connection : ConnId) (data : Bytes) : Call Unit := do
  let answer ← Task.ask (.write connection data)
  orFail .ioError answer

def writeBody (connection : ConnId) (body : Bytes) : Call Unit :=
  if body ≠ [] then writeAll connection body else pure ()

def connectTls (connection : ConnId) : Call Unit := do
  let answer ← Task.ask (.connectTls connection)
  orFail .tlsError answer

def GmHttpClient.connect (host : Text) (port : ℕ) : Call ConnId := do
  let validatedAddr ← validateAddressForSsrf (authority host port)
  let answer ← Task.ask (.connectTcp validatedAddr)
  let tcp ← orFail .connectionFailed answer
  connectTls tcp
  pure tcp

def GmHttpClient.request (method : Method) (host : Text) (port : ℕ) (path : Text) (body : Bytes) :
    Call Response := do
  let connection ← GmHttpClient.connect host port
  writeAll connection (encodeText (buildRequest method host path body))
  writeBody connection body
  readResponse connection

def PooledHttpClient.connect (host : Text) (port : ℕ) : Call ConnId :=
  Task.await (.getConnection host port) fun
  | some connection => pure connection
  | none => do
    let tcp ← tcpConnect (authority host port)
    connectTls tcp
    pure tcp

def PooledHttpClient.request (method : Method) (host : Text) (port : ℕ) (path : Text)
    (body : Bytes) : Call Response := do
  let connection ← PooledHttpClient.connect host port
  writeAll connection (encodeText (buildRequest method host path body))
  let response ← readResponse connection
  let _ ← Task.ask (.returnConnection host port connection)
  pure response

def Client.request : Client → Method → Text → ℕ → Text → Bytes → Call Response
  | .gmHttpClient => GmHttpClient.request
  | .pooledHttpClient => PooledHttpClient.request

def Client.call (client : Client) (request : Request) : Call Response := do
  let parsed ← Task.check (parseAndValidateUrl request.url)
  client.request request.method parsed.host parsed.port parsed.path request.body

end GmStack.Http
