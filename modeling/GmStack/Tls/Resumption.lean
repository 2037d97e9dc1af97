import GmStack.Tls.Authentication
import GmStack.Tls.Conversation
import GmStack.Tls.KeyUsage
import GmStack.Tls.Tickets

/-! A resumed stream takes over the keys and nonces of the ticket unchanged
(`SessionEnd.writeSide`). -/

namespace GmStack.Tls

open Foundation Crypto List RecordStream GmTlsStream Except

section Library

variable {F P : Type} [CommRing F] [AddCommGroup P] [Module F P] (lib : TlsLibrary F P)

/-- What is serialized can be read back, as `postcard` promises. -/
def StatesRoundTrip : Prop :=
  ∀ state bytes, lib.serializeState state = .ok bytes → lib.deserializeState bytes = .ok state

variable {lib}

lemma eq_of_decryptSessionTicket (hround : StatesRoundTrip lib) {state opened : SessionState}
    {keySet : TicketKeySet} {nonce : Octets 12} {ticket : SessionTicket} {store : SessionStore}
    {now : ℕ} (henc : encryptSessionTicket lib state keySet nonce = .ok ticket)
    (hdec : decryptSessionTicket lib ticket keySet store now = .ok opened) : opened = state := by
  obtain ⟨keys⟩ := keySet
  cases keys with
  | nil => cases henc
  | cons key rest =>
    have hprimary : TicketKeySet.primaryKey ⟨key :: rest⟩ = some key := rfl
    have hfull := henc
    simp only [encryptSessionTicket, hprimary, ok_bind, bind_eq_ok, mapError_eq_ok] at hfull
    obtain ⟨stateBytes, hserz, -⟩ := hfull
    obtain ⟨issued, hissued, -, -, hread⟩ := readTicket_issued lib hprimary hserz
      (hround state _ hserz) nonce
    obtain rfl := ok.inj (henc.symm.trans hissued)
    rw [decryptSessionTicket, hread _ _ (TicketKeySet.findKey_of_primaryKey hprimary)] at hdec
    simp only [bind_eq_ok] at hdec
    obtain ⟨_, -, _, -, found, ⟨_, -, _, -, hfound⟩, _, -, hopened⟩ := hdec
    rw [← ok.inj hopened, ok.inj hfound]

/-! ### The ends of a session -/

variable {secrets : HandshakeSecrets}

lemma serverStream_inj {other : HandshakeSecrets} {alpn otherAlpn : Option Bytes}
    (hsame : serverStream secrets alpn = serverStream other otherAlpn) :
    secrets.sessionKeys = other.sessionKeys ∧ secrets.clientTrafficSecret =
    other.clientTrafficSecret ∧
      secrets.serverTrafficSecret = other.serverTrafficSecret := by
  have hclientKey := congrArg readKey hsame
  have hclientNonce := congrArg readNonce hsame
  have hserverKey := congrArg writeKey hsame
  have hserverNonce := congrArg writeNonce hsame
  refine ⟨?_, Option.some.inj (congrArg readTrafficSecret hsame),
    Option.some.inj (congrArg writeTrafficSecret hsame)⟩
  exact (SessionKeys.mk.injEq _ _ _ _ _ _ _ _).mpr ⟨hclientKey, hclientNonce,
    hserverKey, hserverNonce⟩

variable (lib) in
/-- The streams of a session with given secrets, on the client's side or on the server's. The client
holds the keys the ticket was encrypted with; nothing is assumed of the peers. -/
inductive SessionEnd (secrets : HandshakeSecrets) : Bool → GmTlsStream → Prop
  | connected {certPem keyPem caPem peerCertPem : Bytes} {domain : Option String}
    {alpn : List Bytes}
      {opts : HandshakeOptions} {clock : Clock} {entropy : Entropy F} {negotiated : Option Bytes}
      {trace : List (Event TlsNote)}
      (hruns : Runs (connectGmRustInner lib certPem keyPem caPem domain alpn opts clock entropy)
        trace
        (.ok (clientStream secrets peerCertPem negotiated))) :
      SessionEnd secrets true (clientStream secrets peerCertPem negotiated)
  | accepted {certPem keyPem caPem : Bytes} {requireClientAuth : Bool} {alpn : List Bytes}
      {opts : HandshakeOptions} {clock : Clock} {entropy : Entropy F} {negotiated : Option Bytes}
      {clientCertPem : Option Bytes} {ticket : Option SessionTicket} {trace : List (Event TlsNote)}
      (hruns : Runs (acceptGmRustInnerWithCert lib certPem keyPem caPem requireClientAuth alpn opts
        clock entropy) trace (.ok (serverStream secrets negotiated, clientCertPem, ticket))) :
      SessionEnd secrets false (serverStream secrets negotiated)
  | resumed {certPem keyPem caPem serverCertPem serverKeyPem serverCaPem : Bytes}
      {domain : Option String} {requireClientAuth : Bool} {alpn serverAlpn : List Bytes}
      {opts serverOpts : HandshakeOptions} {clock serverClock : Clock}
        {entropy serverEntropy : Entropy F}
      {negotiated serverNegotiated clientCertPem : Option Bytes} {ticket : SessionTicket}
      {state : SessionState} {trace serverTrace : List (Event TlsNote)}
      (hissued : Runs (acceptGmRustInnerWithCert lib serverCertPem serverKeyPem serverCaPem
        requireClientAuth serverAlpn serverOpts serverClock serverEntropy) serverTrace
        (.ok (serverStream secrets serverNegotiated, clientCertPem, some ticket)))
      (hticket : opts.sessionTicket = some ticket)
      (hkeys : opts.sessionTicketKey = serverOpts.sessionTicketKey)
      (hopens : TicketDecrypts lib opts clock state)
      (hruns : Runs (connectGmRustInner lib certPem keyPem caPem domain alpn opts clock entropy)
        trace
        (.ok (resumedStream state negotiated))) :
      SessionEnd secrets true (resumedStream state negotiated)

def HandshakeSecrets.writeSide (secrets : HandshakeSecrets) (isClient : Bool) :
    Bytes × Octets 12 × Option Bytes :=
  if isClient then
    (secrets.sessionKeys.clientKey, secrets.sessionKeys.clientNonce,
      some secrets.clientTrafficSecret)
  else (secrets.sessionKeys.serverKey, secrets.sessionKeys.serverNonce,
    some secrets.serverTrafficSecret)

lemma exists_encryptSessionTicket {certPem keyPem caPem : Bytes} {requireClientAuth : Bool}
    {alpn : List Bytes} {opts : HandshakeOptions} {clock : Clock} {entropy : Entropy F}
    {negotiated clientCertPem : Option Bytes} {ticket : SessionTicket}
    {trace : List (Event TlsNote)}
    (hruns :
    Runs (acceptGmRustInnerWithCert lib certPem keyPem caPem requireClientAuth alpn opts clock
      entropy) trace (.ok (serverStream secrets negotiated, clientCertPem, some ticket))) :
    ∃ keySet state, opts.sessionTicketKey = some keySet ∧
      encryptSessionTicket lib state keySet entropy.ticketNonce = .ok ticket ∧
      state.sessionKeys = secrets.sessionKeys ∧ state.clientTrafficSecret =
      some secrets.clientTrafficSecret ∧
      state.serverTrafficSecret = some secrets.serverTrafficSecret := by
  have hends := hruns.ends
  simp only [acceptGmRustInnerWithCert, ends_readHandshakeRecord_bind,
    ends_writeHandshakeRecord_bind, ends_check_bind] at hends
  obtain ⟨_, _, -, -, ch, -, _, -, derived, -, _, -, -, _, -, hends⟩ := hends
  rw [ends_bind] at hends
  obtain ⟨_, _, _, -, -, hends⟩ := hends
  rw [ends_bind] at hends
  obtain ⟨_, _, _, -, -, hends⟩ := hends
  simp only [ends_writeHandshakeRecord_bind, ends_check_bind] at hends
  obtain ⟨_, -, _, -, _, -, -, _, -, _, -, _, -, -, hends⟩ := hends
  have hres : ∃ pem : Option Bytes, (serverStream secrets negotiated, clientCertPem, some ticket) =
      (serverStream derived (selectAlpn alpn ch.alpn), pem,
      createTicket lib opts clock entropy derived
        (buildServerHello lib entropy (selectAlpn alpn ch.alpn) certPem requireClientAuth)
        ch requireClientAuth) := by
    split_ifs at hends
    · rw [ends_bind] at hends
      obtain ⟨pem, _, _, -, -, hends⟩ := hends
      exact ⟨some pem, (ends_pure.mp hends).2⟩
    · rw [Proc.pure_bind] at hends
      exact ⟨none, (ends_pure.mp hends).2⟩
  obtain ⟨_, hres⟩ := hres
  simp only [Prod.mk.injEq] at hres
  obtain ⟨hstr, -, hticket⟩ := hres
  obtain ⟨hkeys, hcli, hsrv⟩ := serverStream_inj hstr
  cases hkeySet : opts.sessionTicketKey with
  | none =>
    rw [createTicket, hkeySet] at hticket
    cases hticket
  | some keySet =>
    simp only [createTicket, hkeySet] at hticket
    exact ⟨keySet, _, rfl, toOption_eq_some.mp hticket.symm, hkeys.symm, congrArg some hcli.symm,
      congrArg some hsrv.symm⟩

lemma SessionEnd.writeSide (hround : StatesRoundTrip lib)
    {isClient : Bool} {stream : GmTlsStream} (hend : SessionEnd lib secrets isClient stream) :
    (stream.writeKey, stream.writeNonce, stream.writeTrafficSecret) =
    secrets.writeSide isClient := by
  cases hend with
  | connected => rfl
  | accepted => rfl
  | resumed hissued hticket hkeys hopens =>
    obtain ⟨keySet, state, hkeySet, henc, hsame, hcli, hsrv⟩ :=
      exists_encryptSessionTicket hissued
    obtain ⟨found, foundKeys, store, hfound, hfoundKeys, -, hdec⟩ := hopens
    obtain rfl := Option.some.inj (hticket.symm.trans hfound)
    obtain rfl := Option.some.inj ((hfoundKeys.symm.trans hkeys).trans hkeySet)
    obtain rfl := eq_of_decryptSessionTicket hround henc hdec
    rw [resumedStream, hcli, hsrv, hsame]
    rfl

variable (lib) in
/-- A history of a session: its ends, each with its side and the stream that calls on it have led
to. -/
def SessionHistory (secrets : HandshakeSecrets) (history : List (Bool × RecordStream)) : Prop :=
  ∀ made ∈ history, ∃ stream calls, SessionEnd lib secrets made.1 stream ∧
    WriteCall.Run lib (stream.withVersion versionTls13) calls made.2

/-- No two different records are encrypted under the same key and nonce. -/
def NoncesUnique (history : List (Bool × RecordStream)) : Prop :=
  ∀ first ∈ history, ∀ second ∈ history, ∀ entry ∈ first.2.sealed, ∀ other ∈ second.2.sealed,
    entry.key = other.key → entry.nonce = other.nonce → entry.aad = other.aad ∧
    entry.inner = other.inner

/-- Connections on one side encrypt the same records. -/
def SameRecords (history : List (Bool × RecordStream)) : Prop :=
  ∀ first ∈ history, ∀ second ∈ history, first.1 = second.1 → ∀ (epoch index : ℕ)
    (entry other : Sealing),
    (first.2.sealedIn epoch)[index]? = some entry → (second.2.sealedIn epoch)[index]? = some other →
      entry.inner = other.inner

/-- The keys of different sides or epochs are different, as far as they were used. -/
def KeysDiffer (history : List (Bool × RecordStream)) : Prop :=
  ∀ first ∈ history, ∀ second ∈ history, ∀ entry ∈ first.2.sealed, ∀ other ∈ second.2.sealed,
    entry.key = other.key → first.1 = second.1 ∧ entry.epoch = other.epoch

lemma writeChain_congr {stream other : GmTlsStream} (version : Octets 2)
    (hsame : (stream.writeKey, stream.writeNonce, stream.writeTrafficSecret) =
      (other.writeKey, other.writeNonce, other.writeTrafficSecret)) (epoch : ℕ) :
    RecordStream.writeChain lib (stream.withVersion version) epoch =
      RecordStream.writeChain lib (other.withVersion version) epoch := by
  induction epoch with
  | zero => exact hsame
  | succ epoch ih => rw [writeChain, ih, writeChain]

lemma SessionHistory.entries_agree (hround : StatesRoundTrip lib)
    {history : List (Bool × RecordStream)} (hhistory : SessionHistory lib secrets history)
    {first second : Bool × RecordStream} (hfirst : first ∈ history) (hsnd : second ∈ history)
    (hside : first.1 = second.1) {epoch index place : ℕ} {entry other : Sealing}
    (hentry : (first.2.sealedIn epoch)[index]? = some entry)
    (hother : (second.2.sealedIn epoch)[place]? = some other) :
    entry.key = other.key ∧ (entry.nonce = other.nonce ↔ index = place) ∧
      (index = place → entry.inner = other.inner → entry.aad = other.aad) := by
  obtain ⟨stream, calls, hend, hrun⟩ := hhistory first hfirst
  obtain ⟨otherStream, otherCalls, hotherEnd, hotherRun⟩ := hhistory second hsnd
  have hstart := ledger_withVersion lib stream versionTls13
  have hotherStart := ledger_withVersion lib otherStream versionTls13
  have hindex : index < 2 ^ 64 := by
    have hlen := hrun.length_sealedIn_lt hstart (fun _ ↦ Nat.zero_le _) epoch
    have hlt := (List.getElem?_eq_some_iff.mp hentry).1
    omega
  have hplace : place < 2 ^ 64 := by
    have hlen := hotherRun.length_sealedIn_lt hotherStart (fun _ ↦ Nat.zero_le _) epoch
    have hlt := (List.getElem?_eq_some_iff.mp hother).1
    omega
  have hwrite := hend.writeSide hround
  rw [hside, ← hotherEnd.writeSide hround] at hwrite
  obtain ⟨hkey, hnonce, haad⟩ := (hrun.ledger hstart).entries epoch index entry hentry
  obtain ⟨hotherKey, hotherNonce, hotherAad⟩ :=
    (hotherRun.ledger hotherStart).entries epoch place other hother
  rw [writeChain_congr versionTls13 hwrite] at hkey hnonce
  refine ⟨hkey.trans hotherKey.symm, ⟨fun hsame ↦ ?_, ?_⟩, ?_⟩
  · rw [← hsame] at hotherNonce
    exact nextNonce_injective hindex hplace hnonce hotherNonce
  · rintro rfl
    exact ok.inj (hnonce.symm.trans hotherNonce)
  rintro rfl hinner
  rw [haad, hotherAad, hinner]
  rfl

lemma exists_place {stream : RecordStream} {entry : Sealing} (hmem : entry ∈ stream.sealed) :
    ∃ index : ℕ, (stream.sealedIn entry.epoch)[index]? = some entry :=
  mem_iff_getElem?.mp (mem_filter.mpr ⟨hmem, decide_eq_true rfl⟩)

/-- Over the connections of a session no nonce repeats for different records exactly when
connections on one side encrypt the same records. -/
theorem nonces_unique_iff (hround : StatesRoundTrip lib) {secrets : HandshakeSecrets}
    {history : List (Bool × RecordStream)} (hhistory : SessionHistory lib secrets history)
    (hkeys : KeysDiffer history) : NoncesUnique history ↔ SameRecords history := by
  constructor
  · intro hunique first hfirst second hsecond hside epoch index entry other hentry hother
    obtain ⟨hkey, hnonce, -⟩ :=
      hhistory.entries_agree hround hfirst hsecond hside hentry hother
    have hmem := mem_of_mem_filter (mem_of_getElem? hentry)
    have hotherMem := mem_of_mem_filter (mem_of_getElem? hother)
    exact (hunique first hfirst second hsecond entry hmem other hotherMem hkey (hnonce.mpr rfl)).2
  intro hsame first hfirst second hsecond entry hentry other hother hkey hnonce
  obtain ⟨hside, hepoch⟩ := hkeys first hfirst second hsecond entry hentry other hother hkey
  obtain ⟨index, hindex⟩ := exists_place hentry
  obtain ⟨place, hplace⟩ := exists_place hother
  rw [← hepoch] at hplace
  obtain ⟨-, hplaces, haad⟩ := hhistory.entries_agree hround hfirst hsecond hside hindex hplace
  obtain rfl := hplaces.mp hnonce
  have hinner := hsame first hfirst second hsecond hside entry.epoch index entry other hindex hplace
  exact ⟨haad rfl hinner, hinner⟩

end Library

def sampleSecrets : HandshakeSecrets where
  masterSecret := List.replicate 32 96
  clientTrafficSecret := List.replicate 32 64
  serverTrafficSecret := List.replicate 32 64
  sessionKeys := ⟨List.replicate 16 64, .fill 12 0, List.replicate 16 64, .fill 12 0⟩

def sampleState : SessionState where
  masterSecret := sampleSecrets.masterSecret
  sessionKeys := sampleSecrets.sessionKeys
  clientTrafficSecret := some sampleSecrets.clientTrafficSecret
  serverTrafficSecret := some sampleSecrets.serverTrafficSecret
  serverRandom := .fill 32 0
  clientRandom := .fill 32 0
  alpn := none
  lifetimeHint := 3600
  requireClientAuth := false
  createdAt := 0

def sessionTls : TlsLibrary (ZMod 256) (ZMod 256) :=
  { miniTls with
    serializeState := fun state ↦ if state = sampleState then .ok [0] else .error "unsupported"
    deserializeState := fun _ ↦ .ok sampleState }

lemma statesRoundTrip_sessionTls : StatesRoundTrip sessionTls := by
  intro state bytes hserz
  change (if state = sampleState then ok [0] else error "unsupported") = .ok bytes at hserz
  split_ifs at hserz with hstate
  exact congrArg ok hstate.symm

def issuingOptions : HandshakeOptions :=
  { HandshakeOptions.default with sessionTicketKey := some ⟨[⟨1, .fill 32 0⟩]⟩ }

def resumingHello : Bytes :=
  ServerHello.toBytes
    { buildServerHello sessionTls serverEntropy none [] false with
      extensions := [], ephPubkey := [] }

def connectedStream : GmTlsStream := clientStream sampleSecrets (miniLeaf 1) none

lemma sessionEnd_connectedStream : SessionEnd sessionTls sampleSecrets true connectedStream := by
  have hruns := runs_feed (connectGmRustInner sessionTls [] [] miniRoot none [] .default miniClock
    (miniEntropy 4)) miniServerFlight
  have hres : ((connectGmRustInner sessionTls [] [] miniRoot none [] .default miniClock
      (miniEntropy 4)).feed miniServerFlight).2.toOption = some connectedStream := by
    decide +kernel
  rw [toOption_eq_some.mp hres] at hruns
  exact .connected hruns

lemma sessionEnd_resumedStream :
    SessionEnd sessionTls sampleSecrets true (resumedStream sampleState none) := by
  have hissued := runs_feed (acceptGmRustInnerWithCert sessionTls (miniLeaf 1) [1] miniRoot false []
    issuingOptions miniClock (miniEntropy 5)) (miniRecord (miniClientHello 4))
  have hsrv : ((acceptGmRustInnerWithCert sessionTls (miniLeaf 1) [1] miniRoot false []
      issuingOptions miniClock (miniEntropy 5)).feed (miniRecord (miniClientHello 4))).2.toOption =
        some (serverStream sampleSecrets none, none, miniTicketOptions.sessionTicket) := by
    decide +kernel
  have hruns := runs_feed (connectGmRustInner sessionTls [] [] miniRoot none [] miniTicketOptions
    miniClock (miniEntropy 6)) (miniRecord resumingHello)
  have hcli : ((connectGmRustInner sessionTls [] [] miniRoot none [] miniTicketOptions miniClock
      (miniEntropy 6)).feed (miniRecord resumingHello)).2.toOption =
      some (resumedStream sampleState none) := by
    decide +kernel
  rw [toOption_eq_some.mp hsrv] at hissued
  rw [toOption_eq_some.mp hcli] at hruns
  have hopens : TicketDecrypts sessionTls miniTicketOptions miniClock sampleState := by
    refine ⟨⟨1 :: (List.replicate 27 0 ++ [1, 0]), 1⟩, ⟨[⟨1, .fill 32 0⟩]⟩, .inMemory,
      rfl, rfl, rfl, ?_⟩
    exact toOption_eq_some.mp (by decide)
  have hkeys : miniTicketOptions.sessionTicketKey = issuingOptions.sessionTicketKey := rfl
  exact .resumed hissued rfl hkeys hopens hruns

def afterRecord (stream : GmTlsStream) (plaintext : Bytes) : RecordStream :=
  RecordStream.leftBehind ((RecordStream.writeApplicationData sessionTls plaintext
    (stream.withVersion versionTls13)).feed []).2

variable (stream : GmTlsStream) (plaintext : Bytes) in
lemma run_afterRecord : ∃ calls, WriteCall.Run sessionTls (stream.withVersion versionTls13) calls
    (afterRecord stream plaintext) :=
  ⟨_, .cons (.writeApplicationData (runs_feed (writeApplicationData sessionTls plaintext
    (stream.withVersion versionTls13)) [])) (.nil _)⟩

def sampleHistory (first second : Bytes) : List (Bool × RecordStream) :=
  [(true, afterRecord connectedStream first),
    (true, afterRecord (resumedStream sampleState none) second)]

lemma sessionHistory_sampleHistory (first second : Bytes) :
    SessionHistory sessionTls sampleSecrets (sampleHistory first second) := by
  refine forall_mem_cons.mpr ⟨?_, forall_mem_singleton.mpr ?_⟩
  · obtain ⟨calls, hrun⟩ := run_afterRecord connectedStream first
    exact ⟨connectedStream, calls, sessionEnd_connectedStream, hrun⟩
  · obtain ⟨calls, hrun⟩ := run_afterRecord (resumedStream sampleState none) second
    exact ⟨resumedStream sampleState none, calls, sessionEnd_resumedStream, hrun⟩

/-- A session whose two connections write the same record uses no nonce twice. -/
theorem same_record_unique :
    (∀ made ∈ sampleHistory [1] [1], made.2.sealed.length = 1) ∧
    NoncesUnique (sampleHistory [1] [1]) := by
  have hsealed : ∀ made ∈ sampleHistory [1] [1], made.2.sealed =
      (afterRecord connectedStream [1]).sealed := by
    decide
  have hkeys : KeysDiffer (sampleHistory [1] [1]) := by
    unfold KeysDiffer
    decide
  refine ⟨by decide, (nonces_unique_iff statesRoundTrip_sessionTls (sessionHistory_sampleHistory [1]
    [1]) hkeys).mpr ?_⟩
  intro first hfirst second hsecond _ epoch index entry other hentry hother
  rw [sealedIn, hsealed first hfirst] at hentry
  rw [sealedIn, hsealed second hsecond, hentry] at hother
  rw [Option.some.inj hother]

/-- A client writes one record, resumes the session and writes another: both are encrypted under the
same key and nonce. -/
theorem resumption_reuses_nonce : SessionHistory sessionTls sampleSecrets (sampleHistory [1] [2]) ∧
      ¬ NoncesUnique (sampleHistory [1] [2]) := by
  refine ⟨sessionHistory_sampleHistory [1] [2], ?_⟩
  unfold NoncesUnique
  decide

end GmStack.Tls
