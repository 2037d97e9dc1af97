import GmStack.Ca.Certificate
import GmStack.Foundation.Tasks

/-! `gm-ca/src/service.rs` over the table of `gm-ca/src/db.rs`. A call is a `Task` over the
operations of the table and the draw of a CRL number. -/

namespace GmStack.Ca

open Foundation Crypto List Except Task

/-! ### The table -/

/-- `status`, `revoked_at` and `revocation_reason`. -/
inductive RowStatus
  | active
  | revoked (revokedAt : Instant) (reason : ℤ)
  deriving DecidableEq

/-- The columns `insert_certificate` is given. -/
structure NewCertificate where
  serialNumber : String
  certificatePem : String
  issuerCn : String
  subjectCn : String
  notBefore : Instant
  notAfter : Instant

/-- A row of the table. -/
structure Certificate extends NewCertificate where
  status : RowStatus

/-- The table; serial numbers are unique. -/
structure CertificateTable where
  rows : List Certificate
  unique : (rows.map fun row ↦ row.serialNumber).Nodup

namespace CertificateTable

def empty : CertificateTable := ⟨[], nodup_nil⟩

/-- A serial number is in the table. -/
def Has (table : CertificateTable) (serialNumber : String) : Prop :=
  ∃ row ∈ table.rows, row.serialNumber = serialNumber

instance (table : CertificateTable) (serialNumber : String) : Decidable (table.Has serialNumber) :=
  inferInstanceAs (Decidable (∃ row ∈ table.rows, row.serialNumber = serialNumber))

def add (table : CertificateTable) (new : NewCertificate) (hfresh : ¬ table.Has new.serialNumber) :
    CertificateTable where
  rows := table.rows ++ [{ new with status := .active }]
  unique := by
    rw [map_append, nodup_append]
    refine ⟨table.unique, nodup_singleton _, ?_⟩
    rintro _ hmem _ hnew rfl
    obtain ⟨row, hrow, hserial⟩ := mem_map.mp hmem
    exact hfresh ⟨row, hrow, hserial.trans (mem_singleton.mp hnew)⟩

def revokedRow (serialNumber : String) (reason : ℤ) (revokedAt : Instant) (row : Certificate) :
    Certificate :=
  if row.serialNumber = serialNumber ∧
    row.status = .active then { row with status := .revoked revokedAt reason }
  else row

@[simp] lemma serialNumber_revokedRow (serialNumber : String) (reason : ℤ) (revokedAt : Instant)
    (row : Certificate) : (revokedRow serialNumber reason revokedAt row).serialNumber =
    row.serialNumber := by
  unfold revokedRow
  split_ifs <;> rfl

@[simp] lemma issuerCn_revokedRow (serialNumber : String) (reason : ℤ) (revokedAt : Instant)
    (row : Certificate) : (revokedRow serialNumber reason revokedAt row).issuerCn =
    row.issuerCn := by
  unfold revokedRow
  split_ifs <;> rfl

def revoke (table : CertificateTable) (serialNumber : String) (reason : ℤ) (revokedAt : Instant) :
    CertificateTable where
  rows := table.rows.map (revokedRow serialNumber reason revokedAt)
  unique := by
    rw [map_map]
    simpa [Function.comp_def] using table.unique

def getCertificate (table : CertificateTable) (serialNumber : String) : Option Certificate :=
  table.rows.find? fun row ↦ row.serialNumber == serialNumber

def insertCertificate (table : CertificateTable) (new : NewCertificate) :
    Except CaError Unit × CertificateTable :=
  if hhas : table.Has new.serialNumber then
    (.error (.databaseError "UNIQUE constraint failed: certificates.serial_number"), table)
  else (.ok (), table.add new hhas)

def revokeCertificate (table : CertificateTable) (serialNumber : String) (reason : ℤ)
    (revokedAt : Instant) :
    Except CaError Unit × CertificateTable :=
  if ∃ row ∈ table.rows, row.serialNumber = serialNumber ∧ row.status = .active then
    (.ok (), table.revoke serialNumber reason revokedAt)
  else (.error (.certificateNotFound "Certificate not found or already revoked"), table)

def crlEntry (issuerCn : String) (row : Certificate) : Option CrlEntry :=
  match row.status with
  | .active => none
  | .revoked revokedAt reason =>
    if row.issuerCn = issuerCn then some ⟨row.serialNumber, revokedAt, reason⟩ else none

def getRevokedCertificates (table : CertificateTable) (issuerCn : String) : List CrlEntry :=
  table.rows.filterMap (crlEntry issuerCn)

variable {issuerCn serialNumber : String}

lemma exists_crlEntry_iff {row : Certificate} :
    (∃ entry, crlEntry issuerCn row = some entry ∧ entry.serialNumber = serialNumber) ↔
      row.status ≠ .active ∧ row.issuerCn = issuerCn ∧ row.serialNumber = serialNumber := by
  unfold crlEntry
  cases hstatus : row.status with
  | active => simp
  | revoked revokedAt reason =>
    by_cases hissuer : row.issuerCn = issuerCn
    · simp [hissuer]
    · simp [hissuer]

lemma mem_getRevokedCertificates {table : CertificateTable} :
    (∃ entry ∈ table.getRevokedCertificates issuerCn, entry.serialNumber = serialNumber) ↔
      ∃ row ∈ table.rows, row.status ≠ .active ∧ row.issuerCn = issuerCn ∧
      row.serialNumber = serialNumber := by
  constructor
  · rintro ⟨entry, hentry, hser⟩
    obtain ⟨row, hrow, hcrl⟩ := mem_filterMap.mp hentry
    exact ⟨row, hrow, exists_crlEntry_iff.mp ⟨entry, hcrl, hser⟩⟩
  rintro ⟨row, hrow, hrev⟩
  obtain ⟨entry, hcrl, hser⟩ := exists_crlEntry_iff.mpr hrev
  exact ⟨entry, mem_filterMap.mpr ⟨row, hrow, hcrl⟩, hser⟩

end CertificateTable

/-- What a call awaits. -/
inductive StoreOp
  | getCertificate (serialNumber : String)
  | insertCertificate (new : NewCertificate)
  | revokeCertificate (serialNumber : String) (reason : ℤ) (revokedAt : Instant)
  | getRevokedCertificates (issuerCn : String)
  | fetchAddCrlNumber

abbrev StoreAnswer : StoreOp → Type
  | .getCertificate _ => Option Certificate
  | .insertCertificate _ => Except CaError Unit
  | .revokeCertificate .. => Except CaError Unit
  | .getRevokedCertificates _ => List CrlEntry
  | .fetchAddCrlNumber => ℕ

/-- The table, and the counter of CRL numbers, an `AtomicU64` in memory. -/
structure ServiceState where
  table : CertificateTable
  crlNumber : ℕ

def ServiceState.start (table : CertificateTable) : ServiceState := ⟨table, 1⟩

def ServiceState.perform (state : ServiceState) : (op : StoreOp) → StoreAnswer op × ServiceState
  | .getCertificate serialNumber => (state.table.getCertificate serialNumber, state)
  | .insertCertificate new =>
    ((state.table.insertCertificate new).1,
      { state with table := (state.table.insertCertificate new).2 })
  | .revokeCertificate serialNumber reason revokedAt =>
    ((state.table.revokeCertificate serialNumber reason revokedAt).1,
      { state with table := (state.table.revokeCertificate serialNumber reason revokedAt).2 })
  | .getRevokedCertificates issuerCn => (state.table.getRevokedCertificates issuerCn, state)
  | .fetchAddCrlNumber =>
    (state.crlNumber, { state with crlNumber := (state.crlNumber + 1) % 2 ^ 64 })

inductive StatusCode
  | invalidArgument
  | notFound
  | internal
  | resourceExhausted

structure Status where
  code : StatusCode
  message : String

structure SignCertificateRequest where
  csrPem : String
  validityDays : ℤ
  validitySeconds : ℤ
  profileJson : String

structure RenewCertificateRequest where
  serialNumber : String
  validityDays : ℤ
  validitySeconds : ℤ
  profileJson : String

/-- What a call takes from its surroundings: the decision of the rate limiter, the clock when the
certificate is made and when its row is, and the random octets of its serial number. -/
structure CallContext where
  rateLimit : Except Status Unit
  issuedAt : Instant
  storedAt : Instant
  ordered : issuedAt ≤ storedAt
  random : Octets 20

inductive CaResponse
  | certificate (issued : SignedCertificate)
  | refused (errorCode errorMessage : String)
  | revoked
  | crl (crl : SignedCrl)

abbrev CaTask := Task StoreOp StoreAnswer Status

namespace DbStore

abbrev getCertificate (serialNumber : String) : CaTask (Option Certificate) :=
  .ask (StoreOp.getCertificate serialNumber)

/-- `insert_certificate`: the UNIQUE constraint refuses a serial number that is there. -/
abbrev insertCertificate (new : NewCertificate) : CaTask (Except CaError Unit) :=
    .ask (StoreOp.insertCertificate new)

abbrev revokeCertificate (serialNumber : String) (reason : ℤ) (revokedAt : Instant) :
    CaTask (Except CaError Unit) := .ask (StoreOp.revokeCertificate serialNumber reason revokedAt)

abbrev getRevokedCertificates (issuerCn : String) : CaTask (List CrlEntry) :=
  .ask (StoreOp.getRevokedCertificates issuerCn)

end DbStore

/-- The draw of a CRL number. -/
abbrev fetchAddCrlNumber : CaTask ℕ := .ask StoreOp.fetchAddCrlNumber

def requestedSeconds (validityDays validitySeconds : ℤ) : Except Status ℤ :=
  if validitySeconds > 0 then .ok validitySeconds
  else do
    rejectIf (validityDays ≤ 0 ∨ validityDays > 3650)
      ⟨.invalidArgument, "validity_days must be 1-3650, got " ++ toString validityDays⟩
    .ok (validityDays * 86400)

def requestedProfile (library : CaLibrary) (profileJson : String) : Except Status CertProfile :=
  if profileJson = "" then .ok .default
  else (library.profileFromJson profileJson).mapError fun e ↦
    ⟨.invalidArgument, "invalid profile_json: " ++ e⟩

def storeIssued (failure : String) (prepared : SignedCertificate × NewCertificate) :
    CaTask CaResponse := do
  let stored ← DbStore.insertCertificate prepared.2
  .check (stored.mapError fun e ↦ ⟨.internal, failure ++ e.display⟩)
  return .certificate prepared.1

section Service

variable {F P : Type} [CommRing F] [AddCommGroup P] [Module F P]
  (sm2 : Sm2Curve F P) (sm3 : Sm3Library) (library : CaLibrary) (signer : CaSigner F)

def prepareSign (context : CallContext) (request : SignCertificateRequest) :
    Except Status (SignedCertificate × NewCertificate) := do
  context.rateLimit
  let profile ← requestedProfile library request.profileJson
  let validitySeconds ← requestedSeconds request.validityDays request.validitySeconds
  let certificate ← (signer.signCsrWithProfileAndSeconds sm2 sm3 library context.issuedAt
    context.random
    (textBytes request.csrPem) validitySeconds profile).mapError fun e ↦
      ⟨.invalidArgument, e.display⟩
  let subjectCn ← (extractCsrSubjectCn library (textBytes request.csrPem)).mapError
    fun e ↦ ⟨.invalidArgument, e.display⟩
  .ok (certificate,
    { serialNumber := hexEncode certificate.tbs.serial.octets
      certificatePem := certificate.pem library
      issuerCn := signer.caSubjectCn
      subjectCn
      notBefore := secondsLong (wholeSeconds context.storedAt)
      notAfter := secondsLong (wholeSeconds (context.storedAt + secondsLong validitySeconds)) })

def signCertificate (context : CallContext) (request : SignCertificateRequest) :
    CaTask CaResponse := do
  let prepared ← .check (prepareSign sm2 sm3 library signer context request)
  storeIssued "failed to store certificate: " prepared

def prepareRenew (context : CallContext) (request : RenewCertificateRequest)
    (existing : Certificate) :
    Except Status (SignedCertificate × NewCertificate) := do
  let profile ← requestedProfile library request.profileJson
  let validitySeconds ← requestedSeconds request.validityDays request.validitySeconds
  let certificate ← (signer.renewCertificateWithProfileAndSeconds sm2 sm3 library context.issuedAt
    context.random existing.certificatePem validitySeconds profile).mapError fun e ↦
    ⟨.invalidArgument, e.display⟩
  let info ← (parseCertPem library (certificate.pem library)).mapError
    fun e ↦ ⟨.internal, "failed to parse renewed cert: " ++ e.display⟩
  match info.serialHex with
  | none => .error ⟨.internal, "renewed cert missing serial"⟩
  | some serialHex =>
    .ok (certificate,
      { serialNumber := serialHex
        certificatePem := certificate.pem library
        issuerCn := signer.caSubjectCn
        subjectCn := existing.subjectCn
        notBefore := context.storedAt
        notAfter := secondsLong (wholeSeconds info.notAfter) })

def renewExisting (context : CallContext) (request : RenewCertificateRequest) :
    Option Certificate → CaTask CaResponse
  | none => .check (.error ⟨.notFound, "Certificate " ++ request.serialNumber ++ " not found"⟩)
  | some existing =>
    if existing.status ≠ .active then
      .check (.ok (.refused "CERT_REVOKED" "Cannot renew a revoked certificate"))
    else do
      let prepared ← .check (prepareRenew sm2 sm3 library signer context request existing)
      storeIssued "failed to store renewed certificate: " prepared

def renewCertificate (context : CallContext) (request : RenewCertificateRequest) :
    CaTask CaResponse := do
  .check context.rateLimit
  let existing ← DbStore.getCertificate request.serialNumber
  renewExisting sm2 sm3 library signer context request existing

def revokeCertificate (serialNumber : String) (reason : ℤ) (now : Instant) : CaTask CaResponse := do
  let updated ← DbStore.revokeCertificate serialNumber reason now
  .check (updated.mapError fun e ↦ ⟨.internal, e.display⟩)
  return .revoked

def numberedCrl (now : Instant) (revoked : List CrlEntry) : CaTask CaResponse := do
  let crlNumber ← fetchAddCrlNumber
  let crl ← .check ((signer.generateCrl sm2 library now revoked crlNumber).mapError fun e ↦
    ⟨.internal, e.display⟩)
  return .crl crl

def getCrl (issuerCn : String) (now : Instant) : CaTask CaResponse := do
  let revoked ← DbStore.getRevokedCertificates issuerCn
  numberedCrl sm2 library signer now revoked

/-- A call of the service. -/
inductive CaCall
  | sign (context : CallContext) (request : SignCertificateRequest)
  | renew (context : CallContext) (request : RenewCertificateRequest)
  | revoke (serialNumber : String) (reason : ℤ) (now : Instant)
  | getCrl (issuerCn : String) (now : Instant)

def CaCall.task : CaCall → CaTask CaResponse
  | .sign context request => signCertificate sm2 sm3 library signer context request
  | .renew context request => renewCertificate sm2 sm3 library signer context request
  | .revoke serialNumber reason now => revokeCertificate serialNumber reason now
  | .getCrl issuerCn now => Ca.getCrl sm2 library signer issuerCn now

def CaCall.answer (call : CaCall) (state : ServiceState) :
    Except Status CaResponse × ServiceState :=
  (call.task sm2 sm3 library signer).alone ServiceState.perform state

/-- A call that makes a certificate, with the certificate and its row. -/
inductive Prepared : CaCall → SignedCertificate → NewCertificate → Prop
  | sign {context : CallContext} {request : SignCertificateRequest}
    {certificate : SignedCertificate}
      {new : NewCertificate} (hprepared : prepareSign sm2 sm3 library signer context request =
      .ok (certificate, new)) :
      Prepared (.sign context request) certificate new
  | renew {context : CallContext} {request : RenewCertificateRequest} {existing : Certificate}
      {certificate : SignedCertificate} {new : NewCertificate}
      (hprepared : prepareRenew sm2 sm3 library signer context request existing =
        .ok (certificate, new)) :
      Prepared (.renew context request) certificate new

/-- The effect of a call on the table, by its response. -/
inductive Effect (table : CertificateTable) : CaCall → Except Status CaResponse →
    CertificateTable → Prop
  | failed {call : CaCall} (status : Status) : Effect table call (.error status) table
  | refused {call : CaCall} (errorCode errorMessage : String) :
      Effect table call (.ok (.refused errorCode errorMessage)) table
  | issued {call : CaCall} {certificate : SignedCertificate} {new : NewCertificate}
      (hprepared : Prepared sm2 sm3 library signer call certificate new)
        (hfresh : ¬ table.Has new.serialNumber) :
      Effect table call (.ok (.certificate certificate)) (table.add new hfresh)
  | revoked (serialNumber : String) (reason : ℤ) (now : Instant)
      (hactive : ∃ row ∈ table.rows, row.serialNumber = serialNumber ∧ row.status = .active) :
      Effect table (.revoke serialNumber reason now) (.ok .revoked)
        (table.revoke serialNumber reason now)
  | listed {call : CaCall} (crl : SignedCrl) : Effect table call (.ok (.crl crl)) table

/-- The serial number of a certificate that the signer builds for a renewal is read back from its
text. -/
def CaLibrary.ReadsSerials : Prop :=
  ∀ now random pem validitySeconds profile certificate,
    signer.renewCertificateWithProfileAndSeconds sm2 sm3 library now random pem validitySeconds
    profile = .ok certificate →
      ∃ info, parseCertPem library (certificate.pem library) = .ok info ∧
        info.serialHex = some (hexEncode certificate.tbs.serial.octets)

variable {sm2 sm3 library signer} {prepared : SignedCertificate × NewCertificate}
  {context : CallContext}

lemma prepareSign_eq_ok {request : SignCertificateRequest}
    (hprep : prepareSign sm2 sm3 library signer context request = .ok prepared) :
    ∃ validitySeconds profile,
      signer.signCsrWithProfileAndSeconds sm2 sm3 library context.issuedAt context.random
      (textBytes request.csrPem)
        validitySeconds profile = .ok prepared.1 ∧ prepared.2.serialNumber =
        hexEncode prepared.1.tbs.serial.octets ∧
      prepared.2.issuerCn = signer.caSubjectCn ∧ prepared.2.notBefore =
      secondsLong (wholeSeconds context.storedAt) := by
  unfold prepareSign at hprep
  rw [unit_bind_eq_ok, bind_eq_ok] at hprep
  obtain ⟨_, profile, _, hprep⟩ := hprep
  obtain ⟨validitySeconds, _, hprep⟩ := bind_eq_ok.mp hprep
  obtain ⟨certificate, hsign, hprep⟩ := bind_eq_ok.mp hprep
  obtain ⟨subjectCn, _, hprep⟩ := bind_eq_ok.mp hprep
  obtain rfl := ok.inj hprep
  exact ⟨validitySeconds, profile, mapError_eq_ok.mp hsign, rfl, rfl, rfl⟩

lemma prepareRenew_eq_ok {request : RenewCertificateRequest} {existing : Certificate}
    (hprep : prepareRenew sm2 sm3 library signer context request existing = .ok prepared) :
    ∃ validitySeconds profile info,
      signer.renewCertificateWithProfileAndSeconds sm2 sm3 library context.issuedAt context.random
      existing.certificatePem
        validitySeconds profile = .ok prepared.1 ∧ parseCertPem library (prepared.1.pem library) =
        .ok info ∧
      info.serialHex = some prepared.2.serialNumber ∧ prepared.2.issuerCn = signer.caSubjectCn ∧
      prepared.2.notBefore = context.storedAt := by
  obtain ⟨profile, _, hprep⟩ := bind_eq_ok.mp hprep
  obtain ⟨validitySeconds, _, hprep⟩ := bind_eq_ok.mp hprep
  obtain ⟨certificate, hrenew, hprep⟩ := bind_eq_ok.mp hprep
  obtain ⟨info, hinfo, hprep⟩ := bind_eq_ok.mp hprep
  cases hser : info.serialHex with
  | none =>
    rw [hser] at hprep
    cases hprep
  | some serialHex =>
    rw [hser] at hprep
    obtain rfl := ok.inj hprep
    exact ⟨validitySeconds, profile, info, mapError_eq_ok.mp hrenew, mapError_eq_ok.mp hinfo,
      hser, rfl, rfl⟩

variable {call : CaCall} {certificate : SignedCertificate} {new : NewCertificate}

lemma Prepared.row (hserials : library.ReadsSerials sm2 sm3 signer)
    (hprep : Prepared sm2 sm3 library signer call certificate new) :
    new.serialNumber = hexEncode certificate.tbs.serial.octets ∧ new.issuerCn =
    signer.caSubjectCn := by
  cases hprep with
  | sign hsign =>
    obtain ⟨-, -, -, hserial, hissuer, -⟩ := prepareSign_eq_ok hsign
    exact ⟨hserial, hissuer⟩
  | renew hrenew =>
    obtain ⟨_, _, info, hbuilt, hinfo, hserial, hissuer, -⟩ := prepareRenew_eq_ok hrenew
    obtain ⟨_, hread, hhex⟩ := hserials _ _ _ _ _ _ hbuilt
    obtain rfl := ok.inj (hread.symm.trans hinfo)
    exact ⟨Option.some.inj (hserial.symm.trans hhex), hissuer⟩

lemma effect_storeIssued (failure : String)
    (hprep : Prepared sm2 sm3 library signer call certificate new)
    (state : ServiceState) : Effect sm2 sm3 library signer state.table call
      ((storeIssued failure (certificate, new)).alone ServiceState.perform state).1
      ((storeIssued failure (certificate, new)).alone ServiceState.perform state).2.table := by
  by_cases hhas : state.table.Has new.serialNumber
  · have hinsert : state.table.insertCertificate new =
        (.error (.databaseError "UNIQUE constraint failed: certificates.serial_number"),
          state.table) :=
      dif_pos hhas
    simp only [storeIssued, ask_bind, alone, ServiceState.perform, hinsert, mapError_error,
      check_error_bind]
    exact .failed _
  have hinsert : state.table.insertCertificate new = (.ok (), state.table.add new hhas) :=
    dif_neg hhas
  simp only [storeIssued, ask_bind, alone, ServiceState.perform, hinsert,
    mapError_ok, check_ok_bind]
  exact .issued hprep hhas

variable (context : CallContext)

lemma effect_signCertificate (request : SignCertificateRequest) (state : ServiceState) :
    Effect sm2 sm3 library signer state.table (.sign context request)
      ((signCertificate sm2 sm3 library signer context request).alone ServiceState.perform state).1
      ((signCertificate sm2 sm3 library signer context request).alone ServiceState.perform
      state).2.table := by
  unfold signCertificate
  cases hprep : prepareSign sm2 sm3 library signer context request with
  | error status => exact .failed status
  | ok prepared => exact effect_storeIssued _ (.sign hprep) state

section

variable (request : RenewCertificateRequest)

lemma effect_renewExisting (existing : Option Certificate) (state : ServiceState) :
    Effect sm2 sm3 library signer state.table (.renew context request)
      ((renewExisting sm2 sm3 library signer context request existing).alone
      ServiceState.perform state).1
      ((renewExisting sm2 sm3 library signer context request existing).alone ServiceState.perform
      state).2.table := by
  cases existing with
  | none => exact .failed _
  | some existing =>
    unfold renewExisting
    dsimp only
    split_ifs with hrev
    · exact .refused _ _
    cases hprep : prepareRenew sm2 sm3 library signer context request existing with
    | error status => exact .failed status
    | ok prepared => exact effect_storeIssued _ (.renew hprep) state

lemma effect_renewCertificate (state : ServiceState) :
    Effect sm2 sm3 library signer state.table (.renew context request)
      ((renewCertificate sm2 sm3 library signer context request).alone ServiceState.perform state).1
      ((renewCertificate sm2 sm3 library signer context request).alone ServiceState.perform
      state).2.table := by
  unfold renewCertificate
  cases context.rateLimit with
  | error status => exact .failed status
  | ok _ => exact effect_renewExisting context request _ state

end

lemma effect_revokeCertificate (serialNumber : String) (reason : ℤ) (now : Instant)
    (state : ServiceState) :
    Effect sm2 sm3 library signer state.table (.revoke serialNumber reason now)
      ((revokeCertificate serialNumber reason now).alone ServiceState.perform state).1
      ((revokeCertificate serialNumber reason now).alone ServiceState.perform state).2.table := by
  simp only [revokeCertificate, ask_bind, alone, ServiceState.perform]
  unfold CertificateTable.revokeCertificate
  split_ifs with hactive
  · exact .revoked serialNumber reason now hactive
  · exact .failed _

lemma effect_getCrl (issuerCn : String) (now : Instant) (state : ServiceState) :
    Effect sm2 sm3 library signer state.table (.getCrl issuerCn now)
      ((getCrl sm2 library signer issuerCn now).alone ServiceState.perform state).1
      ((getCrl sm2 library signer issuerCn now).alone ServiceState.perform state).2.table := by
  simp only [getCrl, numberedCrl, ask_bind, alone, ServiceState.perform]
  cases signer.generateCrl sm2 library now (state.table.getRevokedCertificates issuerCn)
    state.crlNumber with
  | error e => exact .failed _
  | ok crl => exact .listed crl

lemma CaCall.effect (call : CaCall) (state : ServiceState) :
    Effect sm2 sm3 library signer state.table call (call.answer sm2 sm3 library signer state).1
      (call.answer sm2 sm3 library signer state).2.table := by
  cases call with
  | sign context request => exact effect_signCertificate context request state
  | renew context request => exact effect_renewCertificate context request state
  | revoke serialNumber reason now => exact effect_revokeCertificate serialNumber reason now state
  | getCrl issuerCn now => exact effect_getCrl issuerCn now state

/-- The calls so far, each with its response. -/
abbrev CallLog := List (CaCall × Except Status CaResponse)

variable (sm2 sm3 library signer) in
/-- The responses and the state after any number of calls to a service that began with an empty
table. -/
inductive Reached : CallLog → ServiceState → Prop
  | start : Reached [] (.start .empty)
  | call {log : CallLog} {state : ServiceState} (hreached : Reached log state) (call : CaCall) :
      Reached (log ++ [(call, (call.answer sm2 sm3 library signer state).1)])
        (call.answer sm2 sm3 library signer state).2

/-- A certificate with this serial number was returned. -/
def Issued (log : CallLog) (serial : Bytes) : Prop :=
  ∃ call certificate, (call, .ok (.certificate certificate)) ∈ log ∧
    certificate.tbs.serial.octets = serial

/-- The revocation of this serial number was answered with success. -/
def RevokedOk (log : CallLog) (serialNumber : String) : Prop :=
  ∃ reason now, (.revoke serialNumber reason now, .ok .revoked) ∈ log

/-- The table is what the responses say it is. -/
structure Tracks (caSubjectCn : String) (log : CallLog) (table : CertificateTable) : Prop where
  issuer : ∀ row ∈ table.rows, row.issuerCn = caSubjectCn
  issued_of_row : ∀ row ∈ table.rows, ∃ serial, Issued log serial ∧
    row.serialNumber = hexEncode serial
  row_of_issued : ∀ serial, Issued log serial → table.Has (hexEncode serial)
  revoked_iff : ∀ row ∈ table.rows, row.status ≠ .active ↔ RevokedOk log row.serialNumber
  row_of_revoked : ∀ serialNumber, RevokedOk log serialNumber → table.Has serialNumber

variable {log : CallLog} {serial : Bytes}

lemma Issued.append (hissued : Issued log serial)
    (entry : CaCall × Except Status CaResponse) : Issued (log ++ [entry]) serial := by
  obtain ⟨call, certificate, hmem, hser⟩ := hissued
  exact ⟨call, certificate, mem_append_left _ hmem, hser⟩

variable {result : Except Status CaResponse}

lemma issued_append_iff : Issued (log ++ [(call, result)]) serial ↔ Issued log serial ∨
        ∃ certificate, result = .ok (.certificate certificate) ∧ certificate.tbs.serial.octets =
        serial := by
  constructor
  · rintro ⟨_, certificate, hmem, hser⟩
    rcases mem_append.mp hmem with hold | hnew
    · exact .inl ⟨_, certificate, hold, hser⟩
    · have hentry := Prod.mk.inj (mem_singleton.mp hnew)
      exact .inr ⟨certificate, hentry.2.symm, hser⟩
  rintro (hissued | ⟨certificate, rfl, hser⟩)
  · exact hissued.append _
  · exact ⟨call, certificate, mem_append_right _ (mem_singleton_self _), hser⟩

variable {serialNumber : String}

lemma revokedOk_append_iff : RevokedOk (log ++ [(call, result)]) serialNumber ↔
    RevokedOk log serialNumber ∨
        ∃ reason now, call = .revoke serialNumber reason now ∧ result = .ok .revoked := by
  constructor
  · rintro ⟨reason, now, hmem⟩
    rcases mem_append.mp hmem with hold | hnew
    · exact .inl ⟨reason, now, hold⟩
    · have hentry := Prod.mk.inj (mem_singleton.mp hnew)
      exact .inr ⟨reason, now, hentry.1.symm, hentry.2.symm⟩
  rintro (⟨reason, now, hold⟩ | ⟨reason, now, rfl, rfl⟩)
  · exact ⟨reason, now, mem_append_left _ hold⟩
  · exact ⟨reason, now, mem_append_right _ (mem_singleton_self _)⟩

variable {caSubjectCn : String} {table : CertificateTable}

lemma Tracks.append (htracks : Tracks caSubjectCn log table) (call : CaCall)
    (hcert : ∀ certificate, result ≠ .ok (.certificate certificate))
    (hrev : result ≠ .ok .revoked) :
    Tracks caSubjectCn (log ++ [(call, result)]) table := by
  have hissued : ∀ serial, Issued (log ++ [(call, result)]) serial ↔ Issued log serial := by
    intro serial
    rw [issued_append_iff]
    exact or_iff_left fun ⟨certificate, hres, _⟩ ↦ hcert certificate hres
  have hok : ∀ serialNumber, RevokedOk (log ++ [(call, result)]) serialNumber ↔
      RevokedOk log serialNumber := by
    intro serialNumber
    rw [revokedOk_append_iff]
    exact or_iff_left fun ⟨_, _, _, hres⟩ ↦ hrev hres
  constructor
  · exact htracks.issuer
  · simpa only [hissued] using htracks.issued_of_row
  · simpa only [hissued] using htracks.row_of_issued
  · simpa only [hok] using htracks.revoked_iff
  · simpa only [hok] using htracks.row_of_revoked

lemma Tracks.issue
    (htracks : Tracks caSubjectCn log table) (call : CaCall)
    (hser : new.serialNumber = hexEncode certificate.tbs.serial.octets)
    (hissuer : new.issuerCn = caSubjectCn) (hfresh : ¬ table.Has new.serialNumber) :
    Tracks caSubjectCn (log ++ [(call, .ok (.certificate certificate))])
    (table.add new hfresh) := by
  have hok : ∀ serialNumber, RevokedOk (log ++ [(call, .ok (.certificate certificate))])
    serialNumber ↔
      RevokedOk log serialNumber := by
    intro serialNumber
    rw [revokedOk_append_iff]
    exact or_iff_left fun ⟨_, _, _, hres⟩ ↦ by cases hres
  have hkeeps : ∀ {serialNumber}, table.Has serialNumber →
    (table.add new hfresh).Has serialNumber :=
    fun ⟨row, hrow, hrowSerial⟩ ↦ ⟨row, mem_append_left _ hrow, hrowSerial⟩
  have hrows : ∀ {row}, row ∈ (table.add new hfresh).rows → row ∈ table.rows ∨
    row = { new with status := .active } :=
    fun hrow ↦ (mem_append.mp hrow).imp id mem_singleton.mp
  constructor
  · intro row hrow
    rcases hrows hrow with hold | rfl
    · exact htracks.issuer row hold
    · exact hissuer
  · intro row hrow
    rcases hrows hrow with hold | rfl
    · obtain ⟨serial, hissued, hrowSerial⟩ := htracks.issued_of_row row hold
      exact ⟨serial, hissued.append _, hrowSerial⟩
    · exact ⟨_, issued_append_iff.mpr (.inr ⟨certificate, rfl, rfl⟩), hser⟩
  · intro serial hissued
    rcases issued_append_iff.mp hissued with hold | ⟨_, hcert, rfl⟩
    · exact hkeeps (htracks.row_of_issued serial hold)
    · obtain rfl := CaResponse.certificate.inj (ok.inj hcert)
      exact ⟨_, mem_append_right _ (mem_singleton_self _), hser⟩
  · intro row hrow
    rw [hok]
    rcases hrows hrow with hold | rfl
    · exact htracks.revoked_iff row hold
    -- the new row is active, and no revocation of its serial number can have succeeded
    refine iff_of_false (fun hactive ↦ hactive rfl) fun hrev ↦ hfresh ?_
    exact htracks.row_of_revoked _ hrev
  · intro serialNumber hrev
    exact hkeeps (htracks.row_of_revoked _ ((hok serialNumber).mp hrev))

variable {reason : ℤ} {revokedAt : Instant}

lemma CertificateTable.has_revoke {other : String}
    (hhas : table.Has other) : (table.revoke serialNumber reason revokedAt).Has other := by
  obtain ⟨row, hrow, hser⟩ := hhas
  exact ⟨_, mem_map_of_mem hrow, by rw [serialNumber_revokedRow, hser]⟩

lemma CertificateTable.revokedRow_status {row : Certificate} :
    (revokedRow serialNumber reason revokedAt row).status ≠ .active ↔
      row.status ≠ .active ∨ row.serialNumber = serialNumber := by
  unfold revokedRow
  by_cases hactive : row.status = .active
  · by_cases hser : row.serialNumber = serialNumber
    · simp [hactive, hser]
    · simp [hactive, hser]
  · simp [hactive]

lemma Tracks.revoke (htracks : Tracks caSubjectCn log table) (serialNumber : String) (reason : ℤ)
    (now : Instant)
    (hactive : ∃ row ∈ table.rows, row.serialNumber = serialNumber ∧ row.status = .active) :
    Tracks caSubjectCn (log ++ [(.revoke serialNumber reason now, .ok .revoked)])
      (table.revoke serialNumber reason now) := by
  have hissued : ∀ serial, Issued (log ++ [(.revoke serialNumber reason now, .ok .revoked)])
      serial ↔ Issued log serial := by
    intro serial
    rw [issued_append_iff]
    exact or_iff_left fun ⟨_, hres, _⟩ ↦ by cases hres
  have hok : ∀ other, RevokedOk (log ++ [(.revoke serialNumber reason now, .ok .revoked)]) other ↔
      RevokedOk log other ∨ other = serialNumber := by
    intro other
    rw [revokedOk_append_iff]
    refine or_congr_right ⟨fun ⟨_, _, hcall, _⟩ ↦ (CaCall.revoke.inj hcall).1.symm, ?_⟩
    rintro rfl
    exact ⟨reason, now, rfl, rfl⟩
  constructor
  · intro row hrow
    obtain ⟨before, hbefore, rfl⟩ := mem_map.mp hrow
    rw [CertificateTable.issuerCn_revokedRow]
    exact htracks.issuer before hbefore
  · intro row hrow
    obtain ⟨before, hbefore, rfl⟩ := mem_map.mp hrow
    rw [CertificateTable.serialNumber_revokedRow]
    simpa only [hissued] using htracks.issued_of_row before hbefore
  · intro serial hser
    exact CertificateTable.has_revoke (htracks.row_of_issued serial ((hissued serial).mp hser))
  · intro row hrow
    obtain ⟨before, hbefore, rfl⟩ := mem_map.mp hrow
    rw [CertificateTable.revokedRow_status, hok, CertificateTable.serialNumber_revokedRow,
      htracks.revoked_iff before hbefore]
  intro other hrev
  refine CertificateTable.has_revoke ?_
  rcases (hok other).mp hrev with hold | rfl
  · exact htracks.row_of_revoked other hold
  · obtain ⟨row, hrow, hser, _⟩ := hactive
    exact ⟨row, hrow, hser⟩

lemma Tracks.step (hserials : library.ReadsSerials sm2 sm3 signer) {after : CertificateTable}
    (htracks : Tracks signer.caSubjectCn log table)
    (heffect : Effect sm2 sm3 library signer table call result after) :
    Tracks signer.caSubjectCn (log ++ [(call, result)]) after := by
  cases heffect with
  | failed status => exact htracks.append call (fun _ h ↦ by cases h) (fun h ↦ by cases h)
  | refused code message => exact htracks.append call (fun _ h ↦ by cases h) (fun h ↦ by cases h)
  | listed crl => exact htracks.append call (fun _ h ↦ by cases h) (fun h ↦ by cases h)
  | issued hprep hfresh =>
    obtain ⟨hser, hissuer⟩ := hprep.row hserials
    exact htracks.issue call hser hissuer hfresh
  | revoked serialNumber reason now hactive => exact htracks.revoke serialNumber reason now hactive

lemma Tracks.reached (hserials : library.ReadsSerials sm2 sm3 signer) {state : ServiceState}
    (hreach : Reached sm2 sm3 library signer log state) :
    Tracks signer.caSubjectCn log state.table := by
  induction hreach with
  | start =>
    constructor
    · intro row hrow
      cases hrow
    · intro row hrow
      cases hrow
    · rintro serial ⟨call, certificate, hmem, _⟩
      cases hmem
    · intro row hrow
      cases hrow
    · rintro serialNumber ⟨reason, now, hmem⟩
      cases hmem
  | call _ call ih => exact ih.step hserials (call.effect _)

def SignedCrl.serials (crl : SignedCrl) : List Bytes := crl.tbs.revoked.map fun revoked ↦
    revoked.serial

variable {entries : List CrlEntry}

lemma CaSigner.mem_revokedCertificates {revoked : List RevokedCertificate}
    (hrev : CaSigner.revokedCertificates entries = .ok revoked) :
    serial ∈ revoked.map (fun certificate ↦ certificate.serial) ↔
      ∃ entry ∈ entries, hexDecode entry.serialNumber = .ok serial := by
  induction entries generalizing revoked with
  | nil =>
    obtain rfl := ok.inj hrev
    simp
  | cons entry rest ih =>
    obtain ⟨first, hfirst, hrest⟩ := bind_eq_ok.mp hrev
    obtain ⟨others, hothers, hcons⟩ := bind_eq_ok.mp hrest
    obtain rfl := ok.inj hcons
    rw [map_cons, mem_cons, ih hothers, exists_mem_cons_iff, mapError_eq_ok.mp hfirst,
      ok.injEq, eq_comm]

variable {now : Instant} {crlNumber : ℕ}

lemma CaSigner.generateCrl_eq_ok {crl : SignedCrl}
    (hcrl : signer.generateCrl sm2 library now entries crlNumber = .ok crl) :
    crl.tbs.issuerCn = signer.caSubjectCn ∧ crl.tbs.crlNumber = crlNumber ∧
      signer.signDer sm2 "CRLsigning failed: " (crl.tbs.toDer library) = .ok crl.signature ∧
      ∀ serial, serial ∈ crl.serials ↔ ∃ entry ∈ entries, hexDecode entry.serialNumber =
      .ok serial := by
  obtain ⟨revoked, hrev, hsign⟩ := bind_eq_ok.mp hcrl
  obtain ⟨signature, hsig, hmade⟩ := bind_eq_ok.mp hsign
  obtain rfl := ok.inj hmade
  exact ⟨rfl, rfl, hsig, fun serial ↦ CaSigner.mem_revokedCertificates hrev⟩

variable (sm2 library signer) in
/-- A list of the CA that has exactly the certificates it issued and revoked. -/
structure CompleteCrl (log : CallLog) (crl : SignedCrl) : Prop where
  issuer : crl.tbs.issuerCn = signer.caSubjectCn
  signed : signer.signDer sm2 "CRLsigning failed: " (crl.tbs.toDer library) = .ok crl.signature
  lists : ∀ serial, serial ∈ crl.serials ↔ Issued log serial ∧ RevokedOk log (hexEncode serial)

variable (sm2 sm3 library signer) in
/-- The response to a request for a list is an error or a complete list. -/
def CrlAnswered (log : CallLog) (response : Except Status CaResponse) : Prop :=
  Fails response ∨ ∃ crl, response = .ok (.crl crl) ∧ CompleteCrl sm2 library signer log crl

lemma getCrl_answer (issuerCn : String) (now : Instant) (state : ServiceState) :
    ((CaCall.getCrl issuerCn now).answer sm2 sm3 library signer state).1 =
      ((signer.generateCrl sm2 library now (state.table.getRevokedCertificates issuerCn)
        state.crlNumber).mapError fun e ↦ ⟨.internal, e.display⟩).map .crl := by
  simp only [CaCall.answer, CaCall.task, getCrl, numberedCrl, ask_bind, alone, ServiceState.perform]
  cases signer.generateCrl sm2 library now (state.table.getRevokedCertificates issuerCn)
    state.crlNumber with
  | error e => rfl
  | ok crl => rfl

lemma mem_serials_generateCrl (htracks : Tracks signer.caSubjectCn log table) {issuerCn : String}
    {crl : SignedCrl}
    (hcrl : signer.generateCrl sm2 library now (table.getRevokedCertificates issuerCn) crlNumber =
    .ok crl)
    (serial : Bytes) : serial ∈ crl.serials ↔
      issuerCn = signer.caSubjectCn ∧ Issued log serial ∧ RevokedOk log (hexEncode serial) := by
  rw [(CaSigner.generateCrl_eq_ok hcrl).2.2.2 serial]
  constructor
  · rintro ⟨entry, hentry, hdec⟩
    obtain ⟨row, hrow, hstatus, hissuer, hrowSerial⟩ :=
      CertificateTable.mem_getRevokedCertificates.mp ⟨entry, hentry, rfl⟩
    obtain ⟨issued, hissued, henc⟩ := htracks.issued_of_row row hrow
    rw [← hrowSerial, henc, hexDecode_hexEncode] at hdec
    obtain rfl := ok.inj hdec
    refine ⟨hissuer.symm.trans (htracks.issuer row hrow), hissued, ?_⟩
    rw [← henc]
    exact (htracks.revoked_iff row hrow).mp hstatus
  rintro ⟨rfl, hissued, hrev⟩
  obtain ⟨row, hrow, hrowSerial⟩ := htracks.row_of_issued serial hissued
  have hstatus : row.status ≠ .active := (htracks.revoked_iff row hrow).mpr (hrowSerial ▸ hrev)
  obtain ⟨entry, hentry, hser⟩ := CertificateTable.mem_getRevokedCertificates.mpr
    ⟨row, hrow, hstatus, htracks.issuer row hrow, hrowSerial⟩
  exact ⟨entry, hentry, by rw [hser, hexDecode_hexEncode]⟩

/-- The response is an error or a complete list of the CA exactly when it is an error, or the
request names the CA, or nothing has been revoked. -/
theorem getCrl_complete_iff (hserials : library.ReadsSerials sm2 sm3 signer) {log : CallLog}
    {state : ServiceState}
    (hreached : Reached sm2 sm3 library signer log state) (issuerCn : String) (now : Instant) :
    CrlAnswered sm2 library signer log
    ((CaCall.getCrl issuerCn now).answer sm2 sm3 library signer state).1 ↔
      Fails ((CaCall.getCrl issuerCn now).answer sm2 sm3 library signer state).1 ∨
        issuerCn = signer.caSubjectCn ∨ ∀ serial,
        ¬ (Issued log serial ∧ RevokedOk log (hexEncode serial)) := by
  have htracks := Tracks.reached hserials hreached
  unfold CrlAnswered
  rw [getCrl_answer]
  cases hcrl : signer.generateCrl sm2 library now (state.table.getRevokedCertificates issuerCn)
    state.crlNumber with
  | error e => exact iff_of_true (.inl (fails_error _)) (.inl (fails_error _))
  | ok crl =>
    have hserial := mem_serials_generateCrl htracks hcrl
    obtain ⟨hissuer, _, hsigned, _⟩ := CaSigner.generateCrl_eq_ok hcrl
    simp only [mapError_ok]
    constructor
    · rintro (hfails | ⟨_, hequal, hcomplete⟩)
      · exact absurd hfails (not_fails_ok _)
      obtain rfl := CaResponse.crl.inj (ok.inj hequal)
      by_cases hname : issuerCn = signer.caSubjectCn
      · exact .inr (.inl hname)
      · refine .inr (.inr fun serial hrevoked ↦ hname ?_)
        exact ((hserial serial).mp ((hcomplete.lists serial).mpr hrevoked)).1
    rintro (hfails | hname | hnone)
    · exact absurd hfails (not_fails_ok _)
    · exact .inr ⟨crl, rfl, hissuer, hsigned, fun serial ↦
        (hserial serial).trans (and_iff_right hname)⟩
    · refine .inr ⟨crl, rfl, hissuer, hsigned, fun serial ↦ ?_⟩
      exact iff_of_false (fun hmem ↦ hnone serial ((hserial serial).mp hmem).2) (hnone serial)

def issuedSerials (log : CallLog) : List Bytes :=
  log.filterMap fun
  | (_, .ok (.certificate certificate)) => some certificate.tbs.serial.octets
  | _ => none

lemma issued_of_mem_issuedSerials (hmem : serial ∈ issuedSerials log) : Issued log serial := by
  obtain ⟨⟨call, response⟩, hentry, hserial⟩ := mem_filterMap.mp hmem
  match response with
  | .ok (.certificate certificate) => exact ⟨call, certificate, hentry, Option.some.inj hserial⟩

/-- No serial number is given out twice, whatever the source of randomness returns. -/
theorem issuedSerials_nodup (hserials : library.ReadsSerials sm2 sm3 signer) {state : ServiceState}
    (hreached : Reached sm2 sm3 library signer log state) :
    (issuedSerials log).Nodup := by
  induction hreached with
  | start => exact nodup_nil
  | @call log state hreached call ih =>
    have heffect : Effect sm2 sm3 library signer _ _ _ _ := call.effect state
    generalize (call.answer sm2 sm3 library signer state).1 = response at heffect ⊢
    generalize (call.answer sm2 sm3 library signer state).2.table = after at heffect
    rw [issuedSerials, filterMap_append, nodup_append_comm]
    cases heffect with
    | failed status | refused code text | listed crl | revoked serialNumber reason now hactive =>
      exact ih
    | @issued _ certificate new hprep hfresh =>
      refine nodup_cons.mpr ⟨fun hmem ↦ hfresh ?_, ih⟩
      rw [(hprep.row hserials).1]
      exact (Tracks.reached hserials hreached).row_of_issued _ (issued_of_mem_issuedSerials hmem)

/-- Revocation is final: from then on the certificate is neither revoked again nor renewed. -/
theorem revocation_final (hserials : library.ReadsSerials sm2 sm3 signer) {state : ServiceState}
    (hreached : Reached sm2 sm3 library signer log state) (hrev : RevokedOk log serialNumber)
    (reason : ℤ) (now : Instant)
    (request : RenewCertificateRequest) :
    Fails ((CaCall.revoke serialNumber reason now).answer sm2 sm3 library signer state).1 ∧
    ∀ certificate,
      ((CaCall.renew context { request with serialNumber }).answer sm2 sm3 library signer state).1 ≠
        .ok (.certificate certificate) := by
  have hinactive (row : Certificate) (hrow : row ∈ state.table.rows)
    (hserial : row.serialNumber = serialNumber) :
      row.status ≠ .active := ((Tracks.reached hserials hreached).revoked_iff row hrow).mpr
      (hserial ▸ hrev)
  constructor
  · have hnone : ¬ ∃ row ∈ state.table.rows, row.serialNumber = serialNumber ∧
      row.status = .active :=
      fun ⟨row, hrow, hserial, hactive⟩ ↦ hinactive row hrow hserial hactive
    simp only [CaCall.answer, CaCall.task, revokeCertificate, ask_bind, alone, ServiceState.perform,
      CertificateTable.revokeCertificate, if_neg hnone]
    exact fails_error _
  · intro certificate
    simp only [CaCall.answer, CaCall.task, renewCertificate]
    cases context.rateLimit with
    | error status => simp [alone]
    | ok _ =>
      simp only [check_ok_bind, ask_bind, alone, ServiceState.perform]
      cases hget : state.table.getCertificate serialNumber with
      | none => simp [renewExisting, Task.check, alone]
      | some row =>
        have hrow := mem_of_find?_eq_some hget
        have hserial : row.serialNumber = serialNumber := by simpa using find?_some hget
        simp [renewExisting, hinactive row hrow hserial, Task.check, alone]

end Service

def readSerial (der : Bytes) : Bytes := (skipHeader ((skipHeader (skipHeader der)).drop 5)).take 20

lemma readSerial_der (library : CaLibrary) (certificate : SignedCertificate) :
    readSerial (certificate.der library) = certificate.tbs.serial.octets := by
  have hvers : derExplicitContext 0 (derIntegerPositive [0x02]) =
    [0xA0, 0x03, 0x02, 0x01, 0x02] := by decide
  have houter := skipHeader_tlv 0x30 (certificate.tbs.toDer library ++ sm2SigAlgId ++
    derBitString certificate.signature) []
  rw [append_nil, append_nil] at houter
  rw [readSerial, SignedCertificate.der, derSequence, houter, TbsCertificate.toDer, derSequenceV,
    append_assoc, skipHeader_tlv, hvers]
  simp only [cons_append, flatten_cons, nil_append, drop_succ_cons, drop_zero,
    derIntegerPositive, SerialNumber.positiveContent_octets, append_assoc]
  rw [skipHeader_tlv, take_left' certificate.tbs.serial.length_octets]

def serialLibrary (certificate : SignedCertificate) : CaLibrary :=
  { sampleLibrary certificate with
    pemEncode := fun _ contents ↦ hexEncode contents
    parseX509Pem := hexDecode
    certificateFromDer := fun der ↦ .ok
      { subjectRaw := certificate.tbs.subjectDer
        subjectPublicKey := certificate.tbs.publicKey
        notAfter := secondsLong (wholeSeconds certificate.tbs.notAfter)
        rawSerial := readSerial der
        extensions := certificate.tbs.extensionList.map fun extension ↦
          (extension.oid, extension.value) } }

lemma serialLibrary_readsSerials (existing : SignedCertificate) :
    (serialLibrary existing).ReadsSerials sampleCurve tinySm3 sampleSigner := by
  rintro - - - - - certificate -
  have hpem : (serialLibrary existing).parseX509Pem (certificate.pem (serialLibrary existing)) =
      .ok (certificate.der (serialLibrary existing)) := hexDecode_hexEncode _
  have hread := readSerial_der (serialLibrary existing) certificate
  -- the encoding itself plays no part from here on
  generalize certificate.der (serialLibrary existing) = der at hpem hread
  rw [← hread]
  exact ⟨_, by rw [parseCertPem, hpem]; rfl, rfl⟩

def caLibrary : CaLibrary := serialLibrary (sampleCertificate [])

def sampleContext : CallContext where
  rateLimit := .ok ()
  issuedAt := 0
  storedAt := 0
  ordered := le_refl 0
  random := .fill 20 7

def sampleSign : CaCall := .sign sampleContext ⟨"", 0, 1000, ""⟩

def sampleSerial : Bytes := List.replicate 20 7

def sampleRevoke : CaCall := .revoke (hexEncode sampleSerial) 1 0

def sampleLog : CallLog :=
  [(sampleSign, (sampleSign.answer sampleCurve tinySm3 caLibrary sampleSigner (.start .empty)).1),
    (sampleRevoke, (sampleRevoke.answer sampleCurve tinySm3 caLibrary sampleSigner
      (sampleSign.answer sampleCurve tinySm3 caLibrary sampleSigner (.start .empty)).2).1)]

def sampleState : ServiceState :=
  (sampleRevoke.answer sampleCurve tinySm3 caLibrary sampleSigner
    (sampleSign.answer sampleCurve tinySm3 caLibrary sampleSigner (.start .empty)).2).2

lemma sample_reached : Reached sampleCurve tinySm3 caLibrary sampleSigner sampleLog sampleState :=
  .call (.call .start sampleSign) sampleRevoke

lemma sample_issued : Issued sampleLog sampleSerial := by
  refine ⟨sampleSign, _, mem_cons_self, ?_⟩
  rfl

lemma sample_revoked : RevokedOk sampleLog (hexEncode sampleSerial) := by
  refine ⟨1, 0, mem_cons_of_mem _ (mem_singleton.mpr (Prod.ext rfl ?_))⟩
  rfl

/-- A request under the name of the CA gets the complete list. -/
theorem own_name_gets_complete_list :
    Reached sampleCurve tinySm3 caLibrary sampleSigner sampleLog sampleState ∧
      CrlAnswered sampleCurve caLibrary sampleSigner sampleLog
        ((CaCall.getCrl "GM CA" 0).answer sampleCurve tinySm3 caLibrary sampleSigner
        sampleState).1 :=
  ⟨sample_reached, (getCrl_complete_iff (serialLibrary_readsSerials _) sample_reached "GM CA" 0).mpr
    (.inr (.inl rfl))⟩

/-- A request under another name gets a list of the CA from which the revoked certificate is
missing. -/
theorem other_name_gets_empty_list :
    Reached sampleCurve tinySm3 caLibrary sampleSigner sampleLog sampleState ∧
      Issued sampleLog sampleSerial ∧ RevokedOk sampleLog (hexEncode sampleSerial) ∧
        ∃ crl, ((CaCall.getCrl "other" 0).answer sampleCurve tinySm3 caLibrary sampleSigner
            sampleState).1 = .ok (.crl crl) ∧
          crl.tbs.issuerCn = sampleSigner.caSubjectCn ∧ crl.serials = [] := by
  exact ⟨sample_reached, sample_issued, sample_revoked, _, rfl, rfl, rfl⟩

theorem sample_serials_distinct : (issuedSerials sampleLog).Nodup :=
  issuedSerials_nodup (serialLibrary_readsSerials _) sample_reached

theorem sample_revocation_final :
    Fails ((CaCall.revoke (hexEncode sampleSerial) 1 0).answer sampleCurve tinySm3 caLibrary
    sampleSigner sampleState).1 :=
  (revocation_final sampleContext (serialLibrary_readsSerials _) sample_reached sample_revoked 1 0
    ⟨"", 0, 0, ""⟩).1

end GmStack.Ca
