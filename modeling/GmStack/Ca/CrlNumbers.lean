import GmStack.Ca.Service

/-! Calls interleave at their awaits and the service is restarted. The invariant is that a call
about to draw holds the rows of the table as it is (`Phase.numbered`). -/

namespace GmStack.Ca

open Foundation Crypto List

/-- A step of the service state, as a relation. -/
def ServiceState.Performs (state : ServiceState) (op : StoreOp) (answer : StoreAnswer op)
    (after : ServiceState) : Prop :=
  state.perform op = (answer, after)

namespace CertificateTable

/-- A list made of the rows of the table would have this serial number. -/
def Lists (table : CertificateTable) (issuerCn : String) (serial : Bytes) : Prop :=
  ∃ entry ∈ table.getRevokedCertificates issuerCn, hexDecode entry.serialNumber = .ok serial

variable {table : CertificateTable} {serial : Bytes}

lemma lists_iff {issuerCn : String} : table.Lists issuerCn serial ↔
      ∃ row ∈ table.rows, row.status ≠ .active ∧ row.issuerCn = issuerCn ∧
      hexDecode row.serialNumber = .ok serial := by
  constructor
  · rintro ⟨entry, hentry, hdec⟩
    obtain ⟨row, hrow, hstatus, hissuer, hser⟩ := mem_getRevokedCertificates.mp ⟨entry, hentry, rfl⟩
    exact ⟨row, hrow, hstatus, hissuer, by rw [hser, hdec]⟩
  rintro ⟨row, hrow, hstatus, hissuer, hdec⟩
  obtain ⟨entry, hentry, hser⟩ :=
    mem_getRevokedCertificates.mpr ⟨row, hrow, hstatus, hissuer, rfl⟩
  exact ⟨entry, hentry, by rw [hser, hdec]⟩

lemma getRevokedCertificates_insert (table : CertificateTable) (new : NewCertificate)
    (issuerCn : String) :
    (table.insertCertificate new).2.getRevokedCertificates issuerCn =
    table.getRevokedCertificates issuerCn := by
  unfold insertCertificate
  split_ifs with hhas
  · rfl
  unfold getRevokedCertificates add
  rw [filterMap_append]
  exact append_nil _

lemma Lists.revoke {issuerCn serialNumber : String} {reason : ℤ}
    {revokedAt : Instant} (hlists : table.Lists issuerCn serial) :
    (table.revokeCertificate serialNumber reason revokedAt).2.Lists issuerCn serial := by
  unfold revokeCertificate
  split_ifs with hactive
  · obtain ⟨row, hrow, hstatus, hissuer, hdec⟩ := lists_iff.mp hlists
    refine lists_iff.mpr ⟨revokedRow serialNumber reason revokedAt row, mem_map_of_mem hrow,
      ?_, ?_, ?_⟩
    · exact revokedRow_status.mpr (.inl hstatus)
    · rw [issuerCn_revokedRow, hissuer]
    · rw [serialNumber_revokedRow, hdec]
  · exact hlists

lemma revokeCertificate_refused {serialNumber : String} {reason : ℤ} {revokedAt : Instant}
    (hrefused : (table.revokeCertificate serialNumber reason revokedAt).1 ≠ .ok ()) :
    (table.revokeCertificate serialNumber reason revokedAt).2 = table := by
  unfold revokeCertificate at hrefused ⊢
  split_ifs at hrefused ⊢ with hactive
  · exact absurd rfl hrefused
  · rfl

end CertificateTable

/-- A call that draws no number and returns no list. -/
def NoCrl : CaTask CaResponse → Prop
  | .done result => ∀ crl, result ≠ .ok (.crl crl)
  | .await op next => op ≠ .fetchAddCrlNumber ∧ ∀ answer, NoCrl (next answer)

lemma noCrl_storeIssued (failure : String) (prepared : SignedCertificate × NewCertificate) :
    NoCrl (storeIssued failure prepared) := by
  refine ⟨(fun h ↦ by cases h), fun answer ↦ ?_⟩
  cases answer with
  | error e =>
    intro crl h
    cases h
  | ok _ =>
    intro crl h
    cases h

/-- The call awaits its number. -/
def AwaitsNumber : CaTask CaResponse → Prop
  | .await .fetchAddCrlNumber _ => True
  | _ => False

def returnedCrl : CaTask CaResponse → List SignedCrl
  | .done (.ok (.crl crl)) => [crl]
  | _ => []

lemma returnedCrl_of_noCrl {task : CaTask CaResponse} (htask : NoCrl task) :
    returnedCrl task = [] := by
  cases task with
  | await op next => rfl
  | done result =>
    cases result with
    | error e => rfl
    | ok response =>
      cases response with
      | crl crl => exact absurd rfl (htask crl)
      | _ => rfl

variable {ι : Type} [DecidableEq ι]

/-- The service with its calls, and the lists that were issued. -/
structure CaSystem (ι : Type) where
  pool : Pool ι StoreOp StoreAnswer Status CaResponse ServiceState
  issued : List SignedCrl

/-- What happens in a step. -/
inductive CaEvent (ι : Type)
  | performed (event : Performed ι StoreOp StoreAnswer)
  | restarted

section Runs

variable {F P : Type} [CommRing F] [AddCommGroup P] [Module F P]
  (sm2 : Sm2Curve F P) (sm3 : Sm3Library) (library : CaLibrary) (signer : CaSigner F)

/-- A request for a list names the CA. -/
def OwnName : CaCall → Prop
  | .getCrl issuerCn _ => issuerCn = signer.caSubjectCn
  | _ => True

def CaSystem.started (calls : ι → CaCall) (table : CertificateTable) (issued : List SignedCrl) :
    CaSystem ι where
  pool := ⟨fun call ↦ (calls call).task sm2 sm3 library signer, .start table⟩
  issued := issued

/-- One operation of one call, or a restart. -/
inductive CaStep : CaSystem ι → CaEvent ι → CaSystem ι → Prop
  | perform {system : CaSystem ι} {event : Performed ι StoreOp StoreAnswer}
      {after : Pool ι StoreOp StoreAnswer Status CaResponse ServiceState}
      (hstep : Pool.Step ServiceState.Performs system.pool event after) :
      CaStep system (.performed event)
        ⟨after, system.issued ++ returnedCrl (after.calls event.call)⟩
  | restart {system : CaSystem ι} (calls : ι → CaCall)
    (hown : ∀ call, OwnName signer (calls call)) :
      CaStep system .restarted
      (.started sm2 sm3 library signer calls system.pool.state.table system.issued)

/-- Steps that meet a condition, in the order in which they are taken. -/
inductive CaRun (condition : CaSystem ι → CaEvent ι → Prop) : CaSystem ι → CaSystem ι → Prop
  | nil (system : CaSystem ι) : CaRun condition system system
  | cons {system middle final : CaSystem ι} {event : CaEvent ι}
      (hstep : CaStep sm2 sm3 library signer system event middle)
        (hcondition : condition system event)
      (hrun : CaRun condition middle final) : CaRun condition system final

/-- Numbers are unique, and order the lists by content. -/
structure OrderedByNumber (issued : List SignedCrl) : Prop where
  unique : issued.Pairwise fun first second ↦ first.tbs.crlNumber ≠ second.tbs.crlNumber
  ordered : ∀ first ∈ issued, ∀ second ∈ issued, first.tbs.crlNumber < second.tbs.crlNumber →
    ∀ serial ∈ first.serials, serial ∈ second.serials

/-- No restart once a list is issued, no revocation done while a call awaits its number, no draw at
the end of `u64`. -/
def Calm (system : CaSystem ι) : CaEvent ι → Prop
  | .performed ⟨_, .revokeCertificate .., answer⟩ =>
    answer = Except.ok () → ∀ call, ¬ AwaitsNumber (system.pool.calls call)
  | .performed ⟨_, .fetchAddCrlNumber, _⟩ => system.pool.state.crlNumber + 1 < 2 ^ 64
  | .performed _ => True
  | .restarted => system.issued = []

variable {sm2 sm3 library signer}

lemma noCrl_or_getCrl {call : CaCall} (hown : OwnName signer call) :
    NoCrl (call.task sm2 sm3 library signer) ∨
      ∃ now, call.task sm2 sm3 library signer =
      getCrl sm2 library signer signer.caSubjectCn now := by
  cases call with
  | getCrl issuerCn now =>
    exact .inr ⟨now, by rw [← show issuerCn = signer.caSubjectCn from hown]; rfl⟩
  | sign context request =>
    refine .inl ?_
    show NoCrl (signCertificate sm2 sm3 library signer context request)
    unfold signCertificate
    cases prepareSign sm2 sm3 library signer context request with
    | error status =>
      intro crl h
      cases h
    | ok prepared => exact noCrl_storeIssued _ prepared
  | renew context request =>
    refine .inl ?_
    show NoCrl (renewCertificate sm2 sm3 library signer context request)
    unfold renewCertificate
    cases context.rateLimit with
    | error status =>
      intro crl h
      cases h
    | ok _ =>
      refine ⟨(fun h ↦ by cases h), fun answer ↦ ?_⟩
      show NoCrl (renewExisting sm2 sm3 library signer context request answer)
      cases answer with
      | none =>
        intro crl h
        cases h
      | some existing =>
        unfold renewExisting
        dsimp only
        split_ifs with hrev
        · intro crl h
          cases h
        cases prepareRenew sm2 sm3 library signer context request existing with
        | error status =>
          intro crl h
          cases h
        | ok prepared => exact noCrl_storeIssued _ prepared
  | revoke serialNumber reason now =>
    refine .inl ⟨(fun h ↦ by cases h), fun answer ↦ ?_⟩
    cases answer with
    | error e =>
      intro crl h
      cases h
    | ok _ =>
      intro crl h
      cases h

/-! ### The invariant -/

variable (sm2 library signer) in
/-- Where a call stands. A call about to draw holds the rows of the table as it is. -/
inductive Phase (table : CertificateTable) : CaTask CaResponse → Prop
  | other {task : CaTask CaResponse} (htask : NoCrl task) : Phase table task
  | start (now : Instant) : Phase table (getCrl sm2 library signer signer.caSubjectCn now)
  | numbered (now : Instant) :
      Phase table
        (numberedCrl sm2 library signer now (table.getRevokedCertificates signer.caSubjectCn))
  | done (result : Except Status CaResponse) : Phase table (.done result)

variable (sm2 library signer) in
/-- The lists so far are ordered, their numbers have been drawn, and what they list the table still
has. -/
structure InOrder (system : CaSystem ι) : Prop where
  phase : ∀ call, Phase sm2 library signer system.pool.state.table (system.pool.calls call)
  drawn : ∀ crl ∈ system.issued, crl.tbs.crlNumber < system.pool.state.crlNumber
  listed : ∀ crl ∈ system.issued, ∀ serial ∈ crl.serials,
    system.pool.state.table.Lists signer.caSubjectCn serial
  sorted : system.issued.Pairwise fun first second ↦
    first.tbs.crlNumber < second.tbs.crlNumber ∧ ∀ serial ∈ first.serials, serial ∈ second.serials

variable {table : CertificateTable}

section

variable {task : CaTask CaResponse} (hphase : Phase sm2 library signer table task)

include hphase

variable {after : CertificateTable}

lemma Phase.of_table (hsame : after.getRevokedCertificates signer.caSubjectCn =
      table.getRevokedCertificates signer.caSubjectCn) : Phase sm2 library signer after task := by
  cases hphase with
  | other htask => exact .other htask
  | start now => exact .start now
  | numbered now =>
    rw [← hsame]
    exact .numbered now
  | done result => exact .done result

lemma Phase.of_not_awaits (hcalm : ¬ AwaitsNumber task) : Phase sm2 library signer after task := by
  cases hphase with
  | other htask => exact .other htask
  | start now => exact .start now
  | numbered now => exact absurd trivial hcalm
  | done result => exact .done result

end

omit [DecidableEq ι] in
lemma inOrder_started {calls : ι → CaCall} (hown : ∀ call, OwnName signer (calls call))
    (table : CertificateTable) :
    InOrder sm2 library signer (CaSystem.started sm2 sm3 library signer calls table []) := by
  refine ⟨fun call ↦ ?_, ?_, ?_, List.Pairwise.nil⟩
  · show Phase sm2 library signer table ((calls call).task sm2 sm3 library signer)
    have hcall : NoCrl ((calls call).task sm2 sm3 library signer) ∨ ∃ now,
      (calls call).task sm2 sm3 library
        signer = getCrl sm2 library signer signer.caSubjectCn now := noCrl_or_getCrl (hown call)
    rcases hcall with hother | ⟨now, hget⟩
    · exact .other hother
    · rw [hget]
      exact .start now
  · intro crl hcrl
    cases hcrl
  · intro crl hcrl
    cases hcrl

lemma numberedCrl_eq (now : Instant) (revoked : List CrlEntry) :
    numberedCrl sm2 library signer now revoked = .await .fetchAddCrlNumber fun crlNumber ↦
      .done (((signer.generateCrl sm2 library now revoked crlNumber).mapError
        fun e ↦ ⟨.internal, e.display⟩).map .crl) := by
  refine congrArg (Task.await StoreOp.fetchAddCrlNumber) (funext fun crlNumber ↦ ?_)
  show (Task.check ((signer.generateCrl sm2 library now revoked crlNumber).mapError _) >>= _) = _
  cases signer.generateCrl sm2 library now revoked crlNumber with
  | error e => rfl
  | ok crl => rfl

variable {now : Instant}

lemma serials_of_numbered {crlNumber : ℕ} {crl : SignedCrl}
    (hcrl : signer.generateCrl sm2 library now (table.getRevokedCertificates signer.caSubjectCn)
    crlNumber =
      .ok crl) (serial : Bytes) : serial ∈ crl.serials ↔ table.Lists signer.caSubjectCn serial :=
  (CaSigner.generateCrl_eq_ok hcrl).2.2.2 serial

variable {after : Pool ι StoreOp StoreAnswer Status CaResponse ServiceState} {system : CaSystem ι}

omit [DecidableEq ι] in
lemma InOrder.of_keeps (hord : InOrder sm2 library signer system)
    (hphase : ∀ call, Phase sm2 library signer after.state.table (after.calls call))
    (hnumber : after.state.crlNumber = system.pool.state.crlNumber)
    (hkeeps : ∀ serial, system.pool.state.table.Lists signer.caSubjectCn serial →
      after.state.table.Lists signer.caSubjectCn serial) :
    InOrder sm2 library signer ⟨after, system.issued⟩ := by
  refine ⟨hphase, ?_, ?_, hord.sorted⟩
  · intro crl hcrl
    show crl.tbs.crlNumber < after.state.crlNumber
    rw [hnumber]
    exact hord.drawn crl hcrl
  · intro crl hcrl serial hser
    exact hkeeps serial (hord.listed crl hcrl serial hser)

variable {event : Performed ι StoreOp StoreAnswer}

lemma phases_of_step {pool : Pool ι StoreOp StoreAnswer Status CaResponse ServiceState}
    (hstep : Pool.Step ServiceState.Performs pool event after)
    (hmoved : Phase sm2 library signer after.state.table (after.calls event.call))
    (hothers : ∀ call, call ≠ event.call → Phase sm2 library signer after.state.table
    (pool.calls call))
    (call : ι) : Phase sm2 library signer after.state.table (after.calls call) := by
  by_cases hcall : call = event.call
  · rw [hcall]
    exact hmoved
  · rw [hstep.calls_of_ne hcall]
    exact hothers call hcall

lemma Phase.await {op : StoreOp} {next : StoreAnswer op → CaTask CaResponse}
    (hphase : Phase sm2 library signer table (.await op next)) : NoCrl (.await op next) ∨
      (∃ now, Task.await op next = getCrl sm2 library signer signer.caSubjectCn now) ∨ ∃ now,
      Task.await op next =
        numberedCrl sm2 library signer now (table.getRevokedCertificates signer.caSubjectCn) := by
  generalize htask : Task.await op next = task at hphase
  cases hphase with
  | other hother => exact .inl hother
  | start now => exact .inr (.inl ⟨now, rfl⟩)
  | numbered now => exact .inr (.inr ⟨now, rfl⟩)
  | done result => cases htask

omit [DecidableEq ι] in
lemma InOrder.draw (hord : InOrder sm2 library signer system) {new : List SignedCrl}
    (hphase : ∀ call, Phase sm2 library signer after.state.table (after.calls call))
    (htable : after.state.table = system.pool.state.table)
    (hnumber : after.state.crlNumber = system.pool.state.crlNumber + 1)
    (hnew : new = [] ∨ ∃ crl, new = [crl] ∧ crl.tbs.crlNumber = system.pool.state.crlNumber ∧
      ∀ serial, serial ∈ crl.serials ↔ system.pool.state.table.Lists signer.caSubjectCn serial) :
    InOrder sm2 library signer ⟨after, system.issued ++ new⟩ := by
  rcases hnew with rfl | ⟨crl, rfl, hdrawn, hserials⟩
  · rw [append_nil]
    refine ⟨hphase, ?_, ?_, hord.sorted⟩
    · intro crl hcrl
      have hbelow := hord.drawn crl hcrl
      show crl.tbs.crlNumber < after.state.crlNumber
      omega
    intro crl hcrl serial hser
    show after.state.table.Lists _ serial
    rw [htable]
    exact hord.listed crl hcrl serial hser
  refine ⟨hphase, ?_, ?_, ?_⟩
  · intro other hother
    show other.tbs.crlNumber < after.state.crlNumber
    rcases mem_append.mp hother with hold | hlast
    · have hbelow := hord.drawn other hold
      omega
    · rw [mem_singleton.mp hlast]
      omega
  · intro other hother serial hser
    show after.state.table.Lists _ serial
    rw [htable]
    rcases mem_append.mp hother with hold | hlast
    · exact hord.listed other hold serial hser
    · rw [mem_singleton.mp hlast] at hser
      exact (hserials serial).mp hser
  refine pairwise_append.mpr ⟨hord.sorted, pairwise_singleton _ _, ?_⟩
  intro other hother last hlast
  rw [mem_singleton.mp hlast]
  refine ⟨?_, fun serial hser ↦ ?_⟩
  · rw [hdrawn]
    exact hord.drawn other hother
  · exact (hserials serial).mpr (hord.listed other hother serial hser)

lemma InOrder.other (hord : InOrder sm2 library signer system)
    (hstep : Pool.Step ServiceState.Performs system.pool event after)
    (hcalm : Calm system (.performed event)) (hop : event.op ≠ .fetchAddCrlNumber)
    (hmoved : NoCrl (after.calls event.call)) :
    InOrder sm2 library signer ⟨after, system.issued⟩ := by
  obtain ⟨call, op, answer⟩ := event
  obtain ⟨next, _, hperf, _⟩ := hstep.performed
  have hphase : ∀ call, Phase sm2 library signer system.pool.state.table (system.pool.calls call) :=
    hord.phase
  cases op with
  | fetchAddCrlNumber => exact absurd rfl hop
  | getCertificate serialNumber =>
    have hstate : after.state = system.pool.state := (Prod.mk.inj hperf).2.symm
    refine hord.of_keeps (phases_of_step hstep (.other hmoved) fun other _ ↦ ?_) ?_ ?_
    · exact (hphase other).of_table (by rw [hstate])
    · rw [hstate]
    · rw [hstate]
      exact fun _ hlists ↦ hlists
  | getRevokedCertificates issuerCn =>
    have hstate : after.state = system.pool.state := (Prod.mk.inj hperf).2.symm
    refine hord.of_keeps (phases_of_step hstep (.other hmoved) fun other _ ↦ ?_) ?_ ?_
    · exact (hphase other).of_table (by rw [hstate])
    · rw [hstate]
    · rw [hstate]
      exact fun _ hlists ↦ hlists
  | insertCertificate new =>
    have hstate := (Prod.mk.inj hperf).2
    have hrows : after.state.table.getRevokedCertificates signer.caSubjectCn =
        system.pool.state.table.getRevokedCertificates signer.caSubjectCn := by
      rw [← hstate]
      exact CertificateTable.getRevokedCertificates_insert _ _ _
    refine hord.of_keeps (phases_of_step hstep (.other hmoved) fun other _ ↦ ?_) ?_ ?_
    · exact (hphase other).of_table hrows
    · rw [← hstate]
    intro serial hlists
    unfold CertificateTable.Lists
    rw [hrows]
    exact hlists
  | revokeCertificate serialNumber reason revokedAt =>
    have hstate := (Prod.mk.inj hperf).2
    refine hord.of_keeps (phases_of_step hstep (.other hmoved) fun other _ ↦ ?_) ?_ ?_
    · by_cases htakes : answer = Except.ok ()
      · exact (hphase other).of_not_awaits (hcalm htakes other)
      · have hkept := CertificateTable.revokeCertificate_refused fun hok ↦
          htakes ((Prod.mk.inj hperf).1.symm.trans hok)
        exact (hphase other).of_table (by rw [← hstate, hkept])
    · rw [← hstate]
    intro serial hlists
    rw [← hstate]
    exact hlists.revoke

variable {final : CaSystem ι}

lemma InOrder.step {event : CaEvent ι} (hord : InOrder sm2 library signer system)
    (hstep : CaStep sm2 sm3 library signer system event final) (hcalm : Calm system event) :
    InOrder sm2 library signer final := by
  cases hstep with
  | restart calls hown =>
    rw [show system.issued = [] from hcalm]
    exact inOrder_started hown _
  | @perform event after hstep =>
    obtain ⟨next, hcall, hperf, hmoved⟩ := hstep.performed
    have hphase := hord.phase event.call
    rw [hcall] at hphase
    rcases hphase.await with hother | ⟨now, hget⟩ | ⟨now, hnum⟩
    · have hnoCrl : NoCrl (after.calls event.call) := by
        rw [hmoved]
        exact hother.2 event.answer
      rw [returnedCrl_of_noCrl hnoCrl, append_nil]
      exact hord.other hstep hcalm hother.1 hnoCrl
    · -- the rows are read
      obtain ⟨call, op, answer⟩ := event
      cases show Task.await op next = .await (.getRevokedCertificates signer.caSubjectCn)
        (fun revoked ↦ numberedCrl sm2 library signer now revoked) from hget
      obtain ⟨rfl, hstate⟩ := Prod.mk.inj hperf
      rw [hmoved]
      refine (show InOrder sm2 library signer ⟨after, system.issued ++ []⟩ from ?_)
      rw [append_nil]
      have hnow : after.state = system.pool.state := hstate.symm
      refine hord.of_keeps (phases_of_step hstep ?_ fun other _ ↦ ?_) ?_ ?_
      · rw [hmoved, hnow]
        exact .numbered now
      · rw [hnow]
        exact hord.phase other
      · rw [hnow]
      · rw [hnow]
        exact fun _ hlists ↦ hlists
    -- the number is drawn and the list made
    obtain ⟨call, op, answer⟩ := event
    rw [numberedCrl_eq] at hnum
    cases hnum
    obtain ⟨rfl, hstate⟩ := Prod.mk.inj hperf
    have htable : after.state.table = system.pool.state.table := by rw [← hstate]
    have hnumber : after.state.crlNumber = system.pool.state.crlNumber + 1 := by
      rw [← hstate]
      exact Nat.mod_eq_of_lt hcalm
    refine hord.draw (phases_of_step hstep ?_ fun other _ ↦ ?_) htable hnumber ?_
    · rw [hmoved]
      exact .done _
    · rw [htable]
      exact hord.phase other
    rw [hmoved]
    dsimp only
    cases hcrl : signer.generateCrl sm2 library now
        (system.pool.state.table.getRevokedCertificates signer.caSubjectCn)
        system.pool.state.crlNumber with
    | error e => exact .inl rfl
    | ok crl =>
      exact .inr ⟨crl, rfl, (CaSigner.generateCrl_eq_ok hcrl).2.1, serials_of_numbered hcrl⟩

lemma InOrder.run (hord : InOrder sm2 library signer system)
    (hrun : CaRun sm2 sm3 library signer Calm system final) : InOrder sm2 library signer final := by
  induction hrun with
  | nil => exact hord
  | cons hstep hcalm _ ih => exact ih (hord.step hstep hcalm)

omit [DecidableEq ι] in
lemma InOrder.orderedByNumber (hord : InOrder sm2 library signer system) :
    OrderedByNumber system.issued := by
  refine ⟨hord.sorted.imp fun hpair ↦ Nat.ne_of_lt hpair.1, ?_⟩
  intro first hfirst second hsnd hless
  obtain ⟨i, hi, rfl⟩ := getElem_of_mem hfirst
  obtain ⟨j, hj, rfl⟩ := getElem_of_mem hsnd
  have hsorted := pairwise_iff_getElem.mp hord.sorted
  rcases Nat.lt_trichotomy i j with hij | rfl | hji
  · exact (hsorted i j hi hj hij).2
  · exact absurd hless (Nat.lt_irrefl _)
  · exact absurd (hsorted j i hj hi hji).1 (Nat.lt_asymm hless)

/-- Over a run of calm steps the numbers of the issued lists are different, and order the lists by
content. -/
theorem crl_numbers_order {calls : ι → CaCall} (hown : ∀ call, OwnName signer (calls call))
    {table : CertificateTable} {final : CaSystem ι}
    (hrun : CaRun sm2 sm3 library signer Calm (.started sm2 sm3 library signer calls table [])
    final) :
    OrderedByNumber final.issued :=
  ((inOrder_started hown table).run hrun).orderedByNumber

def CaSystem.advance (system : CaSystem ι) (call : ι) : CaSystem ι :=
  match system.pool.calls call with
  | .done _ => system
  | .await op next =>
    let (answer, after) := system.pool.state.perform op
    ⟨⟨Function.update system.pool.calls call (next answer), after⟩, system.issued ++
      returnedCrl (next answer)⟩

lemma CaStep.advance {call : ι} {op : StoreOp} {next : StoreAnswer op → CaTask CaResponse}
    (hcall : system.pool.calls call = .await op next) :
    CaStep sm2 sm3 library signer system (.performed ⟨call, op, (system.pool.state.perform op).1⟩)
      (system.advance call) := by
  have hstep : CaStep sm2 sm3 library signer system _
      ⟨_, system.issued ++ returnedCrl (Function.update system.pool.calls call _ call)⟩ :=
    .perform (.perform hcall rfl)
  rw [Function.update_self] at hstep
  rw [CaSystem.advance, hcall]
  exact hstep

lemma CaRun.advance (calls : List ι)
    (hrun : CaRun sm2 sm3 library signer (fun _ _ ↦ True)
    (calls.foldl CaSystem.advance system) final) :
    CaRun sm2 sm3 library signer (fun _ _ ↦ True) system final := by
  induction calls generalizing system with
  | nil => exact hrun
  | cons call calls ih =>
    cases hcall : system.pool.calls call with
    | await op next => exact .cons (.advance hcall) trivial (ih hrun)
    | done result =>
      have hsame : system.advance call = system := by rw [CaSystem.advance, hcall]
      rw [foldl_cons, hsame] at hrun
      exact ih hrun

end Runs

def oneRequest (issued : List SignedCrl) : CaSystem Unit :=
  .started sampleCurve tinySm3 caLibrary sampleSigner (fun _ ↦ .getCrl "GM CA" 0) .empty issued

/-- Two requests and a revocation. -/
inductive SampleCall
  | early
  | late
  | revocation
  deriving DecidableEq

def sampleCalls : SampleCall → CaCall
  | .revocation => .revoke (hexEncode sampleSerial) 1 0
  | _ => .getCrl "GM CA" 0

def oneCertificate : CertificateTable :=
  CertificateTable.empty.add ⟨hexEncode sampleSerial, "", "GM CA", "a.test", 0, 0⟩ fun ⟨_,
    hrow, _⟩ ↦ by cases hrow

def sampleStart : CaSystem SampleCall :=
  .started sampleCurve tinySm3 caLibrary sampleSigner sampleCalls oneCertificate []

theorem revocation_between_ordered :
    ∃ final, CaRun sampleCurve tinySm3 caLibrary sampleSigner Calm sampleStart final ∧
      final.issued.map (·.serials) = [[], [sampleSerial]] ∧ OrderedByNumber final.issued := by
  have hrun : CaRun sampleCurve tinySm3 caLibrary sampleSigner Calm sampleStart
      (((((sampleStart.advance .early).advance .early).advance .revocation).advance .late).advance
      .late) := by
    refine .cons (.advance rfl) ?_ (.cons (.advance rfl) ?_ (.cons (.advance rfl) ?_
      (.cons (.advance rfl) ?_ (.cons (.advance rfl) ?_ (.nil _)))))
    · trivial
    · show 1 + 1 < 2 ^ 64
      decide
    · intro _ call
      cases call <;> exact id
    · trivial
    · show 2 + 1 < 2 ^ 64
      decide
  have hown : ∀ call, OwnName sampleSigner (sampleCalls call) := by
    intro call
    cases call <;> trivial
  exact ⟨_, hrun, by decide, crl_numbers_order hown hrun⟩

/-- A restart repeats a number; and a call that has read before a revocation issues, under a larger
number, the list without the revoked certificate. -/
theorem crl_numbers_disorder :
    (∃ final, CaRun sampleCurve tinySm3 caLibrary sampleSigner (fun _ _ ↦ True)
    (oneRequest []) final ∧
      ¬ OrderedByNumber final.issued) ∧
    ∃ final, CaRun sampleCurve tinySm3 caLibrary sampleSigner (fun _ _ ↦ True)
        (.started sampleCurve tinySm3 caLibrary sampleSigner sampleCalls oneCertificate []) final ∧
      ¬ OrderedByNumber final.issued := by
  constructor
  · refine ⟨_, CaRun.advance [(), ()]
      (.cons (.restart (fun _ ↦ .getCrl "GM CA" 0) fun _ ↦ rfl) trivial
      (CaRun.advance [(), ()] (.nil _))), fun hordered ↦ ?_⟩
    exact absurd hordered.unique (by decide)
  -- the call `early` reads, the certificate is revoked, the call `late` reads and draws, then
  -- `early`
  refine ⟨_, CaRun.advance [.early, .revocation, .late, .late, .early] (.nil _), fun hordered ↦ ?_⟩
  exact absurd hordered.ordered (by decide)

end GmStack.Ca
