import GmStack.Foundation.Bytes
import GmStack.Foundation.Result

/-! `Proc` is the tree of the interactions of a program with a peer it does not trust. -/

namespace GmStack.Foundation

open List

/-- A process with notes `κ`, errors `ε` and results `α`. A failed read or write carries the text of
the failure. -/
inductive Proc (κ ε α : Type) : Type
  | done (result : Except ε α)
  | read (count : ℕ) (next : Except String Bytes → Proc κ ε α)
  | write (bytes : Bytes) (next : Except String Unit → Proc κ ε α)
  | note (event : κ) (next : Proc κ ε α)

variable {κ ε ε' α β γ : Type}

namespace Proc

def bind : Proc κ ε α → (α → Proc κ ε β) → Proc κ ε β
  | .done (.ok value), next => next value
  | .done (.error error), _ => .done (.error error)
  | .read count cont, next => .read count fun answer ↦ (cont answer).bind next
  | .write bytes cont, next => .write bytes fun answer ↦ (cont answer).bind next
  | .note event cont, next => .note event (cont.bind next)

instance : Monad (Proc κ ε) where
  pure value := .done (.ok value)
  bind := Proc.bind

@[simp] lemma pure_bind (value : α) (next : α → Proc κ ε β) : ((pure value : Proc κ ε α) >>= next) =
    next value := rfl

def check (result : Except ε α) : Proc κ ε α := .done result

lemma check_ok_bind (value : α) (next : α → Proc κ ε β) : (check (.ok value) : Proc κ ε α) >>=
    next = next value := rfl

lemma check_error_bind (error : ε) (next : α → Proc κ ε β) :
    (check (.error error) : Proc κ ε α) >>= next = .done (.error error) := rfl

def readExact (wrap : String → ε) (count : ℕ) : Proc κ ε Bytes :=
  .read count fun answer ↦ .done (answer.mapError wrap)

def writeAll (wrap : String → ε) (bytes : Bytes) : Proc κ ε Unit :=
  .write bytes fun answer ↦ .done (answer.mapError wrap)

def record (event : κ) : Proc κ ε Unit := .note event (.done (.ok ()))

def attempt : Proc κ ε α → Proc κ ε' (Except ε α)
  | .done result => .done (.ok result)
  | .read count cont => .read count fun answer ↦ (cont answer).attempt
  | .write bytes cont => .write bytes fun answer ↦ (cont answer).attempt
  | .note event cont => .note event cont.attempt

end Proc

/-! ### Runs -/

/-- One interaction of a run. -/
inductive Event (κ : Type) : Type
  | received (bytes : Bytes)
  | readFailed (text : String)
  | sent (bytes : Bytes)
  | writeFailed (text : String)
  | noted (event : κ)

/-- The process can end with a result after the interactions of a trace. -/
inductive Runs : Proc κ ε α → List (Event κ) → Except ε α → Prop
  | done (result : Except ε α) : Runs (.done result) [] result
  | received {next : Except String Bytes → Proc κ ε α} {trace : List (Event κ)}
      {result : Except ε α} (bytes : Bytes) : Runs (next (.ok bytes)) trace result →
        Runs (.read bytes.length next) (.received bytes :: trace) result
  | readFailed {count : ℕ} {next : Except String Bytes → Proc κ ε α} {trace : List (Event κ)}
      {result : Except ε α} (text : String) : Runs (next (.error text)) trace result →
        Runs (.read count next) (.readFailed text :: trace) result
  | sent {next : Except String Unit → Proc κ ε α} {trace : List (Event κ)} {result : Except ε α}
    (bytes : Bytes) :
      Runs (next (.ok ())) trace result → Runs (.write bytes next) (.sent bytes :: trace) result
  | writeFailed {bytes : Bytes} {next : Except String Unit → Proc κ ε α}
      {trace : List (Event κ)} {result : Except ε α} (text : String) :
        Runs (next (.error text)) trace result →
        Runs (.write bytes next) (.writeFailed text :: trace) result
  | noted {next : Proc κ ε α} {trace : List (Event κ)} {result : Except ε α} (event : κ) :
      Runs next trace result → Runs (.note event next) (.noted event :: trace) result

variable {trace : List (Event κ)}

lemma runs_done_iff {final result : Except ε α} : Runs (.done final) trace result ↔ trace = [] ∧
    result = final := by
  constructor
  · intro hrun
    cases hrun
    exact ⟨rfl, rfl⟩
  · rintro ⟨rfl, rfl⟩
    exact .done _

variable {value : α}

@[simp] lemma runs_pure_ok {result : α} : Runs (pure value : Proc κ ε α) trace (.ok result) ↔
    trace = [] ∧ result = value :=
  runs_done_iff.trans (by rw [Except.ok.injEq])

variable {computation : Except ε α}

@[simp] lemma runs_check_ok {result : α} :
    Runs (Proc.check computation) trace (.ok result) ↔ trace = [] ∧ computation = .ok result :=
  runs_done_iff.trans (and_congr_right fun _ ↦ eq_comm)

variable {bytes : Bytes} {count : ℕ} {wrap : String → ε}

@[simp] lemma runs_readExact_ok : Runs (Proc.readExact wrap count) trace (.ok bytes) ↔
      bytes.length = count ∧ trace = [.received bytes] := by
  constructor
  · intro hrun
    cases hrun with
    | received answer hrest =>
      obtain ⟨rfl, hval⟩ := runs_done_iff.mp hrest
      obtain rfl := Except.ok.inj hval
      exact ⟨rfl, rfl⟩
    | readFailed text hrest => cases (runs_done_iff.mp hrest).2
  · rintro ⟨rfl, rfl⟩
    exact .received bytes (.done _)

@[simp] lemma runs_writeAll_ok {result : Unit} :
    Runs (Proc.writeAll wrap bytes) trace (.ok result) ↔ trace = [.sent bytes] := by
  constructor
  · intro hrun
    cases hrun with
    | sent _ hrest =>
      obtain ⟨rfl, -⟩ := runs_done_iff.mp hrest
      rfl
    | writeFailed text hrest => cases (runs_done_iff.mp hrest).2
  · rintro rfl
    exact .sent bytes (.done _)

variable {event : κ}

@[simp] lemma runs_record_ok {result : Unit} :
    Runs (Proc.record event : Proc κ ε Unit) trace (.ok result) ↔ trace = [.noted event] := by
  constructor
  · intro hrun
    cases hrun with
    | noted _ hrest =>
      obtain ⟨rfl, -⟩ := runs_done_iff.mp hrest
      rfl
  · rintro rfl
    exact .noted event (.done _)

variable {first : Proc κ ε α} {next : α → Proc κ ε β} {result : Except ε β}
  {before after : List (Event κ)}
  {final : Except ε α}

lemma Runs.append (hfirst : Runs first before final)
    (hnext : Runs (Proc.done final >>= next) after result) : Runs (first >>= next)
    (before ++ after) result := by
  induction hfirst with
  | done final => exact hnext
  | received bytes _ ih => exact .received bytes (ih hnext)
  | readFailed text _ ih => exact .readFailed text (ih hnext)
  | sent bytes _ ih => exact .sent bytes (ih hnext)
  | writeFailed text _ ih => exact .writeFailed text (ih hnext)
  | noted event _ ih => exact .noted event (ih hnext)

lemma Runs.bind (hfirst : Runs first before (.ok value))
    (hnext : Runs (next value) after result) : Runs (first >>= next) (before ++ after) result :=
  hfirst.append hnext

lemma Runs.bind_error {error : ε} (hfirst : Runs first trace (.error error))
    (next : α → Proc κ ε β) :
    Runs (first >>= next) trace (.error error) := by
  have hrun : Runs (first >>= next) (trace ++ []) (.error error) := hfirst.append (.done _)
  rwa [append_nil] at hrun

lemma runs_bind : Runs (first >>= next) trace result ↔
    (∃ error, result = .error error ∧ Runs first trace (.error error)) ∨
        ∃ value before after, trace = before ++ after ∧ Runs first before (.ok value) ∧
        Runs (next value) after result := by
  constructor
  · intro hrun
    -- an event of the first part in front of what its rest splits into
    have hextend {first rest : Proc κ ε α} {event : Event κ} {trace : List (Event κ)}
        (hstep : ∀ {trace result}, Runs rest trace result → Runs first (event :: trace) result) :
        ((∃ error, result = .error error ∧ Runs rest trace (.error error)) ∨
          ∃ value before after, trace = before ++ after ∧ Runs rest before (.ok value) ∧
          Runs (next value) after result) →
        (∃ error, result = .error error ∧ Runs first (event :: trace) (.error error)) ∨
          ∃ value before after, event :: trace = before ++ after ∧ Runs first before (.ok value) ∧
            Runs (next value) after result := by
      rintro (⟨error, rfl, hfirst⟩ | ⟨value, before, after, rfl, hfirst, hnext⟩)
      · exact .inl ⟨error, rfl, hstep hfirst⟩
      · exact .inr ⟨value, _, after, rfl, hstep hfirst, hnext⟩
    induction first generalizing trace with
    | done final =>
      cases final with
      | ok value => exact .inr ⟨value, [], trace, rfl, .done _, hrun⟩
      | error error =>
        obtain ⟨rfl, rfl⟩ := runs_done_iff.mp hrun
        exact .inl ⟨error, rfl, .done _⟩
    | read count cont ih =>
      cases hrun with
      | received bytes hrest => exact hextend (.received bytes) (ih _ hrest)
      | readFailed text hrest => exact hextend (.readFailed text) (ih _ hrest)
    | write bytes cont ih =>
      cases hrun with
      | sent _ hrest => exact hextend (.sent bytes) (ih _ hrest)
      | writeFailed text hrest => exact hextend (.writeFailed text) (ih _ hrest)
    | note event cont ih =>
      cases hrun with
      | noted _ hrest => exact hextend (.noted event) (ih hrest)
  rintro (⟨error, rfl, hfirst⟩ | ⟨value, before, after, rfl, hfirst, hnext⟩)
  · exact hfirst.bind_error next
  · exact hfirst.bind hnext

lemma runs_bind_ok {result : β} : Runs (first >>= next) trace (.ok result) ↔
      ∃ value before after, trace = before ++ after ∧ Runs first before (.ok value) ∧
        Runs (next value) after (.ok result) := by
  rw [runs_bind]
  constructor
  · rintro (⟨error, herror, -⟩ | hparts)
    · cases herror
    · exact hparts
  · exact .inr

@[simp] lemma runs_check_bind_ok {result : β} :
    Runs (Proc.check computation >>= next) trace (.ok result) ↔
      ∃ value, computation = .ok value ∧ Runs (next value) trace (.ok result) := by
  rw [runs_bind_ok]
  constructor
  · rintro ⟨value, before, after, rfl, hcheck, hnext⟩
    obtain ⟨rfl, hval⟩ := runs_check_ok.mp hcheck
    exact ⟨value, hval, hnext⟩
  · rintro ⟨value, hval, hnext⟩
    exact ⟨value, [], trace, rfl, runs_check_ok.mpr ⟨rfl, hval⟩, hnext⟩

lemma runs_check_bind : Runs (Proc.check computation >>= next) trace result ↔
      (∃ error, computation = .error error ∧ trace = [] ∧ result = .error error) ∨
        ∃ value, computation = .ok value ∧ Runs (next value) trace result := by
  cases computation with
  | ok value => simp [Proc.check_ok_bind]
  | error error => simp [Proc.check_error_bind, runs_done_iff]

lemma Runs.of_forM_writeAll {parts : List Bytes} {result : Except ε Unit}
    (hrun : Runs (parts.forM (Proc.writeAll wrap) : Proc κ ε Unit) trace result) :
    result = .ok () ∨ ∃ text, result = .error (wrap text) := by
  induction parts generalizing trace with
  | nil =>
    obtain ⟨-, rfl⟩ := runs_done_iff.mp hrun
    exact .inl rfl
  | cons part rest ih =>
    cases hrun with
    | sent _ hrest => exact ih hrest
    | writeFailed text hrest =>
      obtain ⟨-, rfl⟩ := runs_done_iff.mp hrest
      exact .inr ⟨text, rfl⟩

lemma runs_forM_writeAll (wrap : String → ε) (parts : List Bytes) :
    Runs (parts.forM (Proc.writeAll wrap) : Proc κ ε Unit) (parts.map .sent) (.ok ()) := by
  induction parts with
  | nil => exact .done _
  | cons part rest ih => exact .sent part ih

lemma runs_readExact_bind_received {next : Bytes → Proc κ ε β}
    (hrun : Runs (Proc.readExact wrap count >>= next) (.received bytes :: trace) result) :
    bytes.length = count ∧ Runs (next bytes) trace result := by
  generalize hproc : (Proc.readExact wrap count >>= next) = process at hrun
  cases hrun with
  | received _ hrest =>
    obtain ⟨hcount, hnext⟩ := Proc.read.inj hproc
    rw [← hnext] at hrest
    exact ⟨hcount.symm, hrest⟩

variable {process : Proc κ ε α}

lemma Runs.of_attempt {final : Except ε' (Except ε α)} (hrun : Runs process.attempt trace final) :
    ∃ result, final = .ok result ∧ Runs process trace result := by
  induction process generalizing trace with
  | done result =>
    obtain ⟨rfl, rfl⟩ := runs_done_iff.mp hrun
    exact ⟨result, rfl, .done _⟩
  | read count cont ih =>
    cases hrun with
    | received bytes hrest => exact (ih _ hrest).imp fun _ ↦ And.imp_right (.received bytes)
    | readFailed text hrest => exact (ih _ hrest).imp fun _ ↦ And.imp_right (.readFailed text)
  | write bytes cont ih =>
    cases hrun with
    | sent _ hrest => exact (ih _ hrest).imp fun _ ↦ And.imp_right (.sent bytes)
    | writeFailed text hrest => exact (ih _ hrest).imp fun _ ↦ And.imp_right (.writeFailed text)
  | note event cont ih =>
    cases hrun with
    | noted _ hrest => exact (ih hrest).imp fun _ ↦ And.imp_right (.noted event)

@[simp] lemma runs_attempt :
    Runs (process.attempt : Proc κ ε' (Except ε α)) trace (.ok final) ↔
    Runs process trace final := by
  constructor
  · intro hrun
    obtain ⟨result, hres, hruns⟩ := hrun.of_attempt
    rwa [Except.ok.inj hres]
  intro hrun
  induction hrun with
  | done result => exact .done _
  | received bytes _ ih => exact .received bytes ih
  | readFailed text _ ih => exact .readFailed text ih
  | sent bytes _ ih => exact .sent bytes ih
  | writeFailed text _ ih => exact .writeFailed text ih
  | noted event _ ih => exact .noted event ih

lemma not_runs_attempt_error (process : Proc κ ε α) {error : ε'} :
    ¬ Runs (process.attempt : Proc κ ε' (Except ε α)) trace (.error error) := by
  intro hrun
  obtain ⟨result, hres, -⟩ := hrun.of_attempt
  cases hres

lemma runs_attempt_readExact_bind {next : Except ε Bytes → Proc κ ε' β} {result : Except ε' β}
    (hrun : Runs (Proc.attempt (Proc.readExact wrap count) >>= next) trace result) :
    (∃ text rest, trace = .readFailed text :: rest ∧ Runs (next (.error (wrap text))) rest result) ∨
      ∃ bytes rest, bytes.length = count ∧ trace = .received bytes :: rest ∧
      Runs (next (.ok bytes)) rest result := by
  rcases runs_bind.mp hrun with ⟨error, -, hfirst⟩ | ⟨value, before, after, rfl, hfirst, hnext⟩
  · exact absurd hfirst (not_runs_attempt_error _)
  cases runs_attempt.mp hfirst with
  | received bytes hrest =>
    obtain ⟨rfl, rfl⟩ := runs_done_iff.mp hrest
    exact .inr ⟨bytes, after, rfl, rfl, hnext⟩
  | readFailed text hrest =>
    obtain ⟨rfl, rfl⟩ := runs_done_iff.mp hrest
    exact .inl ⟨text, after, rfl, hnext⟩

def notes (trace : List (Event κ)) : List κ :=
  trace.filterMap fun event ↦
    match event with
    | .noted noted => some noted
    | _ => none

section Notes

variable (rest : List (Event κ))

@[simp] lemma notes_received (bytes : Bytes) : notes (.received bytes :: rest) = notes rest := rfl

@[simp] lemma notes_append (before : List (Event κ)) :
    notes (before ++ rest) = notes before ++ notes rest := filterMap_append

end Notes

/-- The process can end with a value after noting the given events, whatever else it exchanged. -/
def Ends (process : Proc κ ε α) (noted : List κ) (value : α) : Prop :=
  ∃ trace, Runs process trace (.ok value) ∧ notes trace = noted

lemma Runs.ends (hrun : Runs process trace (.ok value)) : Ends process (notes trace) value :=
  ⟨trace, hrun, rfl⟩

section Ends

variable {noted : List κ}

@[simp] lemma ends_pure {value result : α} : Ends (pure value : Proc κ ε α) noted result ↔
    noted = [] ∧ result = value := by
  simp [Ends, notes, and_assoc, and_comm, eq_comm]

@[simp] lemma ends_check {computation : Except ε α} {result : α} :
    Ends (Proc.check computation) noted result ↔ noted = [] ∧ computation = .ok result := by
  simp [Ends, notes, and_assoc, and_comm, eq_comm]

@[simp] lemma ends_record {result : Unit} : Ends (Proc.record event : Proc κ ε Unit) noted result ↔
    noted = [event] := by
  simp [Ends, notes, eq_comm]

@[simp] lemma ends_readExact {wrap : String → ε} {count : ℕ} {bytes : Bytes} :
    Ends (Proc.readExact wrap count) noted bytes ↔ bytes.length = count ∧ noted = [] := by
  simp [Ends, notes, and_assoc, eq_comm]

@[simp] lemma ends_writeAll {wrap : String → ε} {bytes : Bytes} {result : Unit} :
    Ends (Proc.writeAll wrap bytes) noted result ↔ noted = [] := by
  simp [Ends, notes, eq_comm]

variable {result : β}

lemma ends_bind {first : Proc κ ε α} {next : α → Proc κ ε β} : Ends (first >>= next) noted result ↔
      ∃ value before after, noted = before ++ after ∧ Ends first before value ∧
      Ends (next value) after result := by
  constructor
  · rintro ⟨trace, hrun, rfl⟩
    obtain ⟨value, before, after, rfl, hfirst, hnext⟩ := runs_bind_ok.mp hrun
    exact ⟨value, _, _, notes_append _ _, hfirst.ends, hnext.ends⟩
  · rintro ⟨value, _, _, rfl, ⟨before, hfirst, rfl⟩, after, hnext, rfl⟩
    exact ⟨before ++ after, hfirst.bind hnext, notes_append _ _⟩

@[simp] lemma ends_check_bind {computation : Except ε α} {next : α → Proc κ ε β} :
    Ends (Proc.check computation >>= next) noted result ↔
      ∃ value, computation = .ok value ∧ Ends (next value) noted result := by
  simp only [Ends, runs_check_bind_ok]
  constructor
  · rintro ⟨trace, ⟨value, hval, hnext⟩, hnoted⟩
    exact ⟨value, hval, trace, hnext, hnoted⟩
  · rintro ⟨value, hval, trace, hnext, hnoted⟩
    exact ⟨trace, ⟨value, hval, hnext⟩, hnoted⟩

@[simp] lemma ends_record_bind {next : Unit → Proc κ ε β} :
    Ends (Proc.record event >>= next) noted result ↔ ∃ rest, noted = event :: rest ∧
    Ends (next ()) rest result := by
  rw [ends_bind]
  constructor
  · rintro ⟨⟨⟩, before, after, rfl, hrec, hnext⟩
    rw [ends_record.mp hrec]
    exact ⟨after, rfl, hnext⟩
  · rintro ⟨rest, rfl, hnext⟩
    exact ⟨(), [event], rest, rfl, ends_record.mpr rfl, hnext⟩

lemma ends_attempt_ok {process : Proc κ ε α} {value : α} :
    Ends (process.attempt : Proc κ ε' (Except ε α)) noted (.ok value) ↔
    Ends process noted value := by
  simp only [Ends, runs_attempt]

end Ends

/-- Some run of the process, with any result, notes the given events. -/
def MayNote (process : Proc κ ε α) (noted : List κ) : Prop :=
  ∃ trace result, Runs process trace result ∧ notes trace = noted

lemma Runs.mayNote {result : Except ε α}
    (hrun : Runs process trace result) : MayNote process (notes trace) := ⟨trace, result, hrun, rfl⟩

/-- Every event that a run of the process notes is of a kind. -/
def NotesOnly (kind : κ → Prop) (process : Proc κ ε α) : Prop :=
  ∀ noted, MayNote process noted → ∀ event ∈ noted, kind event

/-- The process notes nothing. -/
abbrev Silent (process : Proc κ ε α) : Prop := NotesOnly (fun _ ↦ False) process

section MayNote

variable {noted : List κ} {kind : κ → Prop} {process : Proc κ ε α}

lemma Silent.eq_nil (hsilent : Silent process) (hmay : MayNote process noted) : noted = [] :=
  eq_nil_iff_forall_not_mem.mpr (hsilent noted hmay)

variable {first : Proc κ ε α} {next : α → Proc κ ε β}

lemma mayNote_bind (hmay : MayNote (first >>= next) noted) :
    MayNote first noted ∨ ∃ value before after, noted = before ++ after ∧ Ends first before value ∧
      MayNote (next value) after := by
  obtain ⟨trace, result, hrun, rfl⟩ := hmay
  obtain ⟨error, -, hfirst⟩ | ⟨value, before, after, rfl, hfirst, hnext⟩ := runs_bind.mp hrun
  · exact .inl hfirst.mayNote
  · exact .inr ⟨value, _, _, notes_append _ _, hfirst.ends, hnext.mayNote⟩

variable {event : κ} {motive : List κ → Prop}

lemma Ends.mayNote {value : α} (hends : Ends process noted value) : MayNote process noted := by
  obtain ⟨trace, hrun, rfl⟩ := hends
  exact hrun.mayNote

lemma NotesOnly.bind (hfirst : NotesOnly kind first)
    (hnext : ∀ value, NotesOnly kind (next value)) : NotesOnly kind (first >>= next) := by
  intro noted hmay event hevent
  obtain hmay | ⟨value, before, after, rfl, hends, hafter⟩ := mayNote_bind hmay
  · exact hfirst noted hmay event hevent
  obtain hbefore | hafter' := mem_append.mp hevent
  · exact hfirst before hends.mayNote event hbefore
  · exact hnext value after hafter event hafter'

lemma NotesOnly.check {computation : Except ε α} :
    NotesOnly kind (Proc.check computation : Proc κ ε α) := by
  rintro noted ⟨trace, result, hrun, rfl⟩ event hevent
  obtain ⟨rfl, -⟩ := runs_done_iff.mp hrun
  cases hevent

lemma NotesOnly.pure {value : α} : NotesOnly kind (pure value : Proc κ ε α) := .check

lemma NotesOnly.readExact {wrap : String → ε} {count : ℕ} :
    NotesOnly kind (Proc.readExact wrap count : Proc κ ε Bytes) := by
  rintro noted ⟨trace, result, hrun, rfl⟩ event hevent
  cases hrun with
  | received _ hrest | readFailed _ hrest =>
    obtain ⟨rfl, -⟩ := runs_done_iff.mp hrest
    cases hevent

lemma NotesOnly.writeAll {wrap : String → ε} {bytes : Bytes} :
    NotesOnly kind (Proc.writeAll wrap bytes : Proc κ ε Unit) := by
  rintro noted ⟨trace, result, hrun, rfl⟩ event hevent
  cases hrun with
  | sent _ hrest | writeFailed _ hrest =>
    obtain ⟨rfl, -⟩ := runs_done_iff.mp hrest
    cases hevent

lemma NotesOnly.forM {items : List β} {body : β → Proc κ ε Unit}
    (hbody : ∀ item ∈ items, NotesOnly kind (body item)) : NotesOnly kind (items.forM body) := by
  induction items with
  | nil => exact .pure
  | cons item rest ih =>
    exact .bind (hbody item mem_cons_self) fun _ ↦
      ih (forall_mem_cons.mp hbody).2

lemma mayNote_attempt (hmay : MayNote (process.attempt : Proc κ ε' (Except ε α)) noted) :
    MayNote process noted := by
  obtain ⟨trace, result, hrun, rfl⟩ := hmay
  cases result with
  | ok final => exact (runs_attempt.mp hrun).mayNote
  | error error => exact absurd hrun (not_runs_attempt_error process)

lemma NotesOnly.attempt (hproc : NotesOnly kind process) :
    NotesOnly kind (process.attempt : Proc κ ε' (Except ε α)) :=
  fun noted hmay ↦ hproc noted (mayNote_attempt hmay)

lemma ends_bind_of_silent {result : β} (hsilent : Silent first)
    (hends : Ends (first >>= next) noted result) :
    ∃ value, Ends first [] value ∧ Ends (next value) noted result := by
  obtain ⟨value, before, after, rfl, hfirst, hnext⟩ := ends_bind.mp hends
  obtain rfl := hsilent.eq_nil hfirst.mayNote
  exact ⟨value, hfirst, hnext⟩

end MayNote

def Proc.feed : Proc κ ε α → Bytes → List (Event κ) × Except ε α
  | .done result, _ => ([], result)
  | .read count next, input =>
    if count ≤ input.length then
      let rest := (next (.ok (input.take count))).feed (input.drop count)
      (.received (input.take count) :: rest.1, rest.2)
    else
      let rest := (next (.error "unexpected end of file")).feed input
      (.readFailed "unexpected end of file" :: rest.1, rest.2)
  | .write bytes next, input =>
    let rest := (next (.ok ())).feed input
    (.sent bytes :: rest.1, rest.2)
  | .note event next, input =>
    let rest := next.feed input
    (.noted event :: rest.1, rest.2)

variable (process : Proc κ ε α)

lemma runs_feed (input : Bytes) : Runs process (process.feed input).1 (process.feed input).2 := by
  induction process generalizing input with
  | done result => exact .done result
  | read count next ih =>
    simp only [Proc.feed]
    split_ifs with hcount
    · have hlen : (input.take count).length = count := length_take_of_le hcount
      have hrun : Runs (.read (input.take count).length next) (.received (input.take count) ::
            ((next (.ok (input.take count))).feed (input.drop count)).1)
          ((next (.ok (input.take count))).feed (input.drop count)).2 :=
        .received _ (ih _ _)
      rwa [hlen] at hrun
    · exact .readFailed _ (ih _ input)
  | write bytes next ih => exact .sent bytes (ih _ input)
  | note event next ih => exact .noted event (ih input)

lemma exists_runs_of_feed (input : Bytes) (view : α → β) (seen : β) (Q : List κ → Prop)
    (hfeed : (process.feed input).2.toOption.map view = some seen ∧
    Q (notes (process.feed input).1)) :
    ∃ value trace, Runs process trace (.ok value) ∧ view value = seen ∧ Q (notes trace) := by
  obtain ⟨value, hval, hview⟩ := Option.map_eq_some_iff.mp hfeed.1
  exact ⟨value, _, toOption_eq_some.mp hval ▸ runs_feed process input, hview, hfeed.2⟩

end GmStack.Foundation
