import GmStack.Foundation.Bytes
import GmStack.Foundation.Result

/-! Programs that are polled by a scheduler and poll a transport in turn. -/

namespace GmStack.Foundation

open List

/-- The answer to a poll. -/
inductive Polled (α : Type)
  | pending
  | failed (text : String)
  | ready (value : α)
  deriving DecidableEq

/-- What a poll asks the transport: for at most a number of bytes, to take bytes, or to close. -/
inductive Question
  | read (capacity : ℕ)
  | write (bytes : Bytes)
  | shutdown

/-- A question that was answered. -/
inductive Exchange
  | received (bytes : Bytes)
  | readPending
  | readFailed (text : String)
  | accepted (bytes : Bytes)
  | writePending
  | writeFailed (text : String)
  | closed (answer : Polled Unit)
  deriving DecidableEq

namespace Exchange

def fits : Question → Exchange → Bool
  | .read capacity, .received bytes => bytes.length ≤ capacity
  | .read _, .readPending => true
  | .read _, .readFailed _ => true
  | .write bytes, .accepted taken => taken.isPrefixOf bytes
  | .write _, .writePending => true
  | .write _, .writeFailed _ => true
  | .shutdown, .closed _ => true
  | _, _ => false

def bytesRead : Exchange → Polled Bytes
  | .received bytes => .ready bytes
  | .readFailed text => .failed text
  | _ => .pending

def countWritten : Exchange → Polled ℕ
  | .accepted bytes => .ready bytes.length
  | .writeFailed text => .failed text
  | _ => .pending

def shutdownAnswer : Exchange → Polled Unit
  | .closed answer => answer
  | _ => .pending

variable {exchange : Exchange}

lemma fits_read {capacity : ℕ} (hfits : fits (.read capacity) exchange = true) :
    (∃ bytes, exchange = .received bytes ∧ bytes.length ≤ capacity) ∨ exchange = .readPending ∨
      ∃ text, exchange = .readFailed text := by
  cases exchange with
  | received bytes => exact .inl ⟨bytes, rfl, of_decide_eq_true hfits⟩
  | readPending => exact .inr (.inl rfl)
  | readFailed text => exact .inr (.inr ⟨text, rfl⟩)
  | _ => cases hfits

lemma fits_write {bytes : Bytes} (hfits : fits (.write bytes) exchange = true) :
    (∃ taken left, exchange = .accepted taken ∧ bytes = taken ++ left) ∨ exchange = .writePending ∨
      ∃ text, exchange = .writeFailed text := by
  cases exchange with
  | accepted taken =>
    obtain ⟨left, rfl⟩ := isPrefixOf_iff_prefix.mp hfits
    exact .inl ⟨taken, left, rfl, rfl⟩
  | writePending => exact .inr (.inl rfl)
  | writeFailed text => exact .inr (.inr ⟨text, rfl⟩)
  | _ => cases hfits

lemma fits_shutdown (hfits : fits .shutdown exchange = true) :
    ∃ answer, exchange = .closed answer := by
  cases exchange with
  | closed answer => exact ⟨answer, rfl⟩
  | _ => cases hfits

end Exchange

def received : List Exchange → Bytes
  | [] => []
  | .received bytes :: rest => bytes ++ received rest
  | _ :: rest => received rest

def accepted : List Exchange → Bytes
  | [] => []
  | .accepted bytes :: rest => bytes ++ accepted rest
  | _ :: rest => accepted rest

@[simp] lemma received_append (first second : List Exchange) :
    received (first ++ second) = received first ++ received second := by
  induction first with
  | nil => rfl
  | cons exchange rest ih => cases exchange <;> simp [received, ih]

@[simp] lemma accepted_append (first second : List Exchange) :
    accepted (first ++ second) = accepted first ++ accepted second := by
  induction first with
  | nil => rfl
  | cons exchange rest ih => cases exchange <;> simp [accepted, ih]

/-! ### Polls -/

/-- One poll of a program with states `σ`: it asks the transport and goes on with the answer, or
ends with a state and an answer of its own. -/
inductive Poll (σ α : Type) : Type
  | done (state : σ) (outcome : Polled α)
  | ask (question : Question) (next : Exchange → Poll σ α)

def PollM (σ α : Type) : Type := σ → Poll σ α

variable {σ α β : Type}

def Poll.bind : Poll σ α → (α → PollM σ β) → Poll σ β
  | .done state (.ready value), next => next value state
  | .done state .pending, _ => .done state .pending
  | .done state (.failed text), _ => .done state (.failed text)
  | .ask question cont, next => .ask question fun exchange ↦ (cont exchange).bind next

def Poll.attempt : Poll σ α → Poll σ (Polled α)
  | .done state outcome => .done state (.ready outcome)
  | .ask question cont => .ask question fun exchange ↦ (cont exchange).attempt

namespace PollM

instance : Monad (PollM σ) where
  pure value := fun state ↦ .done state (.ready value)
  bind first next := fun state ↦ (first state).bind next

def exit (outcome : Polled α) : PollM σ α := fun state ↦ .done state outcome

def get : PollM σ σ := fun state ↦ .done state (.ready state)

def set (state : σ) : PollM σ Unit := fun _ ↦ .done state (.ready ())

def check : Except String α → PollM σ α
  | .ok value => exit (.ready value)
  | .error text => exit (.failed text)

def readSome (capacity : ℕ) : PollM σ Bytes :=
  fun state ↦ .ask (.read capacity) fun exchange ↦ .done state exchange.bytesRead

def writeSome (bytes : Bytes) : PollM σ ℕ :=
  fun state ↦ .ask (.write bytes) fun exchange ↦ .done state exchange.countWritten

def shut : PollM σ Unit := fun state ↦ .ask .shutdown fun exchange ↦
    .done state exchange.shutdownAnswer

def attempt (program : PollM σ α) : PollM σ (Polled α) := fun state ↦ (program state).attempt

def readLoop (eof : String) (store : Bytes → σ → σ) : ℕ → ℕ → PollM σ Bytes
  | 0, _ => pure []
  | rounds + 1, wanted =>
    if wanted = 0 then pure []
    else do
      let chunk ← readSome wanted
      if chunk = [] then exit (.failed eof)
      else do
        let state ← get
        set (store chunk state)
        let rest ← readLoop eof store rounds (wanted - chunk.length)
        pure (chunk ++ rest)

def writeOnce (partly : String) (bytes : Bytes) : PollM σ Unit := do
  let count ← writeSome bytes
  if count = bytes.length then pure () else exit (.failed partly)

def writeLoop (refused : String) : ℕ → Bytes → PollM σ Unit
  | 0, _ => pure ()
  | rounds + 1, bytes =>
    if bytes = [] then pure ()
    else do
      let count ← writeSome bytes
      if count = 0 then exit (.failed refused)
      else writeLoop refused rounds (bytes.drop count)

end PollM

/-- A poll can end in a state with an outcome after the exchanges of a trace. -/
inductive Polls : Poll σ α → List Exchange → σ → Polled α → Prop
  | done (state : σ) (outcome : Polled α) : Polls (.done state outcome) [] state outcome
  | ask {question : Question} {next : Exchange → Poll σ α} {exchange : Exchange}
      {trace : List Exchange} {state : σ} {outcome : Polled α}
      (hfits : exchange.fits question = true) (hrest : Polls (next exchange) trace state outcome) :
      Polls (.ask question next) (exchange :: trace) state outcome

section Polls

variable {trace : List Exchange} {start state : σ} {final : σ}

lemma polls_done_iff {outcome answer : Polled α} : Polls (.done final answer) trace state outcome ↔
      trace = [] ∧ state = final ∧ outcome = answer := by
  constructor
  · intro hpolls
    cases hpolls
    exact ⟨rfl, rfl, rfl⟩
  · rintro ⟨rfl, rfl, rfl⟩
    exact .done _ _

lemma polls_ask_iff {question : Question} {next : Exchange → Poll σ α} {outcome : Polled α} :
    Polls (.ask question next) trace state outcome ↔
      ∃ exchange rest, trace = exchange :: rest ∧ exchange.fits question = true ∧
        Polls (next exchange) rest state outcome := by
  constructor
  · intro hpolls
    cases hpolls with
    | ask hfits hrest => exact ⟨_, _, rfl, hfits, hrest⟩
  · rintro ⟨exchange, rest, rfl, hfits, hrest⟩
    exact .ask hfits hrest

/-- Two polls that end in the same way without a value. -/
inductive Polled.Stops : Polled α → Polled β → Prop
  | pending : Polled.Stops .pending .pending
  | failed (text : String) : Polled.Stops (.failed text) (.failed text)

variable {outcome : Polled β}

lemma Polls.of_bind {first : Poll σ α} {next : α → PollM σ β}
    (hpolls : Polls (first.bind next) trace state outcome) :
    (∃ stop : Polled α, stop.Stops outcome ∧ Polls first trace state stop) ∨
      ∃ value middle before after, trace = before ++ after ∧
        Polls first before middle (.ready value) ∧
        Polls (next value middle) after state outcome := by
  induction first generalizing trace with
  | done final answer =>
    cases answer with
    | ready value => exact .inr ⟨value, final, [], trace, rfl, .done _ _, hpolls⟩
    | pending =>
      obtain ⟨rfl, rfl, rfl⟩ := polls_done_iff.mp hpolls
      exact .inl ⟨.pending, .pending, .done _ _⟩
    | failed text =>
      obtain ⟨rfl, rfl, rfl⟩ := polls_done_iff.mp hpolls
      exact .inl ⟨.failed text, .failed text, .done _ _⟩
  | ask question cont ih =>
    obtain ⟨exchange, rest, rfl, hfits, hrest⟩ := polls_ask_iff.mp hpolls
    rcases ih exchange hrest with ⟨stop, hstop, hfirst⟩ | ⟨value, middle, before,
      after, rfl, hparts⟩
    · exact .inl ⟨stop, hstop, .ask hfits hfirst⟩
    · exact .inr ⟨value, middle, _, after, rfl, .ask hfits hparts.1, hparts.2⟩

lemma Polls.of_attempt {poll : Poll σ α} {outcome : Polled (Polled α)}
    (hpolls : Polls poll.attempt trace state outcome) :
    ∃ answer, outcome = .ready answer ∧ Polls poll trace state answer := by
  induction poll generalizing trace with
  | done final answer =>
    obtain ⟨rfl, rfl, rfl⟩ := polls_done_iff.mp hpolls
    exact ⟨answer, rfl, .done _ _⟩
  | ask question cont ih =>
    obtain ⟨exchange, rest, rfl, hfits, hrest⟩ := polls_ask_iff.mp hpolls
    obtain ⟨answer, rfl, hpoll⟩ := ih exchange hrest
    exact ⟨answer, rfl, .ask hfits hpoll⟩

lemma polls_pure {value : α} {outcome : Polled α} :
    Polls ((pure value : PollM σ α) start) trace state outcome ↔
      trace = [] ∧ state = start ∧ outcome = .ready value := polls_done_iff

lemma polls_exit {outcome answer : Polled α} : Polls (PollM.exit answer start) trace state outcome ↔
      trace = [] ∧ state = start ∧ outcome = answer := polls_done_iff

lemma polls_get_bind {next : σ → PollM σ β} :
    Polls ((PollM.get >>= next) start) trace state outcome ↔
      Polls (next start start) trace state outcome := Iff.rfl

variable {next : Unit → PollM σ β}

lemma polls_set_bind : Polls ((PollM.set final >>= next) start) trace state outcome ↔
      Polls (next () final) trace state outcome := Iff.rfl

lemma polls_check_bind {computation : Except String α} {next : α → PollM σ β} :
    Polls ((PollM.check computation >>= next) start) trace state outcome ↔
      (∃ text, computation = .error text ∧ trace = [] ∧ state = start ∧ outcome = .failed text) ∨
        ∃ value, computation = .ok value ∧ Polls (next value start) trace state outcome := by
  cases computation with
  | ok value =>
    show Polls (next value start) trace state outcome ↔ _
    simp
  | error text => exact polls_done_iff.trans (by simp)

lemma Polls.of_readSome_bind {capacity : ℕ} {next : Bytes → PollM σ β}
    (hpolls : Polls ((PollM.readSome capacity >>= next) start) trace state outcome) :
    (trace = [.readPending] ∧ state = start ∧ outcome = .pending) ∨
      (∃ text, trace = [.readFailed text] ∧ state = start ∧ outcome = .failed text) ∨
        ∃ bytes rest, trace = .received bytes :: rest ∧ bytes.length ≤ capacity ∧
          Polls (next bytes start) rest state outcome := by
  obtain ⟨exchange, rest, rfl, hfits, hrest⟩ := polls_ask_iff.mp hpolls
  obtain ⟨bytes, rfl, hcap⟩ | rfl | ⟨text, rfl⟩ := Exchange.fits_read hfits
  · exact .inr (.inr ⟨bytes, rest, rfl, hcap, hrest⟩)
  · obtain ⟨rfl, rfl, rfl⟩ := polls_done_iff.mp hrest
    exact .inl ⟨rfl, rfl, rfl⟩
  · obtain ⟨rfl, rfl, rfl⟩ := polls_done_iff.mp hrest
    exact .inr (.inl ⟨text, rfl, rfl, rfl⟩)

variable {bytes : Bytes}

lemma Polls.of_writeSome_bind {next : ℕ → PollM σ β}
    (hpolls : Polls ((PollM.writeSome bytes >>= next) start) trace state outcome) :
    (trace = [.writePending] ∧ state = start ∧ outcome = .pending) ∨
      (∃ text, trace = [.writeFailed text] ∧ state = start ∧ outcome = .failed text) ∨
        ∃ taken left rest, trace = .accepted taken :: rest ∧ bytes = taken ++ left ∧
          Polls (next taken.length start) rest state outcome := by
  obtain ⟨exchange, rest, rfl, hfits, hrest⟩ := polls_ask_iff.mp hpolls
  obtain ⟨taken, left, rfl, rfl⟩ | rfl | ⟨text, rfl⟩ := Exchange.fits_write hfits
  · exact .inr (.inr ⟨taken, left, rest, rfl, rfl, hrest⟩)
  · obtain ⟨rfl, rfl, rfl⟩ := polls_done_iff.mp hrest
    exact .inl ⟨rfl, rfl, rfl⟩
  · obtain ⟨rfl, rfl, rfl⟩ := polls_done_iff.mp hrest
    exact .inr (.inl ⟨text, rfl, rfl, rfl⟩)

lemma Polls.of_writeOnce_bind {partly : String}
    (hpolls : Polls ((PollM.writeOnce partly bytes >>= next) start) trace state outcome) :
    (trace = [.writePending] ∧ state = start ∧ outcome = .pending) ∨
      (∃ text, trace = [.writeFailed text] ∧ state = start ∧ outcome = .failed text) ∨
        (∃ taken left, trace = [.accepted taken] ∧ bytes = taken ++ left ∧ left ≠ [] ∧
          state = start ∧ outcome = .failed partly) ∨
        ∃ rest, trace = .accepted bytes :: rest ∧ Polls (next () start) rest state outcome := by
  obtain ⟨exchange, rest, rfl, hfits, hrest⟩ := polls_ask_iff.mp hpolls
  obtain ⟨taken, left, rfl, rfl⟩ | rfl | ⟨text, rfl⟩ := Exchange.fits_write hfits
  · change Polls (((if taken.length = (taken ++ left).length then pure ()
      else PollM.exit (.failed partly) : PollM σ Unit) start).bind next) rest state outcome at hrest
    by_cases hleft : left = []
    · subst hleft
      rw [append_nil, if_pos rfl] at hrest
      exact .inr (.inr (.inr ⟨rest, by rw [append_nil], hrest⟩))
    rw [if_neg (by simpa using hleft)] at hrest
    obtain ⟨rfl, rfl, rfl⟩ := polls_done_iff.mp hrest
    exact .inr (.inr (.inl ⟨taken, left, rfl, rfl, hleft, rfl, rfl⟩))
  · obtain ⟨rfl, rfl, rfl⟩ := polls_done_iff.mp hrest
    exact .inl ⟨rfl, rfl, rfl⟩
  · obtain ⟨rfl, rfl, rfl⟩ := polls_done_iff.mp hrest
    exact .inr (.inl ⟨text, rfl, rfl, rfl⟩)

lemma Polls.of_shut {outcome : Polled Unit}
    (hpolls : Polls (PollM.shut start) trace state outcome) :
    trace = [.closed outcome] ∧ state = start := by
  obtain ⟨exchange, rest, rfl, hfits, hrest⟩ := polls_ask_iff.mp hpolls
  obtain ⟨answer, rfl⟩ := Exchange.fits_shutdown hfits
  obtain ⟨rfl, rfl, rfl⟩ := polls_done_iff.mp hrest
  exact ⟨rfl, rfl⟩

/-! ### Loops -/

/-- Reads that all returned some bytes. -/
def Chunks (trace : List Exchange) : Prop := ∀ exchange ∈ trace, ∃ bytes, exchange =
    .received bytes ∧ bytes ≠ []

lemma Chunks.append {first second : List Exchange} (hfirst : Chunks first) (hsnd : Chunks second) :
    Chunks (first ++ second) :=
  forall_mem_append.mpr ⟨hfirst, hsnd⟩

/-- Writes that all took some bytes. -/
def Pieces (trace : List Exchange) : Prop := ∀ exchange ∈ trace, ∃ bytes, exchange =
    .accepted bytes ∧ bytes ≠ []

/-- An answer that ends a reading loop early, and the outcome of the loop. -/
inductive ReadStops (eof : String) : Exchange → Polled α → Prop
  | pending : ReadStops eof .readPending .pending
  | failed (text : String) : ReadStops eof (.readFailed text) (.failed text)
  | ended : ReadStops eof (.received []) (.failed eof)

/-- An answer that ends a writing loop early, and the outcome of the loop. -/
inductive WriteStops (refused : String) : Exchange → Polled α → Prop
  | pending : WriteStops refused .writePending .pending
  | failed (text : String) : WriteStops refused (.writeFailed text) (.failed text)
  | refused : WriteStops refused (.accepted []) (.failed refused)

variable {eof : String} {store : Bytes → σ → σ}

lemma polls_readLoop (hnil : ∀ state, store [] state = state)
    (happend : ∀ first second state, store second (store first state) =
    store (first ++ second) state)
    {rounds wanted : ℕ} (hrounds : wanted ≤ rounds) {outcome : Polled Bytes}
    (hpolls : Polls (PollM.readLoop eof store rounds wanted start) trace state outcome) :
    state = store (received trace) start ∧
      ((outcome = .ready (received trace) ∧ (received trace).length = wanted ∧ Chunks trace) ∨
        ((received trace).length < wanted ∧ ∃ chunks last, trace = chunks ++ [last] ∧
        Chunks chunks ∧
          ReadStops eof last outcome)) := by
  induction rounds generalizing wanted start state trace outcome with
  | zero =>
    obtain ⟨rfl, rfl, rfl⟩ := polls_pure.mp hpolls
    exact ⟨(hnil _).symm, .inl ⟨rfl, (Nat.le_zero.mp hrounds).symm, by simp [Chunks]⟩⟩
  | succ rounds ih =>
    rw [PollM.readLoop] at hpolls
    by_cases hwanted : wanted = 0
    · rw [if_pos hwanted] at hpolls
      obtain ⟨rfl, rfl, rfl⟩ := polls_pure.mp hpolls
      exact ⟨(hnil _).symm, .inl ⟨rfl, hwanted.symm, by simp [Chunks]⟩⟩
    rw [if_neg hwanted] at hpolls
    have hpos : 0 < wanted := Nat.pos_of_ne_zero hwanted
    rcases Polls.of_readSome_bind hpolls with ⟨rfl, rfl, rfl⟩ | ⟨text, rfl, rfl, rfl⟩ | ⟨bytes,
      rest, rfl, hcap, hrest⟩
    · exact ⟨(hnil _).symm, .inr ⟨hpos, [], _, rfl, by simp [Chunks], .pending⟩⟩
    · exact ⟨(hnil _).symm, .inr ⟨hpos, [], _, rfl, by simp [Chunks], .failed text⟩⟩
    by_cases hbytes : bytes = []
    · rw [if_pos hbytes] at hrest
      obtain ⟨rfl, rfl, rfl⟩ := polls_exit.mp hrest
      subst hbytes
      exact ⟨(hnil _).symm, .inr ⟨hpos, [], _, rfl, by simp [Chunks], .ended⟩⟩
    rw [if_neg hbytes, polls_get_bind, polls_set_bind] at hrest
    have hlen : 0 < bytes.length := length_pos_iff.mpr hbytes
    have hleft : wanted - bytes.length ≤ rounds := by omega
    have hfirst {others : List Exchange} (hchunks : Chunks others) :
      Chunks (.received bytes :: others) :=
      forall_mem_cons.mpr ⟨⟨bytes, rfl, hbytes⟩, hchunks⟩
    rcases Polls.of_bind hrest with ⟨stop, hstop, hloop⟩ | ⟨value, middle, before, after,
      rfl, hloop, hpure⟩
    · obtain ⟨rfl, ⟨rfl, -⟩ | ⟨hshort, chunks, last, rfl, hchunks, hlast⟩⟩ := ih hleft hloop
      · cases hstop
      refine ⟨happend _ _ _, .inr ⟨?_, .received bytes :: chunks, last, rfl, hfirst hchunks, ?_⟩⟩
      · rw [received, length_append]
        omega
      · cases hstop <;> exact hlast
    obtain ⟨rfl, ⟨hval, hwhole, hchunks⟩ | ⟨-, _, _, -, -, hlast⟩⟩ := ih hleft hloop
    · obtain ⟨rfl, rfl, rfl⟩ := polls_pure.mp hpure
      obtain rfl := Polled.ready.inj hval
      rw [append_nil]
      refine ⟨happend _ _ _, .inl ⟨rfl, ?_, hfirst hchunks⟩⟩
      rw [received, length_append]
      omega
    · cases hlast

variable {refused : String}

lemma polls_writeLoop {rounds : ℕ} (hrounds : bytes.length ≤ rounds) {outcome : Polled Unit}
    (hpolls : Polls (PollM.writeLoop refused rounds bytes start) trace state outcome) :
    state = start ∧
      ((outcome = .ready () ∧ accepted trace = bytes ∧ Pieces trace) ∨
        ∃ left pieces last, bytes = accepted trace ++ left ∧ left ≠ [] ∧ trace = pieces ++ [last] ∧
          Pieces pieces ∧ WriteStops refused last outcome) := by
  induction rounds generalizing bytes start trace outcome with
  | zero =>
    obtain ⟨rfl, rfl, rfl⟩ := polls_pure.mp hpolls
    obtain rfl := eq_nil_of_length_eq_zero (Nat.le_zero.mp hrounds)
    exact ⟨rfl, .inl ⟨rfl, rfl, by simp [Pieces]⟩⟩
  | succ rounds ih =>
    rw [PollM.writeLoop] at hpolls
    by_cases hbytes : bytes = []
    · rw [if_pos hbytes] at hpolls
      obtain ⟨rfl, rfl, rfl⟩ := polls_pure.mp hpolls
      exact ⟨rfl, .inl ⟨rfl, hbytes.symm, by simp [Pieces]⟩⟩
    rw [if_neg hbytes] at hpolls
    rcases Polls.of_writeSome_bind hpolls with ⟨rfl, rfl, rfl⟩ | ⟨text, rfl, rfl, rfl⟩ | ⟨taken,
      left, rest, rfl, rfl, hrest⟩
    · exact ⟨rfl, .inr ⟨bytes, [], _, rfl, hbytes, rfl, by simp [Pieces], .pending⟩⟩
    · exact ⟨rfl, .inr ⟨bytes, [], _, rfl, hbytes, rfl, by simp [Pieces], .failed text⟩⟩
    by_cases htaken : taken.length = 0
    · rw [if_pos htaken] at hrest
      obtain ⟨rfl, rfl, rfl⟩ := polls_exit.mp hrest
      obtain rfl := eq_nil_of_length_eq_zero htaken
      exact ⟨rfl, .inr ⟨left, [], _, rfl, hbytes, rfl, by simp [Pieces], .refused⟩⟩
    rw [if_neg htaken, drop_left] at hrest
    have hfirst {others : List Exchange} (hpieces : Pieces others) :
      Pieces (.accepted taken :: others) :=
      forall_mem_cons.mpr ⟨⟨taken, rfl, fun hnil ↦ htaken (by rw [hnil, length_nil])⟩, hpieces⟩
    rw [length_append] at hrounds
    obtain ⟨rfl, ⟨rfl, rfl, hpieces⟩ | ⟨further, pieces, last, rfl, hfurther,
      rfl, hpieces, hlast⟩⟩ :=
      ih (by omega) hrest
    · exact ⟨rfl, .inl ⟨rfl, rfl, hfirst hpieces⟩⟩
    · refine ⟨rfl, .inr ⟨further, .accepted taken :: pieces, last, ?_, hfurther, rfl,
        hfirst hpieces, hlast⟩⟩
      rw [accepted, append_assoc]

lemma polls_readLoop_bind (hnil : ∀ state, store [] state = state)
    (happend : ∀ first second state, store second (store first state) =
    store (first ++ second) state)
    {wanted : ℕ} {next : Bytes → PollM σ β}
    (hpolls : Polls ((PollM.readLoop eof store wanted wanted >>= next) start) trace state outcome) :
    (state = store (received trace) start ∧ (received trace).length < wanted ∧
        ∃ chunks last, trace = chunks ++ [last] ∧ Chunks chunks ∧ ReadStops eof last outcome) ∨
      ∃ chunks after, trace = chunks ++ after ∧ Chunks chunks ∧ (received chunks).length = wanted ∧
        Polls (next (received chunks) (store (received chunks) start)) after state outcome := by
  rcases Polls.of_bind hpolls with ⟨stop, hstop, hloop⟩ | ⟨value, middle, before, after,
    rfl, hloop, hrest⟩
  · obtain ⟨rfl, ⟨rfl, -⟩ | ⟨hshort, chunks, last, rfl, hchunks, hlast⟩⟩ :=
      polls_readLoop hnil happend le_rfl hloop
    · cases hstop
    refine .inl ⟨rfl, hshort, chunks, last, rfl, hchunks, ?_⟩
    cases hstop with
    | pending =>
      cases hlast
      exact .pending
    | failed text =>
      cases hlast with
      | failed => exact .failed text
      | ended => exact .ended
  obtain ⟨rfl, ⟨hval, hwhole, hchunks⟩ | ⟨-, _, _, -, -, hlast⟩⟩ :=
    polls_readLoop hnil happend le_rfl hloop
  · obtain rfl := Polled.ready.inj hval
    exact .inr ⟨before, after, rfl, hchunks, hwhole, hrest⟩
  · cases hlast

lemma polls_writeLoop_bind
    (hpolls : Polls ((PollM.writeLoop refused bytes.length bytes >>= next) start)
    trace state outcome) :
    (state = start ∧ ∃ left pieces last, bytes = accepted trace ++ left ∧ left ≠ [] ∧
        trace = pieces ++ [last] ∧ Pieces pieces ∧ WriteStops refused last outcome) ∨
      ∃ pieces after, trace = pieces ++ after ∧ Pieces pieces ∧ accepted pieces = bytes ∧
        Polls (next () start) after state outcome := by
  rcases Polls.of_bind hpolls with ⟨stop, hstop, hloop⟩ | ⟨value, middle, before, after,
    rfl, hloop, hrest⟩
  · obtain ⟨rfl, ⟨rfl, -⟩ | ⟨left, pieces, last, hbytes, hleft, rfl, hpieces, hlast⟩⟩ :=
      polls_writeLoop le_rfl hloop
    · cases hstop
    refine .inl ⟨rfl, left, pieces, last, hbytes, hleft, rfl, hpieces, ?_⟩
    cases hstop with
    | pending =>
      cases hlast
      exact .pending
    | failed text =>
      cases hlast with
      | failed => exact .failed text
      | refused => exact .refused
  obtain ⟨rfl, ⟨-, hwhole, hpieces⟩ | ⟨_, _, _, -, -, -, -, hlast⟩⟩ :=
    polls_writeLoop le_rfl hloop
  · exact .inr ⟨before, after, rfl, hpieces, hwhole, hrest⟩
  · cases hlast

end Polls

/-- A task that makes one call after the other, each polled again while it is pending. `poll call
state` are the polls that a call may start, and `allowed` says which exchanges a poll may have. The
calls are listed with their outcomes. -/
inductive Drives (poll : β → σ → Poll σ α → Prop) (allowed : List Exchange → Prop) :
    σ → List (β × Polled α) → List Exchange → σ → Prop
  | idle (state : σ) : Drives poll allowed state [] [] state
  | again {call : β} {start middle final : σ} {attempt : Poll σ α} {before after : List Exchange}
      {calls : List (β × Polled α)} (hpoll : poll call start attempt)
      (hpolls : Polls attempt before middle .pending) (hallowed : allowed before)
      (hrest : Drives poll allowed middle calls after final)
      (hsame : ∃ outcome others, calls = (call, outcome) :: others) :
      Drives poll allowed start calls (before ++ after) final
  | next {call : β} {start middle final : σ} {attempt : Poll σ α} {before after : List Exchange}
      {outcome : Polled α} {calls : List (β × Polled α)} (hpoll : poll call start attempt)
      (hpolls : Polls attempt before middle outcome) (hallowed : allowed before)
      (houtcome : outcome ≠ .pending) (hrest : Drives poll allowed middle calls after final) :
      Drives poll allowed start ((call, outcome) :: calls) (before ++ after) final

variable {outcome : Polled α} {trace : List Exchange}

lemma Drives.single {poll : β → σ → Poll σ α → Prop} {allowed : List Exchange → Prop} {call : β}
    {start final : σ} {attempt : Poll σ α}
    (hpoll : poll call start attempt) (hpolls : Polls attempt trace final outcome)
    (hallow : allowed trace) (hout : outcome ≠ .pending) :
    Drives poll allowed start [(call, outcome)] trace final := by
  rw [← append_nil trace]
  exact .next hpoll hpolls hallow hout (.idle _)

def Exchange.isFair : Exchange → Bool
  | .received bytes => bytes ≠ []
  | .accepted bytes => bytes ≠ []
  | .readFailed _ => false
  | .writeFailed _ => false
  | _ => true

def Fair (trace : List Exchange) : Prop := ∀ exchange ∈ trace, exchange.isFair = true

instance (trace : List Exchange) : Decidable (Fair trace) :=
    inferInstanceAs (Decidable (∀ exchange ∈ _, _))

lemma fair_cons {exchange : Exchange} {rest : List Exchange} :
    Fair (exchange :: rest) ↔ exchange.isFair = true ∧ Fair rest := forall_mem_cons

lemma fair_append {first second : List Exchange} : Fair (first ++ second) ↔ Fair first ∧
    Fair second := forall_mem_append

lemma Fair.writePending_of_stops (hfair : Fair trace) {last : Exchange} (hmem : last ∈ trace)
    {refused : String}
    (hlast : WriteStops refused last outcome) : last = .writePending ∧ outcome = .pending := by
  have hlastFair := hfair last hmem
  cases hlast with
  | pending => exact ⟨rfl, rfl⟩
  | failed text => cases hlastFair
  | refused => cases hlastFair

lemma Fair.readPending_of_stops (hfair : Fair trace) {last : Exchange}
    (hmem : last ∈ trace) {eof : String} (hlast : ReadStops eof last outcome) :
    last = .readPending ∧ outcome = .pending := by
  have hlastFair := hfair last hmem
  cases hlast with
  | pending => exact ⟨rfl, rfl⟩
  | failed text => cases hlastFair
  | ended => cases hlastFair

def reported : List (Bytes × Polled ℕ) → List Bytes
  | [] => []
  | (bytes, .ready count) :: rest => bytes.take count :: reported rest
  | _ :: rest => reported rest

def handedOut : List (ℕ × Polled Bytes) → Bytes
  | [] => []
  | (_, .ready bytes) :: rest => bytes ++ handedOut rest
  | _ :: rest => handedOut rest

def Poll.follow : Poll σ α → List Exchange → Option (σ × Polled α)
  | .done state outcome, [] => some (state, outcome)
  | .ask question next, exchange :: rest =>
    if exchange.fits question then (next exchange).follow rest else none
  | _, _ => none

lemma polls_of_follow {poll : Poll σ α} {state : σ}
    (hfollow : poll.follow trace = some (state, outcome)) : Polls poll trace state outcome := by
  induction poll generalizing trace with
  | done final answer =>
    cases trace with
    | nil =>
      obtain ⟨rfl, rfl⟩ := Prod.mk.inj (Option.some.inj hfollow)
      exact .done _ _
    | cons exchange rest => cases hfollow
  | ask question next ih =>
    cases trace with
    | nil => cases hfollow
    | cons exchange rest =>
      rw [Poll.follow] at hfollow
      by_cases hfits : exchange.fits question = true
      · rw [if_pos hfits] at hfollow
        exact .ask hfits (ih exchange hfollow)
      · rw [if_neg hfits] at hfollow
        cases hfollow

end GmStack.Foundation
