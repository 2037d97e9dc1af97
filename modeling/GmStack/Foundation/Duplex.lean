import GmStack.Foundation.Process

/-! Two processes over a reliable stream in each direction. `Duplex.Step` lets either side move, and
`Inevitably` says that every schedule reaches a goal. -/

namespace GmStack.Foundation

open List Relation.ReflTransGen

section Schedules

variable {σ : Type}

/-- Every way of taking steps comes to a state of the goal, and until then a step is possible. -/
inductive Inevitably (step : σ → σ → Prop) (goal : σ → Prop) : σ → Prop
  | now {state : σ} (hgoal : goal state) : Inevitably step goal state
  | later {state : σ} (hsome : ∃ next, step state next)
      (hall : ∀ next, step state next → Inevitably step goal next) : Inevitably step goal state

variable {goal : σ → Prop} {state : σ}

lemma Inevitably.mono {step : σ → σ → Prop} {wider : σ → Prop}
    (hwider : ∀ state, goal state → wider state) (hstate : Inevitably step goal state) :
    Inevitably step wider state := by
  induction hstate with
  | now hgoal => exact .now (hwider _ hgoal)
  | later hsome _ ih => exact .later hsome ih

/-- Two different steps from one state meet again after one step each. -/
def Diamond (step : σ → σ → Prop) : Prop :=
  ∀ state first second, step state first → step state second →
    first = second ∨ ∃ joined, step first joined ∧ step second joined

variable {step : σ → σ → Prop} {final : σ}

lemma Inevitably.of_step (hdiamond : Diamond step) (hfinal : ∀ next, ¬ step final next)
    {next : σ} (hstep : step state next) (hnext : Inevitably step (· = final) next) :
    Inevitably step (· = final) state := by
  induction hnext generalizing state with
  | now hgoal =>
    refine .later ⟨_, hstep⟩ fun other hother ↦ ?_
    obtain rfl | ⟨joined, hjoined, -⟩ := hdiamond _ _ _ hstep hother
    · exact .now hgoal
    · exact absurd hjoined (hgoal ▸ hfinal joined)
  | later hsome hall ih =>
    refine .later ⟨_, hstep⟩ fun other hother ↦ ?_
    obtain rfl | ⟨joined, hfirst, hsnd⟩ := hdiamond _ _ _ hstep hother
    · exact .later hsome hall
    · exact ih joined hfirst hsnd

lemma inevitably_of_reaches (hdiamond : Diamond step) (hfinal : ∀ next, ¬ step final next)
    (hreaches : Relation.ReflTransGen step state final) :
    Inevitably step (· = final) state := by
  induction hreaches using head_induction_on with
  | refl => exact .now rfl
  | head hstep _ ih => exact ih.of_step hdiamond hfinal hstep

variable (hstate : Inevitably step goal state)

include hstate

lemma Inevitably.exists_reaches : ∃ reached, Relation.ReflTransGen step state reached ∧
    goal reached := by
  induction hstate with
  | now hgoal => exact ⟨_, .refl, hgoal⟩
  | later hsome _ ih =>
    obtain ⟨next, hstep⟩ := hsome
    obtain ⟨reached, hreaches, hgoal⟩ := ih next hstep
    exact ⟨reached, hreaches.head hstep, hgoal⟩

lemma Inevitably.after {later : σ} (hgoal : ∀ state, goal state → ∀ next, ¬ step state next)
    (hreaches : Relation.ReflTransGen step state later) : Inevitably step goal later := by
  induction hreaches using head_induction_on with
  | refl => exact hstate
  | head hstep _ ih =>
    cases hstate with
    | now hnow => exact absurd hstep (hgoal _ hnow _)
    | later _ hall => exact ih (hall _ hstep)

end Schedules

variable {κ ε α β γ δ : Type}

/-- One step of a process: what waits for it before and after, and what it sends. -/
inductive Proc.Step : Proc κ ε α → Bytes → Proc κ ε α → Bytes → Bytes → Prop
  | note (event : κ) (next : Proc κ ε α) (input : Bytes) :
    Proc.Step (.note event next) input next input []
  | write (bytes : Bytes) (next : Except String Unit → Proc κ ε α) (input : Bytes) :
      Proc.Step (.write bytes next) input (next (.ok ())) input bytes
  | read (bytes : Bytes) (next : Except String Bytes → Proc κ ε α) (input : Bytes) :
      Proc.Step (.read bytes.length next) (bytes ++ input) (next (.ok bytes)) input []

lemma Proc.Step.of_read {count : ℕ} {next : Except String Bytes → Proc κ ε α} {input rest : Bytes}
    (bytes : Bytes) (hinput : input = bytes ++ rest) (hcount : bytes.length = count) :
    Proc.Step (.read count next) input (next (.ok bytes)) rest [] := by
  subst hinput hcount
  exact .read bytes next rest

variable {input output : Bytes} {next process : Proc κ ε α}

lemma Proc.Step.unique {other : Proc κ ε α} {left otherLeft otherOutput : Bytes}
    (hstep : Proc.Step process input next left output)
    (hother : Proc.Step process input other otherLeft otherOutput) :
    next = other ∧ left = otherLeft ∧ output = otherOutput := by
  cases hstep with
  | note event next =>
    cases hother
    exact ⟨rfl, rfl, rfl⟩
  | write bytes next =>
    cases hother
    exact ⟨rfl, rfl, rfl⟩
  | read bytes next =>
    generalize hcount : bytes.length = count at hother
    generalize hinput : bytes ++ left = input at hother
    cases hother with
    | read others =>
      obtain ⟨rfl, rfl⟩ := append_inj hinput hcount
      exact ⟨rfl, rfl, rfl⟩

lemma Proc.Step.more {left : Bytes} (hstep : Proc.Step process input next left output)
    (further : Bytes) :
    Proc.Step process (input ++ further) next (left ++ further) output := by
  cases hstep with
  | note event => exact .note event _ _
  | write => exact .write _ _ _
  | read bytes next =>
    rw [append_assoc]
    exact .read bytes next _

/-- Two processes and the bytes in flight between them. -/
structure Duplex (κ ε α β : Type) where
  left : Proc κ ε α
  right : Proc κ ε β
  toRight : Bytes
  toLeft : Bytes

namespace Duplex

/-- One of the two processes moves. -/
inductive Step : Duplex κ ε α β → Duplex κ ε α β → Prop
  | left {process next : Proc κ ε α} {right : Proc κ ε β} {toRight toLeft rest output : Bytes}
      (hstep : Proc.Step process toLeft next rest output) :
      Step ⟨process, right, toRight, toLeft⟩ ⟨next, right, toRight ++ output, rest⟩
  | right {left : Proc κ ε α} {process next : Proc κ ε β} {toRight toLeft rest output : Bytes}
      (hstep : Proc.Step process toRight next rest output) :
      Step ⟨left, process, toRight, toLeft⟩ ⟨left, next, rest, toLeft ++ output⟩

lemma step_diamond : Diamond (Step : Duplex κ ε α β → Duplex κ ε α β → Prop) := by
  intro state first second hfirst hsnd
  cases hfirst with
  | left hleft =>
    cases hsnd with
    | left hother =>
      obtain ⟨rfl, rfl, rfl⟩ := hleft.unique hother
      exact .inl rfl
    | right hright => exact .inr ⟨_, .right (hright.more _), .left (hleft.more _)⟩
  | right hright =>
    cases hsnd with
    | left hleft => exact .inr ⟨_, .left (hleft.more _), .right (hright.more _)⟩
    | right hother =>
      obtain ⟨rfl, rfl, rfl⟩ := hright.unique hother
      exact .inl rfl

def start (left : Proc κ ε α) (right : Proc κ ε β) : Duplex κ ε α β := ⟨left, right, [], []⟩

def ended (first : Except ε α) (second : Except ε β) : Duplex κ ε α β :=
  ⟨.done first, .done second, [], []⟩

variable {toRight toLeft : Bytes}

lemma not_step_ended {first : Except ε α} {second : Except ε β}
    (next : Duplex κ ε α β) : ¬ Step ⟨.done first, .done second, toRight, toLeft⟩ next := by
  intro hstep
  cases hstep with
  | left hside => cases hside
  | right hside => cases hside

variable {state : Duplex κ ε α β}

lemma left_of_reaches {result : Except ε α} {right : Proc κ ε β}
    (hreaches : Relation.ReflTransGen Step ⟨.done result, right, toRight, toLeft⟩ state) :
    state.left = .done result := by
  induction hreaches with
  | refl => rfl
  | tail _ hstep ih =>
    cases hstep with
    | left hside =>
      cases ih
      cases hside
    | right => exact ih

def swap (state : Duplex κ ε α β) : Duplex κ ε β α :=
  ⟨state.right, state.left, state.toLeft, state.toRight⟩

lemma Step.swap {next : Duplex κ ε α β} (hstep : Step state next) : Step state.swap next.swap := by
  cases hstep with
  | left hside => exact .right hside
  | right hside => exact .left hside

end Duplex

/-! ### One side of a conversation -/

/-- Which way a byte goes, as one side sees it. -/
inductive Direction
  | outbound
  | inbound
  deriving DecidableEq

def Direction.flip : Direction → Direction
  | .outbound => .inbound
  | .inbound => .outbound

/-- The bytes on the wire, in order, as one side sees them. -/
abbrev Script := List (Direction × UInt8)

def sending (bytes : Bytes) : Script := bytes.map (Direction.outbound, ·)

def receiving (bytes : Bytes) : Script := bytes.map (Direction.inbound, ·)

def mirror (script : Script) : Script := script.map fun entry ↦ (entry.1.flip, entry.2)

@[simp] lemma receiving_nil : receiving [] = [] := rfl

@[simp] lemma sending_append (first second : Bytes) :
    sending (first ++ second) = sending first ++ sending second := map_append

@[simp] lemma receiving_append (first second : Bytes) :
    receiving (first ++ second) = receiving first ++ receiving second := map_append

@[simp] lemma mirror_append (first second : Script) : mirror (first ++ second) = mirror first ++
    mirror second := map_append

@[simp] lemma mirror_sending (bytes : Bytes) : mirror (sending bytes) = receiving bytes := by
  rw [mirror, sending, map_map]
  rfl

@[simp] lemma mirror_receiving (bytes : Bytes) : mirror (receiving bytes) = sending bytes := by
  rw [mirror, receiving, map_map]
  rfl

@[simp] lemma mirror_mirror (script : Script) : mirror (mirror script) = script := by
  induction script with
  | nil => rfl
  | cons entry rest ih =>
    obtain ⟨direction, octet⟩ := entry
    cases direction <;> exact congrArg _ ih

def wire : List (Event κ) → Script
  | [] => []
  | .received bytes :: rest => receiving bytes ++ wire rest
  | .sent bytes :: rest => sending bytes ++ wire rest
  | .readFailed _ :: rest => wire rest
  | .writeFailed _ :: rest => wire rest
  | .noted _ :: rest => wire rest

lemma wire_append (first second : List (Event κ)) : wire (first ++ second) = wire first ++
    wire second := by
  induction first with
  | nil => rfl
  | cons event rest ih => cases event <;> simp [wire, ih]

/-- No read and no write of the trace fails. -/
def Reliable (trace : List (Event κ)) : Prop :=
  ∀ event ∈ trace, (∀ text, event ≠ .readFailed text) ∧ ∀ text, event ≠ .writeFailed text

lemma Reliable.of_cons {event : Event κ} {rest : List (Event κ)} (hrel : Reliable (event :: rest)) :
    Reliable rest :=
  (forall_mem_cons.mp hrel).2

instance (event : Event κ) : Decidable ((∀ text, event ≠ .readFailed text) ∧ ∀ text,
    event ≠ .writeFailed text) :=
  match event with
  | .readFailed text => .isFalse fun hnever ↦ hnever.1 text rfl
  | .writeFailed text => .isFalse fun hnever ↦ hnever.2 text rfl
  | .sent _ | .received _ | .noted _ => .isTrue ⟨nofun, nofun⟩

instance (trace : List (Event κ)) : Decidable (Reliable trace) := by
  unfold Reliable
  infer_instance

/-- A process ends, well or not, over a reliable wire with the bytes of a script. -/
def Concludes (process : Proc κ ε α) (script : Script) (result : Except ε α) : Prop :=
  ∃ trace, Runs process trace result ∧ Reliable trace ∧ wire trace = script

/-- A process ends with a value over a reliable wire with the bytes of a script. -/
def Talks (process : Proc κ ε α) (script : Script) (value : α) : Prop :=
  ∃ trace, Runs process trace (.ok value) ∧ Reliable trace ∧ wire trace = script

section Talks

variable {script : Script} {process : Proc κ ε α} {value : α}

lemma Talks.concludes (htalks : Talks process script value) :
    Concludes process script (.ok value) := htalks

lemma Talks.pure (value : α) : Talks (pure value : Proc κ ε α) [] value :=
  ⟨[], .done _, by simp [Reliable], rfl⟩

variable {computation : Except ε α}

lemma Talks.check (hval : computation = .ok value) : Talks (Proc.check computation : Proc κ ε α)
    [] value := by
  subst hval
  exact .pure value

lemma Talks.record (event : κ) : Talks (Proc.record event : Proc κ ε Unit) [] () :=
  ⟨[.noted event], runs_record_ok.mpr rfl, by simp [Reliable], rfl⟩

variable (wrap : String → ε)

lemma Talks.writeAll (bytes : Bytes) : Talks (Proc.writeAll wrap bytes : Proc κ ε Unit)
    (sending bytes) () :=
  ⟨[.sent bytes], runs_writeAll_ok.mpr rfl, by simp [Reliable], append_nil _⟩

variable {count : ℕ}

lemma Talks.readExact {bytes : Bytes} (hcount : bytes.length = count) :
    Talks (Proc.readExact wrap count : Proc κ ε Bytes) (receiving bytes) bytes :=
  ⟨[.received bytes], runs_readExact_ok.mpr ⟨hcount, rfl⟩, by simp [Reliable], append_nil _⟩

variable {first : Proc κ ε α} {next : α → Proc κ ε β} {result : Except ε β} {before after : Script}

lemma Talks.concludes_bind (hfirst : Talks first before value)
    (hnext : Concludes (next value) after result) : Concludes (first >>= next)
    (before ++ after) result := by
  obtain ⟨trace, hrun, hrel, rfl⟩ := hfirst
  obtain ⟨further, hrun', hreliable', rfl⟩ := hnext
  refine ⟨trace ++ further, hrun.bind hrun', ?_, wire_append _ _⟩
  intro event hmem
  rcases mem_append.mp hmem with hmem | hmem
  · exact hrel event hmem
  · exact hreliable' event hmem

lemma Talks.bind {result : β} (hfirst : Talks first before value)
    (hnext : Talks (next value) after result) : Talks (first >>= next) (before ++ after) result :=
  hfirst.concludes_bind hnext.concludes

lemma Talks.last {result : β} (hfirst : Talks first script value)
    (hnext : Talks (next value) [] result) :
    Talks (first >>= next) script result := by
  rw [← append_nil script]
  exact .bind hfirst hnext

lemma Talks.check_bind {result : β} (hval : computation = .ok value)
    (hnext : Talks (next value) script result) :
    Talks (Proc.check computation >>= next) script result := by
  subst hval
  exact hnext

lemma Talks.silent_bind {result : β} (hfirst : Talks first [] value)
    (hnext : Talks (next value) script result) :
    Talks (first >>= next) script result :=
  .bind hfirst hnext

lemma Talks.record_bind (event : κ) {next : Unit → Proc κ ε β} {result : β}
    (hnext : Talks (next ()) script result) : Talks (Proc.record event >>= next) script result :=
  .silent_bind (.record event) hnext

lemma Talks.attempt {ε' : Type} (htalks : Talks process script value) :
    Talks (process.attempt : Proc κ ε' (Except ε α)) script (.ok value) := by
  obtain ⟨trace, hrun, hrel, hwire⟩ := htalks
  exact ⟨trace, runs_attempt.mpr hrun, hrel, hwire⟩

lemma Talks.forM_writeAll (parts : List Bytes) :
    Talks (parts.forM (Proc.writeAll wrap) : Proc κ ε Unit) (sending parts.flatten) () := by
  induction parts with
  | nil => exact .pure ()
  | cons part rest ih =>
    rw [flatten_cons, sending_append]
    exact .bind (.writeAll wrap part) ih

def inbound (script : Script) : Bytes :=
  script.filterMap fun entry ↦ if entry.1 = .inbound then some entry.2 else none

@[simp] lemma inbound_append (first second : Script) :
    inbound (first ++ second) = inbound first ++ inbound second := filterMap_append

variable (bytes : Bytes)

@[simp] lemma inbound_receiving : inbound (receiving bytes) = bytes := by
  rw [inbound, receiving, filterMap_map]
  exact filterMap_some

@[simp] lemma inbound_sending : inbound (sending bytes) = [] := by
  rw [inbound, sending, filterMap_map]
  exact filterMap_eq_nil_iff.mpr fun _ _ ↦ rfl

def outbound (script : Script) : Bytes :=
  script.filterMap fun entry ↦ if entry.1 = .outbound then some entry.2 else none

@[simp] lemma outbound_append (first second : Script) :
    outbound (first ++ second) = outbound first ++ outbound second := filterMap_append

@[simp] lemma outbound_sending : outbound (sending bytes) = bytes := by
  rw [outbound, sending, filterMap_map]
  exact filterMap_some

@[simp] lemma outbound_receiving : outbound (receiving bytes) = [] := by
  rw [outbound, receiving, filterMap_map]
  exact filterMap_eq_nil_iff.mpr fun _ _ ↦ rfl

variable {left right : Bytes}

lemma Concludes.unique {first second : Script} {result other : Except ε α}
    (hfirst : Concludes process first result) (hsnd : Concludes process second other)
    (hin : inbound first ++ left = inbound second ++ right) :
    first = second ∧ result = other := by
  obtain ⟨trace, hrun, hrel, rfl⟩ := hfirst
  obtain ⟨further, hrun', hreliable', rfl⟩ := hsnd
  induction hrun generalizing further with
  | done result =>
    obtain ⟨rfl, rfl⟩ := runs_done_iff.mp hrun'
    exact ⟨rfl, rfl⟩
  | received bytes _ ih =>
    generalize hcount : bytes.length = count at hrun'
    cases hrun' with
    | received others hrest =>
      simp only [wire, inbound_append, inbound_receiving, append_assoc] at hin
      obtain ⟨rfl, hafter⟩ := append_inj hin hcount
      obtain ⟨hwire, hother⟩ := ih hrel.of_cons _ hrest hreliable'.of_cons hafter
      exact ⟨congrArg (receiving bytes ++ ·) hwire, hother⟩
    | readFailed text => exact absurd rfl ((hreliable' _ mem_cons_self).1 text)
  | readFailed text => exact absurd rfl ((hrel _ mem_cons_self).1 text)
  | sent bytes _ ih =>
    cases hrun' with
    | sent _ hrest =>
      simp only [wire, inbound_append, inbound_sending, nil_append] at hin
      obtain ⟨hwire, hother⟩ := ih hrel.of_cons _ hrest hreliable'.of_cons hin
      exact ⟨congrArg (sending bytes ++ ·) hwire, hother⟩
    | writeFailed text => exact absurd rfl ((hreliable' _ mem_cons_self).2 text)
  | writeFailed text => exact absurd rfl ((hrel _ mem_cons_self).2 text)
  | noted event _ ih =>
    cases hrun' with
    | @noted _ rest _ _ hrest => exact ih hrel.of_cons rest hrest hreliable'.of_cons hin

variable {other : α}

lemma Talks.unique {first second : Script}
    (hfirst : Talks process first value) (hsnd : Talks process second other)
    (hin : inbound first ++ left = inbound second ++ right) :
    first = second ∧ value = other := by
  obtain ⟨hscript, hval⟩ := hfirst.concludes.unique hsnd.concludes hin
  exact ⟨hscript, Except.ok.inj hval⟩

lemma Reliable.of_append {first second : List (Event κ)} (hrel : Reliable (first ++ second)) :
    Reliable first ∧ Reliable second :=
  ⟨fun event hmem ↦ hrel event (mem_append_left _ hmem),
    fun event hmem ↦ hrel event (mem_append_right _ hmem)⟩

lemma Concludes.of_bind (hconc : Concludes (first >>= next) script result) :
    (∃ error, result = .error error ∧ Concludes first script (.error error)) ∨
      ∃ value before after, script = before ++ after ∧ Talks first before value ∧
      Concludes (next value) after result := by
  obtain ⟨trace, hrun, hrel, rfl⟩ := hconc
  rcases runs_bind.mp hrun with ⟨error, rfl, hfirst⟩ | ⟨value, before, after, rfl, hfirst, hnext⟩
  · exact .inl ⟨error, rfl, trace, hfirst, hrel, rfl⟩
  · exact .inr ⟨value, _, _, wire_append before after, ⟨before, hfirst, hrel.of_append.1, rfl⟩,
      after, hnext, hrel.of_append.2, rfl⟩

lemma Concludes.bind_error {error : ε} (hfirst : Concludes first script (.error error))
    (next : α → Proc κ ε β) :
    Concludes (first >>= next) script (.error error) := by
  obtain ⟨trace, hrun, hrel, hwire⟩ := hfirst
  exact ⟨trace, hrun.bind_error next, hrel, hwire⟩

lemma concludes_done_iff {final result : Except ε α} :
    Concludes (.done final : Proc κ ε α) script result ↔ script = [] ∧ result = final := by
  constructor
  · rintro ⟨trace, hrun, -, rfl⟩
    obtain ⟨rfl, rfl⟩ := runs_done_iff.mp hrun
    exact ⟨rfl, rfl⟩
  · rintro ⟨rfl, rfl⟩
    exact ⟨[], .done _, by simp [Reliable], rfl⟩

lemma Concludes.of_readExact {wrap : String → ε} {result : Except ε Bytes}
    (hconc : Concludes (Proc.readExact wrap count : Proc κ ε Bytes) script result) :
    ∃ bytes, bytes.length = count ∧ script = receiving bytes ∧ result = .ok bytes := by
  obtain ⟨trace, hrun, hrel, rfl⟩ := hconc
  cases hrun with
  | received bytes hrest =>
    obtain ⟨rfl, rfl⟩ := runs_done_iff.mp hrest
    exact ⟨bytes, rfl, append_nil _, rfl⟩
  | readFailed text => exact absurd rfl ((hrel _ mem_cons_self).1 text)

lemma Concludes.of_readExact_bind {wrap : String → ε} {next : Bytes → Proc κ ε β}
    (hconc : Concludes (Proc.readExact wrap count >>= next) script result) :
    ∃ bytes after, bytes.length = count ∧ script = receiving bytes ++ after ∧
    Concludes (next bytes) after result := by
  rcases hconc.of_bind with ⟨error, -, hfirst⟩ | ⟨value, before, after, rfl, hfirst, hnext⟩
  · obtain ⟨bytes, -, -, hok⟩ := hfirst.of_readExact
    cases hok
  obtain ⟨bytes, hcount, rfl, hok⟩ := hfirst.concludes.of_readExact
  cases hok
  exact ⟨value, after, hcount, rfl, hnext⟩

lemma Concludes.of_check_bind (hconc : Concludes (Proc.check computation >>= next) script result) :
    (∃ error, computation = .error error ∧ result = .error error ∧ script = []) ∨
      ∃ value, computation = .ok value ∧ Concludes (next value) script result := by
  cases computation with
  | error error =>
    obtain ⟨hscript, hres⟩ := concludes_done_iff.mp hconc
    exact .inl ⟨error, rfl, hres, hscript⟩
  | ok value => exact .inr ⟨value, rfl, hconc⟩

lemma talks_bind_iff {result : β} : Talks (first >>= next) script result ↔ ∃ value before after,
    script = before ++ after ∧
      Talks first before value ∧ Talks (next value) after result := by
  constructor
  · intro htalks
    rcases htalks.concludes.of_bind with ⟨error, herror, -⟩ | ⟨value, before, after,
      rfl, hfirst, hnext⟩
    · cases herror
    · exact ⟨value, before, after, rfl, hfirst, hnext⟩
  · rintro ⟨value, before, after, rfl, hfirst, hnext⟩
    exact .bind hfirst hnext

@[simp] lemma talks_check_bind_iff {result : β} :
    Talks (Proc.check computation >>= next) script result ↔
      ∃ value, computation = .ok value ∧ Talks (next value) script result := by
  constructor
  · intro htalks
    rcases htalks.concludes.of_check_bind with ⟨error, -, herror, -⟩ | ⟨value, hval, hnext⟩
    · cases herror
    · exact ⟨value, hval, hnext⟩
  · rintro ⟨value, hval, hnext⟩
    exact .check_bind hval hnext

@[simp] lemma talks_pure_iff {result : α} : Talks (pure value : Proc κ ε α) script result ↔
    script = [] ∧ result = value :=
  concludes_done_iff.trans (by rw [Except.ok.injEq])

lemma receiving_injective : Function.Injective receiving :=
  map_injective_iff.mpr fun _ _ heq ↦ (Prod.mk.inj heq).2

lemma sending_injective : Function.Injective sending :=
  map_injective_iff.mpr fun _ _ heq ↦ (Prod.mk.inj heq).2

lemma Talks.unique_sending {bytes others : Bytes}
    (hfirst : Talks process (sending bytes) value) (hsnd : Talks process (sending others) other) :
    bytes = others ∧ value = other := by
  have hin : inbound (sending bytes) ++ [] = inbound (sending others) ++ [] := by
    rw [inbound_sending, inbound_sending]
  obtain ⟨hscript, hval⟩ := hfirst.unique hsnd hin
  exact ⟨sending_injective hscript, hval⟩

lemma Talks.unique_receiving {bytes others : Bytes} (hfirst : Talks process (receiving bytes) value)
    (hsnd : Talks process (receiving others) other) (hwire : bytes ++ left = others ++ right) :
    bytes = others ∧ value = other := by
  have hin : inbound (receiving bytes) ++ left = inbound (receiving others) ++ right := by
    rw [inbound_receiving, inbound_receiving, hwire]
  obtain ⟨hscript, hval⟩ := hfirst.unique hsnd hin
  exact ⟨receiving_injective hscript, hval⟩

lemma not_talks_error {error : ε} : ¬ Talks (.done (.error error) : Proc κ ε α) script value := by
  rintro ⟨trace, hrun, -, -⟩
  cases (runs_done_iff.mp hrun).2

end Talks

/-- The process writes nothing. -/
def ReadsOnly (process : Proc κ ε α) : Prop :=
  ∀ script result, Concludes process script result → outbound script = []

lemma ReadsOnly.done (result : Except ε α) : ReadsOnly (.done result : Proc κ ε α) := by
  intro script other hconc
  obtain ⟨rfl, -⟩ := concludes_done_iff.mp hconc
  rfl

lemma ReadsOnly.record (event : κ) : ReadsOnly (Proc.record event : Proc κ ε Unit) := by
  rintro script result ⟨trace, hrun, -, rfl⟩
  cases hrun with
  | noted _ hrest =>
    obtain ⟨rfl, -⟩ := runs_done_iff.mp hrest
    rfl

lemma ReadsOnly.readExact (wrap : String → ε) (count : ℕ) :
    ReadsOnly (Proc.readExact wrap count : Proc κ ε Bytes) := by
  intro script result hconc
  obtain ⟨bytes, -, rfl, -⟩ := hconc.of_readExact
  exact outbound_receiving bytes

lemma ReadsOnly.bind {first : Proc κ ε α} {next : α → Proc κ ε β} (hfirst : ReadsOnly first)
    (hnext : ∀ value, ReadsOnly (next value)) : ReadsOnly (first >>= next) := by
  intro script result hconc
  rcases hconc.of_bind with ⟨error, -, herror⟩ | ⟨value, before, after, rfl, hbefore, hafter⟩
  · exact hfirst _ _ herror
  · rw [outbound_append, hfirst _ _ hbefore.concludes, hnext value _ _ hafter, append_nil]

variable {rest further : Script}

lemma receiving_append_eq {bytes pending : Bytes}
    (heq : receiving bytes ++ rest = receiving pending ++ further) :
    (∃ more, pending = bytes ++ more ∧ rest = receiving more ++ further) ∨
      ∃ more, bytes = pending ++ more ∧ further = receiving more ++ rest := by
  obtain ⟨script, hfirst, hsnd⟩ | ⟨script, hfirst, hsnd⟩ := append_eq_append_iff.mp heq
  · obtain ⟨first, more, rfl, hbytes, rfl⟩ := map_eq_append_iff.mp hfirst
    exact .inl ⟨more, by rw [receiving_injective hbytes], hsnd⟩
  · obtain ⟨first, more, rfl, hpend, rfl⟩ := map_eq_append_iff.mp hfirst
    exact .inr ⟨more, by rw [receiving_injective hpend], hsnd⟩

lemma eq_nil_of_receiving_append_eq_sending {pending : Bytes} {bytes : Bytes}
    (heq : sending bytes ++ rest = receiving pending ++ further) : bytes = [] ∨ pending = [] := by
  cases bytes with
  | nil => exact .inl rfl
  | cons octet tail =>
    cases pending with
    | nil => exact .inr rfl
    | cons other others => cases (cons.inj heq).1

lemma eq_mirror_of_mirror_eq {first second : Script} (heq : mirror first = second) :
    first = mirror second := by
  rw [← heq, mirror_mirror]

lemma reaches_ended_of_dual (bound : ℕ) : ∀ {α β : Type} {left : Proc κ ε α} {right : Proc κ ε β}
    {first : α} {second : β}
      {leftTrace rightTrace : List (Event κ)} {pending : Bytes},
      leftTrace.length + rightTrace.length ≤ bound → Runs left leftTrace (.ok first) →
      Reliable leftTrace → Runs right rightTrace (.ok second) → Reliable rightTrace →
      wire rightTrace = receiving pending ++ mirror (wire leftTrace) →
      Relation.ReflTransGen Duplex.Step ⟨left, right, pending, []⟩
      (Duplex.ended (.ok first) (.ok second)) := by
  -- by induction on the number of events that are left, since either side may move
  induction bound with
  | zero =>
    intro α β left right first second leftTrace rightTrace pending hbound hleft _ hright _ hwire
    obtain rfl : leftTrace = [] := eq_nil_of_length_eq_zero (by omega)
    obtain rfl : rightTrace = [] := eq_nil_of_length_eq_zero (by omega)
    cases hleft
    cases hright
    obtain ⟨hpend, -⟩ := append_eq_nil_iff.mp hwire.symm
    obtain rfl := map_eq_nil_iff.mp hpend
    exact .refl
  | succ bound ih =>
    intro α β left right first second leftTrace rightTrace pending hbound hleft hleftRel
      hright hrightRel hwire
    -- the first side moves, unless it waits for bytes
    have hacts : (∀ octet rest, wire leftTrace ≠ (.inbound, octet) :: rest) →
        (leftTrace = [] → Relation.ReflTransGen Duplex.Step ⟨left, right, pending, []⟩
          (Duplex.ended (.ok first) (.ok second))) →
        Relation.ReflTransGen Duplex.Step ⟨left, right, pending, []⟩
          (Duplex.ended (.ok first) (.ok second)) := by
      intro hfree hend
      cases hleft with
      | done => exact hend rfl
      | noted event hrest =>
        refine .head (.left (.note event _ _)) ?_
        rw [append_nil]
        exact ih (by rw [length_cons] at hbound; omega) hrest hleftRel.of_cons
          hright hrightRel hwire
      | sent bytes hrest =>
        refine .head (.left (.write bytes _ _)) ?_
        refine ih (by rw [length_cons] at hbound; omega) hrest hleftRel.of_cons hright hrightRel ?_
        rw [hwire, wire, mirror_append, mirror_sending, receiving_append, append_assoc]
      | received bytes hrest =>
        cases bytes with
        | nil =>
          refine .head (.left (.read [] _ _)) ?_
          rw [append_nil]
          exact ih (by rw [length_cons] at hbound; omega) hrest hleftRel.of_cons
            hright hrightRel hwire
        | cons octet tail => exact absurd rfl (hfree octet _)
      | readFailed text => exact absurd rfl ((hleftRel _ mem_cons_self).1 text)
      | writeFailed text => exact absurd rfl ((hleftRel _ mem_cons_self).2 text)
    cases hright with
    | done =>
      obtain ⟨hpend, hmirror⟩ := append_eq_nil_iff.mp hwire.symm
      obtain rfl := map_eq_nil_iff.mp hpend
      have hsilent : wire leftTrace = [] := map_eq_nil_iff.mp hmirror
      refine hacts (fun octet rest ↦ by simp [hsilent]) fun hnil ↦ ?_
      subst hnil
      cases hleft
      exact .refl
    | noted event hrest =>
      refine .head (.right (.note event _ _)) ?_
      exact ih (by rw [length_cons] at hbound; omega) hleft hleftRel hrest hrightRel.of_cons hwire
    | @sent next rest _ bytes hrest =>
      refine .head (.right (.write bytes _ _)) ?_
      obtain rfl | rfl := eq_nil_of_receiving_append_eq_sending hwire
      · exact ih (by rw [length_cons] at hbound; omega) hleft hleftRel hrest hrightRel.of_cons hwire
      -- now the second side is ahead
      have hback : wire leftTrace = receiving bytes ++ mirror (wire rest) := by
        rw [eq_mirror_of_mirror_eq hwire.symm, wire, mirror_append, mirror_sending]
      exact lift Duplex.swap (fun _ _ ↦ Duplex.Step.swap) _ _
        (ih (by rw [length_cons] at hbound; omega) hrest hrightRel.of_cons hleft hleftRel hback)
    | @received next rest _ bytes hrest =>
      obtain ⟨more, rfl, hmore⟩ | ⟨more, rfl, hmore⟩ := receiving_append_eq hwire
      · refine .head (.right (.read bytes _ _)) ?_
        exact ih (by rw [length_cons] at hbound; omega) hleft hleftRel hrest hrightRel.of_cons hmore
      -- what is in flight is not enough for the read, so the first side has more to send
      have hahead : wire leftTrace = sending more ++ mirror (wire rest) := by
        rw [eq_mirror_of_mirror_eq hmore, mirror_append, mirror_receiving]
      cases more with
      | nil =>
        have hstep : Proc.Step (.read pending.length next) (pending ++ [])
          (next (.ok pending)) [] [] :=
          .read _ _ _
        rw [append_nil] at hstep hrest ⊢
        refine .head (.right hstep) ?_
        exact ih (by rw [length_cons] at hbound; omega) hleft hleftRel hrest
          hrightRel.of_cons hmore.symm
      | cons octet tail =>
        refine hacts (fun other others ↦ ?_) fun hnil ↦ ?_
        · rw [hahead]
          exact fun heq ↦ Direction.noConfusion (Prod.mk.inj (cons.inj heq).1).1
        · rw [hnil] at hahead
          cases hahead
    | readFailed text => exact absurd rfl ((hrightRel _ mem_cons_self).1 text)
    | writeFailed text => exact absurd rfl ((hrightRel _ mem_cons_self).2 text)

variable {first : α} {left : Proc κ ε α} {right : Proc κ ε β} {script : Script} {second : β}

lemma reaches_of_talks (hleft : Talks left script first)
    (hright : Talks right (mirror script) second) :
    Relation.ReflTransGen Duplex.Step (Duplex.start left right)
    (Duplex.ended (.ok first) (.ok second)) := by
  obtain ⟨leftTrace, hleftRun, hleftRel, rfl⟩ := hleft
  obtain ⟨rightTrace, hrightRun, hrightRel, hwire⟩ := hright
  exact reaches_ended_of_dual _ le_rfl hleftRun hleftRel hrightRun hrightRel hwire

lemma inevitably_of_talks (hleft : Talks left script first)
    (hright : Talks right (mirror script) second) :
    Inevitably Duplex.Step (· = Duplex.ended (.ok first) (.ok second)) (Duplex.start left right) :=
  inevitably_of_reaches Duplex.step_diamond Duplex.not_step_ended (reaches_of_talks hleft hright)

lemma Proc.Step.concludes {left : Bytes} (hstep : Proc.Step process input next left output)
    {result : Except ε α}
    (hnext : Concludes next script result) :
    ∃ whole consumed, Concludes process whole result ∧ input = consumed ++ left ∧
      inbound whole = consumed ++ inbound script ∧ outbound whole = output ++ outbound script := by
  obtain ⟨trace, hrun, hrel, rfl⟩ := hnext
  have hextends {event : Event κ} (hread : ∀ text, event ≠ .readFailed text)
      (hwrite : ∀ text, event ≠ .writeFailed text) : Reliable (event :: trace) := by
    intro other hmem
    rcases mem_cons.mp hmem with rfl | hmem
    · exact ⟨hread, hwrite⟩
    · exact hrel other hmem
  cases hstep with
  | note event =>
    exact ⟨_, [], ⟨.noted event :: trace, .noted event hrun, hextends (by simp) (by simp), rfl⟩,
      rfl, rfl, rfl⟩
  | write bytes =>
    refine ⟨_, [], ⟨.sent output :: trace, .sent output hrun, hextends (by simp) (by simp), rfl⟩,
      rfl, ?_, ?_⟩
    · rw [wire, inbound_append, inbound_sending]
    · rw [wire, outbound_append, outbound_sending]
  | read bytes =>
    refine ⟨_, bytes, ⟨.received bytes :: trace, .received bytes hrun, hextends (by simp) (by simp),
      rfl⟩, rfl, ?_, ?_⟩
    · rw [wire, inbound_append, inbound_receiving]
    · rw [wire, outbound_append, outbound_receiving]

variable {state : Duplex κ ε α β} {toRight toLeft : Bytes}

lemma exists_concludes_of_reaches {first : Except ε α} {second : Except ε β}
    (hreaches : Relation.ReflTransGen Duplex.Step state ⟨.done first, .done second,
    toRight, toLeft⟩) :
    ∃ script other, Concludes state.left script first ∧ Concludes state.right other second ∧
      state.toRight ++ outbound script = inbound other ++ toRight ∧
        state.toLeft ++ outbound other = inbound script ++ toLeft := by
  induction hreaches using head_induction_on with
  | refl =>
    exact ⟨[], [], concludes_done_iff.mpr ⟨rfl, rfl⟩, concludes_done_iff.mpr ⟨rfl, rfl⟩,
      append_nil _, append_nil _⟩
  | head hstep _ ih =>
    obtain ⟨script, other, hleft, hright, htoRight, htoLeft⟩ := ih
    cases hstep with
    | left hside =>
      obtain ⟨whole, consumed, hwhole, hinput, hin, houtbound⟩ := hside.concludes hleft
      refine ⟨whole, other, hwhole, hright, ?_, ?_⟩
      · rw [houtbound, ← append_assoc]
        exact htoRight
      · rw [hin, append_assoc, ← htoLeft, ← append_assoc]
        exact congrArg (· ++ outbound other) hinput
    | right hside =>
      obtain ⟨whole, consumed, hwhole, hinput, hin, houtbound⟩ := hside.concludes hright
      refine ⟨script, whole, hleft, hwhole, ?_, ?_⟩
      · rw [hin, append_assoc, ← htoRight, ← append_assoc]
        exact congrArg (· ++ outbound script) hinput
      · rw [houtbound, ← append_assoc]
        exact htoLeft

lemma not_inevitably_of_left_error {goal : Duplex κ ε α β → Prop}
    (hgoal : ∀ state, goal state → ∃ first second, state = Duplex.ended (.ok first) (.ok second))
    {error : ε}
    (hreaches : Relation.ReflTransGen Duplex.Step state ⟨.done (.error error), right,
    toRight, toLeft⟩) :
    ¬ Inevitably Duplex.Step goal state := by
  intro hstate
  have hfinal : ∀ state, goal state → ∀ next, ¬ Duplex.Step state next := by
    intro state hstate next
    obtain ⟨first, second, rfl⟩ := hgoal state hstate
    exact Duplex.not_step_ended next
  obtain ⟨reached, hrest, hreach⟩ := (hstate.after hfinal hreaches).exists_reaches
  obtain ⟨first, second, rfl⟩ := hgoal reached hreach
  cases Duplex.left_of_reaches hrest

end GmStack.Foundation
