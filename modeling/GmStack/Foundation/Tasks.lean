import Mathlib.Data.Set.Basic

/-! A call performs operations on an object that other calls share; in a step of a `Pool` one call
has its operation performed. -/

namespace GmStack.Foundation

variable {Op : Type} {Answer : Op → Type} {ε α β : Type}

/-- A call: what it awaits and how it goes on with the answer, or its result. -/
inductive Task (Op : Type) (Answer : Op → Type) (ε α : Type) : Type
  | done (result : Except ε α)
  | await (op : Op) (next : Answer op → Task Op Answer ε α)

namespace Task

def bind : Task Op Answer ε α → (α → Task Op Answer ε β) → Task Op Answer ε β
  | .done (.error e), _ => .done (.error e)
  | .done (.ok value), rest => rest value
  | .await op next, rest => .await op fun answer ↦ (next answer).bind rest

instance : Monad (Task Op Answer ε) where
  pure value := .done (.ok value)
  bind := bind

def ask (op : Op) : Task Op Answer ε (Answer op) := .await op fun answer ↦ .done (.ok answer)

def check (computation : Except ε α) : Task Op Answer ε α := .done computation

def answered (answer : (op : Op) → Answer op) : Task Op Answer ε α → Except ε α
  | .done result => result
  | .await op next => (next (answer op)).answered answer

def alone {σ : Type} (perform : σ → (op : Op) → Answer op × σ) : Task Op Answer ε α →
    σ → Except ε α × σ
  | .done result, state => (result, state)
  | .await op next, state => (next (perform state op).1).alone perform (perform state op).2

@[simp] lemma check_ok_bind (value : α) (rest : α → Task Op Answer ε β) :
    (check (.ok value) >>= rest) = rest value := rfl

@[simp] lemma check_error_bind (e : ε) (rest : α → Task Op Answer ε β) :
    (check (.error e) >>= rest) = .done (.error e) := rfl

@[simp] lemma ask_bind (op : Op) (rest : Answer op → Task Op Answer ε β) :
    (ask op >>= rest) = .await op rest := rfl

section

variable (answer : (op : Op) → Answer op)

@[simp] lemma answered_check (computation : Except ε α) : (check computation).answered answer =
    computation := rfl

lemma answered_bind (call : Task Op Answer ε α) (rest : α → Task Op Answer ε β) :
    (call >>= rest).answered answer = call.answered answer >>= fun value ↦
    (rest value).answered answer := by
  induction call with
  | done result => cases result <;> rfl
  | await op next ih => exact ih (answer op)

end

/-! ### Paths -/

/-- An operation with its answer. -/
structure Exchange (Op : Type) (Answer : Op → Type) where
  op : Op
  answer : Answer op

/-- The operations a call has performed with some answers, and what is left of the call. -/
inductive Path : Task Op Answer ε α → List (Exchange Op Answer) → Task Op Answer ε α → Prop
  | nil (call : Task Op Answer ε α) : Path call [] call
  | cons {op : Op} {next : Answer op → Task Op Answer ε α} {answer : Answer op}
      {exchanges : List (Exchange Op Answer)} {rest : Task Op Answer ε α}
      (hnext : Path (next answer) exchanges rest) : Path (.await op next)
        (⟨op, answer⟩ :: exchanges) rest

section Paths

variable {call left : Task Op Answer ε α} {exchanges : List (Exchange Op Answer)}

lemma path_done {result : Except ε α} : Path (.done result) exchanges left ↔ exchanges = [] ∧
    left = .done result := by
  constructor
  · intro hpath
    cases hpath
    exact ⟨rfl, rfl⟩
  · rintro ⟨rfl, rfl⟩
    exact .nil _

lemma path_await {op : Op} {next : Answer op → Task Op Answer ε α} :
    Path (.await op next) exchanges left ↔ (exchanges = [] ∧ left = .await op next) ∨
      ∃ answer later, exchanges = ⟨op, answer⟩ :: later ∧ Path (next answer) later left := by
  constructor
  · intro hpath
    cases hpath with
    | nil => exact .inl ⟨rfl, rfl⟩
    | cons hnext => exact .inr ⟨_, _, rfl, hnext⟩
  rintro (⟨rfl, rfl⟩ | ⟨answer, later, rfl, hnext⟩)
  · exact .nil _
  · exact .cons hnext

variable {rest : α → Task Op Answer ε β}

lemma path_bind {left : Task Op Answer ε β} : Path (call >>= rest) exchanges left ↔
      (∃ first, Path call exchanges first ∧ left = (first >>= rest) ∧ ∀ value,
      first ≠ .done (.ok value)) ∨
        ∃ value earlier later, exchanges = earlier ++ later ∧
        Path call earlier (.done (.ok value)) ∧
          Path (rest value) later left := by
  induction call generalizing exchanges with
  | done result =>
    cases result with
    | error e =>
      rw [show ((done (.error e) : Task Op Answer ε α) >>= rest) = .done (.error e) from rfl]
      simp only [path_done]
      constructor
      · rintro ⟨rfl, rfl⟩
        exact .inl ⟨_, ⟨rfl, rfl⟩, rfl, fun _ hval ↦ by cases hval⟩
      rintro (⟨_, ⟨rfl, rfl⟩, rfl, -⟩ | ⟨_, _, _, _, ⟨_, hval⟩, _⟩)
      · exact ⟨rfl, rfl⟩
      · cases hval
    | ok value =>
      constructor
      · intro hpath
        exact .inr ⟨value, [], exchanges, rfl, .nil _, hpath⟩
      rintro (⟨_, hfirst, -, hopen⟩ | ⟨_, _, _, rfl, hfirst, hrest⟩)
      · exact absurd (path_done.mp hfirst).2 (hopen value)
      obtain ⟨rfl, hval⟩ := path_done.mp hfirst
      cases hval
      exact hrest
  | await op next ih =>
    rw [show ((await op next : Task Op Answer ε α) >>= rest) = .await op fun answer ↦
      next answer >>= rest from rfl]
    simp only [path_await]
    constructor
    · rintro (⟨rfl, rfl⟩ | ⟨answer, later, rfl, hpath⟩)
      · exact .inl ⟨_, .inl ⟨rfl, rfl⟩, rfl, fun _ hval ↦ by cases hval⟩
      rcases (ih answer).mp hpath with ⟨first, hfirst, rfl, hopen⟩ | ⟨value, earlier, later,
        rfl, hfirst, hrest⟩
      · exact .inl ⟨first, .inr ⟨answer, later, rfl, hfirst⟩, rfl, hopen⟩
      · exact .inr ⟨value, _, later, rfl, .inr ⟨answer, earlier, rfl, hfirst⟩, hrest⟩
    rintro (⟨first, (⟨rfl, rfl⟩ | ⟨answer, later, rfl, hfirst⟩), rfl, hopen⟩ |
      ⟨value, earlier, later, rfl, (⟨-, hval⟩ | ⟨answer, between, rfl, hfirst⟩), hrest⟩)
    · exact .inl ⟨rfl, rfl⟩
    · exact .inr ⟨answer, later, rfl, (ih answer).mpr (.inl ⟨first, hfirst, rfl, hopen⟩)⟩
    · cases hval
    · exact .inr ⟨answer, between ++ later, rfl,
        (ih answer).mpr (.inr ⟨value, between, later, rfl, hfirst, hrest⟩)⟩

lemma Path.through {left : Task Op Answer ε β} {value : α}
    {later : List (Exchange Op Answer)} (hcall : Path call exchanges (.done (.ok value)))
    (hrest : Path (rest value) later left) : Path (call >>= rest) (exchanges ++ later) left :=
  path_bind.mpr (.inr ⟨value, exchanges, later, rfl, hcall, hrest⟩)

lemma Path.within (hcall : Path call exchanges left) :
    Path (call >>= rest) exchanges (left >>= rest) := by
  induction hcall with
  | nil call => exact .nil _
  | cons hnext ih => exact .cons ih

end Paths

/-- As long as every answer is granted, the call performs permitted operations only, and its value
satisfies the postcondition. -/
def Obeys (permitted : Op → Prop) (granted : (op : Op) → Answer op → Prop) (post : α → Prop) :
    Task Op Answer ε α → Prop
  | .done result => ∀ value, result = .ok value → post value
  | .await op next => permitted op ∧ ∀ answer, granted op answer →
    (next answer).Obeys permitted granted post

section Obeys

variable {permitted : Op → Prop} {granted : (op : Op) → Answer op → Prop} {post : α → Prop}
  {final : β → Prop}

lemma Obeys.error (e : ε) :
    (.done (.error e) : Task Op Answer ε α).Obeys permitted granted post := by
  intro value hval
  cases hval

lemma Obeys.pure {value : α} (hpost : post value) :
    (pure value : Task Op Answer ε α).Obeys permitted granted post := by
  intro other hother
  cases hother
  exact hpost

lemma Obeys.check {computation : Except ε α}
    (hpost : ∀ value, computation = .ok value → post value) :
    (check computation : Task Op Answer ε α).Obeys permitted granted post := hpost

lemma Obeys.ask {op : Op} {post : Answer op → Prop} (hop : permitted op)
    (hpost : ∀ answer, granted op answer → post answer) :
    (ask op : Task Op Answer ε (Answer op)).Obeys permitted granted post :=
  ⟨hop, fun answer hans ↦ .pure (hpost answer hans)⟩

variable {call : Task Op Answer ε α}

variable (hcall : call.Obeys permitted granted post)

include hcall

lemma Obeys.bind {rest : α → Task Op Answer ε β}
    (hrest : ∀ value, post value → (rest value).Obeys permitted granted final) :
    (call >>= rest).Obeys permitted granted final := by
  induction call with
  | done result =>
    cases result with
    | error e => exact .error e
    | ok value => exact hrest value (hcall value rfl)
  | await op next ih => exact ⟨hcall.1, fun answer hans ↦ ih answer (hcall.2 answer hans)⟩

lemma Obeys.mono {allowed : Op → Prop} {weaker : α → Prop}
    (hallow : ∀ op, permitted op → allowed op)
    (hweaker : ∀ value, post value → weaker value) : call.Obeys allowed granted weaker := by
  induction call with
  | done result => exact fun value hval ↦ hweaker value (hcall value hval)
  | await op next ih =>
    exact ⟨hallow op hcall.1, fun answer hans ↦ ih answer (hcall.2 answer hans)⟩

lemma Obeys.path {left : Task Op Answer ε α} {exchanges : List (Exchange Op Answer)}
    (hpath : Path call exchanges left)
    (hgranted : ∀ exchange ∈ exchanges, granted exchange.op exchange.answer) :
    ∀ exchange ∈ exchanges, permitted exchange.op := by
  induction hpath with
  | nil call =>
    intro exchange hmem
    cases hmem
  | cons hnext ih =>
    intro exchange hmem
    rcases List.mem_cons.mp hmem with rfl | hlater
    · exact hcall.1
    · exact ih (hcall.2 _ (hgranted _ List.mem_cons_self))
        (fun other hother ↦ hgranted other (List.mem_cons_of_mem _ hother)) exchange hlater

end Obeys

/-- A call has a value only after it has inserted its key. -/
def Guarded {κ : Type} (inserted : (op : Op) → Answer op → Option κ) (key : κ) :
    Task Op Answer ε α → Prop
  | .done result => ∀ value, result ≠ .ok value
  | .await op next => ∀ answer, inserted op answer = some key ∨ (next answer).Guarded inserted key

lemma guarded_check_bind {κ : Type} {inserted : (op : Op) → Answer op → Option κ} {key : κ}
    {computation : Except ε α} {rest : α → Task Op Answer ε β}
    (hrest : ∀ value, (rest value).Guarded inserted key) :
    (check computation >>= rest).Guarded inserted key := by
  cases computation with
  | error e =>
    intro value hval
    cases hval
  | ok value => exact hrest value

lemma guarded_ask_bind {κ : Type} {inserted : (op : Op) → Answer op → Option κ} {key : κ} {op : Op}
    {rest : Answer op → Task Op Answer ε β} (hrest : ∀ answer, (rest answer).Guarded inserted key) :
    (ask op >>= rest).Guarded inserted key := fun answer ↦ .inr (hrest answer)

end Task

/-- Calls, and the object they share. -/
structure Pool (ι : Type) (Op : Type) (Answer : Op → Type) (ε α σ : Type) where
  calls : ι → Task Op Answer ε α
  state : σ

/-- An operation that a call has performed, with its answer. -/
structure Performed (ι : Type) (Op : Type) (Answer : Op → Type) where
  call : ι
  op : Op
  answer : Answer op

namespace Pool

variable {ι σ : Type} [DecidableEq ι] (performs : σ → (op : Op) → Answer op → σ → Prop)

/-- One of the calls has its operation performed. -/
inductive Step : Pool ι Op Answer ε α σ → Performed ι Op Answer → Pool ι Op Answer ε α σ → Prop
  | perform {pool : Pool ι Op Answer ε α σ} {call : ι} {op : Op}
      {next : Answer op → Task Op Answer ε α} {answer : Answer op} {state : σ}
      (hcall : pool.calls call = .await op next) (hperforms : performs pool.state op answer state) :
      Step pool ⟨call, op, answer⟩ ⟨Function.update pool.calls call (next answer), state⟩

/-- Steps, in the order in which they are taken. -/
inductive Run : Pool ι Op Answer ε α σ → List (Performed ι Op Answer) →
    Pool ι Op Answer ε α σ → Prop
  | nil (pool : Pool ι Op Answer ε α σ) : Run pool [] pool
  | cons {pool middle final : Pool ι Op Answer ε α σ} {event : Performed ι Op Answer}
      {events : List (Performed ι Op Answer)} (hstep : Step performs pool event middle)
      (hrun : Run middle events final) : Run pool (event :: events) final

variable {performs} {pool middle final : Pool ι Op Answer ε α σ}
  {events : List (Performed ι Op Answer)}

lemma Run.invariant {invariant : Pool ι Op Answer ε α σ → Prop}
    (hrun : Run performs pool events final)
    (hstep : ∀ {before event after}, Step performs before event after → invariant before →
    invariant after)
    (hinitial : invariant pool) : invariant final := by
  induction hrun with
  | nil => exact hinitial
  | cons hfirst _ ih => exact ih (hstep hfirst hinitial)

section

variable {event : Performed ι Op Answer} (hstep : Step performs pool event middle)

include hstep

lemma Step.performed :
    ∃ next, pool.calls event.call = .await event.op next ∧
    performs pool.state event.op event.answer middle.state ∧
        middle.calls event.call = next event.answer := by
  cases hstep with
  | perform hcall hperf => exact ⟨_, hcall, hperf, Function.update_self _ _ _⟩

lemma Step.calls_of_ne {other : ι} (hother : other ≠ event.call) :
    middle.calls other = pool.calls other := by
  cases hstep with
  | perform hcall hperf => exact Function.update_of_ne hother _ _

end

/-- The object keeps the keys that were inserted, and inserts no key twice. -/
structure InsertsOnce {κ : Type} (performs : σ → (op : Op) → Answer op → σ → Prop)
    (inserted : (op : Op) → Answer op → Option κ) (present : σ → Set κ) : Prop where
  fresh : ∀ {before op answer after key}, performs before op answer after →
    inserted op answer = some key → key ∉ present before ∧ key ∈ present after
  keeps : ∀ {before op answer after}, performs before op answer after →
    present before ⊆ present after

variable {κ : Type} {inserted : (op : Op) → Answer op → Option κ} {present : σ → Set κ}

variable (inserted present) in
/-- A call that may have a value has its key inserted, and is the only such call with its key. -/
structure Exclusive (key : ι → κ) (pool : Pool ι Op Answer ε α σ) : Prop where
  present : ∀ call, ¬(pool.calls call).Guarded inserted (key call) → key call ∈ present pool.state
  alone : ∀ first second, first ≠ second → key first = key second →
    (pool.calls first).Guarded inserted (key first) ∨
    (pool.calls second).Guarded inserted (key second)

variable (hobject : InsertsOnce performs inserted present)

include hobject

lemma Exclusive.step {key : ι → κ} {event : Performed ι Op Answer}
    (hstep : Step performs pool event middle)
    (hexclusive : Exclusive inserted present key pool) : Exclusive inserted present key middle := by
  obtain ⟨next, hcall, hperf, hnext⟩ := hstep.performed
  -- the call that moves keeps its guard, or has inserted its key just now
  have hmoves : (middle.calls event.call).Guarded inserted (key event.call) ∨
      (key event.call ∈ present middle.state ∧ ∀ other, other ≠ event.call →
      key other = key event.call →
        (pool.calls other).Guarded inserted (key other)) := by
    rw [hnext]
    by_cases hguarded : (pool.calls event.call).Guarded inserted (key event.call)
    · rw [hcall] at hguarded
      rcases hguarded event.answer with hinserted | hstill
      · obtain ⟨habsent, hnow⟩ := hobject.fresh hperf hinserted
        refine .inr ⟨hnow, fun other _ hkey ↦ ?_⟩
        by_contra hopen
        exact habsent (hkey ▸ hexclusive.present other hopen)
      · exact .inl hstill
    · refine .inr ⟨hobject.keeps hperf (hexclusive.present _ hguarded), fun other hne hkey ↦ ?_⟩
      exact (hexclusive.alone other event.call hne hkey).resolve_right hguarded
  constructor
  · intro other hopen
    by_cases hother : other = event.call
    · rw [hother] at hopen ⊢
      exact (hmoves.resolve_left hopen).1
    · rw [hstep.calls_of_ne hother] at hopen
      exact hobject.keeps hperf (hexclusive.present other hopen)
  intro first second hne hkey
  by_cases hfirst : first = event.call
  · rw [hfirst] at hne hkey ⊢
    rw [hstep.calls_of_ne hne.symm]
    exact hmoves.imp id fun halone ↦ halone.2 second hne.symm hkey.symm
  by_cases hsnd : second = event.call
  · rw [hsnd] at hne hkey ⊢
    rw [hstep.calls_of_ne hne]
    exact (hmoves.imp id fun halone ↦ halone.2 first hne hkey).symm
  · rw [hstep.calls_of_ne hfirst, hstep.calls_of_ne hsnd]
    exact hexclusive.alone first second hne hkey

lemma value_at_most_once {key : ι → κ} (hrun : Run performs pool events final)
    (hguarded : ∀ call, (pool.calls call).Guarded inserted (key call)) {first second : ι}
    (hkey : key first = key second) {value other : α} (hval : final.calls first = .done (.ok value))
    (hother : final.calls second = .done (.ok other)) : first = second := by
  by_contra hne
  have hinitial : Exclusive inserted present key pool :=
    ⟨fun call hopen ↦ absurd (hguarded call) hopen, fun call _ _ _ ↦ .inl (hguarded call)⟩
  have hfinal := hrun.invariant (Exclusive.step hobject) hinitial
  rcases hfinal.alone first second hne hkey with hopen | hopen
  · rw [hval] at hopen
    exact hopen value rfl
  · rw [hother] at hopen
    exact hopen other rfl

end Pool

end GmStack.Foundation
