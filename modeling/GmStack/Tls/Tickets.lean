import GmStack.Foundation.Tasks
import GmStack.Tls.MiniProfile

/-! `decrypt_session_ticket` asks its store twice; `decryptSessionTicketTask` is the call with its
two awaits (`answered_decryptSessionTicketTask`). -/

namespace GmStack.Tls

open Foundation Crypto List

variable {F P : Type} [CommRing F] [AddCommGroup P] [Module F P] (lib : TlsLibrary F P)

/-- The operations of `SessionStore`. -/
inductive StoreOp
  | isTicketReplay (ticket : Bytes)
  | markTicketUsed (ticket : Bytes)

def StoreOp.ticket : StoreOp → Bytes
  | .isTicketReplay ticket => ticket
  | .markTicketUsed ticket => ticket

def StoreAnswer : StoreOp → Type
  | .isTicketReplay _ => Bool
  | .markTicketUsed _ => Except TlsError Unit

/-- A call that asks a session store. -/
abbrev StoreTask (α : Type) : Type := Task StoreOp StoreAnswer TlsError α

def StoreTask.isTicketReplay (ticket : Bytes) : StoreTask Bool :=
  Task.ask (StoreOp.isTicketReplay ticket)

def StoreTask.markTicketUsed (ticket : Bytes) : StoreTask Unit :=
  .await (.markTicketUsed ticket) Task.done

def SessionStore.answer (store : SessionStore) : (op : StoreOp) → StoreAnswer op
  | .isTicketReplay ticket => store.isTicketReplay ticket
  | .markTicketUsed ticket => store.markTicketUsed ticket

@[simp] lemma StoreTask.answered_isTicketReplay (store : SessionStore) (ticket : Bytes) :
    (StoreTask.isTicketReplay ticket).answered store.answer =
    .ok (store.isTicketReplay ticket) := rfl

@[simp] lemma StoreTask.answered_markTicketUsed (store : SessionStore) (ticket : Bytes) :
    (StoreTask.markTicketUsed ticket).answered store.answer = store.markTicketUsed ticket := rfl

def decryptSessionTicketTask (ticket : SessionTicket) (keySet : TicketKeySet) (now : ℕ) :
    StoreTask SessionState := do
  Task.check (checkTicketSize ticket.encryptedTicket)
  let replay ← StoreTask.isTicketReplay ticket.encryptedTicket
  Task.check (rejectIf (replay = true) .sessionTicketReplay)
  let state ← Task.check (readTicket lib ticket.encryptedTicket keySet now)
  StoreTask.markTicketUsed ticket.encryptedTicket
  pure state

lemma answered_decryptSessionTicketTask (ticket : SessionTicket) (keySet : TicketKeySet)
    (store : SessionStore) (now : ℕ) :
    (decryptSessionTicketTask lib ticket keySet now).answered store.answer =
      decryptSessionTicket lib ticket keySet store now := by
  rw [decryptSessionTicket]
  simp only [decryptSessionTicketTask, Task.answered_bind, Task.answered_check,
    StoreTask.answered_isTicketReplay, StoreTask.answered_markTicketUsed, ok_bind]
  rfl

def maxTicketCacheSize : ℕ := 10000

/-- `InMemorySessionStore`: an `IndexSet` of tickets, in the order in which they were inserted. -/
structure InMemorySessionStore where
  cache : List Bytes
  nodup : cache.Nodup
  length_le : cache.length ≤ maxTicketCacheSize

def markedTicket : (op : StoreOp) → StoreAnswer op → Option Bytes
  | .isTicketReplay _, _ => none
  | .markTicketUsed ticket, .ok () => some ticket
  | .markTicketUsed _, .error _ => none

namespace InMemorySessionStore

def new : InMemorySessionStore := ⟨[], nodup_nil, Nat.zero_le _⟩

variable (store : InMemorySessionStore)

def isTicketReplay (ticket : Bytes) : Bool := store.cache.contains ticket

def evicted : List Bytes :=
  if store.cache.length ≥ maxTicketCacheSize then store.cache.drop (maxTicketCacheSize / 2)
  else store.cache

lemma evicted_sublist : store.evicted.Sublist store.cache := by
  unfold evicted
  split
  · exact drop_sublist _ _
  · exact List.Sublist.refl _

lemma length_evicted_lt : store.evicted.length < maxTicketCacheSize := by
  have hlen := store.length_le
  unfold evicted
  split
  · rw [length_drop]
    simp only [maxTicketCacheSize] at hlen ⊢
    omega
  · omega

def insert (ticket : Bytes) (hfresh : ticket ∉ store.cache) : InMemorySessionStore where
  cache := store.evicted ++ [ticket]
  nodup := by
    refine (store.nodup.sublist store.evicted_sublist).append (nodup_singleton _) ?_
    rw [disjoint_singleton]
    exact fun hmem ↦ hfresh (store.evicted_sublist.mem hmem)
  length_le := by
    rw [length_append, length_singleton]
    exact store.length_evicted_lt

local instance lawfulBEq_bytes : LawfulBEq Bytes := inferInstance

def markTicketUsed (ticket : Bytes) : Except TlsError Unit × InMemorySessionStore :=
  if hfresh : ticket ∉ store.cache then (.ok (), store.insert ticket hfresh)
  else (.error (.sessionStoreError "ticket already marked as used"), store)

variable {store} {ticket : Bytes}

lemma isTicketReplay_iff : store.isTicketReplay ticket = true ↔ ticket ∈ store.cache :=
  contains_iff_mem

lemma markTicketUsed_of_notMem (hfresh : ticket ∉ store.cache) :
    store.markTicketUsed ticket = (.ok (), store.insert ticket hfresh) := dif_pos hfresh

lemma markTicketUsed_of_mem (hmem : ticket ∈ store.cache) :
    store.markTicketUsed ticket = (.error (.sessionStoreError "ticket already marked as used"),
    store) :=
  dif_neg (not_not_intro hmem)

lemma markTicketUsed_eq_ok_iff : (store.markTicketUsed ticket).1 = .ok () ↔
    ticket ∉ store.cache := by
  by_cases hmem : ticket ∈ store.cache
  · simp [markTicketUsed_of_mem hmem, hmem]
  · simp [markTicketUsed_of_notMem hmem, hmem]

variable (store) in
def answers : SessionStore where
  isTicketReplay := store.isTicketReplay
  markTicketUsed := fun ticket ↦ (store.markTicketUsed ticket).1

def perform (store : InMemorySessionStore) : (op : StoreOp) → StoreAnswer op × InMemorySessionStore
  | .isTicketReplay ticket => (store.isTicketReplay ticket, store)
  | .markTicketUsed ticket => store.markTicketUsed ticket

/-- One operation of a store that is not full. -/
def PerformsWithRoom (before : InMemorySessionStore) (op : StoreOp) (answer : StoreAnswer op)
    (after : InMemorySessionStore) : Prop :=
  before.cache.length < maxTicketCacheSize ∧ before.perform op = (answer, after)

lemma perform_cases (store : InMemorySessionStore) (op : StoreOp) :
    ((store.perform op).2 = store ∧ markedTicket op (store.perform op).1 = none) ∨
      ∃ hfresh : op.ticket ∉ store.cache, (store.perform op).2 = store.insert op.ticket hfresh ∧
        markedTicket op (store.perform op).1 = some op.ticket := by
  cases op with
  | isTicketReplay ticket => exact .inl ⟨rfl, rfl⟩
  | markTicketUsed ticket =>
    by_cases hmem : ticket ∈ store.cache
    · refine .inl ?_
      show (store.markTicketUsed ticket).2 = store ∧
        markedTicket (.markTicketUsed ticket) (store.markTicketUsed ticket).1 = none
      rw [markTicketUsed_of_mem hmem]
      exact ⟨rfl, rfl⟩
    refine .inr ⟨hmem, ?_⟩
    show (store.markTicketUsed ticket).2 = _ ∧ markedTicket (.markTicketUsed ticket)
      (store.markTicketUsed ticket).1 = _
    rw [markTicketUsed_of_notMem hmem]
    exact ⟨rfl, rfl⟩

lemma insertsOnce_of_room : Pool.InsertsOnce PerformsWithRoom markedTicket fun store ↦
    {ticket | ticket ∈ store.cache} where
  fresh := by
    rintro before op answer after key ⟨-, hperform⟩ hmarked
    rcases perform_cases before op with ⟨-, hnone⟩ | ⟨hfresh, hafter, hsome⟩
    · rw [hperform, hmarked] at hnone
      cases hnone
    rw [hperform] at hafter hsome
    obtain rfl : key = op.ticket := Option.some.inj (hmarked.symm.trans hsome)
    rw [show after = before.insert op.ticket hfresh from hafter]
    exact ⟨hfresh, mem_append_right _ (mem_singleton_self _)⟩
  keeps := by
    rintro before op answer after ⟨hroom, hperform⟩ ticket hkept
    rcases perform_cases before op with ⟨hsame, -⟩ | ⟨hfresh, hafter, -⟩
    · rw [hperform] at hsame
      rwa [show after = before from hsame]
    rw [hperform] at hafter
    have hevicted : before.evicted = before.cache := if_neg (Nat.not_le.mpr hroom)
    rw [show after = before.insert op.ticket hfresh from hafter]
    exact mem_append_left _ (hevicted ▸ hkept)

end InMemorySessionStore

section Library

lemma guarded_decryptSessionTicketTask (ticket : SessionTicket) (keySet : TicketKeySet) (now : ℕ) :
    (decryptSessionTicketTask lib ticket keySet now).Guarded markedTicket
    ticket.encryptedTicket := by
  refine Task.guarded_check_bind fun _ ↦ ?_
  refine Task.guarded_ask_bind fun replay ↦ ?_
  refine Task.guarded_check_bind fun _ ↦ ?_
  refine Task.guarded_check_bind fun state ↦ ?_
  -- the mark is the last question, and an error of it ends the call
  intro marked
  cases marked with
  | error e =>
    refine .inr fun value hval ↦ ?_
    cases hval
  | ok _ => exact .inl rfl

variable {lib}

/-- Calls that interleave at their awaits in any way accept a ticket once, if the store marks no
ticket twice. -/
theorem decryptSessionTicket_accepted_once {ι σ : Type} [DecidableEq ι]
    {performs : σ → (op : StoreOp) → StoreAnswer op → σ → Prop} {present : σ → Set Bytes}
    (hstore : Pool.InsertsOnce performs markedTicket present) (tickets : ι → SessionTicket)
    (keySets : ι → TicketKeySet) (now : ι → ℕ) {start : σ}
    {events : List (Performed ι StoreOp StoreAnswer)}
    {final : Pool ι StoreOp StoreAnswer TlsError SessionState σ}
    (hrun : Pool.Run performs
      ⟨fun call ↦ decryptSessionTicketTask lib (tickets call) (keySets call) (now call),
      start⟩ events final)
    {first second : ι} (hticket : tickets first = tickets second) {state other : SessionState}
    (haccepts : final.calls first = .done (.ok state))
    (hothers : final.calls second = .done (.ok other)) :
    first = second := by
  have hkey : (tickets first).encryptedTicket = (tickets second).encryptedTicket := by rw [hticket]
  exact Pool.value_at_most_once hstore hrun
    (fun call ↦ guarded_decryptSessionTicketTask lib (tickets call) (keySets call) (now call))
    hkey haccepts
    hothers

end Library

def miniTicket : SessionTicket := ⟨1 :: (List.replicate 27 0 ++ [1, 0]), 1⟩

def miniTicketKeys : TicketKeySet := ⟨[⟨1, .fill 32 0⟩]⟩

lemma readTicket_miniTicket : readTicket miniTls miniTicket.encryptedTicket miniTicketKeys 0 =
    .ok miniState := by
  rfl

/-- Two calls have both been told that their ticket is new; one of them accepts it, the other does
not. -/
theorem raced_ticket_accepted_once : ∃ events final, Pool.Run InMemorySessionStore.PerformsWithRoom
        ⟨fun _ : Bool ↦ decryptSessionTicketTask miniTls miniTicket miniTicketKeys 0,
        .new⟩ events final ∧
      final.calls true = .done (.ok miniState) ∧ ∀ other, final.calls false ≠
      .done (.ok other) := by
  have hrun : ∃ final, Pool.Run InMemorySessionStore.PerformsWithRoom
        ⟨fun _ : Bool ↦ decryptSessionTicketTask miniTls miniTicket miniTicketKeys 0, .new⟩
        [⟨true, .isTicketReplay miniTicket.encryptedTicket, false⟩,
          ⟨false, .isTicketReplay miniTicket.encryptedTicket, false⟩,
          ⟨true, .markTicketUsed miniTicket.encryptedTicket, .ok ()⟩] final ∧
      final.calls true = .done (.ok miniState) :=
    ⟨_, .cons (.perform rfl ⟨by decide, rfl⟩) (.cons (.perform rfl ⟨by decide, rfl⟩)
      (.cons (.perform rfl ⟨by decide, rfl⟩) (.nil _))), rfl⟩
  obtain ⟨final, hrun, haccepts⟩ := hrun
  refine ⟨_, final, hrun, haccepts, fun other hother ↦ ?_⟩
  have hsame : true = false :=
    decryptSessionTicket_accepted_once InMemorySessionStore.insertsOnce_of_room
    (fun _ ↦ miniTicket) (fun _ ↦ miniTicketKeys) (fun _ ↦ 0) hrun rfl haccepts hother
  cases hsame

namespace InMemorySessionStore

def after (store : InMemorySessionStore) : List StoreOp → InMemorySessionStore
  | [] => store
  | op :: ops => (store.perform op).2.after ops

def insertions (store : InMemorySessionStore) : List StoreOp → ℕ
  | [] => 0
  | op :: ops => (if (markedTicket op (store.perform op).1).isSome then 1 else 0) + (store.perform
    op).2.insertions ops

/-- How many insertions a ticket outlives that is at a position of a cache of a length: until the
cache is full, and half of its size once more if the first eviction does not reach it. -/
def outlived (length position : ℕ) : ℕ :=
  maxTicketCacheSize - length + maxTicketCacheSize / 2 * (position / (maxTicketCacheSize / 2))

variable {store : InMemorySessionStore} {ticket : Bytes} {ops : List StoreOp}

lemma notMem_after (hothers : ∀ op ∈ ops, op.ticket ≠ ticket)
    (habsent : ticket ∉ store.cache) : ticket ∉ (store.after ops).cache := by
  induction ops generalizing store with
  | nil => exact habsent
  | cons op ops ih =>
    refine ih (forall_mem_cons.mp hothers).2 ?_
    rcases perform_cases store op with ⟨hsame, -⟩ | ⟨hfresh, hinserted, -⟩
    · rwa [hsame]
    rw [hinserted]
    intro hmem
    rcases mem_append.mp hmem with hold | hnew
    · exact habsent (store.evicted_sublist.mem hold)
    · exact hothers op mem_cons_self (mem_singleton.mp hnew).symm

lemma outlived_insert {other : Bytes} (hfresh : other ∉ store.cache) (hmem : ticket ∈ store.cache) :
    (ticket ∉ store.evicted ∧ outlived store.cache.length (store.cache.idxOf ticket) = 0) ∨
      (ticket ∈ (store.insert other hfresh).cache ∧
      outlived store.cache.length (store.cache.idxOf ticket) =
          outlived (store.insert other hfresh).cache.length
          ((store.insert other hfresh).cache.idxOf ticket) + 1) := by
  have hlen := store.length_le
  have hkept (hstays : ticket ∈ store.evicted) :
      (store.insert other hfresh).cache.idxOf ticket = store.evicted.idxOf ticket :=
    idxOf_append_of_mem hstays
  have hnewLength : (store.insert other hfresh).cache.length = store.evicted.length + 1 := by
    show (store.evicted ++ [other]).length = _
    rw [length_append, length_singleton]
  by_cases hfull : store.cache.length ≥ maxTicketCacheSize
  · have hevicted : store.evicted = store.cache.drop (maxTicketCacheSize / 2) := if_pos hfull
    have hsplit := take_append_drop (maxTicketCacheSize / 2) store.cache
    by_cases hearly : ticket ∈ store.cache.take (maxTicketCacheSize / 2)
    · -- the older half, which is drained
      have hposn : store.cache.idxOf ticket < maxTicketCacheSize / 2 := by
        rw [← hsplit, idxOf_append_of_mem hearly]
        exact lt_of_lt_of_le (idxOf_lt_length_iff.mpr hearly) (length_take_le _ _)
      have hnodup := store.nodup
      rw [← hsplit, nodup_append'] at hnodup
      refine .inl ⟨fun hlate ↦ hnodup.2.2 hearly (hevicted ▸ hlate), ?_⟩
      simp only [outlived, maxTicketCacheSize] at hfull hlen hposn ⊢
      omega
    -- the younger half, which moves to the front
    have hlate : ticket ∈ store.evicted := by
      rw [← hsplit] at hmem
      exact hevicted ▸ (mem_append.mp hmem).resolve_left hearly
    have hposn : store.cache.idxOf ticket =
        maxTicketCacheSize / 2 + store.evicted.idxOf ticket := by
      conv_lhs => rw [← hsplit, idxOf_append_of_notMem hearly]
      rw [hevicted, length_take]
      omega
    have hhalf : store.evicted.length = maxTicketCacheSize - maxTicketCacheSize / 2 := by
      rw [hevicted, length_drop]
      omega
    have hinside := idxOf_lt_length_iff.mpr hlate
    refine .inr ⟨mem_append_left _ hlate, ?_⟩
    rw [hkept hlate, hnewLength, hhalf, hposn]
    simp only [outlived, maxTicketCacheSize] at hfull hlen hinside ⊢
    omega
  have hevicted : store.evicted = store.cache := if_neg hfull
  refine .inr ⟨mem_append_left _ (hevicted ▸ hmem), ?_⟩
  rw [hkept (hevicted ▸ hmem), hnewLength, hevicted]
  simp only [outlived, maxTicketCacheSize] at hfull hlen ⊢
  omega

lemma mem_after_iff (hothers : ∀ op ∈ ops, op.ticket ≠ ticket)
    (hmem : ticket ∈ store.cache) : ticket ∈ (store.after ops).cache ↔
      store.insertions ops ≤ outlived store.cache.length (store.cache.idxOf ticket) := by
  induction ops generalizing store with
  | nil => exact iff_of_true hmem (Nat.zero_le _)
  | cons op ops ih =>
    have hrest : ∀ other ∈ ops, other.ticket ≠ ticket :=
      (forall_mem_cons.mp hothers).2
    rw [after, insertions]
    rcases perform_cases store op with ⟨hsame, hnone⟩ | ⟨hfresh, hinserted, hsome⟩
    · rw [hsame, hnone, ih hrest hmem]
      simp
    rw [hinserted, hsome, if_pos Option.isSome_some]
    rcases outlived_insert hfresh hmem with ⟨hforgot, hnothing⟩ | ⟨hstays, hless⟩
    · have habsent : ticket ∉ (store.insert op.ticket hfresh).cache := by
        intro hkept
        rcases mem_append.mp hkept with hold | hnew
        · exact hforgot hold
        · exact hothers op mem_cons_self (mem_singleton.mp hnew).symm
      refine iff_of_false (notMem_after hrest habsent) ?_
      omega
    · rw [ih hrest hstays, hless]
      omega

/-- A ticket is known until as many were inserted as fill the cache, and 5000 more if it is in the
younger half of the full cache. -/
theorem remembers_iff (hmark : (store.markTicketUsed ticket).1 = .ok ()) {later : List StoreOp}
    (hothers : ∀ op ∈ later, op.ticket ≠ ticket) :
    ((store.markTicketUsed ticket).2.after later).isTicketReplay ticket = true ↔
      (store.markTicketUsed ticket).2.insertions later ≤ outlived (store.evicted.length + 1)
      store.evicted.length := by
  have hfresh := markTicketUsed_eq_ok_iff.mp hmark
  have hposition : (store.insert ticket hfresh).cache.idxOf ticket = store.evicted.length := by
    show (store.evicted ++ [ticket]).idxOf ticket = _
    rw [idxOf_append_of_notMem fun hmem ↦ hfresh (store.evicted_sublist.mem hmem), idxOf_cons_self,
      Nat.add_zero]
  have hlength : (store.insert ticket hfresh).cache.length = store.evicted.length + 1 :=
    length_append
  rw [markTicketUsed_of_notMem hfresh, isTicketReplay_iff,
    mem_after_iff hothers (mem_append_right _ (mem_singleton_self _)), hposition, hlength]

/-- A ticket is still known after another one was marked. -/
theorem remembers_after_another :
    ((new.markTicketUsed [7]).2.after [.markTicketUsed [8], .isTicketReplay [8]]).isTicketReplay
    [7] = true := by
  refine (remembers_iff (markTicketUsed_eq_ok_iff.mpr not_mem_nil) ?_).mpr ?_
  · decide
  · decide

lemma insertions_of_fresh {tickets : List Bytes} (hnodup : tickets.Nodup)
    (hfresh : ∀ ticket ∈ tickets, ticket ∉ store.cache) :
    store.insertions (tickets.map .markTicketUsed) = tickets.length := by
  induction tickets generalizing store with
  | nil => rfl
  | cons ticket tickets ih =>
    obtain ⟨hother, hrest⟩ := nodup_cons.mp hnodup
    have habsent := hfresh ticket mem_cons_self
    have hperform : store.perform (.markTicketUsed ticket) =
      (.ok (), store.insert ticket habsent) :=
      markTicketUsed_of_notMem habsent
    rw [map_cons, insertions, hperform, length_cons, Nat.add_comm]
    refine congrArg (· + 1) (ih hrest fun later hlater hmem ↦ ?_)
    rcases mem_append.mp hmem with hold | hnew
    · exact hfresh later (mem_cons_of_mem _ hlater) (store.evicted_sublist.mem hold)
    · exact hother (mem_singleton.mp hnew ▸ hlater)

end InMemorySessionStore

lemma decryptSessionTicket_miniTicket {store : InMemorySessionStore}
    (habsent : miniTicket.encryptedTicket ∉ store.cache) :
    decryptSessionTicket miniTls miniTicket miniTicketKeys store.answers 0 = .ok miniState := by
  have hsize : checkTicketSize miniTicket.encryptedTicket = .ok () := rfl
  have hreplay : ¬store.answers.isTicketReplay miniTicket.encryptedTicket = true :=
    fun hreplay ↦ habsent (InMemorySessionStore.isTicketReplay_iff.mp hreplay)
  have hmark : store.answers.markTicketUsed miniTicket.encryptedTicket = .ok () :=
    InMemorySessionStore.markTicketUsed_eq_ok_iff.mpr habsent
  rw [decryptSessionTicket, hsize, rejectIf_neg hreplay, readTicket_miniTicket, hmark]
  rfl

/-- 10000 other tickets are marked, and the same store accepts the ticket once more. -/
theorem evicted_ticket_accepted_again : ∃ later :
    List StoreOp, (∀ op ∈ later, op.ticket ≠ miniTicket.encryptedTicket) ∧
      decryptSessionTicket miniTls miniTicket miniTicketKeys InMemorySessionStore.new.answers 0 =
      .ok miniState ∧
      ((InMemorySessionStore.new.markTicketUsed miniTicket.encryptedTicket).2.after
      later).isTicketReplay
        miniTicket.encryptedTicket = false ∧
      decryptSessionTicket miniTls miniTicket miniTicketKeys
        ((InMemorySessionStore.new.markTicketUsed miniTicket.encryptedTicket).2.after later).answers
        0 = .ok miniState := by
  let others := (range 10000).map fun count ↦ replicate count (0 : UInt8)
  have hothers : ∀ op ∈ others.map StoreOp.markTicketUsed, op.ticket ≠
      miniTicket.encryptedTicket := by
    intro op hop hticket
    obtain ⟨ticket, hmem, rfl⟩ := mem_map.mp hop
    obtain ⟨count, -, rfl⟩ := mem_map.mp hmem
    cases count with
    | zero => cases hticket
    | succ count => cases (cons.inj hticket).1
  have hnodup : others.Nodup := by
    refine nodup_range.map fun first second hsame ↦ ?_
    have hlength := congrArg length hsame
    rwa [length_replicate, length_replicate] at hlength
  have hnew : miniTicket.encryptedTicket ∉ InMemorySessionStore.new.cache := not_mem_nil
  have hinsertions : (InMemorySessionStore.new.insert _ hnew).insertions
    (others.map .markTicketUsed) =
      10000 := by
    rw [InMemorySessionStore.insertions_of_fresh hnodup, length_map, length_range]
    intro ticket hmem hheld
    exact hothers _ (mem_map_of_mem hmem) (mem_singleton.mp hheld)
  have hforgotten : miniTicket.encryptedTicket ∉
      ((InMemorySessionStore.new.insert _ hnew).after (others.map .markTicketUsed)).cache := by
    rw [InMemorySessionStore.mem_after_iff hothers (mem_singleton_self _), hinsertions]
    exact Nat.not_le.mpr (show InMemorySessionStore.outlived 1 0 < 10000 by decide)
  refine ⟨others.map .markTicketUsed, hothers, decryptSessionTicket_miniTicket hnew, ?_, ?_⟩
  · rw [InMemorySessionStore.markTicketUsed_of_notMem hnew, ← Bool.not_eq_true,
      InMemorySessionStore.isTicketReplay_iff]
    exact hforgotten
  · rw [InMemorySessionStore.markTicketUsed_of_notMem hnew]
    exact decryptSessionTicket_miniTicket hforgotten

namespace TicketKeySet

def addKey (ring : TicketKeySet) (key : TicketKey) : TicketKeySet := ⟨ring.keys ++ [key]⟩

def withKey (ring : TicketKeySet) (key : TicketKey) : TicketKeySet := ⟨ring.keys ++ [key]⟩

def removeKey (ring : TicketKeySet) (id : UInt8) : Bool × TicketKeySet :=
  if (ring.keys.head?.any fun key ↦ key.id == id) = true ∧ ring.keys.length > 1 then (false, ring)
  else match ring.keys.findIdx? fun key ↦ key.id == id with
    | some pos => (true, ⟨ring.keys.eraseIdx pos⟩)
    | none => (false, ring)

end TicketKeySet

inductive RingOp
  | addKey (key : TicketKey)
  | withKey (key : TicketKey)
  | removeKey (id : UInt8)

namespace TicketKeySet

variable {ring : TicketKeySet} {key : TicketKey}

def perform (ring : TicketKeySet) : RingOp → TicketKeySet
  | .addKey key => ring.addKey key
  | .withKey key => ring.withKey key
  | .removeKey id => (ring.removeKey id).2

def after (ring : TicketKeySet) (ops : List RingOp) : TicketKeySet := ops.foldl perform ring

/-- The operations do not remove the key: it is in the ring after each of them. -/
def Keeps (ring : TicketKeySet) (key : TicketKey) (ops : List RingOp) : Prop :=
  ∀ count, key ∈ (ring.after (ops.take count)).keys

variable (hkey : ring.primaryKey = some key)

include hkey

lemma primaryKey_perform {op : RingOp} (hmem : key ∈ (ring.perform op).keys) :
    (ring.perform op).primaryKey = some key := by
  obtain ⟨keys⟩ := ring
  cases keys with
  | nil => cases hkey
  | cons first rest =>
    obtain rfl : first = key := Option.some.inj hkey
    cases op with
    | addKey => rfl
    | withKey => rfl
    | removeKey id =>
      simp only [perform, removeKey, head?_cons, Option.any_some, beq_iff_eq,
        findIdx?_cons] at hmem ⊢
      by_cases hid : first.id = id
      · cases rest with
        | nil => simp [hid] at hmem
        | cons => simp [hid, primaryKey]
      · cases rest.findIdx? fun key ↦ key.id == id <;> simp [hid, primaryKey]

lemma primaryKey_after {ops : List RingOp} (hkeeps : ring.Keeps key ops) :
    (ring.after ops).primaryKey = some key := by
  induction ops generalizing ring with
  | nil => exact hkey
  | cons op ops ih => exact ih (primaryKey_perform hkey (hkeeps 1)) fun count ↦ hkeeps (count + 1)

lemma findKey_of_primaryKey : ring.findKey key.id = some key := by
  obtain ⟨keys⟩ := ring
  cases keys with
  | nil => cases hkey
  | cons first rest =>
    obtain rfl : first = key := Option.some.inj hkey
    simp [findKey]

end TicketKeySet

section Rotation

variable {state : SessionState} {stateBytes : Bytes} {ring : TicketKeySet} {key : TicketKey}

lemma readTicket_issued (hkey : ring.primaryKey = some key)
    (hserz : lib.serializeState state = .ok stateBytes)
    (hround : lib.deserializeState stateBytes = .ok state) (nonce : Octets 12) :
    ∃ ticket, encryptSessionTicket lib state ring nonce = .ok ticket ∧
      ticket.encryptedTicket.headD 0 = key.id ∧
      ticket.encryptedTicket.length = stateBytes.length + 29 ∧ ∀ later now,
        later.findKey key.id = some key →
        readTicket lib ticket.encryptedTicket later now = (do
          rejectIf (now - state.createdAt > min state.lifetimeHint maxTicketLifetime)
            .sessionTicketExpired
          rejectIf (state.requireClientAuth = true) (.sessionTicketInvalid
            "session ticket does not support resumption of client-authenticated sessions")
          .ok state) := by
  obtain ⟨encrypted, tag, hlen, htag, henc, hdec⟩ := encryptSessionTicket_eq_ok lib hkey hserz nonce
  refine ⟨_, henc, rfl, ?_, fun later now hfind ↦ ?_⟩
  · simp [nonce.length_bytes, htag, hlen]
    omega
  -- The fields of the ticket are where decryption looks for them.
  have hnonce : ((key.id :: (nonce.bytes ++ tag ++ encrypted)).drop 1).take 12 = nonce.bytes := by
    simp [nonce.length_bytes]
  have htagPart : ((key.id :: (nonce.bytes ++ tag ++ encrypted)).drop 13).take 16 = tag := by
    simp [nonce.length_bytes, htag]
  have hencrypted : (key.id :: (nonce.bytes ++ tag ++ encrypted)).drop 29 = encrypted := by
    simp [drop_append, nonce.length_bytes, htag]
  simp only [readTicket, headD_cons, hfind, hnonce, htagPart, hencrypted, ok_bind,
    mapError_ok, hdec, hround,
    Sm4Cipher.new_eq_ok (length_deriveTicketSm4Key lib key.secret)]

def openedWith (ticket : SessionTicket) (key : TicketKey) : Except CryptoError Bytes :=
  Sm4Cipher.decryptGcm lib.sm4 ⟨_, length_deriveTicketSm4Key lib key.secret⟩
    (ticket.encryptedTicket.drop 29)
    ((ticket.encryptedTicket.drop 1).take 12) [] ((ticket.encryptedTicket.drop 13).take 16)

/-- No other key under the identifier of a key opens the ticket, as is asked of an authenticated
cipher. -/
def Unforged (ticket : SessionTicket) (key : TicketKey) (later : TicketKeySet) : Prop :=
  ∀ other ∈ later.keys, other.id = key.id → other ≠ key → ∀ plaintext, openedWith lib ticket other ≠
    .ok plaintext

lemma readTicket_removed {ticket : SessionTicket} {later : TicketKeySet}
    (hid : ticket.encryptedTicket.headD 0 = key.id)
    (hremoved : key ∉ later.keys) (hunforged : Unforged lib ticket key later) (now : ℕ) :
    ∃ error, readTicket lib ticket.encryptedTicket later now = .error error := by
  rw [readTicket, hid]
  cases hfind : later.findKey key.id with
  | none => exact ⟨_, rfl⟩
  | some other =>
    have hmem := mem_of_find?_eq_some hfind
    have hfound := find?_some hfind
    have hother := hunforged other hmem (beq_iff_eq.mp hfound) fun hsame ↦ hremoved (hsame ▸ hmem)
    dsimp only
    rw [ok_bind, Sm4Cipher.new_eq_ok (length_deriveTicketSm4Key lib other.secret),
      mapError_ok, ok_bind]
    change ∃ error, ((openedWith lib ticket other).mapError _ >>= _) = .error error
    cases hdec : openedWith lib ticket other with
    | error error => exact ⟨_, rfl⟩
    | ok plaintext => exact absurd hdec (hother plaintext)

/-- A ticket is opened by every later ring that still has its key, until it expires; and by none
from which that key was removed. -/
theorem sessionTicket_roundTrip (hkey : ring.primaryKey = some key)
    (hserz : lib.serializeState state = .ok stateBytes)
    (hround : lib.deserializeState stateBytes = .ok state) (hauth : state.requireClientAuth = false)
    (hsize : stateBytes.length + 29 ≤ maxSessionTicketSize) (nonce : Octets 12) :
    ∃ ticket, encryptSessionTicket lib state ring nonce = .ok ticket ∧ ∀ ops store now,
      store.isTicketReplay ticket.encryptedTicket = false →
      store.markTicketUsed ticket.encryptedTicket = .ok () →
        (ring.Keeps key ops → decryptSessionTicket lib ticket (ring.after ops) store now =
          if now - state.createdAt ≤ min state.lifetimeHint maxTicketLifetime then .ok state
          else .error .sessionTicketExpired) ∧
        (key ∉ (ring.after ops).keys → Unforged lib ticket key (ring.after ops) →
          ∃ error, decryptSessionTicket lib ticket (ring.after ops) store now = .error error) := by
  obtain ⟨ticket, henc, hid, hlen, hread⟩ := readTicket_issued lib hkey hserz hround nonce
  have hchecked : checkTicketSize ticket.encryptedTicket = .ok () := by
    rw [checkTicketSize, hlen, rejectIf_bind (by omega), rejectIf_neg (by omega)]
  refine ⟨ticket, henc, fun ops store now hfresh hmark ↦
    ⟨fun hkeeps ↦ ?_, fun hremoved hunforged ↦ ?_⟩⟩
  · rw [decryptSessionTicket, hchecked, hfresh, hread _ _ (TicketKeySet.findKey_of_primaryKey
      (TicketKeySet.primaryKey_after hkey hkeeps)), hauth, hmark]
    split_ifs with hage
    · rw [rejectIf_neg (Nat.not_lt.mpr hage)]
      rfl
    · rw [rejectIf_pos (Nat.lt_of_not_le hage)]
      rfl
  · obtain ⟨error, herror⟩ := readTicket_removed lib hid hremoved hunforged now
    rw [decryptSessionTicket, hchecked, hfresh, herror]
    exact ⟨error, rfl⟩

end Rotation

theorem rotated_ticket_opened : ∃ ticket, encryptSessionTicket miniTls miniState miniTicketKeys
    (.fill 12 0) = .ok ticket ∧
      decryptSessionTicket miniTls ticket (miniTicketKeys.after [.addKey ⟨2, .fill 32 7⟩,
      .removeKey 1]) .inMemory 0 =
        .ok miniState := by
  obtain ⟨ticket, henc, hall⟩ := sessionTicket_roundTrip miniTls (show miniTicketKeys.primaryKey =
    _ from rfl) rfl rfl rfl
    (by decide) (.fill 12 0)
  refine ⟨ticket, henc, (hall _ .inMemory 0 rfl rfl).1 fun count ↦ ?_⟩
  match count with
  | 0 => decide
  | 1 => decide
  | count + 2 =>
    rw [take_of_length_le (by simp)]
    decide

/-- A state of 65508 octets is put into a ticket that is refused. -/
theorem oversized_ticket_refused : ∃ lib : TlsLibrary (ZMod 256) (ZMod 256),
    ∃ state stateBytes ticket error,
    lib.serializeState state = .ok stateBytes ∧ lib.deserializeState stateBytes = .ok state ∧
      encryptSessionTicket lib state miniTicketKeys (.fill 12 0) = .ok ticket ∧
        decryptSessionTicket lib ticket miniTicketKeys .inMemory 0 = .error error := by
  let lib := { miniTls with
    serializeState := fun state ↦ .ok state.masterSecret
    deserializeState := fun masterSecret ↦ .ok { miniState with masterSecret } }
  let state := { miniState with masterSecret := replicate 65508 0 }
  have hserz : lib.serializeState state = .ok (replicate 65508 0) := rfl
  obtain ⟨ticket, henc, -, hlen, -⟩ :=
    readTicket_issued lib (show miniTicketKeys.primaryKey = _ from rfl) hserz rfl (.fill 12 0)
  have hrefused : ∃ error, decryptSessionTicket lib ticket miniTicketKeys .inMemory 0 =
      .error error := by
    rw [decryptSessionTicket, checkTicketSize, hlen, length_replicate, rejectIf_bind (by decide),
      rejectIf_pos (by decide)]
    exact ⟨_, rfl⟩
  obtain ⟨error, herror⟩ := hrefused
  exact ⟨lib, state, _, ticket, error, hserz, rfl, henc, herror⟩

end GmStack.Tls
