import GmStack.Tlcp.RecordLayer
import Mathlib.Data.List.AList

/-! The session cache is a bounded FIFO map, except that `put` makes room before it looks whether
the id is stored. -/

namespace GmStack.Tlcp

open Foundation List

/-- A `TlcpResumedSession` with its times, in nanoseconds. -/
structure CachedSession extends TlcpResumedSession where
  createdAt : ℕ
  lifetime : ℕ

def CachedSession.isExpired (session : CachedSession) (now : ℕ) : Bool := session.lifetime <
    now - session.createdAt

structure SessionCache where
  sessions : AList fun _ : Bytes ↦ CachedSession
  insertionOrder : List Bytes
  maxEntries : ℕ

namespace SessionCache

def withCapacity (maxEntries : ℕ) : SessionCache := ⟨∅, [], maxEntries⟩

def len (cache : SessionCache) : ℕ := cache.sessions.keys.length

def expiredIds (cache : SessionCache) (now : ℕ) : List Bytes :=
  cache.sessions.keys.filter fun id ↦ (cache.sessions.lookup id).any (·.isExpired now)

def evictExpired (cache : SessionCache) (now : ℕ) : SessionCache :=
  { cache with
    sessions := (cache.expiredIds now).foldl (fun sessions id ↦ sessions.erase id) cache.sessions
    insertionOrder := cache.insertionOrder.filter fun id ↦ !(cache.expiredIds now).contains id }

def evictOldest (cache : SessionCache) : SessionCache :=
  if cache.len ≥ cache.maxEntries then
    match cache.insertionOrder with
    | [] => cache
    | oldest :: rest =>
      { cache with sessions := cache.sessions.erase oldest, insertionOrder := rest }
  else cache

def store (cache : SessionCache) (id : Bytes) (session : CachedSession) : SessionCache :=
  let order := if id ∈ cache.sessions then cache.insertionOrder.filter (· ≠ id)
    else cache.insertionOrder
  { cache with sessions := cache.sessions.insert id session, insertionOrder := order ++ [id] }

def put (cache : SessionCache) (now : ℕ) (id : Bytes) (session : CachedSession) : SessionCache :=
  (cache.evictExpired now).evictOldest.store id session

def remove (cache : SessionCache) (id : Bytes) : SessionCache :=
  { cache with sessions := cache.sessions.erase id, insertionOrder :=
    cache.insertionOrder.filter (· ≠ id) }

def get (cache : SessionCache) (now : ℕ) (id : Bytes) : Option CachedSession × SessionCache :=
  match cache.sessions.lookup id with
  | none => (none, cache)
  | some session => if session.isExpired now then (none, cache.remove id) else (some session, cache)

end SessionCache

/-- A call of the cache, with the time at which it is made. -/
inductive CacheCall
  | put (now : ℕ) (id : Bytes) (session : CachedSession)
  | get (now : ℕ) (id : Bytes)
  | remove (id : Bytes)
  | len

def CacheCall.perform (cache : SessionCache) : CacheCall → SessionCache
  | put now id session => cache.put now id session
  | get now id => (cache.get now id).2
  | remove id => cache.remove id
  | len => cache

def SessionCache.afterCalls (capacity : ℕ) (history : List CacheCall) : SessionCache :=
  history.foldl CacheCall.perform (.withCapacity capacity)

abbrev Fifo := List (Bytes × CachedSession)

def Fifo.store (fifo : Fifo) (crowded : Bool) (id : Bytes) (session : CachedSession) : Fifo :=
  (if crowded then fifo.tail else fifo).filter (fun entry ↦ entry.1 ≠ id) ++ [(id, session)]

def Fifo.live (fifo : Fifo) (now : ℕ) : Fifo := fifo.filter fun entry ↦
    entry.2.isExpired now = false

/-- The call on what a table without bounds and without time has for the identifier. -/
def CacheCall.overwrite (id : Bytes) (last : Option CachedSession) :
    CacheCall → Option CachedSession
  | put _ other session => if other = id then some session else last
  | remove other => if other = id then none else last
  | _ => last

def lastStored (id : Bytes) (history : List CacheCall) : Option CachedSession :=
  history.foldl (CacheCall.overwrite id) none

/-- What a call does to a bounded FIFO map: only a new id needs room. -/
def CacheCall.specify (capacity : ℕ) (fifo : Fifo) : CacheCall → Fifo
  | put now id session =>
    (fifo.live now).store (!((fifo.live now).map Prod.fst).contains id && capacity ≤
      (fifo.live now).length) id session
  | get now id => fifo.filter fun entry ↦ ¬ (entry.1 = id ∧ entry.2.isExpired now = true)
  | remove id => fifo.filter fun entry ↦ entry.1 ≠ id
  | len => fifo

/-- A session among as many as fit is stored again, and is not the oldest of them. -/
def CacheCall.Crowds (capacity : ℕ) (fifo : Fifo) : CacheCall → Prop
  | put now id _ => id ∈ (fifo.live now).map Prod.fst ∧ capacity ≤ (fifo.live now).length ∧
      (fifo.live now).head?.map Prod.fst ≠ some id
  | _ => False

lemma Fifo.store_eq_iff {fifo : Fifo} {capacity : ℕ} {id : Bytes} {session : CachedSession} :
    fifo.store (capacity ≤ fifo.length) id session =
        fifo.store (!(fifo.map Prod.fst).contains id && capacity ≤ fifo.length) id session ↔
      ¬ (id ∈ fifo.map Prod.fst ∧ capacity ≤ fifo.length ∧ fifo.head?.map Prod.fst ≠ some id) := by
  by_cases hfull : capacity ≤ fifo.length
  swap
  · simp [hfull]
  by_cases hstored : id ∈ fifo.map Prod.fst
  swap
  · simp [hfull, hstored]
  rw [store, store, decide_eq_true hfull, contains_iff_mem.mpr hstored]
  cases fifo with
  | nil => cases hstored
  | cons oldest rest =>
    by_cases holdest : oldest.1 = id
    · simp [holdest]
    · exact iff_of_false (by simp [holdest]) (not_not.mpr ⟨hstored, hfull, by simpa using holdest⟩)

/-! ### The cache read as a list -/

namespace SessionCache

variable {cache next : SessionCache} {now : ℕ} {id : Bytes} {session : CachedSession}

def fifo (cache : SessionCache) : Fifo :=
  cache.insertionOrder.filterMap fun id ↦ (cache.sessions.lookup id).map (id, ·)

structure WellFormed (cache : SessionCache) : Prop where
  nodup : cache.insertionOrder.Nodup
  mem_iff : ∀ id, id ∈ cache.insertionOrder ↔ id ∈ cache.sessions

section

variable (hwf : cache.WellFormed)

include hwf

lemma WellFormed.mem_fifo : (id, session) ∈ cache.fifo ↔ cache.sessions.lookup id =
    some session := by
  simp only [fifo, mem_filterMap, Option.map_eq_some_iff, Prod.mk.injEq]
  constructor
  · rintro ⟨other, -, found, hfound, rfl, rfl⟩
    exact hfound
  · intro hfound
    have hmem : id ∈ cache.sessions := AList.lookup_isSome.mp (by rw [hfound]; rfl)
    exact ⟨id, (hwf.mem_iff id).mpr hmem, session, hfound, rfl, rfl⟩

lemma WellFormed.map_fst_fifo : cache.fifo.map Prod.fst = cache.insertionOrder := by
  have hfound : ∀ id ∈ cache.insertionOrder, ((cache.sessions.lookup id).map (id, ·)).map Prod.fst =
      some id := by
    intro id hmem
    obtain ⟨session, hsession⟩ :=
      Option.isSome_iff_exists.mp (AList.lookup_isSome.mpr ((hwf.mem_iff id).mp hmem))
    rw [hsession, Option.map_some, Option.map_some]
  rw [fifo, map_filterMap, filterMap_congr hfound, filterMap_some]

lemma WellFormed.len_eq : cache.len = cache.fifo.length := by
  have hperm : cache.insertionOrder.Perm cache.sessions.keys :=
    (perm_ext_iff_of_nodup hwf.nodup cache.sessions.keys_nodup).mpr hwf.mem_iff
  rw [len, ← hperm.length_eq, ← hwf.map_fst_fifo, length_map]

end

/-- Some sessions are dropped from the map and from the order alike. -/
structure Keeps (keep : Bytes → Bool) (cache next : SessionCache) : Prop where
  order : next.insertionOrder = cache.insertionOrder.filter keep
  lookup : ∀ id, next.sessions.lookup id = if keep id then cache.sessions.lookup id else none

variable {keep : Bytes → Bool}

lemma Keeps.wellFormed (hkeeps : Keeps keep cache next) (hwf : cache.WellFormed) :
    next.WellFormed where
  nodup := hkeeps.order ▸ hwf.nodup.filter keep
  mem_iff := fun id ↦ by
    rw [hkeeps.order, mem_filter, hwf.mem_iff, ← AList.lookup_isSome, ← AList.lookup_isSome,
      hkeeps.lookup]
    cases keep id <;> simp

lemma Keeps.fifo_eq (hkeeps : Keeps keep cache next) : next.fifo = cache.fifo.filter fun entry ↦
    keep entry.1 := by
  rw [fifo, hkeeps.order, filterMap_filter, fifo, filter_filterMap]
  congr 1
  funext id
  rw [hkeeps.lookup]
  cases hkeep : keep id <;> cases cache.sessions.lookup id <;> simp [hkeep, Option.filter]

lemma keeps_remove : Keeps (· ≠ id) cache (cache.remove id) where
  order := rfl
  lookup := fun other ↦ by
    by_cases hother : other = id
    · subst hother
      simp [remove]
    · simp [remove, hother, AList.lookup_erase_ne hother]

lemma lookup_foldl_erase (ids : List Bytes) (sessions : AList fun _ : Bytes ↦ CachedSession) :
    (ids.foldl (fun sessions id ↦ sessions.erase id) sessions).lookup id =
      if id ∉ ids then sessions.lookup id else none := by
  induction ids generalizing sessions with
  | nil => simp
  | cons other ids ih =>
    rw [foldl_cons, ih]
    by_cases hother : id = other
    · subst hother
      simp
    · simp [hother, AList.lookup_erase_ne hother]

lemma keeps_evictExpired : Keeps (!(cache.expiredIds now).contains ·) cache
    (cache.evictExpired now) where
  order := rfl
  lookup := fun id ↦ by simp [evictExpired, lookup_foldl_erase]

variable (hwf : cache.WellFormed)

include hwf

lemma fifo_evictExpired : (cache.evictExpired now).fifo = cache.fifo.live now := by
  rw [keeps_evictExpired.fifo_eq, Fifo.live]
  refine filter_congr ?_
  rintro ⟨id, session⟩ hmem
  have hfound := hwf.mem_fifo.mp hmem
  have hstored : id ∈ cache.sessions.keys :=
    AList.mem_keys.mp (AList.lookup_isSome.mp (by rw [hfound]; rfl))
  simp [expiredIds, mem_filter, hfound, hstored]

lemma evictOldest_spec : cache.evictOldest.WellFormed ∧
    cache.evictOldest.fifo = if cache.maxEntries ≤ cache.fifo.length then cache.fifo.tail
      else cache.fifo := by
  rw [evictOldest, hwf.len_eq]
  split_ifs with hfull
  swap
  · exact ⟨hwf, rfl⟩
  have horder := hwf.map_fst_fifo
  have hnodup := hwf.nodup
  split
  · rename_i hempty
    rw [hempty, map_eq_nil_iff] at horder
    exact ⟨hwf, by rw [horder]; rfl⟩
  · rename_i oldest rest hcons
    rw [hcons, nodup_cons] at hnodup
    have hrest : cache.insertionOrder.filter (· ≠ oldest) = rest := by
      rw [hcons, filter_cons_of_neg (by simp), filter_eq_self]
      intro id hmem
      simpa using fun heq : id = oldest ↦ hnodup.1 (heq ▸ hmem)
    rw [← hrest]
    refine ⟨keeps_remove.wellFormed hwf, keeps_remove.fifo_eq.trans ?_⟩
    obtain ⟨first, entries, hfifo, rfl, rfl⟩ := map_eq_cons_iff.mp (horder.trans hcons)
    rw [hfifo, filter_cons_of_neg (by simp), tail_cons, filter_eq_self]
    intro entry hmem
    simpa using fun heq : entry.1 = first.1 ↦ hnodup.1 (heq ▸ mem_map_of_mem hmem)

lemma store_spec (id : Bytes) (session : CachedSession) : (cache.store id session).WellFormed ∧
    (cache.store id session).fifo = cache.fifo.filter (fun entry ↦ entry.1 ≠ id) ++
    [(id, session)] := by
  have horder : (cache.store id session).insertionOrder = (cache.remove id).insertionOrder ++
      [id] := by
    rw [store, remove]
    split_ifs with hstored
    · rfl
    · dsimp only
      rw [filter_eq_self.mpr]
      intro other hmem
      simpa using fun heq : other = id ↦ hstored ((hwf.mem_iff id).mp (heq ▸ hmem))
  have hremoved : (cache.remove id).WellFormed := keeps_remove.wellFormed hwf
  have habsent : id ∉ (cache.remove id).insertionOrder := by simp [remove]
  refine ⟨⟨?_, ?_⟩, ?_⟩
  · rw [horder, nodup_append_comm]
    exact nodup_cons.mpr ⟨habsent, hremoved.nodup⟩
  · intro other
    rw [horder, mem_append, mem_singleton, hremoved.mem_iff, store, AList.mem_insert,
      remove, AList.mem_erase]
    by_cases hother : other = id <;> simp [hother]
  · rw [← keeps_remove.fifo_eq, fifo, horder, filterMap_append]
    congr 1
    · refine filterMap_congr fun other hmem ↦ ?_
      have hother : other ≠ id := fun heq ↦ habsent (heq ▸ hmem)
      rw [store, AList.lookup_insert_ne hother, remove, AList.lookup_erase_ne hother]
    · simp [store]

lemma put_spec (now : ℕ) (id : Bytes) (session : CachedSession) :
    (cache.put now id session).WellFormed ∧
    (cache.put now id session).fifo =
      (cache.fifo.live now).store (cache.maxEntries ≤ (cache.fifo.live now).length) id session := by
  have hlive : (cache.evictExpired now).WellFormed := keeps_evictExpired.wellFormed hwf
  obtain ⟨hroom, hfifo⟩ := evictOldest_spec hlive
  obtain ⟨hstored, hput⟩ := store_spec hroom id session
  refine ⟨hstored, ?_⟩
  rw [put, hput, hfifo, fifo_evictExpired hwf, Fifo.store]
  simp [evictExpired]

lemma get_spec (now : ℕ) (id : Bytes) : (cache.get now id).2.WellFormed ∧
    (cache.get now id).2.fifo = cache.fifo.filter (fun entry ↦
    ¬ (entry.1 = id ∧ entry.2.isExpired now = true)) ∧
      ∀ session, (cache.get now id).1 = some session ↔ (id, session) ∈ cache.fifo ∧
      session.isExpired now = false := by
  have hentry (entry : Bytes × CachedSession) (hmem : entry ∈ cache.fifo) (hid : entry.1 = id) :
      cache.sessions.lookup id = some entry.2 := hid ▸ hwf.mem_fifo.mp hmem
  simp only [hwf.mem_fifo]
  rw [get]
  split
  · rename_i hnone
    refine ⟨hwf, (filter_eq_self.mpr fun entry hmem ↦ decide_eq_true (not_and.mpr fun hid _ ↦
      ?_)).symm, by simp [hnone]⟩
    simpa [hnone] using hentry entry hmem hid
  rename_i found hfound
  have hsame (entry : Bytes × CachedSession) (hmem : entry ∈ cache.fifo) (hid : entry.1 = id) :
    entry.2 = found :=
    Option.some.inj ((hentry entry hmem hid).symm.trans hfound)
  split_ifs with hexpired
  · refine ⟨keeps_remove.wellFormed hwf, keeps_remove.fifo_eq.trans (filter_congr fun entry hmem ↦
      ?_), ?_⟩
    · exact decide_eq_decide.mpr
        (not_congr ⟨fun hid ↦ ⟨hid, hsame entry hmem hid ▸ hexpired⟩, And.left⟩)
    · simp [hfound, hexpired]
  · refine ⟨hwf, (filter_eq_self.mpr fun entry hmem ↦
      decide_eq_true (not_and.mpr fun hid hgone ↦ ?_)).symm, ?_⟩
    · exact hexpired (hsame entry hmem hid ▸ hgone)
    · simpa [hfound] using hexpired

end SessionCache

open SessionCache

lemma maxEntries_perform (cache : SessionCache) (call : CacheCall) :
    (call.perform cache).maxEntries = cache.maxEntries := by
  cases call with
  | put now id session =>
    show ((cache.evictExpired now).evictOldest).maxEntries = _
    rw [evictOldest]
    split_ifs
    · split <;> rfl
    · rfl
  | get now id =>
    rw [CacheCall.perform, SessionCache.get]
    split
    · rfl
    · split_ifs <;> rfl
  | remove id => rfl
  | len => rfl

section

variable {cache : SessionCache} (hwf : cache.WellFormed)

include hwf

lemma perform_spec (call : CacheCall) :
    (call.perform cache).WellFormed ∧
    ((call.perform cache).fifo = call.specify cache.maxEntries cache.fifo ↔
      ¬ call.Crowds cache.maxEntries cache.fifo) := by
  cases call with
  | put now id session =>
    obtain ⟨hput, hfifo⟩ := put_spec hwf now id session
    refine ⟨hput, ?_⟩
    rw [CacheCall.perform, hfifo]
    exact Fifo.store_eq_iff
  | get now id =>
    obtain ⟨hget, hfifo, -⟩ := get_spec hwf now id
    exact ⟨hget, iff_of_true hfifo not_false⟩
  | remove id => exact ⟨keeps_remove.wellFormed hwf, iff_of_true keeps_remove.fifo_eq not_false⟩
  | len => exact ⟨hwf, iff_of_true rfl not_false⟩

lemma length_perform_le (hcap : 1 ≤ cache.maxEntries) (hlen : cache.fifo.length ≤ cache.maxEntries)
    (call : CacheCall) :
    (call.perform cache).fifo.length ≤ cache.maxEntries := by
  cases call with
  | put now id session =>
    have hlive : (cache.fifo.live now).length ≤ cache.fifo.length := length_filter_le _ _
    rw [CacheCall.perform, (put_spec hwf now id session).2, Fifo.store, length_append,
      length_singleton]
    refine (Nat.succ_le_succ (length_filter_le _ _)).trans ?_
    split_ifs with hcrowded
    · rw [length_tail]
      omega
    · have := of_decide_eq_false (Bool.not_eq_true _ ▸ hcrowded)
      omega
  | get now id =>
    rw [CacheCall.perform, (get_spec hwf now id).2.1]
    exact (length_filter_le _ _).trans hlen
  | remove id =>
    rw [CacheCall.perform, keeps_remove.fifo_eq]
    exact (length_filter_le _ _).trans hlen
  | len => exact hlen

/-- Expiry and eviction only take entries away. -/
lemma overwrite_of_mem_perform (call : CacheCall) {entry : Bytes × CachedSession}
    {last : Option CachedSession}
    (hlast : entry ∈ cache.fifo → last = some entry.2) (hmem : entry ∈ (call.perform cache).fifo) :
    call.overwrite entry.1 last = some entry.2 := by
  cases call with
  | put now id session =>
    rw [CacheCall.perform, (put_spec hwf now id session).2, Fifo.store] at hmem
    rcases mem_append.mp hmem with hold | hnew
    · obtain ⟨hold, hother⟩ := mem_filter.mp hold
      have hlive : entry ∈ cache.fifo.live now := by
        split_ifs at hold
        · exact mem_of_mem_tail hold
        · exact hold
      exact (if_neg (Ne.symm (of_decide_eq_true hother))).trans (hlast (mem_filter.mp hlive).1)
    · rw [mem_singleton.mp hnew]
      exact if_pos rfl
  | get now id =>
    rw [CacheCall.perform, (get_spec hwf now id).2.1] at hmem
    exact hlast (mem_filter.mp hmem).1
  | remove id =>
    rw [CacheCall.perform, keeps_remove.fifo_eq, mem_filter] at hmem
    exact (if_neg (Ne.symm (of_decide_eq_true hmem.2))).trans (hlast hmem.1)
  | len => exact hlast hmem

end

lemma after_spec {capacity : ℕ} (hcap : 1 ≤ capacity) (history : List CacheCall) :
    (afterCalls capacity history).WellFormed ∧ (afterCalls capacity history).maxEntries = capacity ∧
      (afterCalls capacity history).fifo.length ≤ capacity := by
  induction history using reverseRecOn with
  | nil => exact ⟨⟨nodup_nil, by simp [afterCalls, withCapacity]⟩, rfl, Nat.zero_le _⟩
  | append_singleton history call ih =>
    obtain ⟨hwf, hmax, hlen⟩ := ih
    rw [afterCalls, foldl_append, foldl_cons, foldl_nil, ← afterCalls, maxEntries_perform, hmax]
    refine ⟨(perform_spec hwf call).1, rfl, ?_⟩
    have hstep := length_perform_le hwf (hmax.symm ▸ hcap) (hmax.symm ▸ hlen) call
    rwa [hmax] at hstep

/-- After any history the cache returns the fresh sessions of its queue. -/
lemma get_afterCalls_iff {capacity : ℕ} (hcap : 1 ≤ capacity) (history : List CacheCall)
    (now : ℕ) (id : Bytes) (session : CachedSession) :
    ((afterCalls capacity history).get now id).1 = some session ↔
      (id, session) ∈ (afterCalls capacity history).fifo ∧ session.isExpired now = false :=
  (get_spec (after_spec hcap history).1 now id).2.2 session

lemma lastStored_of_mem_fifo {capacity : ℕ} (hcap : 1 ≤ capacity) {history : List CacheCall}
    {id : Bytes} {session : CachedSession}
    (hmem : (id, session) ∈ (afterCalls capacity history).fifo) :
    lastStored id history = some session := by
  induction history using reverseRecOn generalizing id session with
  | nil => simp [afterCalls, withCapacity, fifo] at hmem
  | append_singleton history call ih =>
    rw [afterCalls, foldl_append] at hmem
    rw [lastStored, foldl_append]
    exact overwrite_of_mem_perform (after_spec hcap history).1 call ih hmem

theorem sessionCache_fifo_iff {capacity : ℕ} (hcap : 1 ≤ capacity) (history : List CacheCall)
    (call : CacheCall) :
    (afterCalls capacity history).insertionOrder.Nodup ∧
      (∀ id, id ∈ (afterCalls capacity history).insertionOrder ↔
      id ∈ (afterCalls capacity history).sessions) ∧
      (afterCalls capacity history).len = (afterCalls capacity history).fifo.length ∧
      (afterCalls capacity history).len ≤ capacity ∧
      (∀ now id session, ((afterCalls capacity history).get now id).1 = some session ↔
        (id, session) ∈ (afterCalls capacity history).fifo ∧ session.isExpired now = false) ∧
      ((call.perform (afterCalls capacity history)).fifo = call.specify capacity
      (afterCalls capacity history).fifo ↔
        ¬ call.Crowds capacity (afterCalls capacity history).fifo) := by
  obtain ⟨hwf, hmax, hlen⟩ := after_spec hcap history
  refine ⟨hwf.nodup, hwf.mem_iff, hwf.len_eq, hwf.len_eq ▸ hlen,
    get_afterCalls_iff hcap history, ?_⟩
  have hstep := (perform_spec hwf call).2
  rwa [hmax] at hstep

def miniCached : CachedSession :=
    ⟨⟨[], TlcpCipherSuite.eccSm4GcmSm3.id, .fill 32 0, .fill 32 0⟩, 0, 10⟩

def twoStored : List CacheCall := [.put 0 [1] miniCached, .put 0 [2] miniCached]

theorem oldest_stored_again :
    (CacheCall.perform (afterCalls 2 twoStored) (.put 1 [1] miniCached)).fifo =
    CacheCall.specify 2 (afterCalls 2 twoStored).fifo (.put 1 [1] miniCached) :=
  (sessionCache_fifo_iff (by decide) twoStored _).2.2.2.2.2.mpr fun hcrowds ↦ hcrowds.2.2 rfl

theorem stored_again_evicts :
    ((afterCalls 2 (twoStored ++ [.put 1 [2] miniCached])).get 1 [1]).1 = none ∧
      (CacheCall.specify 2 (afterCalls 2 twoStored).fifo (.put 1 [2] miniCached)).map Prod.fst =
        [[1], [2]] :=
  ⟨rfl, rfl⟩

/-- The cache forgets but never mistakes: what it returns is fresh, and a table that forgets nothing
has it too. -/
theorem get_lastStored {capacity : ℕ} (hcap : 1 ≤ capacity) (history : List CacheCall)
    (now : ℕ) (id : Bytes)
    (session : CachedSession) (hget : ((afterCalls capacity history).get now id).1 = some session) :
    lastStored id history = some session ∧ session.isExpired now = false := by
  obtain ⟨hmem, hfresh⟩ := (get_afterCalls_iff hcap history now id session).mp hget
  exact ⟨lastStored_of_mem_fifo hcap hmem, hfresh⟩

theorem twoStored_lastStored : lastStored [1] twoStored = some miniCached ∧
    miniCached.isExpired 1 = false :=
  get_lastStored (by decide : 1 ≤ 2) twoStored 1 [1] miniCached rfl

end GmStack.Tlcp
