import GmStack.Tls.MiniProfile
import GmStack.Tls.Polling

/-! `RecordStream.Moves` says once what a call can do to the write side of a stream. Only
`write_application_data` asks `is_key_exhausted`. -/

namespace GmStack.Tls

open Foundation Crypto List Relation.ReflTransGen

variable {F P : Type} [CommRing F] [AddCommGroup P] [Module F P] (lib : TlsLibrary F P)

namespace RecordStream

def writeSide (stream : RecordStream) :=
  (stream.writeKey, stream.writeNonce, stream.writeTrafficSecret, stream.version, stream.writeSeq,
    stream.usedWriteNonces, stream.epoch, stream.sealed)

/-- One record was counted and encrypted. -/
def Encrypts (stream next : RecordStream) : Prop :=
  ∃ used queue nonce inner, nextNonce stream.writeNonce stream.writeSeq = .ok nonce ∧
    (stream.countedWith used queue).WellNumbered ∧
      next = (stream.countedWith used queue).withSealing nonce stream.writeSeq inner

/-- What can happen to the write side of a stream. A record is encrypted at a sequence number that
`allowed` holds of. -/
inductive Moves (allowed : ℕ → Prop) : RecordStream → RecordStream → Prop
  | quiet {stream next : RecordStream} (hsame : next.writeSide = stream.writeSide) :
    Moves allowed stream next
  | count {stream : RecordStream} {used : Finset (Octets 12)} {queue : List (Octets 12)}
      (hkey : stream.writeKey.length ≠ 16) (hnext : (stream.countedWith used queue).WellNumbered) :
      Moves allowed stream (stream.countedWith used queue)
  | encrypt {stream next : RecordStream} (hkey : stream.writeKey.length = 16)
      (hallowed : allowed stream.writeSeq) (hencrypts : stream.Encrypts next) :
        Moves allowed stream next
  | rotate {stream next : RecordStream} (hkey : stream.writeKey.length = 16)
      (hrotate : stream.rotateWriteKey lib = .ok next) : Moves allowed stream next

lemma rotateWriteKey_eq_ok {stream next : RecordStream}
    (hrot : stream.rotateWriteKey lib = .ok next) :
    ∃ newSecret newKey newNonce, nextTrafficSecret lib
        "cannot perform KeyUpdate: write traffic secret not set" stream.writeTrafficSecret =
          .ok (newSecret, newKey, newNonce) ∧
      next = { stream with
        writeKey := newKey
        writeNonce := newNonce
        writeSeq := 0
        usedWriteNonces := ∅
        nonceEvictionQueue := []
        writeTrafficSecret := some newSecret
        epoch := stream.epoch + 1 } := by
  simp only [rotateWriteKey, bind_eq_ok] at hrot
  obtain ⟨⟨newSecret, newKey, newNonce⟩, hnext, hres⟩ := hrot
  exact ⟨newSecret, newKey, newNonce, hnext, (Except.ok.inj hres).symm⟩

/-! ### The history of a stream -/

def sealedIn (stream : RecordStream) (epoch : ℕ) : List Sealing :=
  stream.sealed.filter fun entry ↦ entry.epoch = epoch

lemma sealedIn_withSealing (stream : RecordStream) (nonce : Octets 12) (seq : ℕ) (inner : Bytes)
    (epoch : ℕ) :
    (stream.withSealing nonce seq inner).sealedIn epoch = stream.sealedIn epoch ++
      if stream.epoch = epoch then [⟨stream.epoch, stream.writeKey, nonce,
        recordAad seq (recordHeader stream.version (inner.length + 16)), inner⟩] else [] := by
  show List.filter _ (stream.sealed ++ [_]) = _
  rw [filter_append]
  congr 1
  by_cases hepoch : stream.epoch = epoch
  · simp [hepoch]
  · simp [hepoch]

def writeChain (start : RecordStream) : ℕ → Bytes × Octets 12 × Option Bytes
  | 0 => (start.writeKey, start.writeNonce, start.writeTrafficSecret)
  | epoch + 1 =>
    match nextTrafficSecret lib "cannot perform KeyUpdate: write traffic secret not set"
        (writeChain start epoch).2.2 with
    | .ok (newSecret, newKey, newNonce) => (newKey, newNonce, some newSecret)
    | .error _ => writeChain start epoch

/-- The history of a stream agrees with its keys and its sequence number. -/
structure Ledger (start stream : RecordStream) : Prop where
  numbered : stream.WellNumbered
  version : stream.version = start.version
  keys : (stream.writeKey, stream.writeNonce, stream.writeTrafficSecret) =
    writeChain lib start stream.epoch
  unusable : stream.writeKey.length ≠ 16 → stream.sealed = []
  current : stream.writeKey.length = 16 → (stream.sealedIn stream.epoch).length = stream.writeSeq
  later : ∀ epoch > stream.epoch, stream.sealedIn epoch = []
  entries : ∀ epoch index entry, (stream.sealedIn epoch)[index]? = some entry →
    entry.key = (writeChain lib start epoch).1 ∧ nextNonce (writeChain lib start epoch).2.1 index =
    .ok entry.nonce ∧
        entry.aad = recordAad index (recordHeader start.version (entry.inner.length + 16))

lemma ledger_withVersion (stream : GmTlsStream) (version : Octets 2) :
    Ledger lib (stream.withVersion version) (stream.withVersion version) where
  numbered := wellNumbered_withVersion stream version
  version := rfl
  keys := rfl
  unusable := fun _ ↦ rfl
  current := fun _ ↦ rfl
  later := fun _ _ ↦ rfl
  entries := by
    intro epoch index entry hentry
    cases hentry

variable {lib} {allowed : ℕ → Prop} {start stream next : RecordStream}

section

variable (hledger : Ledger lib start stream)

include hledger

lemma Ledger.quiet (hsame : next.writeSide = stream.writeSide) : Ledger lib start next := by
  simp only [writeSide, Prod.mk.injEq] at hsame
  obtain ⟨hkey, hnonce, hsec, hvers, hseq, hused, hepoch, hsealed⟩ := hsame
  have hsealedIn (epoch : ℕ) : next.sealedIn epoch = stream.sealedIn epoch := by
    rw [sealedIn, hsealed, sealedIn]
  constructor
  · constructor
    · rw [hseq]
      exact hledger.numbered.bound
    · rw [hused, hnonce, hseq]
      exact hledger.numbered.nonces
  · rw [hvers, hledger.version]
  · rw [hkey, hnonce, hsec, hepoch, hledger.keys]
  · rw [hkey, hsealed]
    exact hledger.unusable
  · rw [hkey, hsealedIn, hepoch, hseq]
    exact hledger.current
  · intro epoch hlater
    rw [hsealedIn]
    exact hledger.later epoch (hepoch ▸ hlater)
  intro epoch index entry hentry
  rw [hsealedIn] at hentry
  exact hledger.entries epoch index entry hentry

variable {used : Finset (Octets 12)} {queue : List (Octets 12)}

lemma Ledger.count (hkey : stream.writeKey.length ≠ 16)
    (hnext : (stream.countedWith used queue).WellNumbered) :
    Ledger lib start (stream.countedWith used queue) where
  numbered := hnext
  version := hledger.version
  keys := hledger.keys
  unusable := hledger.unusable
  current := fun hlen ↦ absurd hlen hkey
  later := hledger.later
  entries := hledger.entries

lemma Ledger.encrypt (hkey : stream.writeKey.length = 16) {nonce : Octets 12} (inner : Bytes)
    (hnonce : nextNonce stream.writeNonce stream.writeSeq = .ok nonce)
    (hnext : (stream.countedWith used queue).WellNumbered) : Ledger lib start
      ((stream.countedWith used queue).withSealing nonce stream.writeSeq inner) where
  numbered := ⟨hnext.bound, hnext.nonces⟩
  version := hledger.version
  keys := hledger.keys
  unusable := fun hlen ↦ absurd hkey hlen
  current := by
    intro _
    rw [sealedIn_withSealing]
    show (stream.sealedIn stream.epoch ++ if stream.epoch = stream.epoch then [_] else []).length =
      stream.writeSeq + 1
    rw [if_pos rfl, length_append, hledger.current hkey, length_singleton]
  later := by
    intro epoch hlater
    rw [sealedIn_withSealing]
    have hother : stream.epoch ≠ epoch := Nat.ne_of_lt hlater
    show stream.sealedIn epoch ++ (if stream.epoch = epoch then [_] else []) = []
    rw [hledger.later epoch hlater, if_neg hother, append_nil]
  entries := by
    intro epoch index entry hentry
    rw [sealedIn_withSealing] at hentry
    change (stream.sealedIn epoch ++ if stream.epoch = epoch then [_] else [])[index]? =
      some entry at hentry
    by_cases hold : index < (stream.sealedIn epoch).length
    · rw [List.getElem?_append_left hold] at hentry
      exact hledger.entries epoch index entry hentry
    by_cases hepoch : stream.epoch = epoch
    · subst hepoch
      rw [if_pos rfl, List.getElem?_append_right (Nat.not_lt.mp hold)] at hentry
      -- The new entry is the last of its epoch, so its place is the sequence number.
      obtain ⟨hplace, hlast⟩ := List.getElem?_eq_some_iff.mp hentry
      rw [length_singleton] at hplace
      have hindex : index = stream.writeSeq := by
        have hcurrent := hledger.current hkey
        omega
      rw [getElem_singleton] at hlast
      rw [← hledger.keys, ← hlast, hindex]
      refine ⟨rfl, hnonce, ?_⟩
      show recordAad stream.writeSeq (recordHeader stream.version _) = _
      rw [hledger.version]
    · rw [if_neg hepoch, append_nil] at hentry
      exact absurd (List.getElem?_eq_some_iff.mp hentry).1 hold

lemma Ledger.rotate (hrot : stream.rotateWriteKey lib = .ok next) : Ledger lib start next := by
  obtain ⟨newSecret, newKey, newNonce, hsec, rfl⟩ := rotateWriteKey_eq_ok lib hrot
  have hkey : newKey.length = 16 := length_of_nextTrafficSecret lib hsec
  have hnil (epoch : ℕ) (hlater : epoch > stream.epoch) :
      stream.sealed.filter (fun entry ↦ entry.epoch = epoch) = [] := hledger.later epoch hlater
  constructor
  · exact ⟨show 0 < 2 ^ 64 by decide, fun nonce hmem ↦ absurd hmem (Finset.notMem_empty nonce)⟩
  · exact hledger.version
  · show (newKey, newNonce, some newSecret) = writeChain lib start (stream.epoch + 1)
    have hprev : (writeChain lib start stream.epoch).2.2 = stream.writeTrafficSecret := by
      rw [← hledger.keys]
    rw [writeChain, hprev, hsec]
  · exact fun hlen ↦ absurd hkey hlen
  · intro _
    show (stream.sealed.filter fun entry ↦ entry.epoch = stream.epoch + 1).length = 0
    rw [hnil _ (Nat.lt_succ_self _), length_nil]
  · intro epoch hlater
    exact hnil epoch (Nat.lt_of_succ_lt hlater)
  · exact hledger.entries

lemma Ledger.moves (hmoves : Moves lib allowed stream next) : Ledger lib start next := by
  cases hmoves with
  | quiet hsame => exact hledger.quiet hsame
  | count hkey hnext => exact hledger.count hkey hnext
  | encrypt hkey _ hencs =>
    obtain ⟨used, queue, nonce, inner, hnonce, hnext, rfl⟩ := hencs
    exact hledger.encrypt hkey inner hnonce hnext
  | rotate _ hrot => exact hledger.rotate hrot

lemma Ledger.moves_star (hmoves : Relation.ReflTransGen (Moves lib allowed) stream next) :
    Ledger lib start next := by
  induction hmoves with
  | refl => exact hledger
  | tail _ hmove ih => exact ih.moves hmove

end

section

variable (hmoves : Relation.ReflTransGen (Moves lib allowed) stream next)

include hmoves

lemma sealed_of_moves : stream.sealed <+: next.sealed := by
  induction hmoves with
  | refl => exact prefix_refl _
  | @tail middle next _ hmove ih =>
    refine ih.trans ?_
    cases hmove with
    | quiet hsame =>
      have hsealed : next.sealed = middle.sealed := by
        simp only [writeSide, Prod.mk.injEq] at hsame
        exact hsame.2.2.2.2.2.2.2
      rw [hsealed]
    | count => exact prefix_refl _
    | encrypt _ _ hencs =>
      obtain ⟨used, queue, nonce, inner, -, -, rfl⟩ := hencs
      exact prefix_append _ _
    | rotate _ hrot =>
      obtain ⟨newSecret, newKey, newNonce, -, rfl⟩ := rotateWriteKey_eq_ok lib hrot
      exact prefix_refl _

lemma length_sealedIn_le (epoch : ℕ) : (stream.sealedIn epoch).length ≤
    (next.sealedIn epoch).length := by
  obtain ⟨further, hfurther⟩ := sealed_of_moves hmoves
  rw [sealedIn, sealedIn, ← hfurther, filter_append, length_append]
  exact Nat.le_add_right _ _

end

lemma Ledger.succ_le_of_encrypts (hledger : Ledger lib start stream)
    (hkey : stream.writeKey.length = 16) {middle : RecordStream} (hencs : stream.Encrypts middle)
    (hmoves : Relation.ReflTransGen (Moves lib allowed) middle next) :
    stream.writeSeq + 1 ≤ (next.sealedIn stream.epoch).length := by
  obtain ⟨used, queue, nonce, inner, hnonce, hnext, rfl⟩ := hencs
  have hcurrent := (hledger.encrypt hkey inner hnonce hnext).current hkey
  exact hcurrent.symm.le.trans (length_sealedIn_le hmoves stream.epoch)

lemma length_sealedIn_le_of_moves {bound : ℕ} (hledger : Ledger lib start stream)
    (hwithin : ∀ epoch, (stream.sealedIn epoch).length ≤ bound)
    (hallow : ∀ seq, seq + 1 < 2 ^ 64 → allowed seq → seq < bound)
    (hmoves : Relation.ReflTransGen (Moves lib allowed) stream next) (epoch : ℕ) :
    (next.sealedIn epoch).length ≤ bound := by
  induction hmoves with
  | refl => exact hwithin epoch
  | @tail middle next hstar hmove ih =>
    have hmiddle := hledger.moves_star hstar
    cases hmove with
    | quiet hsame =>
      simp only [writeSide, Prod.mk.injEq] at hsame
      rw [sealedIn, hsame.2.2.2.2.2.2.2]
      exact ih
    | count => exact ih
    | encrypt hkey hseq hencs =>
      obtain ⟨used, queue, nonce, inner, hnonce, hnext, rfl⟩ := hencs
      by_cases hepoch : middle.epoch = epoch
      · subst hepoch
        exact ((hmiddle.encrypt hkey inner hnonce hnext).current hkey).le.trans
          (hallow middle.writeSeq hnext.bound hseq)
      rw [sealedIn_withSealing]
      change (middle.sealedIn epoch ++ if middle.epoch = epoch then [_] else []).length ≤ _
      rw [if_neg hepoch, append_nil]
      exact ih
    | rotate _ hrot =>
      obtain ⟨newSecret, newKey, newNonce, -, rfl⟩ := rotateWriteKey_eq_ok lib hrot
      exact ih

/-- No epoch has more encryptions than the limit. -/
def WithinLimit (stream : RecordStream) : Prop :=
  ∀ epoch, (stream.sealedIn epoch).length ≤ gcmConfidentialityLimit

lemma WithinLimit.moves (hwithin : stream.WithinLimit) (hledger : Ledger lib start stream)
    (hmoves : Relation.ReflTransGen (Moves lib (· < gcmConfidentialityLimit)) stream next) :
    next.WithinLimit :=
  length_sealedIn_le_of_moves hledger hwithin (fun _ _ hbelow ↦ hbelow) hmoves

lemma WellNumbered.moves (hstr : stream.WellNumbered) (hmoves : Moves lib allowed stream next) :
    next.WellNumbered := by
  cases hmoves with
  | quiet hsame =>
    simp only [writeSide, Prod.mk.injEq] at hsame
    obtain ⟨-, hnonce, -, -, hseq, hused, -, -⟩ := hsame
    constructor
    · rw [hseq]
      exact hstr.bound
    · rw [hused, hnonce, hseq]
      exact hstr.nonces
  | count _ hnext => exact hnext
  | encrypt _ _ hencs =>
    obtain ⟨used, queue, nonce, inner, -, hnext, rfl⟩ := hencs
    exact ⟨hnext.bound, hnext.nonces⟩
  | rotate _ hrot =>
    obtain ⟨newSecret, newKey, newNonce, -, rfl⟩ := rotateWriteKey_eq_ok lib hrot
    exact ⟨show 0 < 2 ^ 64 by decide, fun nonce hmem ↦ absurd hmem (Finset.notMem_empty nonce)⟩

/-! ### The calls -/

variable {trace : List (Event TlsNote)} {result : Except (TlsError × RecordStream) RecordStream}
  {text : String}
  {inner : Bytes}

lemma moves_writeRecord (hstr : stream.WellNumbered) (hallow : stream.writeKey.length = 16 →
    allowed stream.writeSeq)
    (hruns : Runs (stream.writeRecord lib text inner) trace result) :
    Moves lib allowed stream (leftBehind result) ∧
      ∀ next, result = .ok next → stream.writeKey.length = 16 ∧ stream.Encrypts next := by
  rcases runs_writeRecord lib hstr hruns with ⟨-, error, rfl⟩ |
    ⟨-, nonce, used, queue, hnonce, hnext, ⟨hkey, error, rfl⟩ | ⟨hkey, hleft⟩⟩
  · exact ⟨.quiet rfl, fun next hok ↦ by cases hok⟩
  · exact ⟨.count hkey hnext, fun next hok ↦ by cases hok⟩
  have hencs : stream.Encrypts (leftBehind result) :=
    ⟨used, queue, nonce, inner, hnonce, hnext, hleft⟩
  refine ⟨.encrypt hkey (hallow hkey) hencs, fun next hok ↦ ⟨hkey, ?_⟩⟩
  rwa [hok] at hencs

variable {requestPeerUpdate : Bool}

lemma runs_sendKeyUpdate (hruns : Runs (stream.sendKeyUpdate lib requestPeerUpdate) trace result) :
    ∃ before written, Runs (stream.writeRecord lib "KeyUpdate encrypt: "
        (keyUpdateMessage requestPeerUpdate ++ [0x16])) before written ∧
      ((∃ error, result = .error error ∧ leftBehind result = leftBehind written) ∨
        ∃ middle next, written = .ok middle ∧ result = .ok next ∧ middle.rotateWriteKey lib =
        .ok next) := by
  rcases runs_bind.mp hruns with ⟨error, rfl, hwrote⟩ | ⟨middle, before, after, rfl, hwrote, hrest⟩
  · exact ⟨trace, .error error, hwrote, .inl ⟨error, rfl, rfl⟩⟩
  refine ⟨before, .ok middle, hwrote, ?_⟩
  obtain ⟨-, hres⟩ := runs_done_iff.mp hrest
  cases hrot : middle.rotateWriteKey lib with
  | error error =>
    rw [hrot] at hres
    subst hres
    exact .inl ⟨_, rfl, rfl⟩
  | ok next =>
    rw [hrot] at hres
    exact .inr ⟨middle, next, rfl, hres, hrot⟩

section

variable (hstr : stream.WellNumbered)

include hstr

lemma moves_sendKeyUpdate (hallow : stream.writeKey.length = 16 → allowed stream.writeSeq)
    (hruns : Runs (stream.sendKeyUpdate lib requestPeerUpdate) trace result) :
    Relation.ReflTransGen (Moves lib allowed) stream (leftBehind result) ∧
      ∀ next, result = .ok next → next.writeSeq = 0 := by
  obtain ⟨before, written, hwrote, ⟨error, rfl, hleft⟩ | ⟨middle, next, rfl, rfl, hrot⟩⟩ :=
    runs_sendKeyUpdate hruns
  · obtain ⟨hmove, -⟩ := moves_writeRecord hstr hallow hwrote
    rw [hleft]
    exact ⟨.single hmove, fun next hok ↦ by cases hok⟩
  obtain ⟨hmove, hok⟩ := moves_writeRecord hstr hallow hwrote
  obtain ⟨hkey, used, queue, nonce, inner, -, -, rfl⟩ := hok middle rfl
  refine ⟨(single hmove).tail (.rotate hkey hrot), fun final hfinal ↦ ?_⟩
  obtain ⟨newSecret, newKey, newNonce, -, rfl⟩ := rotateWriteKey_eq_ok lib hrot
  cases hfinal
  rfl

lemma moves_flushPendingKeyUpdate
    (hallow : stream.writeKey.length = 16 → stream.keyUpdatePending = true →
    allowed stream.writeSeq)
    (hruns : Runs (stream.flushPendingKeyUpdate lib) trace result) :
    Relation.ReflTransGen (Moves lib allowed) stream (leftBehind result) ∧
      ∀ next, result = .ok next → next.writeSeq = 0 ∨ stream.keyUpdatePending = false ∧
      next = stream := by
  rw [flushPendingKeyUpdate] at hruns
  by_cases hpend : stream.keyUpdatePending = true
  · rw [if_pos hpend] at hruns
    have hquiet : Moves lib allowed stream { stream with keyUpdatePending := false } := .quiet rfl
    obtain ⟨hmoves, hzero⟩ := moves_sendKeyUpdate (hstr.moves hquiet)
      (fun hkey ↦ hallow hkey hpend) hruns
    exact ⟨hmoves.head hquiet, fun next hok ↦ .inl (hzero next hok)⟩
  rw [if_neg hpend] at hruns
  obtain ⟨-, rfl⟩ := runs_done_iff.mp hruns
  exact ⟨.refl, fun next hok ↦ .inr ⟨Bool.eq_false_iff.mpr hpend, (Except.ok.inj hok).symm⟩⟩

lemma WellNumbered.moves_star (hmoves : Relation.ReflTransGen (Moves lib allowed) stream next) :
    next.WellNumbered := by
  induction hmoves with
  | refl => exact hstr
  | tail _ hmove ih => exact ih.moves hmove

end

variable {plaintext : Bytes}

lemma moves_writeBelowLimit (hzero : allowed 0) (hstr : stream.WellNumbered)
    (hallow : stream.writeKey.length = 16 → ¬ stream.IsKeyExhausted → allowed stream.writeSeq)
    (hruns : Runs (stream.writeBelowLimit lib plaintext) trace result) :
    Relation.ReflTransGen (Moves lib allowed) stream (leftBehind result) := by
  unfold writeBelowLimit at hruns
  by_cases hexh : stream.IsKeyExhausted
  · rw [rejectIf_pos hexh, Proc.check_error_bind] at hruns
    obtain ⟨-, rfl⟩ := runs_done_iff.mp hruns
    exact .refl
  rw [rejectIf_neg hexh, Proc.check_ok_bind] at hruns
  have hmay := fun hkey ↦ hallow hkey hexh
  have hupd {before : List (Event TlsNote)}
    {updated : Except (TlsError × RecordStream) RecordStream}
      (hupd : Runs (stream.updateNearLimit lib) before updated) :
      Relation.ReflTransGen (Moves lib allowed) stream (leftBehind updated) ∧
        ∀ next, updated = .ok next → next.writeKey.length = 16 → allowed next.writeSeq := by
    unfold updateNearLimit at hupd
    split_ifs at hupd
    · obtain ⟨hmoves, hreset⟩ := moves_sendKeyUpdate hstr hmay hupd
      refine ⟨hmoves, fun next hok _ ↦ ?_⟩
      rw [hreset next hok]
      exact hzero
    obtain ⟨-, rfl⟩ := runs_done_iff.mp hupd
    refine ⟨.refl, fun next hok hkey ↦ ?_⟩
    obtain rfl := Except.ok.inj hok
    exact hmay hkey
  rcases runs_bind.mp hruns with ⟨error, rfl, hfailed⟩ | ⟨updated, _, _, -, hdone, hwrite⟩
  · exact (hupd hfailed).1
  · obtain ⟨hmoves, hnext⟩ := hupd hdone
    exact hmoves.tail (moves_writeRecord (hstr.moves_star hmoves) (hnext updated rfl) hwrite).1

lemma moves_writeApplicationData (hzero : allowed 0) (hstr : stream.WellNumbered)
    (hallow : stream.writeKey.length = 16 →
      stream.keyUpdatePending = true ∨ ¬ stream.IsKeyExhausted → allowed stream.writeSeq)
    (hruns : Runs (stream.writeApplicationData lib plaintext) trace result) :
    Relation.ReflTransGen (Moves lib allowed) stream (leftBehind result) := by
  have hpend := fun hkey hpend ↦ hallow hkey (.inl hpend)
  rcases runs_bind.mp hruns with ⟨error, rfl, hflush⟩ | ⟨flushed, before, after, rfl, hflush, hrest⟩
  · exact (moves_flushPendingKeyUpdate hstr hpend hflush).1
  obtain ⟨hmoves, hok⟩ := moves_flushPendingKeyUpdate hstr hpend hflush
  refine hmoves.trans (moves_writeBelowLimit hzero (hstr.moves_star hmoves) ?_ hrest)
  intro hkey hexh
  show allowed flushed.writeSeq
  rcases hok flushed rfl with hreset | ⟨-, rfl⟩
  · rw [hreset]
    exact hzero
  · exact hallow hkey (.inr hexh)

lemma moves_close (hstr : stream.WellNumbered)
    (hallow : stream.writeKey.length = 16 → stream.closeNotifySent = false →
    allowed stream.writeSeq)
    (hruns : Runs (stream.close lib) trace result) :
    Relation.ReflTransGen (Moves lib allowed) stream (leftBehind result) := by
  rw [close] at hruns
  by_cases hsent : stream.closeNotifySent = true
  · rw [if_pos hsent] at hruns
    obtain ⟨-, rfl⟩ := runs_done_iff.mp hruns
    exact .refl
  rw [if_neg hsent] at hruns
  have hmay := fun hkey ↦ hallow hkey (Bool.eq_false_iff.mpr hsent)
  rcases runs_bind.mp hruns with ⟨error, rfl, hwrite⟩ | ⟨written, _, _, -, hwrite, hdone⟩
  · exact .single (moves_writeRecord hstr hmay hwrite).1
  · obtain ⟨-, rfl⟩ := runs_done_iff.mp hdone
    exact (single (moves_writeRecord hstr hmay hwrite).1).tail (.quiet rfl)

lemma wellNumbered_countedWrite (hstr : stream.WellNumbered)
    (hseq : stream.writeSeq < 2 ^ 64 - 1) : stream.countedWrite.WellNumbered where
  bound := by
    show stream.writeSeq + 1 < 2 ^ 64
    omega
  nonces := by
    intro nonce hmem
    obtain ⟨seq, hlt, hnonce⟩ := hstr.nonces nonce hmem
    exact ⟨seq, Nat.lt_succ_of_lt hlt, hnonce⟩

variable {exchanges : List Exchange}

variable (hstr : stream.WellNumbered)

include hstr

lemma moves_pollWrite {buf : Bytes} {outcome : Polled ℕ} (hallow : stream.writeKey.length = 16 →
    allowed stream.writeSeq)
    (hpolls : Polls (pollWrite lib buf stream) exchanges next outcome) :
    Moves lib allowed stream next := by
  rcases polls_pollWrite lib hstr.bound hpolls with ⟨-, -, rfl, -⟩ |
    ⟨hseq, nonce, hnonce, ⟨hkey, -, rfl, -⟩ | ⟨hkey, rfl, -⟩⟩
  · exact .quiet rfl
  · exact .count hkey (wellNumbered_countedWrite hstr hseq)
  · exact .encrypt hkey (hallow hkey)
      ⟨_, _, nonce, _, hnonce, wellNumbered_countedWrite hstr hseq, rfl⟩

variable {outcome : Polled Unit}

lemma encrypts_of_pollShutdown (hkey : stream.writeKey.length = 16)
    (hsent : stream.closeNotifySent = false) (hseq : stream.writeSeq < 2 ^ 64 - 1)
    (hpolls : Polls (pollShutdown lib stream) exchanges next outcome) :
    ∃ middle, stream.Encrypts middle ∧ Moves lib allowed middle next := by
  rcases polls_pollShutdown lib hstr.bound hpolls with ⟨hclosed | hlast, -⟩ |
    ⟨-, -, nonce, hnonce, ⟨hother, -⟩ | ⟨-, ciphertext, tag, -, hannounce⟩⟩
  · rw [hsent] at hclosed
    cases hclosed
  · omega
  · exact absurd hkey hother
  refine ⟨stream.countedWrite.withSealing nonce stream.writeSeq [0x01, 0x00, 0x15],
    ⟨_, _, nonce, _, hnonce, wellNumbered_countedWrite hstr hseq, rfl⟩, ?_⟩
  rcases polls_announceEnd hannounce with ⟨-, rfl, -⟩ | ⟨rfl, -⟩
  · exact .quiet rfl
  · exact .quiet rfl

lemma moves_pollShutdown (hallow : stream.writeKey.length = 16 → stream.closeNotifySent = false →
    allowed stream.writeSeq)
    (hpolls : Polls (pollShutdown lib stream) exchanges next outcome) :
    Relation.ReflTransGen (Moves lib allowed) stream next := by
  rcases polls_pollShutdown lib hstr.bound hpolls with ⟨-, -, rfl⟩ | ⟨hsent, hseq, nonce, hnonce,
    ⟨hkey, -, rfl⟩ | ⟨hkey, -⟩⟩
  · exact .refl
  · exact .single (.count hkey (wellNumbered_countedWrite hstr hseq))
  · obtain ⟨middle, hencs, hmove⟩ := encrypts_of_pollShutdown hstr hkey hsent hseq hpolls
    exact (single (.encrypt hkey (hallow hkey hsent) hencs)).tail hmove

variable (hkey : stream.writeKey.length = 16)

include hkey

variable (hseq : stream.writeSeq < 2 ^ 64 - 1)

include hseq

lemma encrypts_of_runs
    (hruns : Runs (stream.writeRecord lib text inner) trace result) :
    stream.Encrypts (leftBehind result) := by
  rcases runs_writeRecord lib hstr hruns with ⟨hlast, -⟩ | ⟨-, nonce, used, queue, hnonce, hnext,
    ⟨hother, -⟩ | ⟨-, hleft⟩⟩
  · omega
  · exact absurd hkey hother
  · exact ⟨used, queue, nonce, inner, hnonce, hnext, hleft⟩

lemma encrypts_of_sendKeyUpdate
    (hruns : Runs (stream.sendKeyUpdate lib requestPeerUpdate) trace result) :
    ∃ middle, stream.Encrypts middle ∧
      Relation.ReflTransGen (Moves lib allowed) middle (leftBehind result) := by
  obtain ⟨before, written, hwrote, ⟨error, rfl, hleft⟩ | ⟨middle, next, rfl, rfl, hrot⟩⟩ :=
    runs_sendKeyUpdate hruns
  · rw [hleft]
    exact ⟨_, encrypts_of_runs hstr hkey hseq hwrote, .refl⟩
  have hencs := encrypts_of_runs hstr hkey hseq hwrote
  refine ⟨middle, hencs, .single (.rotate ?_ hrot)⟩
  obtain ⟨used, queue, nonce, inner, -, -, hmiddle⟩ := hencs
  have hsame : middle = _ := hmiddle
  rw [hsame]
  exact hkey

end RecordStream

/-! ### Runs of calls -/

/-- The calls that write, and the receipt of a key update, which `write_application_data` may
answer. -/
inductive WriteCall
  | writeApplicationData (plaintext : Bytes)
  | pollWrite (buf : Bytes)
  | sendKeyUpdate (requestPeerUpdate : Bool)
  | close
  | pollShutdown
  | processKeyUpdate (request : KeyUpdateRequest)

namespace WriteCall

/-- The call produces no record in this state of the stream. -/
def ProducesNoRecord (call : WriteCall) (stream : RecordStream) : Prop :=
  match call with
  | .writeApplicationData _ => stream.keyUpdatePending = false ∧ stream.IsKeyExhausted
  | .close => stream.closeNotifySent = true
  | .pollShutdown => stream.closeNotifySent = true
  | .processKeyUpdate _ => True
  | _ => False

/-- The call is made while the key is not exhausted, or produces no record. -/
def RespectsLimit (call : WriteCall) (stream : RecordStream) : Prop :=
  stream.IsKeyExhausted → stream.writeKey.length = 16 → call.ProducesNoRecord stream

section Library

/-- A call leads from one stream to another. Nothing is assumed of the transport, and a call that
fails or has to wait leads to the stream that it leaves behind. -/
inductive Leads : WriteCall → RecordStream → RecordStream → Prop
  | writeApplicationData {plaintext : Bytes} {stream : RecordStream} {trace : List (Event TlsNote)}
      {result : Except (TlsError × RecordStream) RecordStream}
      (hruns : Runs (stream.writeApplicationData lib plaintext) trace result) :
      Leads (.writeApplicationData plaintext) stream (RecordStream.leftBehind result)
  | pollWrite {buf : Bytes} {stream next : RecordStream} {trace : List Exchange}
    {outcome : Polled ℕ}
      (hpolls : Polls (RecordStream.pollWrite lib buf stream) trace next outcome) :
      Leads (.pollWrite buf) stream next
  | sendKeyUpdate {requestPeerUpdate : Bool} {stream : RecordStream} {trace : List (Event TlsNote)}
      {result : Except (TlsError × RecordStream) RecordStream}
      (hruns : Runs (stream.sendKeyUpdate lib requestPeerUpdate) trace result) :
      Leads (.sendKeyUpdate requestPeerUpdate) stream (RecordStream.leftBehind result)
  | close {stream : RecordStream} {trace : List (Event TlsNote)}
      {result : Except (TlsError × RecordStream) RecordStream}
        (hruns : Runs (stream.close lib) trace result) :
      Leads .close stream (RecordStream.leftBehind result)
  | pollShutdown {stream next : RecordStream} {trace : List Exchange} {outcome : Polled Unit}
      (hpolls : Polls (RecordStream.pollShutdown lib stream) trace next outcome) :
        Leads .pollShutdown stream next
  | processKeyUpdate {request : KeyUpdateRequest} {stream next : RecordStream} {answer : Bool}
      (hprocess : stream.processKeyUpdate lib request = .ok (answer, next)) :
      Leads (.processKeyUpdate request) stream next

/-- A sequence of calls, listed with the streams they were made on. -/
inductive Run : RecordStream → List (WriteCall × RecordStream) → RecordStream → Prop
  | nil (stream : RecordStream) : Run stream [] stream
  | cons {call : WriteCall} {stream middle final : RecordStream}
      {calls : List (WriteCall × RecordStream)} (hleads : Leads lib call stream middle)
      (hrest : Run middle calls final) : Run stream ((call, stream) :: calls) final

variable {lib} {allowed : ℕ → Prop} {call : WriteCall} {start stream next : RecordStream}

lemma quiet_of_processKeyUpdate {request : KeyUpdateRequest} {answer : Bool}
    (hproc : stream.processKeyUpdate lib request = .ok (answer, next)) :
    next.writeSide = stream.writeSide := by
  simp only [RecordStream.processKeyUpdate, RecordStream.rotateReadKey, bind_eq_ok] at hproc
  obtain ⟨rotated, ⟨⟨newSecret, newKey, newNonce⟩, -, hrotated⟩, hrest⟩ := hproc
  cases hrotated
  split_ifs at hrest <;> cases hrest <;> rfl

lemma moves_of_leads (hzero : allowed 0) (hstr : stream.WellNumbered)
    (hallow : stream.writeKey.length = 16 → ¬ call.ProducesNoRecord stream →
      allowed stream.writeSeq) (hleads : Leads lib call stream next) :
    Relation.ReflTransGen (RecordStream.Moves lib allowed) stream next := by
  cases hleads with
  | writeApplicationData hruns =>
    refine RecordStream.moves_writeApplicationData hzero hstr (fun hkey hmay ↦ ?_) hruns
    refine hallow hkey fun hnone ↦ ?_
    rcases hmay with hpend | hunused
    · rw [hnone.1] at hpend
      cases hpend
    · exact hunused hnone.2
  | pollWrite hpolls =>
    exact .single (RecordStream.moves_pollWrite hstr (fun hkey ↦ hallow hkey id) hpolls)
  | sendKeyUpdate hruns =>
    exact (RecordStream.moves_sendKeyUpdate hstr (fun hkey ↦ hallow hkey id) hruns).1
  | close hruns =>
    exact RecordStream.moves_close hstr
      (fun hkey hsent ↦ hallow hkey fun hnone ↦ Bool.false_ne_true (hsent.symm.trans hnone)) hruns
  | pollShutdown hpolls =>
    exact RecordStream.moves_pollShutdown hstr
      (fun hkey hsent ↦ hallow hkey fun hnone ↦ Bool.false_ne_true (hsent.symm.trans hnone)) hpolls
  | processKeyUpdate hproc => exact .single (.quiet (quiet_of_processKeyUpdate hproc))

lemma encrypts_of_leads (hstr : stream.WellNumbered) (hkey : stream.writeKey.length = 16)
    (hexh : stream.IsKeyExhausted) (hseq : stream.writeSeq < 2 ^ 64 - 1)
    (hproduces : ¬ call.ProducesNoRecord stream) (hleads : Leads lib call stream next) :
    ∃ begun middle : RecordStream, begun.writeSide = stream.writeSide ∧ begun.Encrypts middle ∧
      Relation.ReflTransGen (RecordStream.Moves lib fun _ ↦ True) middle next := by
  cases hleads with
  | @writeApplicationData plaintext _ _ result hruns =>
    have hpend : stream.keyUpdatePending = true := by
      by_contra hnot
      exact hproduces ⟨Bool.eq_false_iff.mpr hnot, hexh⟩
    -- The pending update is sent before the limit is looked at.
    have hflushed {trace : List (Event TlsNote)}
      {flushed : Except (TlsError × RecordStream) RecordStream}
        (hflush : Runs (stream.flushPendingKeyUpdate lib) trace flushed) :
        ∃ middle, ({ stream with keyUpdatePending := false } : RecordStream).Encrypts middle ∧
          Relation.ReflTransGen (RecordStream.Moves lib fun _ ↦ True) middle
          (RecordStream.leftBehind flushed) := by
      rw [RecordStream.flushPendingKeyUpdate, if_pos hpend] at hflush
      exact RecordStream.encrypts_of_sendKeyUpdate ⟨hstr.bound, hstr.nonces⟩ hkey hseq hflush
    rcases runs_bind.mp hruns with ⟨error, rfl, hflush⟩ | ⟨flushed, _, _, -, hflush, hrest⟩
    · obtain ⟨middle, hencs, hmoves⟩ := hflushed hflush
      exact ⟨{ stream with keyUpdatePending := false }, middle, rfl, hencs, hmoves⟩
    obtain ⟨middle, hencs, hmoves⟩ := hflushed hflush
    have hreach : Relation.ReflTransGen (RecordStream.Moves lib fun _ ↦ True) stream flushed :=
      (RecordStream.moves_flushPendingKeyUpdate hstr (fun _ _ ↦ trivial) hflush).1
    exact ⟨{ stream with keyUpdatePending := false }, middle, rfl, hencs, hmoves.trans
      (RecordStream.moves_writeBelowLimit trivial (hstr.moves_star hreach)
      (fun _ _ ↦ trivial) hrest)⟩
  | pollWrite hpolls =>
    rcases RecordStream.polls_pollWrite lib hstr.bound hpolls with ⟨hlast, -⟩ | ⟨-, nonce, hnonce,
      ⟨hother, -⟩ | ⟨-, rfl, -⟩⟩
    · omega
    · exact absurd hkey hother
    · exact ⟨stream, _, rfl,
        ⟨_, _, nonce, _, hnonce, RecordStream.wellNumbered_countedWrite hstr hseq, rfl⟩, .refl⟩
  | sendKeyUpdate hruns =>
    obtain ⟨middle, hencs, hmoves⟩ :=
      RecordStream.encrypts_of_sendKeyUpdate hstr hkey hseq hruns
    exact ⟨stream, middle, rfl, hencs, hmoves⟩
  | close hruns =>
    have hsent : ¬ stream.closeNotifySent = true := hproduces
    rw [RecordStream.close, if_neg hsent] at hruns
    rcases runs_bind.mp hruns with ⟨error, rfl, hwrite⟩ | ⟨written, _, _, -, hwrite, hdone⟩
    · exact ⟨stream, _, rfl, RecordStream.encrypts_of_runs hstr hkey hseq hwrite, .refl⟩
    · obtain ⟨-, rfl⟩ := runs_done_iff.mp hdone
      exact ⟨stream, _, rfl, RecordStream.encrypts_of_runs hstr hkey hseq hwrite,
        .single (.quiet rfl)⟩
  | pollShutdown hpolls =>
    obtain ⟨middle, hencs, hmove⟩ := RecordStream.encrypts_of_pollShutdown hstr hkey
      (Bool.eq_false_iff.mpr hproduces) hseq hpolls
    exact ⟨stream, middle, rfl, hencs, .single hmove⟩
  | processKeyUpdate => exact absurd trivial hproduces

variable {calls : List (WriteCall × RecordStream)} {final : RecordStream}

section

variable (hrun : Run lib stream calls final)

include hrun

lemma Run.moves (hstr : stream.WellNumbered) : Relation.ReflTransGen (RecordStream.Moves lib fun _ ↦
    True) stream final := by
  induction hrun with
  | nil => exact .refl
  | cons hleads _ ih =>
    have hmoves : Relation.ReflTransGen (RecordStream.Moves lib fun _ ↦ True) _ _ :=
      moves_of_leads trivial hstr (fun _ _ ↦ trivial) hleads
    exact hmoves.trans (ih (hstr.moves_star hmoves))

variable (hledger : RecordStream.Ledger lib start stream)

include hledger

lemma Run.ledger : RecordStream.Ledger lib start final :=
  hledger.moves_star (hrun.moves hledger.numbered)

lemma Run.length_sealedIn_lt (hwithin : ∀ epoch, (stream.sealedIn epoch).length ≤ 2 ^ 64 - 1)
    (epoch : ℕ) :
    (final.sealedIn epoch).length ≤ 2 ^ 64 - 1 :=
  RecordStream.length_sealedIn_le_of_moves hledger hwithin
    (fun _ hseq _ ↦ Nat.lt_sub_of_add_lt hseq) (hrun.moves hledger.numbered) epoch

lemma Run.respectsLimit (hwithin : final.WithinLimit) :
    ∀ made ∈ calls, made.1.RespectsLimit made.2 := by
  induction hrun with
  | nil => exact fun made hmem ↦ absurd hmem not_mem_nil
  | @cons call stream middle final calls hleads hrest ih =>
    have hnext := (Run.cons hleads (.nil middle)).ledger hledger
    refine forall_mem_cons.mpr ⟨?_, ih hnext hwithin⟩
    intro hexh hkey
    by_contra hproduces
    -- The number of the stream is the count of its epoch, so it is the limit exactly.
    have hcount : stream.writeSeq ≤ gcmConfidentialityLimit := by
      rw [← hledger.current hkey]
      exact (RecordStream.length_sealedIn_le ((Run.cons hleads hrest).moves hledger.numbered)
        _).trans (hwithin _)
    have hseq : stream.writeSeq < 2 ^ 64 - 1 := lt_of_le_of_lt hcount (by decide)
    obtain ⟨begun, encrypted, hbegun, hencs, hmoves⟩ :=
      encrypts_of_leads hledger.numbered hkey hexh hseq hproduces hleads
    have hover := (hledger.quiet hbegun).succ_le_of_encrypts
      (by simp only [RecordStream.writeSide, Prod.mk.injEq] at hbegun; rw [hbegun.1]; exact hkey)
      hencs hmoves
    have hmiddle := (hover.trans (RecordStream.length_sealedIn_le (hrest.moves hnext.numbered)
      _)).trans (hwithin _)
    have hsame : begun.writeSeq = stream.writeSeq := by
      simp only [RecordStream.writeSide, Prod.mk.injEq] at hbegun
      exact hbegun.2.2.2.2.1
    have hlimit : gcmConfidentialityLimit ≤ stream.writeSeq := hexh
    omega

lemma Run.withinLimit
    (hwithin : stream.WithinLimit) (hcalls : ∀ made ∈ calls, made.1.RespectsLimit made.2) :
    final.WithinLimit := by
  induction hrun with
  | nil => exact hwithin
  | cons hleads _ ih =>
    obtain ⟨hcall, hrest⟩ := forall_mem_cons.mp hcalls
    have hmoves :
      Relation.ReflTransGen (RecordStream.Moves lib (· < gcmConfidentialityLimit)) _ _ :=
      moves_of_leads (by decide) hledger.numbered (fun hkey hnot ↦ Nat.lt_of_not_le fun hexh ↦
        hnot (hcall hexh hkey)) hleads
    exact ih (hledger.moves_star hmoves) (hwithin.moves hledger hmoves) hrest

end

/-- The limit of a key holds over a run of calls exactly when, while the key is exhausted, no call
is made that produces a record. -/
theorem keyUsage_within_limit_iff {stream : GmTlsStream} {version : Octets 2}
    {calls : List (WriteCall × RecordStream)} {final : RecordStream}
    (hrun : Run lib (stream.withVersion version) calls final) :
    final.WithinLimit ↔ ∀ made ∈ calls, made.1.RespectsLimit made.2 := by
  have hledger := RecordStream.ledger_withVersion lib stream version
  constructor
  · exact hrun.respectsLimit hledger
  · exact hrun.withinLimit hledger fun epoch ↦ Nat.zero_le _

variable (lib) in
lemma exists_run_pollWrite (stream : RecordStream) (hkey : stream.writeKey.length = 16)
    (count : ℕ) (hcount : stream.writeSeq + count < 2 ^ 64) :
    ∃ calls final, Run lib stream calls final ∧ (∀ made ∈ calls, made.1 = .pollWrite []) ∧
      final.writeSeq = stream.writeSeq + count ∧ final.epoch = stream.epoch ∧ final.writeKey =
      stream.writeKey := by
  induction count generalizing stream with
  | zero =>
    exact ⟨[], stream, .nil stream, fun made hmem ↦ absurd hmem not_mem_nil, rfl, rfl, rfl⟩
  | succ count ih =>
    obtain ⟨nonce, hnonce⟩ := exists_nextNonce stream.writeNonce (show stream.writeSeq <
      2 ^ 64 - 1 by omega)
    have hsize : (([] : Bytes).length + 17) % 2 ^ 16 ≤ 65535 - 1024 := by decide
    have hpolls := RecordStream.polls_pollWrite_pending lib hkey hnonce hsize
    have hnext : stream.countedWrite.writeSeq + count < 2 ^ 64 := by
      show stream.writeSeq + 1 + count < 2 ^ 64
      omega
    obtain ⟨calls, final, hrun, hcalls, hseq, hepoch, hsame⟩ := ih
      (stream.countedWrite.withSealing nonce stream.writeSeq ([] ++ [0x17])) hkey hnext
    refine ⟨(.pollWrite [], stream) :: calls, final, .cons (.pollWrite hpolls) hrun,
      forall_mem_cons.mpr ⟨rfl, hcalls⟩, ?_, hepoch, hsame⟩
    rw [hseq]
    show stream.writeSeq + 1 + count = stream.writeSeq + (count + 1)
    omega

end Library

/-- A key update and a record of application data under the new key. -/
theorem update_then_data_within_limit :
    ∃ middle final, Run miniTls ((miniSide true).withVersion versionTls13)
        [(.sendKeyUpdate true, (miniSide true).withVersion versionTls13),
        (.writeApplicationData [7], middle)] final ∧
      (final.sealedIn 0).length = 1 ∧ (final.sealedIn 1).length = 1 ∧ final.WithinLimit := by
  have hrun : Run miniTls ((miniSide true).withVersion versionTls13) [_, _] _ :=
    .cons (.sendKeyUpdate (runs_feed (RecordStream.sendKeyUpdate miniTls true _) []))
      (.cons (.writeApplicationData (runs_feed (RecordStream.writeApplicationData miniTls [7] _)
      [])) (.nil _))
  refine ⟨_, _, hrun, by decide, by decide, (keyUsage_within_limit_iff hrun).mpr ?_⟩
  refine forall_mem_cons.mpr ⟨?_, forall_mem_cons.mpr ⟨?_, by simp⟩⟩
  · intro hexhausted
    exact absurd hexhausted (by decide)
  · intro hexhausted
    exact absurd hexhausted (by decide)

/-- Once the limit is reached, a poll goes on encrypting: there is a run of polls alone, on a stream
that could rotate its key, in which one key encrypts a record more than the limit. -/
theorem polls_exceed_limit : ∃ calls final, Run miniTls ((miniSide true).withVersion versionTls13)
    calls final ∧
      (∀ made ∈ calls, made.1 = .pollWrite []) ∧
        (final.sealedIn 0).length = gcmConfidentialityLimit + 1 ∧ ¬ final.WithinLimit := by
  obtain ⟨calls, final, hrun, hcalls, hseq, hepoch, hkey⟩ := exists_run_pollWrite miniTls
    ((miniSide true).withVersion versionTls13) (by decide) (gcmConfidentialityLimit + 1) (by decide)
  have hledger := hrun.ledger (RecordStream.ledger_withVersion miniTls (miniSide true) versionTls13)
  have hcurrent := hledger.current (hkey ▸ rfl)
  rw [hepoch, hseq] at hcurrent
  have hcount : (final.sealedIn 0).length = gcmConfidentialityLimit + 1 :=
    hcurrent.trans (Nat.zero_add _)
  refine ⟨calls, final, hrun, hcalls, hcount, fun hwithin ↦ ?_⟩
  have hlimit := hwithin 0
  rw [hcount] at hlimit
  exact absurd hlimit (Nat.not_succ_le_self _)

end WriteCall

end GmStack.Tls
