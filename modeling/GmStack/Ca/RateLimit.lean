import GmStack.Ca.Service

/-!
`TokenBucket` and `PerCallerLimiter` of `gm-ca/src/service.rs`. A reaped bucket comes back full.
-/

namespace GmStack.Ca

open List

structure PerCallerLimiter where
  capacity : ℕ
  refillPeriod : ℕ
  idleTtl : ℕ

/-- `TokenBucket`; its capacity and refill period are those of the limiter. -/
structure TokenBucket (limiter : PerCallerLimiter) where
  tokens : ℕ
  lastRefill : ℕ
  tokens_le : tokens ≤ limiter.capacity

/-- A call, with the three readings of the clock in `check`. -/
structure LimiterCall (Caller : Type) where
  peerIp : Caller
  now : ℕ
  createdAt : ℕ
  refilledAt : ℕ
  ordered : now ≤ createdAt ∧ createdAt ≤ refilledAt

abbrev LimiterCall.Before {Caller : Type} (first second : LimiterCall Caller) :
    Prop := first.refilledAt ≤ second.now

structure LimiterHistory (Caller : Type) where
  calls : List (LimiterCall Caller)
  monotone : calls.Pairwise LimiterCall.Before

/-- An answer, with the last refill of the bucket that gave it. -/
structure LimiterAnswer (Caller : Type) where
  call : LimiterCall Caller
  granted : Bool
  lastRefill : ℕ

variable {Caller : Type} {limiter : PerCallerLimiter}

namespace TokenBucket

def new (limiter : PerCallerLimiter) (now : ℕ) : TokenBucket limiter :=
    ⟨limiter.capacity, now, le_refl _⟩

def refill (bucket : TokenBucket limiter) (now : ℕ) : TokenBucket limiter :=
  if now - bucket.lastRefill ≥ limiter.refillPeriod then ⟨limiter.capacity, now,
    le_refl _⟩ else bucket

def tryConsume (bucket : TokenBucket limiter) (now : ℕ) : Bool × TokenBucket limiter :=
  let bucket := bucket.refill now
  if bucket.tokens >
    0 then (true, ⟨bucket.tokens - 1, bucket.lastRefill, (Nat.sub_le _ _).trans bucket.tokens_le⟩)
  else (false, bucket)

end TokenBucket

def retain (now : ℕ) (bucket : Option (TokenBucket limiter)) : Option (TokenBucket limiter) :=
  bucket.filter fun bucket ↦ now - bucket.lastRefill ≤ limiter.idleTtl

def consume (bucket : Option (TokenBucket limiter)) (call : LimiterCall Caller) :
    Bool × TokenBucket limiter :=
  ((retain call.now bucket).getD (.new limiter call.createdAt)).tryConsume call.refilledAt

def check [DecidableEq Caller] (buckets : Caller → Option (TokenBucket limiter))
    (call : LimiterCall Caller) :
    Except Status Caller × (Caller → Option (TokenBucket limiter)) :=
  let (granted, bucket) := consume (buckets call.peerIp) call
  (if granted then .ok call.peerIp else .error
    ⟨.resourceExhausted, "certificate signing rate limit exceeded for caller, try again later"⟩,
    Function.update (fun caller ↦ retain call.now (buckets caller)) call.peerIp (some bucket))

def answers [DecidableEq Caller] :
    (Caller → Option (TokenBucket limiter)) → List (LimiterCall Caller) →
    List (LimiterAnswer Caller)
  | _, [] => []
  | buckets, call :: rest =>
    ⟨call, (check buckets call).1.isOk, (consume (buckets call.peerIp) call).2.lastRefill⟩ ::
      answers (check buckets call).2 rest

def PerCallerLimiter.answersTo [DecidableEq Caller] (limiter : PerCallerLimiter)
    (history : LimiterHistory Caller)
    (caller : Caller) : List (LimiterAnswer Caller) :=
  (answers (fun _ ↦ (none : Option (TokenBucket limiter))) history.calls).filter
    (·.call.peerIp = caller)

def ownAnswers : Option (TokenBucket limiter) → List (LimiterCall Caller) →
    List (LimiterAnswer Caller)
  | _, [] => []
  | bucket, call :: rest =>
    ⟨call, (consume bucket call).1, (consume bucket call).2.lastRefill⟩ ::
      ownAnswers (some (consume bucket call).2) rest

variable {now later : ℕ} {own : Option (TokenBucket limiter)} {call : LimiterCall Caller}
  {calls rest : List (LimiterCall Caller)}

lemma retain_some (bucket : TokenBucket limiter) : retain now (some bucket) =
    if now - bucket.lastRefill ≤ limiter.idleTtl then some bucket else none := by
  rw [retain, Option.filter_some]
  simp only [decide_eq_true_eq]

lemma retain_retain (hle : now ≤ later) (bucket : Option (TokenBucket limiter)) :
    retain later (retain now bucket) = retain later bucket := by
  cases bucket with
  | none => rfl
  | some bucket =>
    rw [retain_some, retain_some]
    split_ifs with hnow hlater
    · rw [retain_some, if_pos hlater]
    · rw [retain_some, if_neg hlater]
    · omega
    · rfl

/-- What the others' calls reap of the caller's bucket, the caller's own next call would reap. -/
lemma filter_answers [DecidableEq Caller] (caller : Caller)
    (hclock : calls.Pairwise LimiterCall.Before)
    {buckets : Caller → Option (TokenBucket limiter)}
    (hsame : ∀ call ∈ calls, retain call.now (buckets caller) = retain call.now own) :
    (answers buckets calls).filter (·.call.peerIp = caller) =
    ownAnswers own (calls.filter (·.peerIp = caller)) := by
  induction calls generalizing buckets own with
  | nil => rfl
  | cons call rest ih =>
    obtain ⟨hlater, hrest⟩ := pairwise_cons.mp hclock
    obtain ⟨hhead, htail⟩ := forall_mem_cons.mp hsame
    by_cases hcaller : call.peerIp = caller
    · subst hcaller
      have hconsume : consume (buckets call.peerIp) call = consume own call := by
        rw [consume, consume, hhead]
      have hresult : (check buckets call).1.isOk = (consume own call).1 := by
        rw [check, hconsume]
        cases hgranted : (consume own call).1 <;> simp [hgranted, Except.isOk, Except.toBool]
      rw [answers, filter_cons_of_pos (by simp), filter_cons_of_pos (by simp), ownAnswers,
        hresult, hconsume,
        @ih (some (consume own call).2) hrest _ fun other _ ↦ by simp [check, hconsume]]
    · rw [answers, filter_cons_of_neg (by simpa using hcaller),
        filter_cons_of_neg (by simpa using hcaller)]
      refine ih hrest fun other hother ↦ ?_
      dsimp only [check]
      have := hlater other hother
      have := call.ordered
      rw [Function.update_of_ne (Ne.symm hcaller), retain_retain (by omega), htail other hother]

/-- What a caller is answered is decided by its own calls. -/
lemma answersTo_eq [DecidableEq Caller] (limiter : PerCallerLimiter)
    (history : LimiterHistory Caller) (caller : Caller) :
    limiter.answersTo history caller =
      ownAnswers (none : Option (TokenBucket limiter))
        (history.calls.filter (·.peerIp = caller)) :=
  filter_answers caller history.monotone fun _ _ ↦ rfl

lemma answersTo_congr [DecidableEq Caller] (limiter : PerCallerLimiter)
    {history other : LimiterHistory Caller} {caller : Caller}
    (hsame : other.calls.filter (·.peerIp = caller) =
      history.calls.filter (·.peerIp = caller)) :
    limiter.answersTo other caller = limiter.answersTo history caller := by
  rw [answersTo_eq, answersTo_eq, hsame]

/-- The history without the calls of the others. -/
def LimiterHistory.only [DecidableEq Caller] (history : LimiterHistory Caller) (caller : Caller) :
    LimiterHistory Caller :=
  ⟨history.calls.filter (·.peerIp = caller), history.monotone.filter _⟩

/-- The callers do not affect each other: each gets the answers it would get alone. -/
theorem answersTo_only [DecidableEq Caller] (limiter : PerCallerLimiter)
    (history : LimiterHistory Caller) (caller : Caller) :
    limiter.answersTo history caller = limiter.answersTo (history.only caller) caller := by
  refine answersTo_congr limiter ?_
  rw [LimiterHistory.only, filter_filter]
  simp only [Bool.and_self]

/-- The bucket a call takes its token from. -/
def found (bucket : Option (TokenBucket limiter)) (call : LimiterCall Caller) :
    TokenBucket limiter :=
  ((retain call.now bucket).getD (.new limiter call.createdAt)).refill call.refilledAt

section

variable (own : Option (TokenBucket limiter))

variable (call : LimiterCall Caller)

lemma consume_spec : (consume own call).1 = decide (0 < (found own call).tokens) ∧
    (consume own call).2.tokens = (found own call).tokens - 1 ∧
    (consume own call).2.lastRefill = (found own call).lastRefill := by
  rw [show consume own call = if (found own call).tokens > 0 then (true, _) else (false,
    found own call) from rfl]
  split_ifs with htokens
  · exact ⟨(decide_eq_true htokens).symm, rfl, rfl⟩
  · exact ⟨(decide_eq_false htokens).symm, by dsimp only; omega, rfl⟩

lemma found_cases : (own = some (found own call) ∧ call.refilledAt - (found own call).lastRefill <
    limiter.refillPeriod) ∨
    ((found own call).tokens = limiter.capacity ∧ ((found own call).lastRefill ≤ call.refilledAt ∧
        (0 < limiter.refillPeriod → call.refilledAt <
        (found own call).lastRefill + limiter.refillPeriod)) ∧
      ∀ bucket ∈ own, min limiter.refillPeriod (limiter.idleTtl + 1) ≤
      (found own call).lastRefill - bucket.lastRefill) := by
  have hordered := call.ordered
  obtain ⟨last, hnew, hnow, htimed⟩ :
    ∃ last, (TokenBucket.new limiter call.createdAt).refill call.refilledAt =
      ⟨limiter.capacity, last, le_refl _⟩ ∧ call.now ≤ last ∧ last ≤ call.refilledAt ∧
      (0 < limiter.refillPeriod → call.refilledAt < last + limiter.refillPeriod) := by
    unfold TokenBucket.refill TokenBucket.new
    split_ifs with hdue
    · exact ⟨_, rfl, by omega, le_refl _, by omega⟩
    · exact ⟨_, rfl, hordered.1, hordered.2, by dsimp only at hdue; omega⟩
  unfold found
  cases own with
  | none =>
    rw [show retain call.now none = (none : Option (TokenBucket limiter)) from rfl,
      Option.getD_none, hnew]
    exact .inr ⟨rfl, htimed, by simp⟩
  | some bucket =>
    rw [retain_some]
    split_ifs with hkept
    · rw [Option.getD_some, TokenBucket.refill]
      split_ifs with hdue
      · exact .inr ⟨rfl, ⟨le_refl _, by dsimp only; omega⟩, fun other hother ↦
          Option.some.inj hother ▸ (min_le_left _ _).trans hdue⟩
      · exact .inl ⟨rfl, Nat.not_le.mp hdue⟩
    · rw [Option.getD_none, hnew]
      refine .inr ⟨rfl, htimed, fun other hother ↦ ?_⟩
      obtain rfl := Option.some.inj hother
      dsimp only
      omega

end

/-- Few grants between two refills, and refills a period apart. -/
structure PerCallerLimiter.Metered (limiter : PerCallerLimiter)
    (answers : List (LimiterAnswer Caller)) : Prop where
  spaced : answers.Pairwise fun first second ↦
    second.lastRefill = first.lastRefill ∨ first.lastRefill + limiter.refillPeriod ≤
      second.lastRefill
  counted : ∀ refill, answers.countP (fun answer ↦ answer.granted ∧ answer.lastRefill = refill) ≤
    limiter.capacity

/-- How many grants are left for the window of one refill period that begins at `start`. -/
def allowance (start : ℕ) : Option (TokenBucket limiter) → ℕ
  | none => 2 * limiter.capacity
  | some bucket =>
    if start + limiter.refillPeriod < bucket.lastRefill then 0
    else if start < bucket.lastRefill then bucket.tokens
    else if bucket.lastRefill + limiter.refillPeriod ≤ start then 2 * limiter.capacity
    else bucket.tokens + limiter.capacity

section Refills

variable (hpos : 0 < limiter.refillPeriod) (httl : limiter.refillPeriod ≤ limiter.idleTtl + 1)
  (hclock : calls.Pairwise LimiterCall.Before)
  (hpast : ∀ bucket ∈ own, ∀ call ∈ calls, bucket.lastRefill ≤ call.now)
include hclock hpast

lemma consume_past (hcalls : calls = call :: rest) :
    (found own call).lastRefill ≤ call.refilledAt ∧ rest.Pairwise LimiterCall.Before ∧
    ∀ bucket ∈ some (consume own call).2, ∀ call ∈ rest, bucket.lastRefill ≤ call.now := by
  subst hcalls
  obtain ⟨hlater, hrest⟩ := pairwise_cons.mp hclock
  have hle : (found own call).lastRefill ≤ call.refilledAt := by
    rcases found_cases own call with ⟨hown, -⟩ | ⟨-, ⟨hfull, -⟩, -⟩
    · exact (hpast _ hown call mem_cons_self).trans (call.ordered.1.trans call.ordered.2)
    · exact hfull
  refine ⟨hle, hrest, fun bucket hbucket other hother ↦ ?_⟩
  rw [← Option.some.inj hbucket, (consume_spec own call).2.2]
  exact hle.trans (hlater other hother)

include hpos httl

lemma metered_ownAnswers : limiter.Metered (ownAnswers own calls) ∧ ∀ bucket ∈ own,
    (∀ answer ∈ ownAnswers own calls, answer.lastRefill = bucket.lastRefill ∨
      bucket.lastRefill + limiter.refillPeriod ≤ answer.lastRefill) ∧
    (ownAnswers own calls).countP (fun answer ↦ answer.granted ∧ answer.lastRefill =
    bucket.lastRefill) ≤ bucket.tokens := by
  induction calls generalizing own with
  | nil => exact ⟨⟨.nil, by simp [ownAnswers]⟩, by simp [ownAnswers]⟩
  | cons call rest ih =>
    obtain ⟨-, hrest, hnext⟩ := consume_past hclock hpast rfl
    obtain ⟨hgranted, htokens, hlast⟩ := consume_spec own call
    obtain ⟨hmetered, htail⟩ := ih hrest hnext
    obtain ⟨hspaced, hcount⟩ := htail _ rfl
    have hcases := found_cases own call
    have hle := (found own call).tokens_le
    rw [hlast] at hspaced hcount
    rw [ownAnswers, hlast]
    generalize found own call = bucket at *
    generalize ownAnswers (some (consume own call).2) rest = tail at hmetered hspaced hcount ⊢
    generalize (consume own call).1 = granted at hgranted ⊢
    -- The head is granted where a token was found, and the tail has one token less.
    have htotal : (⟨call, granted, bucket.lastRefill⟩ :: tail).countP
        (fun answer ↦ answer.granted ∧ answer.lastRefill = bucket.lastRefill) ≤ bucket.tokens := by
      rw [htokens] at hcount
      simp only [countP_cons, hgranted, and_true, decide_eq_true_eq]
      split_ifs <;> omega
    refine ⟨⟨pairwise_cons.mpr ⟨hspaced, hmetered.spaced⟩, fun refill ↦ ?_⟩,
      fun before hbefore ↦ ?_⟩
    · by_cases hsame : bucket.lastRefill = refill
      · rw [← hsame]
        exact htotal.trans hle
      · rw [countP_cons_of_neg (by simp [hsame])]
        exact hmetered.counted refill
    · rcases hcases with ⟨hown, -⟩ | ⟨-, hfull, hgap⟩
      · obtain rfl := Option.some.inj (hbefore.symm.trans hown)
        exact ⟨forall_mem_cons.mpr ⟨.inl rfl, hspaced⟩, htotal⟩
      · have := hgap before hbefore
        have hafter : ∀ answer ∈ ⟨call, granted, bucket.lastRefill⟩ :: tail,
            before.lastRefill + limiter.refillPeriod ≤ answer.lastRefill := by
          refine forall_mem_cons.mpr ⟨by dsimp only; omega, fun answer hanswer ↦ ?_⟩
          rcases hspaced answer hanswer with hsame | hmore <;> omega
        refine ⟨fun answer hanswer ↦ .inr (hafter answer hanswer), ?_⟩
        refine (countP_eq_zero.mpr fun answer hanswer ↦ ?_).trans_le (Nat.zero_le _)
        have := hafter answer hanswer
        simp only [decide_eq_true_eq, not_and]
        omega

lemma window_ownAnswers (start : ℕ) : (ownAnswers own calls).countP (fun answer ↦ answer.granted ∧
    start ≤ answer.call.refilledAt ∧ answer.call.refilledAt ≤ start + limiter.refillPeriod) ≤
    allowance start own := by
  induction calls generalizing own with
  | nil => simp [ownAnswers]
  | cons call rest ih =>
    obtain ⟨hle, hrest, hnext⟩ := consume_past hclock hpast rfl
    obtain ⟨hgranted, htokens, hlast⟩ := consume_spec own call
    have htail := ih hrest hnext
    rw [ownAnswers]
    simp only [countP_cons, hgranted, decide_eq_true_eq]
    rw [allowance, htokens, hlast] at htail
    rcases found_cases own call with ⟨hown, hkept⟩ | ⟨hfull, hnow, hgap⟩
    · rw [hown, allowance, ← hown]
      split_ifs at htail ⊢ <;> omega
    · cases own with
      | none =>
        rw [allowance]
        split_ifs at htail ⊢ <;> omega
      | some bucket =>
        have := hgap bucket rfl
        rw [allowance]
        split_ifs at htail ⊢ <;> omega

end Refills

lemma granted_take {count : ℕ} (hcount : count ≤ (found own call).tokens) :
    ∀ answer ∈ (ownAnswers own (call :: rest)).take count, answer.granted = true := by
  induction count generalizing own call rest with
  | zero => simp
  | succ count ih =>
    obtain ⟨hgranted, htokens, -⟩ := consume_spec own call
    refine forall_mem_cons.mpr ⟨hgranted.trans (decide_eq_true (by omega)), ?_⟩
    cases rest with
    | nil => simp [ownAnswers]
    | cons next rest =>
      refine ih ?_
      have := (found own call).tokens_le
      rcases found_cases (some (consume own call).2) next with ⟨hown, -⟩ | ⟨hfull, -⟩
      · rw [← Option.some.inj hown]
        omega
      · omega

lemma granted_after_idle {before after : List (LimiterCall Caller)}
    (hown : ∀ bucket ∈ own, bucket.lastRefill ≤ now)
    (hbefore : ∀ call ∈ before, call.refilledAt ≤ now)
    (hafter : ∀ call ∈ after, now + limiter.refillPeriod ≤ call.refilledAt) :
    ∀ answer ∈ ((ownAnswers own (before ++ after)).drop before.length).take limiter.capacity,
    answer.granted = true := by
  induction before generalizing own with
  | nil =>
    cases after with
    | nil => simp [ownAnswers]
    | cons call rest =>
      refine granted_take ?_
      rcases found_cases own call with ⟨hsame, hnot⟩ | ⟨hfull, -⟩
      · have := hown _ hsame
        have := hafter call mem_cons_self
        omega
      · exact hfull.ge
  | cons call rest ih =>
    obtain ⟨hcall, hrest⟩ := forall_mem_cons.mp hbefore
    refine ih (fun bucket hbucket ↦ ?_) hrest
    rw [← Option.some.inj hbucket, (consume_spec own call).2.2]
    rcases found_cases own call with ⟨hsame, -⟩ | ⟨-, ⟨hle, -⟩, -⟩
    · exact hown _ hsame
    · exact hle.trans hcall

/-- Reaping does not lift the limit where the idle time-to-live reaches the refill period. A caller
that was idle for a refill period has its full capacity, and no caller is affected by another. -/
theorem limiter_meters [DecidableEq Caller] (limiter : PerCallerLimiter)
    (history : LimiterHistory Caller) (caller : Caller) :
    (0 < limiter.refillPeriod → limiter.refillPeriod ≤ limiter.idleTtl + 1 →
      limiter.Metered (limiter.answersTo history caller) ∧ ∀ start,
      (limiter.answersTo history caller).countP
        (fun answer ↦ answer.granted ∧ start ≤ answer.call.refilledAt ∧
          answer.call.refilledAt ≤ start + limiter.refillPeriod) ≤ 2 * limiter.capacity) ∧
    (∀ before after idleSince, history.calls = before ++ after →
      (∀ call ∈ before.filter (·.peerIp = caller), call.refilledAt ≤ idleSince) →
      (∀ call ∈ after.filter (·.peerIp = caller), idleSince + limiter.refillPeriod ≤
      call.refilledAt) →
      ∀ answer ∈ ((limiter.answersTo history caller).drop
      (before.filter (·.peerIp = caller)).length).take
        limiter.capacity, answer.granted = true) ∧
    ∀ other : LimiterHistory Caller, other.calls.filter (·.peerIp = caller) =
    history.calls.filter (·.peerIp = caller) →
      limiter.answersTo other caller = limiter.answersTo history caller := by
  refine ⟨fun hpos httl ↦ ?_, fun before after idleSince hsplit hbefore hafter ↦ ?_,
    fun other hsame ↦ answersTo_congr limiter hsame⟩
  · rw [answersTo_eq]
    have hclock := history.monotone.filter (·.peerIp = caller)
    exact ⟨(metered_ownAnswers hpos httl hclock (by simp)).1,
      window_ownAnswers hpos httl hclock (by simp)⟩
  · rw [answersTo_eq, hsplit, filter_append]
    exact granted_after_idle (by simp) hbefore hafter

/-- Buckets are reaped one nanosecond after they were filled, and refilled after ten. -/
theorem reaping_lifts_limit :
    let calls : List (LimiterCall Unit) := [0, 1, 2].map fun now ↦
    ⟨(), now, now, now, le_refl _, le_refl _⟩
    ((PerCallerLimiter.mk 1 10 0).answersTo ⟨calls, by decide⟩ ()).countP
      (fun answer ↦ answer.granted ∧ 0 ≤ answer.call.refilledAt ∧ answer.call.refilledAt ≤ 0 + 10) =
      3 := by
  decide +kernel

end GmStack.Ca
