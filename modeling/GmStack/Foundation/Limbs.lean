import Mathlib.Tactic
import GmStack.Foundation.Bytes

/-! Numbers kept as lists of 64-bit words, least significant word first, and the loops that every
multi-precision package writes over them. -/

namespace GmStack.Foundation.Limbs

open List

def value : List UInt64 → ℕ
  | [] => 0
  | word :: rest => word.toNat + 2 ^ 64 * value rest

lemma two_pow_succ (n : ℕ) : 2 ^ (64 * (n + 1)) = 2 ^ 64 * 2 ^ (64 * n) := by
  rw [← pow_add]
  ring

variable (words : List UInt64)

lemma value_lt : value words < 2 ^ (64 * words.length) := by
  induction words with
  | nil => exact Nat.one_pos
  | cons word rest ih =>
    have hword := word.toNat_lt
    rw [value, length_cons, two_pow_succ]
    omega

lemma value_inj {left right : List UInt64} (hlen : left.length = right.length)
    (hval : value left = value right) : left = right := by
  induction left generalizing right with
  | nil => exact (length_eq_zero_iff.1 hlen.symm).symm
  | cons word rest ih =>
    cases right with
    | nil => exact absurd hlen (Nat.succ_ne_zero _)
    | cons other others =>
      have hword := word.toNat_lt
      have hother := other.toNat_lt
      simp only [value] at hval
      have hrest : rest = others := ih (Nat.succ.inj hlen) (by omega)
      subst hrest
      rw [show word = other from UInt64.toNat_inj.1 (by omega)]

lemma value_append (low high : List UInt64) :
    value (low ++ high) = value low + 2 ^ (64 * low.length) * value high := by
  induction low with
  | nil => simp [value]
  | cons word rest ih =>
    rw [cons_append, value, value, ih, length_cons, two_pow_succ]
    ring

lemma value_take_add {count : ℕ} (hcount : count ≤ words.length) :
    value (words.take count) + 2 ^ (64 * count) * value (words.drop count) = value words := by
  have happend := value_append (words.take count) (words.drop count)
  rw [take_append_drop, length_take, min_eq_left hcount] at happend
  exact happend.symm

lemma value_drop {count : ℕ} (hcount : count ≤ words.length) :
    value (words.drop count) = value words / 2 ^ (64 * count) := by
  have hlow := value_lt (words.take count)
  rw [length_take, min_eq_left hcount] at hlow
  rw [← value_take_add words hcount, Nat.add_mul_div_left _ _ (Nat.two_pow_pos _),
    Nat.div_eq_of_lt hlow, zero_add]

def wordsBe (octets : Bytes) : ℕ → List UInt64
  | 0 => []
  | count + 1 => UInt64.ofNat (beNat ((octets.drop (8 * count)).take 8)) :: wordsBe octets count

lemma length_wordsBe (octets : Bytes) (count : ℕ) : (wordsBe octets count).length = count := by
  induction count with
  | zero => rfl
  | succ count ih => rw [wordsBe, length_cons, ih]

lemma value_wordsBe {octets : Bytes} (count : ℕ) (hlen : 8 * count ≤ octets.length) :
    value (wordsBe octets count) = beNat (octets.take (8 * count)) := by
  induction count with
  | zero => rfl
  | succ count ih =>
    have hword : ((octets.drop (8 * count)).take 8).length = 8 := by
      rw [length_take, length_drop]
      omega
    have hlt : beNat ((octets.drop (8 * count)).take 8) < 2 ^ 64 := by
      have hoct := beNat_lt ((octets.drop (8 * count)).take 8)
      rwa [hword] at hoct
    rw [wordsBe, value, ih (by omega), UInt64.toNat_ofNat', Nat.mod_eq_of_lt hlt, mul_add,
      mul_one, take_add,
      beNat_append, hword]
    ring

def overflowingAdd (a b : UInt64) : UInt64 × Bool :=
  (a + b, decide (2 ^ 64 ≤ a.toNat + b.toNat))

def overflowingSub (a b : UInt64) : UInt64 × Bool :=
  (a - b, decide (a.toNat < b.toNat))

def mul64 (a b : UInt64) : UInt64 × UInt64 :=
  (UInt64.ofNat (a.toNat * b.toNat), UInt64.ofNat (a.toNat * b.toNat / 2 ^ 64))

def flag (b : Bool) : UInt64 :=
  if b then 1 else 0

lemma toNat_flag (b : Bool) : (flag b).toNat = b.toNat := by
  cases b <;> rfl

variable (a : UInt64)

section

variable (b : UInt64)

lemma overflowingAdd_spec : (overflowingAdd a b).1.toNat + 2 ^ 64 * (overflowingAdd a b).2.toNat =
    a.toNat + b.toNat := by
  have ha := a.toNat_lt
  have hb := b.toNat_lt
  by_cases hover : 2 ^ 64 ≤ a.toNat + b.toNat
  all_goals simp only [overflowingAdd, UInt64.toNat_add, hover, decide_true, decide_false,
    Bool.toNat_true, Bool.toNat_false]; omega

lemma overflowingSub_spec : (overflowingSub a b).1.toNat + b.toNat =
    a.toNat + 2 ^ 64 * (overflowingSub a b).2.toNat := by
  have ha := a.toNat_lt
  have hb := b.toNat_lt
  by_cases hunder : a.toNat < b.toNat
  all_goals simp only [overflowingSub, UInt64.toNat_sub, hunder, decide_true, decide_false,
    Bool.toNat_true, Bool.toNat_false]; omega

lemma mul_toNat_le : a.toNat * b.toNat ≤ (2 ^ 64 - 1) * (2 ^ 64 - 1) :=
  Nat.mul_le_mul (Nat.le_sub_one_of_lt a.toNat_lt) (Nat.le_sub_one_of_lt b.toNat_lt)

lemma mul64_spec : (mul64 a b).1.toNat + 2 ^ 64 * (mul64 a b).2.toNat = a.toNat * b.toNat := by
  have hbound := mul_toNat_le a b
  simp only [mul64, UInt64.toNat_ofNat']
  omega

end

lemma toNat_flag_or {first second : Bool} (hone : first.toNat + second.toNat ≤ 1) :
    (flag (first || second)).toNat = first.toNat + second.toNat := by
  rw [toNat_flag]
  revert hone
  cases first <;> cases second <;> decide

/-! ### Carries and borrows -/

def addLoop : List UInt64 → List UInt64 → UInt64 → List UInt64 × UInt64
  | a :: as, b :: bs, carry =>
    let first := overflowingAdd a b
    let second := overflowingAdd first.1 carry
    let rest := addLoop as bs (flag (first.2 || second.2))
    (second.1 :: rest.1, rest.2)
  | _, _, carry => ([], carry)

def subLoop : List UInt64 → List UInt64 → UInt64 → List UInt64 × UInt64
  | a :: as, b :: bs, borrow =>
    let first := overflowingSub a b
    let second := overflowingSub first.1 borrow
    let rest := subLoop as bs (flag (first.2 || second.2))
    (second.1 :: rest.1, rest.2)
  | _, _, borrow => ([], borrow)

variable (as : List UInt64)

lemma addLoop_spec (bs : List UInt64) (carry : UInt64) (hlength : as.length = bs.length)
    (hcarry : carry.toNat ≤ 1) : (addLoop as bs carry).1.length = as.length ∧
    (addLoop as bs carry).2.toNat ≤ 1 ∧
      value (addLoop as bs carry).1 + 2 ^ (64 * as.length) * (addLoop as bs carry).2.toNat =
        value as + value bs + carry.toNat := by
  induction as generalizing bs carry with
  | nil => simpa [addLoop, value, length_eq_zero_iff.1 hlength.symm] using hcarry
  | cons a as ih =>
    cases bs with
    | nil => exact absurd hlength (Nat.succ_ne_zero _)
    | cons b bs =>
      have hfirst := overflowingAdd_spec a b
      have hsnd := overflowingAdd_spec (overflowingAdd a b).1 carry
      have hflag := @toNat_flag_or (overflowingAdd a b).2
        (overflowingAdd (overflowingAdd a b).1 carry).2 (by
        have := a.toNat_lt
        have := b.toNat_lt
        omega)
      obtain ⟨hlen, hout, hrest⟩ :=
        ih bs (flag ((overflowingAdd a b).2 || (overflowingAdd (overflowingAdd a b).1 carry).2))
        (Nat.succ.inj hlength) (by rw [toNat_flag]; exact Bool.toNat_le _)
      refine ⟨congrArg Nat.succ hlen, hout, ?_⟩
      rw [length_cons, two_pow_succ, mul_assoc]
      simp only [addLoop, value]
      omega

lemma subLoop_spec (bs : List UInt64) (borrow : UInt64) (hlength : as.length = bs.length)
    (hborrow : borrow.toNat ≤ 1) : (subLoop as bs borrow).1.length = as.length ∧
    (subLoop as bs borrow).2.toNat ≤ 1 ∧
      value (subLoop as bs borrow).1 + value bs + borrow.toNat =
        value as + 2 ^ (64 * as.length) * (subLoop as bs borrow).2.toNat := by
  induction as generalizing bs borrow with
  | nil => simpa [subLoop, value, length_eq_zero_iff.1 hlength.symm] using hborrow
  | cons a as ih =>
    cases bs with
    | nil => exact absurd hlength (Nat.succ_ne_zero _)
    | cons b bs =>
      have hfirst := overflowingSub_spec a b
      have hsnd := overflowingSub_spec (overflowingSub a b).1 borrow
      have hflag := @toNat_flag_or (overflowingSub a b).2
        (overflowingSub (overflowingSub a b).1 borrow).2 (by
        have := (overflowingSub (overflowingSub a b).1 borrow).1.toNat_lt
        have := b.toNat_lt
        omega)
      obtain ⟨hlen, hout, hrest⟩ :=
        ih bs (flag ((overflowingSub a b).2 || (overflowingSub (overflowingSub a b).1 borrow).2))
        (Nat.succ.inj hlength) (by rw [toNat_flag]; exact Bool.toNat_le _)
      refine ⟨congrArg Nat.succ hlen, hout, ?_⟩
      rw [length_cons, two_pow_succ, mul_assoc]
      simp only [subLoop, value]
      omega

def cmpLoop : List UInt64 → List UInt64 → Ordering
  | a :: as, b :: bs => (cmpLoop as bs).then (compare a.toNat b.toNat)
  | _, _ => .eq

lemma cmpLoop_eq (bs : List UInt64) (hlen : as.length = bs.length) :
    cmpLoop as bs = compare (value as) (value bs) := by
  induction as generalizing bs with
  | nil => simp [cmpLoop, value, length_eq_zero_iff.1 hlen.symm]
  | cons a as ih =>
    cases bs with
    | nil => exact absurd hlen (Nat.succ_ne_zero _)
    | cons b bs =>
      have ha := a.toNat_lt
      have hb := b.toNat_lt
      rw [cmpLoop, ih bs (Nat.succ.inj hlen), value, value]
      rcases Nat.lt_trichotomy (value as) (value bs) with hlt | heq | hgt
      · have hless : a.toNat + 2 ^ 64 * value as < b.toNat + 2 ^ 64 * value bs := by omega
        rw [Nat.compare_eq_lt.2 hlt, Nat.compare_eq_lt.2 hless]
        rfl
      · simp only [heq, Nat.compare_eq_ite_lt, lt_irrefl, if_false, Ordering.then,
          Nat.add_lt_add_iff_right]
      have hmore : b.toNat + 2 ^ 64 * value bs < a.toNat + 2 ^ 64 * value as := by omega
      rw [Nat.compare_eq_gt.2 hgt, Nat.compare_eq_gt.2 hmore]
      rfl

lemma cmpLoop_ne_lt_iff {as bs : List UInt64} (hlen : as.length = bs.length) :
    cmpLoop as bs ≠ .lt ↔ value bs ≤ value as := by
  rw [cmpLoop_eq as bs hlen, Ne, Nat.compare_eq_lt, not_lt]

lemma subLoop_of_le {as bs : List UInt64} (hlength : as.length = bs.length)
    (hle : value bs ≤ value as) :
    value (subLoop as bs 0).1 = value as - value bs ∧ (subLoop as bs 0).2 = 0 := by
  obtain ⟨hlen, hflag, hsub⟩ := subLoop_spec as bs 0 hlength (Nat.zero_le 1)
  have hlt := value_lt (subLoop as bs 0).1
  rw [hlen] at hlt
  rw [UInt64.toNat_zero, add_zero] at hsub
  have hzero : (subLoop as bs 0).2.toNat = 0 := by
    by_contra hne
    rw [show (subLoop as bs 0).2.toNat = 1 by omega, mul_one] at hsub
    omega
  rw [hzero, mul_zero, add_zero] at hsub
  exact ⟨by omega, UInt64.toNat_inj.1 hzero⟩

def subtractRounds (ms : List UInt64) : ℕ → List UInt64 → List UInt64
  | 0, rem => rem
  | rounds + 1, rem => if cmpLoop rem ms ≠ .lt then subtractRounds ms rounds
    (subLoop rem ms 0).1 else rem

variable {ms rem : List UInt64}

lemma length_subtractRounds (rounds : ℕ) (hlen : rem.length = ms.length) :
    (subtractRounds ms rounds rem).length = ms.length := by
  induction rounds generalizing rem with
  | zero => exact hlen
  | succ rounds ih =>
    rw [subtractRounds]
    split
    · exact ih ((subLoop_spec rem ms 0 hlen (Nat.zero_le 1)).1.trans hlen)
    · exact hlen

lemma value_subtractRounds {rounds : ℕ} (hlen : rem.length = ms.length) (hms : 0 < value ms)
    (hrounds : value rem ≤ rounds) :
    value (subtractRounds ms rounds rem) = value rem % value ms := by
  induction rounds generalizing rem with
  | zero => rw [subtractRounds, Nat.le_zero.1 hrounds, Nat.zero_mod]
  | succ rounds ih =>
    rw [subtractRounds]
    by_cases hle : value ms ≤ value rem
    · have hsub := (subLoop_of_le hlen hle).1
      rw [if_pos ((cmpLoop_ne_lt_iff hlen).2 hle),
        ih ((subLoop_spec rem ms 0 hlen (Nat.zero_le 1)).1.trans hlen) (by omega), hsub,
        ← Nat.mod_eq_sub_mod hle]
    · rw [if_neg (mt (cmpLoop_ne_lt_iff hlen).1 hle), Nat.mod_eq_of_lt (not_le.1 hle)]

def borrowPass : List UInt64 → List UInt64 → ℕ → List UInt64 × ℕ
  | a :: as, b :: bs, borrow =>
    let sub := b.toNat + borrow
    if sub ≤ a.toNat then
      let rest := borrowPass as bs 0
      (UInt64.ofNat (a.toNat - sub) :: rest.1, rest.2)
    else
      let rest := borrowPass as bs 1
      (UInt64.ofNat (a.toNat + 2 ^ 64 - sub) :: rest.1, rest.2)
  | _, _, borrow => ([], borrow)

lemma borrowPass_spec (bs : List UInt64) (borrow : ℕ) (hlength : as.length = bs.length)
    (hborrow : borrow ≤ 1) :
    (borrowPass as bs borrow).1.length = as.length ∧ (borrowPass as bs borrow).2 ≤ 1 ∧
      value (borrowPass as bs borrow).1 + value bs + borrow =
        value as + 2 ^ (64 * as.length) * (borrowPass as bs borrow).2 := by
  induction as, bs, borrow using borrowPass.induct with
  | case1 a as b bs borrow sub hle ih =>
    obtain ⟨hlen, hflag, hval⟩ := ih (Nat.succ.inj hlength) (Nat.zero_le 1)
    have ha := a.toNat_lt
    simp only [borrowPass, show b.toNat + borrow ≤ a.toNat from hle, if_true, length_cons,
      value, two_pow_succ,
      UInt64.toNat_ofNat', mul_assoc]
    exact ⟨by rw [hlen], hflag, by rw [Nat.mod_eq_of_lt (by omega)]; omega⟩
  | case2 a as b bs borrow sub hle ih =>
    obtain ⟨hlen, hflag, hval⟩ := ih (Nat.succ.inj hlength) le_rfl
    have hb := b.toNat_lt
    have hlt : ¬b.toNat + borrow ≤ a.toNat := hle
    simp only [borrowPass, hlt, if_false, length_cons, value, two_pow_succ, UInt64.toNat_ofNat',
      mul_assoc]
    exact ⟨by rw [hlen], hflag, by rw [Nat.mod_eq_of_lt (by omega)]; omega⟩
  | case3 as bs borrow hne =>
    cases as with
    | nil =>
      cases bs with
      | nil => simp [borrowPass, value, hborrow]
      | cons b bs => cases hlength
    | cons a as =>
      cases bs with
      | nil => cases hlength
      | cons b bs => exact (hne a as b bs rfl rfl).elim

def mulRow (a : UInt64) : List UInt64 → List UInt64 → UInt64 → List UInt64 × UInt64
  | b :: bs, t :: ts, carry =>
    let prod := mul64 a b
    let first := overflowingAdd t prod.1
    let second := overflowingAdd first.1 carry
    let rest := mulRow a bs ts (prod.2 + flag first.2 + flag second.2)
    (second.1 :: rest.1, rest.2)
  | _, _, carry => ([], carry)

lemma mulRow_spec (bs ts : List UInt64) (carry : UInt64) (hlength : bs.length = ts.length) :
    (mulRow a bs ts carry).1.length = bs.length ∧
      value (mulRow a bs ts carry).1 + 2 ^ (64 * bs.length) * (mulRow a bs ts carry).2.toNat =
        value ts + a.toNat * value bs + carry.toNat := by
  induction bs generalizing ts carry with
  | nil => simp [mulRow, value, length_eq_zero_iff.1 hlength.symm]
  | cons b bs ih =>
    cases ts with
    | nil => exact absurd hlength (Nat.succ_ne_zero _)
    | cons t ts =>
      have hprod := mul64_spec a b
      have hbound := mul_toNat_le a b
      have hfirst := overflowingAdd_spec t (mul64 a b).1
      have hsnd := overflowingAdd_spec (overflowingAdd t (mul64 a b).1).1 carry
      have ht := t.toNat_lt
      have hcarry := carry.toNat_lt
      obtain ⟨hlen, hrest⟩ := ih ts ((mul64 a b).2 + flag (overflowingAdd t (mul64 a b).1).2 +
        flag (overflowingAdd (overflowingAdd t (mul64 a b).1).1 carry).2) (Nat.succ.inj hlength)
      refine ⟨congrArg Nat.succ hlen, ?_⟩
      simp only [UInt64.toNat_add, toNat_flag] at hrest
      rw [length_cons, two_pow_succ, mul_assoc]
      simp only [mulRow, value]
      rw [mul_add, mul_left_comm a.toNat]
      omega

def mulLoop (bs : List UInt64) : List UInt64 → List UInt64 → List UInt64
  | [], window => window
  | a :: as, window =>
    let row := mulRow a bs window 0
    (row.1 ++ [row.2]).headD 0 :: mulLoop bs as (row.1 ++ [row.2]).tail

lemma value_headD_tail {words : List UInt64} (hwords : words ≠ []) :
    (words.headD 0).toNat + 2 ^ 64 * value words.tail = value words := by
  cases words with
  | nil => exact absurd rfl hwords
  | cons word rest => rfl

lemma mulLoop_spec (bs as window : List UInt64) (hlength : window.length = bs.length) :
    (mulLoop bs as window).length = as.length + bs.length ∧
      value (mulLoop bs as window) = value window + value as * value bs := by
  induction as generalizing window with
  | nil => simp [mulLoop, value, hlength]
  | cons a as ih =>
    obtain ⟨hlen, hrow⟩ := mulRow_spec a bs window 0 hlength.symm
    have htop : value ((mulRow a bs window 0).1 ++ [(mulRow a bs window 0).2]) =
        value window + a.toNat * value bs := by
      rw [value_append, hlen, value, value, mul_zero, add_zero, hrow]
      rfl
    obtain ⟨hlen', hrest⟩ := ih ((mulRow a bs window 0).1 ++ [(mulRow a bs window 0).2]).tail
      (by simp [hlen])
    rw [← value_headD_tail (append_ne_nil_of_right_ne_nil _ (cons_ne_nil _ _))] at htop
    refine ⟨by simp only [mulLoop, length_cons, hlen']; ring, ?_⟩
    simp only [mulLoop, value, hrest]
    rw [mul_add, ← add_assoc, htop]
    ring

def columnsValue : List ℕ → ℕ
  | [] => 0
  | column :: rest => column + 2 ^ 64 * columnsValue rest

def carryPass : List ℕ → ℕ → List UInt64
  | [], _ => []
  | column :: rest, carry => UInt64.ofNat (column + carry) ::
    carryPass rest ((column + carry) / 2 ^ 64)

/-- The carries of a pass are taken from sums below a bound. -/
def CarriesBelow (bound : ℕ) : List ℕ → ℕ → Prop
  | [], _ => True
  | column :: rest, carry => column + carry < bound ∧
    CarriesBelow bound rest ((column + carry) / 2 ^ 64)

variable (columns : List ℕ)

lemma length_carryPass (carry : ℕ) : (carryPass columns carry).length = columns.length := by
  induction columns generalizing carry with
  | nil => rfl
  | cons column rest ih => exact congrArg Nat.succ (ih _)

lemma value_carryPass (carry : ℕ) :
    value (carryPass columns carry) = (columnsValue columns + carry) % 2 ^
    (64 * columns.length) := by
  induction columns generalizing carry with
  | nil => simp [carryPass, value, Nat.mod_one]
  | cons column rest ih =>
    rw [carryPass, value, ih, length_cons, two_pow_succ, Nat.mod_mul, columnsValue,
      UInt64.toNat_ofNat']
    congr 1
    · omega
    · congr 2
      omega

lemma carriesBelow_of_forall_le {columns : List ℕ}
    (hcolumns : ∀ column ∈ columns, column + 2 ^ 64 ≤ 2 ^ 128)
    {carry : ℕ} (hcarry : carry < 2 ^ 64) : CarriesBelow (2 ^ 128) columns carry := by
  induction columns generalizing carry with
  | nil => exact trivial
  | cons column rest ih =>
    rw [forall_mem_cons] at hcolumns
    exact ⟨by omega, ih hcolumns.2 (by omega)⟩

def addColumns : List ℕ → List ℕ → List ℕ
  | a :: as, b :: bs => (a + b) :: addColumns as bs
  | [], bs => bs
  | as, [] => as

def mulColumns : List UInt64 → List UInt64 → List ℕ
  | [], _ => []
  | x :: xs, ys => addColumns (ys.map fun y ↦ x.toNat * y.toNat) (0 :: mulColumns xs ys)

lemma columnsValue_addColumns (as bs : List ℕ) : columnsValue (addColumns as bs) =
    columnsValue as + columnsValue bs := by
  induction as, bs using addColumns.induct with
  | case1 a as b bs ih =>
    rw [addColumns, columnsValue, columnsValue, columnsValue, ih]
    ring
  | case2 bs => rw [addColumns, columnsValue, zero_add]
  | case3 as hne => cases as <;> simp [addColumns, columnsValue]

lemma columnsValue_row (factor : ℕ) (ys : List UInt64) :
    columnsValue (ys.map fun y ↦ factor * y.toNat) = factor * value ys := by
  induction ys with
  | nil => rfl
  | cons y ys ih =>
    rw [map_cons, columnsValue, ih, value]
    ring

lemma columnsValue_mulColumns (xs ys : List UInt64) : columnsValue (mulColumns xs ys) =
    value xs * value ys := by
  induction xs with
  | nil => rw [mulColumns, columnsValue, value, zero_mul]
  | cons x xs ih =>
    rw [mulColumns, columnsValue_addColumns, columnsValue_row, columnsValue, ih, value]
    ring

lemma columnsValue_append_replicate (count : ℕ) : columnsValue (columns ++ replicate count 0) =
    columnsValue columns := by
  induction columns with
  | nil =>
    induction count with
    | zero => rfl
    | succ count ih =>
      rw [nil_append] at ih ⊢
      show 0 + 2 ^ 64 * columnsValue (replicate count 0) = 0
      rw [ih]
      rfl
  | cons column rest ih => rw [cons_append, columnsValue, ih, columnsValue]

lemma toNat_headD (words : List UInt64) : (words.headD 0).toNat = value words % 2 ^ 64 := by
  cases words with
  | nil => rfl
  | cons word rest =>
    have hword := word.toNat_lt
    simp only [headD_cons, value]
    omega

lemma barrett_quotient (x : ℕ) {modulus mu radix : ℕ} (hradix : 0 < radix)
    (hmu : mu * modulus ≤ radix)
    (hmu' : radix < mu * modulus + modulus) : x * mu / radix * modulus ≤ x ∧
      radix * x ≤ radix * (x * mu / radix * modulus + modulus) + x * modulus := by
  have hlow : x * mu / radix * radix ≤ x * mu := Nat.div_mul_le_self _ _
  have hhigh : x * mu < (x * mu / radix + 1) * radix := by
    rw [mul_comm _ radix]
    exact Nat.lt_mul_div_succ _ hradix
  constructor
  · refine Nat.le_of_mul_le_mul_right ?_ hradix
    nlinarith
  · nlinarith

end GmStack.Foundation.Limbs
