import Mathlib.Tactic

/-! Powers from the bits of an exponent, for a relation `rep a k`: "`a` stands for `k` times the
base". -/

namespace GmStack.Foundation

variable {α : Type}

def ladderLow (mul : α → α → α) (bit : ℕ → Bool) : ℕ → ℕ → α → α → α
  | 0, _, result, _ => result
  | count + 1, index, result, base =>
    ladderLow mul bit count (index + 1) (if bit index then mul result base else result)
      (mul base base)

def ladderWhile (mul : α → α → α) (square : α → α) (result base : α) (exponent : ℕ) : α :=
  if exponent = 0 then result
  else ladderWhile mul square (if exponent % 2 = 1 then mul result base else result) (square base)
    (exponent / 2)
termination_by exponent

variable (rep : α → ℕ → Prop)

lemma div_mod_two_pow_succ (exponent index count : ℕ) : exponent / 2 ^ index % 2 ^ (count + 1) =
      (exponent.testBit index).toNat + 2 * (exponent / 2 ^ (index + 1) % 2 ^ count) := by
  rw [Nat.toNat_testBit, pow_succ 2 index, ← Nat.div_div_eq_div_mul, pow_succ', Nat.mod_mul]

variable {k : ℕ} {result base : α}

variable (mul : α → α → α) {j : ℕ}

lemma ladderLow_spec (exponent : ℕ) (hmul : ∀ a b j k, rep a j → rep b k → rep (mul a b) (j + k))
    (count index : ℕ)
    (hres : rep result j) (hbase : rep base k) :
    rep (ladderLow mul exponent.testBit count index result base)
    (j + k * (exponent / 2 ^ index % 2 ^ count)) := by
  induction count generalizing index result base j k with
  | zero => simpa [ladderLow, Nat.mod_one] using hres
  | succ count ih =>
    have hround : rep (if exponent.testBit index then mul result base else result)
        (j + k * (exponent.testBit index).toNat) := by
      cases exponent.testBit index <;> simp [hres, hmul _ _ _ _ hres hbase]
    have hnext := ih (index + 1) hround (hmul _ _ _ _ hbase hbase)
    rw [ladderLow, div_mod_two_pow_succ]
    convert hnext using 1
    ring

lemma ladderWhile_spec (square : α → α) (exponent : ℕ) (hmul : ∀ a b j k, rep a j → rep b k →
    rep (mul a b) (j + k))
    (hsquare : ∀ a k, rep a k → rep (square a) (2 * k))
    (hres : rep result j) (hbase : rep base k) :
    rep (ladderWhile mul square result base exponent) (j + k * exponent) := by
  induction exponent using Nat.strong_induction_on generalizing result base j k with
  | h exponent ih =>
    by_cases hzero : exponent = 0
    · rw [ladderWhile, if_pos hzero, hzero, mul_zero, add_zero]
      exact hres
    have hround : rep (if exponent % 2 = 1 then mul result base else result)
        (j + k * (exponent % 2)) := by
      rcases Nat.mod_two_eq_zero_or_one exponent with hmod | hmod <;>
        simp [hmod, hres, hmul _ _ _ _ hres hbase]
    have hnext := ih (exponent / 2) (Nat.div_lt_self (Nat.pos_of_ne_zero hzero) Nat.one_lt_two)
      hround (hsquare _ _ hbase)
    rw [ladderWhile, if_neg hzero]
    convert hnext using 1
    rw [add_assoc, mul_assoc, mul_left_comm 2 k, ← mul_add, Nat.mod_add_div]

end GmStack.Foundation
