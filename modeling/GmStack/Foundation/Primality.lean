import GmStack.Foundation.Ladders

/-! Pocklington's criterion to the base two, as a chain: every number comes with prime divisors of
its predecessor, each earlier in the chain. -/

namespace GmStack.Foundation

open List

def twoPowMod (exponent n : ℕ) : ℕ :=
  ladderLow (fun a b ↦ a * b % n) exponent.testBit 256 0 1 2

def certifies (n q : ℕ) : Bool :=
  decide (n < 2 ^ 256 ∧ (n - 1) % q = 0 ∧ twoPowMod (n - 1) n = 1 ∧
    Nat.gcd (n + twoPowMod ((n - 1) / q) n - 1) n = 1)

def checkChain : List ℕ → List (ℕ × List ℕ) → Bool
  | _, [] => true
  | known, (n, factors) :: rest =>
    (factors.all fun q ↦ decide (q ∈ known) && certifies n q) && decide factors.Nodup &&
      decide (1 < n ∧ n < (factors.prod + 1) ^ 2) && checkChain (n :: known) rest

variable {n : ℕ}

lemma twoPowMod_cast {exponent : ℕ} (hexpo : exponent < 2 ^ 256) : (twoPowMod exponent n : ZMod n) =
    2 ^ exponent := by
  have hladder := ladderLow_spec (fun (a : ℕ) k ↦ (a : ZMod n) = 2 ^ k)
    (fun a b ↦ a * b % n) exponent
    (fun a b j k ha hb ↦ by rw [ZMod.natCast_mod, Nat.cast_mul, ha, hb, pow_add]) 256 0
    (show ((1 : ℕ) : ZMod n) = 2 ^ 0 by simp) (show ((2 : ℕ) : ZMod n) = 2 ^ 1 by simp)
  simpa only [twoPowMod, pow_zero, Nat.div_one, Nat.mod_eq_of_lt hexpo, zero_add,
    one_mul] using hladder

lemma dvd_pred_of_certifies {q r : ℕ} (hone : 1 < n) (hq : q.Prime) (hcert : certifies n q = true)
    (hr : r.Prime) (hdvd : r ∣ n) : q ∣ r - 1 := by
  obtain ⟨hsize, hmod, hpow, hgcd⟩ := of_decide_eq_true hcert
  have : Fact r.Prime := ⟨hr⟩
  have hcast : ∀ exponent < 2 ^ 256, (twoPowMod exponent n : ZMod r) = 2 ^ exponent := by
    intro exponent hexpo
    have hcong := congrArg (ZMod.castHom hdvd (ZMod r)) (twoPowMod_cast (n := n) hexpo)
    rwa [map_natCast, map_pow, map_ofNat] at hcong
  have hfull : (2 : ZMod r) ^ (n - 1) = 1 := by
    rw [← hcast _ (by omega), hpow, Nat.cast_one]
  have hnot : (2 : ZMod r) ^ ((n - 1) / q) ≠ 1 := by
    rw [← hcast _ (lt_of_le_of_lt (Nat.div_le_self _ _) (by omega))]
    intro hsame
    have hzero : ((n + twoPowMod ((n - 1) / q) n - 1 : ℕ) : ZMod r) = 0 := by
      rw [Nat.cast_sub (by omega), Nat.cast_add, hsame, (ZMod.natCast_eq_zero_iff n r).2 hdvd]
      simp
    have hcommon := Nat.dvd_gcd ((ZMod.natCast_eq_zero_iff _ r).1 hzero) hdvd
    rw [hgcd] at hcommon
    exact hr.one_lt.ne' (Nat.dvd_one.1 hcommon)
  have htwo : (2 : ZMod r) ≠ 0 := by
    intro hzero
    rw [hzero, zero_pow (by omega)] at hfull
    exact zero_ne_one hfull
  have hsplit : q * ((n - 1) / q) = n - 1 := Nat.mul_div_cancel' (Nat.dvd_of_mod_eq_zero hmod)
  have horder : orderOf (2 : ZMod r) ∣ q * ((n - 1) / q) := by
    rw [hsplit]
    exact orderOf_dvd_of_pow_eq_one hfull
  have hqorder : q ∣ orderOf (2 : ZMod r) := by
    by_contra hcop
    have hcoprime := ((Nat.Prime.coprime_iff_not_dvd hq).2 hcop).symm
    exact hnot (orderOf_dvd_iff_pow_eq_one.1 (hcoprime.dvd_of_dvd_mul_left horder))
  exact hqorder.trans (ZMod.orderOf_dvd_card_sub_one htwo)

lemma prime_of_certifies {factors : List ℕ} (hne : 1 < n)
    (hfactors : ∀ q ∈ factors, q.Prime ∧ certifies n q = true) (hnodup : factors.Nodup)
    (hsize : n < (factors.prod + 1) ^ 2) : n.Prime := by
  by_contra hcomposite
  have hr := Nat.minFac_prime hne.ne'
  have hdvd : factors.prod ∣ n.minFac - 1 := by
    have hprod := Finset.prod_primes_dvd (s := factors.toFinset) (n.minFac - 1)
      (fun q hq ↦ ((hfactors q (mem_toFinset.1 hq)).1).prime)
      (fun q hq ↦ dvd_pred_of_certifies hne (hfactors q (mem_toFinset.1 hq)).1
        (hfactors q (mem_toFinset.1 hq)).2 hr (Nat.minFac_dvd n))
    rwa [prod_toFinset _ hnodup, map_id'] at hprod
  have hone := hr.one_lt
  have hle := Nat.le_of_dvd (by omega) hdvd
  have hsquare := Nat.minFac_sq_le_self (zero_lt_one.trans hne) hcomposite
  have hpow := Nat.pow_le_pow_left (show factors.prod + 1 ≤ n.minFac by omega) 2
  omega

lemma prime_of_checkChain {known : List ℕ} {steps : List (ℕ × List ℕ)}
    (hknown : ∀ q ∈ known, q.Prime) (hcheck : checkChain known steps = true) :
    ∀ step ∈ steps, step.1.Prime := by
  induction steps generalizing known with
  | nil => exact fun step hstep ↦ absurd hstep not_mem_nil
  | cons step rest ih =>
    obtain ⟨n, factors⟩ := step
    simp only [checkChain, Bool.and_eq_true, all_eq_true, decide_eq_true_eq] at hcheck
    obtain ⟨⟨⟨hall, hnodup⟩, hone, hsize⟩, hrest⟩ := hcheck
    have hprime : n.Prime :=
      prime_of_certifies hone (fun q hq ↦ ⟨hknown q (hall q hq).1, (hall q hq).2⟩) hnodup hsize
    have htail := ih (forall_mem_cons.2 ⟨hprime, hknown⟩) hrest
    exact forall_mem_cons.2 ⟨hprime, htail⟩

end GmStack.Foundation
