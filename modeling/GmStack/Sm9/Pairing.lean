import GmStack.Sm9.Frobenius

/-! `pairing/ate.rs` from the Miller loop on. Every step is a power of a non-zero element, and the
exponents add up to `(p¹² - 1)/N`. -/

namespace GmStack.Sm9

open Foundation FieldElement Fp12

def Fp12.pow (x : Fp12) (exp : Z256) : Fp12 := ladderWhile mul square 1 x exp.toNat

lemma Fp12.pow_eq (x : Fp12) (exp : Z256) : pow x exp = x ^ exp.toNat := by
  have hladder := ladderWhile_spec (fun (b : Fp12) k ↦ b = x ^ k) mul square exp.toNat
    (fun b c j k hb hc ↦ by rw [pow_add, hb, hc, mul_eq])
    (fun b k hb ↦ by rw [two_mul, pow_add, hb, square_eq])
    (pow_zero x).symm (pow_one x).symm
  rwa [zero_add, one_mul] at hladder

def finalExponentiationHardPart (f : Fp12) : Fp12 :=
  let a2 : Z256 := .new 0x0000b98b0cb27659 0xd8000000019062ed 0 0
  let a3 : Z256 := .new 0x400000000215d941 0x2 0 0
  let nine : Z256 := .new 9 0 0 0
  let t0 := (inv (Fp12.pow f a3)).getD 1
  let t1 := mul t0 (frobenius t0)
  let t0 := mul t0 t1
  let t2 := frobenius f
  let t3 := Fp12.pow (mul t2 f) nine
  let t0 := mul t0 t3
  let t3 := square (square f)
  let t0 := mul t0 t3
  let t2 := mul (square t2) t1
  let t1 := mul (frobeniusSq f) t2
  let t2 := Fp12.pow t1 a2
  let t0 := mul t2 t0
  mul (frobeniusCu f) t0

def finalExponentiation (f : Fp12) : Fp12 :=
  let fInv := (inv f).getD 1
  let f1 := mul (frobeniusSix f) fInv
  let f2 := mul (frobeniusSq f1) f1
  finalExponentiationHardPart f2

lemma inv_getD {x : Fp12} (hx : x ≠ 0) : (inv x).getD 1 = x⁻¹ := by
  rw [inv_eq, if_neg hx, Option.getD_some]

lemma hardPart_eq {f : Fp12} (hf : f ≠ 0) :
    finalExponentiationHardPart f =
    f ^ (((primeP ^ 4 - primeP ^ 2 + 1) / Z256.n.toNat : ℕ) : ℤ) := by
  simp only [finalExponentiationHardPart, mul_eq, square_eq, pow_eq, frobenius_eq, frobeniusSq_eq,
    frobeniusCu_eq]
  rw [inv_getD (pow_ne_zero _ hf)]
  simp only [← zpow_natCast, ← zpow_neg, ← zpow_two, ← zpow_mul, ← zpow_add₀ hf, ← zpow_add_one₀ hf]
  refine congrArg (fun e : ℤ ↦ f ^ e) ?_
  decide

lemma finalExponentiation_eq {f : Fp12} (hf : f ≠ 0) :
    finalExponentiation f = f ^ ((primeP ^ 12 - 1) / Z256.n.toNat) := by
  have hfactor : (((primeP ^ 12 - 1) / Z256.n.toNat : ℕ) : ℤ)
      = ((primeP ^ 6 : ℕ) + -1) * ((primeP ^ 2 : ℕ) + 1) *
      ((primeP ^ 4 - primeP ^ 2 + 1) / Z256.n.toNat : ℕ) := by
    decide
  have heasy : mul (frobeniusSq (mul (frobeniusSix f) (inv f |>.getD 1)))
    (mul (frobeniusSix f) (inv f |>.getD 1))
      = f ^ (((primeP ^ 6 : ℕ) + -1 : ℤ) * ((primeP ^ 2 : ℕ) + 1)) := by
    rw [inv_getD hf, mul_eq, mul_eq, frobeniusSq_eq, frobeniusSix_eq, ← zpow_neg_one]
    simp only [← zpow_natCast, ← zpow_add₀ hf, ← zpow_mul, mul_add_one]
  rw [finalExponentiation, heasy, hardPart_eq (zpow_ne_zero _ hf), ← zpow_mul,
    ← hfactor, zpow_natCast]

lemma Fp12.pow_card_sub_one {x : Fp12} (hx : x ≠ 0) : x ^ (primeP ^ 12 - 1) = 1 := by
  have hcycle : x ^ primeP ^ 12 = x := by
    rw [pow_add primeP 6 6, pow_mul, ← frobeniusSix_eq, ← frobeniusSix_eq]
    refine Cube.ext ?_ ?_ ?_ <;> apply QuadraticAlgebra.ext <;> simp [frobeniusSix, Fp4.conjugate]
  refine mul_right_cancel₀ hx ?_
  rw [one_mul, ← pow_succ]
  exact hcycle

/-- On the non-zero elements it is the power of `(p¹² - 1)/N`. -/
theorem finalExponentiation_spec (f : Fp12) (hf : f ≠ 0) :
    finalExponentiation f = f ^ ((primeP ^ 12 - 1) / Z256.n.toNat) ∧
    finalExponentiation f ^ Z256.n.toNat = 1
      ∧ ∀ g : Fp12, g ≠ 0 → finalExponentiation (mul f g) = mul (finalExponentiation f)
      (finalExponentiation g) := by
  have hdvd : Z256.n.toNat ∣ primeP ^ 12 - 1 := Nat.dvd_of_mod_eq_zero (by decide)
  refine ⟨finalExponentiation_eq hf, ?_, fun g hg ↦ ?_⟩
  · rw [finalExponentiation_eq hf, ← pow_mul, Nat.div_mul_cancel hdvd, pow_card_sub_one hf]
  · rw [mul_eq, mul_eq, finalExponentiation_eq hf, finalExponentiation_eq hg,
      finalExponentiation_eq (mul_ne_zero hf hg),
      mul_pow]

theorem finalExponentiation_root : finalExponentiation ⟨0, 1, 0⟩ ^ Z256.n.toNat = 1 :=
  (finalExponentiation_spec ⟨0, 1, 0⟩ fun hzero ↦ one_ne_zero (congrArg Cube.c1 hzero)).2.1

end GmStack.Sm9
