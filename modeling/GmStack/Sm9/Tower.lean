import Mathlib.Algebra.QuadraticAlgebra.Basic
import Mathlib.NumberTheory.LegendreSymbol.QuadraticReciprocity
import GmStack.Foundation.Cubic
import GmStack.Sm9.Z256

/-! `arith/fp2.rs`, `arith/fp4.rs` and `arith/fp12.rs` over Fp: `Fp[u]/(u² + 2)`, `Fp2[v]/(v² - u)`
and `Fp4[w]/(w³ - v)`, component by component. -/

namespace GmStack.Sm9

open Foundation QuadraticAlgebra

/-- The prime p. -/
abbrev primeP : ℕ := Z256.p.toNat

instance prime_p : Fact (Nat.Prime primeP) :=
  ⟨prime_of_mem_primeChain (Z256.p.toNat, _) (List.mem_of_getElem? (i := 13) rfl)⟩

/-- Fp, as the residues its values stand for. -/
abbrev Fp : Type := ZMod primeP

/-- The operations of the trait `FieldElement`, and that they are those of a field. -/
class FieldElement (F : Type) [Field F] [DecidableEq F] where
  add : F → F → F
  sub : F → F → F
  neg : F → F
  mul : F → F → F
  square : F → F
  inv : F → Option F
  double : F → F
  isZero : F → Bool
  add_eq : ∀ a b, add a b = a + b
  sub_eq : ∀ a b, sub a b = a - b
  neg_eq : ∀ a, neg a = -a
  mul_eq : ∀ a b, mul a b = a * b
  square_eq : ∀ a, square a = a * a
  inv_eq : ∀ a, inv a = if a = 0 then none else some a⁻¹
  double_eq : ∀ a, double a = a + a
  isZero_eq : ∀ a, isZero a = decide (a = 0)

open FieldElement

attribute [simp] add_eq sub_eq neg_eq mul_eq square_eq inv_eq double_eq isZero_eq

instance : FieldElement Fp where
  add a b := a + b
  sub a b := a - b
  neg a := -a
  mul a b := a * b
  square a := a * a
  inv a := if a = 0 then none else some a⁻¹
  double a := a + a
  isZero a := decide (a = 0)
  add_eq _ _ := rfl
  sub_eq _ _ := rfl
  neg_eq _ := rfl
  mul_eq _ _ := rfl
  square_eq _ := rfl
  inv_eq _ := rfl
  double_eq _ := rfl
  isZero_eq _ := rfl

lemma two_ne_zero_Fp : (2 : Fp) ≠ 0 := by
  decide

variable {K : Type}

lemma bind_norm_inv [Field K] [DecidableEq K] {c : K} [Fact (∀ r : K, r ^ 2 ≠ c + 0 * r)]
    (z : QuadraticAlgebra K c 0) {n : K} (hnorm : n = z.norm) :
    ((if n = 0 then none else some n⁻¹).bind fun normInv ↦
      some (⟨z.re * normInv, -z.im * normInv⟩ : QuadraticAlgebra K c 0)) = if z =
      0 then none else some z⁻¹ := by
  by_cases hz : z = 0
  · rw [if_pos hz, if_pos (by rw [hnorm, hz, QuadraticAlgebra.norm_zero]), Option.bind_none]
  rw [if_neg hz, hnorm, if_neg (mt norm_eq_zero_iff_eq_zero.1 hz), Option.bind_some]
  congr 1
  ext <;> simp <;> ring

lemma bind_cubic_inv [Field K] [DecidableEq K] {v : K} [hv : Fact (Cube.NotCube v)]
    (x : Cube K v) {d : K} {n : Cube K v} (hd : d = x.norm) (hn : n = x.adjugate) :
    ((if d = 0 then none else some d⁻¹).bind fun dInv ↦
      some (⟨n.c0 * dInv, n.c1 * dInv, n.c2 * dInv⟩ : Cube K v)) = if x =
      0 then none else some x⁻¹ := by
  by_cases hx : x = 0
  · rw [if_pos hx, hd, if_pos ((Cube.norm_eq_zero_iff hv.out).2 hx), Option.bind_none]
  · rw [if_neg hx, hd, if_neg (mt (Cube.norm_eq_zero_iff hv.out).1 hx), Option.bind_some,
      hn, Cube.inv_def]

lemma isZero_components [Field K] [DecidableEq K] {c : K} (z : QuadraticAlgebra K c 0) :
    (decide (z.re = 0) && decide (z.im = 0)) = decide (z = 0) := by
  rw [← Bool.decide_and, decide_eq_decide, QuadraticAlgebra.ext_iff, re_zero, im_zero]

/-- Fp2 element: `c0 + c1 * u` with `u² = -2`. -/
abbrev Fp2 : Type := QuadraticAlgebra Fp (-2) 0

instance not_square_neg_two : Fact (∀ r : Fp, r ^ 2 ≠ -2 + 0 * r) := by
  refine ⟨fun r hr ↦ ?_⟩
  have hsquare : IsSquare (-2 : Fp) := ⟨r, by rw [← sq, hr]; ring⟩
  rw [ZMod.exists_sq_eq_neg_two_iff (by decide)] at hsquare
  revert hsquare
  decide

namespace Fp2

def mulU (a : Fp2) : Fp2 := ⟨double (neg a.im), a.re⟩

def frobenius (a : Fp2) : Fp2 := ⟨a.re, neg a.im⟩

def mulFp (a : Fp2) (fp : Fp) : Fp2 := ⟨mul a.re fp, mul a.im fp⟩

lemma mulU_eq (a : Fp2) : mulU a = ⟨0, 1⟩ * a := by
  ext <;> simp [mulU]
  ring

lemma mulFp_eq (a : Fp2) (fp : Fp) : mulFp a fp = ⟨fp, 0⟩ * a := by
  ext <;> simp [mulFp, mul_comm]

end Fp2

instance : FieldElement Fp2 where
  add a b := ⟨add a.re b.re, add a.im b.im⟩
  sub a b := ⟨sub a.re b.re, sub a.im b.im⟩
  neg a := ⟨neg a.re, neg a.im⟩
  mul a b :=
    let ac := mul a.re b.re
    let bd := mul a.im b.im
    let ad := mul a.re b.im
    let bc := mul a.im b.re
    ⟨sub ac (add bd bd), add ad bc⟩
  square a :=
    let b2 := square a.im
    let ab := mul a.re a.im
    ⟨sub (square a.re) (add b2 b2), add ab ab⟩
  inv a := do
    let normInv ← inv (add (square a.re) (double (square a.im)))
    return ⟨mul a.re normInv, mul (neg a.im) normInv⟩
  double a := ⟨add a.re a.re, add a.im a.im⟩
  isZero a := isZero a.re && isZero a.im
  add_eq a b := by ext <;> simp
  sub_eq a b := by ext <;> simp
  neg_eq a := by ext <;> simp
  mul_eq a b := by
    ext <;> simp
    ring
  square_eq a := by ext <;> simp <;> ring
  inv_eq a := by
    rw [← bind_norm_inv a (n := add (square a.re) (double (square a.im)))
      (by simp only [add_eq, square_eq, double_eq, norm_def]; ring), inv_eq]
    simp only [neg_eq, mul_eq]
    rfl
  double_eq a := by ext <;> simp
  isZero_eq a := by rw [isZero_eq, isZero_eq, isZero_components]

lemma norm_pow_of_pow_eq {R : Type} [CommRing R] {a : R} {r : QuadraticAlgebra R a 0} {k : ℕ}
    (hr : r ^ k = ⟨0, 1⟩) : r.norm ^ k = -a := by
  rw [← map_pow, hr, norm_def]
  ring

/-- A square root of `u` has a norm that is a square root of 2. -/
instance not_square_u : Fact (∀ r : Fp2, r ^ 2 ≠ ⟨0, 1⟩ + 0 * r) := by
  refine ⟨fun r hr ↦ ?_⟩
  rw [zero_mul, add_zero] at hr
  have hsquare : IsSquare (2 : Fp) := ⟨r.norm, by rw [← sq, norm_pow_of_pow_eq hr, neg_neg]⟩
  rw [ZMod.exists_sq_eq_two_iff (by decide)] at hsquare
  revert hsquare
  decide

/-- Fp4 element: `c0 + c1 * v` with `v² = u`. -/
abbrev Fp4 : Type := QuadraticAlgebra Fp2 ⟨0, 1⟩ 0

namespace Fp4

def mulV (a : Fp4) : Fp4 := ⟨Fp2.mulU a.im, a.re⟩

def frobenius (a : Fp4) : Fp4 := ⟨Fp2.frobenius a.re, neg (Fp2.frobenius a.im)⟩

def conjugate (a : Fp4) : Fp4 := ⟨a.re, neg a.im⟩

def frobeniusSq (a : Fp4) : Fp4 := conjugate a

def mulFp (a : Fp4) (fp : Fp) : Fp4 := ⟨Fp2.mulFp a.re fp, Fp2.mulFp a.im fp⟩

lemma mulV_eq (a : Fp4) : mulV a = ⟨0, 1⟩ * a := by
  rw [mulV, Fp2.mulU_eq]
  apply QuadraticAlgebra.ext
  · simp only [re_mul, zero_mul, zero_add, mul_one]
  · simp only [im_mul, zero_mul, one_mul, zero_add, add_zero]

lemma mulFp_eq (a : Fp4) (fp : Fp) : mulFp a fp = ⟨⟨fp, 0⟩, 0⟩ * a := by
  rw [mulFp, Fp2.mulFp_eq, Fp2.mulFp_eq]
  apply QuadraticAlgebra.ext
  · simp only [re_mul, mul_zero, zero_mul, add_zero]
  · simp only [im_mul, mul_zero, zero_mul, add_zero]

end Fp4

instance : FieldElement Fp4 where
  add a b := ⟨add a.re b.re, add a.im b.im⟩
  sub a b := ⟨sub a.re b.re, sub a.im b.im⟩
  neg a := ⟨neg a.re, neg a.im⟩
  mul a b :=
    let ac := mul a.re b.re
    let bd := mul a.im b.im
    let ad := mul a.re b.im
    let bc := mul a.im b.re
    ⟨add ac (Fp2.mulU bd), add ad bc⟩
  square a :=
    let ab := mul a.re a.im
    ⟨add (square a.re) (Fp2.mulU (square a.im)), add ab ab⟩
  inv a := do
    let normInv ← inv (sub (square a.re) (Fp2.mulU (square a.im)))
    return ⟨mul a.re normInv, mul (neg a.im) normInv⟩
  double a := ⟨add a.re a.re, add a.im a.im⟩
  isZero a := isZero a.re && isZero a.im
  add_eq a b := by
    apply QuadraticAlgebra.ext <;> simp only [add_eq, re_add, im_add]
  sub_eq a b := by
    apply QuadraticAlgebra.ext <;> simp only [sub_eq, re_sub, im_sub]
  neg_eq a := by
    apply QuadraticAlgebra.ext <;> simp only [neg_eq, re_neg, im_neg]
  mul_eq a b := by
    apply QuadraticAlgebra.ext <;> simp only [add_eq, mul_eq, Fp2.mulU_eq, re_mul, im_mul] <;> ring
  square_eq a := by
    apply QuadraticAlgebra.ext <;> simp only [add_eq, mul_eq, square_eq, Fp2.mulU_eq,
      re_mul, im_mul] <;> ring
  inv_eq a := by
    rw [← bind_norm_inv a (n := sub (square a.re) (Fp2.mulU (square a.im)))
      (by simp only [sub_eq, square_eq, Fp2.mulU_eq, norm_def]; ring), inv_eq]
    simp only [neg_eq, mul_eq]
    rfl
  double_eq a := by
    apply QuadraticAlgebra.ext <;> simp only [add_eq, re_add, im_add]
  isZero_eq a := by rw [isZero_eq, isZero_eq, isZero_components]

/-- A cube root of `v` has a norm whose norm is a cube root of 2, and 2 fails Euler's criterion. -/
instance not_cube_v : Fact (Cube.NotCube (⟨0, 1⟩ : Fp4)) := by
  refine ⟨fun r hr ↦ ?_⟩
  have hu : (-r.norm) ^ 3 = (⟨0, 1⟩ : Fp2) := by
    rw [Odd.neg_pow (by decide), norm_pow_of_pow_eq hr, neg_neg]
  have hcube := norm_pow_of_pow_eq hu
  rw [neg_neg] at hcube
  generalize (-r.norm).norm = x at hcube
  have hx : x ≠ 0 := by
    rintro rfl
    exact two_ne_zero_Fp (by rw [← hcube, zero_pow three_ne_zero])
  have hpower : (twoPowMod ((primeP - 1) / 3) primeP : Fp) = ((1 : ℕ) : Fp) := by
    rw [twoPowMod_cast (by decide), ← hcube, ← pow_mul, Nat.mul_div_cancel' (by decide),
      ZMod.pow_card_sub_one_eq_one hx, Nat.cast_one]
  rw [ZMod.natCast_eq_natCast_iff] at hpower
  exact absurd hpower (by decide +kernel)

/-- Fp12 element: `c0 + c1 * w + c2 * w²` with `w³ = v`. -/
abbrev Fp12 : Type := Cube Fp4 ⟨0, 1⟩

namespace Fp12

def numerators (x : Fp12) : Fp12 :=
  ⟨sub (square x.c0) (Fp4.mulV (mul x.c1 x.c2)), sub (Fp4.mulV (square x.c2)) (mul x.c0 x.c1),
    sub (square x.c1) (mul x.c0 x.c2)⟩

def denominator (x : Fp12) : Fp4 :=
  let a3 := mul (square x.c0) x.c0
  let b3V := Fp4.mulV (mul (square x.c1) x.c1)
  let c3V2 := Fp4.mulV (Fp4.mulV (mul (square x.c2) x.c2))
  let abcV := Fp4.mulV (mul (mul x.c0 x.c1) x.c2)
  sub (sub (add (add a3 b3V) c3V2) (double abcV)) abcV

lemma numerators_eq (x : Fp12) : numerators x = x.adjugate := by
  simp only [numerators, Cube.adjugate, sub_eq, square_eq, mul_eq, Fp4.mulV_eq, sq]

lemma denominator_eq (x : Fp12) : denominator x = x.norm := by
  simp only [denominator, Cube.norm, add_eq, sub_eq, square_eq, mul_eq, double_eq, Fp4.mulV_eq]
  ring

end Fp12

instance : FieldElement Fp12 where
  add a b := ⟨add a.c0 b.c0, add a.c1 b.c1, add a.c2 b.c2⟩
  sub a b := ⟨sub a.c0 b.c0, sub a.c1 b.c1, sub a.c2 b.c2⟩
  neg a := ⟨neg a.c0, neg a.c1, neg a.c2⟩
  mul a b :=
    let ad := mul a.c0 b.c0
    let ae := mul a.c0 b.c1
    let af := mul a.c0 b.c2
    let bd := mul a.c1 b.c0
    let be := mul a.c1 b.c1
    let bf := mul a.c1 b.c2
    let cd := mul a.c2 b.c0
    let ce := mul a.c2 b.c1
    let cf := mul a.c2 b.c2
    ⟨add ad (Fp4.mulV (add bf ce)), add (add ae bd) (Fp4.mulV cf), add (add af be) cd⟩
  square a :=
    let t0 := mul a.c0 a.c1
    let t1 := mul a.c0 a.c2
    let t2 := Fp4.mulV (mul a.c1 a.c2)
    ⟨add (square a.c0) (add t2 t2), add (add t0 t0) (Fp4.mulV (square a.c2)),
      add (square a.c1) (add t1 t1)⟩
  inv a := do
    let dInv ← inv (Fp12.denominator a)
    let n := Fp12.numerators a
    return ⟨mul n.c0 dInv, mul n.c1 dInv, mul n.c2 dInv⟩
  double a := ⟨add a.c0 a.c0, add a.c1 a.c1, add a.c2 a.c2⟩
  isZero a := isZero a.c0 && isZero a.c1 && isZero a.c2
  add_eq a b := by simp only [add_eq, Cube.add_def]
  sub_eq a b := by simp only [sub_eq, Cube.sub_def]
  neg_eq a := by simp only [neg_eq, Cube.neg_def]
  mul_eq a b := by simp only [add_eq, mul_eq, Fp4.mulV_eq, Cube.mul_def]
  square_eq a := by
    simp only [add_eq, mul_eq, square_eq, Fp4.mulV_eq, Cube.mul_def, Cube.mk.injEq]
    refine ⟨?_, ?_, ?_⟩ <;> ring
  inv_eq a := by
    rw [← bind_cubic_inv a (Fp12.denominator_eq a) (Fp12.numerators_eq a), inv_eq]
    simp only [mul_eq]
    rfl
  double_eq a := by simp only [add_eq, Cube.add_def]
  isZero_eq a := by
    rw [isZero_eq, isZero_eq, isZero_eq, ← Bool.decide_and, ← Bool.decide_and, decide_eq_decide,
      Cube.ext_iff,
      and_assoc]
    rfl

/-- The operations are those of a field, squares are products, and inversion fails on zero only. -/
def Implements (F : Type) [Field F] [DecidableEq F] [FieldElement F] : Prop :=
  ∀ a b : F, add a b = a + b ∧ sub a b = a - b ∧ neg a = -a ∧ mul a b = a * b ∧ square a = mul a a ∧
    (inv a = none ↔ a = 0) ∧ (inv a = some b → mul a b = 1)

lemma FieldElement.implements (F : Type) [Field F] [DecidableEq F] [FieldElement F] :
    Implements F := by
  intro a b
  refine ⟨add_eq a b, sub_eq a b, neg_eq a, mul_eq a b, by rw [square_eq, mul_eq], ?_, ?_⟩
  · rw [inv_eq, ite_eq_left_iff]
    simp
  rw [inv_eq, mul_eq]
  split_ifs with ha
  · exact fun hnone ↦ absurd hnone (by simp)
  · rintro hsome
    rw [← Option.some.inj hsome, mul_inv_cancel₀ ha]

/-- The three extensions compute in `Fp[u]/(u² + 2)`, `Fp2[v]/(v² - u)` and `Fp4[w]/(w³ - v)`, which
are fields. -/
theorem tower_implements : (Implements Fp2 ∧ (⟨0, 1⟩ : Fp2) ^ 2 = -2) ∧
    (Implements Fp4 ∧ (⟨0, 1⟩ : Fp4) ^ 2 = ⟨⟨0, 1⟩, 0⟩) ∧
    (Implements Fp12 ∧ (⟨0, 1, 0⟩ : Fp12) ^ 3 = ⟨⟨0, 1⟩, 0, 0⟩) ∧
    (∀ (a : Fp2) (fp : Fp), Fp2.mulU a = ⟨0, 1⟩ * a ∧ Fp2.mulFp a fp = ⟨fp, 0⟩ * a) ∧
    ∀ (a : Fp4) (fp : Fp), Fp4.mulV a = ⟨0, 1⟩ * a ∧ Fp4.mulFp a fp = ⟨⟨fp, 0⟩, 0⟩ * a := by
  refine ⟨⟨implements Fp2, ?_⟩, ⟨implements Fp4, ?_⟩, ⟨implements Fp12, Cube.w_pow_three⟩,
    fun a fp ↦ ⟨Fp2.mulU_eq a, Fp2.mulFp_eq a fp⟩, fun a fp ↦ ⟨Fp4.mulV_eq a, Fp4.mulFp_eq a fp⟩⟩
  · rw [sq]
    ext <;> simp
  · rw [sq]
    apply QuadraticAlgebra.ext <;> simp

namespace Fp12

def mulW (x : Fp12) : Fp12 := ⟨Fp4.mulV x.c1, x.c0, x.c2⟩

def w : Fp12 := ⟨0, 1, 0⟩

lemma mul_w_eq (x : Fp12) : mul x w = ⟨Fp4.mulV x.c2, x.c0, x.c1⟩ := by
  rw [mul_eq, Fp4.mulV_eq, w, Cube.mul_def]
  ext1 <;> simp

lemma mulW_eq_mul_w (x : Fp12) : x.mulW = mul x w ↔ x.c1 = x.c2 := by
  rw [mul_w_eq, mulW]
  constructor
  · exact fun h ↦ (congrArg Cube.c2 h).symm
  · intro h
    rw [h]

/-- `mul_w` leaves the coefficient of w² in its place and takes that of w for the constant term. -/
theorem mulW_iff (x : Fp12) : mul w (mul w w) = ⟨⟨0, 1⟩, 0, 0⟩ ∧
    (x.mulW = mul x w ↔ x.c1 = x.c2) := by
  refine ⟨?_, mulW_eq_mul_w x⟩
  rw [mul_eq, mul_eq, ← sq, ← pow_succ']
  exact Cube.w_pow_three

theorem mulW_w_ne : w.mulW ≠ mul w w :=
  fun h ↦ one_ne_zero ((mulW_eq_mul_w w).mp h)

end Fp12

end GmStack.Sm9
