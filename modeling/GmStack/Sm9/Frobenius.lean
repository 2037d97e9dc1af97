import GmStack.Sm9.Tower

/-! The maps of `arith/fp4.rs` and `arith/fp12.rs`. That of Fp4 negates the coefficient of `v`
instead of multiplying it by a square root of -1. -/

namespace GmStack.Sm9

open Foundation FieldElement QuadraticAlgebra

def fromMontgomery (limbs : Z256) : Fp := limbs.toNat * ((2 ^ 256 : ℕ) : Fp)⁻¹

def montAlpha1 :
    Z256 := .new 0x1a98dfbd4575299f 0x9ec8547b245c54fd 0xf51f5eac13df846c 0x9ef74015d5a16393

def montAlpha3 :
    Z256 := .new 0x39b4ef0f3ee72529 0xdb043bf508582782 0xb8554ab054ac91e3 0x9848eec25498cab5

def alpha1 : Fp := fromMontgomery montAlpha1

def alpha2 : Fp := fromMontgomery (.new 0xb626197dce4736ca 0x08296b3557ed0186 0x9c705db2fd91512a
    0x1c753e748601c992)

def alpha3 : Fp := fromMontgomery montAlpha3

def alpha4 : Fp := fromMontgomery (.new 0x81054fcd94e9c1c4 0x4c0e91cb8ce2df3e 0x4877b452e8aedfb4
    0x88f53e748b491776)

def alpha5 : Fp := fromMontgomery (.new 0x048baa79dcc34107 0x5e2e7ac4fe76c161 0x99399754365bd4bc
    0xaf91aeac819b0e13)

lemma radix_ne_zero : ((2 ^ 256 : ℕ) : Fp) ≠ 0 := by
  decide

lemma fromMontgomery_mul {a b c : Z256}
    (hmod : primeP ∣ a.toNat * b.toNat + (primeP - 1) * c.toNat * 2 ^ 256) :
    fromMontgomery c = fromMontgomery a * fromMontgomery b := by
  have hzero := (ZMod.natCast_eq_zero_iff _ primeP).2 hmod
  have hpred : ((primeP - 1 : ℕ) : Fp) = -1 := by
    rw [Nat.cast_sub prime_p.out.one_le, ZMod.natCast_self, Nat.cast_one, zero_sub]
  rw [Nat.cast_add, Nat.cast_mul, Nat.cast_mul, Nat.cast_mul, hpred] at hzero
  have hradix := radix_ne_zero
  simp only [fromMontgomery]
  field_simp
  linear_combination -hzero

lemma alpha2_eq : alpha2 = alpha1 ^ 2 := by
  rw [sq]
  exact fromMontgomery_mul (by decide)

lemma alpha3_eq : alpha3 = alpha1 ^ 3 := by
  rw [pow_succ, ← alpha2_eq]
  exact fromMontgomery_mul (by decide)

lemma alpha4_eq : alpha4 = alpha1 ^ 4 := by
  rw [pow_succ, ← alpha3_eq]
  exact fromMontgomery_mul (by decide)

lemma alpha5_eq : alpha5 = alpha1 ^ 5 := by
  rw [pow_succ, ← alpha4_eq]
  exact fromMontgomery_mul (by decide)

lemma neg_two_pow_of_dvd {k : ℕ} (hsmall : k < 2 ^ 256) (hodd : Odd k)
    (hdvd : primeP ∣ montAlpha1.toNat + twoPowMod k primeP * 2 ^ 256) : (-2 : Fp) ^ k = alpha1 := by
  have hzero := (ZMod.natCast_eq_zero_iff _ _).2 hdvd
  rw [Nat.cast_add, Nat.cast_mul, twoPowMod_cast hsmall] at hzero
  rw [hodd.neg_pow, alpha1, fromMontgomery, eq_mul_inv_iff_mul_eq₀ radix_ne_zero]
  linear_combination -hzero

lemma neg_two_pow : (-2 : Fp) ^ ((primeP - 1) / 12) = alpha1 :=
  neg_two_pow_of_dvd (by decide) (by decide) (by decide +kernel)

lemma alpha3_sq : alpha3 ^ 2 = -1 := by
  have hzero : ((montAlpha3.toNat * montAlpha3.toNat + 2 ^ 256 * 2 ^ 256 : ℕ) : Fp) = 0 :=
    (ZMod.natCast_eq_zero_iff _ _).2 (by decide)
  rw [Nat.cast_add, Nat.cast_mul, Nat.cast_mul] at hzero
  have hradix := radix_ne_zero
  rw [alpha3, fromMontgomery]
  field_simp
  linear_combination hzero

lemma alpha1_pow_six : alpha1 ^ 6 = -1 := by
  rw [← alpha3_sq, alpha3_eq, ← pow_mul]

lemma alpha3_ne : alpha3 ≠ -1 := by
  intro heq
  have hsq := alpha3_sq
  rw [heq] at hsq
  exact two_ne_zero_Fp (by linear_combination hsq)

lemma root_pow_primeP {A : Type} [CommRing A] (f : Fp →+* A) {y : A} {m e : ℕ} (hme : m * e = 12)
    (hy : y ^ m = f (-2)) : y ^ primeP = f (alpha1 ^ e) * y := by
  have hp : primeP = m * (((primeP - 1) / 12) * e) + 1 := by
    rw [mul_comm _ e, ← mul_assoc, hme]
    decide
  conv_lhs => rw [hp]
  rw [pow_succ, pow_mul, hy, ← map_pow, pow_mul, neg_two_pow]

lemma quadratic_pow_char {R : Type} [CommRing R] {a c : R} (p : ℕ) [Fact p.Prime] [CharP R p]
    (hroot : (⟨0, 1⟩ : QuadraticAlgebra R a 0) ^ p = ⟨0, c⟩) (z : QuadraticAlgebra R a 0) :
    z ^ p = ⟨z.re ^ p, z.im ^ p * c⟩ := by
  have : CharP (QuadraticAlgebra R a 0) p := charP_of_injective_algebraMap algebraMap_injective p
  have hsplit : z = algebraMap R _ z.re + algebraMap R _ z.im * ⟨0, 1⟩ := by
    ext <;> simp
  conv_lhs => rw [hsplit]
  rw [add_pow_char, mul_pow, hroot, ← map_pow, ← map_pow]
  ext <;> simp [-map_pow]

/-- The coordinate of `w^m` multiplied by `c^m`. -/
def Fp2.scale (c : Fp) (z : Fp2) : Fp2 := ⟨z.re, c ^ 6 * z.im⟩

@[inherit_doc Fp2.scale]
def Fp4.scale (c : Fp) (z : Fp4) : Fp4 := ⟨Fp2.scale c z.re, Fp2.mulFp (Fp2.scale c z.im) (c ^ 3)⟩

@[inherit_doc Fp2.scale]
def Fp12.scale (c : Fp) (x : Fp12) : Fp12 :=
  ⟨Fp4.scale c x.c0, Fp4.mulFp (Fp4.scale c x.c1) c, Fp4.mulFp (Fp4.scale c x.c2) (c ^ 2)⟩

lemma Fp2.pow_primeP (z : Fp2) : z ^ primeP = scale alpha1 z := by
  have hroot : (⟨0, 1⟩ : Fp2) ^ primeP = ⟨0, alpha1 ^ 6⟩ := by
    rw [root_pow_primeP (algebraMap Fp Fp2) (m := 2) (e := 6) rfl (by rw [sq]; ext <;> simp)]
    ext <;> simp [-map_pow]
  rw [quadratic_pow_char primeP hroot, ZMod.pow_card, ZMod.pow_card, mul_comm]
  rfl

lemma v_pow_four : (⟨0, 1⟩ : Fp4) ^ 4 = algebraMap Fp2 Fp4 (algebraMap Fp Fp2 (-2)) := by
  have hu : (⟨0, 1⟩ : Fp2) ^ 2 = algebraMap Fp Fp2 (-2) := by
    rw [sq]
    ext <;> simp
  have hv : (⟨0, 1⟩ : Fp4) ^ 2 = algebraMap Fp2 Fp4 ⟨0, 1⟩ := by
    rw [sq]
    apply QuadraticAlgebra.ext <;> simp
  rw [pow_mul _ 2 2, hv, ← map_pow, hu]

instance : CharP Fp2 primeP := charP_of_injective_algebraMap algebraMap_injective primeP

instance : CharP Fp4 primeP := charP_of_injective_algebraMap (R := Fp2) algebraMap_injective primeP

lemma Fp4.pow_primeP (z : Fp4) : z ^ primeP = scale alpha1 z := by
  have hroot : (⟨0, 1⟩ : Fp4) ^ primeP = ⟨0, algebraMap Fp Fp2 (alpha1 ^ 3)⟩ := by
    rw [root_pow_primeP ((algebraMap Fp2 Fp4).comp (algebraMap Fp Fp2)) (m := 4)
      (e := 3) rfl v_pow_four]
    apply QuadraticAlgebra.ext <;> simp [-map_pow]
  rw [quadratic_pow_char primeP hroot, Fp2.pow_primeP, Fp2.pow_primeP, scale,
    Fp2.mulFp_eq, mul_comm]
  rfl

lemma Fp12.pow_primeP (x : Fp12) : x ^ primeP = scale alpha1 x := by
  have hw : (Cube.w : Fp12) ^ 12 = Cube.of (algebraMap Fp2 Fp4 (algebraMap Fp Fp2 (-2))) := by
    rfl
  have hroot : (Cube.w : Fp12) ^ primeP = ⟨0, algebraMap Fp2 Fp4 (algebraMap Fp Fp2 alpha1),
      0⟩ := by
    rw [root_pow_primeP (Cube.of.comp ((algebraMap Fp2 Fp4).comp (algebraMap Fp Fp2))) (m := 12)
      (e := 1) rfl hw, pow_one]
    ext1 <;> simp [Cube.of, Cube.w, Cube.mul_def]
  rw [Cube.pow_char x primeP hroot, Fp4.pow_primeP, Fp4.pow_primeP, Fp4.pow_primeP,
    scale, Fp4.mulFp_eq,
    Fp4.mulFp_eq, mul_comm, mul_comm _ (_ ^ 2), ← map_pow, ← map_pow]
  rfl

lemma Fp12.scale_scale (c d : Fp) (x : Fp12) : scale c (scale d x) = scale (c * d) x := by
  refine Cube.ext ?_ ?_ ?_ <;> apply QuadraticAlgebra.ext <;> ext <;>
    simp [scale, Fp4.scale, Fp2.scale, Fp4.mulFp, Fp2.mulFp] <;> ring

lemma Fp12.pow_primeP_pow (x : Fp12) (k : ℕ) : x ^ primeP ^ k = scale (alpha1 ^ k) x := by
  induction k with
  | zero =>
    refine Cube.ext ?_ ?_ ?_ <;> apply QuadraticAlgebra.ext <;> ext <;>
      simp [scale, Fp4.scale, Fp2.scale, Fp4.mulFp, Fp2.mulFp]
  | succ k ih => rw [pow_succ, pow_mul, ih, pow_primeP, scale_scale, ← pow_succ']

namespace Fp12

def frobenius (x : Fp12) : Fp12 :=
  ⟨⟨Fp2.frobenius x.c0.re, Fp2.mulFp (Fp2.frobenius x.c0.im) alpha3⟩,
    ⟨Fp2.mulFp (Fp2.frobenius x.c1.re) alpha1, Fp2.mulFp (Fp2.frobenius x.c1.im) alpha4⟩,
    ⟨Fp2.mulFp (Fp2.frobenius x.c2.re) alpha2, Fp2.mulFp (Fp2.frobenius x.c2.im) alpha5⟩⟩

def frobeniusSq (x : Fp12) : Fp12 :=
  ⟨Fp4.frobeniusSq x.c0, Fp4.mulFp (Fp4.frobeniusSq x.c1) alpha2,
    Fp4.mulFp (Fp4.frobeniusSq x.c2) alpha4⟩

def frobeniusCu (x : Fp12) : Fp12 :=
  let beta : Fp2 := ⟨fromMontgomery montAlpha3, 0⟩
  let cubed := fun z ↦ Fp2.frobenius (Fp2.frobenius (Fp2.frobenius z))
  ⟨⟨cubed x.c0.re, neg (mul (cubed x.c0.im) beta)⟩, ⟨mul (cubed x.c1.re) beta, cubed x.c1.im⟩,
    ⟨neg (cubed x.c2.re), mul (cubed x.c2.im) beta⟩⟩

def frobeniusSix (x : Fp12) :
    Fp12 := ⟨Fp4.conjugate x.c0, neg (Fp4.conjugate x.c1), Fp4.conjugate x.c2⟩

section

variable (x : Fp12)

lemma frobenius_eq : frobenius x = x ^ primeP := by
  have hsix := alpha1_pow_six
  rw [pow_primeP]
  refine Cube.ext ?_ ?_ ?_ <;> apply QuadraticAlgebra.ext <;> apply QuadraticAlgebra.ext <;>
    simp only [frobenius, scale, Fp4.scale, Fp2.scale, Fp4.mulFp, Fp2.mulFp, Fp2.frobenius,
    neg_eq, mul_eq,
      alpha2_eq, alpha3_eq, alpha4_eq, alpha5_eq, hsix] <;> ring

lemma frobeniusSq_eq : frobeniusSq x = x ^ primeP ^ 2 := by
  have hsix : (alpha1 ^ 2) ^ 6 = 1 := by rw [pow_right_comm, alpha1_pow_six]; ring
  have hthree : (alpha1 ^ 2) ^ 3 = -1 := by rw [← pow_mul, alpha1_pow_six]
  rw [pow_primeP_pow]
  refine Cube.ext ?_ ?_ ?_ <;> apply QuadraticAlgebra.ext <;> apply QuadraticAlgebra.ext <;>
    simp only [frobeniusSq, Fp4.frobeniusSq, Fp4.conjugate, scale, Fp4.scale, Fp2.scale,
    Fp4.mulFp, Fp2.mulFp,
      neg_eq, mul_eq, re_neg, im_neg, alpha2_eq, alpha4_eq, hsix, hthree] <;> ring

lemma frobeniusCu_eq : frobeniusCu x = x ^ primeP ^ 3 := by
  have hsix : (alpha1 ^ 3) ^ 6 = -1 := by rw [pow_right_comm, alpha1_pow_six]; ring
  have hsq : (alpha1 ^ 3) ^ 2 = -1 := by rw [← pow_mul, alpha1_pow_six]
  have hthree : (alpha1 ^ 3) ^ 3 = -alpha1 ^ 3 := by rw [pow_succ, hsq, neg_one_mul]
  have hbeta : fromMontgomery montAlpha3 = alpha1 ^ 3 := alpha3_eq
  rw [pow_primeP_pow]
  refine Cube.ext ?_ ?_ ?_ <;> apply QuadraticAlgebra.ext <;> apply QuadraticAlgebra.ext <;>
    simp only [frobeniusCu, Fp2.frobenius, scale, Fp4.scale, Fp2.scale, Fp4.mulFp, Fp2.mulFp,
    neg_eq, mul_eq, re_neg,
      im_neg, re_mul, im_mul, hbeta, hsix, hthree, hsq]
  case refine_2.im.re => linear_combination x.c1.im.re * hsq
  case refine_2.im.im => linear_combination -x.c1.im.im * hsq
  all_goals ring

lemma frobeniusSix_eq : frobeniusSix x = x ^ primeP ^ 6 := by
  rw [pow_primeP_pow, alpha1_pow_six]
  refine Cube.ext ?_ ?_ ?_ <;> apply QuadraticAlgebra.ext <;> apply QuadraticAlgebra.ext <;>
    simp only [frobeniusSix, Fp4.conjugate, scale, Fp4.scale, Fp2.scale, Fp4.mulFp, Fp2.mulFp,
    neg_eq, mul_eq, re_neg,
      im_neg] <;> ring

end

/-- The four maps are the powers of p they are named after. -/
theorem frobenius_maps (x : Fp12) :
    frobenius x = x ^ primeP ∧ frobeniusSq x = x ^ primeP ^ 2 ∧ frobeniusCu x = x ^ primeP ^ 3 ∧
      frobeniusSix x = x ^ primeP ^ 6 :=
  ⟨frobenius_eq x, frobeniusSq_eq x, frobeniusCu_eq x, frobeniusSix_eq x⟩

end Fp12

namespace Fp4

lemma frobeniusSq_eq (x : Fp4) : frobeniusSq x = x ^ primeP ^ 2 := by
  have hsix := alpha1_pow_six
  rw [sq primeP, pow_mul, pow_primeP, pow_primeP]
  apply QuadraticAlgebra.ext <;> apply QuadraticAlgebra.ext <;>
    simp only [frobeniusSq, conjugate, scale, Fp2.scale, Fp2.mulFp, neg_eq, mul_eq,
    re_neg, im_neg, hsix]
  case im.re => linear_combination -x.im.re * hsix
  case im.im => linear_combination -x.im.im * hsix
  all_goals ring

/-- The map is the power of p, and the square of the map is the power of p², on Fp2 alone. -/
theorem frobenius_eq_pow_iff (x : Fp4) : (frobenius x = x ^ primeP ↔ x.im = 0) ∧
    frobeniusSq x = x ^ primeP ^ 2 ∧
      (frobeniusSq x = frobenius (frobenius x) ↔ x.im = 0) := by
  have hsix := alpha1_pow_six
  have hfrobenius : frobenius x = x ^ primeP ↔ x.im.re * (alpha3 + 1) = 0 ∧
      x.im.im * (alpha3 + 1) = 0 := by
    rw [pow_primeP, QuadraticAlgebra.ext_iff, QuadraticAlgebra.ext_iff, QuadraticAlgebra.ext_iff]
    simp only [frobenius, scale, Fp2.scale, Fp2.mulFp, Fp2.frobenius, neg_eq, mul_eq, re_neg,
      im_neg, alpha3_eq, hsix]
    constructor
    · rintro ⟨-, hre, him⟩
      exact ⟨by linear_combination -hre, by linear_combination him⟩
    · rintro ⟨hre, him⟩
      exact ⟨⟨trivial, by ring⟩, by linear_combination -hre, by linear_combination him⟩
  have htwice : frobeniusSq x = frobenius (frobenius x) ↔ x.im.re * 2 = 0 ∧ x.im.im * 2 = 0 := by
    rw [QuadraticAlgebra.ext_iff, QuadraticAlgebra.ext_iff, QuadraticAlgebra.ext_iff]
    simp only [frobeniusSq, conjugate, frobenius, Fp2.frobenius, neg_eq, re_neg, im_neg]
    constructor
    · rintro ⟨-, hre, him⟩
      exact ⟨by linear_combination -hre, by linear_combination -him⟩
    · rintro ⟨hre, him⟩
      exact ⟨⟨trivial, by ring⟩, by linear_combination -hre, by linear_combination -him⟩
  have hne : alpha3 + 1 ≠ 0 := fun hzero ↦ alpha3_ne (eq_neg_of_add_eq_zero_left hzero)
  have him : x.im = 0 ↔ x.im.re = 0 ∧ x.im.im = 0 := QuadraticAlgebra.ext_iff
  rw [hfrobenius, htwice, mul_eq_zero_iff_right hne, mul_eq_zero_iff_right hne,
    mul_eq_zero_iff_right two_ne_zero_Fp,
    mul_eq_zero_iff_right two_ne_zero_Fp, him]
  exact ⟨Iff.rfl, frobeniusSq_eq x, Iff.rfl⟩

/-- On `v` the map is not the power of p, and its square is not the power of p². -/
theorem frobenius_v : frobenius ⟨0, 1⟩ ≠ (⟨0, 1⟩ : Fp4) ^ primeP ∧ frobeniusSq ⟨0, 1⟩ ≠
    frobenius (frobenius ⟨0, 1⟩) := by
  refine ⟨fun heq ↦ ?_, by decide⟩
  rw [pow_primeP] at heq
  have hre := congrArg (fun z : Fp4 ↦ z.im.re) heq
  refine alpha3_ne ?_
  simpa [frobenius, scale, Fp2.scale, Fp2.mulFp, Fp2.frobenius, alpha3_eq] using hre.symm

end Fp4

end GmStack.Sm9
