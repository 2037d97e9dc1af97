import Mathlib.Tactic

/-! `Cube R v` is `R[w]/(w³ - v)` on the basis `1, w, w²`. -/

namespace GmStack.Foundation

/-- `c0 + c1 * w + c2 * w²` over a ring, with `w³ = v`. -/
@[ext] structure Cube (R : Type) (v : R) where
  c0 : R
  c1 : R
  c2 : R
deriving DecidableEq

namespace Cube

variable {R : Type} [CommRing R] {v : R}

instance : Zero (Cube R v) := ⟨⟨0, 0, 0⟩⟩

instance : One (Cube R v) := ⟨⟨1, 0, 0⟩⟩

instance : Add (Cube R v) := ⟨fun a b ↦ ⟨a.c0 + b.c0, a.c1 + b.c1, a.c2 + b.c2⟩⟩

instance : Sub (Cube R v) := ⟨fun a b ↦ ⟨a.c0 - b.c0, a.c1 - b.c1, a.c2 - b.c2⟩⟩

instance : Neg (Cube R v) := ⟨fun a ↦ ⟨-a.c0, -a.c1, -a.c2⟩⟩

instance : Mul (Cube R v) :=
  ⟨fun a b ↦ ⟨a.c0 * b.c0 + v * (a.c1 * b.c2 + a.c2 * b.c1),
    a.c0 * b.c1 + a.c1 * b.c0 + v * (a.c2 * b.c2), a.c0 * b.c2 + a.c1 * b.c1 + a.c2 * b.c0⟩⟩

lemma zero_def : (0 : Cube R v) = ⟨0, 0, 0⟩ := rfl

lemma one_def : (1 : Cube R v) = ⟨1, 0, 0⟩ := rfl

variable (a : Cube R v)

lemma add_def (b : Cube R v) : a + b = ⟨a.c0 + b.c0, a.c1 + b.c1, a.c2 + b.c2⟩ := rfl

lemma sub_def (b : Cube R v) : a - b = ⟨a.c0 - b.c0, a.c1 - b.c1, a.c2 - b.c2⟩ := rfl

lemma neg_def : -a = ⟨-a.c0, -a.c1, -a.c2⟩ := rfl

lemma mul_def (b : Cube R v) : a * b = ⟨a.c0 * b.c0 + v * (a.c1 * b.c2 + a.c2 * b.c1),
    a.c0 * b.c1 + a.c1 * b.c0 + v * (a.c2 * b.c2), a.c0 * b.c2 + a.c1 * b.c1 + a.c2 * b.c0⟩ := rfl

instance : CommRing (Cube R v) where
  add_assoc a b c := by simp only [add_def, add_assoc]
  zero_add a := by simp only [add_def, zero_def, zero_add]
  add_zero a := by simp only [add_def, zero_def, add_zero]
  add_comm a b := by simp only [add_def, add_comm]
  neg_add_cancel a := by simp only [add_def, neg_def, neg_add_cancel, zero_def]
  sub_eq_add_neg a b := by simp only [add_def, neg_def, sub_def, sub_eq_add_neg]
  nsmul := nsmulRec
  zsmul := zsmulRec
  mul_assoc a b c := by
    simp only [mul_def, mk.injEq]
    refine ⟨?_, ?_, ?_⟩ <;> ring
  mul_comm a b := by
    simp only [mul_def, mk.injEq]
    refine ⟨?_, ?_, ?_⟩ <;> ring
  left_distrib a b c := by
    simp only [mul_def, add_def, mk.injEq]
    refine ⟨?_, ?_, ?_⟩ <;> ring
  right_distrib a b c := by
    simp only [mul_def, add_def, mk.injEq]
    refine ⟨?_, ?_, ?_⟩ <;> ring
  one_mul a := by ext <;> simp [mul_def, one_def]
  mul_one a := by ext <;> simp [mul_def, one_def]
  zero_mul a := by ext <;> simp [mul_def, zero_def]
  mul_zero a := by ext <;> simp [mul_def, zero_def]

def w : Cube R v := ⟨0, 1, 0⟩

lemma w_pow_three : (w : Cube R v) ^ 3 = ⟨v, 0, 0⟩ := by
  rw [pow_three]
  ext <;> simp [w, mul_def]

def of : R →+* Cube R v where
  toFun r := ⟨r, 0, 0⟩
  map_zero' := rfl
  map_one' := rfl
  map_add' a b := by simp [add_def]
  map_mul' a b := by simp [mul_def]

lemma of_injective : Function.Injective (of : R →+* Cube R v) :=
  fun _ _ hsame ↦ congrArg c0 hsame

lemma pow_char (p : ℕ) [Fact p.Prime] [CharP R p] {c : R} (hw : (w : Cube R v) ^ p = ⟨0, c, 0⟩) :
    a ^ p = ⟨a.c0 ^ p, a.c1 ^ p * c, a.c2 ^ p * c ^ 2⟩ := by
  have : CharP (Cube R v) p := charP_of_injective_ringHom of_injective p
  have hsplit : a = of a.c0 + of a.c1 * w + of a.c2 * w ^ 2 := by
    ext <;> simp [of, w, sq, add_def, mul_def]
  conv_lhs => rw [hsplit]
  rw [add_pow_char, add_pow_char, mul_pow, mul_pow, ← map_pow, ← map_pow, ← map_pow,
    pow_right_comm, hw]
  ext <;> simp [of, sq, add_def, mul_def]

@[irreducible] def norm (a : Cube R v) : R :=
  a.c0 ^ 3 + v * a.c1 ^ 3 + v ^ 2 * a.c2 ^ 3 - 3 * v * (a.c0 * a.c1 * a.c2)

def adjugate (a : Cube R v) : Cube R v :=
  ⟨a.c0 ^ 2 - v * (a.c1 * a.c2), v * a.c2 ^ 2 - a.c0 * a.c1, a.c1 ^ 2 - a.c0 * a.c2⟩

lemma mul_adjugate : a * a.adjugate = ⟨a.norm, 0, 0⟩ := by
  simp only [mul_def, adjugate, norm, mk.injEq]
  refine ⟨?_, ?_, ?_⟩ <;> ring

section Field

variable {K : Type} [Field K] {v : K}

/-- `v` has no cube root. -/
def NotCube (v : K) : Prop := ∀ r : K, r ^ 3 ≠ v

lemma eq_zero_of_cube_eq (hv : NotCube v) {s t : K} (hcube : s ^ 3 = v * t ^ 3) :
    s = 0 ∧ t = 0 := by
  have ht : t = 0 := by
    by_contra hne
    refine hv (s / t) ?_
    rw [div_pow, hcube, mul_div_assoc, div_self (pow_ne_zero 3 hne), mul_one]
  rw [ht, zero_pow three_ne_zero, mul_zero] at hcube
  exact ⟨pow_eq_zero_iff three_ne_zero |>.1 hcube, ht⟩

lemma norm_eq_zero_iff (hv : NotCube v) {a : Cube K v} : a.norm = 0 ↔ a = 0 := by
  constructor
  · intro hnorm
    obtain ⟨hc1, hc2⟩ := eq_zero_of_cube_eq hv (show (v * a.c2 ^ 2 - a.c0 * a.c1) ^ 3 =
      v * (a.c1 ^ 2 - a.c0 * a.c2) ^ 3 by
        rw [norm] at hnorm
        linear_combination (v * a.c2 ^ 3 - a.c1 ^ 3) * hnorm)
    obtain ⟨hone, htwo⟩ := eq_zero_of_cube_eq hv (show a.c1 ^ 3 = v * a.c2 ^ 3 by
      linear_combination a.c1 * hc2 - a.c2 * hc1)
    rw [norm, hone, htwo] at hnorm
    have hzero : a.c0 ^ 3 = 0 := by linear_combination hnorm
    ext
    · exact pow_eq_zero_iff three_ne_zero |>.1 hzero
    · exact hone
    · exact htwo
  · rintro rfl
    simp [norm, zero_def]

noncomputable instance [hv : Fact (NotCube v)] : Field (Cube K v) where
  inv a := ⟨a.adjugate.c0 * a.norm⁻¹, a.adjugate.c1 * a.norm⁻¹, a.adjugate.c2 * a.norm⁻¹⟩
  exists_pair_ne := ⟨0, 1, fun hzero ↦ zero_ne_one (congrArg Cube.c0 hzero)⟩
  mul_inv_cancel a ha := by
    have hne : a.norm ≠ 0 := mt (norm_eq_zero_iff hv.out).1 ha
    have hadjugate := mul_adjugate a
    rw [mul_def, mk.injEq] at hadjugate
    obtain ⟨h0, h1, h2⟩ := hadjugate
    rw [mul_def, one_def, mk.injEq]
    refine ⟨?_, ?_, ?_⟩
    · field_simp
      linear_combination h0
    · field_simp
      linear_combination h1
    · field_simp
      linear_combination h2
  inv_zero := by simp [norm, zero_def]
  nnqsmul := _
  nnqsmul_def _ _ := rfl
  qsmul := _
  qsmul_def _ _ := rfl

lemma inv_def [Fact (NotCube v)] (a : Cube K v) :
    a⁻¹ = ⟨a.adjugate.c0 * a.norm⁻¹, a.adjugate.c1 * a.norm⁻¹, a.adjugate.c2 * a.norm⁻¹⟩ := rfl

end Field

end Cube

end GmStack.Foundation
