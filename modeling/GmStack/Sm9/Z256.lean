import GmStack.Foundation.Limbs
import GmStack.Foundation.Primality

/-! `arith/z256.rs` and the modular helpers of `key/mod.rs`: four 64-bit words, least significant
first, with Barrett reduction for the two moduli of SM9. -/

namespace GmStack.Sm9

open Foundation Foundation.Limbs List

/-- A 256-bit unsigned integer: four words, least significant first. -/
structure Z256 where
  limbs : List UInt64
  length_limbs : limbs.length = 4
deriving DecidableEq

namespace Z256

def new (l0 l1 l2 l3 : UInt64) : Z256 := ⟨[l0, l1, l2, l3], rfl⟩

def toNat (a : Z256) : ℕ := value a.limbs

def zero : Z256 := new 0 0 0 0

def one : Z256 := new 1 0 0 0

def p : Z256 := new 0xE56F9B27E351457D 0x21F2934B1A7AEEDB 0xD603AB4FF58EC745 0xB640000002A3A6F1

def n : Z256 := new 0xE56EE19CD69ECF25 0x49F2934B18EA8BEE 0xD603AB4FF58EC744 0xB640000002A3A6F1

def muNLow : Z256 := new 0x74DF4FD4DFC97C2F 0x9C95D85EC9C073B0 0x55F73AEBDCD1312C 0x67980E0BEB5759A6

def muPLow : Z256 := new 0x71188F90D5C22146 0xF2665F6D1E36081C 0x55F73AEBDCD1312A 0x67980E0BEB5759A6

def isZero (a : Z256) : Bool := decide (a = zero)

lemma toNat_lt (a : Z256) : a.toNat < 2 ^ 256 := by
  have hlt := value_lt a.limbs
  rwa [a.length_limbs] at hlt

lemma toNat_inj {a b : Z256} : a.toNat = b.toNat ↔ a = b := by
  constructor
  · intro hnat
    cases a with | mk limbs hlimbs
    cases b with | mk others hothers
    congr
    exact value_inj (hlimbs.trans hothers.symm) hnat
  · rintro rfl
    rfl

lemma toNat_zero : zero.toNat = 0 := rfl

lemma isZero_iff (a : Z256) : a.isZero = true ↔ a.toNat = 0 := by
  rw [isZero, decide_eq_true_eq, ← toNat_inj, toNat_zero]

lemma toNat_new_zero (word : UInt64) : (new word 0 0 0).toNat = word.toNat := by
  simp [toNat, new, value]

end Z256

def addWithCarry (a b : Z256) : Z256 × UInt64 :=
  (⟨(addLoop a.limbs b.limbs 0).1, by
    rw [(addLoop_spec _ _ 0 (a.length_limbs.trans b.length_limbs.symm) (Nat.zero_le 1)).1,
      a.length_limbs]⟩, (addLoop a.limbs b.limbs 0).2)

def subWithBorrow (a b : Z256) : Z256 × UInt64 :=
  (⟨(subLoop a.limbs b.limbs 0).1, by
    rw [(subLoop_spec _ _ 0 (a.length_limbs.trans b.length_limbs.symm) (Nat.zero_le 1)).1,
      a.length_limbs]⟩, (subLoop a.limbs b.limbs 0).2)

def mulWide (a b : Z256) : Z256 × Z256 :=
  have hlength : (mulLoop b.limbs a.limbs [0, 0, 0, 0]).length = 8 := by
    rw [(mulLoop_spec b.limbs a.limbs [0, 0, 0, 0] b.length_limbs.symm).1, a.length_limbs,
      b.length_limbs]
  (⟨(mulLoop b.limbs a.limbs [0, 0, 0, 0]).take 4, by rw [length_take, hlength]; rfl⟩,
    ⟨(mulLoop b.limbs a.limbs [0, 0, 0, 0]).drop 4, by rw [length_drop, hlength]⟩)

def cmp (a b : Z256) : Ordering := cmpLoop a.limbs b.limbs

variable (a : Z256)

section

variable (b : Z256)

lemma addWithCarry_spec : (addWithCarry a b).2.toNat ≤ 1 ∧
    (addWithCarry a b).1.toNat + 2 ^ 256 * (addWithCarry a b).2.toNat = a.toNat + b.toNat := by
  have hspec := (addLoop_spec _ _ 0 (a.length_limbs.trans b.length_limbs.symm) (Nat.zero_le 1)).2
  rwa [a.length_limbs] at hspec

lemma subWithBorrow_spec : (subWithBorrow a b).2.toNat ≤ 1 ∧
    (subWithBorrow a b).1.toNat + b.toNat = a.toNat + 2 ^ 256 * (subWithBorrow a b).2.toNat := by
  have hspec := (subLoop_spec _ _ 0 (a.length_limbs.trans b.length_limbs.symm) (Nat.zero_le 1)).2
  rwa [a.length_limbs] at hspec

lemma mulWide_spec : (mulWide a b).1.toNat + 2 ^ 256 * (mulWide a b).2.toNat =
    a.toNat * b.toNat := by
  obtain ⟨hlen, hval⟩ := mulLoop_spec b.limbs a.limbs [0, 0, 0, 0] b.length_limbs.symm
  have hparts := value_append ((mulLoop b.limbs a.limbs [0, 0, 0, 0]).take 4)
    ((mulLoop b.limbs a.limbs [0, 0, 0, 0]).drop 4)
  rw [take_append_drop, length_take, hlen, a.length_limbs, b.length_limbs, hval] at hparts
  simpa [value, Z256.toNat, mulWide] using hparts.symm

lemma cmp_eq : cmp a b = compare a.toNat b.toNat :=
  cmpLoop_eq _ _ (a.length_limbs.trans b.length_limbs.symm)

lemma cmp_ne_lt_iff : cmp a b ≠ .lt ↔ b.toNat ≤ a.toNat := by
  rw [cmp_eq, Ne, Nat.compare_eq_lt, not_lt]

end

variable {b : Z256}

def wide (low high : Z256) : ℕ := low.toNat + 2 ^ 256 * high.toNat

/-- The moduli for which the crate knows a reciprocal. -/
inductive Modulus
  | n
  | p

def Modulus.m : Modulus → Z256
  | .n => .n
  | .p => .p

def Modulus.muLow : Modulus → Z256
  | .n => .muNLow
  | .p => .muPLow

variable (modulus : Modulus)

lemma Modulus.large : 2 ^ 255 < modulus.m.toNat := by
  cases modulus <;> decide

lemma Modulus.reciprocal : (2 ^ 256 + modulus.muLow.toNat) * modulus.m.toNat ≤ 2 ^ 256 * 2 ^ 256 ∧
      2 ^ 256 * 2 ^ 256 < (2 ^ 256 + modulus.muLow.toNat) * modulus.m.toNat + modulus.m.toNat := by
  cases modulus <;> decide

def barrettQuotient (low high muLow : Z256) : Z256 × UInt64 :=
  let hmu := mulWide high muLow
  let mid := addWithCarry hmu.1 low
  let lmu := mulWide low muLow
  let last := addWithCarry mid.1 lmu.2
  let q1 := addWithCarry high hmu.2
  let q2 := addWithCarry q1.1 (.new mid.2 0 0 0)
  let q3 := addWithCarry q2.1 (.new last.2 0 0 0)
  (q3.1, q1.2 + q2.2 + q3.2)

def quotientProduct (q : Z256 × UInt64) (m : Z256) : (Z256 × Z256) × UInt64 :=
  let qm := mulWide q.1 m
  if q.2 ≠ 0 then
    let sum := addWithCarry qm.2 m
    ((qm.1, sum.1), sum.2)
  else (qm, 0)

def barrettRemainder (low high : Z256) (qm : Z256 × Z256) (m : Z256) : Z256 × Z256 :=
  let rLo := subWithBorrow low qm.1
  let rHi1 := subWithBorrow high qm.2
  let rHi2 := subWithBorrow rHi1.1 (.new rLo.2 0 0 0)
  if rHi1.2 + rHi2.2 ≠ 0 then
    let sumLo := addWithCarry rLo.1 m
    (sumLo.1, (addWithCarry rHi2.1 (.new sumLo.2 0 0 0)).1)
  else (rLo.1, rHi2.1)

def finalReduction (r : Z256 × Z256) (m : Z256) : Z256 × Z256 :=
  if !r.2.isZero || cmp r.1 m != .lt then
    let diff := subWithBorrow r.1 m
    (diff.1, (subWithBorrow r.2 (.new diff.2 0 0 0)).1)
  else r

def barrettReduce (low high m muLow : Z256) : Z256 × Z256 :=
  finalReduction
    (barrettRemainder low high (quotientProduct (barrettQuotient low high muLow) m).1 m) m

lemma flag_eq_zero_iff (flag : UInt64) : flag = 0 ↔ flag.toNat = 0 := by
  rw [← UInt64.toNat_inj, UInt64.toNat_zero]

variable (low : Z256)

lemma barrettQuotient_spec (high muLow : Z256) :
    (barrettQuotient low high muLow).1.toNat + 2 ^ 256 * (barrettQuotient low high muLow).2.toNat =
      wide low high * (2 ^ 256 + muLow.toNat) / (2 ^ 256 * 2 ^ 256) := by
  have hhmu := mulWide_spec high muLow
  have hlmu := mulWide_spec low muLow
  simp only [barrettQuotient]
  generalize mulWide high muLow = hmu at *
  have hlmuLo := (mulWide low muLow).1.toNat_lt
  generalize mulWide low muLow = lmu at *
  obtain ⟨-, hmid⟩ := addWithCarry_spec hmu.1 low
  generalize addWithCarry hmu.1 low = mid at *
  obtain ⟨-, hlast⟩ := addWithCarry_spec mid.1 lmu.2
  have hrest := (addWithCarry mid.1 lmu.2).1.toNat_lt
  generalize addWithCarry mid.1 lmu.2 = last at *
  obtain ⟨hc1, hq1⟩ := addWithCarry_spec high hmu.2
  generalize addWithCarry high hmu.2 = q1 at *
  obtain ⟨hc2, hq2⟩ := addWithCarry_spec q1.1 (.new mid.2 0 0 0)
  generalize addWithCarry q1.1 (.new mid.2 0 0 0) = q2 at *
  obtain ⟨hc3, hq3⟩ := addWithCarry_spec q2.1 (.new last.2 0 0 0)
  generalize addWithCarry q2.1 (.new last.2 0 0 0) = q3 at *
  rw [Z256.toNat_new_zero] at hq2 hq3
  have hflags : (q1.2 + q2.2 + q3.2).toNat = q1.2.toNat + q2.2.toNat + q3.2.toNat := by
    simp only [UInt64.toNat_add]
    omega
  have hprod : wide low high * (2 ^ 256 + muLow.toNat) =
      2 ^ 256 * 2 ^ 256 * (high.toNat + hmu.2.toNat + mid.2.toNat + last.2.toNat) +
        (2 ^ 256 * last.1.toNat + lmu.1.toNat) := by
    have hsum : wide low high * (2 ^ 256 + muLow.toNat) =
      2 ^ 256 * low.toNat + low.toNat * muLow.toNat +
        2 ^ 256 * 2 ^ 256 * high.toNat + 2 ^ 256 * (high.toNat * muLow.toNat) := by
      rw [wide]
      ring
    omega
  omega

variable {m : Z256}

lemma quotientProduct_spec {q : Z256 × UInt64} (hflag : q.2.toNat ≤ 1)
    (hfits : (q.1.toNat + 2 ^ 256 * q.2.toNat) * m.toNat < 2 ^ 256 * 2 ^ 256) :
    (quotientProduct q m).2 = 0 ∧ wide (quotientProduct q m).1.1 (quotientProduct q m).1.2 =
      (q.1.toNat + 2 ^ 256 * q.2.toNat) * m.toNat := by
  have hqm := mulWide_spec q.1 m
  simp only [quotientProduct]
  by_cases hzero : q.2 = 0
  · rw [if_neg (not_not.2 hzero), hzero]
    exact ⟨rfl, by simpa [wide] using hqm⟩
  obtain ⟨-, hsum⟩ := addWithCarry_spec (mulWide q.1 m).2 m
  have hone : q.2.toNat = 1 := by
    have hne := mt (flag_eq_zero_iff q.2).2 hzero
    omega
  rw [hone, mul_one, add_mul, ← hqm] at hfits ⊢
  rw [if_pos hzero, flag_eq_zero_iff, wide]
  dsimp only
  omega

lemma barrettRemainder_spec {low high : Z256} {qm : Z256 × Z256}
    (hle : wide qm.1 qm.2 ≤ wide low high) :
    wide (barrettRemainder low high qm m).1 (barrettRemainder low high qm m).2 =
    wide low high - wide qm.1 qm.2 := by
  simp only [wide] at hle
  simp only [barrettRemainder]
  obtain ⟨hb1, hrLo⟩ := subWithBorrow_spec low qm.1
  generalize subWithBorrow low qm.1 = rLo at *
  obtain ⟨hb2, hrHi1⟩ := subWithBorrow_spec high qm.2
  generalize subWithBorrow high qm.2 = rHi1 at *
  obtain ⟨hb3, hrHi2⟩ := subWithBorrow_spec rHi1.1 (.new rLo.2 0 0 0)
  generalize subWithBorrow rHi1.1 (.new rLo.2 0 0 0) = rHi2 at *
  rw [Z256.toNat_new_zero] at hrHi2
  have hbounds := And.intro rLo.1.toNat_lt rHi2.1.toNat_lt
  rw [if_neg, wide, wide, wide]
  · dsimp only
    omega
  · rw [not_not, flag_eq_zero_iff, UInt64.toNat_add]
    omega

lemma finalReduction_spec {r : Z256 × Z256} (hlt : wide r.1 r.2 < 2 * m.toNat) :
    (finalReduction r m).2 = .zero ∧ (finalReduction r m).1.toNat = wide r.1 r.2 % m.toNat := by
  have hm := m.toNat_lt
  rw [wide] at hlt
  obtain ⟨hb, hdiff⟩ := subWithBorrow_spec r.1 m
  obtain ⟨-, hhigh⟩ := subWithBorrow_spec r.2 (.new (subWithBorrow r.1 m).2 0 0 0)
  rw [Z256.toNat_new_zero] at hhigh
  have hbounds := And.intro r.1.toNat_lt (And.intro (subWithBorrow r.1 m).1.toNat_lt
    (subWithBorrow r.2 (.new (subWithBorrow r.1 m).2 0 0 0)).1.toNat_lt)
  simp only [finalReduction, wide]
  split
  case isTrue hcond =>
    rw [Bool.or_eq_true, Bool.not_eq_true', ← Bool.not_eq_true, Z256.isZero_iff, bne_iff_ne,
      cmp_ne_lt_iff] at hcond
    rw [Nat.mod_eq_sub_mod (by omega), Nat.mod_eq_of_lt (by omega), ← Z256.toNat_inj,
      Z256.toNat_zero]
    dsimp only
    omega
  case isFalse hcond =>
    rw [Bool.or_eq_true, Bool.not_eq_true', ← Bool.not_eq_true, Z256.isZero_iff, bne_iff_ne,
      cmp_ne_lt_iff] at hcond
    rw [Nat.mod_eq_of_lt (by omega), ← Z256.toNat_inj, Z256.toNat_zero]
    omega

lemma barrettReduce_spec (high : Z256) (modulus : Modulus) :
    (quotientProduct (barrettQuotient low high modulus.muLow) modulus.m).2 = 0 ∧
      (barrettReduce low high modulus.m modulus.muLow).2 = .zero ∧
      (barrettReduce low high modulus.m modulus.muLow).1.toNat =
      wide low high % modulus.m.toNat := by
  have hx : wide low high < 2 ^ 256 * 2 ^ 256 := by
    have hbounds := And.intro low.toNat_lt high.toNat_lt
    rw [wide]
    omega
  obtain ⟨hle, hshare⟩ := barrett_quotient (wide low high)
    (by decide) modulus.reciprocal.1 modulus.reciprocal.2
  rw [← barrettQuotient_spec] at hle hshare
  generalize hq : barrettQuotient low high modulus.muLow = q at *
  have hlt : wide low high < (q.1.toNat + 2 ^ 256 * q.2.toNat) * modulus.m.toNat + 2 *
      modulus.m.toNat := by
    have hsmall := Nat.mul_lt_mul_of_pos_right hx (lt_trans (Nat.two_pow_pos 255) modulus.large)
    refine Nat.lt_of_mul_lt_mul_left ((hshare.trans_lt (Nat.add_lt_add_left hsmall _)).trans_eq ?_)
    rw [← mul_add, add_assoc, ← two_mul]
  have hflag : q.2.toNat ≤ 1 := by
    by_contra hbig
    have hhuge := Nat.mul_le_mul (show 2 * 2 ^ 256 ≤ q.1.toNat + 2 ^ 256 * q.2.toNat by omega)
      modulus.large.le
    omega
  obtain ⟨hassert, hprod⟩ := quotientProduct_spec hflag (hle.trans_lt hx)
  rw [← hprod] at hle hlt
  have hrem := barrettRemainder_spec (m := modulus.m) hle
  obtain ⟨hhigh, hres⟩ :=
    finalReduction_spec (r := barrettRemainder low high (quotientProduct q modulus.m).1 modulus.m)
    (m := modulus.m) (by rw [hrem]; omega)
  rw [barrettReduce, hq]
  refine ⟨hassert, hhigh, ?_⟩
  rw [hres, hrem, hprod, mul_comm, Nat.sub_mul_mod (by rwa [mul_comm, ← hprod])]

/-! ### Trial division -/

def quotientEstimate (rem : List UInt64) (m : Z256) : ℕ :=
  min ((2 ^ 64 * (rem.getD 4 0).toNat + (rem.getD 3 0).toNat) / (m.limbs.getD 3 0).toNat)
    (2 ^ 64 - 1)

def quotientRow (m : Z256) (q : ℕ) : List UInt64 :=
  carryPass ((m.limbs ++ [0]).map fun word : UInt64 ↦ q * word.toNat) 0

def lowerEstimate (m : Z256) (rem : List UInt64) : ℕ → List UInt64
  | 0 => rem
  | q + 1 =>
    if cmpLoop rem (quotientRow m (q + 1)) ≠ .lt then (subLoop rem (quotientRow m (q + 1)) 0).1
    else lowerEstimate m rem q

def schoolbookStep (m : Z256) (rem : List UInt64) (limb : UInt64) : Option (List UInt64) :=
  let rem := limb :: rem.take 4
  if cmpLoop rem (m.limbs ++ [0]) = .lt then some rem
  else if m.limbs.getD 3 0 = 0 then none
  else
    let rem := lowerEstimate m rem (quotientEstimate rem m)
    some (subtractRounds (m.limbs ++ [0]) (value rem) rem)

def modReduce512Schoolbook (low high m : Z256) : Option Z256 := do
  let rem ← (high.limbs.reverse ++ low.limbs.reverse).foldlM (schoolbookStep m) [0, 0, 0, 0, 0]
  return .new (rem.getD 0 0) (rem.getD 1 0) (rem.getD 2 0) (rem.getD 3 0)

section Schoolbook

variable {m : Z256} {rem : List UInt64}

lemma exists_five (hlen : rem.length = 5) : ∃ r0 r1 r2 r3 r4, rem = [r0, r1, r2, r3, r4] := by
  obtain ⟨r0, rest, rfl⟩ := exists_cons_of_length_eq_add_one hlen
  obtain ⟨r1, r2, r3, r4, rfl⟩ := length_eq_four.1 (Nat.succ.inj hlen)
  exact ⟨r0, r1, r2, r3, r4, rfl⟩

lemma length_modulus (m : Z256) : (m.limbs ++ [0]).length = 5 := by
  rw [length_append, m.length_limbs, length_singleton]

lemma value_modulus (m : Z256) : value (m.limbs ++ [0]) = m.toNat := by
  rw [value_append, show value [0] = 0 from rfl, mul_zero, add_zero, Z256.toNat]

lemma quotientRow_spec {q : ℕ} (hq : q < 2 ^ 64) : (quotientRow m q).length = 5 ∧
    value (quotientRow m q) = q * m.toNat := by
  have hlen : (quotientRow m q).length = 5 := by
    rw [quotientRow, length_carryPass, length_map, length_modulus]
  refine ⟨hlen, ?_⟩
  have hlt : q * m.toNat < 2 ^ 64 * 2 ^ 256 := Nat.mul_lt_mul'' hq m.toNat_lt
  rw [quotientRow, value_carryPass, columnsValue_row, value_modulus, length_map, length_modulus]
  exact Nat.mod_eq_of_lt (by omega)

section

variable (hlen : rem.length = 5)

include hlen

lemma lowerEstimate_spec (hm : 0 < m.toNat) {q : ℕ} (hq : q < 2 ^ 64)
    (hestimate : value rem / m.toNat ≤ q) :
    (lowerEstimate m rem q).length = 5 ∧ value (lowerEstimate m rem q) = value rem % m.toNat := by
  induction q with
  | zero =>
    exact ⟨hlen, (Nat.mod_eq_of_lt ((Nat.div_eq_zero_iff_lt hm).1 (Nat.le_zero.1 hestimate))).symm⟩
  | succ q ih =>
    obtain ⟨hrow, hval⟩ := quotientRow_spec (m := m) hq
    have hsame : rem.length = (quotientRow m (q + 1)).length := hlen.trans hrow.symm
    rw [lowerEstimate]
    by_cases hle : (q + 1) * m.toNat ≤ value rem
    · have hquot : value rem / m.toNat = q + 1 :=
        le_antisymm hestimate ((Nat.le_div_iff_mul_le hm).2 hle)
      rw [if_pos ((cmpLoop_ne_lt_iff hsame).2 (by rwa [hval]))]
      refine ⟨(subLoop_spec _ _ 0 hsame (Nat.zero_le 1)).1.trans hlen, ?_⟩
      rw [(subLoop_of_le hsame (by rwa [hval])).1, hval, ← hquot, Nat.mod_eq_sub_div_mul]
    · rw [if_neg (mt (cmpLoop_ne_lt_iff hsame).1 (by rwa [hval]))]
      exact ih (by omega) (Nat.le_of_lt_succ ((Nat.div_lt_iff_lt_mul hm).2 (not_le.1 hle)))

lemma shifted_spec (hrem : value rem < m.toNat) (limb : UInt64) :
    (limb :: rem.take 4).length = 5 ∧ value (limb :: rem.take 4) =
    limb.toNat + 2 ^ 64 * value rem := by
  obtain ⟨r0, r1, r2, r3, r4, rfl⟩ := exists_five hlen
  have hm := m.toNat_lt
  refine ⟨rfl, ?_⟩
  simp only [value, take_succ_cons, take_zero] at hrem ⊢
  omega

lemma le_quotientEstimate (hrem : value rem < 2 ^ 64 * m.toNat)
    (htop : m.limbs.getD 3 0 ≠ 0) : value rem / m.toNat ≤ quotientEstimate rem m := by
  obtain ⟨r0, r1, r2, r3, r4, rfl⟩ := exists_five hlen
  obtain ⟨m0, m1, m2, m3, hlimbs⟩ := length_eq_four.1 m.length_limbs
  have hm : 2 ^ 192 * m3.toNat ≤ m.toNat := by
    rw [Z256.toNat, hlimbs]
    simp only [value]
    omega
  have hpos : 0 < m3.toNat := by
    rw [hlimbs] at htop
    exact Nat.pos_of_ne_zero (mt (flag_eq_zero_iff m3).2 htop)
  refine le_min ?_ (Nat.le_sub_one_of_lt ((Nat.div_lt_iff_lt_mul (by omega)).2 hrem))
  rw [hlimbs]
  refine (Nat.div_le_div_left hm (by omega)).trans ?_
  rw [← Nat.div_div_eq_div_mul]
  refine Nat.div_le_div_right ?_
  have hbounds := And.intro r0.toNat_lt (And.intro r1.toNat_lt r2.toNat_lt)
  simp only [value, getD_cons_succ, getD_cons_zero]
  omega

end

lemma schoolbookStep_spec (hlength : rem.length = 5) (hrem : value rem < m.toNat)
    (htop : m.limbs.getD 3 0 ≠ 0) (limb : UInt64) :
    ∃ next, schoolbookStep m rem limb = some next ∧ next.length = 5 ∧
      value next = (limb.toNat + 2 ^ 64 * value rem) % m.toNat := by
  obtain ⟨hlength', hval⟩ := shifted_spec hlength hrem limb
  have hsame : (limb :: rem.take 4).length = (m.limbs ++ [0]).length :=
    hlength'.trans (length_modulus m).symm
  have hlimb := limb.toNat_lt
  rw [schoolbookStep]
  by_cases hle : m.toNat ≤ value (limb :: rem.take 4)
  · have hlt : value (limb :: rem.take 4) < 2 ^ 64 * m.toNat := by omega
    have hword : quotientEstimate (limb :: rem.take 4) m < 2 ^ 64 :=
      (min_le_right _ _).trans_lt (by decide)
    obtain ⟨hlen, hrest⟩ := lowerEstimate_spec hlength' (by omega) hword
      (le_quotientEstimate hlength' hlt htop)
    rw [if_neg (by rwa [← Ne, cmpLoop_ne_lt_iff hsame, value_modulus]), if_neg htop]
    refine ⟨_, rfl, (length_subtractRounds _ (hlen.trans (length_modulus m).symm)).trans
      (length_modulus m), ?_⟩
    rw [value_subtractRounds (hlen.trans (length_modulus m).symm) (by rw [value_modulus]; omega)
      le_rfl, value_modulus,
      hrest, Nat.mod_mod, hval]
  · rw [if_pos (by rwa [cmpLoop_eq _ _ hsame, Nat.compare_eq_lt, value_modulus, ← not_le])]
    exact ⟨_, rfl, hlength', by rw [← hval, Nat.mod_eq_of_lt (not_le.1 hle)]⟩

lemma schoolbookStep_of_top_eq_zero (hlen : rem.length = 5) (hrem : value rem < m.toNat)
    (htop : m.limbs.getD 3 0 = 0) {limb : UInt64} {next : List UInt64}
    (hstep : schoolbookStep m rem limb = some next) :
    next.length = 5 ∧ value next = limb.toNat + 2 ^ 64 * value rem ∧ value next < m.toNat := by
  obtain ⟨hlength', hval⟩ := shifted_spec hlen hrem limb
  have hsame : (limb :: rem.take 4).length = (m.limbs ++ [0]).length :=
    hlength'.trans (length_modulus m).symm
  rw [schoolbookStep] at hstep
  split at hstep
  case isTrue hlt =>
    obtain rfl := Option.some.inj hstep
    rw [cmpLoop_eq _ _ hsame, Nat.compare_eq_lt, value_modulus] at hlt
    exact ⟨hlength', hval, hlt⟩
  case isFalse => cases hstep

lemma foldlM_schoolbookStep (htop : m.limbs.getD 3 0 ≠ 0) (limbs : List UInt64)
    (hlength : rem.length = 5)
    (hrem : value rem < m.toNat) :
    ∃ last, limbs.foldlM (schoolbookStep m) rem = some last ∧ last.length = 5 ∧
      value last = (value limbs.reverse + 2 ^ (64 * limbs.length) * value rem) % m.toNat := by
  induction limbs generalizing rem with
  | nil => exact ⟨rem, rfl, hlength, by simpa [value] using (Nat.mod_eq_of_lt hrem).symm⟩
  | cons limb limbs ih =>
    obtain ⟨next, hstep, hlen, hval⟩ := schoolbookStep_spec hlength hrem htop limb
    obtain ⟨last, hlast, hlen', hrest⟩ := ih hlen (hval ▸ Nat.mod_lt _ (by omega))
    refine ⟨last, by rw [foldlM_cons, hstep]; exact hlast, hlen', ?_⟩
    rw [hrest, hval, Nat.add_mod, Nat.mul_mod, Nat.mod_mod, ← Nat.mul_mod,
      ← Nat.add_mod, reverse_cons,
      value_append, length_reverse, length_cons, two_pow_succ, value, value]
    ring_nf

lemma foldlM_schoolbookStep_of_top_eq_zero (htop : m.limbs.getD 3 0 = 0) {limbs last : List UInt64}
    (hlength : rem.length = 5) (hrem : value rem < m.toNat)
    (hfold : limbs.foldlM (schoolbookStep m) rem = some last) :
    value limbs.reverse + 2 ^ (64 * limbs.length) * value rem < m.toNat := by
  induction limbs generalizing rem with
  | nil => simpa [value] using hrem
  | cons limb limbs ih =>
    obtain ⟨next, hstep, hrest⟩ := Option.bind_eq_some_iff.1 hfold
    obtain ⟨hlen, hval, hlt⟩ := schoolbookStep_of_top_eq_zero hlength hrem htop hstep
    have hsum := ih hlen hlt hrest
    rw [hval] at hsum
    rw [reverse_cons, value_append, length_reverse, length_cons, two_pow_succ, value, value]
    refine lt_of_eq_of_lt ?_ hsum
    ring

end Schoolbook

lemma value_limbs (high : Z256) : value (high.limbs.reverse ++ low.limbs.reverse).reverse =
    wide low high := by
  rw [reverse_append, reverse_reverse, reverse_reverse, value_append, low.length_limbs]
  rfl

lemma modReduce512Schoolbook_spec (high : Z256) (hm : 2 ^ 192 ≤ m.toNat) :
    ∃ r, modReduce512Schoolbook low high m = some r ∧ r.toNat = wide low high % m.toNat := by
  obtain ⟨m0, m1, m2, m3, hlimbs⟩ := length_eq_four.1 m.length_limbs
  have htop : m.limbs.getD 3 0 ≠ 0 := by
    intro hzero
    rw [hlimbs] at hzero
    have hbounds := And.intro m0.toNat_lt (And.intro m1.toNat_lt m2.toNat_lt)
    rw [Z256.toNat, hlimbs, show m3 = 0 from hzero] at hm
    simp only [value, UInt64.toNat_zero] at hm
    omega
  obtain ⟨last, hlast, hlen, hval⟩ := foldlM_schoolbookStep htop
    (high.limbs.reverse ++ low.limbs.reverse) (show [0, 0, 0, 0, 0].length = 5 from rfl)
    (lt_of_lt_of_le (by decide) hm)
  rw [value_limbs, show value [0, 0, 0, 0, 0] = 0 from rfl, mul_zero, add_zero] at hval
  refine ⟨_, Option.bind_eq_some_iff.2 ⟨last, hlast, rfl⟩, ?_⟩
  have hlt := (Nat.mod_lt (wide low high) (show 0 < m.toNat by omega)).trans m.toNat_lt
  rw [← hval] at hlt ⊢
  obtain ⟨r0, r1, r2, r3, r4, rfl⟩ := exists_five hlen
  simp only [Z256.toNat, Z256.new, value, getD_cons_succ, getD_cons_zero] at hlt ⊢
  omega

lemma modReduce512Schoolbook_eq_none {low high : Z256} (hm : m.toNat < 2 ^ 192) (hpos : 0 < m.toNat)
    (hle : m.toNat ≤ wide low high) : modReduce512Schoolbook low high m = none := by
  obtain ⟨m0, m1, m2, m3, hlimbs⟩ := length_eq_four.1 m.length_limbs
  have htop : m.limbs.getD 3 0 = 0 := by
    rw [hlimbs, getD_cons_succ, getD_cons_succ, getD_cons_succ, getD_cons_zero, flag_eq_zero_iff]
    rw [Z256.toNat, hlimbs] at hm
    simp only [value] at hm
    omega
  by_contra hsome
  obtain ⟨r, hr⟩ := Option.ne_none_iff_exists'.1 hsome
  obtain ⟨last, hlast, -⟩ := Option.bind_eq_some_iff.1 hr
  have hlt := foldlM_schoolbookStep_of_top_eq_zero htop rfl (show value [0, 0, 0, 0, 0] <
    m.toNat from hpos) hlast
  rw [value_limbs] at hlt
  exact absurd hle (not_le.2 (lt_of_le_of_lt (Nat.le_add_right _ _) hlt))

def modReduce512 (low high m : Z256) : Option Z256 :=
  if m = .n then some (barrettReduce low high m .muNLow).1
  else if m = .p then some (barrettReduce low high m .muPLow).1
  else modReduce512Schoolbook low high m

def modmul (a b m : Z256) : Option Z256 :=
  let product := mulWide a b
  if product.2.isZero then
    some ⟨subtractRounds m.limbs product.1.toNat product.1.limbs, by
      rw [length_subtractRounds _ (product.1.length_limbs.trans m.length_limbs.symm),
        m.length_limbs]⟩
  else modReduce512 product.1 product.2 m

lemma modReduce512_modulus (high : Z256) (modulus : Modulus) :
    modReduce512 low high modulus.m = some (barrettReduce low high modulus.m modulus.muLow).1 := by
  cases modulus with
  | n => exact if_pos rfl
  | p => exact (if_neg (by decide)).trans (if_pos rfl)

/-- Barrett reduction is exact for both known moduli, and trial division finds the same. -/
theorem modReduce512_exact (low high : Z256) (modulus : Modulus) :
    ∃ r, modReduce512 low high modulus.m = some r ∧ r.toNat = wide low high % modulus.m.toNat ∧
      (quotientProduct (barrettQuotient low high modulus.muLow) modulus.m).2 = 0 ∧
      (barrettReduce low high modulus.m modulus.muLow).2 = .zero ∧
      modReduce512Schoolbook low high modulus.m = some r := by
  obtain ⟨hassert, hhigh, hvalue⟩ := barrettReduce_spec low high modulus
  obtain ⟨r, hr, hvalue'⟩ := modReduce512Schoolbook_spec low high
    (show 2 ^ 192 ≤ modulus.m.toNat from
    le_trans (by decide) modulus.large.le)
  refine ⟨r, ?_, hvalue', hassert, hhigh, hr⟩
  rw [modReduce512_modulus, Z256.toNat_inj.1 (hvalue.trans hvalue'.symm)]

lemma modReduce512_spec (high : Z256) (hm : 2 ^ 192 ≤ m.toNat) :
    ∃ r, modReduce512 low high m = some r ∧ r.toNat = wide low high % m.toNat := by
  by_cases hn : m = .n
  · subst hn
    exact ⟨_, modReduce512_modulus low high .n, (barrettReduce_spec low high .n).2.2⟩
  by_cases hp : m = .p
  · subst hp
    exact ⟨_, modReduce512_modulus low high .p, (barrettReduce_spec low high .p).2.2⟩
  rw [modReduce512, if_neg hn, if_neg hp]
  exact modReduce512Schoolbook_spec low high hm

lemma modmul_of_lt {a : Z256} (hm : m.toNat ≠ 0) (hlt : a.toNat * b.toNat < 2 ^ 256) :
    ∃ r, modmul a b m = some r ∧ r.toNat = a.toNat * b.toNat % m.toNat := by
  have hprod := mulWide_spec a b
  have hzero : (mulWide a b).2.toNat = 0 := by omega
  rw [hzero, mul_zero, add_zero] at hprod
  rw [modmul, if_pos ((Z256.isZero_iff _).2 hzero), ← hprod]
  exact ⟨_, rfl, value_subtractRounds ((mulWide a b).1.length_limbs.trans m.length_limbs.symm)
    (Nat.pos_of_ne_zero hm) le_rfl⟩

lemma modmul_of_le {a : Z256} (m : Z256) (hle : 2 ^ 256 ≤ a.toNat * b.toNat) :
    modmul a b m = modReduce512 (mulWide a b).1 (mulWide a b).2 m := by
  have hprod := mulWide_spec a b
  have hlow := (mulWide a b).1.toNat_lt
  rw [modmul, if_neg (by rw [Z256.isZero_iff]; omega)]

lemma modmul_spec (b : Z256) (hm : 2 ^ 192 ≤ m.toNat) :
    ∃ r, modmul a b m = some r ∧ r.toNat = a.toNat * b.toNat % m.toNat := by
  by_cases hlt : a.toNat * b.toNat < 2 ^ 256
  · exact modmul_of_lt (by omega) hlt
  · rw [modmul_of_le m (not_lt.1 hlt), ← mulWide_spec a b]
    exact modReduce512_spec _ _ hm

/-- Multiplication is exact for a product of one half or a modulus of four words; for any other it
divides by zero. -/
theorem modmul_exact_iff (a b : Z256) {m : Z256} (hm : m.toNat ≠ 0) :
    (∃ r, modmul a b m = some r ∧ r.toNat = a.toNat * b.toNat % m.toNat) ↔
      a.toNat * b.toNat < 2 ^ 256 ∨ 2 ^ 192 ≤ m.toNat := by
  constructor
  · rintro ⟨r, hr, -⟩
    by_contra hnot
    rw [not_or, not_lt, not_le] at hnot
    have hother : ∀ modulus : Modulus, m ≠ modulus.m := by
      rintro modulus rfl
      exact absurd hnot.2 (not_lt.2 (le_trans (by decide) modulus.large.le))
    have hwide : wide (mulWide a b).1 (mulWide a b).2 = a.toNat * b.toNat := mulWide_spec a b
    rw [modmul_of_le m hnot.1, modReduce512, if_neg (show m ≠ .n from hother .n),
      if_neg (show m ≠ .p from hother .p),
      modReduce512Schoolbook_eq_none hnot.2 (Nat.pos_of_ne_zero hm) (by omega)] at hr
    cases hr
  rintro (hlt | hle)
  · exact modmul_of_lt hm hlt
  · exact modmul_spec a b hle

/-- Ten modulo three. -/
theorem modmul_three : ∃ r, modmul (.new 2 0 0 0) (.new 5 0 0 0) (.new 3 0 0 0) = some r ∧
    r.toNat = 1 :=
  (modmul_exact_iff (.new 2 0 0 0) (.new 5 0 0 0) (by decide)).2 (.inl (by decide))

/-- `2^256` modulo three. -/
theorem modmul_divides_by_zero : modmul (.new 0 0 1 0) (.new 0 0 1 0) (.new 3 0 0 0) = none := by
  decide

def addMod (a b m : Z256) : Z256 :=
  let sum := addWithCarry a b
  if sum.2 ≠ 0 ∨ cmp sum.1 m ≠ .lt then (subWithBorrow sum.1 m).1 else sum.1

lemma addMod_spec {a : Z256} (hm : 2 ^ 255 < m.toNat) (ha : a.toNat < m.toNat)
    (hb : b.toNat < m.toNat) : (addMod a b m).toNat = (a.toNat + b.toNat) % m.toNat := by
  obtain ⟨hflag, hsum⟩ := addWithCarry_spec a b
  obtain ⟨-, hdiff⟩ := subWithBorrow_spec (addWithCarry a b).1 m
  have hbounds := And.intro (addWithCarry a b).1.toNat_lt
    (subWithBorrow (addWithCarry a b).1 m).1.toNat_lt
  have hm' := m.toNat_lt
  have hne : (addWithCarry a b).2 ≠ 0 ↔ (addWithCarry a b).2.toNat = 1 := by
    rw [Ne, ← UInt64.toNat_inj, UInt64.toNat_zero]
    omega
  simp only [addMod, hne, cmp_ne_lt_iff]
  split
  case isTrue hover =>
    rw [Nat.mod_eq_sub_mod (by omega), Nat.mod_eq_of_lt (by omega)]
    omega
  case isFalse hover =>
    rw [Nat.mod_eq_of_lt (by omega)]
    omega

def primeChain : List (ℕ × List ℕ) :=
  [(231901, [773]), (82067, [1109]), (26643987113801, [231901, 82067]),
    (53287974227603, [26643987113801]), (639455690731237, [53287974227603]),
    (63945569073123701, [639455690731237]), (94401434677189000286356532089, [63945569073123701]),
    (47111, [673]), (376889, [47111]), (163569827, [376889]), (2289977579, [163569827]),
    (11101811302993, [2289977579]), (389917816583720147, [11101811302993]),
    (Z256.p.toNat, [94401434677189000286356532089, 389917816583720147]),
    (1271129, [5479]), (27725865749, [1271129]), (267554604477851, [27725865749]),
    (3080243406351642671208773, [267554604477851]), (1434514811, [17539, 8179]),
    (17214177733, [1434514811]), (1548931712415341, [17214177733]),
    (1986114220967214475817859646585100848354345103812102768231,
      [3080243406351642671208773, 1548931712415341]),
    (Z256.n.toNat, [1986114220967214475817859646585100848354345103812102768231])]

lemma prime_of_mem_primeChain : ∀ step ∈ primeChain, step.1.Prime :=
  prime_of_checkChain (show ∀ q ∈ [773, 1109, 673, 5479, 17539, 8179], q.Prime by
    simp only [forall_mem_cons]; norm_num) (by decide +kernel)

instance prime_n : Fact (Nat.Prime Z256.n.toNat) :=
  ⟨prime_of_mem_primeChain (Z256.n.toNat, _) (mem_of_getElem? (i := 22) rfl)⟩

end GmStack.Sm9
