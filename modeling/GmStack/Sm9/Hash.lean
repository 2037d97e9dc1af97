import GmStack.Crypto.Sm9
import GmStack.Sm9.Z256

/-! `pairing/hash.rs`: H1 and H2 map two SM3 digests to a scalar. -/

namespace GmStack.Sm9

open Foundation Foundation.Limbs Crypto List

/-- The order of the groups as a number. -/
abbrev order : ℕ := Z256.n.toNat

lemma order_pos : 0 < order := prime_n.out.pos

def hashMu : List UInt64 := [0x55F73AEBDCD1312C, 0x67980E0BEB5759A6, 1]

def productColumns (z : List UInt64) : List ℕ := mulColumns z hashMu ++ List.replicate 4 0

def hashQuotient (z : List UInt64) : List UInt64 := ((carryPass (productColumns z) 0).drop 6).take 4

def multipleColumns (q : List UInt64) : List ℕ := mulColumns q Z256.n.limbs ++ List.replicate 1 0

def hashRemainder (z : List UInt64) : List UInt64 :=
  let qn := carryPass (multipleColumns (hashQuotient z)) 0
  let low := borrowPass (z.take 4) (qn.take 4) 0
  if (z.getD 4 0).toNat < (qn.getD 4 0).toNat + low.2 then (addLoop low.1 Z256.n.limbs 0).1
    else low.1

section Columns

variable {z : List UInt64}

lemma hashMu_reciprocal :
    value hashMu * order ≤ 2 ^ 384 ∧ 2 ^ 384 < value hashMu * order + order ∧
    value hashMu < 2 ^ 129 := by
  decide +kernel

lemma length_productColumns (hz : z.length = 5) : (productColumns z).length = 11 := by
  obtain ⟨z0, z1, z2, z3, z4, rfl⟩ := exists_five hz
  rfl

lemma carriesBelow_productColumns (hz : z.length = 5) : CarriesBelow (2 ^ 128)
    (productColumns z) 0 := by
  obtain ⟨z0, z1, z2, z3, z4, rfl⟩ := exists_five hz
  apply carriesBelow_of_forall_le _ (Nat.two_pow_pos 64)
  have hwords := And.intro z0.toNat_lt
    (And.intro z1.toNat_lt (And.intro z2.toNat_lt (And.intro z3.toNat_lt z4.toNat_lt)))
  simp [productColumns, hashMu, mulColumns, addColumns]
  omega

lemma hashQuotient_spec (hz : z.length = 5) :
    (hashQuotient z).length = 4 ∧ value (hashQuotient z) = value z * value hashMu / 2 ^ 384 ∧
      value (hashQuotient z) < 2 ^ 65 := by
  have hlen : (carryPass (productColumns z) 0).length = 11 :=
    (length_carryPass _ _).trans (length_productColumns hz)
  have hzlt := value_lt z
  rw [hz] at hzlt
  have hprod := Nat.mul_lt_mul'' hzlt hashMu_reciprocal.2.2
  have hval : value (carryPass (productColumns z) 0) = value z * value hashMu := by
    rw [value_carryPass, length_productColumns hz, add_zero, productColumns,
      columnsValue_append_replicate, columnsValue_mulColumns]
    refine Nat.mod_eq_of_lt (lt_of_lt_of_le hprod ?_)
    rw [← pow_add]
    gcongr <;> decide
  have hdrop := value_drop (carryPass (productColumns z) 0) (show 6 ≤ _ by rw [hlen]; decide)
  have hsmall : value z * value hashMu / 2 ^ 384 < 2 ^ 65 := by
    rw [Nat.div_lt_iff_lt_mul (Nat.two_pow_pos 384), ← pow_add]
    rwa [← pow_add] at hprod
  have hlengthDrop : ((carryPass (productColumns z) 0).drop 6).length = 5 := by
    rw [length_drop, hlen]
  have hsplit := value_take_add ((carryPass (productColumns z) 0).drop 6)
    (show 4 ≤ _ by rw [hlengthDrop]; decide)
  have hquot : value (hashQuotient z) = value z * value hashMu / 2 ^ 384 := by
    rw [hashQuotient]
    omega
  refine ⟨?_, hquot, hquot ▸ hsmall⟩
  rw [hashQuotient, length_take, hlengthDrop]
  rfl

lemma carriesBelow_multipleColumns {q : List UInt64} (hq : q.length = 4)
    (hsmall : value q < 2 ^ 65) :
    CarriesBelow (2 ^ 128) (multipleColumns q) 0 := by
  obtain ⟨q0, q1, q2, q3, rfl⟩ := length_eq_four.1 hq
  apply carriesBelow_of_forall_le _ (Nat.two_pow_pos 64)
  have hq0 := q0.toNat_lt
  simp only [value] at hsmall
  have hq2 : q2.toNat = 0 := by omega
  have hq3 : q3.toNat = 0 := by omega
  simp [multipleColumns, Z256.n, Z256.new, mulColumns, addColumns, hq2, hq3]
  omega

lemma hashQuotient_remainder (hz : z.length = 5) :
    value (hashQuotient z) * order ≤ value z ∧
    value z < value (hashQuotient z) * order + 2 ^ 256 := by
  obtain ⟨hle, hshare⟩ := barrett_quotient (value z) (Nat.two_pow_pos 384) hashMu_reciprocal.1
    hashMu_reciprocal.2.1
  rw [← (hashQuotient_spec hz).2.1] at hle hshare
  refine ⟨hle, ?_⟩
  by_contra hbig
  have hzlt := value_lt z
  rw [hz] at hzlt
  have hscaled := Nat.mul_le_mul_left (2 ^ 384) (not_lt.1 hbig)
  have herror : value z * order ≤ 2 ^ (64 * 5) * order := Nat.mul_le_mul_right _ hzlt.le
  have hroom : 2 ^ 384 * order + 2 ^ (64 * 5) * order < 2 ^ 384 * 2 ^ 256 := by decide
  omega

lemma value_multiple {q : List UInt64} (hq : q.length = 4) :
    (carryPass (multipleColumns q) 0).length = 8 ∧ value (carryPass (multipleColumns q) 0) =
    value q * order := by
  have hlen : (multipleColumns q).length = 8 := by
    obtain ⟨q0, q1, q2, q3, rfl⟩ := length_eq_four.1 hq
    rfl
  refine ⟨(length_carryPass _ _).trans hlen, ?_⟩
  have hqlt := value_lt q
  rw [hq] at hqlt
  rw [value_carryPass, hlen, add_zero, multipleColumns, columnsValue_append_replicate,
    columnsValue_mulColumns]
  refine Nat.mod_eq_of_lt (lt_of_lt_of_le (Nat.mul_lt_mul'' hqlt Z256.n.toNat_lt) ?_)
  rw [← pow_add]

lemma hashRemainder_spec (hz : z.length = 5) :
    (hashRemainder z).length = 4 ∧ value (hashQuotient z) * order + value (hashRemainder z) =
    value z := by
  obtain ⟨hlengthQ, -, -⟩ := hashQuotient_spec hz
  obtain ⟨hle, hlt⟩ := hashQuotient_remainder hz
  obtain ⟨hlen, hmultiple⟩ := value_multiple hlengthQ
  rw [hashRemainder]
  generalize carryPass (multipleColumns (hashQuotient z)) 0 = qn at *
  have hfirst : (z.take 4).length = 4 ∧ (qn.take 4).length = 4 := by simp [hz, hlen]
  obtain ⟨hlow, hflag, hdiff⟩ := borrowPass_spec (z.take 4)
    (qn.take 4) 0 (hfirst.1.trans hfirst.2.symm) (Nat.zero_le 1)
  have hzsplit := value_take_add z (show 4 ≤ z.length by omega)
  have hqsplit := value_take_add qn (show 4 ≤ qn.length by omega)
  have hztop : (z.getD 4 0).toNat = value (z.drop 4) % 2 ^ 64 := by
    rw [← toNat_headD, headD_eq_head?_getD, head?_drop, getD_eq_getElem?_getD]
  have hqtop : (qn.getD 4 0).toNat = value (qn.drop 4) % 2 ^ 64 := by
    rw [← toNat_headD, headD_eq_head?_getD, head?_drop, getD_eq_getElem?_getD]
  have hzlt := value_lt z
  have hlowlt := value_lt (borrowPass (z.take 4) (qn.take 4) 0).1
  rw [hlow, hfirst.1] at hlowlt
  rw [hz] at hzlt
  rw [hfirst.1] at hdiff hlow
  rw [if_neg (by omega)]
  exact ⟨hlow, by omega⟩

end Columns

def modnFromHash (ha : Octets 64) : Z256 :=
  let r := hashRemainder (wordsBe ha.bytes 5)
  let acc := ⟨subtractRounds Z256.n.limbs (value r) r,
    length_subtractRounds _ (hashRemainder_spec (length_wordsBe ha.bytes 5)).1⟩
  addMod acc .one .n

def hashInteger (ha : Octets 64) : ℕ := beNat (ha.bytes.take 40)

lemma value_hashWords (ha : Octets 64) : value (wordsBe ha.bytes 5) = hashInteger ha :=
  value_wordsBe 5 (by rw [ha.length_bytes]; decide)

lemma toNat_modnFromHash (ha : Octets 64) :
    (modnFromHash ha).toNat = (hashInteger ha + 1) % order := by
  obtain ⟨hlen, hrem⟩ := hashRemainder_spec (length_wordsBe ha.bytes 5)
  have hacc := value_subtractRounds hlen order_pos le_rfl
  rw [value_hashWords] at hrem
  have hmod : value (hashRemainder (wordsBe ha.bytes 5)) % order = hashInteger ha % order := by
    rw [← hrem, Nat.mul_add_mod_self_right]
  rw [modnFromHash, addMod_spec (by decide) _ (by decide)]
  · show (value _ + 1) % order = _
    rw [hacc]
    show (value _ % order + 1) % order = _
    rw [hmod, Nat.mod_add_mod]
  show value _ < order
  rw [hacc]
  exact Nat.mod_lt _ order_pos

/-- The 320-bit reduction is exact: no column overflows, and the result is `z + 1` modulo N. -/
theorem modnFromHash_exact (ha : Octets 64) :
    CarriesBelow (2 ^ 128) (productColumns (wordsBe ha.bytes 5)) 0 ∧
    CarriesBelow (2 ^ 128) (multipleColumns (hashQuotient (wordsBe ha.bytes 5))) 0 ∧
    (∀ word : UInt64, word.toNat + 2 ^ 64 < 2 ^ 127) ∧
    value (hashQuotient (wordsBe ha.bytes 5)) * order + value (hashRemainder (wordsBe ha.bytes 5)) =
    hashInteger ha ∧
    (modnFromHash ha).toNat ≡ hashInteger ha + 1 [MOD order] ∧ (modnFromHash ha).toNat < order := by
  have hwords := length_wordsBe ha.bytes 5
  obtain ⟨hlength, -, hsmall⟩ := hashQuotient_spec hwords
  refine ⟨carriesBelow_productColumns hwords, carriesBelow_multipleColumns hlength hsmall,
    ?_, ?_, ?_, ?_⟩
  · intro word
    have hword := word.toNat_lt
    omega
  · rw [(hashRemainder_spec hwords).2, value_hashWords]
  · rw [toNat_modnFromHash]
    exact Nat.mod_modEq _ _
  · rw [toNat_modnFromHash]
    exact Nat.mod_lt _ order_pos

/-- The scalar is in [1, N-1] unless the first 40 octets are one less than a multiple of N. -/
theorem modnFromHash_mem_range_iff (ha : Octets 64) :
    (1 ≤ (modnFromHash ha).toNat ∧ (modnFromHash ha).toNat ≤ order - 1) ↔
    ¬order ∣ hashInteger ha + 1 := by
  have hlt := Nat.mod_lt (hashInteger ha + 1) order_pos
  rw [toNat_modnFromHash, Nat.dvd_iff_mod_eq_zero]
  omega

/-- The 40 octets of N - 1 are mapped to zero. -/
theorem modnFromHash_eq_zero : modnFromHash ⟨beOctets 40 (order - 1) ++ List.replicate 24 0,
    by simp⟩ = .zero := by
  decide

end GmStack.Sm9
