import Mathlib.Data.Nat.Digits.Lemmas

/-! Byte strings are lists of octets. -/

namespace GmStack.Foundation

open List

/-- A byte string. -/
abbrev Bytes := List UInt8

lemma drop_take_append {α : Type} (front middle back : List α) :
    ((front ++ middle ++ back).take (front.length + middle.length)).drop front.length = middle := by
  rw [← length_append, take_left, drop_left]

def beNat (octets : Bytes) : ℕ :=
  octets.foldl (fun acc octet ↦ acc * 256 + octet.toNat) 0

def beOctets : ℕ → ℕ → Bytes
  | 0, _ => []
  | width + 1, n => UInt8.ofNat (n / 256 ^ width) :: beOctets width n

@[simp] lemma beOctets_zero (n : ℕ) : beOctets 0 n = [] := rfl

variable (width : ℕ)

@[simp] lemma length_beOctets (n : ℕ) : (beOctets width n).length = width := by
  induction width with
  | zero => rfl
  | succ width ih => simp [beOctets, ih]

@[simp] lemma beNat_nil : beNat [] = 0 := rfl

variable (octets : Bytes)

private lemma foldl_beNat (acc : ℕ) : octets.foldl (fun acc octet ↦ acc * 256 + octet.toNat) acc =
      acc * 256 ^ octets.length + beNat octets := by
  induction octets generalizing acc with
  | nil => simp
  | cons octet rest ih =>
    have hhead : beNat (octet :: rest) = octet.toNat * 256 ^ rest.length + beNat rest := by
      rw [beNat, foldl_cons, ih, zero_mul, zero_add]
    rw [foldl_cons, ih, hhead, length_cons]
    ring

lemma beNat_cons (octet : UInt8) (rest : Bytes) :
    beNat (octet :: rest) = octet.toNat * 256 ^ rest.length + beNat rest := by
  rw [beNat, foldl_cons, foldl_beNat, zero_mul, zero_add]

lemma beNat_singleton (octet : UInt8) : beNat [octet] = octet.toNat := by
  simp [beNat_cons]

lemma beNat_append (first second : Bytes) :
    beNat (first ++ second) = beNat first * 256 ^ second.length + beNat second := by
  rw [beNat, foldl_append, foldl_beNat]
  rfl

lemma beNat_lt : beNat octets < 256 ^ octets.length := by
  induction octets with
  | nil => simp
  | cons octet rest ih =>
    have hoctet : octet.toNat + 1 ≤ 256 := octet.toNat_lt
    rw [beNat_cons, length_cons, pow_succ]
    calc octet.toNat * 256 ^ rest.length + beNat rest <
      octet.toNat * 256 ^ rest.length + 256 ^ rest.length := by omega
      _ = (octet.toNat + 1) * 256 ^ rest.length := by ring
      _ ≤ 256 * 256 ^ rest.length := Nat.mul_le_mul_right _ hoctet
      _ = 256 ^ rest.length * 256 := mul_comm _ _

lemma beNat_beOctets_mod (n : ℕ) : beNat (beOctets width n) = n % 256 ^ width := by
  induction width with
  | zero => simp [Nat.mod_one]
  | succ width ih =>
    have hdigit : (UInt8.ofNat (n / 256 ^ width)).toNat = n / 256 ^ width % 256 := by simp
    rw [beOctets, beNat_cons, ih, length_beOctets, hdigit, pow_succ, Nat.mod_mul]
    ring

lemma beNat_beOctets {width n : ℕ} (hfits : n < 256 ^ width) : beNat (beOctets width n) = n := by
  rw [beNat_beOctets_mod, Nat.mod_eq_of_lt hfits]

private lemma beOctets_add_mul (n multiple : ℕ) : beOctets width (multiple * 256 ^ width + n) =
    beOctets width n := by
  induction width generalizing multiple with
  | zero => rfl
  | succ width ih =>
    have hsplit : multiple * 256 ^ (width + 1) + n = (multiple * 256) * 256 ^ width + n := by
      rw [pow_succ]; ring
    have hpos : 0 < 256 ^ width := Nat.pow_pos (by decide)
    rw [beOctets, beOctets, hsplit, ih (multiple * 256), Nat.add_comm,
      Nat.add_mul_div_right _ _ hpos]
    congr 1
    rw [← UInt8.toNat_inj, UInt8.toNat_ofNat', UInt8.toNat_ofNat']
    omega

lemma beOctets_beNat : beOctets octets.length (beNat octets) = octets := by
  induction octets with
  | nil => rfl
  | cons octet rest ih =>
    have hpos : 0 < 256 ^ rest.length := Nat.pow_pos (by decide)
    rw [length_cons, beOctets, beNat_cons, beOctets_add_mul, ih, Nat.add_comm,
      Nat.add_mul_div_right _ _ hpos, Nat.div_eq_of_lt (beNat_lt rest), zero_add]
    simp

lemma beOctets_injective {width first second : ℕ} (hfirst : first < 256 ^ width)
    (hsnd : second < 256 ^ width) (hoct : beOctets width first = beOctets width second) :
    first = second := by
  rw [← beNat_beOctets hfirst, ← beNat_beOctets hsnd, hoct]

def minimalOctets (n : ℕ) : Bytes :=
  if n = 0 then [0] else (Nat.digits 256 n).reverse.map UInt8.ofNat

private lemma beNat_reverse_digits (digits : List ℕ) (hdigits : ∀ digit ∈ digits, digit < 256) :
    beNat (digits.reverse.map UInt8.ofNat) = Nat.ofDigits 256 digits := by
  induction digits with
  | nil => rfl
  | cons digit rest ih =>
    have hdigit : (UInt8.ofNat digit).toNat = digit := by
      have hlt : digit < 256 := hdigits digit mem_cons_self
      simp [Nat.mod_eq_of_lt hlt]
    have hrest := ih (forall_mem_cons.mp hdigits).2
    rw [reverse_cons, map_append, beNat_append, hrest, map_singleton,
      beNat_singleton, hdigit, Nat.ofDigits_cons, length_singleton, pow_one]
    ring

@[simp] lemma beNat_minimalOctets (n : ℕ) : beNat (minimalOctets n) = n := by
  by_cases hzero : n = 0
  · rw [minimalOctets, if_pos hzero, hzero]
    rfl
  · rw [minimalOctets, if_neg hzero, beNat_reverse_digits, Nat.ofDigits_digits]
    exact fun digit hdigit ↦ Nat.digits_lt_base (by decide) hdigit

end GmStack.Foundation
