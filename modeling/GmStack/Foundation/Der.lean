import GmStack.Foundation.Bytes

/-! The definite-length encodings of ASN.1: a tag octet, length octets and a content. -/

namespace GmStack.Foundation

/-- The length octets of a definite-length encoding and the length they denote. -/
inductive LengthOctets : Bytes → ℕ → Prop
  | short (octet : UInt8) (hshort : octet < 0x80) : LengthOctets [octet] octet.toNat
  | long (first : UInt8) (octets : Bytes) (hlong : 0x80 ≤ first)
      (hcount : octets.length = first.toNat - 0x80) (hpos : octets ≠ []) :
        LengthOctets (first :: octets) (beNat octets)

/-- An element: a tag octet, the length octets of the content, and the content. -/
def IsElement (tag : UInt8) (content encoding : Bytes) : Prop :=
  ∃ lengthOctets, LengthOctets lengthOctets content.length ∧ encoding = tag ::
    (lengthOctets ++ content)

/-- The octets of a DER INTEGER with the value `n`, which is not negative: the top bit is clear. -/
structure UnsignedOctets (n : ℕ) (content : Bytes) : Prop where
  nonempty : content ≠ []
  clear : content.headD 0 < 0x80
  value : beNat content = n

/-- No octets with the same meaning are shorter. -/
def Shortest (Denotes : Bytes → Prop) (octets : Bytes) : Prop :=
  Denotes octets ∧ ∀ other, Denotes other → octets.length ≤ other.length

/-- A definite-length encoding whose length octets are the shortest ones. -/
def ShortElement (tag : UInt8) (content encoding : Bytes) : Prop :=
  ∃ lengthOctets, Shortest (LengthOctets · content.length) lengthOctets ∧ encoding = tag ::
    (lengthOctets ++ content)

lemma Shortest.eq_iff {Denotes : Bytes → Prop} {octets canonical : Bytes}
    (hcanonical : Shortest Denotes canonical)
    (hunique : ∀ first second, Denotes first → Denotes second → first.length = second.length →
    first = second) :
    Shortest Denotes octets ↔ octets = canonical := by
  constructor
  · rintro ⟨hdenotes, hleast⟩
    have hle := hleast _ hcanonical.1
    have hge := hcanonical.2 _ hdenotes
    exact hunique _ _ hdenotes hcanonical.1 (by omega)
  · rintro rfl
    exact hcanonical

lemma beNat_inj {first second : Bytes} (hlen : first.length = second.length)
    (hvalue : beNat first = beNat second) :
    first = second := by
  rw [← beOctets_beNat first, hlen, hvalue, beOctets_beNat]

lemma LengthOctets.eq_of_length {first second : Bytes} {n : ℕ} (hfirst : LengthOctets first n)
    (hsecond : LengthOctets second n) (hlen : first.length = second.length) : first = second := by
  cases hfirst with
  | short octet hshort =>
    generalize hn : octet.toNat = n at hsecond
    cases hsecond with
    | short other => rw [UInt8.toNat_inj.mp hn]
    | long lead octets _ _ hpos => simp [hpos] at hlen
  | long lead octets hlong hcount hpos =>
    generalize hn : beNat octets = n at hsecond
    cases hsecond with
    | short other => simp [hpos] at hlen
    | long other others hother hothers =>
      have hwidth : octets.length = others.length := Nat.succ.inj hlen
      have hlead : 0x80 ≤ lead.toNat := hlong
      have hotherLead : 0x80 ≤ other.toNat := hother
      rw [beNat_inj hwidth hn, UInt8.toNat_inj.mp (show lead.toNat = other.toNat by omega)]

lemma UnsignedOctets.eq_of_length {first second : Bytes} {n : ℕ} (hfirst : UnsignedOctets n first)
    (hsecond : UnsignedOctets n second) (hlen : first.length = second.length) : first = second :=
  beNat_inj hlen (hfirst.value.trans hsecond.value.symm)

lemma UnsignedOctets.lt {content : Bytes} {n : ℕ} (hcontent : UnsignedOctets n content) :
    n < 0x80 * 256 ^ (content.length - 1) := by
  obtain ⟨hnonempty, hclear, rfl⟩ := hcontent
  obtain ⟨lead, tail, rfl⟩ := List.exists_cons_of_ne_nil hnonempty
  have htail := beNat_lt tail
  have hlead : lead.toNat + 1 ≤ 0x80 := hclear
  have hmul := Nat.mul_le_mul_right (256 ^ tail.length) hlead
  rw [beNat_cons, List.length_cons, Nat.add_sub_cancel]
  rw [Nat.add_mul, Nat.one_mul] at hmul
  omega

lemma toNat_and_low {first : UInt8} (hlong : 0x80 ≤ first) :
    (first &&& 0x7F).toNat = first.toNat - 0x80 := by
  have hle : 0x80 ≤ first.toNat := hlong
  have hlt := first.toNat_lt
  rw [UInt8.toNat_and, show (0x7F : UInt8).toNat = 2 ^ 7 - 1 from rfl,
    Nat.and_two_pow_sub_one_eq_mod]
  omega

/-- The top bit of the leading octet of the shortest form is set. -/
def TopBitSet (n : ℕ) : Prop := 0x80 ≤ (minimalOctets n).headD 0

instance (n : ℕ) : Decidable (TopBitSet n) := inferInstanceAs (Decidable (_ ≤ _))

lemma topBitSet_of_lt {n : ℕ} (hlt : n < 256) : TopBitSet n ↔ 128 ≤ n := by
  by_cases hzero : n = 0
  · subst hzero
    decide
  have hdigits : minimalOctets n = [UInt8.ofNat n] := by
    rw [minimalOctets, if_neg hzero, Nat.digits_of_lt 256 n hzero hlt]
    rfl
  rw [TopBitSet, hdigits, List.headD_cons, UInt8.le_iff_toNat_le, UInt8.toNat_ofNat',
    Nat.mod_eq_of_lt hlt]
  rfl

def integerOctets (n : ℕ) : Bytes :=
  if TopBitSet n then 0 :: minimalOctets n else minimalOctets n

@[simp] lemma beNat_integerOctets (n : ℕ) : beNat (integerOctets n) = n := by
  unfold integerOctets
  split_ifs
  · simp [beNat_cons]
  · exact beNat_minimalOctets n

lemma integerOctets_eq_minimalOctets_iff (n : ℕ) : integerOctets n = minimalOctets n ↔
    ¬ TopBitSet n := by
  unfold integerOctets
  split_ifs with htop
  · have hlen : (0 :: minimalOctets n).length ≠ (minimalOctets n).length := by simp
    exact ⟨fun heq ↦ absurd (congrArg List.length heq) hlen, fun hclear ↦ absurd htop hclear⟩
  · exact ⟨fun _ ↦ htop, fun _ ↦ rfl⟩

lemma integerOctets_eq_minimalOctets_iff_eq (m n : ℕ) : integerOctets m = minimalOctets n ↔ m = n ∧
    ¬ TopBitSet n := by
  constructor
  · intro heq
    have hnumber : m = n := by
      rw [← beNat_integerOctets m, heq, beNat_minimalOctets]
    subst hnumber
    exact ⟨rfl, (integerOctets_eq_minimalOctets_iff m).mp heq⟩
  · rintro ⟨rfl, htop⟩
    exact (integerOctets_eq_minimalOctets_iff m).mpr htop

end GmStack.Foundation
