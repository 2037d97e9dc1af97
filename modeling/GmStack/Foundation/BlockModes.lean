import GmStack.Foundation.Wire

/-! Byte strings cut into blocks, and two modes of use of a block permutation: cipher block chaining
and a keystream. -/

namespace GmStack.Foundation

open List

def xorBytes (first second : Bytes) : Bytes := List.zipWith (· ^^^ ·) first second

lemma length_xorBytes (first second : Bytes) :
    (xorBytes first second).length = min first.length second.length := length_zipWith

lemma length_nonce (base : Octets 12) (seq : ℕ) :
    (base.bytes.take 4 ++ xorBytes (base.bytes.drop 4) (beOctets 8 seq)).length = 12 := by
  rw [length_append, length_xorBytes, length_take, length_drop, length_beOctets, base.length_bytes]
  rfl

variable {data : Bytes}

lemma xorBytes_xorBytes {mask : Bytes} (hlen : data.length ≤ mask.length) :
    xorBytes (xorBytes data mask) mask = data := by
  induction data generalizing mask with
  | nil => rfl
  | cons octet rest ih =>
    cases mask with
    | nil => simp at hlen
    | cons first others =>
      have hrest : rest.length ≤ others.length := Nat.le_of_succ_le_succ hlen
      show (octet ^^^ first ^^^ first) :: xorBytes (xorBytes rest others) others = octet :: rest
      rw [ih hrest, UInt8.xor_assoc, UInt8.xor_self, UInt8.xor_zero]

lemma xorBytes_comm (first second : Bytes) : xorBytes first second = xorBytes second first :=
  zipWith_comm_of_comm fun octet other ↦ UInt8.xor_comm octet other

lemma xorBytes_left_cancel {mask other : Bytes} (hmask : mask.length ≤ data.length)
    (hother : other.length ≤ data.length) (heq : xorBytes data mask = xorBytes data other) :
    mask = other := by
  have htwice : xorBytes (xorBytes mask data) data = xorBytes (xorBytes other data) data := by
    rw [xorBytes_comm mask, xorBytes_comm other, heq]
  rwa [xorBytes_xorBytes hmask, xorBytes_xorBytes hother] at htwice

lemma xorBytes_replicate_zero (data : Bytes) : xorBytes data (replicate data.length 0) = data := by
  induction data with
  | nil => rfl
  | cons octet rest ih =>
    show (octet ^^^ 0) :: xorBytes rest (replicate rest.length 0) = octet :: rest
    rw [ih, UInt8.xor_zero]

variable {width : ℕ} {base : Bytes}

lemma eq_of_xorBytes_beOctets (hbase : base.length = width)
    {number other : ℕ} (hnumber : number < 256 ^ width) (hother : other < 256 ^ width)
    (heq : xorBytes base (beOctets width number) = xorBytes base (beOctets width other)) :
    number = other := by
  refine beOctets_injective hnumber hother (xorBytes_left_cancel ?_ ?_ heq)
  · rw [length_beOctets, hbase]
  · rw [length_beOctets, hbase]

lemma xorBytes_beOctets_zero (hbase : base.length = width) :
    xorBytes base (beOctets width 0) = base := by
  have hzero (count : ℕ) : beOctets count 0 = replicate count 0 := by
    induction count with
    | zero => rfl
    | succ count ih =>
      rw [beOctets, Nat.zero_div, ih]
      rfl
  rw [hzero, ← hbase, xorBytes_replicate_zero]

lemma eq_zero_of_masked {fixed number : ℕ} (hbase : base.length = fixed + width)
    (hnumber : number < 256 ^ width)
    (heq : base.take fixed ++ xorBytes (base.drop fixed) (beOctets width number) = base) :
    number = 0 := by
  have htail := congrArg (drop fixed) heq
  have hlen : (base.drop fixed).length = width := by rw [length_drop, hbase,
    Nat.add_sub_cancel_left]
  rw [drop_left' (by rw [length_take, hbase, Nat.min_eq_left (Nat.le_add_right _ _)])] at htail
  exact eq_of_xorBytes_beOctets hlen hnumber (Nat.pow_pos (by decide))
    (htail.trans (xorBytes_beOctets_zero hlen).symm)

section Blocks

variable {size count : ℕ} {block : ℕ → Bytes} (hblock : ∀ i, (block i).length = size)

include hblock

lemma length_flatMap_range : ((range count).flatMap block).length = size * count := by
  simp [length_flatMap, hblock, Nat.mul_comm]

lemma take_flatMap_range {len : ℕ} (hlen : len ≤ size * count) (more : ℕ) :
    ((range (count + more)).flatMap block).take len = ((range count).flatMap block).take len := by
  rw [range_add, flatMap_append, take_append_of_le_length (by rwa [length_flatMap_range hblock])]

end Blocks

def chunksExact (size : ℕ) : ℕ → Bytes → List Bytes
  | 0, _ => []
  | count + 1, data => data.take size :: chunksExact size count (data.drop size)

variable {size : ℕ} {count : ℕ}

lemma length_of_mem_chunksExact {block : Bytes}
    (hlen : size * count ≤ data.length) (hblock : block ∈ chunksExact size count data) :
    block.length = size := by
  induction count generalizing data with
  | zero => simp [chunksExact] at hblock
  | succ count ih =>
    rw [Nat.mul_succ] at hlen
    rcases mem_cons.mp hblock with rfl | htail
    · rw [length_take]
      omega
    · exact ih (by rw [length_drop]; omega) htail

@[simp] lemma length_chunksExact (size count : ℕ) (data : Bytes) :
    (chunksExact size count data).length = count := by
  induction count generalizing data with
  | zero => rfl
  | succ count ih => rw [chunksExact, length_cons, ih]

lemma flatten_chunksExact_take (count : ℕ) : (chunksExact size count data).flatten =
    data.take (size * count) := by
  induction count generalizing data with
  | zero => rw [Nat.mul_zero, take_zero]; rfl
  | succ count ih => rw [chunksExact, flatten_cons, ih, Nat.mul_succ, Nat.add_comm, take_add]

lemma flatten_chunksExact (hlen : data.length = size * count) :
    (chunksExact size count data).flatten = data := by
  rw [flatten_chunksExact_take, take_of_length_le hlen.le]

section

variable {blocks : List Bytes} (hblk : ∀ block ∈ blocks, block.length = size)

include hblk

lemma chunksExact_flatten : chunksExact size blocks.length blocks.flatten = blocks := by
  induction blocks with
  | nil => rfl
  | cons block rest ih =>
    have hblock : block.length = size := hblk block mem_cons_self
    have hrest := ih (forall_mem_cons.mp hblk).2
    rw [length_cons, chunksExact, flatten_cons, ← hblock, take_left, drop_left, hblock, hrest]

lemma length_flatten_of_blocks : blocks.flatten.length = size * blocks.length := by
  induction blocks with
  | nil => rfl
  | cons block rest ih =>
    have hblock : block.length = size := hblk block mem_cons_self
    have hrest := ih (forall_mem_cons.mp hblk).2
    rw [flatten_cons, length_append, hblock, hrest, length_cons, Nat.mul_succ, Nat.add_comm]

end

def cbcEncrypt (encrypt : Bytes → Bytes) : Bytes → List Bytes → List Bytes
  | _, [] => []
  | previous, block :: rest =>
    let cipher := encrypt (xorBytes block previous)
    cipher :: cbcEncrypt encrypt cipher rest

def cbcDecrypt (decrypt : Bytes → Bytes) : Bytes → List Bytes → List Bytes
  | _, [] => []
  | previous, cipher :: rest => xorBytes (decrypt cipher) previous :: cbcDecrypt decrypt cipher rest

section Chaining

variable {size : ℕ} {encrypt decrypt : Bytes → Bytes}

lemma length_cbcEncrypt (encrypt : Bytes → Bytes) (previous : Bytes) (blocks : List Bytes) :
    (cbcEncrypt encrypt previous blocks).length = blocks.length := by
  induction blocks generalizing previous with
  | nil => rfl
  | cons block rest ih => rw [cbcEncrypt, length_cons, ih, length_cons]

variable {blocks : List Bytes} {previous : Bytes}

section

variable (henc : ∀ block, block.length = size → (encrypt block).length = size)

include henc

lemma length_of_mem_cbcEncrypt
    {cipher : Bytes} (hprev : previous.length = size) (hblk : ∀ block ∈ blocks, block.length = size)
    (hcipher : cipher ∈ cbcEncrypt encrypt previous blocks) : cipher.length = size := by
  induction blocks generalizing previous with
  | nil => simp [cbcEncrypt] at hcipher
  | cons block rest ih =>
    have hblock : block.length = size := hblk block mem_cons_self
    have hmasked : (xorBytes block previous).length = size := by
      rw [length_xorBytes, hblock, hprev, Nat.min_self]
    rcases mem_cons.mp hcipher with rfl | htail
    · exact henc _ hmasked
    · exact ih (henc _ hmasked) (forall_mem_cons.mp hblk).2 htail

lemma cbcDecrypt_cbcEncrypt
    (hinverse : ∀ block, block.length = size → decrypt (encrypt block) = block)
    (hprev : previous.length = size)
    (hblk : ∀ block ∈ blocks, block.length = size) :
    cbcDecrypt decrypt previous (cbcEncrypt encrypt previous blocks) = blocks := by
  induction blocks generalizing previous with
  | nil => rfl
  | cons block rest ih =>
    have hblock : block.length = size := hblk block mem_cons_self
    have hmasked : (xorBytes block previous).length = size := by
      rw [length_xorBytes, hblock, hprev, Nat.min_self]
    have hrest := ih (henc _ hmasked) (forall_mem_cons.mp hblk).2
    rw [cbcEncrypt, cbcDecrypt, hinverse _ hmasked, hrest,
      xorBytes_xorBytes (hblock.trans hprev.symm).le]

end

lemma length_cbcDecrypt (decrypt : Bytes → Bytes) (previous : Bytes) (blocks : List Bytes) :
    (cbcDecrypt decrypt previous blocks).length = blocks.length := by
  induction blocks generalizing previous with
  | nil => rfl
  | cons block rest ih => rw [cbcDecrypt, length_cons, ih, length_cons]

variable (hdec : ∀ block, block.length = size → (decrypt block).length = size)

include hdec

lemma length_of_mem_cbcDecrypt
    {plain : Bytes} (hprev : previous.length = size) (hblk : ∀ block ∈ blocks, block.length = size)
    (hplain : plain ∈ cbcDecrypt decrypt previous blocks) : plain.length = size := by
  induction blocks generalizing previous with
  | nil => simp [cbcDecrypt] at hplain
  | cons block rest ih =>
    have hblock : block.length = size := hblk block mem_cons_self
    rcases mem_cons.mp hplain with rfl | htail
    · rw [length_xorBytes, hdec _ hblock, hprev, Nat.min_self]
    · exact ih hblock (forall_mem_cons.mp hblk).2 htail

lemma cbcEncrypt_cbcDecrypt
    (hinverse : ∀ block, block.length = size → encrypt (decrypt block) = block)
    (hprev : previous.length = size)
    (hblk : ∀ block ∈ blocks, block.length = size) :
    cbcEncrypt encrypt previous (cbcDecrypt decrypt previous blocks) = blocks := by
  induction blocks generalizing previous with
  | nil => rfl
  | cons block rest ih =>
    have hblock : block.length = size := hblk block mem_cons_self
    have hrest := ih hblock (forall_mem_cons.mp hblk).2
    rw [cbcDecrypt, cbcEncrypt, xorBytes_xorBytes ((hdec _ hblock).trans hprev.symm).le,
      hinverse _ hblock, hrest]

end Chaining

lemma flatten_inverse {mode back : List Bytes → List Bytes}
    (hcount : ∀ blocks, (mode blocks).length = blocks.length)
    (hsize : ∀ blocks, (∀ block ∈ blocks, block.length = size) → ∀ block ∈ mode blocks,
    block.length = size)
    (hback : ∀ blocks, (∀ block ∈ blocks, block.length = size) → back (mode blocks) = blocks)
    (hwhole : data.length = size * (data.length / size)) :
    let result := (mode (chunksExact size (data.length / size) data)).flatten
    result.length = data.length ∧ (back (chunksExact size (result.length / size) result)).flatten =
      data := by
  intro result
  have hblk : ∀ block ∈ chunksExact size (data.length / size) data, block.length = size :=
    fun block ↦ length_of_mem_chunksExact hwhole.ge
  have hlen : result.length = data.length := by
    rw [length_flatten_of_blocks (hsize _ hblk), hcount, length_chunksExact, ← hwhole]
  have hchunks := chunksExact_flatten (hsize _ hblk)
  rw [hcount, length_chunksExact] at hchunks
  rw [hlen, hchunks, hback _ hblk, flatten_chunksExact hwhole]
  exact ⟨rfl, rfl⟩

def keystream (encrypt : Bytes → Bytes) (counter : Bytes) (count : ℕ) : Bytes :=
  ((List.range count).map fun i ↦ encrypt (beOctets counter.length (beNat counter + i))).flatten

lemma length_keystream {encrypt : Bytes → Bytes} {counter : Bytes}
    (henc : ∀ block, block.length = counter.length → (encrypt block).length = size)
    (count : ℕ) : (keystream encrypt counter count).length = size * count := by
  have hblk : ∀ block ∈ (range count).map fun i ↦
      encrypt (beOctets counter.length (beNat counter + i)), block.length = size := by
    intro block hblock
    obtain ⟨i, -, rfl⟩ := mem_map.mp hblock
    exact henc _ (length_beOctets _ _)
  rw [keystream, length_flatten_of_blocks hblk, length_map, length_range]

end GmStack.Foundation
