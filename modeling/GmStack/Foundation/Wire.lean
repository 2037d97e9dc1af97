import GmStack.Foundation.Bytes
import GmStack.Foundation.Result

/-! Pieces of byte-oriented decoders. `Octets n` is a byte string of a fixed length, as an array
type of a fixed size is. -/

namespace GmStack.Foundation

open List

/-- A byte string of length `n`. -/
@[ext] structure Octets (n : ℕ) where
  bytes : Bytes
  length_bytes : bytes.length = n
  deriving DecidableEq

attribute [simp] Octets.length_bytes

def Octets.fill (n : ℕ) (octet : UInt8) : Octets n :=
  ⟨List.replicate n octet, length_replicate⟩

section TakeExact

variable {ε : Type} {n : ℕ} {error : ε}

def takeExact (n : ℕ) (error : ε) (input : Bytes) : Except ε (Octets n × Bytes) :=
  if hlength : n ≤ input.length then
    .ok (⟨input.take n, length_take_of_le hlength⟩, input.drop n)
  else .error error

lemma takeExact_append (octets : Octets n) (rest : Bytes) :
    takeExact n error (octets.bytes ++ rest) = .ok (octets, rest) := by
  have hlen : n ≤ (octets.bytes ++ rest).length := by simp
  rw [takeExact, dif_pos hlen]
  congr 2
  · apply Octets.ext
    show (octets.bytes ++ rest).take n = octets.bytes
    rw [take_append_of_le_length (Octets.length_bytes octets).ge,
      take_of_length_le (Octets.length_bytes octets).le]
  · rw [drop_append_of_le_length (Octets.length_bytes octets).ge,
      drop_of_length_le (Octets.length_bytes octets).le, nil_append]

variable {input rest : Bytes}

lemma takeExact_eq_ok {octets : Octets n} : takeExact n error input = .ok (octets, rest) ↔
    input = octets.bytes ++ rest := by
  constructor
  · intro htake
    unfold takeExact at htake
    split_ifs at htake with hlen
    obtain ⟨rfl, rfl⟩ := htake
    exact (take_append_drop n input).symm
  · rintro rfl
    exact takeExact_append octets rest

def lengthThen (width : ℕ) (data : Bytes) : Bytes := beOctets width data.length ++ data

@[simp] lemma length_lengthThen (width : ℕ) (data : Bytes) : (lengthThen width data).length =
    width + data.length := by
  rw [lengthThen, length_append, length_beOctets]

variable {data : Bytes} {width : ℕ}

lemma beNat_take_lengthThen (hlen : data.length < 256 ^ width) (rest : Bytes) :
    beNat ((lengthThen width data ++ rest).take width) = data.length := by
  have hwidth := length_beOctets width data.length
  rw [lengthThen, append_assoc, take_append_of_le_length hwidth.ge, take_of_length_le hwidth.le,
    beNat_beOctets hlen]

lemma drop_lengthThen (width : ℕ) (data rest : Bytes) : (lengthThen width data ++ rest).drop width =
    data ++ rest := by
  have hwidth := length_beOctets width data.length
  rw [lengthThen, append_assoc, drop_append_of_le_length hwidth.ge, drop_of_length_le hwidth.le,
    nil_append]

lemma beNat_take_lengthThen_self (hlen : data.length < 256 ^ width) :
    beNat ((lengthThen width data).take width) = data.length := by
  simpa using beNat_take_lengthThen hlen []

lemma drop_lengthThen_self (width : ℕ) (data : Bytes) :
    (lengthThen width data).drop width = data := by
  simpa using drop_lengthThen width data []

lemma exists_lengthThen_one (hlen : data.length < 256 ^ 1) :
    ∃ octet : UInt8, lengthThen 1 data = octet :: data ∧ octet.toNat = data.length := by
  refine ⟨_, rfl, ?_⟩
  rw [← beNat_singleton]
  exact beNat_beOctets hlen

def splitExact (n : ℕ) (error : ε) (input : Bytes) : Except ε (Bytes × Bytes) :=
  if n ≤ input.length then .ok (input.take n, input.drop n) else .error error

lemma splitExact_append (hn : n = data.length) (rest : Bytes) : splitExact n error (data ++ rest) =
    .ok (data, rest) := by
  subst hn
  rw [splitExact, if_pos (by simp), take_left, drop_left]

lemma splitExact_eq_ok : splitExact n error input = .ok (data, rest) ↔ input = data ++ rest ∧
    n = data.length := by
  constructor
  · intro hsplit
    unfold splitExact at hsplit
    split_ifs at hsplit with hlen
    obtain ⟨rfl, rfl⟩ := hsplit
    exact ⟨(take_append_drop n input).symm, (length_take_of_le hlen).symm⟩
  · rintro ⟨rfl, hn⟩
    exact splitExact_append hn rest

lemma announced_append {announced : Bytes} (hann : beNat announced = data.length) :
    announced ++ data = lengthThen announced.length data := by
  rw [lengthThen, ← hann, beOctets_beNat]

def takeLengthThen (width : ℕ) (shortLength : ε) (shortData : ℕ → ε) (input : Bytes) :
    Except ε (Bytes × Bytes) := do
  let (announced, rest) ← splitExact width shortLength input
  splitExact (beNat announced) (shortData (beNat announced)) rest

variable {shortData : ℕ → ε} {shortLength : ε}

lemma takeLengthThen_append (hlen : data.length < 256 ^ width) (rest : Bytes) :
    takeLengthThen width shortLength shortData (lengthThen width data ++ rest) =
    .ok (data, rest) := by
  rw [takeLengthThen, lengthThen, append_assoc,
    splitExact_append (length_beOctets width data.length).symm, ok_bind]
  exact splitExact_append (beNat_beOctets hlen) rest

lemma takeLengthThen_eq_ok : takeLengthThen width shortLength shortData input = .ok (data, rest) ↔
      input = lengthThen width data ++ rest ∧ data.length < 256 ^ width := by
  constructor
  · intro htake
    obtain ⟨⟨announced, remaining⟩, hlen, hdata⟩ := bind_eq_ok.mp htake
    obtain ⟨rfl, hwidth⟩ := splitExact_eq_ok.mp hlen
    obtain ⟨rfl, hann⟩ := splitExact_eq_ok.mp hdata
    refine ⟨by rw [hwidth, ← announced_append hann, append_assoc], ?_⟩
    rw [← hann, hwidth]
    exact beNat_lt announced
  · rintro ⟨rfl, hlen⟩
    exact takeLengthThen_append hlen rest

lemma takeLengthThen_lengthThen (hlen : data.length < 256 ^ width) :
    takeLengthThen width shortLength shortData (lengthThen width data) = .ok (data, []) := by
  simpa using takeLengthThen_append hlen []

end TakeExact

def hexOctet (octet : UInt8) : String :=
  String.ofList (Nat.toDigits 16 (octet.toNat / 16) ++ Nat.toDigits 16 (octet.toNat % 16))
    |>.toUpper

def hexOctetLower (octet : UInt8) : String := (hexOctet octet).toLower

def hexOctets (octets : Bytes) : String := "[" ++ ", ".intercalate (octets.map hexOctet) ++ "]"

def hexOctetsLower (octets : Bytes) : String := (hexOctets octets).toLower

def replacementCharacter : Bytes := [0xEF, 0xBF, 0xBD]

def inRange (low high : UInt8) : Option UInt8 → Bool
  | some octet => low ≤ octet && octet ≤ high
  | none => false

def secondOctetRange (lead : UInt8) : UInt8 × UInt8 :=
  if lead = 0xE0 then (0xA0, 0xBF)
  else if lead = 0xED then (0x80, 0x9F)
  else if lead = 0xF0 then (0x90, 0xBF)
  else if lead = 0xF4 then (0x80, 0x8F)
  else (0x80, 0xBF)

def scanCharacter (lead : UInt8) (rest : Bytes) : ℕ × Bool :=
  let second := inRange (secondOctetRange lead).1 (secondOctetRange lead).2 rest[0]?
  let third := inRange 0x80 0xBF rest[1]?
  let fourth := inRange 0x80 0xBF rest[2]?
  if lead < 0x80 then (1, true)
  else if 0xC2 ≤ lead ∧ lead ≤ 0xDF then if second then (2, true) else (1, false)
  else if 0xE0 ≤ lead ∧ lead ≤ 0xEF then
    if !second then (1, false) else if !third then (2, false) else (3, true)
  else if 0xF0 ≤ lead ∧ lead ≤ 0xF4 then
    if !second then (1, false)
    else if !third then (2, false)
    else if !fourth then (3, false)
    else (4, true)
  else (1, false)

def utf8LossyFuel : ℕ → Bytes → Bytes
  | _, [] => []
  | 0, _ :: _ => []
  | fuel + 1, lead :: rest =>
    let (count, valid) := scanCharacter lead rest
    (if valid then (lead :: rest).take count else replacementCharacter) ++
      utf8LossyFuel fuel ((lead :: rest).drop count)

def utf8Lossy (octets : Bytes) : Bytes := utf8LossyFuel octets.length octets

def lossyDebug (octets : Bytes) : String :=
  ((String.fromUTF8? ⟨(utf8Lossy octets).toArray⟩).getD "").quote

end GmStack.Foundation
