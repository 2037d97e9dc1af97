import GmStack.Foundation.Bytes
import GmStack.Foundation.Result

/-! Two digits for each octet, written in lower case and read in either case. -/

namespace GmStack.Foundation

open List

def hexDigit (value : ℕ) : Char := if value < 10 then Char.ofNat (48 + value) else Char.ofNat
    (87 + value)

def hexValue (digit : Char) : Option ℕ :=
  if 'A' ≤ digit ∧ digit ≤ 'F' then some (digit.toNat - 55)
  else if 'a' ≤ digit ∧ digit ≤ 'f' then some (digit.toNat - 87)
  else if '0' ≤ digit ∧ digit ≤ '9' then some (digit.toNat - 48)
  else none

lemma hexValue_hexDigit {value : ℕ} (hval : value < 16) :
    hexValue (hexDigit value) = some value := by
  interval_cases value <;> rfl

def hexDigits (octets : Bytes) : List Char :=
  octets.flatMap fun octet ↦ [hexDigit (octet.toNat / 16), hexDigit (octet.toNat % 16)]

def hexEncode (octets : Bytes) : String := String.ofList (hexDigits octets)

def readDigit (digit : Char) (position : ℕ) : Except String ℕ :=
  match hexValue digit with
  | some value => .ok value
  | none => .error ("Invalid character '" ++ String.singleton digit ++ "' at position " ++
    toString position)

def readDigits : List Char → ℕ → Except String Bytes
  | high :: low :: rest, position => do
    let highValue ← readDigit high position
    let lowValue ← readDigit low (position + 1)
    let octets ← readDigits rest (position + 2)
    .ok (UInt8.ofNat (16 * highValue + lowValue) :: octets)
  | [_], _ => .error "Odd number of digits"
  | [], _ => .ok []

def hexDecode (text : String) : Except String Bytes := do
  rejectIf (text.toList.length % 2 ≠ 0) "Odd number of digits"
  readDigits text.toList 0

lemma readDigit_hexDigit {value : ℕ} (hval : value < 16) (position : ℕ) :
    readDigit (hexDigit value) position = .ok value := by
  rw [readDigit, hexValue_hexDigit hval]

variable (octets : Bytes)

lemma readDigits_hexDigits (position : ℕ) : readDigits (hexDigits octets) position =
    .ok octets := by
  induction octets generalizing position with
  | nil => rfl
  | cons octet rest ih =>
    have hoctet : octet.toNat < 256 := octet.toNat_lt
    have hhigh : octet.toNat / 16 < 16 := by omega
    have hlow : octet.toNat % 16 < 16 := by omega
    have hwhole : UInt8.ofNat (16 * (octet.toNat / 16) + octet.toNat % 16) = octet := by
      rw [Nat.div_add_mod, UInt8.ofNat_toNat]
    rw [hexDigits, flatMap_cons, cons_append, cons_append, nil_append, readDigits,
      readDigit_hexDigit hhigh, readDigit_hexDigit hlow]
    simp only [ok_bind]
    rw [← hexDigits, ih, ok_bind, hwhole]

@[simp] lemma length_hexDigits : (hexDigits octets).length = 2 * octets.length := by
  rw [hexDigits, length_flatMap]
  simp [Nat.mul_comm]

@[simp] lemma hexDecode_hexEncode : hexDecode (hexEncode octets) = .ok octets := by
  have htext : (hexEncode octets).toList = hexDigits octets := String.toList_ofList
  have heven : ¬ (hexDigits octets).length % 2 ≠ 0 := by
    rw [length_hexDigits]
    omega
  rw [hexDecode, htext, rejectIf_bind heven, readDigits_hexDigits]

end GmStack.Foundation
