import GmStack.Foundation.Wire

/-! Text as the list of its characters, with the operations of Rust's `str` that the models use. -/

namespace GmStack.Foundation

open List

/-- Text, as its characters. -/
abbrev Text := List Char

variable {text : Text}

lemma forall_mem_of_all {p : Char → Prop} [DecidablePred p]
    (hall : text.all (fun c ↦ decide (p c)) = true) : ∀ c ∈ text, p c := by
  simpa using hall

def encodeText (text : Text) : Bytes := text.flatMap String.utf8EncodeChar

@[simp] lemma encodeText_append (first second : Text) :
    encodeText (first ++ second) = encodeText first ++ encodeText second := flatMap_append

variable {character : Char}

lemma utf8EncodeChar_ascii (hascii : character.toNat < 0x80) :
    String.utf8EncodeChar character = [character.toNat.toUInt8] := by
  have hle : character.val.toNat ≤ 127 := Nat.le_of_lt_succ hascii
  simp only [String.utf8EncodeChar, hle, if_true]
  rfl

variable {octet : UInt8}

lemma le_of_mem_utf8EncodeChar (hwide : 0x80 ≤ character.toNat)
    (hmem : octet ∈ String.utf8EncodeChar character) : 0x80 ≤ octet.toNat := by
  have hlt : ¬character.val.toNat ≤ 127 := Nat.not_le_of_lt hwide
  simp only [String.utf8EncodeChar, hlt, if_false] at hmem
  split_ifs at hmem <;>
  · simp only [mem_cons, not_mem_nil, or_false] at hmem
    rcases hmem with rfl | rfl | rfl | rfl <;>
    · simp only [UInt8.toNat_ofNat']
      omega

lemma mem_encodeText_ascii (hascii : octet.toNat < 0x80) :
    octet ∈ encodeText text ↔ ∃ character ∈ text, character.toNat = octet.toNat := by
  simp only [encodeText, mem_flatMap]
  refine exists_congr fun character ↦ and_congr_right fun _ ↦ ?_
  by_cases hwide : 0x80 ≤ character.toNat
  · refine ⟨fun hmem ↦ ?_, fun heq ↦ ?_⟩
    · have := le_of_mem_utf8EncodeChar hwide hmem
      omega
    · omega
  rw [utf8EncodeChar_ascii (by omega), mem_singleton]
  refine ⟨fun heq ↦ ?_, fun heq ↦ ?_⟩
  · rw [heq]
    simp only [Nat.toUInt8_eq, UInt8.toNat_ofNat']
    omega
  · rw [heq, Nat.toUInt8_eq, UInt8.ofNat_toNat]

/-! ### Lossy decoding -/

def octetChar (octet : UInt8) : Char := Char.ofNat octet.toNat

@[simp] lemma toNat_octetChar (octet : UInt8) : (octetChar octet).toNat = octet.toNat := by
  have hvalid : octet.toNat.isValidChar := .inl (Nat.lt_trans octet.toNat_lt (by decide))
  rw [octetChar, Char.ofNat, dif_pos hvalid]
  rfl

def scannedValue (lead : UInt8) (rest : Bytes) : ℕ :=
  let tail (i : ℕ) := (rest.getD i 0).toNat % 64
  if lead < 0x80 then lead.toNat
  else if lead < 0xE0 then lead.toNat % 32 * 64 + tail 0
  else if lead < 0xF0 then lead.toNat % 16 * 4096 + tail 0 * 64 + tail 1
  else lead.toNat % 8 * 262144 + tail 0 * 4096 + tail 1 * 64 + tail 2

def scannedChar (lead : UInt8) (rest : Bytes) : Char :=
  if (scanCharacter lead rest).2 then Char.ofNat (scannedValue lead rest) else Char.ofNat 0xFFFD

def lossyTextFrom : ℕ → Bytes → Text
  | _, [] => []
  | skip + 1, _ :: rest => lossyTextFrom skip rest
  | 0, lead :: rest =>
    scannedChar lead rest :: lossyTextFrom ((scanCharacter lead rest).1 - 1) rest

def lossyText (octets : Bytes) : Text := lossyTextFrom 0 octets

variable {low high : UInt8}

lemma inRange_of_ascii (hlow : 0x80 ≤ low) (hascii : octet < 0x80) :
    inRange low high (some octet) = false := by
  have : ¬low ≤ octet := fun hle ↦ absurd (UInt8.le_trans hlow hle) (UInt8.not_le.mpr hascii)
  simp [inRange, this]

variable (lead : UInt8)

lemma secondOctetRange_low : 0x80 ≤ (secondOctetRange lead).1 := by
  unfold secondOctetRange
  split_ifs <;> decide

lemma scanCharacter_append_ascii (rest more : Bytes) (hascii : octet < 0x80) :
    scanCharacter lead (rest ++ octet :: more) = scanCharacter lead rest := by
  have hsnd : inRange (secondOctetRange lead).1 (secondOctetRange lead).2 (some octet) = false :=
    inRange_of_ascii (secondOctetRange_low lead) hascii
  have hlater : inRange 0x80 0xBF (some octet) = false := inRange_of_ascii (by decide) hascii
  have hnone (low high : UInt8) : inRange low high none = false := rfl
  unfold scanCharacter
  match rest with
  | [] => simp [hsnd, hnone]
  | [first] => simp [hlater, hnone]
  | [first, second] => simp [hlater, hnone]
  | first :: second :: third :: tail => simp

lemma scanCharacter_le (rest : Bytes) : (scanCharacter lead rest).1 ≤ rest.length + 1 := by
  have hnone (low high : UInt8) : inRange low high none = false := rfl
  unfold scanCharacter
  match rest with
  | [] =>
    split_ifs <;> simp_all
  | [first] =>
    simp only [getElem?_cons_succ, getElem?_nil, hnone]
    split_ifs <;> simp_all
  | [first, second] =>
    simp only [getElem?_cons_succ, getElem?_nil, hnone]
    split_ifs <;> simp_all
  | first :: second :: third :: tail =>
    simp only [length_cons]
    split_ifs <;> simp

lemma inRange_eq_true {octet : Option UInt8} (hrange : inRange low high octet = true) :
    ∃ value, octet = some value ∧ low.toNat ≤ value.toNat ∧ value.toNat ≤ high.toNat := by
  cases octet with
  | none => cases hrange
  | some value =>
    rw [inRange, Bool.and_eq_true, decide_eq_true_eq, decide_eq_true_eq, UInt8.le_iff_toNat_le,
      UInt8.le_iff_toNat_le] at hrange
    exact ⟨value, rfl, hrange⟩

lemma secondOctetRange_bounds {lead second : UInt8}
    (hlow : (secondOctetRange lead).1.toNat ≤ second.toNat)
    (hhigh : second.toNat ≤ (secondOctetRange lead).2.toNat) :
    0x80 ≤ second.toNat ∧ second.toNat ≤ 0xBF ∧ (lead.toNat = 0xE0 → 0xA0 ≤ second.toNat) ∧
      (lead.toNat = 0xED → second.toNat ≤ 0x9F) ∧ (lead.toNat = 0xF0 → 0x90 ≤ second.toNat) ∧
        (lead.toNat = 0xF4 → second.toNat ≤ 0x8F) := by
  unfold secondOctetRange at hlow hhigh
  simp only [← UInt8.toNat_inj, UInt8.reduceToNat] at hlow hhigh
  split_ifs at hlow hhigh <;>
  · simp only [UInt8.reduceToNat] at hlow hhigh
    omega

variable {octets : Bytes}

lemma getElem?_zero_eq_some (hget : octets[0]? = some octet) : ∃ tail, octets = octet :: tail := by
  cases octets with
  | nil => cases hget
  | cons first tail => exact ⟨tail, by rw [← Option.some.inj hget]⟩

lemma scannedValue_wide {lead : UInt8} {rest : Bytes} (hvalid : (scanCharacter lead rest).2 = true)
    (hwide : ¬lead < 0x80) (more : Bytes) :
    scannedValue lead (rest ++ more) = scannedValue lead rest ∧ 0x80 ≤ scannedValue lead rest ∧
      (scannedValue lead rest).isValidChar := by
  unfold scanCharacter at hvalid
  simp only [hwide, if_false] at hvalid
  split_ifs at hvalid with htwo hsnd hthree hsnd hthird hfour hsnd hthird hfourth
  · obtain ⟨second, hget, hlow, hhigh⟩ := inRange_eq_true hsnd
    obtain ⟨tail, rfl⟩ := getElem?_zero_eq_some hget
    have hlast : lead < 0xE0 :=
      UInt8.lt_iff_toNat_lt.mpr (Nat.lt_of_le_of_lt (UInt8.le_iff_toNat_le.mp htwo.2) (by decide))
    have hfirst : 0xC2 ≤ lead.toNat := UInt8.le_iff_toNat_le.mp htwo.1
    have hend : lead.toNat ≤ 0xDF := UInt8.le_iff_toNat_le.mp htwo.2
    have hval : scannedValue lead (second :: tail) = lead.toNat % 32 * 64 + second.toNat % 64 := by
      simp [scannedValue, hwide, hlast]
    refine ⟨by simp [scannedValue, hwide, hlast], ?_, ?_⟩
    · omega
    · exact .inl (by omega)
  · obtain ⟨second, hget, hlow, hhigh⟩ := inRange_eq_true (by simpa using hsnd)
    obtain ⟨third, hnext, hthirdLow, hthirdHigh⟩ := inRange_eq_true (by simpa using hthird)
    obtain ⟨tail, rfl⟩ := getElem?_zero_eq_some hget
    obtain ⟨tail, rfl⟩ := getElem?_zero_eq_some hnext
    have hbounds := secondOctetRange_bounds hlow hhigh
    have hfirst : 0xE0 ≤ lead.toNat := UInt8.le_iff_toNat_le.mp hthree.1
    have hend : lead.toNat ≤ 0xEF := UInt8.le_iff_toNat_le.mp hthree.2
    have hafter : ¬lead < 0xE0 := UInt8.not_lt.mpr hthree.1
    have hlast : lead < 0xF0 := UInt8.lt_iff_toNat_lt.mpr (Nat.lt_of_le_of_lt hend (by decide))
    have hval : scannedValue lead (second :: third :: tail) =
        lead.toNat % 16 * 4096 + second.toNat % 64 * 64 + third.toNat % 64 := by
      simp [scannedValue, hwide, hafter, hlast]
    refine ⟨by simp [scannedValue, hwide, hafter, hlast], ?_, ?_⟩
    · omega
    · unfold Nat.isValidChar
      omega
  obtain ⟨second, hget, hlow, hhigh⟩ := inRange_eq_true (by simpa using hsnd)
  obtain ⟨third, hnext, hthirdLow, hthirdHigh⟩ := inRange_eq_true (by simpa using hthird)
  obtain ⟨fourth, hfinal, hfourthLow, hfourthHigh⟩ := inRange_eq_true (by simpa using hfourth)
  obtain ⟨tail, rfl⟩ := getElem?_zero_eq_some hget
  obtain ⟨tail, rfl⟩ := getElem?_zero_eq_some hnext
  obtain ⟨tail, rfl⟩ := getElem?_zero_eq_some hfinal
  have hbounds := secondOctetRange_bounds hlow hhigh
  have hfirst : 0xF0 ≤ lead.toNat := UInt8.le_iff_toNat_le.mp hfour.1
  have hend : lead.toNat ≤ 0xF4 := UInt8.le_iff_toNat_le.mp hfour.2
  have hafter : ¬lead < 0xF0 := UInt8.not_lt.mpr hfour.1
  have hbefore : ¬lead < 0xE0 := fun hlt ↦
    absurd (UInt8.lt_iff_toNat_lt.mp hlt) (Nat.not_lt.mpr (Nat.le_trans (by decide) hfirst))
  have hval : scannedValue lead (second :: third :: fourth :: tail) =
      lead.toNat % 8 * 262144 + second.toNat % 64 * 4096 + third.toNat % 64 *
      64 + fourth.toNat % 64 := by
    simp [scannedValue, hwide, hafter, hbefore]
  refine ⟨by simp [scannedValue, hwide, hafter, hbefore], ?_, ?_⟩
  · omega
  · unfold Nat.isValidChar
    omega

lemma scannedChar_append_ascii (rest more : Bytes) (hascii : octet < 0x80) :
    scannedChar lead (rest ++ octet :: more) = scannedChar lead rest := by
  unfold scannedChar
  rw [scanCharacter_append_ascii lead rest more hascii]
  by_cases hvalid : (scanCharacter lead rest).2 = true
  · by_cases hlead : lead < 0x80
    · simp [scannedValue, hlead]
    · rw [(scannedValue_wide hvalid hlead _).1]
  · simp [hvalid]

lemma lossyTextFrom_append_ascii (octets more : Bytes) (hascii : octet < 0x80) (skip : ℕ)
    (hskip : skip ≤ octets.length) :
    lossyTextFrom skip (octets ++ octet :: more) = lossyTextFrom skip octets ++
    lossyText (octet :: more) := by
  induction octets generalizing skip with
  | nil =>
    obtain rfl : skip = 0 := Nat.le_zero.mp hskip
    rfl
  | cons lead rest ih =>
    cases skip with
    | zero =>
      have hcount := scanCharacter_le lead rest
      simp only [cons_append, lossyTextFrom, scannedChar_append_ascii lead rest more hascii,
        scanCharacter_append_ascii lead rest more hascii]
      rw [ih _ (by omega)]
    | succ skip => exact ih skip (Nat.le_of_succ_le_succ hskip)

lemma lossyText_append_ascii (octets more : Bytes) (hascii : octet < 0x80) :
    lossyText (octets ++ octet :: more) = lossyText octets ++ lossyText (octet :: more) :=
  lossyTextFrom_append_ascii octets more hascii 0 (Nat.zero_le _)

lemma lossyText_cons_ascii (hascii : octet < 0x80) (octets : Bytes) :
    lossyText (octet :: octets) = octetChar octet :: lossyText octets := by
  simp [lossyText, lossyTextFrom, scannedChar, scanCharacter, scannedValue, octetChar, hascii]

lemma lossyText_ascii (hascii : ∀ octet ∈ octets, octet < 0x80) (more : Bytes) :
    lossyText (octets ++ more) = octets.map octetChar ++ lossyText more := by
  induction octets with
  | nil => rfl
  | cons octet rest ih =>
    rw [cons_append, lossyText_cons_ascii (hascii octet mem_cons_self),
      ih (forall_mem_cons.mp hascii).2]
    rfl

lemma toNat_scannedChar {lead : UInt8} {rest : Bytes} (hwide : ¬lead < 0x80) :
    0x80 ≤ (scannedChar lead rest).toNat := by
  unfold scannedChar
  by_cases hvalid : (scanCharacter lead rest).2 = true
  · obtain ⟨-, hlow, hchar⟩ := scannedValue_wide hvalid hwide []
    rw [if_pos hvalid, Char.ofNat, dif_pos hchar]
    exact hlow
  · rw [if_neg hvalid]
    decide

lemma mem_lossyTextFrom {skip : ℕ} (hmem : character ∈ lossyTextFrom skip octets) :
    (∃ octet ∈ octets, octet < 0x80 ∧ character = octetChar octet) ∨ 0x80 ≤ character.toNat := by
  induction octets generalizing skip with
  | nil => cases skip <;> cases hmem
  | cons lead rest ih =>
    have hlater {skip : ℕ} (hrest : character ∈ lossyTextFrom skip rest) :=
      (ih hrest).imp_left fun ⟨octet, hoctet, hfound⟩ ↦
        (⟨octet, mem_cons_of_mem lead hoctet, hfound⟩ : ∃ octet ∈ lead :: rest, octet < 0x80 ∧
          character = octetChar octet)
    cases skip with
    | zero =>
      rcases mem_cons.mp hmem with rfl | hrest
      · by_cases hascii : lead < 0x80
        · refine .inl ⟨lead, mem_cons_self, hascii, ?_⟩
          simp [scannedChar, scanCharacter, scannedValue, octetChar, hascii]
        · exact .inr (toNat_scannedChar hascii)
      · exact hlater hrest
    | succ skip => exact hlater hmem

lemma mem_lossyText (hmem : character ∈ lossyText octets) :
    (∃ octet ∈ octets, octet < 0x80 ∧ character = octetChar octet) ∨ 0x80 ≤ character.toNat :=
  mem_lossyTextFrom hmem

lemma octet_mem_of_mem_lossyText (hascii : octet.toNat < 0x80)
    (hmem : octetChar octet ∈ lossyText octets) : octet ∈ octets := by
  rcases mem_lossyText hmem with ⟨found, hfound, -, heq⟩ | hwide
  · have hnat := congrArg Char.toNat heq
    rw [toNat_octetChar, toNat_octetChar] at hnat
    rwa [UInt8.toNat_inj.mp hnat]
  · rw [toNat_octetChar] at hwide
    omega

lemma lossyText_encodeText (hascii : ∀ character ∈ text, character.toNat < 0x80) :
    lossyText (encodeText text) = text := by
  induction text with
  | nil => rfl
  | cons character text ih =>
    have hfirst := hascii character mem_cons_self
    have hoctet : character.toNat.toUInt8.toNat = character.toNat := by
      rw [Nat.toUInt8_eq, UInt8.toNat_ofNat']
      omega
    have hlt : character.toNat.toUInt8 < 0x80 :=
      UInt8.lt_iff_toNat_lt.mpr (by rw [hoctet]; exact hfirst)
    have henc : encodeText (character :: text) = character.toNat.toUInt8 :: encodeText text := by
      rw [encodeText, flatMap_cons, utf8EncodeChar_ascii hfirst]
      rfl
    rw [henc, lossyText_cons_ascii hlt, octetChar, hoctet, Char.ofNat_toNat,
      ih (forall_mem_cons.mp hascii).2]

def isWhitespace (c : Char) : Bool :=
  let code := c.toNat
  (9 ≤ code && code ≤ 13) || (0x2000 ≤ code && code ≤ 0x200A) ||
    [0x20, 0x85, 0xA0, 0x1680, 0x2028, 0x2029, 0x202F, 0x205F, 0x3000].contains code

def trim (text : List Char) : List Char :=
  ((text.dropWhile isWhitespace).reverse.dropWhile isWhitespace).reverse

variable {before after : Text}

lemma trim_append (hbefore : ∀ c ∈ before, isWhitespace c = true)
    (htext : ∀ c ∈ text, isWhitespace c = false) (hne : text ≠ [])
    (hafter : ∀ c ∈ after, isWhitespace c = true) :
    trim (before ++ text ++ after) = text := by
  obtain ⟨first, rest, rfl⟩ := exists_cons_of_ne_nil hne
  have hstart : (before ++ first :: rest ++ after).dropWhile isWhitespace = first ::
      rest ++ after := by
    rw [append_assoc, dropWhile_append_of_pos hbefore, cons_append,
      dropWhile_cons_of_neg (by simp [htext first mem_cons_self])]
  have hlast : (first :: rest).reverse.dropWhile isWhitespace = (first :: rest).reverse := by
    obtain ⟨last, others, hreverse⟩ := exists_cons_of_ne_nil (reverse_ne_nil_iff.mpr hne)
    rw [hreverse, dropWhile_cons_of_neg]
    have hmem : last ∈ first :: rest := mem_reverse.mp (hreverse ▸ mem_cons_self)
    simp [htext last hmem]
  rw [trim, hstart, reverse_append, dropWhile_append_of_pos (by simpa using hafter),
    hlast, reverse_reverse]

def splitWhitespace (text : Text) : List Text := (text.splitOnP isWhitespace).filter (· ≠ [])

def stripCarriageReturn (line : Text) : Text :=
  if line.getLast? = some '\r' then line.dropLast else line

def lines (text : Text) : List Text :=
  let parts := text.splitOn '\n'
  parts.dropLast.map stripCarriageReturn ++ parts.getLast?.toList.filter (· ≠ [])

lemma lines_cons {line : Text} (hline : '\n' ∉ line) (rest : Text) :
    lines (line ++ '\n' :: rest) = stripCarriageReturn line :: lines rest := by
  have hparts := splitOn_ne_nil '\n' rest
  simp only [lines, splitOn_append_cons_self_of_not_mem hline, dropLast_cons_of_ne_nil hparts,
    getLast?_cons_of_ne_nil hparts, map_cons, cons_append]

def splitOnce (separator : Char) : List Char → Option (List Char × List Char)
  | [] => none
  | c :: rest =>
    if c = separator then some ([], rest)
    else (splitOnce separator rest).map fun (before, after) ↦ (c :: before, after)

def rsplitOnce (separator : Char) (text : Text) : Option (Text × Text) :=
  (splitOnce separator text.reverse).map fun (after, before) ↦ (before.reverse, after.reverse)

variable {separator : Char}

lemma splitOnce_append {before : Text} (hbefore : separator ∉ before) (after : Text) :
    splitOnce separator (before ++ separator :: after) = some (before, after) := by
  induction before with
  | nil => simp [splitOnce]
  | cons c rest ih =>
    rw [mem_cons, not_or] at hbefore
    rw [cons_append, splitOnce, if_neg (Ne.symm hbefore.1), ih hbefore.2]
    rfl

lemma splitOnce_eq_some :
    splitOnce separator text = some (before, after) ↔ text = before ++ separator :: after ∧
    separator ∉ before := by
  constructor
  · intro hsplit
    induction text generalizing before with
    | nil => cases hsplit
    | cons c rest ih =>
      rw [splitOnce] at hsplit
      split_ifs at hsplit with hc
      · cases hsplit
        exact ⟨by rw [hc, nil_append], not_mem_nil⟩
      obtain ⟨⟨front, back⟩, hrest, heq⟩ := Option.map_eq_some_iff.mp hsplit
      cases heq
      obtain ⟨hrest, hfront⟩ := ih hrest
      exact ⟨by rw [hrest, cons_append], by simp [Ne.symm hc, hfront]⟩
  · rintro ⟨rfl, hbefore⟩
    exact splitOnce_append hbefore after

lemma splitOnce_eq_none : splitOnce separator text = none ↔ separator ∉ text := by
  induction text with
  | nil => simp [splitOnce]
  | cons c rest ih =>
    rw [splitOnce, mem_cons, not_or, ← ih]
    by_cases hc : c = separator
    · simp [hc]
    · simp [hc, Ne.symm hc]

lemma isDigit_bounds {c : Char} (hdigit : c.isDigit = true) : 48 ≤ c.toNat ∧ c.toNat ≤ 57 := by
  rw [Char.isDigit, Bool.and_eq_true, decide_eq_true_eq, decide_eq_true_eq, ge_iff_le,
    UInt32.le_iff_toNat_le, UInt32.le_iff_toNat_le] at hdigit
  exact hdigit

lemma isWhitespace_of_isDigit {c : Char} (hdigit : c.isDigit = true) : isWhitespace c = false := by
  obtain ⟨hlow, hhigh⟩ := isDigit_bounds hdigit
  simp [isWhitespace]
  omega

def parseUnsigned (bound : ℕ) (text : Text) : Option ℕ :=
  let digits := match text with
    | '+' :: rest => rest
    | _ => text
  if digits = [] then none
  else if digits.all Char.isDigit = false then none
  else if Nat.ofDigitChars 10 digits 0 < bound then some (Nat.ofDigitChars 10 digits 0) else none

lemma parseUnsigned_digits {bound : ℕ} {digits : Text} (hne : digits ≠ [])
    (hdigits : ∀ digit ∈ digits, digit.isDigit = true)
    (hbound : Nat.ofDigitChars 10 digits 0 < bound) :
    parseUnsigned bound digits = some (Nat.ofDigitChars 10 digits 0) := by
  have hall : digits.all Char.isDigit = true := all_eq_true.mpr hdigits
  unfold parseUnsigned
  split
  · have := hdigits '+' mem_cons_self
    cases this
  · simp [hne, hall, hbound]

end GmStack.Foundation
