import GmStack.Http.Requests

/-! The header of a response is given by its parts (`ResponseHead`): version, status, reason and
fields, of which one may be a `Content-Length`. -/

namespace GmStack.Http

open Foundation List

def digitOctet (digit : Fin 10) : UInt8 := UInt8.ofNat (48 + digit.val)

/-- A header field: a name of visible ASCII octets without a colon, and a value in one line. -/
structure HeaderField where
  name : Bytes
  value : Bytes
  name_ne : name ≠ []
  name_visible : ∀ octet ∈ name, 0x21 ≤ octet.toNat ∧ octet.toNat ≤ 0x7E ∧ octet ≠ 58
  value_line : OneLine value

def HeaderField.line (field : HeaderField) : Bytes := field.name ++ 58 :: field.value

/-- The name is `Content-Length`, in any case. -/
def HeaderField.IsLengthName (field : HeaderField) : Prop :=
  toLowercase (field.name.map octetChar) = "content-length".toList

/-- The field is a `Content-Length` of a value. -/
structure HeaderField.IsLength (field : HeaderField) (n : ℕ) : Prop where
  name : field.IsLengthName
  value : ∃ before digits after : Bytes, field.value = before ++ digits ++ after ∧
    (∀ octet ∈ before ++ after, octet = 32 ∨ octet = 9) ∧ digits ≠ [] ∧
      (∀ octet ∈ digits, 48 ≤ octet.toNat ∧ octet.toNat ≤ 57) ∧
      Nat.ofDigitChars 10 (digits.map octetChar) 0 = n

/-- The parts of a response header. -/
structure ResponseHead where
  major : Fin 10
  minor : Fin 10
  hundreds : Fin 10
  tens : Fin 10
  ones : Fin 10
  reason : Bytes
  fields : List HeaderField
  reason_line : OneLine reason

namespace ResponseHead

variable (head : ResponseHead)

def status : ℕ := 100 * head.hundreds.val + 10 * head.tens.val + head.ones.val

def statusLine : Bytes :=
  ascii "HTTP/" ++ [digitOctet head.major, 46, digitOctet head.minor, 32, digitOctet head.hundreds,
    digitOctet head.tens, digitOctet head.ones, 32] ++ head.reason

def headLines : List Bytes := head.statusLine :: head.fields.map HeaderField.line

def bytes : Bytes := head.headLines.flatMap (· ++ [13, 10]) ++ [13, 10]

/-- The header has one `Content-Length`. -/
def HasLength (n : ℕ) : Prop :=
  ∃ before field after, head.fields = before ++ field :: after ∧ field.IsLength n ∧
    ∀ other ∈ before ++ after, ¬other.IsLengthName

end ResponseHead

variable {found : ℕ}

lemma headerEnd_eq_some {buf : Bytes} (hfound : headerEnd buf = some found) :
    4 ≤ found ∧ found ≤ buf.length := by
  induction buf generalizing found with
  | nil => cases hfound
  | cons octet rest ih =>
    rw [headerEnd] at hfound
    split_ifs at hfound with hterm
    · cases hfound
      have := congrArg length hterm
      simp only [terminator, length_take, length_cons, length_nil] at this
      simp only [length_cons]
      omega
    obtain ⟨inner, hinner, rfl⟩ := Option.map_eq_some_iff.mp hfound
    have := ih hinner
    simp only [length_cons]
    omega

lemma headerEnd_of_arrived {arrived whole : Bytes} (hfound : headerEnd whole = some found)
    (harr : arrived <+: whole) : headerEnd arrived = if found ≤
    arrived.length then some found else none := by
  obtain ⟨rest, rfl⟩ := harr
  induction arrived generalizing found with
  | nil =>
    have hbound := headerEnd_eq_some hfound
    rw [if_neg (by rw [length_nil]; omega), headerEnd]
  | cons octet tail ih =>
    by_cases hreach : 4 ≤ (octet :: tail).length
    · rw [cons_append, headerEnd, ← cons_append, take_append_of_le_length hreach] at hfound
      rw [headerEnd]
      split_ifs at hfound with hterm
      · cases hfound
        rw [if_pos hterm, if_pos hreach]
      obtain ⟨inner, hinner, rfl⟩ := Option.map_eq_some_iff.mp hfound
      rw [if_neg hterm, ih hinner, length_cons]
      by_cases hinside : inner ≤ tail.length <;> simp [hinside]
    -- too short for the end of a header
    have hbound := headerEnd_eq_some hfound
    rw [if_neg (by omega)]
    cases hinner : headerEnd (octet :: tail) with
    | none => rfl
    | some inner =>
      have := headerEnd_eq_some hinner
      omega

variable {octet : UInt8}

lemma headerEnd_cons_ne (hoctet : octet ≠ 13) (rest : Bytes) : headerEnd (octet :: rest) =
    (headerEnd rest).map (· + 1) := by
  have hnot : (octet :: rest).take 4 ≠ terminator := fun heq ↦ hoctet (cons.inj heq).1
  rw [headerEnd, if_neg hnot]

lemma headerEnd_line {line : Bytes} (hline : OneLine line) (rest : Bytes) :
    headerEnd (line ++ rest) = (headerEnd rest).map (· + line.length) := by
  induction line with
  | nil => simp
  | cons octet line ih =>
    obtain ⟨hcr, hlf⟩ := hline
    rw [mem_cons, not_or] at hcr hlf
    rw [cons_append, headerEnd_cons_ne (Ne.symm hcr.1), ih ⟨hcr.2, hlf.2⟩, Option.map_map]
    rfl

lemma headerEnd_crlf (hoctet : octet ≠ 13) (rest : Bytes) :
    headerEnd (13 :: 10 :: octet :: rest) = (headerEnd (octet :: rest)).map (· + 2) := by
  have hnot : (13 :: 10 :: octet :: rest).take 4 ≠ terminator := by
    intro heq
    exact hoctet (cons.inj (cons.inj (cons.inj heq).2).2).1
  rw [headerEnd, if_neg hnot, headerEnd_cons_ne (by decide), Option.map_map]
  rfl

lemma headerEnd_lines {lines : List Bytes} (hlines : ∀ line ∈ lines, OneLine line ∧ line ≠ [])
    (rest : Bytes) :
    headerEnd (13 :: 10 :: (lines.flatMap (· ++ [13, 10]) ++ 13 :: 10 :: rest)) =
      some ((lines.flatMap (· ++ [13, 10])).length + 4) := by
  induction lines with
  | nil => rfl
  | cons line lines ih =>
    obtain ⟨hline, hne⟩ := hlines line mem_cons_self
    obtain ⟨octet, tail, rfl⟩ := exists_cons_of_ne_nil hne
    have hoctet : octet ≠ 13 := fun heq ↦ hline.1 (heq ▸ mem_cons_self)
    have hsplit :
      13 :: 10 :: (((octet :: tail) :: lines).flatMap (· ++ [13, 10]) ++ 13 :: 10 :: rest) =
        13 :: 10 :: octet ::
        (tail ++ 13 :: 10 :: (lines.flatMap (· ++ [13, 10]) ++ 13 :: 10 :: rest)) := by
      simp
    rw [hsplit, headerEnd_crlf hoctet, ← cons_append, headerEnd_line hline,
      ih (forall_mem_cons.mp hlines).2]
    simp only [Option.map_some, flatMap_cons, length_append, length_cons, length_nil]
    congr 1
    omega

namespace ResponseHead

variable (head : ResponseHead)

lemma oneLine_statusLine : OneLine head.statusLine := by
  have hdigit (digit : Fin 10) : OneLine [digitOctet digit] := by
    revert digit
    decide
  have hvers : OneLine (ascii "HTTP/") := by decide
  refine oneLine_append (oneLine_append hvers ?_) head.reason_line
  refine oneLine_append (hdigit head.major) (oneLine_append (show OneLine [46] by decide) ?_)
  refine oneLine_append (hdigit head.minor) (oneLine_append (show OneLine [32] by decide) ?_)
  refine oneLine_append (hdigit head.hundreds) (oneLine_append (hdigit head.tens) ?_)
  exact oneLine_append (hdigit head.ones) (by decide)

end ResponseHead

variable (field : HeaderField)

lemma HeaderField.oneLine_line : OneLine field.line := by
  have hname : OneLine field.name := by
    refine ⟨fun hmem ↦ ?_, fun hmem ↦ ?_⟩
    · exact absurd (field.name_visible 13 hmem).1 (by decide)
    · exact absurd (field.name_visible 10 hmem).1 (by decide)
  exact oneLine_append hname (oneLine_append (show OneLine [58] by decide) field.value_line)

lemma HeaderField.line_ne : field.line ≠ [] := by
  simp [HeaderField.line]

lemma ResponseHead.headerEnd_bytes (head : ResponseHead) (rest : Bytes) :
    headerEnd (head.bytes ++ rest) = some head.bytes.length := by
  have hfields : ∀ line ∈ head.fields.map HeaderField.line, OneLine line ∧ line ≠ [] := by
    intro line hline
    obtain ⟨field, -, rfl⟩ := mem_map.mp hline
    exact ⟨field.oneLine_line, field.line_ne⟩
  have hsplit : head.bytes ++ rest = head.statusLine ++
      13 :: 10 :: ((head.fields.map HeaderField.line).flatMap (· ++ [13, 10]) ++
      13 :: 10 :: rest) := by
    simp [bytes, headLines]
  rw [hsplit, headerEnd_line head.oneLine_statusLine, headerEnd_lines hfields]
  simp only [Option.map_some, bytes, headLines, flatMap_cons, length_append,
    length_cons, length_nil]
  congr 1
  omega

/-! ### The start of a response -/

lemma lines_lossyText {line : Bytes} (hline : OneLine line) (rest : Bytes) :
    lines (lossyText (line ++ 13 :: 10 :: rest)) = lossyText line :: lines (lossyText rest) := by
  have hdecoded : lossyText (line ++ 13 :: 10 :: rest) = (lossyText line ++ ['\r']) ++ '\n' ::
      lossyText rest := by
    rw [lossyText_append_ascii line _ (by decide), lossyText_cons_ascii (by decide),
      lossyText_cons_ascii (by decide),
      append_assoc]
    rfl
  have hnewline : '\n' ∉ lossyText line ++ ['\r'] := by
    intro hmem
    rcases mem_append.mp hmem with hmem | hmem
    · have hten : (10 : UInt8).toNat < 0x80 := by decide
      exact hline.2 (octet_mem_of_mem_lossyText hten hmem)
    · exact absurd hmem (by decide)
  rw [hdecoded, lines_cons hnewline, stripCarriageReturn]
  simp

lemma ResponseHead.lines_bytes (head : ResponseHead) : lines (lossyText head.bytes) =
      lossyText head.statusLine :: head.fields.map (fun field ↦ lossyText field.line) ++ [[]] := by
  have hfields (fields : List HeaderField) :
      lines (lossyText ((fields.map HeaderField.line).flatMap (· ++ [13, 10]) ++ [13, 10])) =
        fields.map (fun field ↦ lossyText field.line) ++ [[]] := by
    induction fields with
    | nil => decide
    | cons field fields ih =>
      have hsplit : ((field :: fields).map HeaderField.line).flatMap (· ++ [13, 10]) ++ [13, 10] =
          field.line ++ 13 :: 10 :: ((fields.map HeaderField.line).flatMap (· ++ [13, 10]) ++
          [13, 10]) := by
        simp
      rw [hsplit, lines_lossyText field.oneLine_line, ih]
      rfl
  have hsplit : head.bytes = head.statusLine ++
      13 :: 10 :: ((head.fields.map HeaderField.line).flatMap (· ++ [13, 10]) ++ [13, 10]) := by
    simp [bytes, headLines]
  rw [hsplit, lines_lossyText head.oneLine_statusLine, hfields]
  rfl

lemma digitOctet_spec (digit : Fin 10) : digitOctet digit < 0x80 ∧
    isWhitespace (octetChar (digitOctet digit)) = false ∧
      (octetChar (digitOctet digit)).isDigit = true ∧
      (octetChar (digitOctet digit)).toNat - '0'.toNat = digit.val := by
  revert digit
  decide

lemma ResponseHead.status_statusLine (head : ResponseHead) :
    (splitWhitespace (lossyText head.statusLine))[1]? >>= parseUnsigned (2 ^ 16) =
    some head.status := by
  have hmajor := digitOctet_spec head.major
  have hminor := digitOctet_spec head.minor
  have hhundreds := digitOctet_spec head.hundreds
  have htens := digitOctet_spec head.tens
  have hones := digitOctet_spec head.ones
  let version : Text := "HTTP/".toList ++ [octetChar (digitOctet head.major), '.',
    octetChar (digitOctet head.minor)]
  let code : Text :=
    [octetChar (digitOctet head.hundreds), octetChar (digitOctet head.tens),
      octetChar (digitOctet head.ones)]
  have hname : (ascii "HTTP/").map octetChar = "HTTP/".toList := by decide
  have hascii : ∀ octet ∈ ascii "HTTP/" ++ [digitOctet head.major, 46, digitOctet head.minor, 32,
      digitOctet head.hundreds, digitOctet head.tens, digitOctet head.ones, 32], octet < 0x80 := by
    refine forall_mem_append.mpr ⟨by decide +kernel, ?_⟩
    simp [hmajor.1, hminor.1, hhundreds.1, htens.1, hones.1]
  have htext : lossyText head.statusLine = version ++ ' ' ::
      (code ++ ' ' :: lossyText head.reason) := by
    rw [statusLine, lossyText_ascii hascii, map_append, hname]
    simp only [version, code, map_cons, map_nil, append_assoc, cons_append, nil_append]
    rfl
  have hvers : ∀ c ∈ version, isWhitespace c = false := by
    refine forall_mem_append.mpr ⟨forall_mem_of_all (by decide), ?_⟩
    simp [hmajor.2.1, hminor.2.1, show isWhitespace '.' = false by decide]
  have hcode : ∀ c ∈ code, isWhitespace c = false ∧ c.isDigit = true := by
    simp only [code, forall_mem_cons, not_mem_nil, false_imp_iff, implies_true, and_true]
    exact ⟨⟨hhundreds.2.1, hhundreds.2.2.1⟩, ⟨htens.2.1, htens.2.2.1⟩, hones.2.1, hones.2.2.1⟩
  have hval : Nat.ofDigitChars 10 code 0 = head.status := by
    simp only [code, Nat.ofDigitChars_cons, Nat.ofDigitChars_nil, hhundreds, htens, hones, status]
    omega
  have hsmall : head.status < 2 ^ 16 := by
    unfold status
    omega
  have hwords : (splitWhitespace (lossyText head.statusLine))[1]? = some code := by
    rw [htext, splitWhitespace, splitOnP_append_cons_of_forall_mem hvers ' ' (by decide),
      splitOnP_append_cons_of_forall_mem (fun c hc ↦ (hcode c hc).1) ' ' (by decide)]
    rfl
  rw [hwords, ← hval]
  exact parseUnsigned_digits (by simp [code]) (fun c hc ↦ (hcode c hc).2) (hval ▸ hsmall)

lemma HeaderField.lossyText_line : lossyText field.line = field.name.map octetChar ++ ':' ::
    lossyText field.value := by
  have hascii : ∀ octet ∈ field.name, octet < 0x80 := fun octet hoctet ↦
    UInt8.lt_iff_toNat_lt.mpr (Nat.lt_of_le_of_lt (field.name_visible octet hoctet).2.1 (by decide))
  rw [line, lossyText_ascii hascii, lossyText_cons_ascii (by decide)]
  rfl

lemma HeaderField.colon_not_mem : ':' ∉ field.name.map octetChar := by
  intro hmem
  obtain ⟨octet, hoctet, heq⟩ := mem_map.mp hmem
  have hnat := congrArg Char.toNat heq
  rw [toNat_octetChar] at hnat
  exact (field.name_visible octet hoctet).2.2 (UInt8.toNat_inj.mp hnat)

lemma toLower_eq_colon {c : Char} : c.toLower = ':' ↔ c = ':' := by
  constructor
  · intro hlower
    unfold Char.toLower at hlower
    split_ifs at hlower with hupper
    · have hval := congrArg (fun c : Char ↦ c.val.toNat) hlower
      have hlow := UInt32.le_iff_toNat_le.mp hupper.1
      have hhigh := UInt32.le_iff_toNat_le.mp hupper.2
      simp at hval hlow hhigh
      omega
    · exact hlower
  · rintro rfl
    decide

lemma HeaderField.isLengthLine_iff : isLengthLine (lossyText field.line) = true ↔
    field.IsLengthName := by
  have hlower : ':' ∉ toLowercase (field.name.map octetChar) := by
    intro hmem
    obtain ⟨c, hc, hcolon⟩ := mem_map.mp hmem
    exact field.colon_not_mem (toLower_eq_colon.mp hcolon ▸ hc)
  have hsplit : toLowercase (lossyText field.line) =
      toLowercase (field.name.map octetChar) ++ ':' :: toLowercase (lossyText field.value) := by
    rw [field.lossyText_line, toLowercase, map_append]
    rfl
  have hlabel : "content-length:".toList = "content-length".toList ++ [':'] := by decide
  rw [isLengthLine, isPrefixOf_iff_prefix, hsplit, hlabel, IsLengthName]
  constructor
  · rintro ⟨rest, hrest⟩
    have hname := splitOnce_append hlower (toLowercase (lossyText field.value))
    rw [← hrest, append_assoc, singleton_append, splitOnce_append (by decide)] at hname
    exact (congrArg Prod.fst (Option.some.inj hname)).symm
  intro hname
  rw [hname]
  exact ⟨toLowercase (lossyText field.value), by simp⟩

lemma isDigit_octetChar (hdigit : 48 ≤ octet.toNat ∧ octet.toNat ≤ 57) :
    (octetChar octet).isDigit = true := by
  have hval : (octetChar octet).val.toNat = octet.toNat := toNat_octetChar octet
  rw [Char.isDigit, Bool.and_eq_true, decide_eq_true_eq, decide_eq_true_eq, ge_iff_le,
    UInt32.le_iff_toNat_le,
    UInt32.le_iff_toNat_le, hval]
  exact hdigit

lemma HeaderField.IsLength.parse {field : HeaderField} {n : ℕ} (hlen : field.IsLength n)
    (hn : n < 2 ^ 64) :
    ((lossyText field.line).splitOn ':')[1]? >>= (fun value ↦ parseUnsigned (2 ^ 64) (trim value)) =
    some n := by
  obtain ⟨before, digits, after, hval, hblank, hne, hdigits, hn'⟩ := hlen.value
  have hdigit : ∀ c ∈ digits.map octetChar, c.isDigit = true := by
    intro c hc
    obtain ⟨octet, hoctet, rfl⟩ := mem_map.mp hc
    exact isDigit_octetChar (hdigits octet hoctet)
  have hspace {octets : Bytes} (hoct : octets ⊆ before ++ after) : ∀ c ∈ octets.map octetChar,
      isWhitespace c = true := by
    intro c hc
    obtain ⟨octet, hoctet, rfl⟩ := mem_map.mp hc
    rcases hblank octet (hoct hoctet) with rfl | rfl <;> decide
  have hascii : ∀ octet ∈ before ++ digits ++ after, octet.toNat < 0x80 ∧ octet ≠ 58 := by
    intro octet hoctet
    rw [append_assoc, mem_append, mem_append] at hoctet
    rcases hoctet with hoctet | hoctet | hoctet
    · rcases hblank octet (mem_append_left _ hoctet) with rfl | rfl <;> decide
    · have := hdigits octet hoctet
      refine ⟨by omega, ?_⟩
      rintro rfl
      exact absurd this.2 (by decide)
    · rcases hblank octet (mem_append_right _ hoctet) with rfl | rfl <;> decide
  have htext : lossyText field.value = before.map octetChar ++ digits.map octetChar ++
      after.map octetChar := by
    rw [hval, ← map_append, ← map_append]
    have hoct : ∀ octet ∈ before ++ digits ++ after, octet < 0x80 := fun octet hoctet ↦
      UInt8.lt_iff_toNat_lt.mpr (hascii octet hoctet).1
    simpa [lossyText, lossyTextFrom] using lossyText_ascii hoct []
  have hcolon : ':' ∉ lossyText field.value := by
    intro hmem
    have hoctet : (58 : UInt8) ∈ field.value := octet_mem_of_mem_lossyText (by decide) hmem
    rw [hval] at hoctet
    exact (hascii 58 hoctet).2 rfl
  rw [field.lossyText_line, splitOn_append_cons_self_of_not_mem field.colon_not_mem,
    splitOn_eq_singleton hcolon]
  show parseUnsigned (2 ^ 64) (trim (lossyText field.value)) = some n
  rw [htext, trim_append (hspace (subset_append_left _ _))
    (fun c hc ↦ isWhitespace_of_isDigit (hdigit c hc))
    (by simpa using hne) (hspace (subset_append_right _ _)), ← hn']
  exact parseUnsigned_digits (by simpa using hne) hdigit (hn' ▸ hn)

lemma contentLengthOf_cons_ne {field : HeaderField} (hname : ¬field.IsLengthName)
    (rest : List Text) :
    contentLengthOf (lossyText field.line :: rest) = contentLengthOf rest := by
  rw [contentLengthOf, find?_cons_of_neg (fun hfound ↦ hname (field.isLengthLine_iff.mp hfound)),
    contentLengthOf]

lemma contentLengthOf_append {fields : List HeaderField}
    (hnames : ∀ field ∈ fields, ¬field.IsLengthName)
    (rest : List Text) :
    contentLengthOf (fields.map (fun field ↦ lossyText field.line) ++ rest) =
    contentLengthOf rest := by
  induction fields with
  | nil => rfl
  | cons field fields ih =>
    rw [map_cons, cons_append, contentLengthOf_cons_ne (hnames field mem_cons_self),
      ih (forall_mem_cons.mp hnames).2]

lemma ResponseHead.contentLengthOf_fields {head : ResponseHead} {n : ℕ} (hlen : head.HasLength n)
    (hn : n < 2 ^ 64) :
    contentLengthOf (head.fields.map (fun field ↦ lossyText field.line) ++ [[]]) = n := by
  obtain ⟨before, field, after, hfields, hfield, hothers⟩ := hlen
  rw [hfields, map_append, append_assoc,
    contentLengthOf_append fun other hother ↦ hothers other (mem_append_left _ hother), map_cons,
    cons_append, contentLengthOf, find?_cons_of_pos (field.isLengthLine_iff.mpr hfield.name)]
  show (((lossyText field.line).splitOn ':')[1]? >>=
    (fun value ↦ parseUnsigned (2 ^ 64) (trim value))).getD 0 = n
  rw [hfield.parse hn]
  rfl

lemma ResponseHead.parseResponseStart_bytes (head : ResponseHead) : parseResponseStart head.bytes =
      let length := contentLengthOf (head.fields.map (fun field ↦ lossyText field.line) ++ [[]])
      if length > maxResponseSize then
        .error (.responseParseError ("content-length " ++ toString length ++
          " exceeds maximum allowed " ++
          toString maxResponseSize))
      else .ok (head.status, length) := by
  unfold parseResponseStart
  rw [head.lines_bytes]
  simp only [cons_append, head.status_statusLine]

def onReads {α : Type} : List (Except String Bytes) → Call α →
    Option (Except HttpClientError α × List (Except String Bytes))
  | reads, .done result => some (result, reads)
  | [], .await _ _ => none
  | answer :: reads, .await (.read _) next => onReads reads (next answer)
  | _ :: _, .await _ _ => none

@[simp] lemma onReads_done {α : Type} (reads : List (Except String Bytes))
    (result : Except HttpClientError α) :
    onReads reads (.done result) = some (result, reads) := by
  cases reads <;> rfl

section Reading

variable {α : Type} {connection : ConnId} {chunk : Bytes} {chunks : List Bytes}
  {reads : List (Except String Bytes)}

section

variable {responseBuf : Bytes} (hsize : responseBuf.length < maxHeaderSize)

include hsize

lemma onReads_readHeader_cons (hchunk : chunk ≠ []) (rest : Bytes × Option ℕ → Call α) :
    onReads (.ok chunk :: reads) (readHeader connection responseBuf >>= rest) =
      match headerEnd (responseBuf ++ chunk) with
      | some found => onReads reads (rest (responseBuf ++ chunk, some found))
      | none => onReads reads (readHeader connection (responseBuf ++ chunk) >>= rest) := by
  rw [readHeader, if_pos hsize]
  show onReads reads ((if chunk = [] then _ else _) >>= rest) = _
  rw [if_neg hchunk]
  cases headerEnd (responseBuf ++ chunk) <;> rfl

lemma onReads_readHeader_eof (rest : Bytes × Option ℕ → Call α) :
    onReads (.ok [] :: reads) (readHeader connection responseBuf >>= rest) =
    onReads reads (rest (responseBuf, none)) := by
  rw [readHeader, if_pos hsize]
  rfl

end

variable {body : Bytes} {contentLength : ℕ}

lemma onReads_readBody_cons (hsize : body.length < contentLength) (hchunk : chunk ≠ [])
    (rest : Bytes → Call α) :
    onReads (.ok chunk :: reads) (readBody connection contentLength body >>= rest) = onReads reads
        (readBody connection contentLength (body ++ chunk.take (contentLength - body.length)) >>=
        rest) := by
  rw [readBody, if_pos hsize]
  show onReads reads ((if chunk = [] then _ else _) >>= rest) = _
  rw [if_neg hchunk]

lemma onReads_readBody_eof (hsize : body.length < contentLength) (rest : Bytes → Call α) :
    onReads (.ok [] :: reads) (readBody connection contentLength body >>= rest) =
    onReads reads (rest body) := by
  rw [readBody, if_pos hsize]
  rfl

lemma readBody_complete (hsize : contentLength ≤ body.length)
    (rest : Bytes → Call α) : (readBody connection contentLength body >>= rest) = rest body := by
  rw [readBody, if_neg (Nat.not_lt.mpr hsize)]
  rfl

lemma onReads_readBody_nil (hsize : body.length < contentLength)
    (rest : Bytes → Call α) : onReads [] (readBody connection contentLength body >>= rest) =
    none := by
  rw [readBody, if_pos hsize]
  rfl

lemma onReads_readHeader {whole : Bytes} (hfound : headerEnd whole = some found)
    (hsize : found ≤ maxHeaderSize) (hchunks : ∀ chunk ∈ chunks, chunk ≠ []) (responseBuf : Bytes)
    (harr : responseBuf ++ chunks.flatten <+: whole)
    (hshort : (responseBuf ++ chunks.flatten).length < found)
    (rest : Bytes × Option ℕ → Call α) :
    onReads (chunks.map .ok ++ reads) (readHeader connection responseBuf >>= rest) =
      onReads reads (readHeader connection (responseBuf ++ chunks.flatten) >>= rest) := by
  induction chunks generalizing responseBuf with
  | nil => simp
  | cons chunk chunks ih =>
    have hsplit : responseBuf ++ (chunk :: chunks).flatten = (responseBuf ++ chunk) ++
      chunks.flatten := by simp
    rw [hsplit] at harr hshort ⊢
    have hfirst : (responseBuf ++ chunk).length < found := by
      rw [length_append] at hshort
      omega
    have hnone : headerEnd (responseBuf ++ chunk) = none := by
      rw [headerEnd_of_arrived hfound ((prefix_append _ _).trans harr),
        if_neg (Nat.not_le.mpr hfirst)]
    have hbuf : responseBuf.length < maxHeaderSize := by
      rw [length_append] at hfirst
      omega
    rw [map_cons, cons_append, onReads_readHeader_cons hbuf (hchunks chunk mem_cons_self), hnone]
    exact ih (forall_mem_cons.mp hchunks).2 _ harr hshort

lemma onReads_readBody (hchunks : ∀ chunk ∈ chunks, chunk ≠ []) (body : Bytes)
    (hsize : (body ++ chunks.flatten).length ≤ contentLength) (rest : Bytes → Call α) :
    onReads (chunks.map .ok ++ reads) (readBody connection contentLength body >>= rest) =
      onReads reads (readBody connection contentLength (body ++ chunks.flatten) >>= rest) := by
  induction chunks generalizing body with
  | nil => simp
  | cons chunk chunks ih =>
    have hsplit : body ++ (chunk :: chunks).flatten = (body ++ chunk) ++ chunks.flatten := by simp
    have hne := hchunks chunk mem_cons_self
    have hpos := length_pos_of_ne_nil hne
    rw [hsplit] at hsize ⊢
    have hfirst : body.length + chunk.length ≤ contentLength := by
      rw [length_append, length_append] at hsize
      omega
    rw [map_cons, cons_append, onReads_readBody_cons (by omega) hne, take_of_length_le (by omega)]
    exact ih (forall_mem_cons.mp hchunks).2 _ hsize

lemma exists_reaching_chunk {count : ℕ} (hpos : 0 < count)
    (hcount : count ≤ chunks.flatten.length) :
    ∃ first last second, chunks = first ++ last :: second ∧ first.flatten.length < count ∧
      count ≤ (first.flatten ++ last).length := by
  induction chunks generalizing count with
  | nil =>
    rw [flatten_nil, length_nil] at hcount
    omega
  | cons chunk chunks ih =>
    by_cases hreach : count ≤ chunk.length
    · exact ⟨[], chunk, chunks, rfl, hpos, hreach⟩
    rw [flatten_cons, length_append] at hcount
    have hleft : 0 < count - chunk.length := by omega
    obtain ⟨first, last, second, rfl, hfirst, hlast⟩ := ih hleft (by omega)
    refine ⟨chunk :: first, last, second, rfl, ?_, ?_⟩
    · rw [flatten_cons, length_append]
      omega
    · rw [flatten_cons, append_assoc, length_append]
      omega

def readRest (connection : ConnId) (status contentLength : ℕ) : Call Response := do
  let body ← readBody connection contentLength []
  pure ⟨status, body⟩

lemma onReads_readResponse (head : ResponseHead) {length : ℕ}
    (hsize : head.bytes.length ≤ maxHeaderSize)
    (hlen : contentLengthOf (head.fields.map (fun field ↦ lossyText field.line) ++ [[]]) = length)
    (hmax : length ≤ maxResponseSize) {rest last : Bytes} {first : List Bytes}
    (hchunks : ∀ chunk ∈ first ++ [last], chunk ≠ [])
    (harr : first.flatten ++ last <+: head.bytes ++ rest)
    (hopen : first.flatten.length < head.bytes.length)
    (hdone : head.bytes.length ≤ (first.flatten ++ last).length) :
    onReads (first.map .ok ++ .ok last :: reads) (readResponse connection) =
      onReads reads (readRest connection head.status length) := by
  have hend := head.headerEnd_bytes rest
  have hfirst : ([] : Bytes) ++ first.flatten <+: head.bytes ++ rest :=
    (prefix_append _ _).trans harr
  have hlast : headerEnd (first.flatten ++ last) = some head.bytes.length := by
    rw [headerEnd_of_arrived hend harr, if_pos hdone]
  have htake : (first.flatten ++ last).take head.bytes.length = head.bytes := by
    rw [prefix_iff_eq_take.mp harr, take_take, min_eq_left hdone, take_left]
  unfold readResponse
  rw [onReads_readHeader hend hsize (fun chunk hchunk ↦ hchunks chunk (mem_append_left _ hchunk))
    [] hfirst hopen,
    nil_append, onReads_readHeader_cons (by omega)
      (hchunks last (mem_append_right _ mem_cons_self)), hlast]
  simp only [reduceCtorEq, false_and, if_false, htake]
  rw [head.parseResponseStart_bytes, hlen]
  simp only [Nat.not_lt.mpr hmax, gt_iff_lt, if_false, Task.check_ok_bind]
  rfl

lemma onReads_readResponse_short (head : ResponseHead) (hsize : head.bytes.length ≤ maxHeaderSize)
    {rest : Bytes}
    (hchunks : ∀ chunk ∈ chunks, chunk ≠ []) (harr : chunks.flatten <+: head.bytes ++ rest)
    (hopen : chunks.flatten.length < head.bytes.length) :
    onReads (chunks.map .ok ++ .ok [] :: reads) (readResponse connection) =
      some (.error (.responseParseError "missing header terminator"), reads) := by
  unfold readResponse
  rw [onReads_readHeader (head.headerEnd_bytes rest) hsize hchunks [] harr hopen, nil_append,
    onReads_readHeader_eof (by omega)]
  simp only [true_and, if_neg (Nat.not_le.mpr (Nat.lt_of_lt_of_le hopen hsize))]
  exact onReads_done _ _

end Reading

/-! ### Whole responses -/

/-- `read_response` returns a result on some reads. -/
def Returns (connection : ConnId) (reads : List (Except String Bytes))
    (result : Except HttpClientError Response) :
    Prop := (onReads reads (readResponse connection)).map Prod.fst = some result

/-- What is asked of reading a response that has arrived in chunks. -/
structure ReadExactly (connection : ConnId) (head : ResponseHead) (body : Bytes)
    (chunks : List Bytes) : Prop where
  whole : chunks.flatten = head.bytes ++ body → ∀ after ∈ [[], [.ok []]],
    Returns connection (chunks.map .ok ++ after) (.ok ⟨head.status, body⟩)
  cut : chunks.flatten ≠ head.bytes ++ body → ∃ error,
    Returns connection (chunks.map .ok ++ [.ok []]) (.error error)

/-- A read ends where the header ends. -/
def EndsAtHead (head : ResponseHead) (chunks : List Bytes) : Prop :=
  ∃ first second, chunks = first ++ second ∧ first.flatten = head.bytes

lemma ResponseHead.bytes_ne (head : ResponseHead) : 0 < head.bytes.length := by
  simp [bytes]

section Whole

variable {connection : ConnId} {head : ResponseHead} {body : Bytes} {first second : List Bytes}
  {last : Bytes}

lemma endsAtHead_iff (hopen : first.flatten.length < head.bytes.length)
    (hdone : head.bytes.length ≤ (first.flatten ++ last).length) :
    EndsAtHead head (first ++ last :: second) ↔ first.flatten ++ last = head.bytes := by
  constructor
  · rintro ⟨upto, later, hsplit, hupto⟩
    rcases append_eq_append_iff.mp hsplit with ⟨between, rfl, hlater⟩ | ⟨between, rfl, -⟩
    · cases between with
      | nil =>
        rw [append_nil] at hupto
        rw [hupto] at hopen
        exact absurd hopen (Nat.lt_irrefl _)
      | cons chunk between =>
        -- the reads up to there include the last one, which brings all that is missing
        obtain ⟨rfl, -⟩ := cons.inj hlater
        rw [flatten_append, flatten_cons, ← append_assoc] at hupto
        have hnothing : between.flatten = [] := by
          refine eq_nil_of_length_eq_zero ?_
          have := congrArg length hupto
          rw [length_append] at this
          omega
        rwa [hnothing, append_nil] at hupto
    · rw [flatten_append, hupto, length_append] at hopen
      omega
  · intro hhead
    exact ⟨first ++ [last], second, by simp, by simpa using hhead⟩

variable {contentLength : ℕ}

section

variable (hchunks : ∀ chunk ∈ second, chunk ≠ [])

include hchunks

lemma onReads_readRest_whole
    (hsize : second.flatten.length = contentLength) (after : List (Except String Bytes))
    (status : ℕ) :
    onReads (second.map .ok ++ after) (readRest connection status contentLength) =
      some (.ok ⟨status, second.flatten⟩, after) := by
  unfold readRest
  rw [onReads_readBody hchunks [] (by rw [nil_append, hsize]), nil_append,
    readBody_complete (Nat.le_of_eq hsize.symm)]
  exact onReads_done _ _

variable (hsize : second.flatten.length < contentLength)

include hsize

lemma onReads_readRest_open (status : ℕ) :
    onReads (second.map .ok ++ []) (readRest connection status contentLength) = none := by
  have hshort : ([] ++ second.flatten).length < contentLength := by rwa [nil_append]
  unfold readRest
  rw [onReads_readBody hchunks [] (Nat.le_of_lt hshort), onReads_readBody_nil hshort]

lemma onReads_readRest_eof (after : List (Except String Bytes)) (status : ℕ) :
    onReads (second.map .ok ++ .ok [] :: after) (readRest connection status contentLength) =
      some (.ok ⟨status, second.flatten⟩, after) := by
  have hshort : ([] ++ second.flatten).length < contentLength := by rwa [nil_append]
  unfold readRest
  rw [onReads_readBody hchunks [] (Nat.le_of_lt hshort), onReads_readBody_eof hshort]
  exact onReads_done _ _

end

lemma onReads_readRest_zero (reads : List (Except String Bytes)) (status : ℕ) :
    onReads reads (readRest connection status 0) = some (.ok ⟨status, []⟩, reads) := by
  unfold readRest
  rw [readBody_complete (Nat.zero_le _)]
  exact onReads_done _ _

end Whole

/-- A response that has arrived whole: it has no body, or a read ended where its header ends. A
response that was cut off: it was cut off within the header. -/
theorem readResponse_exact_iff (connection : ConnId) (head : ResponseHead) (n : ℕ)
    (hlength : head.HasLength n)
    (hsize : head.bytes.length < maxHeaderSize) (hn : n ≤ maxResponseSize) (body : Bytes)
    (hbody : body.length = n)
    (chunks : List Bytes) (hchunks : ∀ chunk ∈ chunks, chunk ≠ [])
    (harrived : chunks.flatten <+: head.bytes ++ body) :
    ReadExactly connection head body chunks ↔
      if chunks.flatten = head.bytes ++ body then body = [] ∨ EndsAtHead head chunks
      else chunks.flatten.length < head.bytes.length := by
  have hparsed := head.contentLengthOf_fields hlength (Nat.lt_of_le_of_lt hn (by decide))
  by_cases hreached : head.bytes.length ≤ chunks.flatten.length
  · obtain ⟨first, last, second, rfl, hopen, hdone⟩ := exists_reaching_chunk head.bytes_ne hreached
    have hfirst : ∀ chunk ∈ first ++ [last], chunk ≠ [] := fun chunk hchunk ↦ hchunks chunk (by
      simp only [mem_append, mem_cons, not_mem_nil, or_false] at hchunk ⊢
      tauto)
    have hsecond : ∀ chunk ∈ second, chunk ≠ [] := fun chunk hchunk ↦
      hchunks chunk (mem_append_right _ (mem_cons_of_mem _ hchunk))
    have hflatten : (first ++ last :: second).flatten = (first.flatten ++ last) ++
      second.flatten := by simp
    rw [hflatten] at harrived
    have hread (after : List (Except String Bytes)) :
        onReads ((first ++ last :: second).map .ok ++ after) (readResponse connection) =
          onReads (second.map .ok ++ after) (readRest connection head.status n) := by
      have hsplit : (first ++ last :: second).map .ok ++ after =
          first.map .ok ++ .ok last :: (second.map .ok ++ after) := by simp
      rw [hsplit]
      exact onReads_readResponse head (Nat.le_of_lt hsize) hparsed hn hfirst
        ((prefix_append _ _).trans harrived) hopen hdone
    by_cases hwhole : (first ++ last :: second).flatten = head.bytes ++ body
    · rw [if_pos hwhole, endsAtHead_iff hopen hdone]
      have hparts : (first.flatten ++ last) ++ second.flatten = head.bytes ++ body :=
        hflatten ▸ hwhole
      constructor
      · intro hexact
        by_contra hmissing
        rw [not_or] at hmissing
        have hextra : (first.flatten ++ last).length ≠ head.bytes.length := fun heq ↦
          hmissing.2 (append_inj_left hparts heq)
        have hpart : second.flatten.length < n := by
          have hcount := congrArg length hparts
          simp only [length_append] at hcount hextra hdone
          omega
        have hopenRead := hexact.whole hwhole [] mem_cons_self
        rw [Returns, hread, onReads_readRest_open hsecond hpart] at hopenRead
        cases hopenRead
      intro hcase
      refine ⟨fun _ after _ ↦ ?_, fun hcut ↦ absurd hwhole hcut⟩
      rw [Returns, hread]
      rcases hcase with rfl | hhead
      · rw [← hbody, length_nil, onReads_readRest_zero]
        rfl
      have hbodyRead : second.flatten = body := append_inj_right hparts (congrArg length hhead)
      rw [onReads_readRest_whole hsecond (hbodyRead ▸ hbody), hbodyRead]
      rfl
    rw [if_neg hwhole]
    refine ⟨fun hexact ↦ ?_, fun hshort ↦ absurd hreached (Nat.not_le.mpr hshort)⟩
    obtain ⟨error, herror⟩ := hexact.cut hwhole
    have hless : ((first.flatten ++ last) ++ second.flatten).length <
        (head.bytes ++ body).length := by
      refine Nat.lt_of_le_of_ne harrived.length_le fun heq ↦ hwhole ?_
      rw [hflatten]
      exact harrived.eq_of_length heq
    have hpart : second.flatten.length < n := by
      simp only [length_append] at hless hdone
      omega
    rw [Returns, hread, onReads_readRest_eof hsecond hpart] at herror
    cases herror
  have hopen := Nat.lt_of_not_le hreached
  have hcut : chunks.flatten ≠ head.bytes ++ body := by
    intro heq
    rw [heq, length_append] at hopen
    omega
  rw [if_neg hcut]
  refine ⟨fun _ ↦ hopen, fun _ ↦ ⟨fun heq ↦ absurd heq hcut, fun _ ↦ ?_⟩⟩
  refine ⟨.responseParseError "missing header terminator", ?_⟩
  rw [Returns, onReads_readResponse_short head (Nat.le_of_lt hsize) hchunks harrived hopen]
  rfl

def sampleLength : HeaderField where
  name := ascii "Content-Length"
  value := ascii " 2"
  name_ne := by decide
  name_visible := by decide +kernel
  value_line := by decide

def sampleHead : ResponseHead where
  major := 1
  minor := 1
  hundreds := 2
  tens := 0
  ones := 0
  reason := ascii "OK"
  fields := [sampleLength]
  reason_line := by decide

lemma sampleHead_hasLength : sampleHead.HasLength 2 := by
  refine ⟨[], sampleLength, [], rfl, ⟨?_, [32], [50], [], ?_, ?_, ?_, ?_, ?_⟩, fun _ hother ↦
    absurd hother (by simp)⟩
  · show toLowercase ((ascii "Content-Length").map octetChar) = "content-length".toList
    decide
  all_goals decide +kernel

/-- The header in one read and the body in the next. -/
theorem readResponse_exact_sample : ReadExactly 0 sampleHead (ascii "hi")
    [sampleHead.bytes, ascii "hi"] := by
  refine (readResponse_exact_iff 0 sampleHead 2 sampleHead_hasLength (by decide)
    (by decide) (ascii "hi")
    (by decide) [sampleHead.bytes, ascii "hi"] (by decide) (by simp)).mpr ?_
  rw [if_pos (by simp)]
  exact .inr ⟨[sampleHead.bytes], [ascii "hi"], rfl, by simp⟩

/-- Header and body in one read: the client waits for a body that it has dropped. The stream ends
after the header: the body is empty. -/
theorem readResponse_not_exact : ¬ReadExactly 0 sampleHead (ascii "hi")
    [sampleHead.bytes ++ ascii "hi"] ∧
      ¬ReadExactly 0 sampleHead (ascii "hi") [sampleHead.bytes] := by
  have hlength := sampleHead.contentLengthOf_fields sampleHead_hasLength (by decide)
  have hhead : 0 < sampleHead.bytes.length := sampleHead.bytes_ne
  have hread {last : Bytes} (hlast : last <+: sampleHead.bytes ++ ascii "hi")
      (hreached : sampleHead.bytes.length ≤ last.length) (reads : List (Except String Bytes)) :
      onReads (.ok last :: reads) (readResponse 0) =
        onReads reads (readRest 0 sampleHead.status 2) := by
    have hne : ∀ chunk ∈ [] ++ [last], chunk ≠ [] := by
      intro chunk hchunk
      rw [mem_singleton.mp hchunk]
      exact ne_nil_of_length_pos (Nat.lt_of_lt_of_le hhead hreached)
    exact onReads_readResponse sampleHead (by decide) hlength (by decide) hne hlast hhead hreached
  constructor
  · intro hexact
    have hopen := hexact.whole (by simp) [] mem_cons_self
    rw [Returns, map_cons, cons_append, hread (prefix_refl _) (by simp)] at hopen
    rw [onReads_readRest_open (by simp) (by decide)] at hopen
    cases hopen
  intro hexact
  obtain ⟨error, hcut⟩ := hexact.cut (by decide)
  rw [Returns, map_cons, cons_append, hread (prefix_append _ _) (Nat.le_refl _)] at hcut
  rw [onReads_readRest_eof (by simp) (by decide)] at hcut
  cases hcut

end GmStack.Http
