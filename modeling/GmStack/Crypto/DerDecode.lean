import GmStack.Crypto.DerEncode
import GmStack.Foundation.Wire

/-! The DER parsers of `gm-der/src/decode.rs`. -/

namespace GmStack.Crypto.DerDecode

open Foundation List

inductive DerError
  | parseError (text : String)
  deriving DecidableEq

def parseDerLength : Bytes → Except DerError (Bytes × ℕ)
  | [] => .error (.parseError "truncated length")
  | first :: rest =>
    if first < 0x80 then .ok (rest, first.toNat)
    else do
      let numBytes := (first &&& 0x7F).toNat
      rejectIf (numBytes = 0 ∨ numBytes > 4)
        (.parseError ("invalid long form length (" ++ toString numBytes ++ ")"))
      rejectIf (rest.length < numBytes) (.parseError "truncated long form length")
      .ok (rest.drop numBytes, beNat (rest.take numBytes))

def parseElement (tag : UInt8) (expected name : String) : Bytes → Except DerError (Bytes × Bytes)
  | [] => .error (.parseError "empty data")
  | first :: body => do
    rejectIf (first ≠ tag)
      (.parseError ("expected " ++ expected ++ " tag 0x" ++ hexOctet tag ++ ", got 0x" ++
      hexOctet first))
    let (remaining, length) ← parseDerLength body
    rejectIf (remaining.length < length) (.parseError ("truncated " ++ name))
    .ok (remaining.drop length, remaining.take length)

def parseDerSequence : Bytes → Except DerError (Bytes × Bytes) :=
    parseElement 0x30 "SEQUENCE" "SEQUENCE"

def parseDerExplicit (data : Bytes) (tag : UInt8) : Except DerError (Bytes × Bytes) :=
  parseElement (0xA0 ||| tag) ("context [" ++ toString tag.toNat ++ "]") "EXPLICIT" data

def parseDerOid : Bytes → Except DerError (Bytes × Bytes) := parseElement 0x06 "OID" "OID"

def parseDerOctetString : Bytes → Except DerError (Bytes × Bytes) :=
  parseElement 0x04 "OCTET STRING" "OCTET STRING"

def parseDerBitString : Bytes → Except DerError (Bytes × Bytes) :=
    parseElement 0x03 "BIT STRING" "BIT STRING"

/-- The elements with an encoder and a parser. -/
inductive Element
  | sequence
  | octetString
  | oid
  | bitString
  | explicit (tag : UInt8)
  deriving DecidableEq

namespace Element

def encode : Element → Bytes → Bytes
  | sequence => derSequence
  | octetString => derOctetString
  | oid => encodeOid
  | bitString => derBitString
  | explicit tag => derExplicitContext tag

def parse : Element → Bytes → Except DerError (Bytes × Bytes)
  | sequence => parseDerSequence
  | octetString => parseDerOctetString
  | oid => parseDerOid
  | bitString => parseDerBitString
  | explicit tag => fun data ↦ parseDerExplicit data tag

def content : Element → Bytes → Bytes
  | bitString, value => 0x00 :: value
  | _, value => value

def value : Element → Bytes → Bytes
  | bitString, content => content.drop 1
  | _, content => content

def tag : Element → UInt8
  | sequence => 0x30
  | octetString => 0x04
  | oid => 0x06
  | bitString => 0x03
  | explicit tag => 0xA0 ||| tag

variable (element : Element)

lemma encode_eq_tlv (value : Bytes) :
    element.encode value = tlv element.tag (element.content value) := by
  cases element <;> rfl

@[simp] lemma value_content (value : Bytes) : element.value (element.content value) = value := by
  cases element <;> rfl

end Element

lemma parseDerLength_eq_ok {data remaining : Bytes} {length : ℕ} :
    parseDerLength data = .ok (remaining, length) ↔
      ∃ consumed, Crypto.parseDerLength data = .ok (length, consumed) ∧
      data.drop consumed = remaining := by
  cases data with
  | nil => simp [parseDerLength, Crypto.parseDerLength]
  | cons first rest =>
    rw [parseDerLength, Crypto.parseDerLength]
    split_ifs with hshort
    · simp [and_comm, eq_comm]
    · simp only [unit_bind_eq_ok, rejectIf_eq_ok, Except.ok.injEq, Prod.mk.injEq]
      constructor
      · rintro ⟨hfour, hpresent, rfl, rfl⟩
        exact ⟨_, ⟨hfour, hpresent, rfl, rfl⟩, by rw [Nat.add_comm, drop_succ_cons]⟩
      · rintro ⟨_, ⟨hfour, hpresent, rfl, rfl⟩, rfl⟩
        exact ⟨hfour, hpresent, by rw [Nat.add_comm, drop_succ_cons], rfl⟩

variable {data rest content : Bytes}

lemma parseElement_eq_ok {tag : UInt8} {expected name : String} :
    parseElement tag expected name data = .ok (rest, content) ↔ ∃ body consumed,
    data = tag :: body ∧
      Crypto.parseDerLength body = .ok (content.length, consumed) ∧ body.drop consumed =
      content ++ rest := by
  cases data with
  | nil => simp [parseElement]
  | cons first body =>
    simp only [parseElement, unit_bind_eq_ok, rejectIf_eq_ok, not_not]
    constructor
    · rintro ⟨rfl, hbody⟩
      obtain ⟨⟨remaining, length⟩, hread, hrest⟩ := bind_eq_ok.mp hbody
      obtain ⟨consumed, hlength, hdrop⟩ := parseDerLength_eq_ok.mp hread
      obtain ⟨hguard, hsplit⟩ := unit_bind_eq_ok.mp hrest
      have hpresent : ¬ remaining.length < length := rejectIf_eq_ok.mp hguard
      cases hsplit
      have hlen : (remaining.take length).length = length := by
        rw [length_take]
        omega
      exact ⟨body, consumed, rfl, by rwa [hlen], by rw [hdrop, take_append_drop]⟩
    · rintro ⟨body, consumed, heq, hlength, hdrop⟩
      obtain ⟨rfl, rfl⟩ := cons.inj heq
      have hpresent : ¬ (content ++ rest).length < content.length := by simp
      rw [parseDerLength_eq_ok.mpr ⟨consumed, hlength, hdrop⟩, ok_bind]
      rw [rejectIf_bind hpresent, take_left, drop_left]
      exact ⟨rfl, rfl⟩

lemma Element.parse_eq_ok {element : Element} :
    element.parse data = .ok (rest, content) ↔ ∃ body consumed, data = element.tag :: body ∧
      Crypto.parseDerLength body = .ok (content.length, consumed) ∧ body.drop consumed =
      content ++ rest := by
  cases element <;> exact parseElement_eq_ok

variable {width length : ℕ}

lemma derLen_long (hpos : 0 < width) (hfour : width ≤ 4) (hlow : 256 ^ (width - 1) ≤ length)
    (hshort : 0x80 ≤ length) (hhigh : length < 256 ^ width) :
    derLen length = UInt8.ofNat (0x80 + width) :: beOctets width length := by
  unfold derLen
  interval_cases width
  all_goals
    split_ifs
    all_goals first | rfl | omega

lemma length_derLen_le (hpos : 0 < width) (hfour : width ≤ 4) (hhigh : length < 256 ^ width) :
    (derLen length).length ≤ 1 + width := by
  unfold derLen
  interval_cases width
  all_goals
    split_ifs
    all_goals first | omega | simp

/-- The length after a tag is in its shortest form: one octet below 128, and no leading zero octet
else. -/
def ShortestLength : Bytes → Prop
  | _ :: first :: lead :: _ => first < 0x80 ∨ if first = 0x81 then 0x80 ≤ lead else lead ≠ 0
  | _ => True

instance : DecidablePred ShortestLength := fun data ↦ by
  unfold ShortestLength
  split <;> infer_instance

lemma long_eq_derLen_iff {lead : UInt8} {others : Bytes} (hfour : others.length + 1 ≤ 4) :
    UInt8.ofNat (0x80 + (others.length + 1)) :: lead :: others = derLen (beNat (lead :: others)) ↔
      if others = [] then 0x80 ≤ lead else lead ≠ 0 := by
  have hvalue := beNat_cons lead others
  have hothers := beNat_lt others
  constructor
  · intro hwritten
    have hlen := congrArg length hwritten
    rw [length_cons, length_cons] at hlen
    split_ifs with hnil
    · subst hnil
      by_contra hsmall
      have hlt : lead.toNat < 0x80 := UInt8.not_le.mp hsmall
      rw [beNat_singleton, derLen, if_pos hlt, length_beOctets] at hlen
      simp at hlen
    · rintro rfl
      have hle := length_derLen_le (length_pos_iff.mpr hnil) (by omega) hothers
      rw [hvalue, UInt8.toNat_zero, Nat.zero_mul, Nat.zero_add] at hlen
      omega
  · intro hshortest
    have hbounds : 256 ^ others.length ≤ beNat (lead :: others) ∧
        0x80 ≤ beNat (lead :: others) := by
      rw [hvalue]
      split_ifs at hshortest with hnil
      · have hle : 0x80 ≤ lead.toNat := hshortest
        subst hnil
        simp only [length_nil, pow_zero, Nat.mul_one, beNat_nil]
        omega
      · have hone : 1 ≤ lead.toNat := Nat.pos_of_ne_zero fun hzero ↦
          hshortest (UInt8.toNat_inj.mp hzero)
        have hpow : 256 ^ 1 ≤ 256 ^ others.length := Nat.pow_le_pow_right (by decide)
          (length_pos_iff.mpr hnil)
        have hmul := Nat.mul_le_mul_right (256 ^ others.length) hone
        omega
    rw [derLen_long (Nat.succ_pos _) hfour hbounds.1 hbounds.2 (beNat_lt (lead :: others))]
    exact congrArg _ (beOctets_beNat (lead :: others)).symm

lemma take_eq_derLen_iff {data : Bytes} {length consumed : ℕ}
    (hread : Crypto.parseDerLength data = .ok (length, consumed)) (tag : UInt8) :
    data.take consumed = derLen length ↔ ShortestLength (tag :: data) := by
  cases data with
  | nil => cases hread
  | cons first rest =>
    rw [Crypto.parseDerLength] at hread
    split_ifs at hread with hshort
    · cases hread
      have hlt : first.toNat < 0x80 := hshort
      refine iff_of_true (by simp [derLen, hlt, beOctets]) ?_
      cases rest with
      | nil => trivial
      | cons lead rest => exact .inl hshort
    · have hlong : 0x80 ≤ first.toNat := UInt8.not_lt.mp hshort
      simp only [unit_bind_eq_ok, rejectIf_eq_ok, Except.ok.injEq, Prod.mk.injEq,
        toNat_and_low (UInt8.not_lt.mp hshort)] at hread
      obtain ⟨hfour, hpresent, rfl, rfl⟩ := hread
      obtain ⟨width, hwidth⟩ : ∃ width, first.toNat - 0x80 = width + 1 :=
        ⟨first.toNat - 0x80 - 1, by omega⟩
      rw [hwidth] at hfour hpresent ⊢
      obtain ⟨lead, others, rfl⟩ := exists_cons_of_length_pos (show 0 < rest.length by omega)
      rw [length_cons] at hpresent
      have hfirst : first = UInt8.ofNat (0x80 + (width + 1)) := by
        rw [← hwidth, Nat.add_sub_cancel' hlong, UInt8.ofNat_toNat]
      have hlen : (others.take width).length = width := by
        rw [length_take]
        omega
      have hone : first = 0x81 ↔ others.take width = [] := by
        rw [← length_eq_zero_iff, hlen, hfirst]
        have hsmall : width < 4 := by omega
        interval_cases width <;> decide
      have hiff := @long_eq_derLen_iff lead (others.take width) (by omega)
      rw [hlen, ← hfirst] at hiff
      show _ ↔ first < 0x80 ∨ if first = 0x81 then 0x80 ≤ lead else lead ≠ 0
      simp only [or_iff_right hshort, hone, ← hiff, Nat.add_comm 1, take_succ_cons]

def encodeNested : List (Element × Bytes) → Bytes → Bytes
  | [], value => value
  | (element, after) :: inside, value => element.encode (encodeNested inside value) ++ after

def parseNested : List Element → Bytes → Except DerError (List Bytes × Bytes)
  | [], data => .ok ([], data)
  | element :: inside, data => do
    let (after, content) ← element.parse data
    let (afters, value) ← parseNested inside (element.value content)
    .ok (after :: afters, value)

lemma parse_encode (element : Element) {value : Bytes}
    (hlen : (element.content value).length < 2 ^ 32) (rest : Bytes) :
    element.parse (element.encode value ++ rest) = .ok (rest, element.content value) := by
  refine Element.parse_eq_ok.mpr ⟨_, _, ?_,
    parseDerLength_derLen hlen (element.content value ++ rest), drop_left⟩
  rw [Element.encode_eq_tlv, tlv, cons_append, append_assoc]

lemma length_content_lt (element outer : Element) (value after : Bytes) :
    (element.content value).length < (outer.content (element.encode value ++ after)).length := by
  have houter (data : Bytes) : data.length ≤ (outer.content data).length := by
    cases outer <;> simp [Element.content]
  refine lt_of_lt_of_le ?_ (houter _)
  rw [Element.encode_eq_tlv, tlv, length_append, length_cons, length_append]
  omega

/-- What an encoder writes is read back by its parser, whatever follows, and so is any nest of
encoders. -/
theorem parse_encode_nested :
    (∀ (element : Element) (value rest : Bytes), (element.content value).length < 2 ^ 32 →
      element.parse (element.encode value ++ rest) = .ok (rest, element.content value)) ∧
      ∀ (element : Element) (after : Bytes) (inside : List (Element × Bytes)) (value : Bytes),
        (element.content (encodeNested inside value)).length < 2 ^ 32 →
          parseNested (element :: inside.map Prod.fst)
          (encodeNested ((element, after) :: inside) value) =
            .ok (after :: inside.map Prod.snd, value) := by
  refine ⟨fun element value rest hlen ↦ parse_encode element hlen rest,
    fun element after inside value hlen ↦ ?_⟩
  induction inside generalizing element after with
  | nil =>
    rw [encodeNested, parseNested, parse_encode element hlen, ok_bind]
    simp [parseNested, encodeNested]
  | cons first inside ih =>
    obtain ⟨inner, next⟩ := first
    have hinner := ih inner next ((length_content_lt inner element _ next).trans hlen)
    rw [encodeNested, parseNested, parse_encode element hlen, ok_bind]
    simp only [Element.value_content, map_cons, hinner, ok_bind]

/-- A key in a bit string in a sequence, between other octets. -/
theorem bitString_in_sequence_parsed :
    parseNested [.sequence, .bitString]
    (encodeNested [(.sequence, [0x05]), (.bitString, [0x00])] [0xAB]) =
      .ok ([[0x05], [0x00]], [0xAB]) :=
  parse_encode_nested.2 .sequence [0x05] [(.bitString, [0x00])] [0xAB] (by decide)

/-- The parser of a bit string does not return the value alone. -/
theorem bitString_parsed_with_unused : parseDerBitString (derBitString [0xAB] ++ []) =
    .ok ([], [0x00, 0xAB]) := by
  decide

/-- What a parser accepts is what its encoder writes exactly if the length octets are the shortest,
and a bit string has no unused bits. -/
theorem parse_canonical_iff {element : Element} {data rest content : Bytes}
    (hparse : element.parse data = .ok (rest, content)) :
    (data = element.encode (element.value content) ++ rest ↔
      ShortestLength data ∧ (element = .bitString → content.head? = some 0x00)) ∧
      ∀ other, element.parse other = .ok (rest, content) → ShortestLength data →
      ShortestLength other → other = data := by
  obtain ⟨body, consumed, rfl, hread, hdrop⟩ := Element.parse_eq_ok.mp hparse
  have hshortest := take_eq_derLen_iff hread element.tag
  refine ⟨?_, fun other hother hdata hshort ↦ ?_⟩
  · have hcontent : element.content (element.value content) = content ↔
        (element = .bitString → content.head? = some 0x00) := by
      cases element with
      | bitString =>
        cases content with
        | nil => simp [Element.content]
        | cons unused value => simp [Element.content, Element.value, eq_comm]
      | _ => simp [Element.content, Element.value]
    have hlen : (element.content (element.value content)).length < 2 ^ 32 := by
      have hlt := parseDerLength_lt hread
      cases element with
      | bitString =>
        rw [Element.content, Element.value, length_cons, length_drop]
        omega
      | _ => exact hlt
    rw [← hshortest, ← hcontent]
    constructor
    · intro hwritten
      -- The parser has one result only, so the content is the one the encoder wrote.
      have hsame : element.content (element.value content) = content := by
        have hback := parse_encode element hlen rest
        rw [← hwritten, hparse] at hback
        exact (Prod.mk.inj (Except.ok.inj hback)).2.symm
      refine ⟨?_, hsame⟩
      rw [Element.encode_eq_tlv, hsame, tlv, cons_append, cons.injEq, append_assoc] at hwritten
      rw [hwritten.2, parseDerLength_derLen (parseDerLength_lt hread)] at hread
      cases hread
      rw [hwritten.2, take_left]
    · rintro ⟨htake, hvalue⟩
      rw [Element.encode_eq_tlv, hvalue, tlv, ← htake, cons_append, append_assoc, ← hdrop,
        take_append_drop]
  · obtain ⟨otherBody, otherConsumed, rfl, hotherRead, hotherDrop⟩ := Element.parse_eq_ok.mp hother
    rw [← take_append_drop otherConsumed otherBody, ← take_append_drop consumed body,
      hdrop, hotherDrop,
      hshortest.mpr hdata, (take_eq_derLen_iff hotherRead element.tag).mpr hshort]

theorem boolean_sequence_canonical : parseDerSequence [0x30, 3, 1, 1, 0xFF, 7] =
    .ok ([7], [1, 1, 0xFF]) ∧
    [0x30, 3, 1, 1, 0xFF, 7] = derSequence [1, 1, 0xFF] ++ [7] :=
  ⟨by decide, (@parse_canonical_iff .sequence [0x30, 3, 1, 1, 0xFF, 7] [7] [1, 1, 0xFF]
    (by decide)).1.mpr (by decide)⟩

/-- The empty sequence is also accepted with its length in the long form. -/
theorem long_form_accepted : parseDerSequence [0x30, 0x81, 0x00] = .ok ([], []) ∧
    [0x30, 0x81, 0x00] ≠ derSequence [] ++ [] ∧ parseDerSequence [0x30, 0x00] = .ok ([], []) := by
  decide

end GmStack.Crypto.DerDecode
