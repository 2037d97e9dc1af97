import GmStack.Crypto.Sm2Signature

/-! The DER encoder, `gm-der/src/encode.rs`. -/

namespace GmStack.Crypto

open Foundation List

def tlv (tag : UInt8) (content : Bytes) : Bytes := tag :: (derLen content.length ++ content)

def encodeOid (oid : Bytes) : Bytes := tlv 0x06 oid

def positiveContent : Bytes → Bytes
  | [] => []
  | first :: rest => if 0x80 ≤ first then 0x00 :: first :: rest else first :: rest

def derIntegerPositive (bytes : Bytes) : Bytes := tlv 0x02 (positiveContent bytes)

def derUtf8String (text : Bytes) : Bytes := tlv 0x0C text

def derSequence (contents : Bytes) : Bytes := tlv 0x30 contents

def derSequenceV (items : List Bytes) : Bytes := tlv 0x30 items.flatten

def derBitString (bits : Bytes) : Bytes := tlv 0x03 (0x00 :: bits)

def derOctetString (data : Bytes) : Bytes := tlv 0x04 data

def derBool (value : Bool) : Bytes := [0x01, 0x01, if value then 0xFF else 0x00]

def derSet (items : List Bytes) : Bytes := tlv 0x31 items.flatten

def derExplicitContext (tag : UInt8) (contents : Bytes) : Bytes := tlv (0xA0 ||| tag) contents

def skipHeader : Bytes → Bytes
  | _ :: first :: rest => if first < 0x80 then rest else rest.drop (first &&& 0x7F).toNat
  | _ => []

lemma skipHeader_long (tag : UInt8) {lead : UInt8} {octets : Bytes} (hlead : ¬ lead < 0x80)
    (hoct : octets.length = (lead &&& 0x7F).toNat) (content : Bytes) :
    skipHeader (tag :: lead :: (octets ++ content)) = content := by
  rw [skipHeader, if_neg hlead, ← hoct, drop_left]

lemma skipHeader_tlv (tag : UInt8) (content rest : Bytes) : skipHeader (tlv tag content ++ rest) =
    content ++ rest := by
  unfold tlv derLen
  split_ifs with hshort hone htwo hthree
  · have hoctet : UInt8.ofNat content.length < 0x80 := by
      rw [UInt8.lt_iff_toNat_lt, UInt8.toNat_ofNat', Nat.mod_eq_of_lt (by omega)]
      exact hshort
    have hlen : beOctets 1 content.length = [UInt8.ofNat content.length] := by
      simp [beOctets]
    rw [hlen]
    exact if_pos hoctet
  all_goals
    rw [cons_append, append_assoc, cons_append]
    exact skipHeader_long tag (by decide) (length_beOctets _ _) _

end GmStack.Crypto
