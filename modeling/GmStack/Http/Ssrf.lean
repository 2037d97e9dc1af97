import GmStack.Http.Client

/-! The source tests octets and segments; `blocked_not_skipped_iff` compares the tests with the
networks meant (`blockedV4`, `blockedV6`). -/

namespace GmStack.Http

open Foundation List Task Ipv6Addr

def Ipv4Addr.value (address : Ipv4Addr) : ℕ :=
  ((address.octet0.toNat * 256 + address.octet1.toNat) * 256 + address.octet2.toNat) *
    256 + address.octet3.toNat

def Ipv6Addr.value (address : Ipv6Addr) : ℕ :=
  ((((((address.segment0.toNat * 65536 + address.segment1.toNat) * 65536 + address.segment2.toNat) *
    65536 +
    address.segment3.toNat) * 65536 + address.segment4.toNat) * 65536 + address.segment5.toNat) *
      65536 +
      address.segment6.toNat) * 65536 + address.segment7.toNat

/-- The address agrees with that of a network in the first `length` bits. -/
def Ipv4Addr.InNetwork (address : Ipv4Addr) (network : Ipv4Addr × ℕ) : Prop :=
  address.value / 2 ^ (32 - network.2) = network.1.value / 2 ^ (32 - network.2)

instance (address : Ipv4Addr) (network : Ipv4Addr × ℕ) : Decidable (address.InNetwork network) :=
  inferInstanceAs (Decidable (_ = _))

/-- The address agrees with that of a network in the first `length` bits. -/
def Ipv6Addr.InNetwork (address : Ipv6Addr) (network : Ipv6Addr × ℕ) : Prop :=
  address.value / 2 ^ (128 - network.2) = network.1.value / 2 ^ (128 - network.2)

instance (address : Ipv6Addr) (network : Ipv6Addr × ℕ) : Decidable (address.InNetwork network) :=
  inferInstanceAs (Decidable (_ = _))

def blockedV4 : List (Ipv4Addr × ℕ) :=
  [(⟨0, 0, 0, 0⟩, 32), (⟨127, 0, 0, 0⟩, 8), (⟨10, 0, 0, 0⟩, 8), (⟨172, 16, 0, 0⟩, 12),
    (⟨192, 168, 0, 0⟩, 16),
    (⟨169, 254, 0, 0⟩, 16), (⟨100, 64, 0, 0⟩, 10), (⟨198, 18, 0, 0⟩, 15)]

def blockedV6 : List (Ipv6Addr × ℕ) :=
  [(⟨0, 0, 0, 0, 0, 0, 0, 0⟩, 128), (⟨0, 0, 0, 0, 0, 0, 0, 1⟩, 128),
    (⟨0xfc00, 0, 0, 0, 0, 0, 0, 0⟩, 7),
    (⟨0xfe80, 0, 0, 0, 0, 0, 0, 0⟩, 10)]

def Ipv4Addr.mapped (address : Ipv4Addr) : Ipv6Addr :=
  ⟨0, 0, 0, 0, 0, 0xffff, address.octet0.toUInt16 * 256 + address.octet1.toUInt16,
    address.octet2.toUInt16 * 256 + address.octet3.toUInt16⟩

/-- In one of some networks of version 4, or the mapped form of such an address, or in one of some
networks of version 6. -/
def IpAddr.InNetworks (v4 : List (Ipv4Addr × ℕ)) (v6 : List (Ipv6Addr × ℕ)) : IpAddr → Prop
  | .v4 address => ∃ network ∈ v4, address.InNetwork network
  | .v6 address =>
    (∃ network ∈ v6, address.InNetwork network) ∨
      ∃ inner : Ipv4Addr, address = inner.mapped ∧ ∃ network ∈ v4, inner.InNetwork network

/-- The address is one that no client is to connect to. -/
def IpAddr.Blocked : IpAddr → Prop := IpAddr.InNetworks blockedV4 blockedV6

def skippedV4 : List (Ipv4Addr × ℕ) :=
  [(⟨127, 0, 0, 0⟩, 8), (⟨10, 0, 0, 0⟩, 8), (⟨172, 16, 0, 0⟩, 12), (⟨192, 168, 0, 0⟩, 16),
    (⟨169, 254, 0, 0⟩, 16)]

def skippedV6 : List (Ipv6Addr × ℕ) :=
  [(⟨0, 0, 0, 0, 0, 0, 0, 1⟩, 128), (⟨0xfc00, 0, 0, 0, 0, 0, 0, 0⟩, 7),
    (⟨0xfe80, 0, 0, 0, 0, 0, 0, 0⟩, 10)]

def overlookedV4 : List (Ipv4Addr × ℕ) :=
  [(⟨0, 0, 0, 0⟩, 32), (⟨100, 64, 0, 0⟩, 10), (⟨198, 18, 0, 0⟩, 15)]

def overlookedV6 : List (Ipv6Addr × ℕ) := [(⟨0, 0, 0, 0, 0, 0, 0, 0⟩, 128)]

/-- The address is blocked, and the source does not test for it. -/
def IpAddr.Overlooked : IpAddr → Prop := IpAddr.InNetworks overlookedV4 overlookedV6

/-! ### The tests on octets and segments -/

variable (segment : UInt16)

lemma toNat_and_mask (mask : UInt16) (low : ℕ) (hlow : low ≤ 16)
    (hmask : mask.toNat = (2 ^ (16 - low) - 1) * 2 ^ low) :
    (segment &&& mask).toNat = segment.toNat / 2 ^ low * 2 ^ low := by
  have hwidth : segment.toNat / 2 ^ low < 2 ^ (16 - low) := by
    rw [Nat.div_lt_iff_lt_mul (Nat.two_pow_pos low), ← pow_add, Nat.sub_add_cancel hlow]
    exact segment.toNat_lt
  have hhigh : (segment.toNat &&& mask.toNat) / 2 ^ low = segment.toNat / 2 ^ low := by
    rw [Nat.and_div_two_pow, hmask, Nat.mul_div_cancel _ (Nat.two_pow_pos low),
      Nat.and_two_pow_sub_one_eq_mod,
      Nat.mod_eq_of_lt hwidth]
  have hcleared : (segment.toNat &&& mask.toNat) % 2 ^ low = 0 := by
    rw [Nat.and_mod_two_pow, hmask, Nat.mul_mod_left, Nat.and_zero]
  rw [UInt16.toNat_and, ← hhigh, Nat.div_mul_cancel (Nat.dvd_of_mod_eq_zero hcleared)]

lemma toNat_high_octet : (segment >>> 8).toUInt8.toNat = segment.toNat / 256 := by
  have hlt := segment.toNat_lt
  have hshift : (segment >>> 8).toNat = segment.toNat / 256 := by
    simp [UInt16.toNat_shiftRight, Nat.shiftRight_eq_div_pow]
  rw [UInt16.toNat_toUInt8, hshift]
  omega

lemma toNat_low_octet : (segment &&& 0xff).toUInt8.toNat = segment.toNat % 256 := by
  rw [UInt16.toNat_toUInt8, UInt16.toNat_and, show (0xff : UInt16).toNat = 2 ^ 8 - 1 from rfl,
    Nat.and_two_pow_sub_one_eq_mod]
  omega

lemma uniqueLocal_iff : segment &&& 0xfe00 = 0xfc00 ↔ segment.toNat / 512 = 0xfc00 / 512 := by
  have hmask := toNat_and_mask segment 0xfe00 9 (by decide) rfl
  rw [← UInt16.toNat_inj, hmask]
  simp only [UInt16.reduceToNat]
  omega

lemma linkLocal_iff : segment &&& 0xffc0 = 0xfe80 ↔ segment.toNat / 64 = 0xfe80 / 64 := by
  have hmask := toNat_and_mask segment 0xffc0 6 (by decide) rfl
  rw [← UInt16.toNat_inj, hmask]
  simp only [UInt16.reduceToNat]
  omega

def Ipv6Addr.inner (address : Ipv6Addr) : Ipv4Addr :=
  ⟨(address.segment6 >>> 8).toUInt8, (address.segment6 &&& 0xff).toUInt8,
    (address.segment7 >>> 8).toUInt8,
    (address.segment7 &&& 0xff).toUInt8⟩

lemma segment_of_octets (high low : UInt8) :
    ((high.toUInt16 * 256 + low.toUInt16) >>> 8).toUInt8 = high ∧
      ((high.toUInt16 * 256 + low.toUInt16) &&& 0xff).toUInt8 = low := by
  have hhigh := high.toNat_lt
  have hlow := low.toNat_lt
  have hval : (high.toUInt16 * 256 + low.toUInt16).toNat = high.toNat * 256 + low.toNat := by
    simp
    omega
  simp only [← UInt8.toNat_inj, toNat_high_octet, toNat_low_octet, hval]
  omega

lemma octets_of_segment :
    (segment >>> 8).toUInt8.toUInt16 * 256 + (segment &&& 0xff).toUInt8.toUInt16 = segment := by
  have hlt := segment.toNat_lt
  rw [← UInt16.toNat_inj, UInt16.toNat_add, UInt16.toNat_mul, UInt8.toNat_toUInt16,
    UInt8.toNat_toUInt16,
    toNat_high_octet, toNat_low_octet]
  simp only [UInt16.reduceToNat]
  omega

variable {address : Ipv6Addr}

lemma exists_mapped_iff {property : Ipv4Addr → Prop} :
    (∃ inner : Ipv4Addr, address = inner.mapped ∧ property inner) ↔
      address.isMapped = true ∧ property address.inner := by
  constructor
  · rintro ⟨⟨o0, o1, o2, o3⟩, rfl, hinner⟩
    refine ⟨by rfl, ?_⟩
    simpa only [Ipv6Addr.inner, Ipv4Addr.mapped, segment_of_octets] using hinner
  rintro ⟨hmapped, hinner⟩
  refine ⟨address.inner, ?_, hinner⟩
  obtain ⟨s0, s1, s2, s3, s4, s5, s6, s7⟩ := address
  simp only [isMapped, Bool.and_eq_true, beq_iff_eq] at hmapped
  obtain ⟨⟨⟨⟨⟨rfl, rfl⟩, rfl⟩, rfl⟩, rfl⟩, rfl⟩ := hmapped
  simp only [Ipv6Addr.inner, Ipv4Addr.mapped, octets_of_segment]

lemma isSkipped_v4 (address : Ipv4Addr) (port : ℕ) :
    isSkipped ⟨.v4 address, port⟩ = true ↔ ∃ network ∈ skippedV4, address.InNetwork network := by
  obtain ⟨o0, o1, o2, o3⟩ := address
  have h1 := o1.toNat_lt
  have h2 := o2.toNat_lt
  have h3 := o3.toNat_lt
  simp [isSkipped, isLoopbackOrMappedLoopback, isPrivateIp, isLinkLocalIp, Ipv4Addr.isLoopback,
    skippedV4,
    Ipv4Addr.isLinkLocal, Ipv4Addr.InNetwork, Ipv4Addr.value, ← UInt8.toNat_inj,
      UInt8.le_iff_toNat_le]
  omega

section

variable (address : Ipv6Addr)

lemma isLoopback_v6 : address.isLoopback = true ↔
    address.InNetwork (⟨0, 0, 0, 0, 0, 0, 0, 1⟩, 128) := by
  obtain ⟨s0, s1, s2, s3, s4, s5, s6, s7⟩ := address
  simp [isLoopback, Ipv6Addr.InNetwork, value, ← UInt16.toNat_inj]
  omega

lemma inNetwork_short (first : UInt16) {length : ℕ} (hlen : length ≤ 16) :
    address.InNetwork (⟨first, 0, 0, 0, 0, 0, 0, 0⟩, length) ↔
      address.segment0.toNat / 2 ^ (16 - length) = first.toNat / 2 ^ (16 - length) := by
  obtain ⟨s0, s1, s2, s3, s4, s5, s6, s7⟩ := address
  have h1 := s1.toNat_lt
  have h2 := s2.toNat_lt
  have h3 := s3.toNat_lt
  have h4 := s4.toNat_lt
  have h5 := s5.toNat_lt
  have h6 := s6.toNat_lt
  have h7 := s7.toNat_lt
  have hfirst : (⟨s0, s1, s2, s3, s4, s5, s6, s7⟩ : Ipv6Addr).value / 2 ^ 112 = s0.toNat := by
    simp only [value]
    omega
  have hnet : (⟨first, 0, 0, 0, 0, 0, 0, 0⟩ : Ipv6Addr).value / 2 ^ 112 = first.toNat := by
    simp only [value, UInt16.toNat_zero]
    omega
  unfold Ipv6Addr.InNetwork
  rw [show 128 - length = 112 + (16 - length) by omega, pow_add, ← Nat.div_div_eq_div_mul,
    ← Nat.div_div_eq_div_mul, hfirst, hnet]

lemma isSkipped_v6 (port : ℕ) : isSkipped ⟨.v6 address, port⟩ = true ↔
    (∃ network ∈ skippedV6, address.InNetwork network) ∨
        address.isMapped = true ∧ isSkipped ⟨.v4 address.inner, port⟩ = true := by
  have hunique := inNetwork_short address 0xfc00 (show 7 ≤ 16 by decide)
  have hlocal := inNetwork_short address 0xfe80 (show 10 ≤ 16 by decide)
  simp only [isSkipped, isLoopbackOrMappedLoopback, isPrivateIp, isLinkLocalIp, Ipv4Addr.isLoopback,
    skippedV6,
    Ipv4Addr.isLinkLocal, Ipv6Addr.inner, mem_cons, not_mem_nil, or_false, exists_eq_or_imp,
    exists_eq_left, ← isLoopback_v6, hunique, hlocal, Bool.or_eq_true, Bool.and_eq_true, beq_iff_eq,
    decide_eq_true_eq, uniqueLocal_iff, linkLocal_iff]
  by_cases hloopback : address.isLoopback = true
  · simp [hloopback]
  by_cases hmapped : address.isMapped = true
  · simp only [hloopback, hmapped, if_true, true_and, Bool.false_eq_true, if_false]
    grind
  · simp only [hloopback, hmapped]
    grind

end

lemma isSkipped_iff (addr : SocketAddr) : isSkipped addr = true ↔
    addr.ip.InNetworks skippedV4 skippedV6 := by
  obtain ⟨ip, port⟩ := addr
  cases ip with
  | v4 address => exact isSkipped_v4 address port
  | v6 address =>
    rw [isSkipped_v6, isSkipped_v4, IpAddr.InNetworks, exists_mapped_iff]

lemma blocked_iff (ip : IpAddr) : ip.Blocked ↔ ip.Overlooked ∨
    ip.InNetworks skippedV4 skippedV6 := by
  have hv4 (network : Ipv4Addr × ℕ) : network ∈ blockedV4 ↔ network ∈ overlookedV4 ∨
      network ∈ skippedV4 := by
    rw [← mem_append]
    exact (show blockedV4.Perm (overlookedV4 ++ skippedV4) by decide).mem_iff
  have hv6 (network : Ipv6Addr × ℕ) : network ∈ blockedV6 ↔ network ∈ overlookedV6 ∨
      network ∈ skippedV6 := by
    rw [← mem_append]
    exact (show blockedV6.Perm (overlookedV6 ++ skippedV6) by decide).mem_iff
  unfold IpAddr.Blocked IpAddr.Overlooked
  cases ip with
  | v4 address => simp only [IpAddr.InNetworks, hv4, or_and_right, exists_or]
  | v6 address =>
    simp only [IpAddr.InNetworks, hv4, hv6, or_and_right, and_or_left, exists_or]
    exact or_or_or_comm

lemma overlooked_disjoint_v4 {address : Ipv4Addr} (hoverlooked : ∃ network ∈ overlookedV4,
    address.InNetwork network) :
    ¬∃ network ∈ skippedV4, address.InNetwork network := by
  obtain ⟨o0, o1, o2, o3⟩ := address
  simp [overlookedV4, skippedV4, Ipv4Addr.InNetwork, Ipv4Addr.value] at hoverlooked ⊢
  omega

lemma eq_unspecified (hnet : address.InNetwork (⟨0, 0, 0, 0, 0, 0, 0, 0⟩, 128)) :
    address = ⟨0, 0, 0, 0, 0, 0, 0, 0⟩ := by
  obtain ⟨s0, s1, s2, s3, s4, s5, s6, s7⟩ := address
  simp [Ipv6Addr.InNetwork, value, ← UInt16.toNat_inj] at hnet ⊢
  exact ⟨hnet.1.1.1.1.1.1.1, hnet.1.1.1.1.1.1.2, hnet.1.1.1.1.1.2, hnet.1.1.1.1.2,
    hnet.1.1.1.2, hnet.1.1.2, hnet.1.2, hnet.2⟩

lemma isMapped_disjoint (hmapped : address.isMapped = true) : ¬∃ network ∈ skippedV6,
    address.InNetwork network := by
  have hunique := inNetwork_short address 0xfc00 (show 7 ≤ 16 by decide)
  have hlocal := inNetwork_short address 0xfe80 (show 10 ≤ 16 by decide)
  simp only [skippedV6, mem_cons, not_mem_nil, or_false, exists_eq_or_imp, exists_eq_left, hunique,
    hlocal, ← isLoopback_v6]
  obtain ⟨s0, s1, s2, s3, s4, s5, s6, s7⟩ := address
  simp only [isMapped, Bool.and_eq_true, beq_iff_eq] at hmapped
  obtain ⟨⟨⟨⟨⟨rfl, rfl⟩, rfl⟩, rfl⟩, rfl⟩, rfl⟩ := hmapped
  simp [isLoopback]

lemma blocked_not_skipped_iff (addr : SocketAddr) : addr.ip.Blocked ∧ isSkipped addr = false ↔
    addr.ip.Overlooked := by
  rw [← Bool.not_eq_true, isSkipped_iff, blocked_iff]
  constructor
  · rintro ⟨hoverlooked | hskipped, hnot⟩
    · exact hoverlooked
    · exact absurd hskipped hnot
  intro hoverlooked
  refine ⟨.inl hoverlooked, ?_⟩
  obtain ⟨ip, port⟩ := addr
  cases ip with
  | v4 address => exact overlooked_disjoint_v4 hoverlooked
  | v6 address =>
    rw [IpAddr.InNetworks, exists_mapped_iff]
    rw [IpAddr.Overlooked, IpAddr.InNetworks, exists_mapped_iff] at hoverlooked
    rcases hoverlooked with ⟨network, hnet, hin⟩ | ⟨hmapped, hinner⟩
    · rw [mem_singleton.mp hnet] at hin
      rw [eq_unspecified hin]
      rintro (hskipped | ⟨hmapped, -⟩)
      · have hnone := (isSkipped_v6 ⟨0, 0, 0, 0, 0, 0, 0, 0⟩ 0).mpr (.inl hskipped)
        revert hnone
        decide
      · revert hmapped
        decide
    rintro (hskipped | ⟨-, hskipped⟩)
    · exact isMapped_disjoint hmapped hskipped
    · exact overlooked_disjoint_v4 hinner hskipped

/-! ### Calls -/

def dialled (exchanges : List (Task.Exchange NetOp NetAnswer)) : List SocketAddr :=
  exchanges.filterMap fun exchange ↦
    match exchange.op with
    | .connectTcp addr => some addr
    | _ => none

/-- The resolver gives the answer. -/
def ResolvesTo (answer : Except String (List SocketAddr)) : (op : NetOp) → NetAnswer op → Prop
  | .lookupHost _, found => found = answer
  | _, _ => True

/-- Whatever else the network does, the call opens no connection to a blocked address when the
resolver gives the answer. -/
def IsProtected (client : Client) (request : Request) (answer : Except String (List SocketAddr)) :
    Prop :=
  ∀ exchanges left, Task.Path (client.call request) exchanges left →
    (∀ exchange ∈ exchanges, ResolvesTo answer exchange.op exchange.answer) →
    ∀ addr ∈ dialled exchanges, ¬addr.ip.Blocked

lemma mem_dialled {exchanges : List (Task.Exchange NetOp NetAnswer)} {addr : SocketAddr} :
    addr ∈ dialled exchanges ↔ ∃ exchange ∈ exchanges, exchange.op = .connectTcp addr := by
  rw [dialled, mem_filterMap]
  refine exists_congr fun exchange ↦ and_congr_right fun _ ↦ ?_
  cases exchange.op <;> simp

def Client.candidates : Client → List SocketAddr → List SocketAddr
  | .gmHttpClient, addrs => (addrs.find? fun addr ↦ !isSkipped addr).toList
  | .pooledHttpClient, addrs => addrs

/-- The operation opens no connection, or opens one to a candidate. -/
def DialsCandidate (client : Client) (answer : Except String (List SocketAddr))
    (op : NetOp) : Prop :=
  ∀ addr, op = .connectTcp addr → ∃ addrs, answer = .ok addrs ∧ addr ∈ client.candidates addrs

section Dialling

variable {client : Client} {answer : Except String (List SocketAddr)} {op : NetOp}

lemma dialsCandidate_of_ne (hop : ∀ addr, op ≠ .connectTcp addr) :
    DialsCandidate client answer op :=
  fun addr haddr ↦ absurd haddr (hop addr)

variable (client answer) in
/-- The call connects to candidates only. -/
abbrev DialsCandidates {α : Type} (post : α → Prop) (call : Call α) : Prop :=
  call.Obeys (DialsCandidate client answer) (ResolvesTo answer) post

variable (connection : ConnId)

lemma dials_readResponse : DialsCandidates client answer (fun _ ↦ True)
    (readResponse connection) := by
  refine (obeys_readResponse connection).mono (fun op hop ↦ dialsCandidate_of_ne ?_) fun _ _ ↦
    trivial
  rintro addr rfl
  cases hop

lemma dials_writeAll (data : Bytes) : DialsCandidates client answer (fun _ ↦ True)
    (writeAll connection data) :=
  .bind (.ask (dialsCandidate_of_ne fun _ h ↦ by cases h) fun _ _ ↦ trivial) fun _ _ ↦
    .check fun _ _ ↦ trivial

lemma dials_writeBody (body : Bytes) : DialsCandidates client answer (fun _ ↦ True)
    (writeBody connection body) := by
  unfold writeBody
  split_ifs
  · exact dials_writeAll connection body
  · exact .pure trivial

lemma dials_connectTls : DialsCandidates client answer (fun _ ↦ True) (connectTls connection) :=
  .bind (.ask (dialsCandidate_of_ne fun _ h ↦ by cases h) fun _ _ ↦ trivial) fun _ _ ↦
    .check fun _ _ ↦ trivial

variable (addr : Text)

lemma dials_lookup (wrap : String → HttpClientError) :
    DialsCandidates client answer (fun addrs ↦ answer = .ok addrs) (lookupHost addr wrap) := by
  refine .bind (.ask (dialsCandidate_of_ne fun _ h ↦ by cases h) fun _ hfound ↦ hfound)
    fun found hfound ↦ .check fun addrs haddrs ↦ ?_
  rw [← hfound]
  exact mapError_eq_ok.mp haddrs

lemma dials_validate : DialsCandidates client answer
      (fun valid ↦ ∃ addrs, answer = .ok addrs ∧ valid ∈ Client.candidates .gmHttpClient addrs)
      (validateAddressForSsrf addr) := by
  refine .bind (dials_lookup addr _) fun addrs haddrs ↦ ?_
  by_cases hempty : addrs = []
  · rw [if_pos hempty]
    exact .error _
  rw [if_neg hempty]
  cases hfind : addrs.find? fun addr ↦ !isSkipped addr with
  | none => exact .error _
  | some valid => exact Obeys.pure ⟨addrs, haddrs, by simp [Client.candidates, hfind]⟩

lemma dials_gmConnect (host : Text) (port : ℕ) :
    DialsCandidates .gmHttpClient answer (fun _ ↦ True) (GmHttpClient.connect host port) := by
  refine .bind (dials_validate (authority host port)) fun valid hvalid ↦ ?_
  refine .bind (.ask ?_ fun _ _ ↦ trivial) fun found _ ↦ ?_
  · intro addr haddr
    cases haddr
    exact hvalid
  · refine .bind (.check fun _ _ ↦ trivial) fun tcp _ ↦ ?_
    exact .bind (dials_connectTls tcp) fun _ _ ↦ .pure trivial

variable {addrs : List SocketAddr}

lemma dials_connectAddrs (hans : answer = .ok addrs) (lastErr : Option String)
    {remaining : List SocketAddr} (hremaining : remaining ⊆ addrs) :
    DialsCandidates .pooledHttpClient answer (fun _ ↦ True) (connectAddrs lastErr remaining) := by
  induction remaining generalizing lastErr with
  | nil => exact .error _
  | cons addr rest ih =>
    refine ⟨?_, fun found _ ↦ ?_⟩
    · rintro other hother
      cases hother
      exact ⟨addrs, hans, hremaining mem_cons_self⟩
    cases found with
    | ok connection => exact .pure trivial
    | error e => exact ih (some e) fun other hother ↦ hremaining (mem_cons_of_mem _ hother)

lemma dials_tcpConnect : DialsCandidates .pooledHttpClient answer (fun _ ↦ True)
    (tcpConnect addr) :=
  .bind (dials_lookup addr _) fun addrs haddrs ↦
    dials_connectAddrs haddrs none (List.Subset.refl addrs)

lemma dials_pooledConnect (host : Text) (port : ℕ) :
    DialsCandidates .pooledHttpClient answer (fun _ ↦ True)
    (PooledHttpClient.connect host port) := by
  refine ⟨dialsCandidate_of_ne fun _ h ↦ (by cases h), fun pooled _ ↦ ?_⟩
  cases pooled with
  | some connection => exact .pure trivial
  | none =>
    refine .bind (dials_tcpConnect (authority host port)) fun tcp _ ↦ ?_
    exact .bind (dials_connectTls tcp) fun _ _ ↦ .pure trivial

lemma dials_call (client : Client) (request : Request) :
    DialsCandidates client answer (fun _ ↦ True) (client.call request) := by
  refine .bind (.check fun _ _ ↦ trivial) fun parsed _ ↦ ?_
  cases client with
  | gmHttpClient =>
    refine .bind (dials_gmConnect parsed.host parsed.port) fun connection _ ↦ ?_
    refine .bind (dials_writeAll connection _) fun _ _ ↦ ?_
    exact .bind (dials_writeBody connection _) fun _ _ ↦ dials_readResponse connection
  | pooledHttpClient =>
    refine .bind (dials_pooledConnect parsed.host parsed.port) fun connection _ ↦ ?_
    refine .bind (dials_writeAll connection _) fun _ _ ↦ ?_
    refine .bind (dials_readResponse connection) fun response _ ↦ ?_
    refine .bind (.ask ?_ fun _ _ ↦ trivial) fun _ _ ↦ .pure trivial
    exact dialsCandidate_of_ne fun _ h ↦ by cases h

/-! Every candidate can be reached: the connections tried before it fail. -/

lemma exists_path_connectAddrs (lastErr : Option String) (addrs : List SocketAddr) :
    ∃ left, Task.Path (connectAddrs lastErr addrs)
      (addrs.map fun addr ↦ ⟨.connectTcp addr, .error "connection refused"⟩) left := by
  induction addrs generalizing lastErr with
  | nil => exact ⟨_, .nil _⟩
  | cons addr rest ih =>
    obtain ⟨left, hpath⟩ := ih (some "connection refused")
    exact ⟨left, .cons hpath⟩

lemma exists_path_gmConnect {addr : SocketAddr}
    (hfind : (addrs.find? fun addr ↦ !isSkipped addr) = some addr) (host : Text) (port : ℕ) :
    ∃ left, Task.Path (GmHttpClient.connect host port)
      [⟨.lookupHost (authority host port), .ok addrs⟩,
      ⟨.connectTcp addr, .error "connection refused"⟩] left := by
  have hne : addrs ≠ [] := by
    rintro rfl
    cases hfind
  have hvalidate : Task.Path (validateAddressForSsrf (authority host port))
      [⟨.lookupHost (authority host port), .ok addrs⟩] (.done (.ok addr)) := by
    refine .cons ?_
    show Task.Path (if addrs = [] then _ else _) [] _
    rw [if_neg hne, hfind]
    exact .nil _
  exact ⟨_, hvalidate.through (.cons (.nil _))⟩

lemma exists_path_pooledConnect (addrs : List SocketAddr) (host : Text) (port : ℕ) :
    ∃ left, Task.Path (PooledHttpClient.connect host port)
      (⟨.getConnection host port, none⟩ :: ⟨.lookupHost (authority host port), .ok addrs⟩ ::
        addrs.map fun addr ↦ ⟨.connectTcp addr, .error "connection refused"⟩) left := by
  obtain ⟨left, hpath⟩ := exists_path_connectAddrs none addrs
  exact ⟨_, .cons (Task.Path.within (.cons hpath))⟩

lemma exists_path_dialling (client : Client) (request : Request) {parsed : ParsedUrl}
    (hparsed : parseAndValidateUrl request.url = .ok parsed) {addr : SocketAddr}
    (haddr : addr ∈ client.candidates addrs) : ∃ exchanges left,
    Task.Path (client.call request) exchanges left ∧
      (∀ exchange ∈ exchanges, ResolvesTo (.ok addrs) exchange.op exchange.answer) ∧
      addr ∈ dialled exchanges := by
  unfold Client.call
  rw [hparsed]
  cases client with
  | gmHttpClient =>
    obtain ⟨left, hpath⟩ := exists_path_gmConnect (Option.mem_toList.mp haddr)
      parsed.host parsed.port
    exact ⟨_, _, hpath.within, by simp [ResolvesTo], by simp [dialled]⟩
  | pooledHttpClient =>
    obtain ⟨left, hpath⟩ := exists_path_pooledConnect addrs parsed.host parsed.port
    refine ⟨_, _, hpath.within, by simp [ResolvesTo], mem_dialled.mpr ?_⟩
    exact ⟨⟨.connectTcp addr, .error "connection refused"⟩,
      mem_cons_of_mem _ (mem_cons_of_mem _ (mem_map_of_mem haddr)), rfl⟩

end Dialling

lemma isProtected_iff_candidates (client : Client) (request : Request)
    (answer : Except String (List SocketAddr)) :
    IsProtected client request answer ↔ ∀ parsed addrs, parseAndValidateUrl request.url =
    .ok parsed → answer = .ok addrs →
        ∀ addr ∈ client.candidates addrs, ¬addr.ip.Blocked := by
  constructor
  · rintro hprot parsed addrs hparsed rfl addr haddr
    obtain ⟨exchanges, left, hpath, hresolves, hdialled⟩ :=
      exists_path_dialling client request hparsed haddr
    exact hprot exchanges left hpath hresolves addr hdialled
  intro hcandidates exchanges left hpath hresolves addr haddr
  obtain ⟨exchange, hexch, hop⟩ := mem_dialled.mp haddr
  obtain ⟨addrs, hans, hcandidate⟩ :=
    (dials_call client request).path hpath hresolves exchange hexch addr hop
  cases hparsed : parseAndValidateUrl request.url with
  | ok parsed => exact hcandidates parsed addrs hparsed hans addr hcandidate
  | error e =>
    -- a refused URL ends the call before any operation
    unfold Client.call at hpath
    rw [hparsed, check_error_bind] at hpath
    rw [(path_done.mp hpath).1] at hexch
    cases hexch

/-- `GmHttpClient` is safe if the first address that is not skipped is none of the overlooked ones;
`PooledHttpClient` only if the answer holds no blocked address. -/
theorem isProtected_iff (client : Client) (request : Request)
    (answer : Except String (List SocketAddr)) :
    IsProtected client request answer ↔ ∀ parsed addrs, parseAndValidateUrl request.url =
    .ok parsed → answer = .ok addrs →
        match client with
        | .gmHttpClient =>
          ∀ addr, (addrs.find? fun addr ↦ !isSkipped addr) = some addr → ¬addr.ip.Overlooked
        | .pooledHttpClient => ∀ addr ∈ addrs, ¬addr.ip.Blocked := by
  rw [isProtected_iff_candidates]
  cases client with
  | pooledHttpClient => exact Iff.rfl
  | gmHttpClient =>
    refine forall₄_congr fun parsed addrs _ _ ↦ forall_congr' fun addr ↦ ?_
    rw [Client.candidates, Option.mem_toList]
    refine forall_congr' fun hfind ↦ not_congr ?_
    have hpassed : isSkipped addr = false := by simpa using List.find?_some hfind
    rw [← blocked_not_skipped_iff, and_iff_left hpassed]

def sampleRequest : Request := .get "https://example.com/".toList

/-- `GmHttpClient` connects to an address of carrier-grade NAT, and `PooledHttpClient` to the
loopback address. -/
theorem blocked_addresses_dialled :
    ¬IsProtected .gmHttpClient sampleRequest (.ok [⟨.v4 ⟨100, 64, 0, 1⟩, 443⟩]) ∧
      ¬IsProtected .pooledHttpClient sampleRequest (.ok [⟨.v4 ⟨127, 0, 0, 1⟩, 443⟩]) := by
  have hparsed : parseAndValidateUrl sampleRequest.url = .ok ⟨"example.com".toList,
      443, "/".toList⟩ := by
    decide
  rw [isProtected_iff_candidates, isProtected_iff_candidates]
  constructor
  · intro hprotected
    refine hprotected _ _ hparsed rfl ⟨.v4 ⟨100, 64, 0, 1⟩, 443⟩ (by decide) ?_
    exact ⟨(⟨100, 64, 0, 0⟩, 10), by decide, by decide⟩
  intro hprotected
  refine hprotected _ _ hparsed rfl ⟨.v4 ⟨127, 0, 0, 1⟩, 443⟩ (by decide) ?_
  exact ⟨(⟨127, 0, 0, 0⟩, 8), by decide, by decide⟩

end GmStack.Http
