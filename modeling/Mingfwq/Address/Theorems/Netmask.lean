import Mingfwq.Address.Netmask

/-!
# Masks and what they are made of

CreateMask shifts a one to the place of the first bit behind the prefix and subtracts nothing, so of the mask of the
host part only the first bit is there. For an IPv6 address a word of 32 bits is taken for a byte.
-/

namespace Mingfwq

open Lib

variable {o : ByteOrder} {prefix_len : UInt32} {x y mask : UInt32}

/-! ## The mask that is made -/

theorem CreateMask_eq (h : prefix_len < 32) : CreateMask prefix_len = .ok (1 <<< (31 - prefix_len)) := by
  have hlt : prefix_len.toNat < 32 := h
  have hamount : (4 * 8 - prefix_len.toUInt64 - 1 : UInt64).toNat = 31 - prefix_len.toNat := by
    simp only [UInt64.toNat_sub, UInt64.toNat_mul, UInt32.toNat_toUInt64, UInt64.reduceToNat]
    omega
  have hless : (4 * 8 - prefix_len.toUInt64 - 1 : UInt64) < 32 := by
    rw [UInt64.lt_iff_toNat_lt, hamount]
    exact Nat.lt_of_le_of_lt (Nat.sub_le ..) (by decide)
  have hshift : (4 * 8 - prefix_len.toUInt64 - 1 : UInt64).toUInt32 = 31 - prefix_len := by
    have hle : prefix_len ≤ 31 := Nat.le_of_lt_succ hlt
    have htop : (31 : UInt32).toNat = 31 := rfl
    rw [← UInt32.toNat_inj, UInt64.toNat_toUInt32, hamount, UInt32.toNat_sub_of_le _ _ hle, htop]
    omega
  rw [CreateMask, if_pos hless, hshift]

theorem CreateMask_error (h : 32 ≤ prefix_len) : ∃ amount, CreateMask prefix_len = .error (.shift amount) := by
  have hle : 32 ≤ prefix_len.toNat := h
  have hlt := prefix_len.toNat_lt
  have hamount : ¬ (4 * 8 - prefix_len.toUInt64 - 1 : UInt64) < 32 := by
    rw [UInt64.lt_iff_toNat_lt]
    simp only [UInt64.toNat_sub, UInt64.toNat_mul, UInt32.toNat_toUInt64, UInt64.reduceToNat]
    omega
  exact ⟨_, if_neg hamount⟩

/-! ## Words in the order of the network -/

theorem toNat_byteswap32 (o : ByteOrder) (x : UInt32) :
    (byteswap32 o x).toNat = byteswapOnLittleEndian o 4 x.toNat := by
  rw [byteswap32, UInt32.toNat_ofNat', Nat.mod_eq_of_lt]
  cases o with
  | little => exact ByteOrder.swap_lt 4 x.toNat
  | big => exact x.toNat_lt

theorem byteswap32_byteswap32 (o : ByteOrder) (x : UInt32) : byteswap32 o (byteswap32 o x) = x := by
  rw [← UInt32.toNat_inj, toNat_byteswap32, toNat_byteswap32]
  cases o with
  | little => exact ByteOrder.swap_swap x.toNat_lt
  | big => rfl

theorem byteswap32_and (o : ByteOrder) (x y : UInt32) :
    byteswap32 o (x &&& y) = byteswap32 o x &&& byteswap32 o y := by
  rw [← UInt32.toNat_inj, UInt32.toNat_and, toNat_byteswap32, toNat_byteswap32, toNat_byteswap32, UInt32.toNat_and]
  cases o with
  | little => exact ByteOrder.swap_and ..
  | big => rfl

theorem byteswap32_or (o : ByteOrder) (x y : UInt32) :
    byteswap32 o (x ||| y) = byteswap32 o x ||| byteswap32 o y := by
  rw [← UInt32.toNat_inj, UInt32.toNat_or, toNat_byteswap32, toNat_byteswap32, toNat_byteswap32, UInt32.toNat_or]
  cases o with
  | little => exact ByteOrder.swap_or ..
  | big => rfl

theorem byteswap32_not (o : ByteOrder) (x : UInt32) : byteswap32 o (~~~x) = ~~~byteswap32 o x := by
  have hnot : ∀ z : UInt32, (~~~z).toNat = 2 ^ (8 * 4) - (z.toNat + 1) := by
    intro z
    have hpow : 2 ^ (8 * 4) = UInt32.size := rfl
    rw [UInt32.toNat_not, hpow, Nat.sub_sub, Nat.add_comm]
  rw [← UInt32.toNat_inj, hnot, toNat_byteswap32, toNat_byteswap32, hnot]
  cases o with
  | little => exact ByteOrder.swap_not x.toNat_lt
  | big => rfl

namespace IPv4Address

/-! ## IPv4 -/

variable {m_addr : sockaddr_in}

/-- The address in the order of the host. -/
def address (o : ByteOrder) (m_addr : sockaddr_in) : UInt32 := byteswap32 o m_addr.sin_addr

/-- As many leading ones as the prefix is long. -/
def leadingOnes (prefix_len : UInt32) : UInt32 := UInt32.ofNat (2 ^ 32 - 2 ^ (32 - prefix_len.toNat))

/-- The three addresses are those of the prefix, and all shifts are by 0 to 31 bits; for a prefix longer than an
address there are none. -/
structure Netmasks (o : ByteOrder) (m_addr : sockaddr_in) (prefix_len : UInt32) : Prop where
  inside : prefix_len ≤ 32 → ∃ broadcast network subnet, broadcastAddress o m_addr prefix_len = .ok (some broadcast) ∧
    networdAddress o m_addr prefix_len = .ok (some network) ∧ subnetMask o prefix_len = .ok (some subnet) ∧
    address o subnet = leadingOnes prefix_len ∧
    address o network = address o m_addr &&& leadingOnes prefix_len ∧
    address o broadcast = address o m_addr ||| ~~~leadingOnes prefix_len ∧
    (network.sin_family = m_addr.sin_family ∧ network.sin_port = m_addr.sin_port) ∧
    (broadcast.sin_family = m_addr.sin_family ∧ broadcast.sin_port = m_addr.sin_port)
  outside : 32 < prefix_len → broadcastAddress o m_addr prefix_len = .ok none ∧
    networdAddress o m_addr prefix_len = .ok none ∧ subnetMask o prefix_len = .ok none

theorem broadcastAddress_eq (h : prefix_len ≤ 32) (hmask : CreateMask prefix_len = .ok mask) :
    broadcastAddress o m_addr prefix_len =
      .ok (some { m_addr with sin_addr := m_addr.sin_addr ||| byteswap32 o mask }) := by
  rw [broadcastAddress, if_neg (UInt32.not_lt.mpr h), hmask]
  rfl

theorem networdAddress_eq (h : prefix_len ≤ 32) (hmask : CreateMask prefix_len = .ok mask) :
    networdAddress o m_addr prefix_len =
      .ok (some { m_addr with sin_addr := m_addr.sin_addr &&& byteswap32 o mask }) := by
  rw [networdAddress, if_neg (UInt32.not_lt.mpr h), hmask]
  rfl

theorem subnetMask_eq (hmask : CreateMask prefix_len = .ok mask) :
    subnetMask o prefix_len = .ok (some ⟨AF_INET, 0, ~~~byteswap32 o mask, Vector.replicate 8 0⟩) := by
  rw [subnetMask, hmask]
  rfl

theorem subnetMask_error (h : 32 ≤ prefix_len) : ∃ amount, subnetMask o prefix_len = .error (.shift amount) := by
  obtain ⟨amount, hmask⟩ := CreateMask_error h
  refine ⟨amount, ?_⟩
  rw [subnetMask, hmask]
  rfl

theorem toNat_mask (h : prefix_len < 32) :
    ((1 : UInt32) <<< (31 - prefix_len)).toNat = 2 ^ (31 - prefix_len.toNat) := by
  have hlt : prefix_len.toNat < 32 := h
  have hle : prefix_len ≤ 31 := Nat.le_of_lt_succ hlt
  have htop : (31 : UInt32).toNat = 31 := rfl
  have hamount : (31 - prefix_len.toNat) % 32 = 31 - prefix_len.toNat := Nat.mod_eq_of_lt (by omega)
  have hpow : 2 ^ (31 - prefix_len.toNat) < 2 ^ 32 := Nat.pow_lt_pow_right (by decide) (by omega)
  rw [UInt32.toNat_shiftLeft, UInt32.toNat_sub_of_le _ _ hle, htop, hamount, UInt32.toNat_one, Nat.one_shiftLeft,
    Nat.mod_eq_of_lt hpow]

theorem not_mask_iff (h : prefix_len < 32) :
    ~~~((1 : UInt32) <<< (31 - prefix_len)) = leadingOnes prefix_len ↔ prefix_len = 31 := by
  have hlt : prefix_len.toNat < 32 := h
  have hpos : 0 < 2 ^ (31 - prefix_len.toNat) := Nat.two_pow_pos _
  have hle : 2 ^ (31 - prefix_len.toNat) ≤ 2 ^ 31 := Nat.pow_le_pow_right (by decide) (Nat.sub_le ..)
  have hdouble : 2 ^ (32 - prefix_len.toNat) = 2 * 2 ^ (31 - prefix_len.toNat) := by
    rw [← Nat.pow_succ', ← Nat.succ_sub (by omega)]
  have hsize : UInt32.size = 2 ^ 32 := rfl
  rw [← UInt32.toNat_inj, UInt32.toNat_not, toNat_mask h, leadingOnes, UInt32.toNat_ofNat', hdouble,
    Nat.mod_eq_of_lt (by omega), hsize, ← UInt32.toNat_inj]
  have htop : (31 : UInt32).toNat = 31 := rfl
  rw [htop]
  constructor
  · intro heq
    have hone : 2 ^ (31 - prefix_len.toNat) = 2 ^ 0 := by omega
    have hzero := Nat.pow_right_injective (by decide : 2 ≤ 2) hone
    omega
  · intro heq
    rw [heq]
    rfl

theorem and_one_eq_iff : x &&& 1 = x &&& ~~~1 ↔ x = 0 := by
  constructor
  · intro h
    have hnone : x &&& 1 = 0 := by
      have hboth : (x &&& 1) &&& 1 = (x &&& ~~~1) &&& 1 := by rw [h]
      rw [UInt32.and_assoc, UInt32.and_assoc] at hboth
      simpa using hboth
    have hsplit : x &&& (1 ||| ~~~1) = x &&& 1 ||| x &&& ~~~1 := by
      rw [← UInt32.toBitVec_inj]
      exact BitVec.and_or_distrib_left
    rw [← h, hnone] at hsplit
    simpa using hsplit
  · rintro rfl
    rfl

/-- The three addresses are right exactly for the prefix of 31 bits of `0.0.0.0`. -/
theorem netmasks_iff (o : ByteOrder) (m_addr : sockaddr_in) (prefix_len : UInt32) :
    Netmasks o m_addr prefix_len ↔ prefix_len = 31 ∧ m_addr.sin_addr = 0 := by
  by_cases h : prefix_len < 32
  · have hle : prefix_len ≤ 32 := UInt32.le_of_lt h
    have hmask := CreateMask_eq h
    constructor
    · intro hright
      obtain ⟨broadcast, network, subnet, -, hnetwork, hsubnet, hones, hand, -⟩ := hright.inside hle
      cases (subnetMask_eq hmask).symm.trans hsubnet
      cases (networdAddress_eq hle hmask).symm.trans hnetwork
      have hones' : ~~~((1 : UInt32) <<< (31 - prefix_len)) = leadingOnes prefix_len := by
        rw [← hones, address, byteswap32_not, byteswap32_byteswap32]
      obtain rfl := (not_mask_iff h).mp hones'
      -- the two halves of the address agree only where there is nothing in either
      have hzero : address o m_addr = 0 := by
        rw [address, byteswap32_and, byteswap32_byteswap32, ← hones'] at hand
        exact and_one_eq_iff.mp hand
      refine ⟨rfl, ?_⟩
      rw [← byteswap32_byteswap32 o m_addr.sin_addr, ← address, hzero]
      cases o <;> rfl
    · rintro ⟨rfl, hzero⟩
      have hswap : address o m_addr = 0 := by
        rw [address, hzero]
        cases o <;> rfl
      have hones : leadingOnes 31 = ~~~1 := by rfl
      refine ⟨fun _ => ⟨_, _, _, broadcastAddress_eq hle hmask, networdAddress_eq hle hmask, subnetMask_eq hmask,
        ?_, ?_, ?_, ⟨rfl, rfl⟩, ⟨rfl, rfl⟩⟩, fun hlong => absurd hlong (by decide)⟩
      · rw [address, byteswap32_not, byteswap32_byteswap32]
        rfl
      · rw [address, byteswap32_and, ← address, hswap, UInt32.zero_and, UInt32.zero_and]
      · rw [address, byteswap32_or, byteswap32_byteswap32, ← address, hswap, hones]
        rfl
  · have hle : 32 ≤ prefix_len := UInt32.not_lt.mp h
    obtain ⟨amount, herror⟩ := subnetMask_error (o := o) hle
    refine iff_of_false (fun hright => ?_) fun hright => h (by rw [hright.1]; decide)
    by_cases hlong : 32 < prefix_len
    · cases herror.symm.trans (hright.outside hlong).2.2
    · obtain ⟨-, -, subnet, -, -, hsubnet, -⟩ := hright.inside (UInt32.not_lt.mp hlong)
      cases herror.symm.trans hsubnet

/-- `192.168.1.1:80` on a machine whose order is big. -/
def router : sockaddr_in := ⟨AF_INET, 80, 0xc0a80101, Vector.replicate 8 0⟩

/-- Its network of 24 bits is `0.0.0.0`. -/
theorem not_netmasks_router : ¬ ∀ (o : ByteOrder) (m_addr : sockaddr_in) (prefix_len : UInt32),
    Netmasks o m_addr prefix_len := by
  intro h
  obtain ⟨broadcast, network, subnet, -, hnetwork, -, -, hand, -⟩ := (h .big router 24).inside (by decide)
  have hzero : networdAddress .big router 24 = .ok (some { router with sin_addr := 0 }) := by rfl
  cases hzero.symm.trans hnetwork
  exact absurd hand (by decide)

end IPv4Address

namespace IPv6Address

/-! ## IPv6 -/

variable {m_addr : sockaddr_in6} {addr : Vector UInt8 16}

/-- A bit of an address, the first in the order of the network being bit 0. -/
def bit (addr : Vector UInt8 16) (j : Nat) : Bool := (addr.toList.getD (j / 8) 0).toNat.testBit (7 - j % 8)

/-- The three addresses are those of the prefix, and no word is accessed that an address does not have. -/
def Netmasks (o : ByteOrder) (m_addr : sockaddr_in6) (prefix_len : UInt32) : Prop :=
  ∃ broadcast network subnet, broadcastAddress o m_addr prefix_len = .ok broadcast ∧
    networdAddress o m_addr prefix_len = .ok network ∧ subnetMask o prefix_len = .ok subnet ∧
    ∀ j < 128, bit subnet.sin6_addr j = decide (j < prefix_len.toNat) ∧
      bit network.sin6_addr j = (bit m_addr.sin6_addr j && decide (j < prefix_len.toNat)) ∧
      bit broadcast.sin6_addr j = (bit m_addr.sin6_addr j || decide (prefix_len.toNat ≤ j))

theorem fill_error {indices : List Nat} (h : ∃ i ∈ indices, 4 ≤ i) :
    ∃ i, 4 ≤ i ∧ fill o indices addr = .error (.index i) := by
  induction indices generalizing addr with
  | nil =>
      obtain ⟨i, hi, -⟩ := h
      exact absurd hi List.not_mem_nil
  | cons k indices ih =>
      by_cases hk : k < 4
      · have hrest : ∃ i ∈ indices, 4 ≤ i := by
          obtain ⟨i, hi, hle⟩ := h
          rcases List.mem_cons.mp hi with rfl | hi
          · omega
          · exact ⟨i, hi, hle⟩
        rw [fill, List.foldlM_cons, setU6_addr32, if_pos hk]
        exact ih hrest
      · refine ⟨k, Nat.le_of_not_lt hk, ?_⟩
        rw [fill, List.foldlM_cons, setU6_addr32, if_neg hk]
        rfl

theorem fill_bind_error {indices : List Nat} {f : Vector UInt8 16 → Except Undefined sockaddr_in6}
    (h : ∃ i ∈ indices, 4 ≤ i) : ∃ i, 4 ≤ i ∧ (fill o indices addr >>= f) = .error (.index i) := by
  obtain ⟨i, hi, hfill⟩ : ∃ i, 4 ≤ i ∧ fill o indices addr = .error (.index i) := fill_error h
  exact ⟨i, hi, by rw [hfill]; rfl⟩

/-- For no prefix does broadcastAddress stay in the address: if the first word is inside, the loop is not. -/
theorem broadcastAddress_error (o : ByteOrder) (m_addr : sockaddr_in6) (prefix_len : UInt32) :
    ∃ i, 4 ≤ i ∧ broadcastAddress o m_addr prefix_len = .error (.index i) := by
  have hrest : prefix_len % 8 < 32 := by
    rw [UInt32.lt_iff_toNat_lt, UInt32.toNat_mod]
    exact Nat.lt_trans (Nat.mod_lt _ (by decide)) (by decide)
  rw [broadcastAddress, CreateMask_eq hrest]
  by_cases h : (prefix_len / 8).toNat < 4
  · simp only [u6_addr32, setU6_addr32, if_pos h]
    have hout : ∃ i ∈ List.range' ((prefix_len / 8).toNat + 1) (16 - ((prefix_len / 8).toNat + 1)), 4 ≤ i :=
      ⟨15, by rw [List.mem_range'_1]; omega, by decide⟩
    exact fill_bind_error hout
  · refine ⟨_, Nat.le_of_not_lt h, ?_⟩
    simp only [u6_addr32, if_neg h]
    rfl

theorem networdAddress_ok_iff : (∃ network, networdAddress o m_addr prefix_len = .ok network) ↔ prefix_len < 32 := by
  have hrest : prefix_len % 8 < 32 := by
    rw [UInt32.lt_iff_toNat_lt, UInt32.toNat_mod]
    exact Nat.lt_trans (Nat.mod_lt _ (by decide)) (by decide)
  have hindex : (prefix_len / 8).toNat < 4 ↔ prefix_len < 32 := by
    rw [UInt32.lt_iff_toNat_lt, UInt32.toNat_div]
    exact Nat.div_lt_iff_lt_mul (by decide)
  rw [networdAddress, CreateMask_eq hrest, ← hindex]
  by_cases h : (prefix_len / 8).toNat < 4
  · refine iff_of_true ?_ h
    simp only [u6_addr32, setU6_addr32, if_pos h]
    exact ⟨_, rfl⟩
  · refine iff_of_false ?_ h
    simp only [u6_addr32, if_neg h]
    rintro ⟨network, hnetwork⟩
    cases hnetwork

/-- A bit that is not as it is to be in a mask. -/
def wrongBit (prefix_len : Nat) (subnet : sockaddr_in6) : Bool :=
  (List.range 128).any fun j => bit subnet.sin6_addr j != decide (j < prefix_len)

/-- And inside, subnetMask makes no mask: behind the prefix a whole word but for one bit is set. -/
theorem subnetMask_wrong {subnet : sockaddr_in6} (hlt : prefix_len < 32) (h : subnetMask o prefix_len = .ok subnet) :
    ∃ j < 128, bit subnet.sin6_addr j ≠ decide (j < prefix_len.toNat) := by
  have hall : ∀ o, ∀ n < 32, (subnetMask o (UInt32.ofNat n)).toOption.all (wrongBit n) = true := by
    intro o
    cases o <;> decide +kernel
  have hwrong := hall o prefix_len.toNat hlt
  rw [UInt32.ofNat_toNat, h] at hwrong
  obtain ⟨j, hj, hbit⟩ := List.any_eq_true.mp hwrong
  exact ⟨j, List.mem_range.mp hj, by simpa using hbit⟩

/-- For no prefix are the three addresses right. -/
theorem not_netmasks (o : ByteOrder) (m_addr : sockaddr_in6) (prefix_len : UInt32) :
    ¬ Netmasks o m_addr prefix_len := by
  rintro ⟨broadcast, network, subnet, hbroadcast, -⟩
  obtain ⟨i, -, herror⟩ := broadcastAddress_error o m_addr prefix_len
  cases herror.symm.trans hbroadcast

/-- `[::1]:80` -/
def loopback : sockaddr_in6 :=
  ⟨AF_INET6, 80, 0, #v[0, 0, 0, 0, 0, 0, 0, 0, 0, 0, 0, 0, 0, 0, 0, 1], 0⟩

/-- The loop of its broadcast address leaves the address behind the fourth word. -/
theorem not_netmasks_loopback : ¬ ∀ (o : ByteOrder) (m_addr : sockaddr_in6) (prefix_len : UInt32), prefix_len ≤ 128 →
    Netmasks o m_addr prefix_len := by
  intro h
  obtain ⟨broadcast, network, subnet, hbroadcast, -⟩ := h .big loopback 8 (by decide)
  have herror : broadcastAddress .big loopback 8 = .error (.index 4) := by rfl
  cases herror.symm.trans hbroadcast

end IPv6Address

end Mingfwq
