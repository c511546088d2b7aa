import Mingfwq.Address.Model

/-!
# The order and the equality of addresses

The order is the lexicographic one. `==` takes the result of memcmp for the answer, which is 0 where the bytes are the
same.
-/

namespace Mingfwq.Address

open Lib

variable {o : ByteOrder} {a b c : Address}

/-- The bytes of an address, up to its length. -/
def image (o : ByteOrder) (a : Address) : List UInt8 := (a.getAddr o).take a.getAddrLen

theorem getAddrLen_le (o : ByteOrder) (a : Address) : a.getAddrLen ≤ (a.getAddr o).length := by
  cases a with
  | UnixAddress m_addr m_length inside =>
      simpa [getAddr, getAddrLen, sockaddr_un.bytes] using inside
  | IPv4Address m_addr => simp [getAddr, getAddrLen, sockaddr_in.bytes]
  | IPv6Address m_addr => simp [getAddr, getAddrLen, sockaddr_in6.bytes]
  | UnknowAddress m_addr => simp [getAddr, getAddrLen, sockaddr.bytes]

theorem length_image (o : ByteOrder) (a : Address) : (a.image o).length = a.getAddrLen := by
  rw [image, List.length_take, Nat.min_eq_left (getAddrLen_le o a)]

theorem lt_iff : a.lt o b = true ↔ compare (a.image o) (b.image o) = .lt := by
  rw [← compareImage_eq, compareImage, length_image, length_image, image, image,
    memcmp_take _ _ _ (Nat.min_le_left ..) (Nat.min_le_right ..), lt]
  cases memcmp (min a.getAddrLen b.getAddrLen) (a.getAddr o) (b.getAddr o) <;> simp [Nat.compare_eq_lt]

theorem eq_iff : a.eq o b = true ↔ a.getAddrLen = b.getAddrLen ∧ a.image o ≠ b.image o := by
  rw [eq, Bool.and_eq_true, decide_eq_true_eq, decide_eq_true_eq]
  refine and_congr_right fun hlength => not_congr ?_
  have himage : (a.image o).length = (b.image o).length := by rw [length_image, length_image, hlength]
  rw [← memcmp_length himage, length_image, image, image, memcmp_take _ _ _ (Nat.le_refl _) (Nat.le_of_eq hlength)]

/-- One of three, and no other. -/
def ExactlyOne (p q r : Prop) : Prop := (p ∧ ¬q ∧ ¬r) ∨ (¬p ∧ q ∧ ¬r) ∨ (¬p ∧ ¬q ∧ r)

/-- What the containers expect of the order and the equality at `a` and `b`. -/
structure Laws (o : ByteOrder) (a b : Address) : Prop where
  trichotomy : ExactlyOne (a.lt o b = true) (b.lt o a = true) (a.eq o b = true)
  lt_trans : ∀ c : Address, a.lt o b = true → b.lt o c = true → a.lt o c = true
  eq_refl : a = b → a.eq o b = true
  eq_symm : a.eq o b = true → b.eq o a = true
  eq_trans : ∀ c : Address, a.eq o b = true → b.eq o c = true → a.eq o c = true
  eq_iff : a.eq o b = true ↔ a.getAddrLen = b.getAddrLen ∧ a.image o = b.image o
  ne_iff : a.ne o b = true ↔ ¬ a.eq o b = true

theorem lt_trans (hab : a.lt o b = true) (hbc : b.lt o c = true) : a.lt o c = true :=
  lt_iff.mpr (Std.TransCmp.lt_trans (lt_iff.mp hab) (lt_iff.mp hbc))

theorem lt_swap : b.lt o a = true ↔ compare (a.image o) (b.image o) = .gt := by
  rw [lt_iff, ← Std.OrientedCmp.gt_iff_lt]

theorem not_trichotomy (hlength : a.getAddrLen = b.getAddrLen) :
    ¬ ExactlyOne (a.lt o b = true) (b.lt o a = true) (a.eq o b = true) := by
  have himage : a.image o = b.image o ↔ compare (a.image o) (b.image o) = .eq := Std.compare_eq_iff_eq.symm
  rw [ExactlyOne, lt_iff, lt_swap, Address.eq_iff, ne_eq, himage]
  cases compare (a.image o) (b.image o) <;> simp [hlength]

theorem trichotomy (hlength : a.getAddrLen ≠ b.getAddrLen) :
    ExactlyOne (a.lt o b = true) (b.lt o a = true) (a.eq o b = true) := by
  have hne : compare (a.image o) (b.image o) ≠ .eq := by
    intro heq
    have himage : a.image o = b.image o := Std.compare_eq_iff_eq.mp heq
    exact hlength (by rw [← length_image o, ← length_image o, himage])
  rw [ExactlyOne, lt_iff, lt_swap, Address.eq_iff]
  revert hne
  cases compare (a.image o) (b.image o) <;> simp [hlength]

/-- The laws hold of two addresses exactly when their lengths differ: of two images of one length either none of the
three holds, or `==` holds beside `<`. -/
theorem laws_iff (o : ByteOrder) (a b : Address) : Laws o a b ↔ a.getAddrLen ≠ b.getAddrLen := by
  constructor
  · intro hlaws hlength
    exact not_trichotomy hlength hlaws.trichotomy
  · intro hlength
    have hnot : ¬ a.eq o b = true := fun heq => hlength (Address.eq_iff.mp heq).1
    exact {
      trichotomy := trichotomy hlength
      lt_trans := fun c => lt_trans
      eq_refl := fun hab => absurd (congrArg getAddrLen hab) hlength
      eq_symm := fun heq => absurd heq hnot
      eq_trans := fun c heq => absurd heq hnot
      eq_iff := iff_of_false hnot fun h => hlength h.1
      ne_iff := by rw [ne, Bool.not_eq_true', Bool.not_eq_true] }

/-- `0.0.0.0:0` -/
def inaddr_any : Address := .IPv4Address ⟨2, 0, 0, Vector.replicate 8 0⟩

/-- An address does not equal itself. -/
theorem not_laws_inaddr_any : ¬ ∀ (o : ByteOrder) (a b : Address), Laws o a b := by
  intro h
  have hself : inaddr_any.eq .little inaddr_any = true := (h .little inaddr_any inaddr_any).eq_refl rfl
  exact absurd hself (by decide)

end Mingfwq.Address
