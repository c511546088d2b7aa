import Mathlib.Algebra.Order.Group.Nat
import Mathlib.Data.List.Basic

/-!
# Numbers as bytes in memory
-/

namespace Mingfwq.Lib

/-- Which end of a number comes first. -/
inductive ByteOrder where
  | little
  | big
  deriving DecidableEq, Repr

/-- The low `n` bytes of a number, the lowest first. -/
def lowBytes : Nat → Nat → List UInt8
  | 0, _ => []
  | n + 1, v => UInt8.ofNat v :: lowBytes n (v / 256)

def ofLowBytes : List UInt8 → Nat
  | [] => 0
  | b :: bs => b.toNat + 256 * ofLowBytes bs

@[simp] theorem length_lowBytes (n v : Nat) : (lowBytes n v).length = n := by
  induction n generalizing v with
  | zero => rfl
  | succ n ih => rw [lowBytes, List.length_cons, ih]

theorem ofLowBytes_lowBytes {n v : Nat} (h : v < 256 ^ n) : ofLowBytes (lowBytes n v) = v := by
  induction n generalizing v with
  | zero =>
      rw [Nat.pow_zero] at h
      rw [lowBytes, ofLowBytes]
      omega
  | succ n ih =>
      have hdiv : v / 256 < 256 ^ n := Nat.div_lt_of_lt_mul (by rwa [Nat.pow_succ, Nat.mul_comm] at h)
      rw [lowBytes, ofLowBytes, ih hdiv, UInt8.toNat_ofNat']
      omega

theorem ofLowBytes_lt (bs : List UInt8) : ofLowBytes bs < 256 ^ bs.length := by
  induction bs with
  | nil => exact Nat.one_pos
  | cons b bs ih =>
      have hb := b.toNat_lt
      rw [ofLowBytes, List.length_cons, Nat.pow_succ]
      omega

theorem lowBytes_ofLowBytes (bs : List UInt8) : lowBytes bs.length (ofLowBytes bs) = bs := by
  induction bs with
  | nil => rfl
  | cons b bs ih =>
      have hb := b.toNat_lt
      have hdiv : (b.toNat + 256 * ofLowBytes bs) / 256 = ofLowBytes bs := by omega
      rw [List.length_cons, ofLowBytes, lowBytes, hdiv, ih]
      congr 1
      rw [← UInt8.toNat_inj, UInt8.toNat_ofNat']
      omega

namespace ByteOrder

/-- How a number of `n` bytes lies in memory. -/
def bytes : ByteOrder → Nat → Nat → List UInt8
  | .little, n, v => lowBytes n v
  | .big, n, v => (lowBytes n v).reverse

/-- The number that lies in memory. -/
def value : ByteOrder → List UInt8 → Nat
  | .little, bs => ofLowBytes bs
  | .big, bs => ofLowBytes bs.reverse

/-- The same bytes the other way round. -/
def swap (n v : Nat) : Nat := ofLowBytes (lowBytes n v).reverse

variable {o o' : ByteOrder} {n v : Nat}

@[simp] theorem length_bytes (o : ByteOrder) (n v : Nat) : (o.bytes n v).length = n := by
  cases o <;> simp [bytes]

theorem value_bytes (o : ByteOrder) (h : v < 256 ^ n) : o.value (o.bytes n v) = v := by
  cases o <;> simp [bytes, value, ofLowBytes_lowBytes h]

theorem value_lt (o : ByteOrder) (bs : List UInt8) : o.value bs < 256 ^ bs.length := by
  cases o with
  | little => exact ofLowBytes_lt bs
  | big => exact bs.length_reverse ▸ ofLowBytes_lt bs.reverse

theorem bytes_value (o : ByteOrder) (bs : List UInt8) : o.bytes bs.length (o.value bs) = bs := by
  cases o with
  | little => exact lowBytes_ofLowBytes bs
  | big => rw [bytes, value, ← bs.length_reverse, lowBytes_ofLowBytes, List.reverse_reverse]

theorem lowBytes_swap (n v : Nat) : lowBytes n (swap n v) = (lowBytes n v).reverse := by
  have h := lowBytes_ofLowBytes (lowBytes n v).reverse
  rwa [List.length_reverse, length_lowBytes] at h

theorem bytes_swap (h : o ≠ o') : o.bytes n (swap n v) = o'.bytes n v := by
  cases o <;> cases o' <;> first
    | exact absurd rfl h
    | simp [bytes, lowBytes_swap]

theorem swap_swap (h : v < 256 ^ n) : swap n (swap n v) = v := by
  rw [swap, lowBytes_swap, List.reverse_reverse, ofLowBytes_lowBytes h]

theorem swap_value_bytes (h : o ≠ o') (hv : v < 256 ^ n) : swap n (o.value (o'.bytes n v)) = v := by
  have hswap : o.value (o'.bytes n v) = swap n v := by
    cases o <;> cases o' <;> first
      | exact absurd rfl h
      | simp [bytes, value, swap]
  rw [hswap, swap_swap hv]

/-! ## The bits of a swapped number -/

theorem testBit_ofLowBytes (bs : List UInt8) (i : Nat) :
    (ofLowBytes bs).testBit i = (bs.getD (i / 8) 0).toNat.testBit (i % 8) := by
  induction bs generalizing i with
  | nil => simp [ofLowBytes]
  | cons b bs ih =>
      have hb : b.toNat < 2 ^ 8 := b.toNat_lt
      have hsum : ofLowBytes (b :: bs) = 2 ^ 8 * ofLowBytes bs + b.toNat := by
        rw [ofLowBytes, Nat.add_comm, Nat.pow_succ]
      rw [hsum, Nat.testBit_two_pow_mul_add _ hb]
      by_cases hi : i < 8
      · rw [if_pos hi, Nat.div_eq_of_lt hi, Nat.mod_eq_of_lt hi, List.getD_cons_zero]
      · obtain ⟨j, rfl⟩ : ∃ j, i = j + 8 := ⟨i - 8, by omega⟩
        rw [if_neg hi, Nat.add_sub_cancel, ih, Nat.add_div_right _ (by decide), Nat.add_mod_right, List.getD_cons_succ]

theorem testBit_lowBytes {k j : Nat} (hk : k < n) (hj : j < 8) (v : Nat) :
    ((lowBytes n v).getD k 0).toNat.testBit j = v.testBit (8 * k + j) := by
  induction n generalizing k v with
  | zero => omega
  | succ n ih =>
      rw [lowBytes]
      cases k with
      | zero =>
          have hmod : (UInt8.ofNat v).toNat = v % 2 ^ 8 := UInt8.toNat_ofNat'
          rw [List.getD_cons_zero, hmod, Nat.testBit_mod_two_pow, decide_eq_true hj, Bool.true_and, Nat.mul_zero,
            Nat.zero_add]
      | succ k =>
          have hdiv : v / 256 = v / 2 ^ 8 := rfl
          rw [List.getD_cons_succ, ih (Nat.lt_of_succ_lt_succ hk), hdiv, Nat.testBit_div_two_pow]
          congr 1
          omega

theorem swap_lt (n v : Nat) : swap n v < 256 ^ n := by
  have h := ofLowBytes_lt (lowBytes n v).reverse
  rwa [List.length_reverse, length_lowBytes] at h

theorem testBit_swap {i : Nat} (hi : i < 8 * n) (v : Nat) :
    (swap n v).testBit i = v.testBit (8 * (n - 1 - i / 8) + i % 8) := by
  have hbyte : i / 8 < n := by omega
  have hreverse : (lowBytes n v).reverse.getD (i / 8) 0 = (lowBytes n v).getD (n - 1 - i / 8) 0 := by
    rw [List.getD_eq_getElem?_getD, List.getElem?_reverse (by rwa [length_lowBytes]), length_lowBytes,
      List.getD_eq_getElem?_getD]
  rw [swap, testBit_ofLowBytes, hreverse, testBit_lowBytes (by omega) (Nat.mod_lt _ (by decide))]

theorem eq_swap {x : Nat} (hx : x < 256 ^ n)
    (h : ∀ i < 8 * n, x.testBit i = v.testBit (8 * (n - 1 - i / 8) + i % 8)) : x = swap n v := by
  have hpow : 256 ^ n = 2 ^ (8 * n) := (Nat.pow_mul 2 8 n).symm
  refine Nat.eq_of_testBit_eq fun i => ?_
  by_cases hi : i < 8 * n
  · rw [h i hi, testBit_swap hi]
  · have hle : 2 ^ (8 * n) ≤ 2 ^ i := Nat.pow_le_pow_right (by decide) (Nat.le_of_not_lt hi)
    rw [Nat.testBit_lt_two_pow (Nat.lt_of_lt_of_le (hpow ▸ hx) hle),
      Nat.testBit_lt_two_pow (Nat.lt_of_lt_of_le (hpow ▸ swap_lt n v) hle)]

theorem swap_and (n v w : Nat) : swap n (v &&& w) = swap n v &&& swap n w := by
  refine (eq_swap (Nat.lt_of_le_of_lt Nat.and_le_left (swap_lt n v)) fun i hi => ?_).symm
  rw [Nat.testBit_and, Nat.testBit_and, testBit_swap hi, testBit_swap hi]

theorem swap_or (n v w : Nat) : swap n (v ||| w) = swap n v ||| swap n w := by
  have hpow : 256 ^ n = 2 ^ (8 * n) := (Nat.pow_mul 2 8 n).symm
  refine (eq_swap ?_ fun i hi => ?_).symm
  · rw [hpow]
    exact Nat.or_lt_two_pow (hpow ▸ swap_lt n v) (hpow ▸ swap_lt n w)
  · rw [Nat.testBit_or, Nat.testBit_or, testBit_swap hi, testBit_swap hi]

/-- The complement of a number of `n` bytes. -/
theorem swap_not (h : v < 2 ^ (8 * n)) : swap n (2 ^ (8 * n) - (v + 1)) = 2 ^ (8 * n) - (swap n v + 1) := by
  have hpow : 256 ^ n = 2 ^ (8 * n) := (Nat.pow_mul 2 8 n).symm
  have hswap : swap n v < 2 ^ (8 * n) := hpow ▸ swap_lt n v
  refine (eq_swap ?_ fun i hi => ?_).symm
  · rw [hpow]
    exact Nat.sub_lt (Nat.two_pow_pos _) (Nat.succ_pos _)
  · have hlt : 8 * (n - 1 - i / 8) + i % 8 < 8 * n := by omega
    rw [Nat.testBit_two_pow_sub_succ hswap, Nat.testBit_two_pow_sub_succ h, testBit_swap hi, decide_eq_true hi,
      decide_eq_true hlt]

end ByteOrder

end Mingfwq.Lib
