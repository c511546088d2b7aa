import Mathlib.Data.BitVec

/-!
# Signed numbers as unsigned ones

Numbers near zero become small: 0, -1, 1, -2 become 0, 1, 2, 3.
-/

namespace Mingfwq.Lib.Zigzag

variable {w : Nat}

def encode (x : BitVec w) : BitVec w := if x.slt 0#w then -x * 2#w - 1#w else x * 2#w

def decode (y : BitVec w) : BitVec w := (y >>> 1) ^^^ -(y &&& 1#w)

theorem toNat_mul_two (x : BitVec w) : (x * 2#w).toNat = x.toNat * 2 % 2 ^ w := by
  rw [BitVec.toNat_mul, BitVec.toNat_ofNat, Nat.mul_mod_mod]

theorem toInt_succ (x : BitVec (w + 1)) :
    x.toInt = if x.toNat < 2 ^ w then (x.toNat : Int) else x.toNat - 2 * (2 ^ w : Nat) := by
  rw [BitVec.toInt_eq_toNat_cond, Nat.pow_succ]
  split <;> split <;> omega

theorem toNat_encode (x : BitVec (w + 1)) :
    ((encode x).toNat : Int) = if 0 ≤ x.toInt then 2 * x.toInt else -2 * x.toInt - 1 := by
  have hlt := x.isLt
  have hpow : 2 ^ (w + 1) = 2 * 2 ^ w := by rw [Nat.pow_succ, Nat.mul_comm]
  have hpos : 0 < 2 ^ w := Nat.two_pow_pos w
  have hslt : x.slt 0#(w + 1) = decide (x.toInt < 0) := by
    rw [BitVec.slt, BitVec.toInt_zero]
  rw [encode, hslt, toInt_succ]
  by_cases hx : x.toNat < 2 ^ w
  · have htwo : (x * 2#(w + 1)).toNat = x.toNat * 2 := by
      rw [toNat_mul_two, Nat.mod_eq_of_lt (by omega)]
    rw [if_pos hx, if_neg (by simp), htwo]
    omega
  · have hneg : (-x).toNat = 2 ^ (w + 1) - x.toNat := by
      rw [BitVec.toNat_neg, Nat.mod_eq_of_lt (by omega)]
    have hone : (1#(w + 1)).toNat = 1 := BitVec.toNat_one (Nat.succ_pos w)
    rw [if_neg hx, if_pos (decide_eq_true (by omega)), BitVec.toNat_sub, hone, toNat_mul_two, hneg]
    by_cases hmin : x.toNat = 2 ^ w
    · have hmul : (2 ^ (w + 1) - x.toNat) * 2 = 2 ^ (w + 1) := by omega
      rw [hmul, Nat.mod_self, Nat.add_zero, Nat.mod_eq_of_lt (by omega)]
      omega
    · have hmul : (2 ^ (w + 1) - x.toNat) * 2 % 2 ^ (w + 1) = (2 ^ (w + 1) - x.toNat) * 2 :=
        Nat.mod_eq_of_lt (by omega)
      have hsub : 2 ^ (w + 1) - 1 + (2 ^ (w + 1) - x.toNat) * 2 =
          2 ^ (w + 1) + ((2 ^ (w + 1) - x.toNat) * 2 - 1) := by omega
      rw [hmul, hsub, Nat.add_mod_left, Nat.mod_eq_of_lt (by omega)]
      omega

theorem toInt_decode (y : BitVec (w + 1)) :
    (decode y).toInt = if y.toNat % 2 = 0 then (y.toNat / 2 : Int) else -(y.toNat / 2 : Int) - 1 := by
  have hlt := y.isLt
  have hpow : 2 ^ (w + 1) = 2 * 2 ^ w := by rw [Nat.pow_succ, Nat.mul_comm]
  have hshift : (y >>> 1).toNat = y.toNat / 2 := by
    rw [BitVec.toNat_ushiftRight, Nat.shiftRight_one]
  have hone : (1#(w + 1)).toNat = 1 := BitVec.toNat_one (Nat.succ_pos w)
  have hand : (y &&& 1#(w + 1)).toNat = y.toNat % 2 := by
    rw [BitVec.toNat_and, hone, Nat.and_one_is_mod]
  split
  · next heven =>
      have hzero : y &&& 1#(w + 1) = 0#(w + 1) := by
        apply BitVec.eq_of_toNat_eq
        rw [hand, heven, BitVec.toNat_ofNat, Nat.zero_mod]
      have hdecode : decode y = y >>> 1 := by
        rw [decode, hzero, BitVec.neg_zero, BitVec.xor_zero]
      rw [hdecode, toInt_succ, hshift, if_pos (by omega)]
      omega
  · next hodd =>
      have hone' : y &&& 1#(w + 1) = 1#(w + 1) := by
        apply BitVec.eq_of_toNat_eq
        rw [hand, hone]
        omega
      have hdecode : decode y = ~~~(y >>> 1) := by
        rw [decode, hone', BitVec.neg_one_eq_allOnes, BitVec.xor_allOnes]
      rw [hdecode, toInt_succ, BitVec.toNat_not, hshift, if_neg (by omega)]
      omega

theorem decode_encode (x : BitVec (w + 1)) : decode (encode x) = x := by
  apply BitVec.eq_of_toInt_eq
  have hencode := toNat_encode x
  rw [toInt_decode]
  split at hencode <;> split <;> omega

end Mingfwq.Lib.Zigzag
