import Mathlib.Algebra.Order.Group.Nat
import Mathlib.Data.List.Basic

/-!
# Numbers in groups of seven bits

The lowest group comes first, and the high bit of a byte says that more follow.
-/

namespace Mingfwq.Lib

/-- `Groups v bytes`: the shortest encoding of `v`. -/
inductive Groups : Nat → List UInt8 → Prop
  | last {v : Nat} : v < 128 → Groups v [UInt8.ofNat v]
  | more {v : Nat} {bytes : List UInt8} : 128 ≤ v → Groups (v / 128) bytes →
      Groups v (UInt8.ofNat (v % 128 + 128) :: bytes)

namespace Groups

variable {v : Nat} {bytes : List UInt8}

theorem length_pos (h : Groups v bytes) : 0 < bytes.length := by
  cases h <;> exact Nat.succ_pos _

end Groups

theorem or_group {r x i : Nat} (hr : r < 2 ^ i) : r ||| x <<< i = r + x * 2 ^ i := by
  rw [Nat.or_comm, ← Nat.shiftLeft_add_eq_or_of_lt hr, Nat.shiftLeft_eq, Nat.add_comm]

/-- The same in a word of `w` bits that the group fits. -/
theorem or_group_mod {r x i w : Nat} (hr : r < 2 ^ i) (hx : x * 2 ^ i < 2 ^ w) :
    r ||| x <<< i % 2 ^ w = r + x * 2 ^ i := by
  have hfit : x <<< i % 2 ^ w = x <<< i := Nat.mod_eq_of_lt (by rwa [Nat.shiftLeft_eq])
  rw [hfit, or_group hr]

theorem or_group_wrap {r x i w : Nat} (hr : r < 2 ^ i) (hi : i ≤ w) :
    r ||| x <<< i % 2 ^ w = (r + x * 2 ^ i) % 2 ^ w := by
  have hpow : 2 ^ w = 2 ^ i * 2 ^ (w - i) := by rw [← Nat.pow_add, Nat.add_sub_cancel' hi]
  have hlow : x <<< i % 2 ^ w = (x % 2 ^ (w - i)) <<< i := by
    rw [Nat.shiftLeft_eq, Nat.shiftLeft_eq, hpow, Nat.mul_comm x, Nat.mul_mod_mul_left, Nat.mul_comm]
  have hdiv : (r + x * 2 ^ i) / 2 ^ i = x := by
    rw [Nat.add_mul_div_right _ _ (Nat.two_pow_pos i), Nat.div_eq_of_lt hr, Nat.zero_add]
  have hmod : (r + x * 2 ^ i) % 2 ^ i = r := by rw [Nat.add_mul_mod_self_right, Nat.mod_eq_of_lt hr]
  rw [hlow, or_group hr, hpow, Nat.mod_mul, hmod, hdiv, Nat.mul_comm (2 ^ i)]

theorem groups_split (v i : Nat) : v * 2 ^ i = v % 128 * 2 ^ i + v / 128 * 2 ^ (i + 7) := by
  have hpow : 2 ^ (i + 7) = 128 * 2 ^ i := by rw [Nat.pow_add, Nat.mul_comm]
  calc v * 2 ^ i
      _ = (v % 128 + v / 128 * 128) * 2 ^ i := by rw [Nat.mul_comm (v / 128), Nat.mod_add_div]
      _ = v % 128 * 2 ^ i + v / 128 * 2 ^ (i + 7) := by rw [Nat.add_mul, Nat.mul_assoc, hpow]

/-! ## Reading -/

/-- The value at the head of the bytes and how many bytes it takes, if all of them are there. No more than `limit` are
looked at. -/
def varint : Nat → List UInt8 → Option (Nat × Nat)
  | 0, _ => some (0, 0)
  | _ + 1, [] => none
  | limit + 1, b :: bytes =>
      if b < 0x80 then some (b.toNat, 1)
      else (varint limit bytes).map fun (v, k) => (b.toNat % 128 + v * 128, k + 1)

variable {limit limit' v k : Nat} {bytes : List UInt8}

theorem varint_nil (h : 0 < limit) : varint limit [] = none := by
  cases limit with
  | zero => cases h
  | succ limit => rfl

theorem varint_pos (hlimit : 0 < limit) (h : varint limit bytes = some (v, k)) : 0 < k := by
  cases limit with
  | zero => cases hlimit
  | succ limit =>
      cases bytes with
      | nil => cases h
      | cons b bytes =>
          rw [varint] at h
          split at h
          · cases h
            exact Nat.one_pos
          · obtain ⟨q, -, hq⟩ := Option.map_eq_some_iff.mp h
            cases hq
            exact Nat.succ_pos _

theorem varint_le (h : varint limit bytes = some (v, k)) : k ≤ bytes.length := by
  induction limit generalizing bytes v k with
  | zero =>
      cases h
      exact Nat.zero_le _
  | succ limit ih =>
      cases bytes with
      | nil => cases h
      | cons b bytes =>
          rw [varint] at h
          split at h
          · cases h
            exact Nat.succ_pos _
          · obtain ⟨q, hq, heq⟩ := Option.map_eq_some_iff.mp h
            cases heq
            exact Nat.succ_le_succ (ih hq)

theorem varint_mono (hle : limit ≤ limit') (h : varint limit' bytes ≠ none) : varint limit bytes ≠ none := by
  induction limit generalizing limit' bytes with
  | zero => exact Option.some_ne_none _
  | succ limit ih =>
      obtain ⟨limit', rfl⟩ : ∃ n, limit' = n + 1 := ⟨limit' - 1, by omega⟩
      cases bytes with
      | nil => exact absurd rfl h
      | cons b bytes =>
          simp only [varint] at h ⊢
          split
          · exact Option.some_ne_none _
          · next hmore =>
              rw [if_neg hmore] at h
              exact mt Option.map_eq_none_iff.mp (ih (by omega) (mt Option.map_eq_none_iff.mpr h))

end Mingfwq.Lib
