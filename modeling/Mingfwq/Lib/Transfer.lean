import Mathlib.Algebra.Ring.Nat

/-!
# Transfers in pieces

A transfer of a number of bytes is repeated with what is left, until nothing is. Each call says how many bytes it has
moved, or -1; the numbers are those of `size_t`.
-/

namespace Mingfwq.Lib

/-- A difference in `size_t`. -/
def subSize (x y : Nat) : Nat := (x + (2 ^ 64 - y % 2 ^ 64)) % 2 ^ 64

theorem subSize_of_le {x y : Nat} (hle : y ≤ x) (hlt : x < 2 ^ 64) : subSize x y = x - y := by
  unfold subSize
  omega

variable {σ ε : Type}

/-- The loop: whether all has been moved, and the state. None: it has not ended. -/
def transferLoop (transfer : σ → Nat → Except ε (Option Nat × σ)) : Nat → σ → Nat → Except ε (Option (Bool × σ))
  | 0, _, _ => .ok none
  | fuel + 1, s, left =>
      if left = 0 then .ok (some (true, s))
      else
        match transfer s left with
        | .error e => .error e
        -- -1 is the largest number, and not less than zero
        | .ok (none, s) => transferLoop transfer fuel s (subSize left (2 ^ 64 - 1))
        | .ok (some 0, s) => .ok (some (false, s))
        | .ok (some len, s) => transferLoop transfer fuel s (subSize left len)

variable {transfer : σ → Nat → Except ε (Option Nat × σ)} {I : Nat → σ → Prop} {s s' : σ} {fuel k len n left : Nat}

theorem transferLoop_zero (fuel : Nat) (s : σ) : transferLoop transfer (fuel + 1) s 0 = .ok (some (true, s)) := rfl

theorem transferLoop_error {e : ε} (hleft : 0 < left) (h : transfer s left = .error e) :
    transferLoop transfer (fuel + 1) s left = .error e := by
  unfold transferLoop
  rw [if_neg (Nat.ne_of_gt hleft), h]

theorem transferLoop_moved (hleft : left < 2 ^ 64) (hlen : 0 < len) (hle : len ≤ left)
    (h : transfer s left = .ok (some len, s')) :
    transferLoop transfer (fuel + 1) s left = transferLoop transfer fuel s' (left - len) := by
  obtain ⟨len, rfl⟩ := Nat.exists_eq_succ_of_ne_zero (Nat.ne_of_gt hlen)
  conv => lhs; unfold transferLoop
  rw [if_neg (by omega), h]
  exact congrArg _ (subSize_of_le hle hleft)

/-- What each call keeps, with the bytes moved so far, holds at the end with all of them. -/
theorem transferLoop_run (hstep : ∀ k s, I k s → k < n →
      ∃ len s', transfer s (n - k) = .ok (some len, s') ∧ 0 < len ∧ k + len ≤ n ∧ I (k + len) s')
    (hn : n < 2 ^ 64) (hk : k ≤ n) (hfuel : n - k < fuel) (h : I k s) :
    ∃ s', transferLoop transfer fuel s (n - k) = .ok (some (true, s')) ∧ I n s' := by
  induction fuel generalizing k s with
  | zero => omega
  | succ fuel ih =>
      by_cases hlt : k < n
      · obtain ⟨len, s₁, htransfer, hlen, hle, h₁⟩ := hstep k s h hlt
        obtain ⟨s', hloop, h'⟩ := ih (k := k + len) hle (by omega) h₁
        refine ⟨s', ?_, h'⟩
        rw [transferLoop_moved (by omega) hlen (by omega) htransfer, Nat.sub_sub]
        exact hloop
      · obtain rfl : k = n := by omega
        rw [Nat.sub_self]
        exact ⟨s, transferLoop_zero fuel s, h⟩

end Mingfwq.Lib
