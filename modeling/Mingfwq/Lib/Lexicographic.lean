import Mathlib.Order.Basic

/-!
# Comparing memory

Memory is compared element by element up to a length. Shorter memory that agrees with the front of longer memory comes
first, which makes the order on images of different lengths the lexicographic one.
-/

namespace Mingfwq.Lib

variable {α : Type} [Ord α] {xs ys zs : List α} {n : Nat}

/-- Which of the first `n` elements are less, at the first place where they differ. -/
def memcmp : Nat → List α → List α → Ordering
  | n + 1, x :: xs, y :: ys => (compare x y).then (memcmp n xs ys)
  | _, _, _ => .eq

/-- Up to the shorter of the lengths, and by the lengths where that decides nothing. -/
def compareImage (xs ys : List α) : Ordering :=
  (memcmp (min xs.length ys.length) xs ys).then (compare xs.length ys.length)

theorem memcmp_cons (n : Nat) (x y : α) :
    memcmp (n + 1) (x :: xs) (y :: ys) = (compare x y).then (memcmp n xs ys) := rfl

theorem memcmp_nil_left (n : Nat) : memcmp n [] ys = .eq := by
  cases n <;> rfl

theorem memcmp_nil_right (n : Nat) : memcmp n xs [] = .eq := by
  cases n <;> cases xs <;> rfl

/-- Only the first `n` elements are read. -/
theorem memcmp_take (n : Nat) (xs ys : List α) {k l : Nat} (hk : n ≤ k) (hl : n ≤ l) :
    memcmp n (xs.take k) (ys.take l) = memcmp n xs ys := by
  induction n generalizing xs ys k l with
  | zero => cases xs.take k <;> cases xs <;> rfl
  | succ n ih =>
      obtain ⟨k, rfl⟩ := Nat.exists_eq_add_of_le' hk
      obtain ⟨l, rfl⟩ := Nat.exists_eq_add_of_le' hl
      cases xs with
      | nil => rw [List.take_nil, memcmp_nil_left, memcmp_nil_left]
      | cons x xs =>
          cases ys with
          | nil => rw [List.take_nil, memcmp_nil_right, memcmp_nil_right]
          | cons y ys =>
              have hstep : memcmp (n + 1) ((x :: xs).take (k + (n + 1))) ((y :: ys).take (l + (n + 1))) =
                  (compare x y).then (memcmp n (xs.take (k + n)) (ys.take (l + n))) := rfl
              rw [hstep, ih _ _ (Nat.le_add_left ..) (Nat.le_add_left ..), memcmp_cons]

theorem compareImage_eq (xs ys : List α) : compareImage xs ys = compare xs ys := by
  induction xs generalizing ys with
  | nil =>
      cases ys with
      | nil => rfl
      | cons y ys => rw [compareImage, memcmp_nil_left, List.compare_nil_cons]; rfl
  | cons x xs ih =>
      cases ys with
      | nil => rw [compareImage, memcmp_nil_right, List.compare_cons_nil]; rfl
      | cons y ys =>
          have hlength : compare (x :: xs).length (y :: ys).length = compare xs.length ys.length := by
            simp only [List.length_cons, Nat.compare_eq_ite_lt, Nat.add_lt_add_iff_right]
          rw [List.compare_cons_cons, ← ih, compareImage, List.length_cons, List.length_cons, Nat.succ_min_succ,
            memcmp_cons, Ordering.then_assoc, ← List.length_cons, ← List.length_cons, hlength, compareImage]

theorem memcmp_length [Std.LawfulEqOrd α] (hlength : xs.length = ys.length) :
    memcmp xs.length xs ys = .eq ↔ xs = ys := by
  have himage : compareImage xs ys = memcmp xs.length xs ys := by
    rw [compareImage, ← hlength, Nat.min_self, Std.compare_self, Ordering.then_eq]
  rw [← himage, compareImage_eq, Std.compare_eq_iff_eq]

end Mingfwq.Lib
