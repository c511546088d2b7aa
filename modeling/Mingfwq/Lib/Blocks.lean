import Mathlib.Data.List.Basic

/-!
# Memory cut into blocks of one size

A list of blocks of `b` cells each stands for the flat memory that is their concatenation. Cell `p` of the
flat memory is cell `p % b` of block `p / b`.
-/

namespace Mingfwq.Lib

variable {α : Type} {b : Nat} {x : List α} {bs cs : List (List α)}

/-- Every block has `b` cells. -/
def Blocks (b : Nat) (bs : List (List α)) : Prop := ∀ x ∈ bs, x.length = b

/-- Put `xs` over the cells of `l` from `pos` on; the cells past the end of `l` are lost. -/
def overwrite (l : List α) (pos : Nat) (xs : List α) : List α :=
  l.take pos ++ xs.take (l.length - pos) ++ l.drop (pos + xs.length)

theorem Blocks.cons (hx : x.length = b) (h : Blocks b bs) : Blocks b (x :: bs) := by
  intro y hy
  rcases List.mem_cons.mp hy with rfl | hy
  · exact hx
  · exact h y hy

theorem Blocks.head (h : Blocks b (x :: bs)) : x.length = b :=
  h x List.mem_cons_self

theorem Blocks.tail (h : Blocks b (x :: bs)) : Blocks b bs :=
  fun y hy => h y (List.mem_cons_of_mem x hy)

theorem Blocks.append (hb : Blocks b bs) (hc : Blocks b cs) : Blocks b (bs ++ cs) := by
  intro x hx
  rcases List.mem_append.mp hx with hx | hx
  · exact hb x hx
  · exact hc x hx

theorem Blocks.take (h : Blocks b bs) (n : Nat) : Blocks b (bs.take n) :=
  fun x hx => h x (List.mem_of_mem_take hx)

theorem Blocks.drop (h : Blocks b bs) (n : Nat) : Blocks b (bs.drop n) :=
  fun x hx => h x (List.mem_of_mem_drop hx)

theorem length_overwrite {l xs : List α} {pos : Nat} (h : pos + xs.length ≤ l.length) :
    (overwrite l pos xs).length = l.length := by
  simp only [overwrite, List.length_append, List.length_take, List.length_drop]
  omega

/-! ## Overwriting -/

theorem overwrite_eq {l xs : List α} {pos : Nat} (h : pos + xs.length ≤ l.length) :
    overwrite l pos xs = l.take pos ++ (xs ++ l.drop (pos + xs.length)) := by
  have hall : xs.take (l.length - pos) = xs := List.take_of_length_le (by omega)
  rw [overwrite, hall, List.append_assoc]

theorem overwrite_nil (l : List α) (pos : Nat) : overwrite l pos [] = l := by
  simp [overwrite]

theorem overwrite_self {l xs : List α} (h : xs.length = l.length) : overwrite l 0 xs = xs := by
  rw [overwrite_eq (by omega)]
  simp [h]

theorem drop_overwrite {l xs : List α} {pos : Nat} (h : pos + xs.length ≤ l.length) :
    (overwrite l pos xs).drop pos = xs ++ l.drop (pos + xs.length) := by
  rw [overwrite_eq h, List.drop_left']
  rw [List.length_take]
  omega

theorem overwrite_append_left {l r xs : List α} {pos : Nat} (h : pos + xs.length ≤ l.length) :
    overwrite (l ++ r) pos xs = overwrite l pos xs ++ r := by
  have hfit : pos + xs.length ≤ (l ++ r).length := by
    rw [List.length_append]
    omega
  rw [overwrite_eq hfit, overwrite_eq h, List.take_append_of_le_length (by omega), List.drop_append_of_le_length h]
  simp only [List.append_assoc]

theorem overwrite_append_right (l r xs : List α) (pos : Nat) :
    overwrite (l ++ r) (l.length + pos) xs = l ++ overwrite r pos xs := by
  simp only [overwrite, List.append_assoc, List.length_append, List.take_length_add_append]
  rw [Nat.add_assoc, List.drop_length_add_append, Nat.add_sub_add_left]

/-- From the first part into the second. -/
theorem overwrite_append_cross {l r xs : List α} {pos : Nat} (hpos : pos ≤ l.length)
    (hcross : l.length ≤ pos + xs.length) (hfit : pos + xs.length ≤ l.length + r.length) :
    overwrite (l ++ r) pos xs =
      overwrite l pos (xs.take (l.length - pos)) ++ overwrite r 0 (xs.drop (l.length - pos)) := by
  have htake : (xs.take (l.length - pos)).length = l.length - pos := by
    rw [List.length_take]
    omega
  have hdrop : (xs.drop (l.length - pos)).length = pos + xs.length - l.length := by
    rw [List.length_drop]
    omega
  rw [overwrite_eq (by rw [List.length_append]; omega), overwrite_eq (by omega), overwrite_eq (by omega), htake, hdrop,
    List.take_append_of_le_length hpos, List.drop_append, List.drop_of_length_le hcross,
    List.drop_of_length_le (show l.length ≤ pos + (l.length - pos) by omega), List.nil_append, List.append_nil,
    List.take_zero, List.nil_append, Nat.zero_add, List.append_assoc, ← List.append_assoc (xs.take _),
    List.take_append_drop]

/-- Over two parts: the cells that fit into the first go there. -/
theorem overwrite_append {l r xs : List α} {pos : Nat} (hpos : pos ≤ l.length)
    (hfit : pos + xs.length ≤ l.length + r.length) : overwrite (l ++ r) pos xs =
      overwrite l pos (xs.take (l.length - pos)) ++ overwrite r 0 (xs.drop (l.length - pos)) := by
  by_cases hcross : l.length ≤ pos + xs.length
  · exact overwrite_append_cross hpos hcross hfit
  · rw [overwrite_append_left (by omega), List.take_of_length_le (by omega), List.drop_eq_nil_of_le (by omega),
      overwrite_nil]

/-- One write after the other, into cells that have been extended in between. -/
theorem overwrite_overwrite {l growth xs ys : List α} {pos : Nat} (h : pos + xs.length ≤ l.length)
    (hfit : pos + xs.length + ys.length ≤ l.length + growth.length) :
    overwrite (overwrite l pos xs ++ growth) (pos + xs.length) ys = overwrite (l ++ growth) pos (xs ++ ys) := by
  -- the cells before the first write, those under it, and the rest
  obtain ⟨a, x, z, rfl, ha, hx⟩ : ∃ a x z, l = a ++ (x ++ z) ∧ a.length = pos ∧ x.length = xs.length := by
    refine ⟨l.take pos, (l.drop pos).take xs.length, (l.drop pos).drop xs.length, ?_, ?_, ?_⟩
    · rw [List.take_append_drop, List.take_append_drop]
    · rw [List.length_take]
      omega
    · rw [List.length_take, List.length_drop]
      omega
  subst ha
  have hfirst : overwrite (a ++ (x ++ z)) a.length xs = a ++ (xs ++ z) := by
    have hright := overwrite_append_right a (x ++ z) xs 0
    rw [Nat.add_zero] at hright
    rw [hright, overwrite_append_left (by omega), overwrite_self hx.symm]
  have hsecond := overwrite_append_right (a ++ xs) (z ++ growth) ys 0
  have hwhole := overwrite_append_right a (x ++ (z ++ growth)) (xs ++ ys) 0
  have hcross : overwrite (x ++ (z ++ growth)) 0 (xs ++ ys) = xs ++ overwrite (z ++ growth) 0 ys := by
    simp only [List.length_append] at h hfit
    rw [overwrite_append_cross (Nat.zero_le _) (by rw [List.length_append]; omega)
      (by simp only [List.length_append]; omega), Nat.sub_zero, hx, List.take_left', List.drop_left',
      overwrite_self hx.symm] <;> rfl
  simp only [List.append_assoc, List.length_append, Nat.add_zero] at hsecond hwhole ⊢
  rw [hfirst, hwhole, hcross]
  simp only [List.append_assoc]
  exact hsecond

/-! ## Blocks -/

theorem Blocks.length_flatten (h : Blocks b bs) : bs.flatten.length = b * bs.length := by
  induction bs with
  | nil => simp
  | cons x bs ih =>
      rw [List.flatten_cons, List.length_append, h.head, ih h.tail, List.length_cons, Nat.mul_succ, Nat.add_comm]

theorem block_succ {b pos : Nat} (hb : 0 < b) (h : b ≤ pos) : (pos - b) / b + 1 = pos / b := by
  rw [← Nat.sub_add_cancel h, Nat.add_div_right _ hb, Nat.add_sub_cancel]

theorem block_first {b pos : Nat} (hb : 0 < b) (h : pos ≤ b) : (if b = pos then 1 else 0) = pos / b := by
  split
  · next heq => rw [← heq, Nat.div_self hb]
  · exact (Nat.div_eq_of_lt (by omega)).symm

/-- The cells after position `pos`, counted from the start of its block. -/
theorem room_from_block {b pos n : Nat} (h : pos ≤ b * n) :
    b * (n - pos / b) - pos % b = b * n - pos := by
  have hdm := Nat.div_add_mod pos b
  rw [Nat.mul_sub]
  omega

end Mingfwq.Lib
