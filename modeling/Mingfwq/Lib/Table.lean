import Mathlib.Data.List.Basic

/-!
# Tables of parties

The states of the parties of a system stand in a list, each at the index of its party; a step of one party
overwrites its entry.
-/

namespace Mingfwq.Lib

variable {α : Type} {l : List α} {i : Nat} {x : α}

theorem getElem?_set_of_some (h : l[i]? = some x) (y : α) (j : Nat) :
    (l.set i y)[j]? = if j = i then some y else l[j]? := by
  obtain ⟨hi, -⟩ := List.getElem?_eq_some_iff.mp h
  rw [List.getElem?_set]
  by_cases hj : i = j
  · rw [if_pos hj, if_pos hi, if_pos hj.symm]
  · rw [if_neg hj, if_neg (Ne.symm hj)]

theorem set_of_getElem? (h : l[i]? = some x) : l.set i x = l := by
  obtain ⟨hi, rfl⟩ := List.getElem?_eq_some_iff.mp h
  exact List.set_getElem_self hi

theorem countP_set (h : l[i]? = some x) (y : α) (p : α → Bool) :
    (l.set i y).countP p + (p x).toNat = l.countP p + (p y).toNat := by
  induction l generalizing i with
  | nil => simp at h
  | cons z l ih =>
      cases i with
      | zero =>
          simp only [List.getElem?_cons_zero, Option.some.injEq] at h
          simp only [List.set_cons_zero, List.countP_cons, h]
          cases p x <;> cases p y <;> simp
      | succ i =>
          have hih := ih (by simpa using h)
          simp only [List.set_cons_succ, List.countP_cons]
          omega

theorem count_set [BEq α] (h : l[i]? = some x) (y a : α) :
    (l.set i y).count a + (x == a).toNat = l.count a + (y == a).toNat :=
  countP_set h y (· == a)

end Mingfwq.Lib
