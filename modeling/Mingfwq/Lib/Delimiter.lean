import Mathlib.Data.List.DropRight

/-!
# Lists cut at delimiters

Where a list is cut by the first element, or the last, of which something does not hold.
-/

namespace Mingfwq.Lib

variable {α : Type} {p : α → Bool} {xs rest : List α} {c : α}

theorem forall_mem_some {P : α → Prop} (h : P c) : ∀ d ∈ some c, P d := fun _ hd => Option.some.inj hd ▸ h

theorem takeWhile_cut (h : ∀ c ∈ xs, p c = true) (hrest : ∀ c ∈ rest.head?, p c = false) :
    (xs ++ rest).takeWhile p = xs := by
  rw [List.takeWhile_append_of_pos h]
  cases rest with
  | nil => rw [List.takeWhile_nil, List.append_nil]
  | cons c rest => rw [List.takeWhile_cons_of_neg (by simp [hrest c rfl]), List.append_nil]

theorem dropWhile_cut (h : ∀ c ∈ xs, p c = true) (hrest : ∀ c ∈ rest.head?, p c = false) :
    (xs ++ rest).dropWhile p = rest := by
  rw [List.dropWhile_append_of_pos h]
  cases rest with
  | nil => rfl
  | cons c rest => rw [List.dropWhile_cons_of_neg (by simp [hrest c rfl])]

theorem rtakeWhile_cut (h : ∀ c ∈ rest, p c = true) (hxs : ∀ c ∈ xs.getLast?, p c = false) :
    (xs ++ rest).rtakeWhile p = rest := by
  rw [List.rtakeWhile, List.reverse_append, takeWhile_cut (fun c hc => h c (List.mem_reverse.mp hc)),
    List.reverse_reverse]
  rwa [List.head?_reverse]

theorem rdropWhile_cut (h : ∀ c ∈ rest, p c = true) (hxs : ∀ c ∈ xs.getLast?, p c = false) :
    (xs ++ rest).rdropWhile p = xs := by
  rw [List.rdropWhile, List.reverse_append, dropWhile_cut (fun c hc => h c (List.mem_reverse.mp hc)),
    List.reverse_reverse]
  rwa [List.head?_reverse]

theorem mem_of_getLast?_rdropWhile (h : (xs.rdropWhile p).getLast? = some c) : c ∈ xs :=
  (List.rdropWhile_prefix p xs).subset (List.mem_of_getLast? h)

end Mingfwq.Lib
