import Mathlib.Data.List.Basic

/-!
# Lists joined by a separator, and cut again

Pieces that are not empty and hold no separator are joined by one. Two separators in a row stand for what is left out,
and the text is cut in two there.
-/

namespace Mingfwq.Lib

variable {α : Type} {sep : α} {xs ys : List α} {pieces : List (List α)}

theorem first_unique {xs' ys' : List α} (hx : sep ∉ xs) (hx' : sep ∉ xs') (h : xs ++ sep :: ys = xs' ++ sep :: ys') :
    xs = xs' ∧ ys = ys' := by
  induction xs generalizing xs' with
  | nil =>
      cases xs' with
      | nil => exact ⟨rfl, (List.cons.inj h).2⟩
      | cons a xs' => exact absurd ((List.cons.inj h).1 ▸ List.mem_cons_self) hx'
  | cons a xs ih =>
      cases xs' with
      | nil => exact absurd ((List.cons.inj h).1 ▸ List.mem_cons_self) hx
      | cons a' xs' =>
          obtain ⟨rfl, htail⟩ := List.cons.inj h
          obtain ⟨rfl, rfl⟩ := ih (fun hmem => hx (List.mem_cons_of_mem _ hmem))
            (fun hmem => hx' (List.mem_cons_of_mem _ hmem)) htail
          exact ⟨rfl, rfl⟩

theorem mem_intercalate {a : α} (h : a ∈ [sep].intercalate pieces) : a = sep ∨ ∃ piece ∈ pieces, a ∈ piece := by
  induction pieces with
  | nil => exact absurd h List.not_mem_nil
  | cons piece pieces ih =>
      cases pieces with
      | nil =>
          rw [List.intercalate_singleton] at h
          exact .inr ⟨piece, List.mem_cons_self, h⟩
      | cons piece' pieces =>
          rw [List.intercalate_cons_cons, List.append_assoc, List.mem_append, List.mem_append, List.mem_singleton] at h
          rcases h with h | h | h
          · exact .inr ⟨piece, List.mem_cons_self, h⟩
          · exact .inl h
          · exact (ih h).imp_right fun ⟨piece, hpiece, ha⟩ => ⟨piece, List.mem_cons_of_mem _ hpiece, ha⟩

section Pieces

variable (h : ∀ piece ∈ pieces, piece ≠ [] ∧ sep ∉ piece)
include h

theorem head?_intercalate : ([sep].intercalate pieces).head? ≠ some sep := by
  cases pieces with
  | nil => simp
  | cons piece pieces =>
      obtain ⟨hne, hsep⟩ := h piece List.mem_cons_self
      obtain ⟨a, rest, rfl⟩ := List.exists_cons_of_ne_nil hne
      rw [List.intercalate_cons_cons_left, List.head?_cons]
      exact fun ha => hsep (Option.some.inj ha ▸ List.mem_cons_self)

theorem getLast?_intercalate : ([sep].intercalate pieces).getLast? ≠ some sep := by
  induction pieces with
  | nil => simp
  | cons piece pieces ih =>
      obtain ⟨hne, hsep⟩ := h piece List.mem_cons_self
      cases pieces with
      | nil =>
          rw [List.intercalate_singleton]
          exact fun hlast => hsep (List.mem_of_getLast? hlast)
      | cons piece' pieces =>
          obtain ⟨hne', -⟩ := h piece' (List.mem_cons_of_mem _ List.mem_cons_self)
          have hrest : [sep].intercalate (piece' :: pieces) ≠ [] := by
            obtain ⟨a, rest, rfl⟩ := List.exists_cons_of_ne_nil hne'
            rw [List.intercalate_cons_cons_left]
            exact List.cons_ne_nil _ _
          rw [List.intercalate_cons_cons, List.getLast?_append_of_ne_nil _ hrest]
          exact ih fun piece hpiece => h piece (List.mem_cons_of_mem _ hpiece)

end Pieces

variable [DecidableEq α]

/-- How often the separator stands twice in a row. -/
def doubled (sep : α) : List α → Nat
  | a :: b :: rest => (if a = sep ∧ b = sep then 1 else 0) + doubled sep (b :: rest)
  | _ => 0

/-- What stands before the first such place, and what behind it. -/
def cutDoubled (sep : α) : List α → Option (List α × List α)
  | a :: b :: rest =>
      if a = sep ∧ b = sep then some ([], rest)
      else (cutDoubled sep (b :: rest)).map fun (front, back) => (a :: front, back)
  | _ => none

theorem doubled_cons_of_ne {a : α} (h : a ≠ sep) : doubled sep (a :: xs) = doubled sep xs := by
  cases xs with
  | nil => rfl
  | cons b xs => rw [doubled, if_neg (fun hab => h hab.1), Nat.zero_add]

theorem doubled_of_head {a : α} (h : xs.head? ≠ some sep) : doubled sep (a :: xs) = doubled sep xs := by
  cases xs with
  | nil => rfl
  | cons b xs => rw [doubled, if_neg (fun hab => h (congrArg some hab.2)), Nat.zero_add]

theorem doubled_of_not_mem (h : sep ∉ xs) : doubled sep xs = 0 := by
  induction xs with
  | nil => rfl
  | cons a xs ih =>
      rw [List.mem_cons, not_or] at h
      rw [doubled_cons_of_ne (Ne.symm h.1), ih h.2]

theorem doubled_append (h : xs.getLast? ≠ some sep ∨ ys.head? ≠ some sep) :
    doubled sep (xs ++ ys) = doubled sep xs + doubled sep ys := by
  induction xs with
  | nil => exact (Nat.zero_add _).symm
  | cons a xs ih =>
      cases xs with
      | nil =>
          have hone : doubled sep [a] = 0 := rfl
          rw [List.singleton_append, hone, Nat.zero_add]
          rcases h with hlast | hhead
          · exact doubled_cons_of_ne fun ha => hlast (congrArg some ha)
          · exact doubled_of_head hhead
      | cons b xs =>
          rw [List.getLast?_cons_cons] at h
          rw [List.cons_append, List.cons_append, doubled, doubled, ← List.cons_append, ih h, Nat.add_assoc]

theorem cutDoubled_eq_none (h : doubled sep xs = 0) : cutDoubled sep xs = none := by
  induction xs with
  | nil => rfl
  | cons a xs ih =>
      cases xs with
      | nil => rfl
      | cons b xs =>
          rw [doubled] at h
          obtain ⟨hhead, hrest⟩ := Nat.add_eq_zero_iff.mp h
          have hne : ¬(a = sep ∧ b = sep) := fun hab => by simp [hab] at hhead
          rw [cutDoubled, if_neg hne, ih hrest]
          rfl

theorem cutDoubled_append (h : doubled sep xs = 0) (hlast : xs.getLast? ≠ some sep) :
    cutDoubled sep (xs ++ sep :: sep :: ys) = some (xs, ys) := by
  induction xs with
  | nil => rw [List.nil_append, cutDoubled, if_pos ⟨rfl, rfl⟩]
  | cons a xs ih =>
      cases xs with
      | nil =>
          have ha : ¬(a = sep ∧ sep = sep) := fun hab => hlast (congrArg some hab.1)
          rw [List.singleton_append, cutDoubled, if_neg ha, cutDoubled, if_pos ⟨rfl, rfl⟩]
          rfl
      | cons b xs =>
          rw [doubled] at h
          obtain ⟨hhead, hrest⟩ := Nat.add_eq_zero_iff.mp h
          have hne : ¬(a = sep ∧ b = sep) := fun hab => by simp [hab] at hhead
          rw [List.getLast?_cons_cons] at hlast
          rw [List.cons_append, List.cons_append, cutDoubled, if_neg hne, ← List.cons_append, ih hrest hlast]
          rfl

theorem doubled_intercalate (h : ∀ piece ∈ pieces, piece ≠ [] ∧ sep ∉ piece) :
    doubled sep ([sep].intercalate pieces) = 0 := by
  induction pieces with
  | nil => rfl
  | cons piece pieces ih =>
      obtain ⟨hne, hsep⟩ := h piece List.mem_cons_self
      have hlast : piece.getLast? ≠ some sep := fun hlast => hsep (List.mem_of_getLast? hlast)
      cases pieces with
      | nil => rw [List.intercalate_singleton, doubled_of_not_mem hsep]
      | cons piece' pieces =>
          have hrest : ∀ piece ∈ piece' :: pieces, piece ≠ [] ∧ sep ∉ piece :=
            fun piece hpiece => h piece (List.mem_cons_of_mem _ hpiece)
          rw [List.intercalate_cons_cons, List.append_assoc, doubled_append (.inl hlast), doubled_of_not_mem hsep,
            List.singleton_append, doubled_of_head (head?_intercalate hrest), ih hrest]

end Mingfwq.Lib
