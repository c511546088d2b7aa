import Mathlib.Data.List.Nodup

/-!
# Lists of entries under keys

A list in which every key has at most one entry is a finite map in the order of insertion.
-/

namespace Mingfwq.Lib

variable {α β : Type} [BEq α] [LawfulBEq α] {l : List (α × β)} {p : α × β → Bool} {k : α}

theorem find?_key_eq_none : l.find? (·.1 == k) = none ↔ ∀ e ∈ l, e.1 ≠ k := by
  simp [List.find?_eq_none]

/-- The only entry under its key is the one that a search for the key finds. -/
theorem find?_key_of_mem (h : (l.map Prod.fst).Nodup) {e : α × β} (hmem : e ∈ l) :
    l.find? (·.1 == e.1) = some e := by
  induction l with
  | nil => cases hmem
  | cons d l ih =>
      obtain ⟨hd, hl⟩ := List.nodup_cons.mp h
      rcases List.mem_cons.mp hmem with rfl | hmem
      · exact List.find?_cons_of_pos (by simp)
      · have hne : d.1 ≠ e.1 := fun heq => hd (heq ▸ List.mem_map_of_mem hmem)
        rw [List.find?_cons_of_neg (by simpa using hne)]
        exact ih hl hmem

theorem filter_key_append {s : β} : (l.filter (·.1 != k) ++ [(k, s)]).find? (·.1 == k) = some (k, s) := by
  rw [List.find?_append, find?_key_eq_none.mpr fun e he => by simpa using (List.mem_filter.mp he).2]
  simp

theorem eraseP_eq_filter_iff (h : (l.map Prod.fst).Nodup) :
    l.eraseP p = l.filter (·.1 != k) ↔ l.find? p = l.find? (·.1 == k) := by
  induction l with
  | nil => simp
  | cons d l ih =>
      obtain ⟨hd, hl⟩ := List.nodup_cons.mp h
      have habsent : d ∉ l := fun hmem => hd (List.mem_map_of_mem hmem)
      have hfilter : d.1 = k → l.filter (·.1 != k) = l := fun heq => List.filter_eq_self.mpr fun e he => by
        have hne : e.1 ≠ k := fun hk => hd (heq.trans hk.symm ▸ List.mem_map_of_mem he)
        simpa using hne
      by_cases hp : p d
      · rw [List.eraseP_cons_of_pos hp, List.find?_cons_of_pos hp]
        by_cases hk : d.1 = k
        · rw [List.filter_cons_of_neg (by simpa using hk), List.find?_cons_of_pos (by simpa using hk)]
          simp [hfilter hk]
        · rw [List.filter_cons_of_pos (by simpa using hk), List.find?_cons_of_neg (by simpa using hk)]
          constructor
          · intro heq
            exact absurd (heq ▸ List.mem_cons_self) habsent
          · intro heq
            exact absurd (List.mem_of_find?_eq_some heq.symm) habsent
      · rw [List.eraseP_cons_of_neg hp, List.find?_cons_of_neg hp]
        by_cases hk : d.1 = k
        · rw [List.filter_cons_of_neg (by simpa using hk), List.find?_cons_of_pos (by simpa using hk), hfilter hk]
          constructor
          · intro heq
            exact absurd (heq ▸ List.mem_cons_self) habsent
          · intro heq
            exact absurd (List.mem_of_find?_eq_some heq) habsent
        · rw [List.filter_cons_of_pos (by simpa using hk), List.find?_cons_of_neg (by simpa using hk),
          List.cons_inj_right]
          exact ih hl

end Mingfwq.Lib
