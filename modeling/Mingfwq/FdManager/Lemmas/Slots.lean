import Mingfwq.FdManager.Model

/-!
# The slots of the table
-/

namespace Mingfwq.FdManager

open Lib

variable {m : FdManager} {fd fd' : Int} {fd_stat : Option Bool}

theorem slot_eq (h : 0 ≤ fd) : m.slot fd = m.m_datas[fd.toNat]?.join := if_neg (by omega)

theorem length_resize (datas : List (Option Nat)) (n : Nat) : (resize datas n).length = n := by
  simp only [resize, List.length_append, List.length_take, List.length_replicate]
  omega

theorem join_resize {datas : List (Option Nat)} {n i : Nat} (h : datas.length ≤ n) :
    (resize datas n)[i]?.join = datas[i]?.join := by
  rw [resize, List.take_of_length_le h]
  by_cases hi : i < datas.length
  · rw [List.getElem?_append_left hi]
  · rw [List.getElem?_append_right (by omega), List.getElem?_eq_none (by omega : datas.length ≤ i),
      List.getElem?_replicate]
    split <;> rfl

theorem slot_new (fd : Int) : FdManager.new.slot fd = none := by
  rw [slot]
  split
  · rfl
  · exact (join_resize (Nat.zero_le 64)).trans rfl

theorem slot_create (hlen : 2 ≤ m.m_datas.length) (hfd : 0 ≤ fd) :
    (m.create fd fd_stat).slot fd' = if fd' = fd then some m.ctxs.length else m.slot fd' := by
  have hin : fd.toNat < (if fd ≥ m.m_datas.length then resize m.m_datas (fd.toNat * 3 / 2) else m.m_datas).length := by
    split
    · rw [length_resize]
      omega
    · omega
  by_cases hneg : fd' < 0
  · rw [slot, slot, if_pos hneg, if_neg (by omega), if_pos hneg]
  · simp only [slot_eq (show 0 ≤ fd' by omega), create, List.getElem?_set]
    by_cases heq : fd' = fd
    · subst heq
      rw [if_pos rfl, if_pos hin, if_pos rfl]
      rfl
    · rw [if_neg (by omega), if_neg heq]
      split
      · exact join_resize (by omega)
      · rfl

theorem length_create : m.m_datas.length ≤ (m.create fd fd_stat).m_datas.length := by
  simp only [create, List.length_set]
  split
  · rw [length_resize]
    omega
  · exact Nat.le_refl _

theorem slot_del {m' : FdManager} (h : m.del fd = .ok m') :
    m'.ctxs = m.ctxs ∧ m'.m_datas.length = m.m_datas.length ∧
      m'.slot fd' = if fd' = fd then none else m.slot fd' := by
  rw [del] at h
  split at h
  · next hle =>
      cases h
      refine ⟨rfl, rfl, ?_⟩
      split
      · next heq =>
          rw [heq, slot_eq (by omega), List.getElem?_eq_none (by omega)]
          rfl
      · rfl
  · split at h
    · cases h
    · next hge =>
        cases h
        refine ⟨rfl, List.length_set, ?_⟩
        by_cases hneg : fd' < 0
        · rw [slot, slot, if_pos hneg, if_neg (by omega), if_pos hneg]
        · simp only [slot_eq (show 0 ≤ fd' by omega), List.getElem?_set]
          by_cases heq : fd' = fd
          · subst heq
            rw [if_pos rfl, if_pos rfl, if_pos (by omega)]
            rfl
          · rw [if_neg (by omega), if_neg heq]

theorem lookup_found {auto_create : Bool} {ctx : Option Nat} (h : m.lookup fd auto_create = .ok (.found ctx)) :
    ctx = none ∨ m.slot fd = ctx := by
  rw [lookup] at h
  split at h
  · cases h
    exact .inl rfl
  · split at h
    · split at h
      · cases h
      · cases h
        exact .inl rfl
    · split at h
      · cases h
      · split at h
        · cases h
          exact .inr rfl
        · cases h

theorem lookup_missing {auto_create : Bool} (h : m.lookup fd auto_create = .ok .missing) : 0 ≤ fd := by
  rw [lookup] at h
  split at h
  · cases h
  · split at h
    · omega
    · split at h
      · cases h
      · omega

theorem lookup_eq (h : 0 ≤ fd) : m.lookup fd false = .ok (.found (m.slot fd)) := by
  rw [lookup, if_neg (by omega)]
  split
  · next hle =>
      rw [if_neg Bool.false_ne_true, slot_eq h, List.getElem?_eq_none (by omega)]
      rfl
  · rw [if_neg (by omega), Bool.not_false, Bool.or_true, if_pos rfl]

/-- `get` with auto_create. -/
theorem get_eq (h : 0 ≤ fd) :
    m.get fd true fd_stat =
      if (m.slot fd).isSome then .ok (m.slot fd, m)
      else .ok ((m.create fd fd_stat).slot fd, m.create fd fd_stat) := by
  rw [get, lookup, if_neg (by omega)]
  split
  · next hle =>
      have hnone : m.slot fd = none := by
        rw [slot_eq h, List.getElem?_eq_none (by omega)]
        rfl
      rw [if_pos rfl, hnone]
      rfl
  · rw [if_neg (by omega), Bool.not_true, Bool.or_false]
    split
    · rfl
    · rfl

end Mingfwq.FdManager
