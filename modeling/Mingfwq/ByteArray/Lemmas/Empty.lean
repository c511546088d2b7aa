import Mingfwq.ByteArray.Flat

/-!
# Arrays of any base size

With base size 0 the nodes have no bytes: whatever is called, the array stays empty.
-/

namespace Mingfwq.ByteArray

open Lib

variable {B npos : Nat} {a : ByteArray} {ns : List Node}

theorem WellFormed.drop_cells (hB : 0 < B) (h : a.WellFormed B) {p : Nat} (hp : p ≤ a.m_capacity) :
    (a.m_root.drop (p / B)).flatten.drop (p % B) = a.flat.cells.drop p := by
  have hle : p / B ≤ a.m_root.length := by
    rw [Nat.div_le_iff_le_mul_add_pred hB]
    exact Nat.le_trans (h.capacity ▸ hp) (Nat.le_add_right ..)
  have hbefore : (a.m_root.take (p / B)).flatten.length = B * (p / B) := by
    rw [(h.blocks.take _).length_flatten, List.length_take, Nat.min_eq_left hle]
  have hsplit : a.flat.cells = (a.m_root.take (p / B)).flatten ++ (a.m_root.drop (p / B)).flatten := by
    rw [← List.flatten_append, List.take_append_drop]
    rfl
  rw [hsplit, ← List.drop_length_add_append, hbefore, Nat.div_add_mod]

/-- An array of nodes without bytes. -/
structure Empty (a : ByteArray) : Prop where
  baseSize : a.m_baseSize = 0
  blocks : Blocks 0 a.m_root
  capacity : a.m_capacity = 0
  size : a.m_size = 0
  position : a.m_position = 0

theorem Empty.addCapacity (h : a.Empty) (n : Nat) (memory : Nat → UInt8) : (a.addCapacity n memory).Empty := by
  simp only [ByteArray.addCapacity]
  split
  · exact h
  split
  · exact h
  · refine ⟨h.baseSize, h.blocks.append ?_, ?_, h.size, h.position⟩
    · rw [h.baseSize]
      exact blocks_newNodes 0 _ memory
    · simp only [h.baseSize, h.capacity, Nat.mul_zero, Nat.zero_add]

theorem writeLoop_empty (hns : Blocks 0 ns) {buf : List UInt8} (hbuf : buf ≠ []) :
    writeLoop ns npos buf = .error .nullNode := by
  have hlen : 0 < buf.length := List.length_pos_iff.mpr hbuf
  induction ns generalizing npos with
  | nil => rfl
  | cons cur ns ih =>
      simp only [writeLoop, hns.head, Nat.zero_sub, ge_iff_le, Nat.not_le.mpr hlen, if_false, List.drop_zero,
        ih hns.tail]
      rfl

theorem outcome_next {a' : ByteArray} {r : Except Fault ByteArray} (h : a.outcome r = .next a') :
    r = .ok a' ∨ a' = a := by
  cases r with
  | ok b => exact .inl (congrArg Except.ok (Outcome.next.inj h))
  | error e =>
      cases e with
      | nullNode => cases h
      | outOfRange what => exact .inr (Outcome.next.inj h).symm

theorem map_snd_ok {α : Type} {r : Except Fault (α × ByteArray)} {a' : ByteArray} (h : r.map Prod.snd = .ok a') :
    ∃ v, r = .ok (v, a') := by
  cases r with
  | error e => cases h
  | ok q => exact ⟨q.1, congrArg Except.ok (Prod.ext rfl (Except.ok.inj h))⟩

theorem Empty.step {a' : ByteArray} (h : a.Empty) {c : Call} (hs : a.step c = .next a') : a'.Empty := by
  cases c with
  | write buf memory =>
      rcases outcome_next hs with hok | rfl
      · rw [write] at hok
        split at hok
        · cases hok
          exact h
        · next hbuf =>
            have hblocks : Blocks 0 ((a.addCapacity buf.length memory).chain
                (a.addCapacity buf.length memory).m_cur) := by
              cases (a.addCapacity buf.length memory).m_cur with
              | none => exact fun x hx => absurd hx List.not_mem_nil
              | some i => exact (h.addCapacity _ _).blocks.drop i
            simp only [writeLoop_empty hblocks hbuf] at hok
            cases hok
      · exact h
  | read size =>
      rcases outcome_next hs with hok | rfl
      · obtain ⟨bytes, hok⟩ := map_snd_ok hok
        rw [read] at hok
        split at hok
        · cases hok
        · next hsize =>
            rw [getReadSize, h.size, h.position] at hsize
            cases hloop : readLoop (a.chain a.m_cur) (a.m_position % a.m_baseSize) size with
            | error e =>
                rw [hloop] at hok
                cases hok
            | ok q =>
                rw [hloop] at hok
                cases hok
                obtain rfl : size = 0 := by omega
                exact ⟨h.baseSize, h.blocks, h.capacity, h.size, h.position⟩
      · exact h
  | setPosition v =>
      rcases outcome_next hs with hok | rfl
      · rw [setPosition] at hok
        split at hok
        · cases hok
        · next hv =>
            rw [h.capacity] at hv
            cases hloop : seekLoop a.m_root v with
            | error e =>
                rw [hloop] at hok
                cases hok
            | ok steps =>
                rw [hloop] at hok
                cases hok
                obtain rfl : v = 0 := by omega
                exact ⟨h.baseSize, h.blocks, h.capacity, (Nat.max_eq_left (Nat.zero_le _)).trans h.size, rfl⟩
      · exact h
  | clear =>
      cases hs
      exact ⟨h.baseSize, h.blocks.take 1, h.baseSize, rfl, rfl⟩
  | getWriteBuffers len memory =>
      rcases outcome_next hs with hok | rfl
      · obtain ⟨iovs, hok⟩ := map_snd_ok hok
        rw [getWriteBuffers] at hok
        split at hok
        · cases hok
          exact h
        · simp only at hok
          cases hloop : writeBuffersLoop ((a.addCapacity len memory).chain (a.addCapacity len memory).m_cur)
              ((a.addCapacity len memory).m_cur.getD 0)
              ((a.addCapacity len memory).m_position % (a.addCapacity len memory).m_baseSize) len with
          | error e =>
              rw [hloop] at hok
              cases hok
          | ok found =>
              rw [hloop] at hok
              cases hok
              exact h.addCapacity len memory
      · exact h

theorem reachable_empty {init : Nat → UInt8} (h : (system 0 init).Reachable a) : a.Empty := by
  apply h.invariant _ fun _ _ _ ha _ hs => ha.step hs
  exact ⟨rfl, blocks_newNodes 0 1 init, rfl, rfl, rfl⟩

end Mingfwq.ByteArray
