import Mingfwq.ByteArray.Flat

/-!
# The chain refines the flat memory
-/

namespace Mingfwq.ByteArray

open Lib

variable {B : Nat} {a : ByteArray}

/-- A write fits the capacity that addCapacity has made, and a read is of a byte at least. -/
def Fits (a : ByteArray) : Call → Prop
  | .write buf memory => buf.length ≤ (a.addCapacity buf.length memory).getCapacity
  | .read size => 1 ≤ size
  | .setPosition _ => True
  | .clear => True
  | .getWriteBuffers _ _ => False

/-- What the chain does is what the flat memory does, up to the cells that addCapacity appends. A call that throws
leaves the array as it is. -/
structure Refines (B : Nat) (a : ByteArray) : Prop where
  order : a.m_position ≤ a.m_size ∧ a.m_size ≤ a.m_capacity
  cells : a.flat.cells.length = a.m_capacity
  cur : a.m_cur = none ↔ a.m_position = a.m_capacity
  write : ∀ buf memory, a.Fits (.write buf memory) →
    ∃ growth a', a.write buf memory = .ok a' ∧ a.m_position + buf.length ≤ (a.flat.cells ++ growth).length ∧
      a'.flat = (a.flat.grow growth).write buf
  read : ∀ size ≥ 1, match a.flat.read size with
    | some (bytes, f) => ∃ a', a.read size = .ok (bytes, a') ∧ a'.flat = f
    | none => (∃ what, a.read size = .error (.outOfRange what)) ∧ a.step (.read size) = .next a
  setPosition : ∀ v, match a.flat.setPosition v with
    | some f => ∃ a', a.setPosition v = .ok a' ∧ a'.flat = f
    | none => (∃ what, a.setPosition v = .error (.outOfRange what)) ∧ a.step (.setPosition v) = .next a
  clear : a.clear.flat = a.flat.clear B ∧ a.clear.m_root.length = 1

/-- `m_cur` is null where the position is at the end of the chain. -/
theorem WellFormed.cur_none_iff (hB : 0 < B) (h : a.WellFormed B) : a.m_cur = none ↔ a.m_position = a.m_capacity := by
  have hle := h.position_le
  rw [h.cur, h.capacity]
  constructor
  · intro hnone
    have hge : ¬ a.m_position / B < a.m_root.length := by
      intro hlt
      rw [if_pos hlt] at hnone
      cases hnone
    have hmul := Nat.mul_le_mul_left B (Nat.le_of_not_lt hge)
    exact Nat.le_antisymm hle (Nat.le_trans hmul (Nat.mul_div_le _ _))
  · intro heq
    rw [heq, Nat.mul_div_cancel_left _ hB, if_neg (Nat.lt_irrefl _)]

theorem WellFormed.refines (hB : 0 < B) (h : a.WellFormed B) : Refines B a where
  order := ⟨h.position, h.size⟩
  cells := h.length_cells
  cur := h.cur_none_iff hB
  write := by
    intro buf memory hfit
    obtain ⟨growth, a', hok, -, hlen, hflat⟩ := h.write_flat hB hfit
    exact ⟨growth, a', hok, hlen, hflat⟩
  read := by
    intro size hsize
    have hread := h.read_flat hB hsize
    rcases hflat : a.flat.read size with _ | ⟨bytes, f⟩
    · simp only [hflat] at hread ⊢
      refine ⟨⟨_, hread⟩, ?_⟩
      simp only [ByteArray.step, hread]
      rfl
    · simp only [hflat] at hread ⊢
      obtain ⟨a', hok, -, hf⟩ := hread
      exact ⟨a', hok, hf⟩
  setPosition := by
    intro v
    have hset := h.setPosition_flat hB v
    rcases hflat : a.flat.setPosition v with _ | f
    · simp only [hflat] at hset ⊢
      refine ⟨⟨_, hset⟩, ?_⟩
      simp only [ByteArray.step, hset]
      rfl
    · simp only [hflat] at hset ⊢
      obtain ⟨a', hok, -, hf⟩ := hset
      exact ⟨a', hok, hf⟩
  clear := h.clear_flat

/-- In every state that a fresh array of base size `B` reaches by calls that fit, the chain refines the flat memory. -/
theorem reach_refines {memory : Nat → UInt8} (hB : 1 ≤ B) (h : (system B memory).Reach Fits a) : Refines B a := by
  have hwf : a.WellFormed B := h.invariant (new_wellFormed memory) fun _ _ _ ha _ hs => ha.step hB hs
  exact hwf.refines hB

/-- Three bytes, in nodes of one byte. -/
theorem reach_refines_threeBytes : Refines 1 ⟨1, 3, 3, 3, [[1], [2], [3]], none⟩ := by
  have hfits : Fits (new 1 fun _ => 0) (.write [1, 2, 3] fun _ => 0) := by
    simp only [Fits]
    decide
  exact reach_refines (Nat.le_refl 1) (.step .init hfits rfl)

end Mingfwq.ByteArray
