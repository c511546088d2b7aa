import Mingfwq.ByteArray.Lemmas.WellFormed

/-!
# The byte array as a flat memory

What the chain of nodes stands for: its cells one after the other, with a cursor and a size.
-/

namespace Mingfwq.ByteArray

open Lib

structure Flat where
  cells : List UInt8
  cursor : Nat
  size : Nat
  deriving DecidableEq, Repr

namespace Flat

/-- New cells at the end. -/
def grow (f : Flat) (growth : List UInt8) : Flat := { f with cells := f.cells ++ growth }

/-- Over the cells at the cursor. -/
def write (f : Flat) (buf : List UInt8) : Flat where
  cells := overwrite f.cells f.cursor buf
  cursor := f.cursor + buf.length
  size := max f.size (f.cursor + buf.length)

def read (f : Flat) (n : Nat) : Option (List UInt8 × Flat) :=
  if f.cursor + n ≤ f.size then some ((f.cells.drop f.cursor).take n, { f with cursor := f.cursor + n }) else none

def setPosition (f : Flat) (v : Nat) : Option Flat :=
  if v ≤ f.cells.length then some { f with cursor := v, size := max f.size v } else none

/-- The first `base_size` cells stay. -/
def clear (f : Flat) (base_size : Nat) : Flat where
  cells := f.cells.take base_size
  cursor := 0
  size := 0

end Flat

/-- The flat memory that the chain stands for. -/
def flat (a : ByteArray) : Flat where
  cells := a.m_root.flatten
  cursor := a.m_position
  size := a.m_size

variable {B npos : Nat} {a a' : ByteArray} {ns ns' : List Node} {buf : List UInt8}

/-! ## The loops -/

theorem writeLoop_flatten (hns : Blocks B ns) (hnpos : npos ≤ B) {steps : Nat}
    (hfit : buf.length ≤ B * ns.length - npos) (h : writeLoop ns npos buf = .ok (ns', steps)) :
    ns'.flatten = overwrite ns.flatten npos buf := by
  induction ns generalizing npos buf ns' steps with
  | nil => cases h
  | cons cur ns ih =>
      have hcur := hns.head
      rw [List.length_cons, Nat.mul_succ] at hfit
      simp only [writeLoop, hcur] at h
      split at h
      · next hin =>
        cases h
        rw [List.flatten_cons, List.flatten_cons, overwrite_append_left (by omega)]
      · next hout =>
        cases hrec : writeLoop ns 0 (buf.drop (B - npos)) with
        | error e => simp [hrec, bind, Except.bind] at h
        | ok q =>
            simp only [hrec, bind, Except.bind, Except.ok.injEq, Prod.mk.injEq] at h
            have hrest : (buf.drop (B - npos)).length ≤ B * ns.length - 0 := by
              rw [List.length_drop]
              omega
            have hflatten := ih hns.tail (Nat.zero_le B) hrest hrec
            have hlen := hns.tail.length_flatten
            rw [← h.1, List.flatten_cons, List.flatten_cons, hflatten,
              overwrite_append_cross (by omega) (by omega) (by omega), hcur]

/-- Reading succeeds where the bytes are there, and returns them. -/
theorem readLoop_spec (hns : Blocks B ns) (hnpos : npos ≤ B) {size : Nat} (hsize : 0 < size)
    (hfit : size ≤ B * ns.length - npos) :
    ∃ steps, readLoop ns npos size = .ok ((ns.flatten.drop npos).take size, steps) := by
  induction ns generalizing npos size with
  | nil =>
      rw [List.length_nil, Nat.mul_zero] at hfit
      omega
  | cons cur ns ih =>
      have hcur := hns.head
      have hdrop : (cur.drop npos).length = B - npos := by rw [List.length_drop, hcur]
      rw [List.length_cons, Nat.mul_succ] at hfit
      simp only [readLoop, hcur, if_neg (show ¬ size = 0 by omega)]
      rw [List.flatten_cons, List.drop_append_of_le_length (by omega)]
      split
      · next hin =>
        refine ⟨if B = npos + size then 1 else 0, ?_⟩
        rw [List.take_append_of_le_length (by omega)]
      · next hout =>
        obtain ⟨steps, hrec⟩ := ih hns.tail (Nat.zero_le B) (show 0 < size - (B - npos) by omega) (by omega)
        refine ⟨steps + 1, ?_⟩
        have hall : (cur.drop npos).take size = cur.drop npos := List.take_of_length_le (by omega)
        rw [hrec, List.take_append, hdrop, hall]
        rfl

/-! ## The operations -/

theorem WellFormed.length_cells (h : a.WellFormed B) : a.flat.cells.length = a.m_capacity :=
  h.blocks.length_flatten.trans h.capacity.symm

theorem WellFormed.flatten_split (h : a.WellFormed B) :
    a.m_root.flatten = (a.m_root.take (a.m_position / B)).flatten ++ (a.chain a.m_cur).flatten := by
  rw [h.chain_cur, ← List.flatten_append, List.take_append_drop]

theorem WellFormed.length_before (hB : 0 < B) (h : a.WellFormed B) :
    (a.m_root.take (a.m_position / B)).flatten.length = B * (a.m_position / B) := by
  have hle : a.m_position / B ≤ a.m_root.length := by
    rw [Nat.div_le_iff_le_mul_add_pred hB]
    exact Nat.le_trans h.position_le (Nat.le_add_right ..)
  rw [(h.blocks.take _).length_flatten, List.length_take, Nat.min_eq_left hle]

/-- addCapacity appends nodes. -/
theorem addCapacity_flat (a : ByteArray) (n : Nat) (memory : Nat → UInt8) :
    ∃ growth, (a.addCapacity n memory).flat = a.flat.grow growth := by
  have hsame : a.flat = a.flat.grow [] := by simp [Flat.grow]
  simp only [addCapacity]
  split
  · exact ⟨[], hsame⟩
  split
  · exact ⟨[], hsame⟩
  · exact ⟨(newNodes a.m_baseSize (a.missingNodes n) memory).flatten, by simp [flat, Flat.grow]⟩

/-- The loop of write, in the whole chain. -/
theorem WellFormed.writeLoop_flat (hB : 0 < B) (h : a.WellFormed B) (hfit : buf.length ≤ a.getCapacity)
    {steps : Nat} (hloop : writeLoop (a.chain a.m_cur) (a.m_position % B) buf = .ok (ns, steps))
    (hlen : ns.length = (a.chain a.m_cur).length) :
    (a.m_root.take (a.m_root.length - ns.length) ++ ns).flatten = overwrite a.m_root.flatten a.m_position buf := by
  have hchain : Blocks B (a.chain a.m_cur) := h.chain_cur ▸ h.blocks.drop _
  have hflatten := writeLoop_flatten hchain (Nat.le_of_lt (Nat.mod_lt _ hB)) (h.room_cur.symm ▸ hfit) hloop
  have hbefore : a.m_root.length - ns.length = a.m_position / B := by
    have hle : a.m_position / B ≤ a.m_root.length := by
      rw [Nat.div_le_iff_le_mul_add_pred hB]
      exact Nat.le_trans h.position_le (Nat.le_add_right ..)
    rw [hlen, h.chain_cur, List.length_drop]
    exact Nat.sub_sub_self hle
  calc (a.m_root.take (a.m_root.length - ns.length) ++ ns).flatten
      _ = (a.m_root.take (a.m_position / B)).flatten ++
            overwrite (a.chain a.m_cur).flatten (a.m_position % B) buf := by
          rw [List.flatten_append, hflatten, hbefore]
      _ = overwrite a.m_root.flatten (B * (a.m_position / B) + a.m_position % B) buf := by
          rw [h.flatten_split, ← h.length_before hB, overwrite_append_right]
      _ = overwrite a.m_root.flatten a.m_position buf := by
          rw [Nat.div_add_mod]

/-- A write that has room overwrites the cells at the cursor. -/
theorem WellFormed.write_flat (hB : 0 < B) (h : a.WellFormed B) {memory : Nat → UInt8}
    (hfit : buf.length ≤ (a.addCapacity buf.length memory).getCapacity) :
    ∃ growth a', a.write buf memory = .ok a' ∧ a'.WellFormed B ∧
      a.m_position + buf.length ≤ (a.flat.cells ++ growth).length ∧ a'.flat = (a.flat.grow growth).write buf := by
  by_cases hbuf : buf = []
  · subst hbuf
    refine ⟨[], a, by simp [ByteArray.write], h, ?_, ?_⟩
    · rw [List.append_nil, h.length_cells]
      exact Nat.le_trans h.position h.size
    · simp [flat, Flat.grow, Flat.write, overwrite_nil, Nat.max_eq_left h.position]
  have hspec := write_spec hB h hbuf memory
  rw [if_pos hfit] at hspec
  obtain ⟨a', hwrite, ha'⟩ := hspec
  obtain ⟨growth, hgrow⟩ := addCapacity_flat a buf.length memory
  have h₁ := h.addCapacity hB buf.length memory
  have hpos : (a.addCapacity buf.length memory).m_position = a.m_position := addCapacity_position _
  refine ⟨growth, a', hwrite, ha', ?_, ?_⟩
  · have hlen := h₁.length_cells
    rw [getCapacity, hpos] at hfit
    rw [hgrow] at hlen
    simp only [Flat.grow] at hlen
    have hle := h₁.position_le
    rw [← h₁.capacity, hpos] at hle
    omega
  · rw [← hgrow]
    simp only [ByteArray.write, if_neg hbuf] at hwrite
    generalize a.addCapacity buf.length memory = a₁ at *
    have hchain : Blocks B (a₁.chain a₁.m_cur) := h₁.chain_cur ▸ h₁.blocks.drop _
    have hloop := writeLoop_spec hB hchain (Nat.le_of_lt (Nat.mod_lt a₁.m_position hB)) hbuf
    rw [h₁.room_cur, if_pos hfit] at hloop
    obtain ⟨ns, hloop, -, hlen⟩ := hloop
    rw [h₁.baseSize, hloop] at hwrite
    cases hwrite
    simp only [flat, Flat.write]
    rw [h₁.writeLoop_flat hB hfit hloop hlen]

/-- A read of bytes that are there returns the cells at the cursor; any other throws. -/
theorem WellFormed.read_flat (hB : 0 < B) (h : a.WellFormed B) {n : Nat} (hn : 0 < n) :
    match a.flat.read n with
    | some (bytes, f) => ∃ a', a.read n = .ok (bytes, a') ∧ a'.WellFormed B ∧ a'.flat = f
    | none => a.read n = .error (.outOfRange "not enough len") := by
  have hpos := h.position
  by_cases hfit : a.m_position + n ≤ a.m_size
  · have hread : a.flat.read n = some ((a.flat.cells.drop a.m_position).take n,
        { a.flat with cursor := a.m_position + n }) := if_pos hfit
    have hchain : Blocks B (a.chain a.m_cur) := h.chain_cur ▸ h.blocks.drop _
    have hroom : n ≤ B * (a.chain a.m_cur).length - a.m_position % B := by
      have hsize := h.size
      rw [h.room_cur, getCapacity]
      omega
    obtain ⟨steps, hloop⟩ := readLoop_spec hchain (Nat.le_of_lt (Nat.mod_lt _ hB)) hn hroom
    have hcells : (a.chain a.m_cur).flatten.drop (a.m_position % B) = a.flat.cells.drop a.m_position := by
      rw [flat, h.flatten_split, ← List.drop_length_add_append, h.length_before hB, Nat.div_add_mod]
    have hok : a.read n = .ok ((a.flat.cells.drop a.m_position).take n,
        { a with m_cur := a.next a.m_cur steps, m_position := a.m_position + n }) := by
      rw [ByteArray.read, if_neg (by rw [getReadSize]; omega), h.baseSize, hloop, hcells]
      rfl
    rw [hread]
    exact ⟨_, hok, h.read hB hok, rfl⟩
  · have hread : a.flat.read n = none := if_neg hfit
    rw [hread, ByteArray.read, if_pos]
    rw [getReadSize]
    omega

theorem WellFormed.setPosition_flat (hB : 0 < B) (h : a.WellFormed B) (v : Nat) :
    match a.flat.setPosition v with
    | some f => ∃ a', a.setPosition v = .ok a' ∧ a'.WellFormed B ∧ a'.flat = f
    | none => a.setPosition v = .error (.outOfRange "set_position out of range") := by
  by_cases hv : v ≤ a.m_capacity
  · have hset : a.flat.setPosition v = some { a.flat with cursor := v, size := max a.m_size v } :=
      if_pos (h.length_cells.symm ▸ hv)
    obtain ⟨a', hok, ha'⟩ := h.setPosition hB hv
    rw [hset]
    refine ⟨a', hok, ha', ?_⟩
    rw [ByteArray.setPosition, if_neg (Nat.not_lt.mpr hv), seekLoop_spec hB h.blocks h.root (h.capacity ▸ hv)] at hok
    cases hok
    rfl
  · have hset : a.flat.setPosition v = none := if_neg (h.length_cells.symm ▸ hv)
    rw [hset, ByteArray.setPosition, if_pos (Nat.lt_of_not_le hv)]

theorem WellFormed.clear_flat (h : a.WellFormed B) : a.clear.flat = a.flat.clear B ∧ a.clear.m_root.length = 1 := by
  obtain ⟨x, ns, hroot⟩ := List.exists_cons_of_ne_nil h.root
  have hx : x.length = B := h.blocks x (by simp [hroot])
  constructor
  · simp only [flat, ByteArray.clear, Flat.clear, hroot, List.take_succ_cons, List.take_zero, List.flatten_cons,
      List.flatten_nil, List.append_nil, Flat.mk.injEq, and_true]
    rw [← hx, List.take_left]
  · simp [ByteArray.clear, hroot]

end Mingfwq.ByteArray
