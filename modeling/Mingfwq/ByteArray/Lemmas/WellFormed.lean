import Mingfwq.ByteArray.Model

/-!
# The invariant of the node chain

The chain consists of blocks of the base size, the capacity counts their bytes, and `m_cur` is the node of
`m_position`, or null at the very end of the chain. What each loop does is a matter of the room left from
its starting node on.
-/

namespace Mingfwq.ByteArray

open Lib

structure WellFormed (B : Nat) (a : ByteArray) : Prop where
  baseSize : a.m_baseSize = B
  root : a.m_root ≠ []
  blocks : Blocks B a.m_root
  capacity : a.m_capacity = B * a.m_root.length
  size : a.m_size ≤ a.m_capacity
  position : a.m_position ≤ a.m_size
  cur : a.m_cur = if a.m_position / B < a.m_root.length then some (a.m_position / B) else none

variable {B npos : Nat} {a : ByteArray} {ns : List Node}

/-! ## The loops -/

/-- Writing succeeds exactly when the bytes fit the nodes, and leaves the cursor at the node of its new
position. -/
theorem writeLoop_spec (hB : 0 < B) (hns : Blocks B ns) (hnpos : npos ≤ B) {buf : List UInt8} (hbuf : buf ≠ []) :
    if buf.length ≤ B * ns.length - npos then
      ∃ ns', writeLoop ns npos buf = .ok (ns', (npos + buf.length) / B) ∧ Blocks B ns' ∧
        ns'.length = ns.length
    else writeLoop ns npos buf = .error .nullNode := by
  have hlen : 0 < buf.length := List.length_pos_iff.mpr hbuf
  induction ns generalizing npos buf with
  | nil => simp [writeLoop, hbuf]
  | cons cur ns ih =>
      have hcur := hns.head
      simp only [writeLoop, hcur, List.length_cons, Nat.mul_succ]
      by_cases hfit : buf.length ≤ B - npos
      · rw [if_pos (by omega), if_pos hfit]
        refine ⟨_, by rw [block_first hB (by omega)], .cons ?_ hns.tail, rfl⟩
        rw [length_overwrite (by omega), hcur]
      · have hrest : buf.drop (B - npos) ≠ [] := by
          rw [ne_eq, List.drop_eq_nil_iff]
          omega
        have hih := ih hns.tail (Nat.zero_le B) hrest (List.length_pos_iff.mpr hrest)
        rw [List.length_drop] at hih
        rw [if_neg hfit]
        split at hih
        · next hroom =>
          obtain ⟨ns', heq, hblocks, hlength⟩ := hih
          rw [if_pos (by omega), heq]
          refine ⟨overwrite cur npos (buf.take (B - npos)) :: ns', ?_, .cons ?_ hblocks,
            congrArg (· + 1) hlength⟩
          · rw [Nat.zero_add, show buf.length - (B - npos) = npos + buf.length - B by omega]
            simp only [bind, Except.bind, block_succ hB (show B ≤ npos + buf.length by omega)]
          · rw [length_overwrite, hcur]
            simp only [List.length_take]
            omega
        · rw [if_neg (by omega), hih]
          rfl

/-- A read that succeeds leaves the cursor at the node of its new position. -/
theorem readLoop_steps (hB : 0 < B) (hns : Blocks B ns) (hnpos : npos ≤ B) {size steps : Nat}
    {bytes : List UInt8} (hsize : size = 0 → npos < B) (h : readLoop ns npos size = .ok (bytes, steps)) :
    steps = (npos + size) / B := by
  induction ns generalizing npos size steps bytes with
  | nil => simp [readLoop] at h
  | cons cur ns ih =>
      have hcur := hns.head
      simp only [readLoop, hcur] at h
      split at h
      · next h0 =>
        simp only [Except.ok.injEq, Prod.mk.injEq] at h
        rw [← h.2, h0, Nat.add_zero, Nat.div_eq_of_lt (hsize h0)]
      split at h
      · simp only [Except.ok.injEq, Prod.mk.injEq] at h
        rw [← h.2, block_first hB (by omega)]
      · cases hrec : readLoop ns 0 (size - (B - npos)) with
        | error e => simp [hrec, bind, Except.bind] at h
        | ok q =>
            simp only [hrec, bind, Except.bind, Except.ok.injEq, Prod.mk.injEq] at h
            have hq := ih hns.tail (Nat.zero_le B) (fun _ => hB) hrec
            rw [Nat.zero_add, show size - (B - npos) = npos + size - B by omega] at hq
            rw [← h.2, hq, block_succ hB (by omega)]

theorem seekLoop_spec (hB : 0 < B) (hns : Blocks B ns) (hne : ns ≠ []) {v : Nat} (hv : v ≤ B * ns.length) :
    seekLoop ns v = .ok (v / B) := by
  induction ns generalizing v with
  | nil => exact absurd rfl hne
  | cons cur ns ih =>
      simp only [seekLoop, hns.head]
      rw [List.length_cons, Nat.mul_succ] at hv
      split
      · have hrest : ns ≠ [] := by
          rintro rfl
          simp only [List.length_nil] at hv
          omega
        rw [ih hns.tail hrest (by omega)]
        simp only [bind, Except.bind, block_succ hB (show B ≤ v by omega)]
      · rw [← block_first hB (show v ≤ B by omega)]
        simp only [eq_comm]

theorem writeBuffersLoop_spec (hns : Blocks B ns) (hnpos : npos ≤ B) {i len : Nat} (hlen : 0 < len) :
    writeBuffersLoop ns i npos len ≠ .error .nullNode ↔ len ≤ B * ns.length - npos := by
  induction ns generalizing i npos len with
  | nil => simp [writeBuffersLoop]; omega
  | cons cur ns ih =>
      simp only [writeBuffersLoop, hns.head, List.length_cons, Nat.mul_succ]
      split
      · simp only [ne_eq, reduceCtorEq, not_false_eq_true, true_iff]
        omega
      · have hih := @ih 0 hns.tail (Nat.zero_le B) (i + 1) (len - (B - npos)) (by omega)
        have hroom : len ≤ B * ns.length + B - npos ↔ len - (B - npos) ≤ B * ns.length - 0 := by omega
        rw [hroom, ← hih]
        cases writeBuffersLoop ns (i + 1) 0 (len - (B - npos)) <;> simp [bind, Except.bind]

/-! ## The cursor -/

theorem WellFormed.position_le (h : a.WellFormed B) : a.m_position ≤ B * a.m_root.length :=
  h.capacity ▸ Nat.le_trans h.position h.size

/-- The nodes from `m_cur` on are those from the node of the position on. -/
theorem WellFormed.chain_cur (h : a.WellFormed B) : a.chain a.m_cur = a.m_root.drop (a.m_position / B) := by
  rw [h.cur]
  split
  · rfl
  · exact (List.drop_eq_nil_of_le (by omega)).symm

theorem WellFormed.room_cur (h : a.WellFormed B) :
    B * (a.chain a.m_cur).length - a.m_position % B = a.getCapacity := by
  rw [h.chain_cur, List.length_drop, room_from_block h.position_le, getCapacity, h.capacity]

/-- `m_cur` keeps up with a position that moves within the chain. -/
theorem WellFormed.next_cur (hB : 0 < B) (h : a.WellFormed B) {size steps : Nat}
    (hsteps : steps = (a.m_position % B + size) / B) :
    a.next a.m_cur steps =
      if (a.m_position + size) / B < a.m_root.length then some ((a.m_position + size) / B) else none := by
  have hpos : (a.m_position + size) / B = a.m_position / B + steps := by
    rw [hsteps, ← Nat.mul_add_div hB, ← Nat.add_assoc, Nat.div_add_mod]
  rw [h.cur, hpos]
  by_cases hcur : a.m_position / B < a.m_root.length
  · rw [if_pos hcur]
    rfl
  · rw [if_neg hcur, if_neg (by omega)]
    rfl

/-! ## The operations -/

theorem blocks_newNodes (s count : Nat) (memory : Nat → UInt8) : Blocks s (newNodes s count memory) := by
  intro x hx
  obtain ⟨i, -, rfl⟩ := List.mem_map.mp hx
  simp

theorem new_wellFormed (memory : Nat → UInt8) : (new B memory).WellFormed B where
  baseSize := rfl
  root := by simp [new, newNodes]
  blocks := blocks_newNodes B 1 memory
  capacity := by simp [new, newNodes]
  size := Nat.zero_le B
  position := Nat.le_refl 0
  cur := by simp [new, newNodes, Nat.zero_div]

variable {memory : Nat → UInt8}

@[simp] theorem addCapacity_position (n : Nat) : (a.addCapacity n memory).m_position = a.m_position := by
  simp only [addCapacity]
  split
  · rfl
  · split <;> rfl

/-- What addCapacity makes of the room for writing. -/
theorem getCapacity_addCapacity (ha : a.WellFormed B) {n : Nat} (hn : 0 < n) (memory : Nat → UInt8) :
    (a.addCapacity n memory).getCapacity =
      if n < a.getCapacity then a.getCapacity else a.getCapacity + a.missingNodes n * B := by
  simp only [addCapacity, if_neg (show ¬n = 0 by omega), gt_iff_lt]
  split
  · rfl
  · have := ha.capacity ▸ ha.position_le
    simp only [getCapacity, ha.baseSize] at *
    omega

/-- The new nodes hold the missing bytes exactly when these fill whole nodes, or leave a remainder above the
old free capacity: the remainder test compares the two. -/
theorem missingNodes_fit_iff (hB : 0 < B) (h : a.WellFormed B) (n : Nat) :
    n - a.getCapacity ≤ a.missingNodes n * B ↔
      (n - a.getCapacity) % B = 0 ∨ a.getCapacity < (n - a.getCapacity) % B := by
  simp only [missingNodes, h.baseSize]
  have hdm := Nat.div_add_mod (n - a.getCapacity) B
  have hmod := Nat.mod_lt (n - a.getCapacity) hB
  rw [Nat.add_mul, Nat.mul_comm _ B]
  split <;> omega

theorem WellFormed.addCapacity (hB : 0 < B) (h : a.WellFormed B) (n : Nat) (memory : Nat → UInt8) :
    (a.addCapacity n memory).WellFormed B := by
  simp only [ByteArray.addCapacity]
  split
  · exact h
  split
  · exact h
  have hle := h.position_le
  have hcap := h.capacity
  refine ⟨h.baseSize, List.append_ne_nil_of_left_ne_nil h.root _, .append h.blocks ?_, ?_, ?_, h.position, ?_⟩
  · rw [h.baseSize]
    exact blocks_newNodes B _ memory
  · simp only [hcap, h.baseSize, List.length_append, newNodes, List.length_map, List.length_range]
    rw [Nat.mul_add, Nat.mul_comm B (a.missingNodes n)]
  · exact Nat.le_trans h.size (Nat.le_add_right ..)
  · simp only [List.length_append, newNodes, List.length_map, List.length_range]
    by_cases hfull : a.getCapacity = 0
    · -- the position is at the end of the chain: the next node is the first new one, if there is one
      have hdiv : a.m_position / B = a.m_root.length := by
        rw [getCapacity] at hfull
        rw [show a.m_position = B * a.m_root.length by omega, Nat.mul_div_cancel_left _ hB]
      rw [if_pos hfull, hdiv]
      by_cases hcount : a.missingNodes n = 0
      · rw [if_pos hcount, if_neg (by omega)]
      · rw [if_neg hcount, if_pos (by omega)]
    · have hdiv : a.m_position / B < a.m_root.length := by
        rw [getCapacity] at hfull
        exact Nat.div_lt_of_lt_mul (by omega)
      rw [if_neg hfull, h.cur, if_pos hdiv, if_pos (by omega)]

theorem WellFormed.clear (h : a.WellFormed B) : a.clear.WellFormed B := by
  have hlen : (a.m_root.take 1).length = 1 := by
    have := List.length_pos_iff.mpr h.root
    rw [List.length_take]
    omega
  refine ⟨h.baseSize, ?_, h.blocks.take 1, ?_, Nat.zero_le _, Nat.le_refl 0, ?_⟩
  · exact List.length_pos_iff.mp (by rw [ByteArray.clear, hlen]; exact Nat.one_pos)
  · simp [ByteArray.clear, h.baseSize, hlen]
  · simp [ByteArray.clear, hlen]

/-- The cursor moves forward within the capacity over nodes whose contents may have changed. -/
theorem WellFormed.advance (hB : 0 < B) (h : a.WellFormed B) {size steps m_size : Nat}
    {root : List Node} (hroot : Blocks B root) (hlen : root.length = a.m_root.length)
    (hsize : max a.m_size (a.m_position + size) = m_size) (hcap : m_size ≤ a.m_capacity)
    (hsteps : steps = (a.m_position % B + size) / B) :
    WellFormed B { a with
      m_root := root
      m_cur := a.next a.m_cur steps
      m_position := a.m_position + size
      m_size := m_size } where
  baseSize := h.baseSize
  root := List.length_pos_iff.mp (hlen ▸ List.length_pos_iff.mpr h.root)
  blocks := hroot
  capacity := by rw [h.capacity, hlen]
  size := hcap
  position := hsize ▸ Nat.le_max_right ..
  cur := by simp only [h.next_cur hB hsteps, hlen]

/-- A write succeeds exactly when addCapacity made room for it. -/
theorem write_spec (hB : 0 < B) (h : a.WellFormed B) {buf : List UInt8} (hbuf : buf ≠ [])
    (memory : Nat → UInt8) :
    if buf.length ≤ (a.addCapacity buf.length memory).getCapacity then
      ∃ a', a.write buf memory = .ok a' ∧ a'.WellFormed B
    else a.write buf memory = .error .nullNode := by
  have h₁ := h.addCapacity hB buf.length memory
  simp only [write, if_neg hbuf]
  generalize a.addCapacity buf.length memory = a₁ at h₁ ⊢
  have hchain : Blocks B (a₁.chain a₁.m_cur) := h₁.chain_cur ▸ h₁.blocks.drop _
  have hloop := writeLoop_spec hB hchain (Nat.le_of_lt (Nat.mod_lt a₁.m_position hB)) hbuf
  have hnpos : a₁.m_position % a₁.m_baseSize = a₁.m_position % B := by rw [h₁.baseSize]
  rw [h₁.room_cur] at hloop
  rw [hnpos]
  split at hloop
  · next hfit =>
    obtain ⟨ns, heq, hns, hlen⟩ := hloop
    have hle : ns.length ≤ a₁.m_root.length := by
      rw [hlen, h₁.chain_cur, List.length_drop]
      exact Nat.sub_le ..
    have hroot : (a₁.m_root.take (a₁.m_root.length - ns.length) ++ ns).length = a₁.m_root.length := by
      rw [List.length_append, List.length_take]
      omega
    have hcap : max a₁.m_size (a₁.m_position + buf.length) ≤ a₁.m_capacity := by
      have hpos := h₁.position
      have hsize := h₁.size
      rw [getCapacity] at hfit
      omega
    rw [if_pos hfit, heq]
    exact ⟨_, rfl, h₁.advance hB (.append (h₁.blocks.take _) hns) hroot rfl hcap rfl⟩
  · next hfit =>
    rw [if_neg hfit, hloop]
    rfl

theorem WellFormed.read (hB : 0 < B) (h : a.WellFormed B) {size : Nat} {bytes : List UInt8} {a' : ByteArray}
    (hr : a.read size = .ok (bytes, a')) : a'.WellFormed B := by
  simp only [ByteArray.read] at hr
  split at hr
  · cases hr
  · next hsize =>
    cases hloop : readLoop (a.chain a.m_cur) (a.m_position % a.m_baseSize) size with
    | error e => simp [hloop, bind, Except.bind] at hr
    | ok q =>
        simp only [hloop, bind, Except.bind, Except.ok.injEq, Prod.mk.injEq] at hr
        rw [h.baseSize] at hloop
        have hchain : Blocks B (a.chain a.m_cur) := h.chain_cur ▸ h.blocks.drop _
        have hmod := Nat.mod_lt a.m_position hB
        have hsteps := readLoop_steps hB hchain (Nat.le_of_lt hmod) (fun _ => hmod) hloop
        have hle := h.position
        have hcap := h.size
        rw [getReadSize] at hsize
        rw [← hr.2]
        exact h.advance hB h.blocks rfl (by omega) hcap hsteps

theorem WellFormed.setPosition (hB : 0 < B) (h : a.WellFormed B) {v : Nat} (hv : v ≤ a.m_capacity) :
    ∃ a', a.setPosition v = .ok a' ∧ a'.WellFormed B := by
  rw [h.capacity] at hv
  have hroot := List.length_pos_iff.mpr h.root
  have hset : a.setPosition v =
      .ok { a with m_position := v, m_size := max a.m_size v, m_cur := a.next (some 0) (v / B) } := by
    rw [ByteArray.setPosition, if_neg (by rw [h.capacity]; omega), seekLoop_spec hB h.blocks h.root hv]
    rfl
  have hsize := h.size
  have hcap := h.capacity
  refine ⟨_, hset, h.baseSize, h.root, h.blocks, hcap, ?_, Nat.le_max_right .., ?_⟩
  · simp only
    omega
  · simp [next]

theorem getWriteBuffers_spec (hB : 0 < B) (h : a.WellFormed B) {len : Nat} (hlen : 0 < len) :
    a.getWriteBuffers len memory ≠ .error .nullNode ↔ len ≤ (a.addCapacity len memory).getCapacity := by
  have h₁ := h.addCapacity hB len memory
  simp only [getWriteBuffers, if_neg (show ¬len = 0 by omega)]
  generalize a.addCapacity len memory = a₁ at h₁ ⊢
  have hchain : Blocks B (a₁.chain a₁.m_cur) := h₁.chain_cur ▸ h₁.blocks.drop _
  have hloop := writeBuffersLoop_spec hchain (Nat.le_of_lt (Nat.mod_lt a₁.m_position hB)) hlen
    (i := a₁.m_cur.getD 0)
  rw [h₁.room_cur] at hloop
  rw [h₁.baseSize, ← hloop]
  cases writeBuffersLoop (a₁.chain a₁.m_cur) (a₁.m_cur.getD 0) (a₁.m_position % B) len <;>
    simp [bind, Except.bind]

theorem WellFormed.getWriteBuffers (hB : 0 < B) (h : a.WellFormed B) {len : Nat} {iovs : List Iovec}
    {a' : ByteArray} (hg : a.getWriteBuffers len memory = .ok (iovs, a')) : a'.WellFormed B := by
  simp only [ByteArray.getWriteBuffers] at hg
  split at hg
  · simp only [Except.ok.injEq, Prod.mk.injEq] at hg
    exact hg.2 ▸ h
  · simp only [bind, Except.bind] at hg
    split at hg
    · cases hg
    · simp only [Except.ok.injEq, Prod.mk.injEq] at hg
      exact hg.2 ▸ h.addCapacity hB len memory

/-! ## Runs -/

theorem WellFormed.step (hB : 0 < B) (h : a.WellFormed B) {c : Call} {a' : ByteArray}
    (hs : a.step c = .next a') : a'.WellFormed B := by
  -- a call that throws leaves the array alone, and one that follows a null node reaches no state
  have hout : ∀ r : Except Fault ByteArray, (∀ b, r = .ok b → b.WellFormed B) →
      a.outcome r = .next a' → a'.WellFormed B := by
    intro r hr ho
    cases r with
    | ok b =>
        simp only [outcome, Outcome.next.injEq] at ho
        exact ho ▸ hr b rfl
    | error e =>
        cases e <;> simp only [outcome, Outcome.next.injEq, reduceCtorEq] at ho
        exact ho ▸ h
  cases c with
  | write buf memory =>
      refine hout _ (fun b hb => ?_) hs
      by_cases hbuf : buf = []
      · simp only [write, if_pos hbuf, Except.ok.injEq] at hb
        exact hb ▸ h
      · have hw := write_spec hB h hbuf memory
        split at hw
        · obtain ⟨b', heq, hb'⟩ := hw
          simp only [heq, Except.ok.injEq] at hb
          exact hb ▸ hb'
        · simp [hw] at hb
  | read size =>
      refine hout _ (fun b hb => ?_) hs
      cases hr : a.read size with
      | error e => simp [hr, Except.map] at hb
      | ok q =>
          simp only [hr, Except.map, Except.ok.injEq] at hb
          exact hb ▸ h.read hB hr
  | setPosition v =>
      refine hout _ (fun b hb => ?_) hs
      by_cases hv : v ≤ a.m_capacity
      · obtain ⟨b', heq, hb'⟩ := h.setPosition hB hv
        simp only [heq, Except.ok.injEq] at hb
        exact hb ▸ hb'
      · rw [ByteArray.setPosition, if_pos (by omega)] at hb
        cases hb
  | clear =>
      cases hs
      exact h.clear
  | getWriteBuffers len memory =>
      refine hout _ (fun b hb => ?_) hs
      cases hg : a.getWriteBuffers len memory with
      | error e => simp [hg, Except.map] at hb
      | ok q =>
          simp only [hg, Except.map, Except.ok.injEq] at hb
          exact hb ▸ h.getWriteBuffers hB hg

theorem reachable_wellFormed (hB : 0 < B) (h : (system B memory).Reachable a) : a.WellFormed B :=
  h.invariant (new_wellFormed memory) fun _ _ _ ha _ hs => ha.step hB hs

end Mingfwq.ByteArray
