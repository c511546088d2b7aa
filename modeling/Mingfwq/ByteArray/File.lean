import Mathlib.Algebra.Group.Int.Defs
import Mathlib.Data.List.Flatten
import Mingfwq.ByteArray.Buffers
import Mingfwq.ByteArray.Lemmas.Streams

/-!
# Files (bytearray.cpp)

A file is the bytes in it; opening succeeds. `writeToFile` writes one block for each node, from the cursor on.
-/

namespace Mingfwq.ByteArray

open Lib

/-- A null node, or a block that is not one of its node: `ofs.write` is given an address outside or
a negative length. -/
inductive FileFault where
  | nullNode
  | outOfBounds
  deriving DecidableEq, Repr

/-- The loop of writeToFile, on the nodes from `m_cur` on: the blocks it writes. -/
def writeFileLoop (base_size : Nat) : List Node → Nat → Nat → Except FileFault (List (List UInt8))
  | [], _, read_size => if read_size > 0 then .error .nullNode else .ok []
  | cur :: ns, pos, read_size =>
      if read_size > 0 then
        -- `diff` is an int
        let diff : Int := Int.bmod (pos % base_size) (2 ^ 32)
        let len : Int := (if read_size > base_size then base_size else read_size : Nat) - diff
        if 0 ≤ diff ∧ 0 ≤ len ∧ diff + len ≤ cur.length then do
          let blocks ← writeFileLoop base_size ns (pos + len.toNat) (read_size - len.toNat)
          .ok ((cur.drop diff.toNat).take len.toNat :: blocks)
        else .error .outOfBounds
      else .ok []

def writeToFile (a : ByteArray) : Except FileFault (List (List UInt8)) :=
  writeFileLoop a.m_baseSize (a.chain a.m_cur) a.m_position a.getReadSize

/-- `readFromFile`, if it ends within the fuel. The end of the file is seen when a read finds less than it asks for. -/
def readFromFile (memory : Memory) (base_size : Nat) : Nat → List UInt8 → Option (Op Unit)
  | 0, _ => none
  | fuel + 1, file => do
      let buff := file.take base_size
      if buff.length < base_size then some (writeBytes memory buff)
      else
        let rest ← readFromFile memory base_size fuel (file.drop base_size)
        some (writeBytes memory buff >>= fun _ => rest)

/-- The blocks that are written are not empty, and a fresh array of base size `B₂` that reads the file then holds the
bytes that were ahead of the cursor. -/
def Copies (a : ByteArray) (B₂ : Nat) : Prop :=
  ∃ blocks, a.writeToFile = .ok blocks ∧ (∀ block ∈ blocks, block ≠ []) ∧
    ∀ init memory, ∃ fuel op a₁ a₂, readFromFile memory B₂ fuel blocks.flatten = some op ∧
      op (new B₂ init) = .ok () a₁ ∧ a₁.setPosition 0 = .ok a₂ ∧ a₂.m_position = 0 ∧ a₂.m_size = a.getReadSize ∧
        a₂.ahead = a.ahead

/-- Nothing is ahead, or the cursor is at the start of a node, or as much as a node holds is ahead; the offset in the
node fits into an int. -/
def Writable (a : ByteArray) (B : Nat) : Prop :=
  a.getReadSize = 0 ∨ a.m_position % B < 2 ^ 31 ∧ (a.m_position % B = 0 ∨ B ≤ a.getReadSize)

variable {B B₂ pos read_size : Nat} {a a' : ByteArray} {ns : List Node} {cur : Node} {memory : Memory}

/-! ## Writing -/

theorem bmod_of_int {x : Nat} (h : x < 2 ^ 31) : Int.bmod x (2 ^ 32) = x := by
  rw [Int.bmod_def]
  split <;> omega

/-- One block, of `len` bytes. -/
theorem writeFileLoop_cons {len : Nat} (hdiff : pos % B < 2 ^ 31) (hread : 0 < read_size) (hcur : cur.length = B)
    (hle : pos % B + len = min read_size B) :
    writeFileLoop B (cur :: ns) pos read_size =
      (writeFileLoop B ns (pos + len) (read_size - len)).map ((cur.drop (pos % B)).take len :: ·) := by
  have hint : Int.bmod (pos % B) (2 ^ 32) = (pos % B : Nat) := by
    rw [← Int.natCast_mod]
    exact bmod_of_int hdiff
  have hmin : (if read_size > B then B else read_size) = min read_size B := by
    rw [Nat.min_def]
    split <;> split <;> omega
  have hlen : (min read_size B : Nat) - ((pos % B : Nat) : Int) = len := by omega
  have hbounds : (0 : Int) ≤ (pos % B : Nat) ∧ (0 : Int) ≤ len ∧ ((pos % B : Nat) : Int) + len ≤ cur.length := by
    refine ⟨Int.natCast_nonneg _, Int.natCast_nonneg _, ?_⟩
    have := Nat.min_le_right read_size B
    omega
  rw [writeFileLoop, if_pos hread]
  simp only [hint, hmin, hlen, if_pos hbounds, Int.toNat_natCast]
  rfl

/-- From the start of a node, or with a whole node ahead. -/
theorem writeFileLoop_ok (hB : 0 < B) (hns : Blocks B ns) (hdiff : pos % B < 2 ^ 31)
    (hstart : pos % B = 0 ∨ B ≤ read_size) (hfit : pos % B + read_size ≤ B * ns.length) :
    ∃ blocks, writeFileLoop B ns pos read_size = .ok blocks ∧ (∀ block ∈ blocks, block ≠ []) ∧
      blocks.flatten = (ns.flatten.drop (pos % B)).take read_size := by
  induction ns generalizing pos read_size with
  | nil =>
      rw [List.length_nil, Nat.mul_zero] at hfit
      obtain rfl : read_size = 0 := by omega
      exact ⟨[], rfl, by simp, by simp⟩
  | cons cur ns ih =>
      have hcur := hns.head
      have hmod := Nat.mod_lt pos hB
      rcases Nat.eq_zero_or_pos read_size with rfl | hread
      · exact ⟨[], rfl, by simp, by simp⟩
      · have hle : pos % B + (min read_size B - pos % B) = min read_size B := by omega
        generalize hlen : min read_size B - pos % B = len at hle
        have hblock : ((cur.drop (pos % B)).take len).length = len := by
          rw [List.length_take, List.length_drop]
          omega
        -- the rest starts with a node, unless this was the last block
        have hrest : (pos + len) % B = 0 ∨ read_size - len = 0 := by
          by_cases hlast : read_size < B
          · right
            omega
          · left
            have hsum : pos + len = B * (pos / B) + B := by
              have := Nat.div_add_mod pos B
              omega
            rw [hsum, ← Nat.mul_succ, Nat.mul_mod_right]
        rw [List.length_cons, Nat.mul_succ] at hfit
        obtain ⟨blocks, hok, hblocks, hflatten⟩ : ∃ blocks,
            writeFileLoop B ns (pos + len) (read_size - len) = .ok blocks ∧ (∀ block ∈ blocks, block ≠ []) ∧
              blocks.flatten = ns.flatten.take (read_size - len) := by
          rcases hrest with hrest | hrest
          · obtain ⟨blocks, hok, hblocks, hflatten⟩ := ih hns.tail (show (pos + len) % B < 2 ^ 31 by omega) (.inl hrest)
              (show (pos + len) % B + (read_size - len) ≤ B * ns.length by omega)
            rw [hrest, List.drop_zero] at hflatten
            exact ⟨blocks, hok, hblocks, hflatten⟩
          · rw [hrest]
            refine ⟨[], ?_, by simp, by simp⟩
            cases ns <;> rfl
        refine ⟨_, by rw [writeFileLoop_cons hdiff hread hcur hle, hok]; rfl, ?_, ?_⟩
        · intro block hmem
          rcases List.mem_cons.mp hmem with rfl | hmem
          · apply List.ne_nil_of_length_pos
            omega
          · exact hblocks block hmem
        · rw [List.flatten_cons, hflatten, List.flatten_cons, List.drop_append_of_le_length (by omega)]
          rw [List.take_append, List.length_drop, hcur]
          by_cases hlast : read_size < B
          · rw [show read_size - (B - pos % B) = read_size - len by omega, show len = read_size by omega]
          · rw [List.take_of_length_le (i := len) (by rw [List.length_drop]; omega),
              List.take_of_length_le (i := read_size) (by rw [List.length_drop]; omega),
              show read_size - (B - pos % B) = read_size - len by omega]

theorem writeFileLoop_negative (hdiff : pos % B < 2 ^ 31) (hread : 0 < read_size) (hless : read_size < pos % B)
    (blocks : List (List UInt8)) : writeFileLoop B ns pos read_size ≠ .ok blocks := by
  have hint : Int.bmod (pos % B) (2 ^ 32) = (pos % B : Nat) := by
    rw [← Int.natCast_mod]
    exact bmod_of_int hdiff
  cases ns with
  | nil =>
      rw [writeFileLoop, if_pos hread]
      exact nofun
  | cons cur ns =>
      rw [writeFileLoop, if_pos hread]
      simp only [hint]
      rw [if_neg]
      · exact nofun
      · intro hbounds
        have hmin : (if read_size > B then B else read_size) ≤ read_size := by
          split <;> omega
        omega

/-- With less than a node ahead, from within a node, the file does not come out. -/
theorem writeFileLoop_short (hB31 : B ≤ 2 ^ 31) (hns : Blocks B ns) (hread : 0 < read_size) (hshort : read_size < B)
    (hwithin : 0 < pos % B) {blocks : List (List UInt8)} (hok : writeFileLoop B ns pos read_size = .ok blocks) :
    [] ∈ blocks := by
  have hdiff : pos % B < 2 ^ 31 := Nat.lt_of_lt_of_le (Nat.mod_lt _ (by omega)) hB31
  rcases Nat.lt_or_ge read_size (pos % B) with hless | hge
  · exact absurd hok (writeFileLoop_negative hdiff hread hless blocks)
  · cases ns with
    | nil =>
        rw [writeFileLoop, if_pos hread] at hok
        cases hok
    | cons cur ns =>
        have hle : pos % B + (read_size - pos % B) = min read_size B := by omega
        rw [writeFileLoop_cons hdiff hread hns.head hle] at hok
        cases hrest : writeFileLoop B ns (pos + (read_size - pos % B)) (read_size - (read_size - pos % B)) with
        | error e =>
            rw [hrest] at hok
            cases hok
        | ok rest =>
            rw [hrest] at hok
            cases hok
            rcases Nat.eq_or_lt_of_le hge with heq | hgt
            · rw [heq, Nat.sub_self, List.take_zero]
              exact List.mem_cons_self
            · -- the next block would start where this one ends, and be shorter than that
              have hmod : (pos + (read_size - pos % B)) % B = read_size := by
                have hsum : pos + (read_size - pos % B) = B * (pos / B) + read_size := by
                  have := Nat.div_add_mod pos B
                  omega
                rw [hsum, Nat.mul_add_mod, Nat.mod_eq_of_lt hshort]
              exact absurd hrest (writeFileLoop_negative (by omega) (by omega) (by omega) rest)

/-! ## Reading -/

/-- An array that is written from its start, a block after the other. -/
structure Filled (B : Nat) (bytes : List UInt8) (a : ByteArray) : Prop where
  wellFormed : a.WellFormed B
  position : a.m_position = bytes.length
  size : a.m_size = bytes.length
  cells : a.flat.cells.take bytes.length = bytes
  room : a.m_capacity = a.m_position ∨ a.m_position = 0 ∧ a.m_capacity = B

theorem new_filled (init : Nat → UInt8) : Filled B [] (new B init) where
  wellFormed := new_wellFormed init
  position := rfl
  size := rfl
  cells := rfl
  room := .inr ⟨rfl, rfl⟩

theorem write_capacity {buf : List UInt8} {m : Nat → UInt8} (hbuf : buf ≠ []) (h : a.write buf m = .ok a') :
    a'.m_capacity = (a.addCapacity buf.length m).m_capacity := by
  simp only [write, if_neg hbuf] at h
  cases hloop : writeLoop ((a.addCapacity buf.length m).chain (a.addCapacity buf.length m).m_cur)
      ((a.addCapacity buf.length m).m_position % (a.addCapacity buf.length m).m_baseSize) buf with
  | error e =>
      rw [hloop] at h
      cases h
  | ok q =>
      rw [hloop] at h
      cases h
      rfl

/-- addCapacity makes room for one node. -/
theorem Filled.getCapacity_eq (hB : 0 < B) {bytes : List UInt8} (h : Filled B bytes a) {n : Nat} (hpos : 0 < n)
    (hn : n ≤ B) (m : Nat → UInt8) : (a.addCapacity n m).getCapacity = B := by
  rw [getCapacity_addCapacity h.wellFormed hpos]
  simp only [missingNodes, h.wellFormed.baseSize]
  rcases h.room with hroom | ⟨hstart, hroom⟩
  · have hcap : a.getCapacity = 0 := by rw [getCapacity, hroom, Nat.sub_self]
    have hcount : n / B + (if n % B > 0 then 1 else 0) = 1 := by
      rcases Nat.eq_or_lt_of_le hn with rfl | hlt
      · rw [Nat.div_self hB, Nat.mod_self]
        rfl
      · rw [Nat.div_eq_of_lt hlt, Nat.mod_eq_of_lt hlt, if_pos hpos]
    rw [hcap, if_neg (Nat.not_lt_zero _), Nat.sub_zero, hcount]
    omega
  · have hcap : a.getCapacity = B := by rw [getCapacity, hroom, hstart, Nat.sub_zero]
    rw [hcap]
    split
    · rfl
    · next hge =>
        have hzero : n - B = 0 := by omega
        simp [hzero]

/-- A block goes behind the bytes that are there. -/
theorem Filled.write (hB : 0 < B) {bytes buf : List UInt8} (h : Filled B bytes a) (hbuf : buf.length ≤ B) :
    ∃ a', writeBytes memory buf a = .ok () a' ∧ a'.WellFormed B ∧ a'.m_position = (bytes ++ buf).length ∧
      a'.m_size = (bytes ++ buf).length ∧ a'.flat.cells.take (bytes ++ buf).length = bytes ++ buf ∧
      (buf.length = B → a'.m_capacity = a'.m_position) := by
  by_cases hempty : buf = []
  · subst hempty
    rw [List.append_nil]
    refine ⟨a, by simp [writeBytes, ByteArray.write], h.wellFormed, h.position, h.size, h.cells, ?_⟩
    intro hlen
    rw [List.length_nil] at hlen
    omega
  · have hpos := List.length_pos_iff.mpr hempty
    have hcap := h.getCapacity_eq hB hpos hbuf (memory a)
    have hroom : buf.length ≤ (a.addCapacity buf.length (memory a)).getCapacity := hcap ▸ hbuf
    obtain ⟨growth, a', hwrite, ha', hlen, hflat⟩ := h.wellFormed.write_flat hB hroom
    have hposition : a'.m_position = a.m_position + buf.length := congrArg Flat.cursor hflat
    have hsize : a'.m_size = max a.m_size (a.m_position + buf.length) := congrArg Flat.size hflat
    have hcells : a'.flat.cells = overwrite (a.flat.cells ++ growth) a.m_position buf := congrArg Flat.cells hflat
    have hbytes : (a.flat.cells ++ growth).take a.m_position = bytes := by
      have hle : bytes.length ≤ a.flat.cells.length := by
        have := congrArg List.length h.cells
        rw [List.length_take] at this
        omega
      rw [h.position, List.take_append_of_le_length hle, h.cells]
    refine ⟨a', by rw [writeBytes, hwrite], ha', ?_, ?_, ?_, ?_⟩
    · rw [hposition, h.position, List.length_append]
    · rw [hsize, h.size, h.position, List.length_append]
      omega
    · rw [hcells, overwrite_eq hlen, hbytes, ← List.append_assoc, List.take_left]
    · intro hwhole
      rw [write_capacity hempty hwrite, hposition]
      rw [getCapacity, addCapacity_position] at hcap
      omega

/-- The file is read to its end. -/
theorem readFromFile_ok (hB : 0 < B) (memory : Memory) (file : List UInt8) :
    ∃ fuel op, readFromFile memory B fuel file = some op ∧ ∀ bytes a, Filled B bytes a →
      ∃ a', op a = .ok () a' ∧ a'.WellFormed B ∧ a'.m_size = (bytes ++ file).length ∧
        a'.flat.cells.take (bytes ++ file).length = bytes ++ file := by
  induction hn : file.length using Nat.strongRecOn generalizing file with
  | _ n ih =>
    subst hn
    by_cases hlast : file.length < B
    · have htake : file.take B = file := List.take_of_length_le (Nat.le_of_lt hlast)
      refine ⟨1, writeBytes memory file, ?_, ?_⟩
      · rw [readFromFile]
        simp only [htake, if_pos hlast]
      · intro bytes a ha
        obtain ⟨a', hop, hwf, -, hsize, hcells, -⟩ := @Filled.write B a memory hB bytes file ha (Nat.le_of_lt hlast)
        exact ⟨a', hop, hwf, hsize, hcells⟩
    · have hlen : (file.take B).length = B := by
        rw [List.length_take]
        omega
      obtain ⟨fuel, rest, hrest, hreads⟩ := ih (file.drop B).length (by rw [List.length_drop]; omega) (file.drop B) rfl
      refine ⟨fuel + 1, writeBytes memory (file.take B) >>= fun _ => rest, ?_, ?_⟩
      · rw [readFromFile]
        simp only [hlen, Nat.lt_irrefl, if_false, hrest]
        rfl
      · intro bytes a ha
        obtain ⟨a₁, hop, hwf, hposition, hsize, hcells, hroom⟩ :=
          @Filled.write B a memory hB bytes (file.take B) ha (Nat.le_of_eq hlen)
        obtain ⟨a', hrest, hwf', hsize', hcells'⟩ :=
          hreads (bytes ++ file.take B) a₁ ⟨hwf, hposition, hsize, hcells, .inl (hroom hlen)⟩
        rw [List.append_assoc, List.take_append_drop] at hsize' hcells'
        exact ⟨a', (Op.bind_ok hop).trans hrest, hwf', hsize', hcells'⟩

/-! ## The condition -/

theorem WellFormed.writeToFile_eq (h : a.WellFormed B) :
    a.writeToFile = writeFileLoop B (a.m_root.drop (a.m_position / B)) a.m_position a.getReadSize := by
  rw [writeToFile, h.baseSize, h.chain_cur]

theorem WellFormed.writeToFile_ok (hB : 0 < B) (h : a.WellFormed B) (hwritable : Writable a B) :
    ∃ blocks, a.writeToFile = .ok blocks ∧ (∀ block ∈ blocks, block ≠ []) ∧ blocks.flatten = a.ahead := by
  have hpos := h.position
  have hsize := h.size
  by_cases hnone : a.getReadSize = 0
  · have hahead : a.ahead = [] := List.length_eq_zero_iff.mp (h.length_ahead.trans hnone)
    refine ⟨[], ?_, by simp, hahead.symm⟩
    rw [writeToFile, hnone]
    cases a.chain a.m_cur <;> rfl
  · obtain ⟨hdiff, hstart⟩ := hwritable.resolve_left hnone
    have hroom := h.room_cur
    have hmod := Nat.mod_lt a.m_position hB
    rw [h.chain_cur, getCapacity] at hroom
    rw [h.writeToFile_eq]
    obtain ⟨blocks, hok, hblocks, hflatten⟩ := writeFileLoop_ok hB (h.blocks.drop (a.m_position / B)) hdiff hstart
      (by rw [getReadSize] at hnone ⊢; omega)
    rw [h.drop_cells hB (by omega)] at hflatten
    exact ⟨blocks, hok, hblocks, hflatten⟩

theorem WellFormed.copies_of (hB : 0 < B) (hB₂ : 0 < B₂) (h : a.WellFormed B) (hwritable : Writable a B) :
    Copies a B₂ := by
  obtain ⟨blocks, hok, hblocks, hflatten⟩ := h.writeToFile_ok hB hwritable
  refine ⟨blocks, hok, hblocks, fun init memory => ?_⟩
  obtain ⟨fuel, op, hread, hreads⟩ := readFromFile_ok hB₂ memory blocks.flatten
  obtain ⟨a₁, hop, hwf₁, hsize₁, hcells₁⟩ := hreads [] _ (new_filled init)
  rw [List.nil_append, hflatten, h.length_ahead] at hsize₁ hcells₁
  have hset := hwf₁.setPosition_flat hB₂ 0
  have hsome : a₁.flat.setPosition 0 = some { a₁.flat with cursor := 0, size := max a₁.flat.size 0 } :=
    if_pos (Nat.zero_le _)
  simp only [hsome] at hset
  obtain ⟨a₂, hset, -, hflat⟩ := hset
  have hcursor : a₂.m_position = 0 := congrArg Flat.cursor hflat
  have hsize : a₂.m_size = a.getReadSize := by
    have hmax : a₂.m_size = max a₁.m_size 0 := congrArg Flat.size hflat
    rw [hmax, Nat.max_zero, hsize₁]
  have hcells : a₂.flat.cells = a₁.flat.cells := by rw [hflat]
  refine ⟨fuel, op, a₁, a₂, hread, hop, hset, hcursor, hsize, ?_⟩
  rw [ahead, hcursor, hcells, hsize, List.drop_zero, Nat.sub_zero, hcells₁]

theorem WellFormed.writable_of (hB31 : B ≤ 2 ^ 31) (h : a.WellFormed B) (hB : 0 < B) (hcopies : Copies a B₂) :
    Writable a B := by
  obtain ⟨blocks, hok, hblocks, -⟩ := hcopies
  have hmod := Nat.mod_lt a.m_position hB
  rw [h.writeToFile_eq] at hok
  by_contra hnot
  rw [Writable, not_or] at hnot
  obtain ⟨hsome, hnot⟩ := hnot
  have hshort := writeFileLoop_short hB31 (h.blocks.drop _) (by omega) (by omega) (by omega) hok
  exact hblocks [] hshort rfl

/-- A file that is written from a place where the blocks come out is read back, into an array of any base size. With
nodes of no more than 2^31 bytes the blocks come out from no other place. -/
theorem copies_iff (hB : 1 ≤ B) (hB₂ : 1 ≤ B₂) {init : Nat → UInt8} (h : (system B init).Reachable a) :
    (Writable a B → Copies a B₂) ∧ (B ≤ 2 ^ 31 → (Copies a B₂ ↔ Writable a B)) := by
  have hwf := reachable_wellFormed hB h
  have hcopies := hwf.copies_of hB hB₂
  exact ⟨hcopies, fun hB31 => ⟨hwf.writable_of hB31 hB, hcopies⟩⟩

/-- From the second byte of six, with nodes of four. -/
theorem copies_iff_sixBytes : Copies sixBytes 3 :=
  (copies_iff (by decide) (by decide) sixBytes_reachable).1 (.inr (by decide))

/-- Two nodes of four bytes with six bytes in them, the cursor at the fourth byte. -/
def fourthByte : ByteArray := ⟨4, 3, 8, 6, [[1, 2, 3, 4], [5, 6, 0, 0]], some 0⟩

theorem fourthByte_reachable : (system 4 fun _ => 0).Reachable fourthByte :=
  System.Reach.exec (fun _ _ => trivial)
    [.write [1, 2, 3, 4] fun _ => 0, .write [5, 6] fun _ => 0, .setPosition 3] .init rfl

/-- Of the three bytes from the fourth on the first block has none. -/
theorem not_copies_fourthByte : ¬ ∀ B ≥ 1, ∀ B₂ ≥ 1, ∀ init a, (system B init).Reachable a → Copies a B₂ := by
  intro h
  obtain ⟨blocks, hok, -⟩ := h 4 (by decide) 4 (by decide) _ _ fourthByte_reachable
  have hgot : fourthByte.writeToFile = .error .nullNode := by decide +kernel
  cases hgot.symm.trans hok

end Mingfwq.ByteArray
