import Mathlib.Algebra.Ring.Nat
import Mingfwq.ByteArray.Codec
import Mingfwq.ByteArray.Flat

/-!
# What an operation writes at the cursor, and what it reads there
-/

namespace Mingfwq.ByteArray

open Lib

variable {B : Nat} {a a' a₁ : ByteArray} {memory : Memory} {α β ν : Type} {bytes bytes' rest : List UInt8}

theorem Op.bind_ok {op : Op α} {f : α → Op β} {v : α} (h : op a = .ok v a') : (op >>= f) a = f v a' := by
  simp only [bind, EStateM.bind, h]

theorem Op.bind_error {op : Op α} {f : α → Op β} {e : Error} (h : op a = .error e a') :
    (op >>= f) a = .error e a' := by
  simp only [bind, EStateM.bind, h]

theorem Op.map_ok {op : Op α} {f : α → β} {v : α} (h : op a = .ok v a') : (f <$> op) a = .ok (f v) a' := by
  simp only [Functor.map, EStateM.map, h]

theorem Op.bind_inv {op : Op α} {f : α → Op β} {v : β} (h : (op >>= f) a = .ok v a') :
    ∃ u a₁, op a = .ok u a₁ ∧ f u a₁ = .ok v a' := by
  simp only [bind, EStateM.bind] at h
  split at h
  · next u a₁ hop => exact ⟨u, a₁, hop, h⟩
  · cases h

theorem Op.map_inv {op : Op α} {f : α → β} {v : β} (h : (f <$> op) a = .ok v a') :
    ∃ u, op a = .ok u a' ∧ f u = v := by
  simp only [Functor.map, EStateM.map] at h
  split at h
  · next u a₁ hop =>
      cases h
      exact ⟨u, hop, rfl⟩
  · cases h

/-! ## Writing -/

/-- From the one state to the other `bytes` have been written at the cursor. -/
structure Wrote (B : Nat) (bytes : List UInt8) (a a' : ByteArray) : Prop where
  wellFormed : a'.WellFormed B
  flat : ∃ growth, a.m_position + bytes.length ≤ (a.flat.cells ++ growth).length ∧
    a'.flat = (a.flat.grow growth).write bytes

theorem Wrote.nil (ha : a.WellFormed B) : Wrote B [] a a := by
  refine ⟨ha, [], ?_, ?_⟩
  · rw [List.append_nil, ha.length_cells]
    exact Nat.le_trans ha.position ha.size
  · simp [ByteArray.flat, Flat.grow, Flat.write, overwrite_nil, Nat.max_eq_left ha.position]

theorem Wrote.trans (h : Wrote B bytes a a₁) (h' : Wrote B bytes' a₁ a') : Wrote B (bytes ++ bytes') a a' := by
  obtain ⟨-, growth, hlen, hflat⟩ := h
  obtain ⟨ha', growth', hlen', hflat'⟩ := h'
  have hpos : a₁.m_position = a.m_position + bytes.length := congrArg Flat.cursor hflat
  have hcells : a₁.flat.cells = overwrite (a.flat.cells ++ growth) a.m_position bytes := congrArg Flat.cells hflat
  have hlength : (a₁.flat.cells ++ growth').length = (a.flat.cells ++ (growth ++ growth')).length := by
    rw [List.length_append, hcells, length_overwrite hlen]
    simp only [List.length_append]
    omega
  rw [hlength, hpos, Nat.add_assoc, ← List.length_append] at hlen'
  refine ⟨ha', growth ++ growth', hlen', ?_⟩
  have hsize : max (max a.m_size (a.m_position + bytes.length)) (a.m_position + bytes.length + bytes'.length) =
      max a.m_size (a.m_position + (bytes ++ bytes').length) := by
    rw [List.length_append]
    omega
  have hover : overwrite (overwrite (a.flat.cells ++ growth) a.m_position bytes ++ growth')
      (a.m_position + bytes.length) bytes' =
        overwrite (a.flat.cells ++ (growth ++ growth')) a.m_position (bytes ++ bytes') := by
    rw [overwrite_overwrite hlen, List.append_assoc]
    simp only [List.length_append] at hlen' ⊢
    omega
  rw [hflat', hflat]
  simp only [Flat.write, Flat.grow, ByteArray.flat, List.length_append] at hsize hover ⊢
  rw [hsize, hover, Nat.add_assoc]

/-- Whenever it returns, `op` has written `bytes` at the cursor. -/
def Writes (B : Nat) (op : Op Unit) (bytes : List UInt8) : Prop :=
  ∀ a a', a.WellFormed B → op a = .ok () a' → Wrote B bytes a a'

theorem writes_nil : Writes B (pure ()) [] := by
  rintro a a' ha ⟨⟩
  exact .nil ha

theorem writes_writeBytes (hB : 0 < B) : Writes B (writeBytes memory bytes) bytes := by
  intro a a' ha hop
  rw [writeBytes] at hop
  split at hop
  · next b hwrite =>
      cases hop
      by_cases hfit : bytes.length ≤ (a.addCapacity bytes.length (memory a)).getCapacity
      · obtain ⟨growth, b, hok, hb, hlen, hflat⟩ := ha.write_flat hB hfit
        cases hok.symm.trans hwrite
        exact ⟨hb, growth, hlen, hflat⟩
      · by_cases hbuf : bytes = []
        · exact absurd (by simp [hbuf]) hfit
        · have hspec := write_spec hB ha hbuf (memory a)
          rw [if_neg hfit] at hspec
          cases hspec.symm.trans hwrite
  · cases hop

theorem Writes.seq {op op' : Op Unit} (h : Writes B op bytes) (h' : Writes B op' bytes') :
    Writes B (op >>= fun _ => op') (bytes ++ bytes') := by
  intro a a' ha hop
  obtain ⟨⟨⟩, a₁, hop₁, hop'⟩ := Op.bind_inv hop
  have hwrote := h a a₁ ha hop₁
  exact hwrote.trans (h' a₁ a' hwrote.wellFormed hop')

theorem writes_forM {write : ν → Op Unit} {enc : ν → List UInt8} {items : List ν}
    (h : ∀ x ∈ items, Writes B (write x) (enc x)) : Writes B (forM items write) (items.flatMap enc) := by
  induction items with
  | nil => exact writes_nil
  | cons x items ih =>
      rw [List.forM_cons, List.flatMap_cons]
      exact (h x List.mem_cons_self).seq (ih fun y hy => h y (List.mem_cons_of_mem _ hy))

/-- The cells an operation has written. -/
theorem Writes.stored {op : Op Unit} (h : Writes B op bytes) (ha : a.WellFormed B) (hop : op a = .ok () a') :
    a'.m_position = a.m_position + bytes.length ∧
      (a'.flat.cells.drop a.m_position).take (a'.m_position - a.m_position) = bytes := by
  obtain ⟨-, growth, hlen, hflat⟩ := h a a' ha hop
  have hpos : a'.flat.cursor = a.m_position + bytes.length := by rw [hflat]; rfl
  have hcells : a'.flat.cells = overwrite (a.flat.cells ++ growth) a.m_position bytes := by rw [hflat]; rfl
  refine ⟨hpos, ?_⟩
  rw [show a'.m_position = a.m_position + bytes.length from hpos, hcells, drop_overwrite hlen, Nat.add_sub_cancel_left,
    List.take_left]

/-! ## Reading -/

/-- The bytes between the cursor and the size. -/
def ahead (a : ByteArray) : List UInt8 := (a.flat.cells.drop a.m_position).take (a.m_size - a.m_position)

theorem WellFormed.length_ahead (h : a.WellFormed B) : a.ahead.length = a.getReadSize := by
  have hcells := h.length_cells
  have hsize := h.size
  rw [ahead, List.length_take, List.length_drop, hcells, getReadSize]
  omega

/-- The cursor has moved over `n` bytes that were there, and nothing else has changed. -/
structure Passed (B n : Nat) (a a' : ByteArray) : Prop where
  wellFormed : a'.WellFormed B
  ahead : a'.ahead = a.ahead.drop n
  position : a'.m_position = a.m_position + n
  capacity : a'.m_capacity = a.m_capacity

theorem Passed.zero (h : a.WellFormed B) : Passed B 0 a a := ⟨h, rfl, rfl, rfl⟩

theorem Passed.trans {n n' : Nat} (h : Passed B n a a₁) (h' : Passed B n' a₁ a') : Passed B (n + n') a a' where
  wellFormed := h'.wellFormed
  ahead := by rw [h'.ahead, h.ahead, List.drop_drop]
  position := by rw [h'.position, h.position, Nat.add_assoc]
  capacity := h'.capacity.trans h.capacity

/-- A read of bytes that are there. -/
theorem WellFormed.readBytes (hB : 0 < B) (h : a.WellFormed B) {n : Nat} (hn : 0 < n) :
    if n ≤ a.ahead.length then ∃ a', readBytes n a = .ok (a.ahead.take n) a' ∧ Passed B n a a'
    else ∃ e, ByteArray.readBytes n a = .error e a := by
  have hread := h.read_flat hB hn
  have hpos := h.position
  have hlen := h.length_ahead
  rw [getReadSize] at hlen
  simp only [ByteArray.readBytes]
  split
  · next hle =>
      have hflat : a.flat.read n = some ((a.flat.cells.drop a.m_position).take n,
          { a.flat with cursor := a.m_position + n }) := if_pos (show a.m_position + n ≤ a.m_size by omega)
      simp only [hflat] at hread
      obtain ⟨a', hok, ha', hf⟩ := hread
      have hcells : a'.flat.cells = a.flat.cells := by rw [hf]
      have hcursor : a'.flat.cursor = a.m_position + n := by rw [hf]
      have hsize : a'.flat.size = a.m_size := by rw [hf]; rfl
      rw [hok]
      refine ⟨a', ?_, ha', ?_, hcursor, ?_⟩
      · rw [ahead, List.take_take, Nat.min_eq_left (by omega)]
      · simp only [flat] at hcells hcursor hsize
        simp only [ahead, flat, hcells, hcursor, hsize]
        rw [List.drop_take, List.drop_drop, Nat.sub_sub]
      · rw [← ha'.length_cells, hcells, h.length_cells]
  · next hgt =>
      have hflat : a.flat.read n = none := if_neg (show ¬ a.m_position + n ≤ a.m_size by omega)
      simp only [hflat] at hread
      rw [hread]
      exact ⟨_, rfl⟩

/-- With `bytes` ahead, `op` reads them and returns `v`. -/
def Reads (B : Nat) (op : Op α) (bytes : List UInt8) (v : α) : Prop :=
  ∀ a rest, a.WellFormed B → a.ahead = bytes ++ rest → ∃ a', op a = .ok v a' ∧ Passed B bytes.length a a'

theorem reads_pure (v : α) : Reads B (pure v) [] v :=
  fun a _ ha _ => ⟨a, rfl, .zero ha⟩

theorem reads_readBytes (hB : 0 < B) (hbytes : bytes ≠ []) : Reads B (readBytes bytes.length) bytes bytes := by
  intro a rest ha hahead
  have hread := ha.readBytes hB (List.length_pos_iff.mpr hbytes)
  rw [if_pos (by rw [hahead, List.length_append]; omega)] at hread
  obtain ⟨a', hok, hpassed⟩ := hread
  rw [hahead, List.take_left] at hok
  exact ⟨a', hok, hpassed⟩

theorem Reads.bind {op : Op α} {f : α → Op β} {v : α} {u : β} (h : Reads B op bytes v) (h' : Reads B (f v) bytes' u) :
    Reads B (op >>= f) (bytes ++ bytes') u := by
  intro a rest ha hahead
  rw [List.append_assoc] at hahead
  obtain ⟨a₁, hop, hpassed⟩ := h a _ ha hahead
  have hahead₁ : a₁.ahead = bytes' ++ rest := by rw [hpassed.ahead, hahead, List.drop_left]
  obtain ⟨a', hop', hpassed'⟩ := h' a₁ rest hpassed.wellFormed hahead₁
  exact ⟨a', (Op.bind_ok hop).trans hop', by rw [List.length_append]; exact hpassed.trans hpassed'⟩

theorem Reads.bind_pure {op : Op α} {v : α} (h : Reads B op bytes v) (f : α → β) :
    Reads B (op >>= fun u => pure (f u)) bytes (f v) := by
  rw [← List.append_nil bytes]
  exact h.bind (reads_pure (f v))

theorem Reads.map {op : Op α} {v : α} (h : Reads B op bytes v) (f : α → β) : Reads B (f <$> op) bytes (f v) := by
  intro a rest ha hahead
  obtain ⟨a', hop, hpassed⟩ := h a rest ha hahead
  exact ⟨a', Op.map_ok hop, hpassed⟩

/-- Whenever it returns, `op` has moved the cursor by `n`. -/
def Consumes (B : Nat) (op : Op α) (n : Nat) : Prop :=
  ∀ a v a', a.WellFormed B → op a = .ok v a' → a'.WellFormed B ∧ a'.m_position = a.m_position + n

theorem consumes_readBytes (hB : 0 < B) {n : Nat} (hn : 0 < n) : Consumes B (readBytes n) n := by
  intro a v a' ha hop
  have hread := ha.readBytes hB hn
  split at hread
  · obtain ⟨b, hok, hpassed⟩ := hread
    cases hok.symm.trans hop
    exact ⟨hpassed.wellFormed, hpassed.position⟩
  · obtain ⟨e, herror⟩ := hread
    cases herror.symm.trans hop

theorem Consumes.bind_pure {op : Op α} {n : Nat} (h : Consumes B op n) (f : α → β) :
    Consumes B (op >>= fun u => pure (f u)) n := by
  intro a v a' ha hop
  obtain ⟨u, a₁, hop, hpure⟩ := Op.bind_inv hop
  cases hpure
  exact h a u a' ha hop

theorem Consumes.map {op : Op α} {n : Nat} (h : Consumes B op n) (f : α → β) : Consumes B (f <$> op) n := by
  intro a v a' ha hop
  obtain ⟨u, hop, -⟩ := Op.map_inv hop
  exact h a u a' ha hop

/-! ## Lists of values -/

theorem consumes_mapM {read : ν → Op α} {width : ν → Nat} {items : List ν}
    (h : ∀ x ∈ items, Consumes B (read x) (width x)) : Consumes B (items.mapM read) (items.map width).sum := by
  induction items with
  | nil =>
      rintro a v a' ha ⟨⟩
      exact ⟨ha, rfl⟩
  | cons x items ih =>
      intro a v a' ha hop
      rw [List.mapM_cons] at hop
      obtain ⟨u, a₁, hread, hop⟩ := Op.bind_inv hop
      obtain ⟨us, a₂, hrest, hpure⟩ := Op.bind_inv hop
      cases hpure
      obtain ⟨ha₁, hpos₁⟩ := h x List.mem_cons_self a u a₁ ha hread
      obtain ⟨ha', hpos'⟩ := ih (fun y hy => h y (List.mem_cons_of_mem _ hy)) a₁ us a' ha₁ hrest
      refine ⟨ha', ?_⟩
      rw [hpos', hpos₁, List.map_cons, List.sum_cons, Nat.add_assoc]

/-- All items of a list, one after the other. -/
theorem reads_mapM {read : ν → Op α} {enc : ν → List UInt8} {val : ν → α} {items : List ν}
    (h : ∀ x ∈ items, Reads B (read x) (enc x) (val x)) :
    Reads B (items.mapM read) (items.flatMap enc) (items.map val) := by
  induction items with
  | nil => exact reads_pure []
  | cons x items ih =>
      rw [List.mapM_cons, List.flatMap_cons, List.map_cons, ← List.append_nil (items.flatMap enc)]
      refine (h x List.mem_cons_self).bind ?_
      exact (ih fun y hy => h y (List.mem_cons_of_mem _ hy)).bind (reads_pure _)

theorem mapM_inv {read : ν → Op α} {items : List ν} {vs : List α} (h : items.mapM read a = .ok vs a') :
    ∀ v ∈ vs, ∃ x ∈ items, ∃ b b', read x b = .ok v b' := by
  induction items generalizing a vs with
  | nil =>
      cases h
      simp
  | cons x items ih =>
      rw [List.mapM_cons] at h
      obtain ⟨v, a₁, hread, h⟩ := Op.bind_inv h
      obtain ⟨us, a₂, hrest, h⟩ := Op.bind_inv h
      cases h
      intro u hu
      rcases List.mem_cons.mp hu with rfl | hu
      · exact ⟨x, List.mem_cons_self, a, a₁, hread⟩
      · obtain ⟨y, hy, b, b', hread'⟩ := ih hrest u hu
        exact ⟨y, List.mem_cons_of_mem _ hy, b, b', hread'⟩

theorem mapM_map_inv {read : ν → Op α} {val : ν → α} {items : List ν}
    (h : items.mapM read a = .ok (items.map val) a') : ∀ x ∈ items, ∃ b b', read x b = .ok (val x) b' := by
  induction items generalizing a with
  | nil => simp
  | cons x items ih =>
      rw [List.mapM_cons, List.map_cons] at h
      obtain ⟨v, a₁, hread, h⟩ := Op.bind_inv h
      obtain ⟨us, a₂, hrest, h⟩ := Op.bind_inv h
      cases h
      intro y hy
      rcases List.mem_cons.mp hy with rfl | hy
      · exact ⟨a, a₁, hread⟩
      · exact ih hrest y hy

/-- Back at the position where the values begin, they are read as they were written, and the cursor is then behind the
last of them. -/
def ReadsBack (read : ν → Op ν) (values : List ν) (a a₁ a₂ : ByteArray) : Prop :=
  ∃ a₃ a₄, a₂.setPosition a.m_position = .ok a₃ ∧ values.mapM read a₃ = .ok values a₄ ∧ a₄.m_position = a₁.m_position

/-- What is ahead after the position is set back. -/
theorem Wrote.back (hB : 0 < B) (h : Wrote B bytes a a₁) :
    ∃ a₂ more, a₁.setPosition a.m_position = .ok a₂ ∧ a₂.WellFormed B ∧ a₂.m_position = a.m_position ∧
      a₂.m_capacity = a₁.m_capacity ∧ a₂.ahead = bytes ++ more := by
  obtain ⟨ha₁, growth, hlen, hflat₁⟩ := h
  have hcells : a₁.flat.cells = overwrite (a.flat.cells ++ growth) a.m_position bytes := by rw [hflat₁]; rfl
  have hsize : a₁.flat.size = max a.m_size (a.m_position + bytes.length) := by rw [hflat₁]; rfl
  have hset := ha₁.setPosition_flat hB a.m_position
  have hle : a.m_position ≤ a₁.flat.cells.length := by
    rw [hcells, length_overwrite hlen]
    omega
  have hsome : a₁.flat.setPosition a.m_position =
      some { a₁.flat with cursor := a.m_position, size := max a₁.flat.size a.m_position } := if_pos hle
  simp only [hsome] at hset
  obtain ⟨a₂, hok, ha₂, hflat₂⟩ := hset
  have hcells₂ : a₂.flat.cells = a₁.flat.cells := by rw [hflat₂]
  have hpos₂ : a₂.flat.cursor = a.m_position := by rw [hflat₂]
  have hsize₂ : a₂.flat.size = a₁.flat.size := by
    rw [hflat₂]
    exact Nat.max_eq_left (by rw [hsize]; omega)
  have hdrop := drop_overwrite hlen
  refine ⟨a₂, (((a.flat.cells ++ growth).drop (a.m_position + bytes.length)).take
    (a₂.m_size - a.m_position - bytes.length)), hok, ha₂, hpos₂, ?_, ?_⟩
  · rw [← ha₂.length_cells, hcells₂, ha₁.length_cells]
  · have hle' : bytes.length ≤ a₂.m_size - a.m_position := by
      have hsize' : a₂.m_size = a₁.flat.size := hsize₂
      rw [hsize', hsize]
      omega
    rw [ahead, show a₂.m_position = a.m_position from hpos₂, hcells₂, hcells, hdrop, List.take_append,
      List.take_of_length_le hle']

theorem Writes.back (hB : 0 < B) (ha : a.WellFormed B) {op : Op Unit} (hw : Writes B op bytes) (hop : op a = .ok () a₁)
    {a₂ : ByteArray} (hrest : writeBytes memory rest a₁ = .ok () a₂) :
    a₁.m_position = a.m_position + bytes.length ∧ ∃ a₃ more, a₂.setPosition a.m_position = .ok a₃ ∧ a₃.WellFormed B ∧
      a₃.m_position = a.m_position ∧ a₃.m_capacity = a₂.m_capacity ∧ a₃.ahead = bytes ++ (rest ++ more) := by
  have hwrote := hw a a₁ ha hop
  have hboth := hwrote.trans (writes_writeBytes hB a₁ a₂ hwrote.wellFormed hrest)
  obtain ⟨a₃, more, hset, ha₃, hpos₃, hcapacity₃, hahead⟩ := hboth.back hB
  rw [List.append_assoc] at hahead
  exact ⟨(hw.stored ha hop).1, a₃, more, hset, ha₃, hpos₃, hcapacity₃, hahead⟩

/-- Values that are written and read item by item are read back. -/
theorem readsBack (hB : 0 < B) (ha : a.WellFormed B) {write : ν → Op Unit} {read : ν → Op ν} {enc : ν → List UInt8}
    {values : List ν} (hwrite : ∀ x ∈ values, Writes B (write x) (enc x))
    (hread : ∀ x ∈ values, Reads B (read x) (enc x) x) (hop : forM values write a = .ok () a₁) {a₂ : ByteArray}
    (hrest : writeBytes memory rest a₁ = .ok () a₂) : ReadsBack read values a a₁ a₂ := by
  obtain ⟨hpos, a₃, more, hset, ha₃, hpos₃, -, hahead⟩ := (writes_forM hwrite).back hB ha hop hrest
  obtain ⟨a₄, hok, hpassed⟩ := reads_mapM (fun x hx => (hread x hx)) a₃ _ ha₃ hahead
  rw [List.map_id'] at hok
  exact ⟨a₃, a₄, hset, hok, by rw [hpassed.position, hpos₃, hpos]⟩

end Mingfwq.ByteArray
