import Mingfwq.ByteArray.FixedWidths
import Mingfwq.ByteArray.Varints

/-!
# Strings

A string of length zero is read by `read(buf, 0)`, which looks at `m_cur` before it looks at the size: at the end of the
last node there is none.
-/

namespace Mingfwq.ByteArray

open Lib

variable {B n : Nat} {a a' a₁ a₂ : ByteArray} {memory : Memory} {bytes bytes' rest : List UInt8}
  {MINGFWQ_BYTE_ORDER m_endian : ByteOrder}

/-! ## The end of the capacity -/

/-- Whenever it returns, `op` has moved the cursor forward, and new nodes lie at most one node beyond it. -/
def GrowsTo (B : Nat) (op : Op Unit) : Prop :=
  ∀ a a', a.WellFormed B → op a = .ok () a' → a.m_position ≤ a'.m_position ∧
    a.m_capacity ≤ a'.m_capacity ∧ (a'.m_capacity = a.m_capacity ∨ a'.m_capacity < a'.m_position + B)

theorem capacity_addCapacity (hB : 0 < B) (ha : a.WellFormed B) (n : Nat) (memory : Nat → UInt8) :
    a.m_capacity ≤ (a.addCapacity n memory).m_capacity ∧
      ((a.addCapacity n memory).m_capacity = a.m_capacity ∨
        (a.addCapacity n memory).m_capacity < a.m_position + n + B) := by
  simp only [addCapacity]
  split
  · exact ⟨Nat.le_refl _, .inl rfl⟩
  split
  · exact ⟨Nat.le_refl _, .inl rfl⟩
  · next hfull =>
      refine ⟨Nat.le_add_right .., .inr ?_⟩
      have hdm := Nat.div_add_mod (n - a.getCapacity) B
      have hmod := Nat.mod_lt (n - a.getCapacity) hB
      have hpos := ha.position
      have hsize := ha.size
      simp only [missingNodes, ha.baseSize]
      rw [Nat.add_mul, Nat.mul_comm _ B]
      rw [getCapacity] at *
      split <;> omega

theorem growsTo_writeBytes (hB : 0 < B) : GrowsTo B (writeBytes memory bytes) := by
  intro a a' ha hop
  rw [writeBytes] at hop
  split at hop
  · next b hwrite =>
      cases hop
      simp only [ByteArray.write] at hwrite
      split at hwrite
      · cases hwrite
        exact ⟨Nat.le_refl _, Nat.le_refl _, .inl rfl⟩
      · obtain ⟨hle, hgrown⟩ := capacity_addCapacity hB ha bytes.length (memory a)
        simp only [bind, Except.bind] at hwrite
        split at hwrite
        · cases hwrite
        · cases hwrite
          simp only [addCapacity_position]
          exact ⟨Nat.le_add_right .., hle, hgrown⟩
  · cases hop

theorem GrowsTo.seq {op op' : Op Unit} (hw : Writes B op bytes) (h : GrowsTo B op) (h' : GrowsTo B op') :
    GrowsTo B (op >>= fun _ => op') := by
  intro a a' ha hop
  obtain ⟨⟨⟩, a₁, hop₁, hop'⟩ := Op.bind_inv hop
  obtain ⟨hpos, hcap, hgrown⟩ := h a a₁ ha hop₁
  obtain ⟨hpos', hcap', hgrown'⟩ := h' a₁ a' (hw a a₁ ha hop₁).1 hop'
  omega

theorem growsTo_forM {ν : Type} {write : ν → Op Unit} {enc : ν → List UInt8} {items : List ν}
    (hw : ∀ x, Writes B (write x) (enc x)) (h : ∀ x, GrowsTo B (write x)) : GrowsTo B (forM items write) := by
  induction items with
  | nil =>
      rintro a a' ha ⟨⟩
      exact ⟨Nat.le_refl _, Nat.le_refl _, .inl rfl⟩
  | cons x items ih =>
      rw [List.forM_cons]
      exact .seq (hw x) (h x) ih

/-- The cursor is at the end of the last node when it has left the old capacity and come to the end of a node. -/
theorem GrowsTo.full_iff {op : Op Unit} (hw : Writes B op bytes) (h : GrowsTo B op) (ha : a.WellFormed B)
    (hop : op a = .ok () a₁) :
    a₁.m_position = a₁.m_capacity ↔ a.m_capacity ≤ a₁.m_position ∧ a₁.m_position % B = 0 := by
  have ha₁ := (hw a a₁ ha hop).1
  obtain ⟨-, hcap, hgrown⟩ := h a a₁ ha hop
  have hpos := Nat.le_trans ha₁.position ha₁.size
  have hnodes := ha₁.capacity
  constructor
  · intro hfull
    exact ⟨by omega, by rw [hfull, hnodes, Nat.mul_mod_right]⟩
  · rintro ⟨hleft, hmod⟩
    rcases hgrown with hsame | hlt
    · omega
    · have hdiv := Nat.div_add_mod a₁.m_position B
      have hle : a₁.m_root.length ≤ a₁.m_position / B := by
        apply Nat.le_of_lt_succ
        apply Nat.lt_of_mul_lt_mul_left (a := B)
        rw [Nat.mul_succ]
        omega
      have hmul := Nat.mul_le_mul_left B hle
      omega

/-! ## Reading no bytes -/

theorem readLoop_length {ns : List Node} {npos steps : Nat} (h : readLoop ns npos n = .ok (bytes, steps)) :
    bytes.length = n := by
  induction ns generalizing npos n bytes steps with
  | nil => cases h
  | cons cur ns ih =>
      simp only [readLoop] at h
      split at h
      · next hzero =>
        cases h
        exact hzero.symm
      split at h
      · next hin =>
        cases h
        rw [List.length_take, List.length_drop]
        omega
      · next hout =>
        cases hrec : readLoop ns 0 (n - (cur.length - npos)) with
        | error e => simp [hrec, bind, Except.bind] at h
        | ok q =>
            simp only [hrec, bind, Except.bind, Except.ok.injEq, Prod.mk.injEq] at h
            rw [← h.1, List.length_append, List.length_drop, ih hrec]
            omega

theorem readBytes_length (h : readBytes n a = .ok bytes a') : bytes.length = n := by
  simp only [readBytes, ByteArray.read] at h
  split at h
  · next r hread =>
      cases h
      split at hread
      · cases hread
      · simp only [bind, Except.bind] at hread
        split at hread
        · cases hread
        · next q hloop =>
            cases hread
            exact readLoop_length hloop
  · cases h

/-- No bytes are read where there is a node. -/
theorem WellFormed.readBytes_zero (hB : 0 < B) (ha : a.WellFormed B) :
    if a.m_position < a.m_capacity then ∃ a', ByteArray.readBytes 0 a = .ok [] a' ∧ Passed B 0 a a'
    else ByteArray.readBytes 0 a = .error (.fault .nullNode) a := by
  have hchain := ha.chain_cur
  have hcap := ha.capacity
  have hloop : ∀ {npos : Nat}, readLoop (a.chain a.m_cur) npos 0 =
      if a.m_position < a.m_capacity then .ok ([], 0) else .error .nullNode := by
    intro npos
    cases hns : a.chain a.m_cur with
    | nil =>
        have hle := List.drop_eq_nil_iff.mp (hchain.symm.trans hns)
        rw [Nat.le_div_iff_mul_le hB, Nat.mul_comm] at hle
        rw [if_neg (by omega)]
        rfl
    | cons cur ns =>
        have hlt : a.m_position / B < a.m_root.length := by
          apply Nat.lt_of_not_le
          intro hle
          rw [hchain, List.drop_eq_nil_of_le hle] at hns
          cases hns
        rw [Nat.div_lt_iff_lt_mul hB, Nat.mul_comm] at hlt
        rw [if_pos (by omega)]
        rfl
  by_cases hlt : a.m_position < a.m_capacity
  · have hread : a.read 0 = .ok ([], { a with m_cur := a.next a.m_cur 0, m_position := a.m_position + 0 }) := by
      rw [ByteArray.read, if_neg (Nat.not_lt_zero _), hloop, if_pos hlt]
      rfl
    rw [if_pos hlt, ByteArray.readBytes, hread]
    exact ⟨_, rfl, ha.read hB hread, rfl, rfl, rfl⟩
  · rw [if_neg hlt, ByteArray.readBytes, ByteArray.read, if_neg (Nat.not_lt_zero _), hloop, if_neg hlt]
    rfl

/-! ## A string and its size -/

/-- A string and the kind of number its size is written as. -/
inductive StringF where
  | f16 (value : StdString)
  | f32 (value : StdString)
  | f64 (value : StdString)
  | vint (value : StdString)

namespace StringF

def value : StringF → StdString
  | .f16 value | .f32 value | .f64 value | .vint value => value

def write (memory : Memory) (MINGFWQ_BYTE_ORDER m_endian : ByteOrder) : StringF → Op Unit
  | .f16 value => writeStringF16 memory MINGFWQ_BYTE_ORDER m_endian value
  | .f32 value => writeStringF32 memory MINGFWQ_BYTE_ORDER m_endian value
  | .f64 value => writeStringF64 memory MINGFWQ_BYTE_ORDER m_endian value
  | .vint value => writeStringFVint memory value

/-- With the reader that matches the writer. -/
def read (MINGFWQ_BYTE_ORDER m_endian : ByteOrder) : StringF → Op (List UInt8)
  | .f16 _ => readStringF16 MINGFWQ_BYTE_ORDER m_endian
  | .f32 _ => readStringF32 MINGFWQ_BYTE_ORDER m_endian
  | .f64 _ => readStringF64 MINGFWQ_BYTE_ORDER m_endian
  | .vint _ => readStringVint

/-- The bytes in front of the string. -/
def sizeBytes (m_endian : ByteOrder) : StringF → List UInt8
  | .f16 value => m_endian.bytes 2 (UInt16.ofNat value.size).toNat
  | .f32 value => m_endian.bytes 4 (UInt32.ofNat value.size).toNat
  | .f64 value => m_endian.bytes 8 (UInt64.ofNat value.size).toNat
  | .vint value => encoded 10 (UInt64.ofNat value.size).toNat

def encoding (m_endian : ByteOrder) (x : StringF) : List UInt8 := x.sizeBytes m_endian ++ x.value.chars

/-- The number in front of the string is its size. -/
def Counted : StringF → Prop
  | .f16 value => value.size < 2 ^ 16
  | .f32 value => value.size < 2 ^ 32
  | .f64 _ | .vint _ => True

theorem sizeBytes_ne_nil (o : ByteOrder) (x : StringF) : x.sizeBytes o ≠ [] := by
  cases x with
  | f16 value => exact List.length_pos_iff.mp (by rw [sizeBytes, ByteOrder.length_bytes]; decide)
  | f32 value => exact List.length_pos_iff.mp (by rw [sizeBytes, ByteOrder.length_bytes]; decide)
  | f64 value => exact List.length_pos_iff.mp (by rw [sizeBytes, ByteOrder.length_bytes]; decide)
  | vint value => exact List.length_pos_iff.mp (groups_spec (groups64 (UInt64.ofNat value.size))).length_pos

theorem writes (hB : 0 < B) (x : StringF) :
    Writes B (x.write memory MINGFWQ_BYTE_ORDER m_endian) (x.encoding m_endian) := by
  cases x with
  | vint value => exact (writes_writeGroups hB (groups64 _)).seq (writes_writeBytes hB)
  | _ => exact (writes_writeF hB).seq (writes_writeBytes hB)

theorem growsTo (hB : 0 < B) (x : StringF) : GrowsTo B (x.write memory MINGFWQ_BYTE_ORDER m_endian) := by
  cases x with
  | vint value =>
      apply GrowsTo.seq (writes_writeGroups hB (groups64 _)) _ (growsTo_writeBytes hB)
      intro a a' ha hop
      simp only [writeGroups, groups64] at hop
      exact growsTo_writeBytes hB a a' ha hop
  | _ => exact GrowsTo.seq (writes_writeF hB) (growsTo_writeBytes hB) (growsTo_writeBytes hB)

/-- The reader of the size. -/
def readSize (MINGFWQ_BYTE_ORDER m_endian : ByteOrder) : StringF → Op Nat
  | .f16 _ => UInt16.toNat <$> readFuint16 MINGFWQ_BYTE_ORDER m_endian
  | .f32 _ => UInt32.toNat <$> readFuint32 MINGFWQ_BYTE_ORDER m_endian
  | .f64 _ => UInt64.toNat <$> readFuint64 MINGFWQ_BYTE_ORDER m_endian
  | .vint _ => UInt64.toNat <$> readUint64

theorem read_eq (x : StringF) :
    x.read MINGFWQ_BYTE_ORDER m_endian = x.readSize MINGFWQ_BYTE_ORDER m_endian >>= readBytes := by
  cases x <;> exact (bind_map_left ..).symm

theorem reads_readSize (hB : 0 < B) (x : StringF) (hx : x.Counted) :
    Reads B (x.readSize MINGFWQ_BYTE_ORDER m_endian) (x.sizeBytes m_endian) x.value.size := by
  cases x with
  | f16 value =>
      have hsize : (UInt16.ofNat value.size).toNat = value.size := UInt16.toNat_ofNat_of_lt hx
      have hread : Reads B (readF MINGFWQ_BYTE_ORDER m_endian 2) (m_endian.bytes 2 value.size) value.size :=
        reads_readF hB Nat.two_pos hx
      have hmap := (hread.bind_pure UInt16.ofNat).map UInt16.toNat
      rw [hsize] at hmap
      rw [sizeBytes, hsize]
      exact hmap
  | f32 value =>
      have hsize : (UInt32.ofNat value.size).toNat = value.size := UInt32.toNat_ofNat_of_lt hx
      have hread : Reads B (readF MINGFWQ_BYTE_ORDER m_endian 4) (m_endian.bytes 4 value.size) value.size :=
        reads_readF hB (by decide) hx
      have hmap := (hread.bind_pure UInt32.ofNat).map UInt32.toNat
      rw [hsize] at hmap
      rw [sizeBytes, hsize]
      exact hmap
  | f64 value =>
      have hsize : (UInt64.ofNat value.size).toNat = value.size := UInt64.toNat_ofNat_of_lt value.fits
      have hread : Reads B (readF MINGFWQ_BYTE_ORDER m_endian 8) (m_endian.bytes 8 value.size) value.size :=
        reads_readF hB (by decide) value.fits
      have hmap := (hread.bind_pure UInt64.ofNat).map UInt64.toNat
      rw [hsize] at hmap
      rw [sizeBytes, hsize]
      exact hmap
  | vint value =>
      have hsize : (UInt64.ofNat value.size).toNat = value.size := UInt64.toNat_ofNat_of_lt value.fits
      have hgroups := groups_spec (groups64 (UInt64.ofNat value.size))
      have hread := (reads_readUint64 hB hgroups (UInt64.toNat_lt _)).map UInt64.toNat
      rw [UInt64.ofNat_toNat, hsize] at hread
      rw [sizeBytes, hsize]
      exact hread

/-- Behind its size, a string is read unless it is empty and there is no node left. -/
theorem reads (x : StringF) (MINGFWQ_BYTE_ORDER : ByteOrder) (hB : 0 < B) (hx : x.Counted) (ha : a.WellFormed B)
    (hahead : a.ahead = x.encoding m_endian ++ rest) :
    if x.value.chars = [] ∧ a.m_position + (x.encoding m_endian).length = a.m_capacity then
      ∃ e a', x.read MINGFWQ_BYTE_ORDER m_endian a = .error e a'
    else ∃ a', x.read MINGFWQ_BYTE_ORDER m_endian a = .ok x.value.chars a' ∧
      Passed B (x.encoding m_endian).length a a' := by
  rw [encoding, List.append_assoc] at hahead
  obtain ⟨a₁, hsize, hpassed⟩ := x.reads_readSize hB hx a _ ha hahead
  have hahead₁ : a₁.ahead = x.value.chars ++ rest := by rw [hpassed.ahead, hahead, List.drop_left]
  rw [read_eq, Op.bind_ok hsize, encoding, List.length_append]
  by_cases hempty : x.value.chars = []
  · have hzero := hpassed.wellFormed.readBytes_zero hB
    have hpos := Nat.le_trans hpassed.wellFormed.position hpassed.wellFormed.size
    rw [hpassed.position, hpassed.capacity] at hzero hpos
    have hnone : x.value.size = 0 := by rw [StdString.size, hempty]; rfl
    rw [hempty, List.length_nil, Nat.add_zero, hnone]
    split at hzero
    · next hlt =>
        rw [if_neg (by omega)]
        obtain ⟨a', hok, hpassed'⟩ := hzero
        exact ⟨a', hok, hpassed.trans hpassed'⟩
    · next hge =>
        rw [if_pos ⟨rfl, by omega⟩]
        exact ⟨_, _, hzero⟩
  · obtain ⟨a', hok, hpassed'⟩ := reads_readBytes hB hempty a₁ rest hpassed.wellFormed hahead₁
    rw [if_neg (fun h => hempty h.1)]
    exact ⟨a', hok, hpassed.trans hpassed'⟩

theorem counted_of_read {x : StringF} (h : x.read MINGFWQ_BYTE_ORDER m_endian a = .ok x.value.chars a') :
    x.Counted := by
  rw [read_eq] at h
  obtain ⟨n, a₁, hsize, hread⟩ := Op.bind_inv h
  have hlen : x.value.size = n := readBytes_length hread
  cases x with
  | f16 value =>
      obtain ⟨u, -, rfl⟩ := Op.map_inv hsize
      exact hlen.trans_lt u.toNat_lt
  | f32 value =>
      obtain ⟨u, -, rfl⟩ := Op.map_inv hsize
      exact hlen.trans_lt u.toNat_lt
  | f64 value => trivial
  | vint value => trivial

end StringF

/-! ## Lists of strings -/

/-- The last string is empty. -/
def EndsEmpty (values : List StringF) : Prop := values.getLast?.map (fun x => x.value.chars) = some []

instance (values : List StringF) : Decidable (EndsEmpty values) := inferInstanceAs (Decidable (_ = _))

/-- Strings are read one after the other, unless the last is empty and there is no node left for it. -/
theorem strings_read (MINGFWQ_BYTE_ORDER : ByteOrder) (hB : 0 < B) {values : List StringF}
    (hcounted : ∀ x ∈ values, x.Counted) (ha : a.WellFormed B)
    (hahead : a.ahead = values.flatMap (StringF.encoding m_endian) ++ rest) :
    if EndsEmpty values ∧ a.m_position + (values.flatMap (StringF.encoding m_endian)).length = a.m_capacity then
      ∃ e a', values.mapM (StringF.read MINGFWQ_BYTE_ORDER m_endian) a = .error e a'
    else ∃ a',
      values.mapM (StringF.read MINGFWQ_BYTE_ORDER m_endian) a = .ok (values.map fun x => x.value.chars) a' ∧
      Passed B (values.flatMap (StringF.encoding m_endian)).length a a' := by
  induction values generalizing a with
  | nil =>
      rw [if_neg (by simp [EndsEmpty])]
      exact ⟨a, rfl, .zero ha⟩
  | cons x values ih =>
      rw [List.flatMap_cons, List.append_assoc] at hahead
      have hx := x.reads MINGFWQ_BYTE_ORDER hB (hcounted x List.mem_cons_self) ha hahead
      rw [List.mapM_cons, List.flatMap_cons, List.length_append]
      cases values with
      | nil =>
          have hends : EndsEmpty [x] ↔ x.value.chars = [] := by simp [EndsEmpty]
          rw [List.flatMap_nil, List.length_nil, Nat.add_zero]
          simp only [hends]
          split at hx
          · next hlast =>
              obtain ⟨e, a', herror⟩ := hx
              rw [if_pos hlast]
              exact ⟨e, a', Op.bind_error herror⟩
          · next hlast =>
              obtain ⟨a', hok, hpassed⟩ := hx
              rw [if_neg hlast]
              exact ⟨a', by rw [Op.bind_ok hok]; rfl, hpassed⟩
      | cons y values =>
          have hends : EndsEmpty (x :: y :: values) ↔ EndsEmpty (y :: values) := by
            rw [EndsEmpty, EndsEmpty, List.getLast?_cons_cons]
          have hmore : 0 < ((y :: values).flatMap (StringF.encoding m_endian)).length := by
            have hy := List.length_pos_iff.mpr (y.sizeBytes_ne_nil m_endian)
            rw [List.flatMap_cons, StringF.encoding, List.length_append, List.length_append]
            omega
          -- the bytes of the next string are still ahead, so the cursor is not at the end
          have hlen := ha.length_ahead
          have hsize := ha.size
          rw [hahead, List.length_append, List.length_append, getReadSize] at hlen
          rw [if_neg (by omega)] at hx
          obtain ⟨a₁, hok, hpassed⟩ := hx
          have hahead₁ : a₁.ahead = (y :: values).flatMap (StringF.encoding m_endian) ++ rest := by
            rw [hpassed.ahead, hahead, List.drop_left]
          have hrest := ih (fun z hz => hcounted z (List.mem_cons_of_mem _ hz)) hpassed.wellFormed hahead₁
          rw [hpassed.position, hpassed.capacity, Nat.add_assoc] at hrest
          rw [Op.bind_ok hok]
          simp only [hends]
          split at hrest
          · next hlast =>
              obtain ⟨e, a', herror⟩ := hrest
              rw [if_pos hlast]
              exact ⟨e, a', Op.bind_error herror⟩
          · next hlast =>
              obtain ⟨a', hok', hpassed'⟩ := hrest
              rw [if_neg hlast]
              exact ⟨a', by rw [Op.bind_ok hok']; rfl, hpassed.trans hpassed'⟩

/-- Back at the position where the strings begin, they are read as they were written, and the cursor is then behind the
last of them. -/
def StringsBack (MINGFWQ_BYTE_ORDER m_endian : ByteOrder) (values : List StringF) (a a₁ : ByteArray) : Prop :=
  ∃ a₂ a₃, a₁.setPosition a.m_position = .ok a₂ ∧
    values.mapM (StringF.read MINGFWQ_BYTE_ORDER m_endian) a₂ = .ok (values.map fun x => x.value.chars) a₃ ∧
    a₃.m_position = a₁.m_position

/-- What reading back does depends on where the writing has ended. -/
theorem stringsBack_iff (hB : 0 < B) (ha : a.WellFormed B) {values : List StringF}
    (hop : forM values (StringF.write memory MINGFWQ_BYTE_ORDER m_endian) a = .ok () a₁) :
    StringsBack MINGFWQ_BYTE_ORDER m_endian values a a₁ ↔
      (∀ x ∈ values, x.Counted) ∧ ¬ (EndsEmpty values ∧ a₁.m_position = a₁.m_capacity) := by
  have hwrites : Writes B (forM values (StringF.write memory MINGFWQ_BYTE_ORDER m_endian))
      (values.flatMap (StringF.encoding m_endian)) := writes_forM fun x _ => x.writes hB
  have hrest : writeBytes memory [] a₁ = .ok () a₁ := rfl
  obtain ⟨hpos, a₂, more, hset, ha₂, hpos₂, hcap₂, hahead⟩ := hwrites.back hB ha hop hrest
  constructor
  · rintro ⟨b, a₃, hset', hread, hpos₃⟩
    cases hset.symm.trans hset'
    have hcounted : ∀ x ∈ values, x.Counted := by
      intro x hx
      obtain ⟨b, b', hx⟩ := mapM_map_inv hread x hx
      exact StringF.counted_of_read hx
    refine ⟨hcounted, fun hlast => ?_⟩
    have hread' := strings_read MINGFWQ_BYTE_ORDER hB hcounted ha₂ hahead
    rw [hpos₂, hcap₂, ← hpos, if_pos hlast] at hread'
    obtain ⟨e, a', herror⟩ := hread'
    cases herror.symm.trans hread
  · rintro ⟨hcounted, hlast⟩
    have hread := strings_read MINGFWQ_BYTE_ORDER hB hcounted ha₂ hahead
    rw [hpos₂, hcap₂, ← hpos, if_neg hlast] at hread
    obtain ⟨a₃, hok, hpassed⟩ := hread
    exact ⟨a₂, a₃, hset, hok, by rw [hpassed.position, hpos₂, hpos]⟩

/-- An empty string whose size fills the only node: the reader of the string follows a null node. -/
theorem empty_lost : ¬ ∀ B ≥ 1, ∀ init a, (system B init).Reachable a → ∀ memory MINGFWQ_BYTE_ORDER val
    (values : List StringF) a₁,
    forM values (StringF.write memory MINGFWQ_BYTE_ORDER (endian val)) a = .ok () a₁ →
      StringsBack MINGFWQ_BYTE_ORDER (endian val) values a a₁ := by
  intro h
  have hwritten : (match forM [StringF.f16 ⟨[], by decide⟩] (StringF.write (fun _ _ => 0) .little (endian true))
      (new 2 fun _ => 0) with
    | .ok _ a₁ => decide (a₁.m_position = a₁.m_capacity)
    | .error _ _ => false) = true := by decide +kernel
  split at hwritten
  · next a₁ hop =>
      have hback := h 2 (by decide) _ _ .init _ .little true _ a₁ hop
      exact ((stringsBack_iff Nat.two_pos (new_wellFormed _) hop).mp hback).2 ⟨rfl, of_decide_eq_true hwritten⟩
  · cases hwritten

/-- Strings are read back as they were written exactly when their sizes fit the numbers in front of them and the data
do not end with an empty string at the end of a node that is, or comes after, the last one there was. -/
theorem strings_back_iff (hB : 1 ≤ B) {init : Nat → UInt8} (ha : (system B init).Reachable a)
    (MINGFWQ_BYTE_ORDER : ByteOrder) (val : Bool) (values : List StringF)
    (hop : forM values (StringF.write memory MINGFWQ_BYTE_ORDER (endian val)) a = .ok () a₁) :
    StringsBack MINGFWQ_BYTE_ORDER (endian val) values a a₁ ↔ (∀ x ∈ values, x.Counted) ∧
      ¬ (EndsEmpty values ∧
        a.m_capacity ≤ a.m_position + (values.flatMap (StringF.encoding (endian val))).length ∧
        (a.m_position + (values.flatMap (StringF.encoding (endian val))).length) % B = 0) := by
  have hwf := reachable_wellFormed hB ha
  have hwrites : Writes B (forM values (StringF.write memory MINGFWQ_BYTE_ORDER (endian val)))
      (values.flatMap (StringF.encoding (endian val))) := writes_forM fun x _ => x.writes hB
  have hgrows : GrowsTo B (forM values (StringF.write memory MINGFWQ_BYTE_ORDER (endian val))) :=
    growsTo_forM (fun x => x.writes hB) fun x => x.growsTo hB
  have hfull := hgrows.full_iff hwrites hwf hop
  rw [← (hwrites.stored hwf hop).1, ← hfull]
  exact stringsBack_iff hB hwf hop

/-- Strings of all kinds, empty ones among them, in nodes of one byte; the last one is not empty. -/
theorem strings_back_four : ∃ a₁, StringsBack .little .big
    [.f16 ⟨[1, 2], by decide⟩, .vint ⟨[], by decide⟩, .f64 ⟨[], by decide⟩, .f32 ⟨[3], by decide⟩]
    (new 1 fun _ => 0) a₁ := by
  have hwritten : (match forM [StringF.f16 ⟨[1, 2], by decide⟩, .vint ⟨[], by decide⟩, .f64 ⟨[], by decide⟩,
      .f32 ⟨[3], by decide⟩] (StringF.write (fun _ _ => 0) .little (endian false)) (new 1 fun _ => 0) with
    | .ok _ _ => true
    | .error _ _ => false) = true := by decide +kernel
  split at hwritten
  · next a₁ hop =>
      have hlast : ¬ EndsEmpty [.f16 ⟨[1, 2], by decide⟩, .vint ⟨[], by decide⟩, .f64 ⟨[], by decide⟩,
        .f32 ⟨[3], by decide⟩] := by decide
      refine ⟨a₁, (strings_back_iff (Nat.le_refl 1) .init .little false _ hop).mpr ⟨?_, fun h => hlast h.1⟩⟩
      simp [StringF.Counted, StdString.size]
  · cases hwritten

end Mingfwq.ByteArray
