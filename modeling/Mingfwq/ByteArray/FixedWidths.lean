import Mathlib.Algebra.Order.BigOperators.Group.List
import Mingfwq.ByteArray.Lemmas.Streams

/-!
# Values of fixed width
-/

namespace Mingfwq.ByteArray

open Lib

variable {B n v : Nat} {a a' a₁ a₂ : ByteArray} {memory : Memory} {rest : List UInt8}
  {MINGFWQ_BYTE_ORDER m_endian : ByteOrder}

theorem writes_writeF (hB : 0 < B) :
    Writes B (writeF memory MINGFWQ_BYTE_ORDER m_endian n v) (m_endian.bytes n v) := by
  by_cases hsame : m_endian = MINGFWQ_BYTE_ORDER
  · subst hsame
    have hwrite : writeF memory m_endian m_endian n v = writeBytes memory (m_endian.bytes n v) := by
      simp only [writeF, ne_eq, not_true_eq_false, if_false]
    rw [hwrite]
    exact writes_writeBytes hB
  · have hwrite : writeF memory MINGFWQ_BYTE_ORDER m_endian n v = writeBytes memory (m_endian.bytes n v) := by
      simp only [writeF, ne_eq, hsame, not_false_eq_true, if_true, ByteOrder.bytes_swap (Ne.symm hsame)]
    rw [hwrite]
    exact writes_writeBytes hB

theorem reads_readF (hB : 0 < B) (hn : 0 < n) (hv : v < 256 ^ n) :
    Reads B (readF MINGFWQ_BYTE_ORDER m_endian n) (m_endian.bytes n v) v := by
  have hne : m_endian.bytes n v ≠ [] := List.length_pos_iff.mp (by rwa [ByteOrder.length_bytes])
  have hbytes := reads_readBytes hB hne
  rw [ByteOrder.length_bytes] at hbytes
  rw [readF, ← List.append_nil (m_endian.bytes n v)]
  refine hbytes.bind ?_
  by_cases hsame : m_endian = MINGFWQ_BYTE_ORDER
  · rw [if_pos hsame, ← hsame, ByteOrder.value_bytes _ hv]
    exact reads_pure v
  · rw [if_neg hsame, ByteOrder.swap_value_bytes (Ne.symm hsame) hv]
    exact reads_pure v

theorem consumes_readF (hB : 0 < B) (hn : 0 < n) : Consumes B (readF MINGFWQ_BYTE_ORDER m_endian n) n := by
  intro a v a' ha hop
  obtain ⟨bytes, a₁, hread, hpure⟩ := Op.bind_inv hop
  have hsame : a' = a₁ := by
    split at hpure <;> cases hpure <;> rfl
  rw [hsame]
  exact consumes_readBytes hB hn a bytes a₁ ha hread

/-- A value of fixed width; floating point numbers are bit patterns. -/
inductive Fixed where
  | int8 (v : Int8)
  | uint8 (v : UInt8)
  | int16 (v : Int16)
  | uint16 (v : UInt16)
  | int32 (v : Int32)
  | uint32 (v : UInt32)
  | int64 (v : Int64)
  | uint64 (v : UInt64)
  | float (v : UInt32)
  | double (v : UInt64)
  deriving DecidableEq, Repr

namespace Fixed

def write (memory : Memory) (MINGFWQ_BYTE_ORDER m_endian : ByteOrder) : Fixed → Op Unit
  | .int8 v => writeFint8 memory v
  | .uint8 v => writeFuint8 memory v
  | .int16 v => writeFint16 memory MINGFWQ_BYTE_ORDER m_endian v
  | .uint16 v => writeFuint16 memory MINGFWQ_BYTE_ORDER m_endian v
  | .int32 v => writeFint32 memory MINGFWQ_BYTE_ORDER m_endian v
  | .uint32 v => writeFuint32 memory MINGFWQ_BYTE_ORDER m_endian v
  | .int64 v => writeFint64 memory MINGFWQ_BYTE_ORDER m_endian v
  | .uint64 v => writeFuint64 memory MINGFWQ_BYTE_ORDER m_endian v
  | .float v => writeFloat memory MINGFWQ_BYTE_ORDER m_endian v
  | .double v => writeDouble memory MINGFWQ_BYTE_ORDER m_endian v

/-- With the reader that matches the writer. -/
def read (MINGFWQ_BYTE_ORDER m_endian : ByteOrder) : Fixed → Op Fixed
  | .int8 _ => .int8 <$> readFint8
  | .uint8 _ => .uint8 <$> readFuint8
  | .int16 _ => .int16 <$> readFint16 MINGFWQ_BYTE_ORDER m_endian
  | .uint16 _ => .uint16 <$> readFuint16 MINGFWQ_BYTE_ORDER m_endian
  | .int32 _ => .int32 <$> readFint32 MINGFWQ_BYTE_ORDER m_endian
  | .uint32 _ => .uint32 <$> readFuint32 MINGFWQ_BYTE_ORDER m_endian
  | .int64 _ => .int64 <$> readFint64 MINGFWQ_BYTE_ORDER m_endian
  | .uint64 _ => .uint64 <$> readFuint64 MINGFWQ_BYTE_ORDER m_endian
  | .float _ => .float <$> readFloat MINGFWQ_BYTE_ORDER m_endian
  | .double _ => .double <$> readBouble MINGFWQ_BYTE_ORDER m_endian

/-- The bytes of a value. -/
def width : Fixed → Nat
  | .int8 _ | .uint8 _ => 1
  | .int16 _ | .uint16 _ => 2
  | .int32 _ | .uint32 _ | .float _ => 4
  | .int64 _ | .uint64 _ | .double _ => 8

/-- The bit pattern of a value. -/
def bits : Fixed → Nat
  | .int8 v => v.toUInt8.toNat
  | .uint8 v => v.toNat
  | .int16 v => v.toUInt16.toNat
  | .uint16 v => v.toNat
  | .int32 v => v.toUInt32.toNat
  | .uint32 v => v.toNat
  | .int64 v => v.toUInt64.toNat
  | .uint64 v => v.toNat
  | .float v => v.toNat
  | .double v => v.toNat

/-- The representation in a byte order. -/
def representation (o : ByteOrder) (x : Fixed) : List UInt8 := o.bytes x.width x.bits

def isDouble : Fixed → Bool
  | .double _ => true
  | _ => false

theorem bytes_one (o : ByteOrder) (b : UInt8) : o.bytes 1 b.toNat = [b] := by
  cases o <;> simp [ByteOrder.bytes, lowBytes]

theorem length_representation (o : ByteOrder) (x : Fixed) : (x.representation o).length = x.width :=
  ByteOrder.length_bytes ..

theorem width_pos (x : Fixed) : 0 < x.width := by
  cases x <;> simp [width]

theorem writes (hB : 0 < B) (x : Fixed) :
    Writes B (x.write memory MINGFWQ_BYTE_ORDER m_endian) (x.representation m_endian) := by
  cases x with
  | int8 v =>
      rw [show (int8 v).representation m_endian = [v.toUInt8] from bytes_one m_endian v.toUInt8]
      exact writes_writeBytes hB
  | uint8 v =>
      rw [show (uint8 v).representation m_endian = [v] from bytes_one m_endian v]
      exact writes_writeBytes hB
  | _ => exact writes_writeF hB

/-- A number is read by its bit pattern. -/
theorem reads_of_bits {α : Type} {f : Nat → α} {g : α → Fixed} {x : Fixed} (hB : 0 < B)
    (hv : x.bits < 2 ^ (8 * x.width)) (hx : g (f x.bits) = x) :
    Reads B (g <$> (readF MINGFWQ_BYTE_ORDER m_endian x.width >>= fun n => pure (f n)))
      (x.representation m_endian) x := by
  have hpow : x.bits < 256 ^ x.width := by
    rw [Nat.pow_mul] at hv
    exact hv
  have hread : Reads B (readF MINGFWQ_BYTE_ORDER m_endian x.width) (x.representation m_endian) x.bits :=
    reads_readF hB x.width_pos hpow
  have hmap := (hread.bind_pure f).map g
  rw [hx] at hmap
  exact hmap

theorem reads (hB : 0 < B) (x : Fixed) (hx : x.isDouble = false) :
    Reads B (x.read MINGFWQ_BYTE_ORDER m_endian) (x.representation m_endian) x := by
  cases x with
  | int8 v =>
      rw [show (int8 v).representation m_endian = [v.toUInt8] from bytes_one m_endian v.toUInt8]
      exact ((reads_readBytes hB (List.cons_ne_nil _ _)).bind_pure fun bytes => (bytes.headD 0).toInt8).map int8
  | uint8 v =>
      rw [show (uint8 v).representation m_endian = [v] from bytes_one m_endian v]
      exact ((reads_readBytes hB (List.cons_ne_nil _ _)).bind_pure fun bytes => bytes.headD 0).map uint8
  | int16 v =>
      apply reads_of_bits (g := int16) (x := int16 v) hB v.toUInt16.toNat_lt
      simp only [bits, UInt16.ofNat_toNat]
      rfl
  | uint16 v =>
      apply reads_of_bits (g := uint16) (x := uint16 v) hB v.toNat_lt
      rw [bits, UInt16.ofNat_toNat]
  | int32 v =>
      apply reads_of_bits (g := int32) (x := int32 v) hB v.toUInt32.toNat_lt
      rw [bits, UInt32.ofNat_toNat]
      rfl
  | uint32 v =>
      apply reads_of_bits (g := uint32) (x := uint32 v) hB v.toNat_lt
      rw [bits, UInt32.ofNat_toNat]
  | int64 v =>
      apply reads_of_bits (g := int64) (x := int64 v) hB v.toUInt64.toNat_lt
      rw [bits, UInt64.ofNat_toNat]
      rfl
  | uint64 v =>
      apply reads_of_bits (g := uint64) (x := uint64 v) hB v.toNat_lt
      rw [bits, UInt64.ofNat_toNat]
  | float v =>
      apply reads_of_bits (g := float) (x := float v) hB v.toNat_lt
      rw [bits, UInt32.ofNat_toNat]
  | double v => cases hx

/-- The bytes that the reader takes. -/
def readWidth : Fixed → Nat
  | .double _ => 4
  | x => x.width

theorem consumes (hB : 0 < B) (x : Fixed) :
    Consumes B (x.read MINGFWQ_BYTE_ORDER m_endian) x.readWidth := by
  cases x with
  | int8 v => exact ((consumes_readBytes hB Nat.one_pos).bind_pure _).map _
  | uint8 v => exact ((consumes_readBytes hB Nat.one_pos).bind_pure _).map _
  | double v => exact (((consumes_readF hB (show 0 < 4 by decide)).bind_pure _).bind_pure _).map _
  | int16 v => exact ((consumes_readF hB (int16 v).width_pos).bind_pure _).map _
  | uint16 v => exact ((consumes_readF hB (uint16 v).width_pos).bind_pure _).map _
  | int32 v => exact ((consumes_readF hB (int32 v).width_pos).bind_pure _).map _
  | uint32 v => exact ((consumes_readF hB (uint32 v).width_pos).bind_pure _).map _
  | int64 v => exact ((consumes_readF hB (int64 v).width_pos).bind_pure _).map _
  | uint64 v => exact ((consumes_readF hB (uint64 v).width_pos).bind_pure _).map _
  | float v => exact ((consumes_readF hB (float v).width_pos).bind_pure _).map _

theorem readWidth_le (x : Fixed) : x.readWidth ≤ x.width := by
  cases x <;> simp [readWidth, width]

theorem readWidth_eq_iff (x : Fixed) : x.readWidth = x.width ↔ x.isDouble = false := by
  cases x <;> simp [readWidth, width, isDouble]

theorem isDouble_of_sum_eq {values : List Fixed} (h : (values.map readWidth).sum = (values.map width).sum) :
    ∀ x ∈ values, x.isDouble = false := by
  induction values with
  | nil => simp
  | cons y values ih =>
      have hle : (values.map readWidth).sum ≤ (values.map width).sum :=
        List.sum_le_sum fun x _ => x.readWidth_le
      have hy := y.readWidth_le
      rw [List.map_cons, List.map_cons, List.sum_cons, List.sum_cons] at h
      intro x hx
      rcases List.mem_cons.mp hx with rfl | hx
      · exact x.readWidth_eq_iff.mp (by omega)
      · exact ih (by omega) x hx

theorem length_flatMap_representation (o : ByteOrder) (values : List Fixed) :
    (values.flatMap (representation o)).length = (values.map width).sum := by
  rw [List.length_flatMap]
  congr 2
  funext x
  exact length_representation o x

/-- Values that are read back have no double among them. -/
theorem isDouble_of_readsBack (hB : 0 < B) (ha : a.WellFormed B) {values : List Fixed}
    (hop : forM values (write memory MINGFWQ_BYTE_ORDER m_endian) a = .ok () a₁)
    (hrest : writeBytes memory rest a₁ = .ok () a₂)
    (h : ReadsBack (read MINGFWQ_BYTE_ORDER m_endian) values a a₁ a₂) : ∀ x ∈ values, x.isDouble = false := by
  obtain ⟨a₃, a₄, hset, hread, hpos₄⟩ := h
  obtain ⟨hpos, b, more, hset', hb, hpos₃, -, -⟩ := (writes_forM fun x _ => x.writes hB).back hB ha hop hrest
  cases hset.symm.trans hset'
  obtain ⟨-, hconsumed⟩ := consumes_mapM (fun x _ => x.consumes hB) a₃ values a₄ hb hread
  apply isDouble_of_sum_eq
  rw [length_flatMap_representation] at hpos
  omega

end Fixed

/-- The bytes of a list of values, and that they are read back. -/
def FixedKept (MINGFWQ_BYTE_ORDER m_endian : ByteOrder) (values : List Fixed) (a a₁ a₂ : ByteArray) : Prop :=
  ReadsBack (Fixed.read MINGFWQ_BYTE_ORDER m_endian) values a a₁ a₂ ∧
    (a₁.flat.cells.drop a.m_position).take (a₁.m_position - a.m_position) =
      values.flatMap (Fixed.representation m_endian)

/-- Values of fixed width are read back as they were written exactly when there is no double among them. -/
theorem fixed_kept_iff (hB : 1 ≤ B) {init : Nat → UInt8} (ha : (system B init).Reachable a)
    (MINGFWQ_BYTE_ORDER : ByteOrder) (val : Bool) (values : List Fixed)
    (hop : forM values (Fixed.write memory MINGFWQ_BYTE_ORDER (endian val)) a = .ok () a₁)
    (hrest : writeBytes memory rest a₁ = .ok () a₂) :
    FixedKept MINGFWQ_BYTE_ORDER (endian val) values a a₁ a₂ ↔ ∀ x ∈ values, x.isDouble = false := by
  have hwf := reachable_wellFormed hB ha
  have hwrites : ∀ x ∈ values, Writes B (x.write memory MINGFWQ_BYTE_ORDER (endian val))
      (x.representation (endian val)) := fun x _ => x.writes hB
  constructor
  · rintro ⟨hback, -⟩
    exact Fixed.isDouble_of_readsBack hB hwf hop hrest hback
  · intro hdouble
    have hback : ReadsBack (Fixed.read MINGFWQ_BYTE_ORDER (endian val)) values a a₁ a₂ :=
      readsBack hB hwf hwrites (fun x hx => x.reads hB (hdouble x hx)) hop hrest
    exact ⟨hback, ((writes_forM hwrites).stored hwf hop).2⟩

/-- Values of all widths but doubles, in big endian on a little endian machine, with nodes of three bytes. -/
theorem fixed_kept_mixed : ∃ a₁ a₂, FixedKept .little .big
    [.int8 (-1), .uint16 0x1234, .int64 (-2), .float 0x7FC00001, .uint8 7] (new 3 fun _ => 0) a₁ a₂ := by
  have hwritten : (match forM [Fixed.int8 (-1), .uint16 0x1234, .int64 (-2), .float 0x7FC00001, .uint8 7]
      (Fixed.write (fun _ _ => 0) .little (endian false)) (new 3 fun _ => 0) with
    | .ok _ a₁ =>
        match writeBytes (fun _ _ => 0) [0xFF] a₁ with
        | .ok _ _ => true
        | .error _ _ => false
    | .error _ _ => false) = true := by decide +kernel
  split at hwritten
  · next a₁ hop =>
      split at hwritten
      · next a₂ hrest =>
          exact ⟨a₁, a₂, (fixed_kept_iff (by decide) .init .little false _ hop hrest).mpr (by decide)⟩
      · cases hwritten
  · cases hwritten

/-- Of the eight bytes of 1.0, the reader takes four. -/
theorem double_lost : ¬ ∀ B ≥ 1, ∀ init a, (system B init).Reachable a → ∀ memory MINGFWQ_BYTE_ORDER val
    (values : List Fixed) rest a₁ a₂,
    forM values (Fixed.write memory MINGFWQ_BYTE_ORDER (endian val)) a = .ok () a₁ →
    writeBytes memory rest a₁ = .ok () a₂ → FixedKept MINGFWQ_BYTE_ORDER (endian val) values a a₁ a₂ := by
  intro h
  have hwritten : (match forM [Fixed.double 0x3FF0000000000000] (Fixed.write (fun _ _ => 0) .little (endian true))
      (new 1 fun _ => 0) with
    | .ok _ a₁ =>
        match writeBytes (fun _ _ => 0) [] a₁ with
        | .ok _ _ => true
        | .error _ _ => false
    | .error _ _ => false) = true := by decide +kernel
  split at hwritten
  · next a₁ hop =>
      split at hwritten
      · next a₂ hrest =>
          have hkept := h 1 (Nat.le_refl 1) _ _ .init _ .little true _ _ a₁ a₂ hop hrest
          have hdouble := Fixed.isDouble_of_readsBack (Nat.le_refl 1) (new_wellFormed _) hop hrest hkept.1
          exact absurd (hdouble _ List.mem_cons_self) (by decide)
      · cases hwritten
  · cases hwritten

end Mingfwq.ByteArray
