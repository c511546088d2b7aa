import Mingfwq.ByteArray.Lemmas.Streams
import Mingfwq.Lib.Varint
import Mingfwq.Lib.Zigzag

/-!
# Integers of variable length
-/

namespace Mingfwq.ByteArray

open Lib

variable {B room v w : Nat} {a a' a₁ a₂ : ByteArray} {memory : Memory} {bytes rest : List UInt8}

/-! ## The loops -/

theorem group_byte (v : Nat) : v &&& 0x7F ||| 0x80 = v % 128 + 128 := by
  have hand : v &&& 0x7F = v % 128 := Nat.and_two_pow_sub_one_eq_mod v 7
  have hor := or_group (r := v % 128) (x := 1) (i := 7) (Nat.mod_lt v (by decide))
  rw [hand]
  exact hor

theorem groups_spec (h : groups room v = .ok bytes) : Groups v bytes := by
  induction room generalizing v bytes with
  | zero => cases h
  | succ room ih =>
      simp only [groups, group_byte, Nat.shiftRight_eq_div_pow] at h
      split at h
      · next hge =>
        cases hrest : groups room (v / 2 ^ 7) with
        | error e =>
            rw [hrest] at h
            cases h
        | ok rest =>
            rw [hrest] at h
            cases h
            exact .more hge (ih hrest)
      · next hlt =>
        cases h
        exact .last (Nat.lt_of_not_le hlt)

theorem groups_ok (hroom : 0 < room) (hv : v < 2 ^ (7 * room)) : ∃ tmp, groups room v = .ok tmp := by
  induction room generalizing v with
  | zero => cases hroom
  | succ room ih =>
      simp only [groups, Nat.shiftRight_eq_div_pow]
      split
      · next hge =>
        have hroom' : 0 < room := by
          rcases Nat.eq_zero_or_pos room with rfl | hpos
          · rw [Nat.zero_add, Nat.mul_one] at hv
            omega
          · exact hpos
        have hdiv : v / 2 ^ 7 < 2 ^ (7 * room) := by
          apply Nat.div_lt_of_lt_mul
          rw [← Nat.pow_add, Nat.add_comm, ← Nat.mul_succ]
          exact hv
        obtain ⟨tmp, htmp⟩ := ih hroom' hdiv
        rw [htmp]
        exact ⟨_, rfl⟩
      · exact ⟨_, rfl⟩

theorem writes_writeGroups (hB : 0 < B) (h : groups room v = .ok bytes) :
    Writes B (writeGroups memory room v) bytes := by
  intro a a' ha hop
  simp only [writeGroups, h] at hop
  exact writes_writeBytes hB a a' ha hop

theorem reads_readFuint8 (hB : 0 < B) (b : UInt8) : Reads B readFuint8 [b] b :=
  Reads.bind (reads_readBytes hB (List.cons_ne_nil b [])) (reads_pure b)

/-- The loop of the readers puts the groups together, above those it has read before. -/
theorem reads_readGroups (hB : 0 < B) (h : Groups v bytes) {i n result : Nat} (hresult : result < 2 ^ i)
    (hv : v * 2 ^ i < 2 ^ w) (hn : w ≤ i + 7 * n) (hi : i < w) :
    Reads B (readGroups w (List.range' i n 7) result) bytes (result + v * 2 ^ i) := by
  induction h generalizing i n result with
  | @last v hlt =>
      obtain ⟨n, rfl⟩ : ∃ m, n = m + 1 := ⟨n - 1, by omega⟩
      rw [List.range'_succ, readGroups, ← List.append_nil [UInt8.ofNat v]]
      refine (reads_readFuint8 hB _).bind ?_
      have hbyte : (UInt8.ofNat v).toNat = v := by
        rw [UInt8.toNat_ofNat']
        omega
      have hend : UInt8.ofNat v < 0x80 := by
        rw [UInt8.lt_iff_toNat_lt, hbyte]
        exact hlt
      rw [if_pos hend, hbyte, or_group_mod hresult hv]
      exact reads_pure _
  | @more v bytes hge _ ih =>
      obtain ⟨n, rfl⟩ : ∃ m, n = m + 1 := ⟨n - 1, by omega⟩
      rw [List.range'_succ, readGroups, ← List.singleton_append]
      refine (reads_readFuint8 hB _).bind ?_
      have hbyte : (UInt8.ofNat (v % 128 + 128)).toNat = v % 128 + 128 := by
        rw [UInt8.toNat_ofNat']
        omega
      have hmore : ¬ UInt8.ofNat (v % 128 + 128) < 0x80 := by
        rw [UInt8.lt_iff_toNat_lt, hbyte]
        exact Nat.not_lt.mpr (Nat.le_add_left ..)
      have hlow : (UInt8.ofNat (v % 128 + 128) &&& 0x7F).toNat = v % 128 := by
        rw [UInt8.toNat_and, hbyte]
        exact (Nat.and_two_pow_sub_one_eq_mod _ 7).trans (by omega)
      have hgroup : v % 128 * 2 ^ i < 2 ^ w :=
        Nat.lt_of_le_of_lt (Nat.mul_le_mul_right _ (Nat.mod_le ..)) hv
      have hpow : 2 ^ (i + 7) = 128 * 2 ^ i := by rw [Nat.pow_add, Nat.mul_comm]
      have hsum := groups_split v i
      rw [if_neg hmore, hlow, or_group_mod hresult hgroup, hsum, ← Nat.add_assoc]
      apply ih
      · have hmod := Nat.mod_lt v (show 0 < 128 by decide)
        have hle : v % 128 * 2 ^ i ≤ 127 * 2 ^ i := Nat.mul_le_mul_right _ (by omega)
        omega
      · omega
      · omega
      · -- a value that has another group is at least `2 ^ (i + 7)`
        have hle : 2 ^ (i + 7) ≤ v * 2 ^ i := hpow ▸ Nat.mul_le_mul_right _ hge
        exact (Nat.pow_lt_pow_iff_right (by decide)).mp (Nat.lt_of_le_of_lt hle hv)

/-- The array when the operation has returned or thrown. -/
def stateAfter {α : Type} : EStateM.Result Error ByteArray α → ByteArray
  | .ok _ a => a
  | .error _ a => a

theorem readGroups_position (hB : 0 < B) (ha : a.WellFormed B) (is : List Nat) (result : Nat) :
    (stateAfter (readGroups w is result a)).m_position ≤ a.m_position + is.length := by
  induction is generalizing a result with
  | nil => exact Nat.le_refl _
  | cons i is ih =>
      have hread := ha.readBytes hB Nat.one_pos
      rw [readGroups]
      split at hread
      · obtain ⟨a₁, hok, hpassed⟩ := hread
        have hbyte : readFuint8 a = .ok ((a.ahead.take 1).headD 0) a₁ := Op.bind_ok hok
        rw [Op.bind_ok hbyte]
        split
        · exact Nat.le_trans (Nat.le_of_eq hpassed.position) (by simp)
        · have hrest := ih hpassed.wellFormed (result ||| (((a.ahead.take 1).headD 0 &&& 0x7F).toNat <<< i) % 2 ^ w)
          rw [hpassed.position] at hrest
          rw [List.length_cons]
          omega
      · obtain ⟨e, herror⟩ := hread
        have hbyte : readFuint8 a = .error e a := Op.bind_error herror
        rw [Op.bind_error hbyte, stateAfter]
        omega

theorem stateAfter_bind_pure {α β : Type} (op : Op α) (f : α → β) :
    stateAfter ((op >>= fun v => pure (f v)) a) = stateAfter (op a) := by
  simp only [bind, EStateM.bind]
  split
  · next heq =>
      rw [heq]
      rfl
  · next heq =>
      rw [heq]
      rfl

theorem readUint32_position (hB : 0 < B) (ha : a.WellFormed B) :
    (stateAfter (readUint32 a)).m_position ≤ a.m_position + 5 := by
  rw [readUint32, stateAfter_bind_pure]
  exact readGroups_position hB ha (shifts 32) 0

theorem readUint64_position (hB : 0 < B) (ha : a.WellFormed B) :
    (stateAfter (readUint64 a)).m_position ≤ a.m_position + 10 := by
  rw [readUint64, stateAfter_bind_pure]
  exact readGroups_position hB ha (shifts 64) 0

/-! ## Unsigned integers -/

/-- What writeUint32 or writeUint64 writes, with a scratch array of `room` bytes. -/
def encoded (room v : Nat) : List UInt8 := (groups room v).toOption.getD []

theorem groups_encoded (hroom : 0 < room) (hv : v < 2 ^ (7 * room)) : groups room v = .ok (encoded room v) := by
  obtain ⟨tmp, htmp⟩ := groups_ok hroom hv
  rw [encoded, htmp]
  rfl

theorem groups32 (v : UInt32) : groups 5 v.toNat = .ok (encoded 5 v.toNat) :=
  groups_encoded (by decide) (Nat.lt_trans v.toNat_lt (by decide))

theorem groups64 (v : UInt64) : groups 10 v.toNat = .ok (encoded 10 v.toNat) :=
  groups_encoded (by decide) (Nat.lt_trans v.toNat_lt (by decide))

/-- A number of 32 bits is read by readUint32, however it was written. -/
theorem reads_readUint32 (hB : 0 < B) (h : Groups v bytes) (hv : v < 2 ^ 32) :
    Reads B readUint32 bytes (.ofNat v) := by
  have hgroups : Reads B (readGroups 32 (shifts 32) 0) bytes (0 + v * 2 ^ 0) :=
    reads_readGroups hB h (by decide) (by omega) (by decide) (by decide)
  rw [Nat.pow_zero, Nat.mul_one, Nat.zero_add] at hgroups
  exact hgroups.bind_pure _

theorem reads_readUint64 (hB : 0 < B) (h : Groups v bytes) (hv : v < 2 ^ 64) :
    Reads B readUint64 bytes (.ofNat v) := by
  have hgroups : Reads B (readGroups 64 (shifts 64) 0) bytes (0 + v * 2 ^ 0) :=
    reads_readGroups hB h (by decide) (by omega) (by decide) (by decide)
  rw [Nat.pow_zero, Nat.mul_one, Nat.zero_add] at hgroups
  exact hgroups.bind_pure _

/-- An unsigned integer of either width. -/
inductive Unsigned where
  | uint32 (v : UInt32)
  | uint64 (v : UInt64)
  deriving DecidableEq, Repr

namespace Unsigned

def write (memory : Memory) : Unsigned → Op Unit
  | .uint32 v => writeUint32 memory v
  | .uint64 v => writeUint64 memory v

/-- With the reader of the same width. -/
def read : Unsigned → Op Unsigned
  | .uint32 _ => .uint32 <$> readUint32
  | .uint64 _ => .uint64 <$> readUint64

def encoding : Unsigned → List UInt8
  | .uint32 v => encoded 5 v.toNat
  | .uint64 v => encoded 10 v.toNat

theorem writes (hB : 0 < B) (x : Unsigned) : Writes B (x.write memory) x.encoding := by
  cases x with
  | uint32 v => exact writes_writeGroups hB (groups32 v)
  | uint64 v => exact writes_writeGroups hB (groups64 v)

theorem reads (hB : 0 < B) (x : Unsigned) : Reads B x.read x.encoding x := by
  cases x with
  | uint32 v =>
      have hread := reads_readUint32 hB (groups_spec (groups32 v)) v.toNat_lt
      rw [UInt32.ofNat_toNat] at hread
      exact hread.map _
  | uint64 v =>
      have hread := reads_readUint64 hB (groups_spec (groups64 v)) v.toNat_lt
      rw [UInt64.ofNat_toNat] at hread
      exact hread.map _

end Unsigned

theorem writeGroups_scratch (h : groups room v = .ok bytes) (b b' : ByteArray) :
    writeGroups memory room v b ≠ .error .scratchOverrun b' := by
  intro hop
  simp only [writeGroups, h, writeBytes] at hop
  split at hop <;> cases hop

/-- Unsigned integers are read back as they were written. Whatever is written on whatever array, the writers stay within
their scratch arrays; whatever is read, the readers stop after five and ten bytes. -/
theorem unsigned_readsBack (hB : 1 ≤ B) {init : Nat → UInt8} (ha : (system B init).Reachable a) :
    (∀ (memory : Memory) (values : List Unsigned) (rest : List UInt8) (a₁ a₂ : ByteArray),
        forM values (Unsigned.write memory) a = .ok () a₁ → writeBytes memory rest a₁ = .ok () a₂ →
          ReadsBack Unsigned.read values a a₁ a₂) ∧
      (∀ (memory : Memory) (v : UInt32) (b b' : ByteArray), writeUint32 memory v b ≠ .error .scratchOverrun b') ∧
      (∀ (memory : Memory) (v : UInt64) (b b' : ByteArray), writeUint64 memory v b ≠ .error .scratchOverrun b') ∧
      (stateAfter (readUint32 a)).m_position ≤ a.m_position + 5 ∧
      (stateAfter (readUint64 a)).m_position ≤ a.m_position + 10 := by
  have hwf := reachable_wellFormed hB ha
  refine ⟨?_, ?_, ?_, readUint32_position hB hwf, readUint64_position hB hwf⟩
  · intro memory values rest a₁ a₂ hop hrest
    exact readsBack hB hwf (fun x _ => x.writes hB) (fun x _ => x.reads hB) hop hrest
  · intro memory v b b'
    exact writeGroups_scratch (groups32 v) b b'
  · intro memory v b b'
    exact writeGroups_scratch (groups64 v) b b'

/-- 300 and 2 ^ 63 on a fresh array with nodes of one byte, and a byte after them. -/
theorem unsigned_readsBack_two : ∃ a₁ a₂, ReadsBack Unsigned.read [.uint32 300, .uint64 0x8000000000000000]
    (new 1 fun _ => 0) a₁ a₂ := by
  have hwritten : (match forM [Unsigned.uint32 300, .uint64 0x8000000000000000] (Unsigned.write fun _ _ => 0)
      (new 1 fun _ => 0) with
    | .ok _ a₁ =>
        match writeBytes (fun _ _ => 0) [0xFF] a₁ with
        | .ok _ _ => true
        | .error _ _ => false
    | .error _ _ => false) = true := by decide +kernel
  split at hwritten
  · next a₁ hop =>
      split at hwritten
      · next a₂ hrest => exact ⟨a₁, a₂, (unsigned_readsBack (Nat.le_refl 1) .init).1 _ _ _ _ _ hop hrest⟩
      · cases hwritten
  · cases hwritten

/-! ## Signed integers -/

theorem toBitVec_EncodeZigzag32 (v : Int32) : (EncodeZigzag32 v).toBitVec = Zigzag.encode v.toBitVec := by
  by_cases hneg : v < 0
  · have hslt : v.toBitVec.slt 0#32 := Int32.lt_iff_toBitVec_slt.mp hneg
    rw [EncodeZigzag32, if_pos hneg, Zigzag.encode, if_pos hslt]
    rfl
  · have hslt : ¬ v.toBitVec.slt 0#32 := fun h => hneg (Int32.lt_iff_toBitVec_slt.mpr h)
    rw [EncodeZigzag32, if_neg hneg, Zigzag.encode, if_neg hslt]
    rfl

theorem toBitVec_EncodeZigzag64 (v : Int64) : (EncodeZigzag64 v).toBitVec = Zigzag.encode v.toBitVec := by
  by_cases hneg : v < 0
  · have hslt : v.toBitVec.slt 0#64 := Int64.lt_iff_toBitVec_slt.mp hneg
    rw [EncodeZigzag64, if_pos hneg, Zigzag.encode, if_pos hslt]
    rfl
  · have hslt : ¬ v.toBitVec.slt 0#64 := fun h => hneg (Int64.lt_iff_toBitVec_slt.mpr h)
    rw [EncodeZigzag64, if_neg hneg, Zigzag.encode, if_neg hslt]
    rfl

theorem DecodeZigzag32_EncodeZigzag32 (v : Int32) : DecodeZigzag32 (EncodeZigzag32 v) = v := by
  have hdecode : (DecodeZigzag32 (EncodeZigzag32 v)).toBitVec = Zigzag.decode (EncodeZigzag32 v).toBitVec := rfl
  rw [← Int32.toBitVec_inj, hdecode, toBitVec_EncodeZigzag32, Zigzag.decode_encode]

theorem DecodeZigzag64_EncodeZigzag64 (v : Int64) : DecodeZigzag64 (EncodeZigzag64 v) = v := by
  have hdecode : (DecodeZigzag64 (EncodeZigzag64 v)).toBitVec = Zigzag.decode (EncodeZigzag64 v).toBitVec := rfl
  rw [← Int64.toBitVec_inj, hdecode, toBitVec_EncodeZigzag64, Zigzag.decode_encode]

/-- A value of 32 bits. -/
def Narrow (v : Int64) : Prop := -2 ^ 31 ≤ v.toInt ∧ v.toInt < 2 ^ 31

theorem EncodeZigzag64_lt {v : Int64} (h : Narrow v) : (EncodeZigzag64 v).toNat < 2 ^ 32 := by
  have hencode := Zigzag.toNat_encode v.toBitVec
  rw [← toBitVec_EncodeZigzag64] at hencode
  obtain ⟨hlow, hhigh⟩ := h
  have htoInt : v.toBitVec.toInt = v.toInt := rfl
  have htoNat : (EncodeZigzag64 v).toBitVec.toNat = (EncodeZigzag64 v).toNat := rfl
  rw [htoInt, htoNat] at hencode
  split at hencode <;> omega

/-- Whatever readUint32 returns decodes to a value of 32 bits. -/
theorem DecodeZigzag64_narrow (u : UInt32) : Narrow (DecodeZigzag64 u.toUInt64) := by
  have hdecode := Zigzag.toInt_decode u.toUInt64.toBitVec
  have htoInt : (Zigzag.decode u.toUInt64.toBitVec).toInt = (DecodeZigzag64 u.toUInt64).toInt := rfl
  have htoNat : u.toUInt64.toBitVec.toNat = u.toNat := rfl
  rw [htoInt, htoNat] at hdecode
  have hlt := u.toNat_lt
  rw [Narrow]
  split at hdecode <;> omega

/-- A signed integer of either width. -/
inductive Signed where
  | int32 (v : Int32)
  | int64 (v : Int64)
  deriving DecidableEq, Repr

namespace Signed

def write (memory : Memory) : Signed → Op Unit
  | .int32 v => writeInt32 memory v
  | .int64 v => writeInt64 memory v

/-- With the reader of the same width. -/
def read : Signed → Op Signed
  | .int32 _ => .int32 <$> readInt32
  | .int64 _ => .int64 <$> readInt64

def encoding : Signed → List UInt8
  | .int32 v => encoded 5 (EncodeZigzag32 v).toNat
  | .int64 v => encoded 10 (EncodeZigzag64 v).toNat

theorem writes (hB : 0 < B) (x : Signed) : Writes B (x.write memory) x.encoding := by
  cases x with
  | int32 v => exact writes_writeGroups hB (groups32 _)
  | int64 v => exact writes_writeGroups hB (groups64 _)

theorem reads (hB : 0 < B) (x : Signed) (hx : ∀ v, x = .int64 v → Narrow v) : Reads B x.read x.encoding x := by
  cases x with
  | int32 v =>
      have hread := reads_readUint32 hB (groups_spec (groups32 (EncodeZigzag32 v))) (EncodeZigzag32 v).toNat_lt
      rw [UInt32.ofNat_toNat] at hread
      have hdecode := hread.bind_pure DecodeZigzag32
      rw [DecodeZigzag32_EncodeZigzag32] at hdecode
      exact hdecode.map _
  | int64 v =>
      have hlt := EncodeZigzag64_lt (hx v rfl)
      have hread := reads_readUint32 hB (groups_spec (groups64 (EncodeZigzag64 v))) hlt
      have hdecode := hread.bind_pure fun u => DecodeZigzag64 u.toUInt64
      have hsame : (UInt32.ofNat (EncodeZigzag64 v).toNat).toUInt64 = EncodeZigzag64 v := by
        rw [← UInt64.toNat_inj, UInt32.toNat_toUInt64, UInt32.toNat_ofNat', Nat.mod_eq_of_lt hlt]
      rw [hsame, DecodeZigzag64_EncodeZigzag64] at hdecode
      exact hdecode.map _

theorem narrow_of_read {x : Signed} {v : Int64} (h : x.read a = .ok (.int64 v) a') : Narrow v := by
  cases x with
  | int32 u =>
      obtain ⟨_, -, heq⟩ := Op.map_inv h
      cases heq
  | int64 u =>
      obtain ⟨_, hread, heq⟩ := Op.map_inv h
      cases heq
      obtain ⟨n, a₁, -, hpure⟩ := Op.bind_inv hread
      cases hpure
      exact DecodeZigzag64_narrow n

theorem narrow_of_readsBack {values : List Signed} (h : ReadsBack read values a a₁ a₂) :
    ∀ v, .int64 v ∈ values → Narrow v := by
  intro v hv
  obtain ⟨a₃, a₄, -, hok, -⟩ := h
  obtain ⟨x, -, b, b', hread⟩ := mapM_inv hok _ hv
  exact narrow_of_read hread

end Signed

/-- 2 ^ 32 is written as 2 ^ 33, of which readUint32 keeps the low 32 bits. -/
theorem wide_lost : ¬ ∀ B ≥ 1, ∀ init a, (system B init).Reachable a → ∀ memory (values : List Signed) rest a₁ a₂,
    forM values (Signed.write memory) a = .ok () a₁ → writeBytes memory rest a₁ = .ok () a₂ →
      ReadsBack Signed.read values a a₁ a₂ := by
  intro h
  have hwritten : (match forM [Signed.int64 0x100000000] (Signed.write fun _ _ => 0) (new 1 fun _ => 0) with
    | .ok _ a₁ =>
        match writeBytes (fun _ _ => 0) [] a₁ with
        | .ok _ _ => true
        | .error _ _ => false
    | .error _ _ => false) = true := by decide +kernel
  split at hwritten
  · next a₁ hop =>
      split at hwritten
      · next a₂ hrest =>
          have hback := h 1 (Nat.le_refl 1) _ _ .init _ _ _ a₁ a₂ hop hrest
          have hnarrow := Signed.narrow_of_readsBack hback 0x100000000 List.mem_cons_self
          exact absurd hnarrow.2 (by decide)
      · cases hwritten
  · cases hwritten

/-- Signed integers are read back as they were written exactly when those of 64 bits have 32 bits. -/
theorem signed_readsBack_iff (hB : 1 ≤ B) {init : Nat → UInt8} (ha : (system B init).Reachable a)
    (values : List Signed) (hop : forM values (Signed.write memory) a = .ok () a₁)
    (hrest : writeBytes memory rest a₁ = .ok () a₂) :
    ReadsBack Signed.read values a a₁ a₂ ↔ ∀ v, .int64 v ∈ values → Narrow v := by
  constructor
  · exact Signed.narrow_of_readsBack
  · intro hnarrow
    apply readsBack hB (reachable_wellFormed hB ha) (fun x _ => x.writes hB) _ hop hrest
    intro x hx
    apply x.reads hB
    rintro v rfl
    exact hnarrow v hx

/-- The least number of 32 bits, and -5 in 64 bits. -/
theorem signed_readsBack_two : ∃ a₁ a₂, ReadsBack Signed.read [.int32 (-0x80000000), .int64 (-5)]
    (new 1 fun _ => 0) a₁ a₂ := by
  have hwritten : (match forM [Signed.int32 (-0x80000000), .int64 (-5)] (Signed.write fun _ _ => 0)
      (new 1 fun _ => 0) with
    | .ok _ a₁ =>
        match writeBytes (fun _ _ => 0) [0xFF] a₁ with
        | .ok _ _ => true
        | .error _ _ => false
    | .error _ _ => false) = true := by decide +kernel
  split at hwritten
  · next a₁ hop =>
      split at hwritten
      · next a₂ hrest =>
          refine ⟨a₁, a₂, (signed_readsBack_iff (Nat.le_refl 1) .init _ hop hrest).mpr ?_⟩
          intro v hv
          obtain rfl : v = -5 := by simpa using hv
          exact ⟨by decide, by decide⟩
      · cases hwritten
  · cases hwritten

end Mingfwq.ByteArray
