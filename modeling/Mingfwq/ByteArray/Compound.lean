import Mathlib.Algebra.Group.Nat.Defs
import Mathlib.Data.Nat.ModEq
import Mingfwq.ByteArray.Buffers
import Mingfwq.ByteArray.Strings

/-!
# Reads of several pieces (bytearray.cpp)

Only `read` checks before it moves. A reader that calls it more than once has moved the cursor when a later call throws.
-/

namespace Mingfwq.ByteArray

open Lib

variable {B least n len k : Nat} {a a' a₁ : ByteArray} {α β : Type} {complete : Prop}
  {MINGFWQ_BYTE_ORDER m_endian : ByteOrder}

/-- The exception of `read`. -/
def notEnough : Error := .fault (.outOfRange "not enough len")

/-- What is promised of a reader, where `complete` says that its item is there. -/
structure AllOrNothing (op : Op α) (complete : Prop) (a : ByteArray) : Prop where
  outcome : (∃ v a', op a = .ok v a') ∨ ∃ what a', op a = .error (.fault (.outOfRange what)) a'
  raises : (∃ e a', op a = .error e a') ↔ ¬ complete
  unchanged : ∀ e a', op a = .error e a' →
    a'.m_position = a.m_position ∧ a'.m_cur = a.m_cur ∧ a'.m_size = a.m_size

/-! ## How a reader fails -/

/-- `op` begins with a read of `least` bytes. -/
def Begins (op : Op α) (least : Nat) : Prop := ∀ a, a.getReadSize < least → op a = .error notEnough a

theorem begins_readBytes (n : Nat) : Begins (readBytes n) n := by
  intro a hless
  rw [readBytes, ByteArray.read, if_pos hless]
  rfl

theorem Begins.bind {op : Op α} (h : Begins op least) (f : α → Op β) : Begins (op >>= f) least :=
  fun a hless => Op.bind_error (h a hless)

theorem allOrNothing_of_ok {op : Op α} {v : α} (h : op a = .ok v a') (hcomplete : complete) :
    AllOrNothing op complete a where
  outcome := .inl ⟨v, a', h⟩
  raises := by
    refine iff_of_false ?_ (not_not_intro hcomplete)
    rintro ⟨e, b, herror⟩
    cases h.symm.trans herror
  unchanged := by
    intro e b herror
    cases h.symm.trans herror

/-- An exception of the first read does no harm. -/
theorem Begins.allOrNothing {op : Op α} (h : Begins op least) (hless : a.getReadSize < least) (hnot : ¬ complete) :
    AllOrNothing op complete a where
  outcome := .inr ⟨_, a, h a hless⟩
  raises := iff_of_true ⟨_, a, h a hless⟩ hnot
  unchanged := by
    intro e b herror
    cases (h a hless).symm.trans herror
    exact ⟨rfl, rfl, rfl⟩

theorem not_allOrNothing_of_moved {op : Op α} {e : Error} (h : op a = .error e a')
    (hmoved : a.m_position < a'.m_position) : ¬ AllOrNothing op complete a :=
  fun hkept => Nat.ne_of_gt hmoved (hkept.unchanged e a' h).1

theorem not_allOrNothing_of_fault {op : Op α} (h : op a = .error (.fault .nullNode) a') :
    ¬ AllOrNothing op complete a := by
  intro hkept
  rcases hkept.outcome with ⟨v, b, hok⟩ | ⟨what, b, herror⟩
  · cases h.symm.trans hok
  · cases h.symm.trans herror

/-- `op` reads what `decode` finds, and throws where it finds nothing. -/
structure Decodes (B least : Nat) (op : Op α) (decode : List UInt8 → Option (α × Nat)) : Prop where
  begins : Begins op least
  full : ∀ a v k, a.WellFormed B → decode a.ahead = some (v, k) → 0 < k ∧ ∃ a', op a = .ok v a' ∧ Passed B k a a'
  late : ∀ a, a.WellFormed B → least ≤ a.ahead.length → decode a.ahead = none →
    ∃ a', op a = .error notEnough a' ∧ a.m_position < a'.m_position

/-- The value in another form. -/
theorem Decodes.bind_pure {op : Op α} {decode : List UInt8 → Option (α × Nat)} (h : Decodes B least op decode)
    (f : α → β) :
    Decodes B least (op >>= fun v => pure (f v)) fun bytes => (decode bytes).map (Prod.map f id) where
  begins := h.begins.bind _
  full := by
    intro a v k ha hsome
    obtain ⟨⟨u, k'⟩, hdecode, heq⟩ := Option.map_eq_some_iff.mp hsome
    cases heq
    obtain ⟨hpos, a', hop, hpassed⟩ := h.full a u k' ha hdecode
    exact ⟨hpos, a', Op.bind_ok hop, hpassed⟩
  late := by
    intro a ha hleast hnone
    obtain ⟨a', hop, hmoved⟩ := h.late a ha hleast (Option.map_eq_none_iff.mp hnone)
    exact ⟨a', Op.bind_error hop, hmoved⟩

theorem Decodes.map {op : Op α} {decode : List UInt8 → Option (α × Nat)} (h : Decodes B least op decode) (f : α → β) :
    Decodes B least (f <$> op) fun bytes => (decode bytes).map (Prod.map f id) := by
  rw [map_eq_pure_bind]
  exact h.bind_pure f

/-! ## Integers of variable length -/

theorem readFuint8_cons (hB : 0 < B) (ha : a.WellFormed B) {b : UInt8} {bytes : List UInt8}
    (hahead : a.ahead = b :: bytes) :
    ∃ a', readFuint8 a = .ok b a' ∧ Passed B 1 a a' ∧ a'.ahead = bytes := by
  obtain ⟨a', hop, hpassed⟩ := reads_readFuint8 hB b a bytes ha hahead
  exact ⟨a', hop, hpassed, by rw [hpassed.ahead, hahead]; rfl⟩

theorem begins_readFuint8 : Begins readFuint8 1 := (begins_readBytes 1).bind _

/-- The loop puts the groups together that it finds, or moves over all bytes and throws. -/
theorem readGroups_varint {w i result : Nat} (hB : 0 < B) (ha : a.WellFormed B) (hn : 0 < n → i + 7 * n < w + 7)
    (hresult : result < 2 ^ w) (hgroup : 0 < n → result < 2 ^ i) :
    (∀ v k, varint n a.ahead = some (v, k) → ∃ a', Passed B k a a' ∧
      readGroups w (List.range' i n 7) result a = .ok ((result + v * 2 ^ i) % 2 ^ w) a') ∧
    (varint n a.ahead = none → ∃ a', a'.m_position = a.m_position + a.ahead.length ∧
      readGroups w (List.range' i n 7) result a = .error notEnough a') := by
  induction n generalizing a i result with
  | zero =>
      refine ⟨?_, fun hnone => by cases hnone⟩
      rintro v k ⟨⟩
      refine ⟨a, .zero ha, ?_⟩
      rw [Nat.zero_mul, Nat.add_zero, Nat.mod_eq_of_lt hresult]
      rfl
  | succ n ih =>
      have hi := hn (Nat.succ_pos n)
      have hr := hgroup (Nat.succ_pos n)
      rw [List.range'_succ, readGroups]
      cases hahead : a.ahead with
      | nil =>
          have hless : a.getReadSize < 1 := by rw [← ha.length_ahead, hahead]; exact Nat.one_pos
          exact ⟨fun v k hsome => (by cases hsome), fun _ => ⟨a, rfl, Op.bind_error (begins_readFuint8 a hless)⟩⟩
      | cons b bytes =>
          obtain ⟨a₁, hop, hpassed, hrest⟩ := readFuint8_cons hB ha hahead
          rw [Op.bind_ok hop, varint]
          by_cases hend : b < 0x80
          · rw [if_pos hend, if_pos hend, or_group_wrap hr (by omega)]
            refine ⟨?_, fun hnone => by cases hnone⟩
            rintro v k ⟨⟩
            exact ⟨a₁, hpassed, rfl⟩
          · have hlow : (b &&& 0x7F).toNat = b.toNat % 128 := by
              rw [UInt8.toNat_and]
              exact Nat.and_two_pow_sub_one_eq_mod _ 7
            have hpow : 2 ^ (i + 7) = 128 * 2 ^ i := by rw [Nat.pow_add, Nat.mul_comm]
            have hbelow : result + b.toNat % 128 * 2 ^ i < 2 ^ (i + 7) := by
              have hmod := Nat.mod_lt b.toNat (show 0 < 128 by decide)
              have hle : b.toNat % 128 * 2 ^ i ≤ 127 * 2 ^ i := Nat.mul_le_mul_right _ (by omega)
              omega
            have hwrapped : (result + b.toNat % 128 * 2 ^ i) % 2 ^ w < 2 ^ w := Nat.mod_lt _ (Nat.two_pow_pos w)
            obtain ⟨hfull, hlate⟩ := ih hpassed.wellFormed (i := i + 7) (by omega) hwrapped
              (fun _ => Nat.lt_of_le_of_lt (Nat.mod_le ..) hbelow)
            rw [hrest] at hfull hlate
            rw [if_neg hend, if_neg hend, hlow, or_group_wrap hr (by omega)]
            constructor
            · intro v k hsome
              obtain ⟨⟨v, k⟩, hvarint, heq⟩ := Option.map_eq_some_iff.mp hsome
              cases heq
              obtain ⟨a', hpassed', hok⟩ := hfull v k hvarint
              have hvalue : (result + b.toNat % 128 * 2 ^ i) % 2 ^ w + v * 2 ^ (i + 7) ≡
                  result + (b.toNat % 128 + v * 128) * 2 ^ i [MOD 2 ^ w] := by
                rw [hpow, Nat.add_mul, Nat.mul_assoc, ← Nat.add_assoc]
                exact (Nat.mod_modEq _ _).add_right _
              refine ⟨a', Nat.add_comm 1 k ▸ hpassed.trans hpassed', ?_⟩
              exact hok.trans (congrArg (EStateM.Result.ok · a') hvalue)
            · intro hnone
              obtain ⟨a', hmoved, herror⟩ := hlate (Option.map_eq_none_iff.mp hnone)
              refine ⟨a', ?_, herror⟩
              rw [hmoved, hpassed.position, List.length_cons]
              omega

/-- The loop of readUint32 and readUint64, from the beginning. -/
theorem decodes_readGroups (hB : 0 < B) {w : Nat} (hn : 7 * n < w + 7) (hpos : 0 < n) :
    Decodes B 1 (readGroups w (List.range' 0 n 7) 0) fun bytes => (varint n bytes).map (Prod.map (· % 2 ^ w) id) where
  begins := by
    obtain ⟨n, rfl⟩ : ∃ m, n = m + 1 := ⟨n - 1, by omega⟩
    rw [List.range'_succ, readGroups]
    exact begins_readFuint8.bind _
  full := by
    intro a v k ha hsome
    obtain ⟨⟨u, k'⟩, hvarint, heq⟩ := Option.map_eq_some_iff.mp hsome
    cases heq
    have hloop := readGroups_varint (n := n) (i := 0) hB ha (fun _ => by omega) (Nat.two_pow_pos w) fun _ => Nat.one_pos
    obtain ⟨a', hpassed, hop⟩ := hloop.1 u k' hvarint
    rw [Nat.pow_zero, Nat.mul_one, Nat.zero_add] at hop
    exact ⟨varint_pos hpos hvarint, a', hop, hpassed⟩
  late := by
    intro a ha hleast hnone
    have hloop := readGroups_varint (n := n) (i := 0) hB ha (fun _ => by omega) (Nat.two_pow_pos w) fun _ => Nat.one_pos
    obtain ⟨a', hmoved, hop⟩ := hloop.2 (Option.map_eq_none_iff.mp hnone)
    exact ⟨a', hop, by omega⟩

/-- The readers of integers of variable length. -/
inductive Integer where
  | uint32 | uint64 | int32 | int64

namespace Integer

abbrev Value : Integer → Type
  | .uint32 => UInt32
  | .uint64 => UInt64
  | .int32 => Int32
  | .int64 => Int64

def read : (x : Integer) → Op x.Value
  | .uint32 => readUint32
  | .uint64 => readUint64
  | .int32 => readInt32
  | .int64 => readInt64

/-- An integer of this type has at most so many bytes. -/
def limit : Integer → Nat
  | .uint32 | .int32 => 5
  | .uint64 | .int64 => 10

/-- The last byte of the integer, or as many bytes as it can have, are among the bytes. -/
def Complete (x : Integer) (bytes : List UInt8) : Prop := varint x.limit bytes ≠ none

/-- readInt64 reads no more than five bytes. -/
def readLimit : Integer → Nat
  | .uint32 | .int32 | .int64 => 5
  | .uint64 => 10

theorem readLimit_le (x : Integer) : x.readLimit ≤ x.limit := by cases x <;> decide

theorem limit_pos (x : Integer) : 0 < x.limit := by cases x <;> decide

theorem begins (x : Integer) : Begins x.read 1 := by
  have hgroups : ∀ w n, Begins (readGroups w (List.range' 0 (n + 1) 7) 0) 1 := fun _ _ => begins_readFuint8.bind _
  cases x with
  | uint32 => exact (hgroups 32 4).bind _
  | uint64 => exact (hgroups 64 9).bind _
  | int32 => exact ((hgroups 32 4).bind _).bind _
  | int64 => exact ((hgroups 32 4).bind _).bind _

theorem decodes (hB : 0 < B) (x : Integer) : ∃ f : Nat → x.Value,
    Decodes B 1 x.read fun bytes => (varint x.readLimit bytes).map (Prod.map f id) := by
  have h32 := (decodes_readGroups hB (show 7 * 5 < 32 + 7 by decide) (by decide)).bind_pure UInt32.ofNat
  have h64 := (decodes_readGroups hB (show 7 * 10 < 64 + 7 by decide) (by decide)).bind_pure UInt64.ofNat
  simp only [Option.map_map, Prod.map_comp_map, Function.comp_id] at h32 h64
  cases x with
  | uint32 => exact ⟨_, h32⟩
  | uint64 => exact ⟨_, h64⟩
  | int32 =>
      have hint := h32.bind_pure DecodeZigzag32
      simp only [Option.map_map, Prod.map_comp_map, Function.comp_id] at hint
      exact ⟨_, hint⟩
  | int64 =>
      have hint := h32.bind_pure fun u => DecodeZigzag64 u.toUInt64
      simp only [Option.map_map, Prod.map_comp_map, Function.comp_id] at hint
      exact ⟨_, hint⟩

theorem kept_iff (hB : 0 < B) (ha : a.WellFormed B) (x : Integer) :
    AllOrNothing x.read (x.Complete a.ahead) a ↔ a.ahead = [] ∨ x.Complete a.ahead := by
  obtain ⟨f, hdecodes⟩ := x.decodes hB
  constructor
  · intro hkept
    by_contra hnot
    rw [not_or] at hnot
    have hleast : 1 ≤ a.ahead.length := List.length_pos_iff.mpr hnot.1
    obtain ⟨e, a', herror⟩ := hkept.raises.mpr hnot.2
    cases hdecode : (varint x.readLimit a.ahead).map (Prod.map f id) with
    | none =>
        obtain ⟨b, hop, hmoved⟩ := hdecodes.late a ha hleast hdecode
        exact not_allOrNothing_of_moved hop hmoved hkept
    | some q =>
        obtain ⟨-, b, hok, -⟩ := hdecodes.full a q.1 q.2 ha hdecode
        cases hok.symm.trans herror
  · rintro (hnil | hcomplete)
    · refine x.begins.allOrNothing ?_ (not_not_intro ?_)
      · rw [← ha.length_ahead, hnil]
        exact Nat.one_pos
      · rw [hnil]
        exact varint_nil x.limit_pos
    · obtain ⟨⟨v, k⟩, hvarint⟩ := Option.ne_none_iff_exists'.mp (varint_mono x.readLimit_le hcomplete)
      obtain ⟨-, a', hok, -⟩ := hdecodes.full a (f v) k ha (by rw [hvarint]; rfl)
      exact allOrNothing_of_ok hok hcomplete

end Integer

/-! ## Strings -/

/-- The number that the first `n` bytes are. -/
def fixed (o : ByteOrder) (n : Nat) (bytes : List UInt8) : Option (Nat × Nat) :=
  if n ≤ bytes.length then some (o.value (bytes.take n), n) else none

theorem decodes_readF (hB : 0 < B) (hn : 0 < n) :
    Decodes B n (readF MINGFWQ_BYTE_ORDER m_endian n) (fixed m_endian n) where
  begins := (begins_readBytes n).bind _
  full := by
    intro a v k ha hsome
    rw [fixed] at hsome
    split at hsome
    · next hle =>
        cases hsome
        have htake : (a.ahead.take n).length = n := List.length_take_of_le hle
        have hlt := m_endian.value_lt (a.ahead.take n)
        have hbytes := m_endian.bytes_value (a.ahead.take n)
        rw [htake] at hlt hbytes
        have hahead : a.ahead = m_endian.bytes n (m_endian.value (a.ahead.take n)) ++ a.ahead.drop n := by
          rw [hbytes, List.take_append_drop]
        obtain ⟨a', hop, hpassed⟩ := @reads_readF B n _ MINGFWQ_BYTE_ORDER m_endian hB hn hlt a _ ha hahead
        rw [ByteOrder.length_bytes] at hpassed
        exact ⟨hn, a', hop, hpassed⟩
    · cases hsome
  late := by
    intro a ha hleast hnone
    rw [fixed, if_pos hleast] at hnone
    cases hnone

theorem fixed_map {o : ByteOrder} {f : Nat → Nat} (hf : ∀ v < 256 ^ n, f v = v) :
    (fun bytes => (fixed o n bytes).map (Prod.map f id)) = fixed o n := by
  funext bytes
  rw [fixed]
  split
  · next hle =>
      have hlt := o.value_lt (bytes.take n)
      rw [List.length_take_of_le hle] at hlt
      exact congrArg (fun v => some (v, n)) (hf _ hlt)
  · rfl

/-- The readers of strings, by what their sizes are read with. -/
inductive StringReader where
  | f16 | f32 | f64 | vint

namespace StringReader

variable (MINGFWQ_BYTE_ORDER m_endian : ByteOrder)

def read : StringReader → Op (List UInt8)
  | .f16 => readStringF16 MINGFWQ_BYTE_ORDER m_endian
  | .f32 => readStringF32 MINGFWQ_BYTE_ORDER m_endian
  | .f64 => readStringF64 MINGFWQ_BYTE_ORDER m_endian
  | .vint => readStringVint

/-- So many bytes are read first. -/
def first : StringReader → Nat
  | .f16 => 2
  | .f32 => 4
  | .f64 => 8
  | .vint => 1

/-- The size of the string, and how many bytes it takes in front of the string. -/
def size : StringReader → List UInt8 → Option (Nat × Nat)
  | .f16 => fixed m_endian 2
  | .f32 => fixed m_endian 4
  | .f64 => fixed m_endian 8
  | .vint => fun bytes => (varint 10 bytes).map (Prod.map (· % 2 ^ 64) id)

/-- The size and the string are among the bytes. -/
def Complete (x : StringReader) (bytes : List UInt8) : Prop :=
  ∃ len k, x.size m_endian bytes = some (len, k) ∧ k + len ≤ bytes.length

/-- All of the string is there, and if it has no bytes, there is a node where it would be. -/
def Readable (x : StringReader) (a : ByteArray) : Prop :=
  ∃ len k, x.size m_endian a.ahead = some (len, k) ∧ k + len ≤ a.ahead.length ∧
    (0 < len ∨ a.m_position + k < a.m_capacity)

variable {MINGFWQ_BYTE_ORDER m_endian}

theorem begins (x : StringReader) : Begins (x.read MINGFWQ_BYTE_ORDER m_endian) x.first := by
  have hfixed : ∀ n, Begins (readF MINGFWQ_BYTE_ORDER m_endian n) n := fun n => (begins_readBytes n).bind _
  cases x with
  | f16 => exact ((hfixed 2).bind _).bind _
  | f32 => exact ((hfixed 4).bind _).bind _
  | f64 => exact ((hfixed 8).bind _).bind _
  | vint => exact (Integer.uint64.begins.bind _)

theorem read_eq (hB : 0 < B) (x : StringReader) : ∃ readSize : Op Nat,
    x.read MINGFWQ_BYTE_ORDER m_endian = readSize >>= readBytes ∧ Decodes B x.first readSize (x.size m_endian) := by
  have hfixed {ν : Type} (n : Nat) (hn : 0 < n) (f : Nat → ν) (g : ν → Nat) (hfg : ∀ v < 256 ^ n, g (f v) = v) :
      Decodes B n (g <$> (readF MINGFWQ_BYTE_ORDER m_endian n >>= fun v => pure (f v))) (fixed m_endian n) := by
    have hread : Decodes B n (readF MINGFWQ_BYTE_ORDER m_endian n) (fixed m_endian n) := decodes_readF hB hn
    have hmap := (hread.bind_pure f).map g
    simp only [Option.map_map, Prod.map_comp_map, Function.comp_id] at hmap
    rwa [fixed_map (f := g ∘ f) hfg] at hmap
  cases x with
  | f16 => exact ⟨_, (bind_map_left ..).symm, hfixed 2 (by decide) UInt16.ofNat _ fun _ => UInt16.toNat_ofNat_of_lt⟩
  | f32 => exact ⟨_, (bind_map_left ..).symm, hfixed 4 (by decide) UInt32.ofNat _ fun _ => UInt32.toNat_ofNat_of_lt⟩
  | f64 => exact ⟨_, (bind_map_left ..).symm, hfixed 8 (by decide) UInt64.ofNat _ fun _ => UInt64.toNat_ofNat_of_lt⟩
  | vint =>
      have hmap := ((decodes_readGroups hB (show 7 * 10 < 64 + 7 by decide) (by decide)).bind_pure UInt64.ofNat).map
        UInt64.toNat
      have hvalue : (UInt64.toNat ∘ UInt64.ofNat ∘ (· % 2 ^ 64)) = (· % 2 ^ 64) := by
        funext v
        exact UInt64.toNat_ofNat_of_lt (Nat.mod_lt v (by decide))
      simp only [Option.map_map, Prod.map_comp_map, Function.comp_id, hvalue] at hmap
      exact ⟨_, (bind_map_left ..).symm, hmap⟩

theorem first_pos (x : StringReader) : 0 < x.first := by cases x <;> decide

theorem size_of_less {x : StringReader} {bytes : List UInt8} (h : bytes.length < x.first) :
    x.size m_endian bytes = none := by
  cases x with
  | vint =>
      obtain rfl : bytes = [] := List.length_eq_zero_iff.mp (Nat.lt_one_iff.mp h)
      rfl
  | _ => exact if_neg (Nat.not_le.mpr h)

theorem size_le {x : StringReader} {bytes : List UInt8} (h : x.size m_endian bytes = some (len, k)) :
    k ≤ bytes.length := by
  have hfixed : ∀ n, fixed m_endian n bytes = some (len, k) → k ≤ bytes.length := by
    intro n hsome
    rw [fixed] at hsome
    split at hsome
    · next hle =>
        cases hsome
        exact hle
    · cases hsome
  cases x with
  | f16 => exact hfixed 2 h
  | f32 => exact hfixed 4 h
  | f64 => exact hfixed 8 h
  | vint =>
      obtain ⟨⟨v, k'⟩, hvarint, heq⟩ := Option.map_eq_some_iff.mp h
      cases heq
      exact varint_le hvarint

theorem not_complete_of_less {x : StringReader} {bytes : List UInt8} (h : bytes.length < x.first) :
    ¬ x.Complete m_endian bytes := by
  rintro ⟨len, k, hsize, -⟩
  cases (size_of_less h).symm.trans hsize

/-- A reader of a string keeps its promise where it throws at once, and where there is a string that it can read. -/
theorem kept_iff (hB : 0 < B) (ha : a.WellFormed B) (x : StringReader) :
    AllOrNothing (x.read MINGFWQ_BYTE_ORDER m_endian) (x.Complete m_endian a.ahead) a ↔
      a.ahead.length < x.first ∨ x.Readable m_endian a := by
  obtain ⟨readSize, hread, hdecodes⟩ := @read_eq B MINGFWQ_BYTE_ORDER m_endian hB x
  rcases Nat.lt_or_ge a.ahead.length x.first with hless | hleast
  · exact iff_of_true (x.begins.allOrNothing (ha.length_ahead ▸ hless) (not_complete_of_less hless)) (.inl hless)
  rw [or_iff_right (Nat.not_lt.mpr hleast), hread]
  cases hsize : x.size m_endian a.ahead with
  | none =>
      obtain ⟨a', hop, hmoved⟩ := hdecodes.late a ha hleast hsize
      refine iff_of_false (not_allOrNothing_of_moved (Op.bind_error hop) hmoved) ?_
      rintro ⟨len, k, hsome, -⟩
      cases hsize.symm.trans hsome
  | some q =>
      obtain ⟨len, k⟩ := q
      obtain ⟨hk, a₁, hop, hpassed⟩ := hdecodes.full a len k ha hsize
      have hpos := hpassed.position
      have hcap := hpassed.capacity
      have hahead : a₁.ahead.length = a.ahead.length - k := by rw [hpassed.ahead, List.length_drop]
      have hle := size_le hsize
      have hreadable : x.Readable m_endian a ↔
          k + len ≤ a.ahead.length ∧ (0 < len ∨ a.m_position + k < a.m_capacity) := by
        constructor
        · rintro ⟨len', k', hsome, hboth⟩
          cases hsize.symm.trans hsome
          exact hboth
        · exact fun hboth => ⟨len, k, hsize, hboth⟩
      rw [hreadable]
      rcases Nat.eq_zero_or_pos len with rfl | hlen
      · have hzero := hpassed.wellFormed.readBytes_zero hB
        rw [hpos, hcap] at hzero
        split at hzero
        · next hnode =>
            obtain ⟨a', hok, -⟩ := hzero
            exact iff_of_true (allOrNothing_of_ok ((Op.bind_ok hop).trans hok) ⟨0, k, hsize, hle⟩) ⟨hle, .inr hnode⟩
        · next hnode =>
            refine iff_of_false ?_ fun hboth => hboth.2.elim (Nat.lt_irrefl 0) hnode
            exact not_allOrNothing_of_fault ((Op.bind_ok hop).trans hzero)
      · by_cases hfit : k + len ≤ a.ahead.length
        · have hbytes := hpassed.wellFormed.readBytes hB hlen
          rw [if_pos (by omega)] at hbytes
          obtain ⟨a', hok, -⟩ := hbytes
          exact iff_of_true (allOrNothing_of_ok ((Op.bind_ok hop).trans hok) ⟨len, k, hsize, hfit⟩) ⟨hfit, .inl hlen⟩
        · have hshort := begins_readBytes len a₁ (by rw [← hpassed.wellFormed.length_ahead]; omega)
          refine iff_of_false ?_ fun hboth => hfit hboth.1
          exact not_allOrNothing_of_moved ((Op.bind_ok hop).trans hshort) (by omega)

end StringReader

/-! ## The condition -/

theorem Empty.ahead (h : a.Empty) : a.ahead = [] := by
  rw [ByteArray.ahead, h.size, Nat.zero_sub, List.take_zero]

/-- A reader of several pieces keeps its promise exactly where its first read throws, and where all of its item is there
and can be read; an empty string at the end of the last node cannot. -/
theorem allOrNothing_iff {init : Nat → UInt8} (h : (system B init).Reachable a) :
    (∀ x : Integer, AllOrNothing x.read (x.Complete a.ahead) a ↔ a.ahead = [] ∨ x.Complete a.ahead) ∧
      ∀ (MINGFWQ_BYTE_ORDER m_endian : ByteOrder) (x : StringReader),
        AllOrNothing (x.read MINGFWQ_BYTE_ORDER m_endian) (x.Complete m_endian a.ahead) a ↔
          a.ahead.length < x.first ∨ x.Readable m_endian a := by
  rcases Nat.eq_zero_or_pos B with rfl | hB
  · -- without bytes in the nodes there is never anything to read
    have hempty := reachable_empty h
    have hnil := hempty.ahead
    have hsize : a.getReadSize = 0 := by rw [getReadSize, hempty.size, Nat.zero_sub]
    refine ⟨fun x => iff_of_true (x.begins.allOrNothing ?_ ?_) (.inl hnil), fun _ _ x => iff_of_true ?_ (.inl ?_)⟩
    · rw [hsize]
      exact Nat.one_pos
    · rw [hnil]
      exact not_not_intro (varint_nil x.limit_pos)
    · refine x.begins.allOrNothing (hsize ▸ x.first_pos) ?_
      rw [hnil]
      exact StringReader.not_complete_of_less x.first_pos
    · rw [hnil]
      exact x.first_pos
  · have hwf := reachable_wellFormed hB h
    exact ⟨Integer.kept_iff hB hwf, fun _ _ => StringReader.kept_iff hB hwf⟩

theorem allOrNothing_iff_sixBytes :
    AllOrNothing Integer.uint32.read (Integer.uint32.Complete sixBytes.ahead) sixBytes :=
  ((allOrNothing_iff sixBytes_reachable).1 .uint32).mpr (.inr (show varint 5 sixBytes.ahead ≠ none by decide))

/-- The first byte of an integer that has more. -/
def firstByte : ByteArray := ⟨4, 0, 4, 1, [[0x80, 0, 0, 0]], some 0⟩

theorem firstByte_reachable : (system 4 fun _ => 0).Reachable firstByte :=
  System.Reach.exec (fun _ _ => trivial) [.write [0x80] fun _ => 0, .setPosition 0] .init rfl

/-- The cursor is behind the byte when the second read throws. -/
theorem not_allOrNothing_firstByte : ¬ ∀ B init a, (system B init).Reachable a →
    AllOrNothing readUint32 (varint 5 a.ahead ≠ none) a := by
  intro h
  have hthrown : ∃ e, readUint32 firstByte = .error e { firstByte with m_position := 1 } := ⟨_, rfl⟩
  obtain ⟨e, herror⟩ := hthrown
  exact absurd ((h 4 _ _ firstByte_reachable).unchanged e _ herror).1 (by decide)

end Mingfwq.ByteArray
