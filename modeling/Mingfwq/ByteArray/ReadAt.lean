import Mathlib.Data.List.Flatten
import Mingfwq.ByteArray.Buffers
import Mingfwq.ByteArray.Lemmas.Streams

/-!
# Reading at a position (bytearray.cpp)

The const form of `read` takes a position, but walks from the node of the cursor and checks what is left to read from
the cursor.
-/

namespace Mingfwq.ByteArray

open Lib

/-- `read(buf, size, position) const`. -/
def readAt (a : ByteArray) (size position : Nat) : Except Fault (List UInt8) :=
  if size > a.getReadSize then .error (.outOfRange "not enough len")
  else do
    let (bytes, _) ← readLoop (a.chain a.m_cur) (position % a.m_baseSize) size
    .ok bytes

def toString (a : ByteArray) : Except Fault (List UInt8) :=
  let size := a.getReadSize
  if size = 0 then .ok [] else a.readAt size a.m_position

/-- `std::setw(2) << std::setfill('0') << std::hex << (int)c << " "`. -/
def hexByte (c : UInt8) : List Char :=
  let digits := Nat.toDigits 16 c.toNat
  List.replicate (2 - digits.length) '0' ++ digits ++ [' ']

/-- The loop of toHexString, from the `i`-th byte on. -/
def hexLoop : Nat → List UInt8 → List Char
  | _, [] => []
  | i, c :: str => (if i > 0 ∧ i % 32 = 0 then ['\n'] else []) ++ hexByte c ++ hexLoop (i + 1) str

def toHexString (a : ByteArray) : Except Fault (List Char) := do
  let str ← a.toString
  .ok (hexLoop 0 str)

/-- What is promised of a read at `p`, whatever the cursor is. -/
structure ReadsExactly (a : ByteArray) (n p : Nat) : Prop where
  throws : (∃ what, a.readAt n p = .error (.outOfRange what)) ↔ a.m_size < p + n
  bytes : p + n ≤ a.m_size → a.readAt n p = .ok ((a.flat.cells.drop p).take n)

/-- Where the walk from the node of the cursor starts. -/
def walkStart (a : ByteArray) (B p : Nat) : Nat := B * (a.m_position / B) + p % B

/-- The range ends before the size as seen from the position and from the cursor, the cursor is not at the very end of
the chain, and the walk from the node of the cursor finds the same bytes as one from the position, as it does where
both are in one node. -/
structure SameBytes (a : ByteArray) (B n p : Nat) : Prop where
  position : p + n ≤ a.m_size
  cursor : n ≤ a.getReadSize
  cur : a.m_position < a.m_capacity
  chain : a.walkStart B p + n ≤ a.m_capacity
  bytes : (a.flat.cells.drop (a.walkStart B p)).take n = (a.flat.cells.drop p).take n

variable {B n p npos size : Nat} {a : ByteArray} {ns : List Node}

theorem readLoop_error (hns : Blocks B ns) (hnpos : npos ≤ B) (hsize : B * ns.length - npos < size) :
    readLoop ns npos size = .error .nullNode := by
  induction ns generalizing npos size with
  | nil => rfl
  | cons cur ns ih =>
      have hcur := hns.head
      rw [List.length_cons, Nat.mul_succ] at hsize
      simp only [readLoop, hcur, if_neg (show ¬ size = 0 by omega), if_neg (show ¬ B - npos ≥ size by omega),
        ih hns.tail (Nat.zero_le B) (show B * ns.length - 0 < size - (B - npos) by omega)]
      rfl

theorem walkStart_div (hB : 0 < B) (a : ByteArray) (p : Nat) : a.walkStart B p / B = a.m_position / B := by
  rw [walkStart, Nat.mul_add_div hB, Nat.div_eq_of_lt (Nat.mod_lt p hB), Nat.add_zero]

theorem walkStart_mod (a : ByteArray) (B p : Nat) : a.walkStart B p % B = p % B := by
  rw [walkStart, Nat.mul_add_mod, Nat.mod_mod]

theorem walkStart_same (h : p / B = a.m_position / B) : a.walkStart B p = p := by
  rw [walkStart, ← h, Nat.div_add_mod]

theorem WellFormed.cursor_lt (hB : 0 < B) (h : a.WellFormed B) :
    a.m_position / B < a.m_root.length ↔ a.m_position < a.m_capacity := by
  rw [h.capacity, Nat.div_lt_iff_lt_mul hB, Nat.mul_comm]

/-- What the const form does when it does not throw. -/
theorem WellFormed.readAt_eq (hB : 0 < B) (h : a.WellFormed B) (hn : n ≤ a.getReadSize) :
    a.readAt n p = if a.m_position < a.m_capacity ∧ a.walkStart B p + n ≤ a.m_capacity then
      .ok ((a.flat.cells.drop (a.walkStart B p)).take n) else .error .nullNode := by
  have hmod := Nat.mod_lt p hB
  have hchain : Blocks B (a.chain a.m_cur) := h.chain_cur ▸ h.blocks.drop _
  have hloop : a.readAt n p = (readLoop (a.chain a.m_cur) (p % B) n).map Prod.fst := by
    rw [readAt, if_neg (Nat.not_lt.mpr hn), h.baseSize]
    rfl
  rw [hloop]
  by_cases hcur : a.m_position < a.m_capacity
  · have hlt := (h.cursor_lt hB).mpr hcur
    have hlength : B * (a.chain a.m_cur).length = a.m_capacity - B * (a.m_position / B) := by
      rw [h.chain_cur, List.length_drop, Nat.mul_sub, h.capacity]
    have hnode : B * (a.m_position / B) + B ≤ a.m_capacity := by
      rw [← Nat.mul_succ, h.capacity]
      exact Nat.mul_le_mul_left B hlt
    by_cases hfit : a.walkStart B p + n ≤ a.m_capacity
    · rw [if_pos ⟨hcur, hfit⟩]
      have hcells : (a.chain a.m_cur).flatten.drop (p % B) = a.flat.cells.drop (a.walkStart B p) := by
        rw [← h.drop_cells hB (by omega), walkStart_div hB, walkStart_mod, h.chain_cur]
      rcases Nat.eq_zero_or_pos n with rfl | hpos
      · obtain ⟨cur, ns, hcons⟩ : ∃ cur ns, a.chain a.m_cur = cur :: ns := by
          apply List.exists_cons_of_length_pos
          rw [h.chain_cur, List.length_drop]
          omega
        rw [hcons]
        simp [readLoop, Except.map]
      · rw [walkStart] at hfit
        obtain ⟨steps, hread⟩ := readLoop_spec hchain (Nat.le_of_lt hmod) hpos (by omega)
        rw [hread, hcells]
        rfl
    · rw [if_neg fun hboth => hfit hboth.2]
      rw [walkStart] at hfit
      rw [readLoop_error hchain (Nat.le_of_lt hmod) (by omega)]
      rfl
  · have hnone : a.chain a.m_cur = [] := by
      rw [h.chain_cur]
      exact List.drop_eq_nil_of_le (Nat.not_lt.mp (mt (h.cursor_lt hB).mp hcur))
    rw [if_neg fun hboth => hcur hboth.1, hnone]
    rfl

theorem WellFormed.readsExactly_iff (hB : 0 < B) (h : a.WellFormed B) :
    ReadsExactly a n p ↔ a.m_size < p + n ∧ a.getReadSize < n ∨ SameBytes a B n p := by
  by_cases hn : n ≤ a.getReadSize
  · have heq := h.readAt_eq hB hn (p := p)
    have hnot : ¬ ∃ what, a.readAt n p = .error (.outOfRange what) := by
      rintro ⟨what, hwhat⟩
      rw [heq] at hwhat
      split at hwhat <;> cases hwhat
    rw [or_iff_right fun hboth => Nat.not_lt.mpr hn hboth.2]
    constructor
    · intro hread
      have hp : p + n ≤ a.m_size := Nat.not_lt.mp (mt hread.throws.mpr hnot)
      have hok := hread.bytes hp
      rw [heq] at hok
      split at hok
      · next hboth => exact ⟨hp, hn, hboth.1, hboth.2, Except.ok.inj hok⟩
      · cases hok
    · rintro ⟨hp, -, hcur, hchain, hbytes⟩
      refine ⟨iff_of_false hnot (Nat.not_lt.mpr hp), fun _ => ?_⟩
      rw [heq, if_pos ⟨hcur, hchain⟩, hbytes]
  · have hthrows : a.readAt n p = .error (.outOfRange "not enough len") := if_pos (Nat.not_le.mp hn)
    rw [or_iff_left fun hsame => hn hsame.cursor, and_iff_left (Nat.not_le.mp hn)]
    constructor
    · exact fun hread => hread.throws.mp ⟨_, hthrows⟩
    · exact fun hp => ⟨iff_of_true ⟨_, hthrows⟩ hp, fun hle => absurd hp (Nat.not_lt.mpr hle)⟩

/-! ## Texts -/

/-- toString is read at the cursor. -/
theorem WellFormed.toString_eq (hB : 0 < B) (h : a.WellFormed B) : a.toString = .ok a.ahead := by
  have hpos := h.position
  have hsize := h.size
  rw [toString]
  by_cases hzero : a.getReadSize = 0
  · have hahead : a.ahead = [] := List.length_eq_zero_iff.mp (h.length_ahead.trans hzero)
    rw [if_pos hzero, hahead]
  · have hless : a.m_position < a.m_size := by
      rw [getReadSize] at hzero
      omega
    have hstart : a.walkStart B a.m_position = a.m_position := walkStart_same rfl
    rw [if_neg hzero, h.readAt_eq hB (Nat.le_refl _), hstart, if_pos ⟨by omega, by rw [getReadSize]; omega⟩]
    rfl

/-- A digit in hexadecimal. -/
def hexDigit (d : Nat) : Char :=
  ['0', '1', '2', '3', '4', '5', '6', '7', '8', '9', 'a', 'b', 'c', 'd', 'e', 'f'].getD d ' '

theorem hexByte_eq (c : UInt8) : hexByte c = [hexDigit (c.toNat / 16), hexDigit (c.toNat % 16), ' '] := by
  have hall : ∀ n < 256, List.replicate (2 - (Nat.toDigits 16 n).length) '0' ++ Nat.toDigits 16 n ++ [' '] =
      [hexDigit (n / 16), hexDigit (n % 16), ' '] := by decide +kernel
  exact hall c.toNat c.toNat_lt

theorem hexDigit_ne (d : Nat) : hexDigit d ≠ '\n' := by
  rcases Nat.lt_or_ge d 16 with hlt | hge
  · have hall : ∀ d < 16, hexDigit d ≠ '\n' := by decide
    exact hall d hlt
  · rw [hexDigit, List.getD_eq_getElem?_getD, List.getElem?_eq_none hge]
    decide

theorem hexLoop_eq (i : Nat) (str : List UInt8) : (hexLoop i str).filter (· ≠ '\n') =
    str.flatMap fun c => [hexDigit (c.toNat / 16), hexDigit (c.toNat % 16), ' '] := by
  induction str generalizing i with
  | nil => rfl
  | cons c str ih =>
      have hend : (if i > 0 ∧ i % 32 = 0 then ['\n'] else []).filter (· ≠ '\n') = [] := by
        split <;> rfl
      rw [hexLoop, List.filter_append, List.filter_append, hend, ih, hexByte_eq, List.flatMap_cons, List.nil_append]
      simp [hexDigit_ne]

/-! ## The condition -/

/-- A read at a position keeps its promise exactly if the range is too long for the array and for the cursor as well, or
the walk from the node of the cursor finds the bytes; the texts are always those of the bytes ahead of the cursor. -/
theorem readAt_iff (hB : 1 ≤ B) {init : Nat → UInt8} (h : (system B init).Reachable a) (n p : Nat) :
    (ReadsExactly a n p ↔ a.m_size < p + n ∧ a.getReadSize < n ∨ SameBytes a B n p) ∧
      a.toString = .ok ((a.flat.cells.drop a.m_position).take (a.m_size - a.m_position)) ∧
      ∃ text, a.toHexString = .ok text ∧ text.filter (· ≠ '\n') =
        ((a.flat.cells.drop a.m_position).take (a.m_size - a.m_position)).flatMap fun c =>
          [hexDigit (c.toNat / 16), hexDigit (c.toNat % 16), ' '] := by
  have hwf := reachable_wellFormed hB h
  have hstring := hwf.toString_eq hB
  refine ⟨hwf.readsExactly_iff hB, hstring, hexLoop 0 a.ahead, ?_, hexLoop_eq 0 _⟩
  rw [toHexString, hstring]
  rfl

theorem readAt_iff_sixBytes : ReadsExactly sixBytes 2 2 := by
  refine (readAt_iff (by decide) sixBytes_reachable 2 2).1.mpr (.inr ⟨?_, ?_, ?_, ?_, ?_⟩)
  all_goals decide

/-- The fifth byte is read from the first node, where the cursor is. -/
theorem not_readsExactly_sixBytes : ¬ ∀ B ≥ 1, ∀ init a, (system B init).Reachable a → ∀ n p, ReadsExactly a n p := by
  intro h
  have hbytes := (h 4 (by decide) _ _ sixBytes_reachable 1 4).bytes (by decide)
  have hgot : sixBytes.readAt 1 4 = .ok [1] := rfl
  exact absurd (Except.ok.inj (hgot.symm.trans hbytes)) (by decide)

end Mingfwq.ByteArray
