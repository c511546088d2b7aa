import Mathlib.Algebra.Group.Int.Defs
import Mathlib.Algebra.Ring.Nat
import Mathlib.Data.List.Flatten
import Mingfwq.ByteArray.Lemmas.Empty

/-!
# Buffers for reading (bytearray.cpp)

Both forms of `getReadBuffers` clamp the length by what is left to read from the cursor, and walk over the nodes. The
walk goes to the next node before it takes the length of the piece it has found off what is missing.
-/

namespace Mingfwq.ByteArray

open Lib

/-- A difference in uint64_t. -/
def sub64 (x y : Nat) : Nat := (x + (2 ^ 64 - y % 2 ^ 64)) % 2 ^ 64

/-- The loop of getReadBuffers, on the nodes from node number `i` on. -/
def readBuffersLoop : List Node → Nat → Nat → Nat → Except Fault (List Iovec)
  | [], _, _, _ => .error .nullNode
  | [cur], i, npos, len =>
      let ncap := cur.length - npos
      if ncap > len then .ok [⟨i, npos, len⟩] else .error .nullNode
  | cur :: follow :: ns, i, npos, len =>
      let ncap := cur.length - npos
      if ncap > len then .ok [⟨i, npos, len⟩]
      else
        -- `ncap` is already that of the node that follows
        let len := sub64 len follow.length
        if len = 0 then .ok [⟨i, npos, ncap⟩]
        else do
          let iovs ← readBuffersLoop (follow :: ns) (i + 1) 0 len
          .ok (⟨i, npos, ncap⟩ :: iovs)

/-- What is found, and the length that is returned. -/
def getReadBuffers (a : ByteArray) (len : UInt64) : Except Fault (List Iovec × Nat) :=
  let len := if len.toNat > a.getReadSize then a.getReadSize else len.toNat
  if len = 0 then .ok ([], 0)
  else do
    let iovs ← readBuffersLoop (a.chain a.m_cur) (a.m_cur.getD 0) (a.m_position % a.m_baseSize) len
    .ok (iovs, len)

/-- `getReadBuffers(buffers, len, position)`. -/
def getReadBuffersAt (a : ByteArray) (len : UInt64) (position : Nat) : Except Fault (List Iovec × Nat) :=
  let len := if len.toNat > a.getReadSize then a.getReadSize else len.toNat
  if len = 0 then .ok ([], 0)
  else do
    let cur := a.next (some 0) (position / a.m_baseSize)
    let iovs ← readBuffersLoop (a.chain cur) (cur.getD 0) (position % a.m_baseSize) len
    .ok (iovs, len)

/-- The bytes that a buffer names. -/
def Iovec.bytes (a : ByteArray) (iov : Iovec) : List UInt8 :=
  ((a.m_root.getD iov.node []).drop iov.offset).take iov.iov_len

/-- The buffers are those of the bytes from `p` on, as many of the first `len` as the array has. -/
def Covers (a : ByteArray) (len p : Nat) (found : Except Fault (List Iovec × Nat)) : Prop :=
  ∃ iovs, found = .ok (iovs, min len (a.m_size - p)) ∧
    (iovs.map Iovec.iov_len).sum = min len (a.m_size - p) ∧
    (∀ iov ∈ iovs, iov.offset + iov.iov_len ≤ (a.m_root.getD iov.node []).length) ∧
    iovs.flatMap (Iovec.bytes a) = (a.flat.cells.drop p).take (min len (a.m_size - p))

/-- The bytes end within the node they start in, or they start with a node and end within one, or with a node that is
not the last of the chain. -/
def Aligned (a : ByteArray) (B p r : Nat) : Prop :=
  r = 0 ∨ p % B + r < B ∨ p % B = 0 ∧ (r % B ≠ 0 ∨ p + r < a.m_capacity)

variable {B : Nat} {a : ByteArray} {ns : List Node} {i npos len : Nat} {iovs : List Iovec}

/-! ## The loop -/

theorem sub64_of_le {x y : Nat} (hle : y ≤ x) (hlt : x < 2 ^ 64) : sub64 x y = x - y := by
  rw [sub64]
  omega

theorem sub64_of_lt {x y : Nat} (hlt : x < y) (hy : y < 2 ^ 64) : sub64 x y = 2 ^ 64 + x - y := by
  rw [sub64]
  omega

theorem readBuffersLoop_within {cur : Node} (hlt : npos + len < cur.length) :
    readBuffersLoop (cur :: ns) i npos len = .ok [⟨i, npos, len⟩] := by
  have hpos : cur.length - npos > len := by omega
  cases ns with
  | nil => exact if_pos hpos
  | cons follow ns => exact if_pos hpos

/-- Past the first node. -/
theorem readBuffersLoop_past {cur follow : Node} (hfollow : follow.length = B) (hge : cur.length - npos ≤ len) :
    readBuffersLoop (cur :: follow :: ns) i npos len =
      if sub64 len B = 0 then .ok [⟨i, npos, cur.length - npos⟩]
      else (readBuffersLoop (follow :: ns) (i + 1) 0 (sub64 len B)).map (⟨i, npos, cur.length - npos⟩ :: ·) := by
  subst hfollow
  exact if_neg (Nat.not_lt.mpr hge)

theorem readBuffersLoop_last {cur : Node} (hge : cur.length - npos ≤ len) :
    readBuffersLoop [cur] i npos len = .error .nullNode :=
  if_neg (Nat.not_lt.mpr hge)

theorem readBuffersLoop_sum (hB : 0 < B) (hns : Blocks B ns) (hlen : len < 2 ^ 64)
    (h : readBuffersLoop ns i 0 len = .ok iovs) : (iovs.map Iovec.iov_len).sum = len := by
  induction ns generalizing i len iovs with
  | nil => cases h
  | cons cur ns ih =>
      have hcur := hns.head
      by_cases hlt : len < B
      · rw [readBuffersLoop_within (by omega)] at h
        cases h
        simp
      · cases ns with
        | nil =>
            rw [readBuffersLoop_last (by omega)] at h
            cases h
        | cons follow ns =>
            rw [readBuffersLoop_past hns.tail.head (by omega), sub64_of_le (by omega) hlen] at h
            split at h
            · next hzero =>
                cases h
                simp
                omega
            · cases hrest : readBuffersLoop (follow :: ns) (i + 1) 0 (len - B) with
              | error e =>
                  rw [hrest] at h
                  cases h
              | ok rest =>
                  rw [hrest] at h
                  cases h
                  have := ih hns.tail (by omega) hrest
                  simp
                  omega

theorem getD_of_drop {cur : Node} (h : a.m_root.drop i = cur :: ns) : a.m_root.getD i [] = cur := by
  have hget : (a.m_root.drop i)[0]? = some cur := by rw [h]; rfl
  rw [List.getElem?_drop, Nat.add_zero] at hget
  rw [List.getD_eq_getElem?_getD, hget, Option.getD_some]

theorem bytes_of_drop {cur : Node} (h : a.m_root.drop i = cur :: ns) :
    Iovec.bytes a ⟨i, npos, len⟩ = (cur.drop npos).take len := by
  rw [Iovec.bytes, getD_of_drop h]

/-- Buffers that lie in their nodes, with these bytes. -/
def Holds (a : ByteArray) (iovs : List Iovec) (bytes : List UInt8) : Prop :=
  (∀ iov ∈ iovs, iov.offset + iov.iov_len ≤ (a.m_root.getD iov.node []).length) ∧
    iovs.flatMap (Iovec.bytes a) = bytes

theorem holds_within {cur : Node} (h : a.m_root.drop i = cur :: ns) (hle : npos + len ≤ cur.length) :
    Holds a [⟨i, npos, len⟩] ((cur.drop npos).take len) := by
  constructor
  · intro iov hiov
    rw [List.mem_singleton.mp hiov, getD_of_drop h]
    exact hle
  · rw [List.flatMap_singleton, bytes_of_drop h]

theorem Holds.cons {iov : Iovec} {bytes bytes' : List UInt8} (h : Holds a [iov] bytes) (h' : Holds a iovs bytes') :
    Holds a (iov :: iovs) (bytes ++ bytes') := by
  constructor
  · intro iov' hiov
    rcases List.mem_cons.mp hiov with rfl | hiov
    · exact h.1 _ (List.mem_singleton_self _)
    · exact h'.1 _ hiov
  · rw [← h.2, ← h'.2, List.flatMap_cons, List.flatMap_singleton]

/-- From the start of a node, to a place within a node or before one. -/
theorem readBuffersLoop_holds (hB : 0 < B) (hns : Blocks B ns) (hroot : a.m_root.drop i = ns) (hlen : len < 2 ^ 64)
    (hpos : 0 < len) (hfit : len ≤ B * ns.length) (hend : len % B ≠ 0 ∨ len < B * ns.length) :
    ∃ iovs, readBuffersLoop ns i 0 len = .ok iovs ∧ Holds a iovs (ns.flatten.take len) := by
  induction ns generalizing i len with
  | nil =>
      rw [List.length_nil] at hfit
      omega
  | cons cur ns ih =>
      have hcur := hns.head
      rw [List.flatten_cons]
      by_cases hlt : len < B
      · refine ⟨_, readBuffersLoop_within (by omega), ?_⟩
        rw [List.take_append_of_le_length (by omega)]
        exact holds_within hroot (by omega)
      · have hfirst : Holds a [⟨i, 0, cur.length⟩] cur := by
          have hwithin : Holds a [⟨i, 0, cur.length⟩] ((cur.drop 0).take cur.length) := holds_within hroot (by omega)
          rwa [List.drop_zero, List.take_length] at hwithin
        cases ns with
        | nil =>
            have hlast : len = B := by
              simp at hfit
              omega
            subst hlast
            simp at hend
        | cons follow ns =>
            have hroot' : a.m_root.drop (i + 1) = follow :: ns := by
              rw [← List.drop_drop, hroot, List.drop_succ_cons, List.drop_zero]
            rw [readBuffersLoop_past hns.tail.head (by omega), sub64_of_le (by omega) hlen, Nat.sub_zero]
            split
            · next hzero =>
                refine ⟨_, rfl, ?_⟩
                rw [List.take_append_of_le_length (by omega), List.take_of_length_le (by omega)]
                exact hfirst
            · have hmod : (len - B) % B = len % B := by
                rw [← Nat.mod_eq_sub_mod (by omega)]
              rw [List.length_cons, Nat.mul_succ] at hfit hend
              obtain ⟨iovs, hok, hholds⟩ := ih hns.tail hroot' (show len - B < 2 ^ 64 by omega) (by omega)
                (by omega) (by rw [hmod]; omega)
              refine ⟨_, by rw [hok]; rfl, ?_⟩
              have hrest : len - cur.length = len - B := by rw [hcur]
              rw [List.take_append, List.take_of_length_le (by omega), hrest]
              exact hfirst.cons hholds

theorem readBuffersLoop_end (hB : 0 < B) (hns : Blocks B ns) (hlen : len < 2 ^ 64) (hne : ns ≠ [])
    (hend : len = B * ns.length) : readBuffersLoop ns i 0 len = .error .nullNode := by
  induction ns generalizing i len with
  | nil => exact absurd rfl hne
  | cons cur ns ih =>
      have hcur := hns.head
      rw [List.length_cons, Nat.mul_succ] at hend
      cases ns with
      | nil => exact readBuffersLoop_last (by omega)
      | cons follow ns =>
          have hmore : 0 < B * (follow :: ns).length := Nat.mul_pos hB (Nat.succ_pos _)
          rw [readBuffersLoop_past hns.tail.head (by omega), sub64_of_le (by omega) hlen, if_neg (by omega),
            ih hns.tail (by omega) (by simp) (by omega)]
          rfl

/-- What a walk past the first node finds is as long as it should be only from the start of that node. -/
theorem readBuffersLoop_past_sum {cur follow : Node} (hB : 0 < B) (hB64 : B < 2 ^ 64)
    (hns : Blocks B (cur :: follow :: ns)) (hnpos : npos < B) (hlen : len < 2 ^ 64) (hge : B ≤ npos + len)
    (h : readBuffersLoop (cur :: follow :: ns) i npos len = .ok iovs) (hsum : (iovs.map Iovec.iov_len).sum = len) :
    npos = 0 := by
  have hcur := hns.head
  rw [readBuffersLoop_past hns.tail.head (by omega)] at h
  have hlen' : sub64 len B < 2 ^ 64 := Nat.mod_lt _ (by decide)
  have hsub : B ≤ len ∧ sub64 len B = len - B ∨ len < B ∧ sub64 len B = 2 ^ 64 + len - B := by
    rcases Nat.lt_or_ge len B with hlt | hle
    · exact .inr ⟨hlt, sub64_of_lt hlt hB64⟩
    · exact .inl ⟨hle, sub64_of_le hle hlen⟩
  split at h
  · cases h
    simp at hsum
    omega
  · cases hrest : readBuffersLoop (follow :: ns) (i + 1) 0 (sub64 len B) with
    | error e =>
        rw [hrest] at h
        cases h
    | ok rest =>
        rw [hrest] at h
        cases h
        have hsum' := readBuffersLoop_sum hB hns.tail hlen' hrest
        simp at hsum
        omega

/-- From a place within a node. -/
theorem readBuffersLoop_iff (hB : 0 < B) (hB64 : B < 2 ^ 64) (hns : Blocks B ns) (hroot : a.m_root.drop i = ns)
    (hnpos : npos < B) (hlen : len < 2 ^ 64) (hpos : 0 < len) (hfit : npos + len ≤ B * ns.length) :
    (∃ iovs, readBuffersLoop ns i npos len = .ok iovs ∧ (iovs.map Iovec.iov_len).sum = len ∧
        Holds a iovs ((ns.flatten.drop npos).take len)) ↔
      npos + len < B ∨ npos = 0 ∧ (len % B ≠ 0 ∨ len < B * ns.length) := by
  cases ns with
  | nil =>
      rw [List.length_nil] at hfit
      omega
  | cons cur ns =>
      have hcur := hns.head
      by_cases hlt : npos + len < B
      · refine iff_of_true ⟨_, readBuffersLoop_within (by omega), by simp, ?_⟩ (.inl hlt)
        rw [List.flatten_cons, List.drop_append_of_le_length (by omega),
          List.take_append_of_le_length (by rw [List.length_drop]; omega)]
        exact holds_within hroot (by omega)
      · rw [or_iff_right hlt]
        constructor
        · rintro ⟨iovs, hok, hsum, -⟩
          have hstart : npos = 0 := by
            cases ns with
            | nil =>
                rw [readBuffersLoop_last (by omega)] at hok
                cases hok
            | cons follow ns => exact readBuffersLoop_past_sum hB hB64 hns hnpos hlen (by omega) hok hsum
          subst hstart
          refine ⟨rfl, ?_⟩
          by_contra hend
          rw [readBuffersLoop_end hB hns hlen (by simp) (by omega)] at hok
          cases hok
        · rintro ⟨rfl, hend⟩
          obtain ⟨iovs, hok, hholds⟩ := readBuffersLoop_holds hB hns hroot hlen hpos (by omega) hend
          exact ⟨iovs, hok, readBuffersLoop_sum hB hns hlen hok, hholds⟩

/-! ## Both forms -/

theorem WellFormed.covers_iff (hB : 0 < B) (hB64 : B < 2 ^ 64) (h : a.WellFormed B) {p r : Nat} (hr : r < 2 ^ 64)
    (hfit : p + r ≤ a.m_size) (hpos : 0 < r) :
    (∃ iovs, readBuffersLoop (a.m_root.drop (p / B)) (p / B) (p % B) r = .ok iovs ∧
        (iovs.map Iovec.iov_len).sum = r ∧ Holds a iovs ((a.flat.cells.drop p).take r)) ↔ Aligned a B p r := by
  have hsize := h.size
  have hcapacity := h.capacity
  have hmod := Nat.mod_lt p hB
  have hroom : B * (a.m_root.drop (p / B)).length - p % B = a.m_capacity - p := by
    rw [List.length_drop, room_from_block (by omega), hcapacity]
  rw [← h.drop_cells hB (by omega), readBuffersLoop_iff hB hB64 (h.blocks.drop _) rfl hmod hr hpos (by omega), Aligned]
  omega

/-- What the walk from a position returns. -/
def walked (a : ByteArray) (B p r : Nat) : Except Fault (List Iovec × Nat) :=
  if r = 0 then .ok ([], 0)
  else (readBuffersLoop (a.m_root.drop (p / B)) (p / B) (p % B) r).map (·, r)

theorem WellFormed.covers_walked (hB : 0 < B) (hB64 : B < 2 ^ 64) (h : a.WellFormed B) {p r : Nat} (hr : r < 2 ^ 64)
    (hp : p ≤ a.m_size) : Covers a len p (a.walked B p r) ↔ r = min len (a.m_size - p) ∧ Aligned a B p r := by
  by_cases hzero : r = 0
  · subst hzero
    rw [walked, if_pos rfl, Covers, and_iff_left (show Aligned a B p 0 from .inl rfl)]
    constructor
    · rintro ⟨iovs, hok, -⟩
      exact congrArg Prod.snd (Except.ok.inj hok)
    · intro hmin
      exact ⟨[], by rw [← hmin], by simpa using hmin, by simp, by simp [← hmin]⟩
  · rw [walked, if_neg hzero]
    constructor
    · rintro ⟨iovs, hok, hsum, hbounds, hbytes⟩
      cases hloop : readBuffersLoop (a.m_root.drop (p / B)) (p / B) (p % B) r with
      | error e =>
          rw [hloop] at hok
          cases hok
      | ok found =>
          rw [hloop] at hok
          have hpair : (found, r) = (iovs, min len (a.m_size - p)) := Except.ok.inj hok
          obtain ⟨rfl, hmin⟩ := Prod.mk.inj hpair
          rw [← hmin] at hsum hbytes
          exact ⟨hmin, (h.covers_iff hB hB64 hr (by omega) (by omega)).mp ⟨found, hloop, hsum, hbounds, hbytes⟩⟩
    · rintro ⟨hmin, haligned⟩
      obtain ⟨iovs, hloop, hsum, hbounds, hbytes⟩ :=
        (h.covers_iff hB hB64 hr (by omega) (by omega)).mpr haligned
      refine ⟨iovs, ?_, ?_, hbounds, ?_⟩
      · rw [hloop, ← hmin]
        rfl
      · rw [← hmin, hsum]
      · rw [← hmin, hbytes]

theorem walked_clamp (a : ByteArray) (B p : Nat) (len : UInt64) :
    (let len := if len.toNat > a.getReadSize then a.getReadSize else len.toNat
     if len = 0 then .ok ([], 0)
     else (readBuffersLoop (a.m_root.drop (p / B)) (p / B) (p % B) len).map (·, len)) =
      a.walked B p (min len.toNat a.getReadSize) := by
  have hmin : (if len.toNat > a.getReadSize then a.getReadSize else len.toNat) = min len.toNat a.getReadSize := by
    rw [Nat.min_comm, Nat.min_def]
    split <;> split <;> omega
  rw [hmin]
  rfl

/-- The walk does not depend on the number of a node that is not there. -/
theorem readBuffersLoop_chain (a : ByteArray) (k npos len : Nat) :
    readBuffersLoop (a.chain (if k < a.m_root.length then some k else none))
        ((if k < a.m_root.length then some k else none).getD 0) npos len =
      readBuffersLoop (a.m_root.drop k) k npos len := by
  split
  · rfl
  · next hge =>
      rw [List.drop_eq_nil_of_le (Nat.not_lt.mp hge)]
      rfl

theorem WellFormed.getReadBuffersAt_eq (h : a.WellFormed B) (len : UInt64) (p : Nat) :
    a.getReadBuffersAt len p = a.walked B p (min len.toNat a.getReadSize) := by
  rw [← walked_clamp, getReadBuffersAt]
  simp only [next, Option.bind_some, Nat.zero_add, h.baseSize, readBuffersLoop_chain]
  rfl

theorem WellFormed.getReadBuffers_eq (h : a.WellFormed B) (len : UInt64) :
    a.getReadBuffers len = a.walked B a.m_position (min len.toNat a.getReadSize) := by
  rw [← walked_clamp, getReadBuffers, h.cur, h.baseSize]
  simp only [readBuffersLoop_chain]
  rfl

theorem Empty.getReadBuffers_eq (h : a.Empty) (len : UInt64) (p : Nat) :
    a.getReadBuffersAt len p = .ok ([], 0) ∧ a.getReadBuffers len = .ok ([], 0) := by
  have hnone : a.getReadSize = 0 := by rw [getReadSize, h.size, Nat.zero_sub]
  have hclamp : (if len.toNat > 0 then 0 else len.toNat) = 0 := by
    split
    · rfl
    · omega
  simp only [getReadBuffersAt, getReadBuffers, hnone, hclamp, if_true, and_self]

/-! ## The condition -/

/-- The form with a position finds the bytes exactly if the length is not clamped for another position and the bytes are
aligned, the form at the cursor if they are aligned; at the cursor both find the same. -/
theorem getReadBuffers_iff (hB : B < 2 ^ 64) {init : Nat → UInt8} (h : (system B init).Reachable a) (len : UInt64)
    {p : Nat} (hp : p ≤ a.m_size) :
    (Covers a len.toNat p (a.getReadBuffersAt len p) ↔
        min len.toNat a.getReadSize = min len.toNat (a.m_size - p) ∧
          Aligned a B p (min len.toNat (a.m_size - p))) ∧
      (Covers a len.toNat a.m_position (a.getReadBuffers len) ↔
        Aligned a B a.m_position (min len.toNat (a.m_size - a.m_position))) ∧
      a.getReadBuffersAt len a.m_position = a.getReadBuffers len := by
  rcases Nat.eq_zero_or_pos B with rfl | hpos
  · have hempty := reachable_empty h
    obtain ⟨hat, hcursor⟩ := hempty.getReadBuffers_eq len p
    obtain ⟨hatcursor, -⟩ := hempty.getReadBuffers_eq len a.m_position
    have hzero : ∀ q, min len.toNat (a.m_size - q) = 0 := by simp [hempty.size]
    have hcovers : ∀ q, Covers a len.toNat q (.ok ([], 0)) := fun q =>
      ⟨[], by simp [hzero], by simp [hzero], by simp, by simp [hzero]⟩
    rw [hat, hcursor, hatcursor, hzero, hzero]
    refine ⟨iff_of_true (hcovers p) ⟨hzero _, .inl rfl⟩, iff_of_true (hcovers _) (.inl rfl), rfl⟩
  · have hwf := reachable_wellFormed hpos h
    have hr : min len.toNat a.getReadSize < 2 ^ 64 := Nat.lt_of_le_of_lt (Nat.min_le_left _ _) len.toNat_lt
    rw [hwf.getReadBuffersAt_eq, hwf.getReadBuffersAt_eq, hwf.getReadBuffers_eq]
    refine ⟨?_, ?_, rfl⟩
    · rw [hwf.covers_walked hpos hB hr hp]
      exact and_congr_right fun heq => by rw [heq]
    · rw [hwf.covers_walked hpos hB hr hwf.position]
      exact and_iff_right rfl

/-- Two nodes of four bytes with six bytes in them, the cursor at the second byte. -/
def sixBytes : ByteArray := ⟨4, 1, 8, 6, [[1, 2, 3, 4], [5, 6, 0, 0]], some 0⟩

theorem sixBytes_reachable : (system 4 fun _ => 0).Reachable sixBytes :=
  System.Reach.exec (fun _ _ => trivial)
    [.write [1, 2, 3, 4] fun _ => 0, .write [5, 6] fun _ => 0, .setPosition 1] .init rfl

theorem getReadBuffers_iff_sixBytes : Covers sixBytes 2 1 (sixBytes.getReadBuffers 2) :=
  (getReadBuffers_iff (by decide) sixBytes_reachable 2 (p := 1) (by decide)).2.1.mpr (.inr (.inl (by decide)))

/-- Of the five bytes from the second byte on, the last one is not found. -/
theorem not_covers_sixBytes : ¬ ∀ B < 2 ^ 64, ∀ init a, (system B init).Reachable a → ∀ len : UInt64,
    Covers a len.toNat a.m_position (a.getReadBuffers len) := by
  intro h
  obtain ⟨iovs, hfound, hsum, -⟩ := h 4 (by decide) _ _ sixBytes_reachable 5
  have hgot : sixBytes.getReadBuffers 5 = .ok ([⟨0, 1, 3⟩, ⟨1, 0, 1⟩], 5) := by rfl
  cases hgot.symm.trans hfound
  exact absurd hsum (by decide)

end Mingfwq.ByteArray
