import Mingfwq.ByteArray.Lemmas.Streams
import Mingfwq.Stream.Lemmas.Reading
import Mingfwq.Stream.SocketStream

/-!
# Sending from a byte array

The buffers of getReadBuffers may name fewer bytes than they should, and the loop of writeFixSize makes up for that, or
the walk over the nodes may run off the chain.
-/

namespace Mingfwq

open Lib

namespace ByteArray

/-- The cell behind the bytes is in the node they start in, or it is the last one of a node. -/
def Sendable (B cap p n : Nat) : Prop := p % B + n < B ∨ (p + n) % B = B - 1 ∧ p + n < cap

variable {B cap i len n p r k : Nat} {a a' a₁ : ByteArray} {before bytes : List UInt8} {iovs : List Iovec}
  {ns : List Node}

/-! ## One walk -/

theorem readBuffersLoop_beyond (hB : 0 < B) (hns : Blocks B ns) (hlen : len < 2 ^ 64) (hle : B * ns.length ≤ len) :
    readBuffersLoop ns i 0 len = .error .nullNode := by
  induction ns generalizing i len with
  | nil => rfl
  | cons cur ns ih =>
      have hcur := hns.head
      rw [List.length_cons, Nat.mul_succ] at hle
      cases ns with
      | nil => exact readBuffersLoop_last (by omega)
      | cons follow ns =>
          have hrest := ih (i := i + 1) hns.tail (show len - B < 2 ^ 64 by omega) (by omega)
          have hmore : 0 < B * (follow :: ns).length := Nat.mul_pos hB (Nat.succ_pos _)
          rw [readBuffersLoop_past hns.tail.head (by omega), sub64_of_le (by omega) hlen, hrest, if_neg (by omega)]
          rfl

theorem Sendable.within (h : Sendable B cap p n) (hlt : n < B) : p % B + n < B := by
  rcases h with h | ⟨hend, -⟩
  · exact h
  · have hp := Nat.mod_lt p (show 0 < B by omega)
    by_contra hge
    have hsum : (p + n) % B = p % B + n - B := by
      rw [Nat.add_mod, Nat.mod_eq_of_lt hlt, Nat.mod_eq_sub_mod (by omega), Nat.mod_eq_of_lt (by omega)]
    omega

/-- What is found of bytes that can be sent: from the first of them on, and at least that one. -/
theorem WellFormed.walk (hB : 0 < B) (h : a.WellFormed B) (hcap : a.m_capacity < 2 ^ 64) (hr : 0 < r)
    (hfit : p + r ≤ a.m_size) (hsend : Sendable B a.m_capacity p r) :
    ∃ iovs t, readBuffersLoop (a.m_root.drop (p / B)) (p / B) (p % B) r = .ok iovs ∧ 0 < t ∧ t ≤ r ∧
      iovs.flatMap (Iovec.bytes a) = (a.flat.cells.drop p).take t := by
  have hsize := h.size
  have hcapacity := h.capacity
  have hmod := Nat.mod_lt p hB
  have hblocks : Blocks B (a.m_root.drop (p / B)) := h.blocks.drop _
  have hroom : B * (a.m_root.drop (p / B)).length - p % B = a.m_capacity - p := by
    rw [List.length_drop, room_from_block (by omega), hcapacity]
  rw [← h.drop_cells hB (by omega)]
  have hB64 : B < 2 ^ 64 := by
    have hpos := List.length_pos_iff.mpr h.root
    have hle := Nat.le_mul_of_pos_right B hpos
    omega
  by_cases haligned : p % B + r < B ∨ p % B = 0 ∧ (r % B ≠ 0 ∨ r < B * (a.m_root.drop (p / B)).length)
  · obtain ⟨iovs, hok, -, -, hbytes⟩ :=
      (readBuffersLoop_iff hB hB64 hblocks rfl hmod (by omega) hr (by omega)).mpr haligned
    exact ⟨iovs, r, hok, hr, Nat.le_refl r, hbytes⟩
  · -- from within a node to the last but one byte of another
    rcases hsend with hwithin | ⟨hend, hlt⟩
    · exact absurd (.inl hwithin) haligned
    have hstart : p % B ≠ 0 := fun hzero => haligned (.inr ⟨hzero, .inr (by omega)⟩)
    have hge : B ≤ r := by
      by_contra hless
      exact haligned (.inl (Sendable.within (.inr ⟨hend, hlt⟩) (Nat.lt_of_not_le hless)))
    generalize hnodes : a.m_root.drop (p / B) = nodes at *
    match nodes with
    | [] =>
        rw [List.length_nil] at hroom
        omega
    | [cur] =>
        rw [List.length_singleton] at hroom
        omega
    | cur :: follow :: ns =>
        have hcur := hblocks.head
        have hroot : a.m_root.drop (p / B + 1) = follow :: ns := by
          rw [← List.drop_drop, hnodes, List.drop_succ_cons, List.drop_zero]
        have hfirst : Holds a [⟨p / B, p % B, cur.length - p % B⟩] (cur.drop (p % B)) := by
          have hwithin : Holds a [⟨p / B, p % B, cur.length - p % B⟩] ((cur.drop (p % B)).take (cur.length - p % B)) :=
            holds_within hnodes (by omega)
          rwa [List.take_of_length_le (by rw [List.length_drop])] at hwithin
        rw [List.length_cons, Nat.mul_succ] at hroom
        rw [readBuffersLoop_past hblocks.tail.head (by omega), sub64_of_le hge (by omega), List.flatten_cons,
          List.drop_append_of_le_length (by omega)]
        split
        · refine ⟨_, B - p % B, rfl, by omega, by omega, ?_⟩
          rw [hfirst.2, List.take_left' (by rw [List.length_drop, hcur])]
        · obtain ⟨iovs, hok, hholds⟩ := readBuffersLoop_holds hB hblocks.tail hroot
            (show r - B < 2 ^ 64 by omega) (by omega) (by omega) (.inr (by omega))
          refine ⟨_, r - p % B, by rw [hok]; rfl, by omega, by omega, ?_⟩
          have hrest : (cur.drop (p % B)).length = B - p % B := by rw [List.length_drop, hcur]
          have hpieces := (hfirst.cons hholds).2
          have htake : (cur.drop (p % B)).take (r - p % B) = cur.drop (p % B) := List.take_of_length_le (by omega)
          have hleft : r - p % B - (B - p % B) = r - B := by omega
          rw [hpieces, List.take_append, htake, hrest, hleft]

/-- Bytes that begin within a node and end in the next one: the walk takes a whole node off what is missing, and that is
less. -/
theorem WellFormed.walk_error (hB : 0 < B) (h : a.WellFormed B) (hcap : a.m_capacity < 2 ^ 64) (hr : r < B)
    (hcross : B ≤ p % B + r) :
    readBuffersLoop (a.m_root.drop (p / B)) (p / B) (p % B) r = .error .nullNode := by
  have hcapacity := h.capacity
  have hblocks : Blocks B (a.m_root.drop (p / B)) := h.blocks.drop _
  have hroom : B * (a.m_root.drop (p / B)).length ≤ a.m_capacity := by
    rw [hcapacity, List.length_drop]
    exact Nat.mul_le_mul_left B (Nat.sub_le _ _)
  generalize a.m_root.drop (p / B) = nodes at *
  match nodes with
  | [] => rfl
  | [cur] => exact readBuffersLoop_last (by rw [hblocks.head]; omega)
  | cur :: follow :: ns =>
      rw [List.length_cons, Nat.mul_succ] at hroom
      have hrest : readBuffersLoop (follow :: ns) (p / B + 1) 0 (sub64 r B) = .error .nullNode := by
        rw [sub64_of_lt hr (by omega)]
        exact readBuffersLoop_beyond hB hblocks.tail (by omega) (by omega)
      rw [readBuffersLoop_past hblocks.tail.head (by rw [hblocks.head]; omega), hrest, sub64_of_lt hr (by omega),
        if_neg (by omega)]
      rfl

theorem readBuffersLoop_error {e : Fault} (h : readBuffersLoop ns i p len = .error e) : e = .nullNode := by
  induction ns generalizing i p len with
  | nil =>
      cases h
      rfl
  | cons cur ns ih =>
      cases ns with
      | nil =>
          simp only [readBuffersLoop] at h
          split at h <;> cases h
          rfl
      | cons follow ns =>
          simp only [readBuffersLoop] at h
          split at h
          · cases h
          split at h
          · cases h
          cases hrest : readBuffersLoop (follow :: ns) (i + 1) 0 (sub64 len follow.length) with
          | error e' =>
              rw [hrest] at h
              cases h
              exact ih hrest
          | ok iovs' =>
              rw [hrest] at h
              cases h

theorem readBuffersLoop_first {cur : Node} (h : readBuffersLoop (cur :: ns) i p len = .ok iovs) :
    ∃ rest, iovs = ⟨i, p, min len (cur.length - p)⟩ :: rest := by
  cases ns with
  | nil =>
      simp only [readBuffersLoop] at h
      split at h
      · next hlt =>
          cases h
          exact ⟨[], by rw [Nat.min_eq_left (Nat.le_of_lt hlt)]⟩
      · cases h
  | cons follow ns =>
      simp only [readBuffersLoop] at h
      split at h
      · next hlt =>
          cases h
          exact ⟨[], by rw [Nat.min_eq_left (Nat.le_of_lt hlt)]⟩
      next hge =>
      rw [Nat.min_eq_right (Nat.not_lt.mp hge)]
      split at h
      · cases h
        exact ⟨[], rfl⟩
      · cases hrest : readBuffersLoop (follow :: ns) (i + 1) 0 (sub64 len follow.length) with
        | error e =>
            rw [hrest] at h
            cases h
        | ok iovs' =>
            rw [hrest] at h
            cases h
            exact ⟨iovs', rfl⟩

/-- A walk that does not run off the chain finds at least one byte. -/
theorem WellFormed.walk_ne_nil (hB : 0 < B) (h : a.WellFormed B) (hr : 0 < r)
    (hok : readBuffersLoop (a.m_root.drop (p / B)) (p / B) (p % B) r = .ok iovs) :
    iovs.flatMap (Iovec.bytes a) ≠ [] := by
  have hmod := Nat.mod_lt p hB
  have hblocks : Blocks B (a.m_root.drop (p / B)) := h.blocks.drop _
  cases hnodes : a.m_root.drop (p / B) with
  | nil =>
      rw [hnodes] at hok
      cases hok
  | cons cur ns =>
      rw [hnodes] at hok hblocks
      have hcur := hblocks.head
      obtain ⟨rest, rfl⟩ := readBuffersLoop_first hok
      rw [List.flatMap_cons, bytes_of_drop hnodes]
      apply List.ne_nil_of_length_pos
      rw [List.length_append, List.length_take, List.length_drop]
      omega

/-! ## One call -/

theorem WellFormed.setPosition_passed (hB : 0 < B) (h : a.WellFormed B) (hn : n ≤ a.getReadSize) :
    ∃ a', a.setPosition (a.m_position + n) = .ok a' ∧ Passed B n a a' := by
  have hsize := h.size
  have hposition := h.position
  rw [getReadSize] at hn
  have hset := h.setPosition_flat hB (a.m_position + n)
  have hsome : a.flat.setPosition (a.m_position + n) = some { a.flat with
      cursor := a.m_position + n, size := max a.m_size (a.m_position + n) } :=
    if_pos (by rw [h.length_cells]; omega)
  simp only [hsome] at hset
  obtain ⟨a', hok, ha', hflat⟩ := hset
  have hcells : a'.flat.cells = a.flat.cells := by rw [hflat]
  have hcursor : a'.m_position = a.m_position + n := show a'.flat.cursor = _ by rw [hflat]
  have hmax : a'.m_size = a.m_size := by
    have hflat_size : a'.flat.size = max a.m_size (a.m_position + n) := by rw [hflat]
    exact hflat_size.trans (Nat.max_eq_left (by omega))
  refine ⟨a', hok, ha', ?_, hcursor, ?_⟩
  · unfold ahead
    rw [hcells, hcursor, hmax, List.drop_take, List.drop_drop, Nat.sub_sub]
  · rw [← ha'.length_cells, hcells, h.length_cells]

theorem WellFormed.getReadBuffers_of_le (h : a.WellFormed B) (hr : 0 < r) (hle : r ≤ a.getReadSize)
    (h64 : r < 2 ^ 64) : a.getReadBuffers (.ofNat r) =
      (readBuffersLoop (a.m_root.drop (a.m_position / B)) (a.m_position / B) (a.m_position % B) r).map (·, r) := by
  have hmin : min (UInt64.ofNat r).toNat a.getReadSize = r := by
    have hr64 : (UInt64.ofNat r).toNat = r := UInt64.toNat_ofNat_of_lt h64
    rw [hr64, Nat.min_eq_left hle]
  rw [h.getReadBuffers_eq, hmin, walked, if_neg (Nat.ne_of_gt hr)]

end ByteArray

namespace Sink

variable {sink : Sink} {bytes : Bytes}

theorem send_successful (h : sink.Successful) (hbytes : bytes ≠ []) : ∃ t sink', sink.send bytes = (some t, sink') ∧
    0 < t ∧ t ≤ bytes.length ∧ sink'.sent = sink.sent ++ bytes.take t ∧ sink'.Successful := by
  obtain ⟨takes, sent⟩ := sink
  have hpos := List.length_pos_of_ne_nil hbytes
  cases takes with
  | nil => exact ⟨bytes.length, _, rfl, hpos, Nat.le_refl _, by rw [List.take_length], h⟩
  | cons n takes =>
      obtain ⟨m, rfl⟩ := h n List.mem_cons_self
      refine ⟨(bytes.take (m + 1)).length, _, rfl, ?_, ?_, ?_, fun n hn => h n (List.mem_cons_of_mem _ hn)⟩
      · rw [List.length_take]
        omega
      · exact List.length_take_le' _ _
      · rw [List.length_take, List.take_eq_take_min]

end Sink

namespace ByteArray

variable {sink : Sink}

/-- One call, where the bytes can be sent. -/
theorem WellFormed.write_sent (hB : 0 < B) (h : a.WellFormed B) (hcap : a.m_capacity < 2 ^ 64) (hr : 0 < r)
    (hle : r ≤ a.getReadSize) (hsend : Sendable B a.m_capacity a.m_position r) (hs : sink.Successful) :
    ∃ t sink' a', SocketStream.write (sink, a) r = .ok (some t, (sink', a')) ∧ 0 < t ∧ t ≤ r ∧
      sink'.sent = sink.sent ++ a.ahead.take t ∧ sink'.Successful ∧ Passed B t a a' := by
  have hsize := h.size
  have hposition := h.position
  have hcells := h.length_cells
  have hread := hle
  rw [getReadSize] at hread
  obtain ⟨iovs, u, hloop, hu, hur, hbytes⟩ := h.walk hB hcap hr (p := a.m_position) (by omega) hsend
  have hlength : (iovs.flatMap (Iovec.bytes a)).length = u := by
    rw [hbytes, List.length_take, List.length_drop]
    omega
  have hne : iovs.flatMap (Iovec.bytes a) ≠ [] := List.length_pos_iff.mp (by omega)
  obtain ⟨t, sink', hsent, ht, htu, hsent', hs'⟩ := Sink.send_successful hs hne
  obtain ⟨a', hset, hpassed⟩ := h.setPosition_passed hB (show t ≤ a.getReadSize by omega)
  refine ⟨t, sink', a', ?_, ht, by omega, ?_, hs', hpassed⟩
  · unfold SocketStream.write
    have hbuffers := h.getReadBuffers_of_le hr hle (by omega)
    rw [hloop] at hbuffers
    simp only [hbuffers, Except.map, bind, Except.bind, hsent, if_pos ht, hset]
  · rw [hsent', hbytes, ahead, List.take_take, List.take_take, Nat.min_eq_left (by omega), Nat.min_eq_left (by omega)]

theorem WellFormed.write_error (h : a.WellFormed B) (hr : 0 < r) (hle : r ≤ a.getReadSize) (h64 : r < 2 ^ 64)
    {e : Fault} (herror : readBuffersLoop (a.m_root.drop (a.m_position / B)) (a.m_position / B) (a.m_position % B) r =
      .error e) : SocketStream.write (sink, a) r = .error e := by
  have hbuffers := h.getReadBuffers_of_le hr hle h64
  rw [herror] at hbuffers
  unfold SocketStream.write
  simp only [hbuffers, Except.map, bind, Except.bind]

/-! ## All calls -/

theorem Sendable.later (hk : k ≤ n) (h : Sendable B cap p n) : Sendable B cap (p + k) (n - k) := by
  have hsum : p + k + (n - k) = p + n := by omega
  unfold Sendable at *
  rw [hsum]
  refine h.imp_left fun hwithin => ?_
  have hmod : (p + k) % B = p % B + k := by
    rw [Nat.add_mod, Nat.mod_eq_of_lt (show k < B by omega), Nat.mod_eq_of_lt (by omega)]
  omega

/-- What has gone after `k` bytes. -/
structure Sending (B : Nat) (before : List UInt8) (a : ByteArray) (k : Nat) (s : Sink × ByteArray) : Prop where
  successful : s.1.Successful
  sent : s.1.sent = before ++ a.ahead.take k
  passed : Passed B k a s.2

theorem WellFormed.getReadSize_passed (h : a.WellFormed B) (hp : Passed B k a a') :
    a'.getReadSize = a.getReadSize - k := by
  rw [← hp.wellFormed.length_ahead, hp.ahead, List.length_drop, h.length_ahead]

theorem Sending.step (hB : 0 < B) (ha : a.WellFormed B) (hcap : a.m_capacity < 2 ^ 64) (hn : n ≤ a.getReadSize)
    (hsend : Sendable B a.m_capacity a.m_position n) {s : Sink × ByteArray} (h : Sending B before a k s) (hk : k < n) :
    ∃ t s', SocketStream.write s (n - k) = .ok (some t, s') ∧ 0 < t ∧ k + t ≤ n ∧ Sending B before a (k + t) s' := by
  obtain ⟨sink, a₁⟩ := s
  obtain ⟨hs, hsent, hp⟩ := h
  simp only at hs hsent hp
  have hsize := ha.getReadSize_passed hp
  obtain ⟨t, sink', a₂, hwrite, ht, hle, hsent', hs', hp'⟩ := hp.wellFormed.write_sent hB (hp.capacity ▸ hcap)
    (Nat.sub_pos_of_lt hk) (by omega) (by rw [hp.capacity, hp.position]; exact hsend.later (Nat.le_of_lt hk)) hs
  refine ⟨t, (sink', a₂), hwrite, ht, by omega, hs', ?_, hp.trans hp'⟩
  rw [hsent', hsent, hp.ahead, List.append_assoc, ← List.take_add]

/-- Bytes that cannot be sent still cross a node without their first one. -/
theorem not_within_succ (hge : B ≤ n + 1) (hB : 1 < B) (hcross : ¬ p % B + (n + 1) < B)
    (hend : ¬ ((p + (n + 1)) % B = B - 1 ∧ p + (n + 1) < cap)) (hcap : B ∣ cap) (hfit : p + (n + 1) ≤ cap) :
    ¬ (p + 1) % B + n < B := by
  have hmod := Nat.mod_lt p (Nat.zero_lt_of_lt hB)
  by_cases hlast : p % B = B - 1
  · have hnext : (p + 1) % B = 0 := by
      rw [Nat.add_mod, hlast, Nat.mod_eq_of_lt hB, Nat.sub_add_cancel (Nat.le_of_lt hB), Nat.mod_self]
    rw [hnext]
    intro hlt
    obtain rfl : B = n + 1 := by omega
    rw [Nat.add_mod_right] at hend
    have hcap_mod := Nat.mod_eq_zero_of_dvd hcap
    have hfull : p + (n + 1) = cap := by
      by_contra hne
      exact hend ⟨hlast, Nat.lt_of_le_of_ne hfit hne⟩
    rw [← hfull, Nat.add_mod_right] at hcap_mod
    omega
  · have hnext : (p + 1) % B = p % B + 1 := by
      rw [Nat.add_mod, Nat.mod_eq_of_lt hB, Nat.mod_eq_of_lt (by omega)]
    omega

/-- One byte may be taken alone. -/
theorem WellFormed.write_one (hB : 0 < B) (h : a.WellFormed B) (hn : 0 < n) (hle : n ≤ a.getReadSize) (h64 : n < 2 ^ 64)
    (hwalk : readBuffersLoop (a.m_root.drop (a.m_position / B)) (a.m_position / B) (a.m_position % B) n = .ok iovs) :
    ∃ a₁ b, Passed B 1 a a₁ ∧ ∀ takes sent, SocketStream.write (⟨some 1 :: takes, sent⟩, a) n =
      .ok (some 1, (⟨takes, sent ++ [b]⟩, a₁)) := by
  obtain ⟨a₁, hset, hp⟩ := h.setPosition_passed hB (show 1 ≤ a.getReadSize by omega)
  obtain ⟨b, bytes, hbytes⟩ := List.exists_cons_of_ne_nil (h.walk_ne_nil hB hn hwalk)
  have hbuffers := h.getReadBuffers_of_le hn hle h64
  rw [hwalk] at hbuffers
  refine ⟨a₁, b, hp, fun takes sent => ?_⟩
  unfold SocketStream.write
  simp [hbuffers, hbytes, hset, Except.map, bind, Except.bind, Sink.send]

/-- Some way of taking the bytes makes the walk run off the chain. -/
def RunsOff (n : Nat) (a : ByteArray) : Prop :=
  ∃ takes : List (Option Nat), (∀ t ∈ takes, ∃ m, t = some (m + 1)) ∧ ∀ sent fuel, takes.length < fuel →
    transferLoop SocketStream.write fuel (⟨takes, sent⟩, a) n = .error .nullNode

theorem runsOff_of_error (hn : 0 < n) (h : ∀ sink, SocketStream.write (sink, a) n = .error .nullNode) :
    RunsOff n a := by
  refine ⟨[], by simp, fun sent fuel hfuel => ?_⟩
  obtain ⟨fuel, rfl⟩ := Nat.exists_eq_succ_of_ne_zero (Nat.ne_of_gt hfuel)
  exact transferLoop_error hn (h _)

theorem RunsOff.one {b : UInt8} (h : RunsOff n a₁) (h64 : n + 1 < 2 ^ 64)
    (hwrite : ∀ takes sent, SocketStream.write (⟨some 1 :: takes, sent⟩, a) (n + 1) =
      .ok (some 1, (⟨takes, sent ++ [b]⟩, a₁))) : RunsOff (n + 1) a := by
  obtain ⟨takes, htakes, hloop⟩ := h
  refine ⟨some 1 :: takes, List.forall_mem_cons.mpr ⟨⟨0, rfl⟩, htakes⟩, fun sent fuel hfuel => ?_⟩
  cases fuel with
  | zero => cases hfuel
  | succ fuel =>
      rw [transferLoop_moved h64 Nat.one_pos (Nat.le_add_left 1 n) (hwrite takes sent)]
      exact hloop _ fuel (Nat.lt_of_succ_lt_succ hfuel)

/-- Bytes that cannot be sent still cannot after the first of them, until the walk runs off. -/
theorem WellFormed.runsOff (hB : 0 < B) (ha : a.WellFormed B) (hcap : a.m_capacity < 2 ^ 64) (hn : 0 < n)
    (hle : n ≤ a.getReadSize) (hno : ¬ Sendable B a.m_capacity a.m_position n) : RunsOff n a := by
  obtain ⟨hcross, hend⟩ := not_or.mp hno
  clear hno
  induction n generalizing a with
  | zero => cases hn
  | succ n ih =>
      have hsize := ha.size
      have hposition := ha.position
      have hcapacity := ha.capacity
      have hread := hle
      rw [getReadSize] at hread
      have herror : readBuffersLoop (a.m_root.drop (a.m_position / B)) (a.m_position / B) (a.m_position % B) (n + 1) =
          .error .nullNode → RunsOff (n + 1) a :=
        fun hwalk => runsOff_of_error hn fun _ => ha.write_error hn hle (by omega) hwalk
      by_cases hless : n + 1 < B
      · exact herror (ha.walk_error hB hcap hless (by omega))
      by_cases hone : B = 1
      · subst hone
        have hall : 1 * (a.m_root.drop (a.m_position / 1)).length ≤ n + 1 := by
          rw [List.length_drop]
          omega
        rw [Nat.mod_one] at herror
        exact herror (readBuffersLoop_beyond hB (ha.blocks.drop _) (by omega) hall)
      cases hwalk : readBuffersLoop (a.m_root.drop (a.m_position / B)) (a.m_position / B) (a.m_position % B)
          (n + 1) with
      | error e =>
          obtain rfl := readBuffersLoop_error hwalk
          exact herror hwalk
      | ok iovs =>
          obtain ⟨a₁, b, hp, hwrite⟩ := ha.write_one hB hn hle (by omega) hwalk
          have hsize₁ := ha.getReadSize_passed hp
          have hcross₁ : ¬ a₁.m_position % B + n < B := by
            rw [hp.position]
            exact not_within_succ (Nat.not_lt.mp hless) (by omega) hcross hend ⟨_, hcapacity⟩ (by omega)
          have hend₁ : ¬ ((a₁.m_position + n) % B = B - 1 ∧ a₁.m_position + n < a₁.m_capacity) := by
            rw [hp.position, hp.capacity, Nat.add_assoc, Nat.add_comm 1]
            exact hend
          exact (ih hp.wellFormed (hp.capacity ▸ hcap) (by omega) (by omega) hcross₁ hend₁).one (by omega) hwrite

end ByteArray

namespace SocketStream

variable {B n : Nat} {a : ByteArray}

/-- Where the bytes can be sent, all of them are. -/
theorem writeFixSize_ok (hB : 0 < B) (ha : a.WellFormed B) (hcap : a.m_capacity < 2 ^ 64) (hn : n ≤ a.getReadSize)
    (hsend : n = 0 ∨ ByteArray.Sendable B a.m_capacity a.m_position n) {sink : Sink} (hs : sink.Successful) :
    ∃ sink' a', writeFixSize sink a n = .ok (some (toInt32 n, (sink', a'))) ∧
      sink'.sent = sink.sent ++ a.ahead.take n ∧ ByteArray.Passed B n a a' := by
  have hread := hn
  have hsize := ha.size
  rw [ByteArray.getReadSize] at hread
  have hstart : ByteArray.Sending B sink.sent a 0 (sink, a) := ⟨hs, by rw [List.take_zero, List.append_nil], .zero ha⟩
  have hstep : ∀ k s, ByteArray.Sending B sink.sent a k s → k < n →
      ∃ t s', SocketStream.write s (n - k) = .ok (some t, s') ∧ 0 < t ∧ k + t ≤ n ∧
        ByteArray.Sending B sink.sent a (k + t) s' :=
    fun k s hk hlt => hk.step hB ha hcap hn (hsend.resolve_left (Nat.ne_zero_of_lt hlt)) hlt
  have hfuel : n - 0 < sink.takes.length + n + 1 := by omega
  obtain ⟨⟨sink', a'⟩, hloop, -, hsent, hpassed⟩ := transferLoop_run hstep (by omega) (Nat.zero_le n) hfuel hstart
  refine ⟨sink', a', ?_, hsent, hpassed⟩
  unfold writeFixSize
  rw [Nat.sub_zero] at hloop
  simp only [hloop, Except.map, Option.map_some, result, if_true]

/-- Where they cannot, some way of taking them runs off the chain. -/
theorem writeFixSize_off (hB : 0 < B) (ha : a.WellFormed B) (hcap : a.m_capacity < 2 ^ 64) (hn : n ≤ a.getReadSize)
    (hno : ¬ (n = 0 ∨ ByteArray.Sendable B a.m_capacity a.m_position n)) (before : Bytes) :
    ∃ takes, (Sink.mk takes before).Successful ∧ writeFixSize ⟨takes, before⟩ a n = .error .nullNode := by
  obtain ⟨hpos, hcannot⟩ := not_or.mp hno
  obtain ⟨takes, htakes, hloop⟩ := ha.runsOff hB hcap (Nat.pos_of_ne_zero hpos) hn hcannot
  refine ⟨takes, htakes, ?_⟩
  have hfuel : takes.length < takes.length + n + 1 := by omega
  rw [writeFixSize, hloop before _ hfuel]
  rfl

/-- All bytes are sent, in order and once, in whatever pieces they are taken, exactly if the cell behind them is in the
node they start in or is the last one of a node. Otherwise the walk of getReadBuffers runs off the chain when they are
taken in some pieces. -/
theorem writeFixSize_iff (hB : 1 ≤ B) {init : Nat → UInt8} (h : (ByteArray.system B init).Reachable a)
    (hcap : a.m_capacity < 2 ^ 64) (hn : n ≤ a.getReadSize) (before : Bytes) :
    ((∀ takes, (Sink.mk takes before).Successful → ∃ sink a',
        writeFixSize ⟨takes, before⟩ a n = .ok (some (toInt32 n, (sink, a'))) ∧
          sink.sent = before ++ a.ahead.take n ∧ ByteArray.Passed B n a a') ↔
      n = 0 ∨ ByteArray.Sendable B a.m_capacity a.m_position n) ∧
    (¬ (n = 0 ∨ ByteArray.Sendable B a.m_capacity a.m_position n) → ∃ takes, (Sink.mk takes before).Successful ∧
      writeFixSize ⟨takes, before⟩ a n = .error .nullNode) := by
  have ha := ByteArray.reachable_wellFormed hB h
  refine ⟨⟨fun hsends => ?_, fun hsend takes hs => writeFixSize_ok hB ha hcap hn hsend hs⟩, fun hno =>
    writeFixSize_off hB ha hcap hn hno before⟩
  by_contra hno
  obtain ⟨takes, hs, herror⟩ := writeFixSize_off hB ha hcap hn hno before
  obtain ⟨sink, a', hok, -⟩ := hsends takes hs
  rw [herror] at hok
  cases hok

/-- Two nodes of four bytes with seven bytes in them, the cursor at the second byte. -/
def sevenBytes : ByteArray := ⟨4, 1, 8, 7, [[1, 2, 3, 4], [5, 6, 7, 0]], some 0⟩

theorem sevenBytes_reachable : (ByteArray.system 4 fun _ => 0).Reachable sevenBytes :=
  System.Reach.exec (fun _ _ => trivial)
    [.write [1, 2, 3, 4] fun _ => 0, .write [5, 6, 7] fun _ => 0, .setPosition 1] .init rfl

/-- Behind the six bytes is the last cell of the second node. -/
theorem writeFixSize_sevenBytes : ∃ sink a',
    writeFixSize ⟨[some 1, some 4], []⟩ sevenBytes 6 = .ok (some (6, (sink, a'))) ∧
      sink.sent = [2, 3, 4, 5, 6, 7] ∧ ByteArray.Passed 4 6 sevenBytes a' :=
  (writeFixSize_iff (by decide) sevenBytes_reachable (by decide) (by decide) []).1.mpr (.inr (.inr (by decide)))
    [some 1, some 4] (by simp [Sink.Successful])

end SocketStream

end Mingfwq
