import Mingfwq.ByteArray.Lemmas.Streams
import Mingfwq.ByteArray.Theorems
import Mingfwq.Stream.Lemmas.Reading
import Mingfwq.Stream.SocketStream

/-!
# Receiving into a byte array

What arrives in pieces is in the array as if it had been written there at once.
-/

namespace Mingfwq

open Lib

theorem Peer.length_bytes_le (peer : Peer) : peer.bytes.length ≤ peer.size := by
  induction peer with
  | nil => exact Nat.zero_le _
  | cons p peer ih =>
      rw [Peer.bytes, List.flatMap_cons, List.length_append, Peer.size]
      exact Nat.add_le_add (Nat.le_succ _) ih

namespace ByteArray

variable {B i npos len n : Nat} {a a' a₁ : ByteArray} {bytes bytes' growth growth' : List UInt8}
  {iovs : List Iovec} {ns root : List Node}

/-! ## Buffers that are filled -/

/-- What the buffers for writing are filled with is what write puts into the nodes. -/
theorem writeBuffersLoop_scatter (hns : Blocks B ns) (hroot : root.drop i = ns) (hnpos : npos ≤ B)
    (hbytes : bytes.length ≤ len) (hfits : npos + bytes.length ≤ B * ns.length)
    (h : writeBuffersLoop ns i npos len = .ok iovs) :
    (iovs.map Iovec.iov_len).sum = len ∧ ∃ ns', scatter root iovs bytes = root.take i ++ ns' ∧ Blocks B ns' ∧
      ns'.length = ns.length ∧ ns'.flatten = overwrite ns.flatten npos bytes := by
  induction ns generalizing root i npos len bytes iovs with
  | nil => cases h
  | cons cur ns ih =>
      have hcur := hns.head
      have hlength := hns.tail.length_flatten
      rw [List.length_cons, Nat.mul_succ] at hfits
      have hi : i < root.length := by
        have hlen := congrArg List.length hroot
        rw [List.length_drop, List.length_cons] at hlen
        omega
      have hget : root[i] = cur := by
        rw [List.drop_eq_getElem_cons hi] at hroot
        exact (List.cons.inj hroot).1
      have htail : root.drop (i + 1) = ns := by rw [← List.drop_drop, hroot, List.drop_succ_cons, List.drop_zero]
      have hmodify : ∀ f : Node → Node, root.modify i f = root.take i ++ f cur :: ns := fun f => by
        rw [List.modify_eq_take_cons_drop hi, hget, htail]
      unfold writeBuffersLoop at h
      simp only [hcur] at h
      split at h
      · next hin =>
          cases h
          have hover : (overwrite cur npos bytes).length = B := by rw [length_overwrite (by omega), hcur]
          have hfirst : Blocks B (overwrite cur npos bytes :: ns) := hns.tail.cons hover
          refine ⟨by simp, overwrite cur npos bytes :: ns, ?_, hfirst, rfl, ?_⟩
          · unfold scatter scatter
            rw [List.take_of_length_le hbytes, hmodify]
          · rw [List.flatten_cons, List.flatten_cons, overwrite_append_left (by omega)]
      · next hout =>
          cases hrest : writeBuffersLoop ns (i + 1) 0 (len - (B - npos)) with
          | error e =>
              rw [hrest] at h
              cases h
          | ok rest =>
              rw [hrest] at h
              cases h
              have hover : (overwrite cur npos (bytes.take (B - npos))).length = B := by
                rw [length_overwrite (by rw [List.length_take]; omega), hcur]
              have hdrop : (root.modify i fun cur => overwrite cur npos (bytes.take (B - npos))).drop (i + 1) = ns := by
                rw [hmodify, List.drop_append, List.length_take, Nat.min_eq_left (Nat.le_of_lt hi),
                  List.drop_eq_nil_of_le (by rw [List.length_take]; omega), Nat.add_sub_cancel_left]
                rfl
              have hless : (bytes.drop (B - npos)).length ≤ len - (B - npos) := by
                rw [List.length_drop]
                omega
              have hfits' : 0 + (bytes.drop (B - npos)).length ≤ B * ns.length := by
                rw [List.length_drop]
                omega
              obtain ⟨hsum, ns', hscatter, hns', hlen', hflatten⟩ :=
                ih hns.tail hdrop (Nat.zero_le B) hless hfits' hrest
              refine ⟨?_, overwrite cur npos (bytes.take (B - npos)) :: ns', ?_, hns'.cons hover, by simp [hlen'], ?_⟩
              · rw [List.map_cons, List.sum_cons, hsum]
                have hle : B - npos ≤ len := by omega
                exact Nat.add_sub_cancel' hle
              · have htake : ((root.take i ++ overwrite cur npos (bytes.take (B - npos)) :: ns).take (i + 1)) =
                    root.take i ++ [overwrite cur npos (bytes.take (B - npos))] := by
                  rw [List.take_append, List.length_take, Nat.min_eq_left (Nat.le_of_lt hi),
                    List.take_of_length_le (by rw [List.length_take]; omega), Nat.add_sub_cancel_left]
                  rfl
                unfold scatter
                rw [hscatter, hmodify, htake, List.append_assoc]
                rfl
              · rw [List.flatten_cons, List.flatten_cons, hflatten, overwrite_append (by omega) (by omega), hcur]

theorem writeBuffersLoop_error {e : Fault} (h : writeBuffersLoop ns i npos len = .error e) : e = .nullNode := by
  induction ns generalizing i npos len with
  | nil =>
      cases h
      rfl
  | cons cur ns ih =>
      unfold writeBuffersLoop at h
      simp only at h
      split at h
      · cases h
      · cases hrest : writeBuffersLoop ns (i + 1) 0 (len - (cur.length - npos)) with
        | error e' =>
            rw [hrest] at h
            cases h
            exact ih hrest
        | ok rest =>
            rw [hrest] at h
            cases h

/-! ## One call and all calls -/

/-- What is filled in where there is room for it. -/
theorem WellFormed.scatter (hB : 0 < B) (h : a.WellFormed B) (hbytes : bytes.length ≤ len) (hlen : 0 < len)
    (hroom : len ≤ a.getCapacity) :
    ∃ iovs, writeBuffersLoop (a.chain a.m_cur) (a.m_cur.getD 0) (a.m_position % B) len = .ok iovs ∧
      (iovs.map Iovec.iov_len).sum = len ∧ WellFormed B { a with m_root := scatter a.m_root iovs bytes } ∧
      (Mingfwq.scatter a.m_root iovs bytes).flatten = overwrite a.m_root.flatten a.m_position bytes := by
  have hchain := h.chain_cur
  have hmod : a.m_position % B ≤ B := Nat.le_of_lt (Nat.mod_lt _ hB)
  have hblocks : Blocks B (a.chain a.m_cur) := hchain ▸ h.blocks.drop _
  have hfit : len ≤ B * (a.chain a.m_cur).length - a.m_position % B := h.room_cur.symm ▸ hroom
  have hnode : a.m_position / B < a.m_root.length := by
    rw [getCapacity, h.capacity] at hroom
    exact Nat.div_lt_of_lt_mul (by omega)
  have hcur : a.m_cur.getD 0 = a.m_position / B := by rw [h.cur, if_pos hnode, Option.getD_some]
  cases hloop : writeBuffersLoop (a.chain a.m_cur) (a.m_cur.getD 0) (a.m_position % B) len with
  | error e =>
      have hnull := writeBuffersLoop_error hloop
      subst hnull
      exact absurd hloop ((writeBuffersLoop_spec hblocks hmod hlen).mpr hfit)
  | ok iovs =>
      rw [hcur] at hloop
      obtain ⟨hsum, ns', hscatter, hns', hlen', hflatten⟩ := writeBuffersLoop_scatter hblocks hchain.symm hmod hbytes
        (by omega) hloop
      have hlength : (a.m_root.take (a.m_position / B) ++ ns').length = a.m_root.length := by
        rw [List.length_append, List.length_take, hlen', hchain, List.length_drop]
        omega
      refine ⟨iovs, rfl, hsum, ?_, ?_⟩
      · rw [hscatter]
        refine ⟨h.baseSize, ?_, (h.blocks.take _).append hns', ?_, h.size, h.position, ?_⟩
        · exact List.length_pos_iff.mp (by rw [hlength]; exact Nat.zero_lt_of_lt hnode)
        · rw [hlength]
          exact h.capacity
        · rw [hlength]
          exact h.cur
      · rw [hscatter, List.flatten_append, hflatten, h.flatten_split, ← overwrite_append_right, h.length_before hB,
          Nat.div_add_mod]

variable {left peer : Peer} {memory : Memory}

theorem WellFormed.read_received (hB : 0 < B) (ha : a.WellFormed B) (hn : 0 < n)
    (hroom : n ≤ (a.addCapacity n (memory a)).getCapacity) (hrec : peer.receive n = .ok (bytes, left)) :
    ∃ a', SocketStream.read memory (peer, a) n = .ok (some bytes.length, (left, a')) ∧ Wrote B bytes a a' ∧
      n - bytes.length ≤ a'.getCapacity := by
  have hr := Peer.receive_spec hrec
  have hle := hr.length_le
  have hpos := List.length_pos_of_ne_nil hr.ne_nil
  have h₁ := ha.addCapacity hB n (memory a)
  obtain ⟨growth, hgrow⟩ := addCapacity_flat a n (memory a)
  have hposition : (a.addCapacity n (memory a)).m_position = a.m_position := addCapacity_position _
  obtain ⟨iovs, hloop, hsum, h₂, hflatten⟩ := h₁.scatter hB hle hn hroom
  have hbuffers : a.getWriteBuffers n (memory a) = .ok (iovs, a.addCapacity n (memory a)) := by
    unfold ByteArray.getWriteBuffers
    rw [if_neg (Nat.ne_of_gt hn)]
    simp only [h₁.baseSize, hloop]
    rfl
  generalize a.addCapacity n (memory a) = a₁ at *
  obtain ⟨a₂, ha₂⟩ : ∃ a₂ : ByteArray, a₂ = { a₁ with m_root := Mingfwq.scatter a₁.m_root iovs bytes } := ⟨_, rfl⟩
  have hcapacity : a₂.m_capacity = a₁.m_capacity := by rw [ha₂]
  have hposition₂ : a₂.m_position = a₁.m_position := by rw [ha₂]
  have hcells : a₂.flat.cells = overwrite a₁.flat.cells a₁.m_position bytes := by
    rw [ha₂]
    exact hflatten
  have hsize : a₂.flat.size = a₁.flat.size := by rw [ha₂]; rfl
  rw [← ha₂] at h₂
  rw [getCapacity] at hroom
  have hset := h₂.setPosition_flat hB (a₂.m_position + bytes.length)
  have hin : a₂.m_position + bytes.length ≤ a₂.flat.cells.length := by
    rw [h₂.length_cells]
    omega
  have hsome : a₂.flat.setPosition (a₂.m_position + bytes.length) = some { a₂.flat with
      cursor := a₂.m_position + bytes.length, size := max a₂.flat.size (a₂.m_position + bytes.length) } := if_pos hin
  simp only [hsome] at hset
  obtain ⟨a', hok, ha', hflat⟩ := hset
  refine ⟨a', ?_, ⟨ha', growth, ?_, ?_⟩, ?_⟩
  · unfold SocketStream.read
    simp only [hbuffers, hsum, Peer.read_of_receive hrec, bind, Except.bind, if_pos hpos, ← ha₂]
    rw [← hposition₂, hok]
  · rw [← hposition, ← hposition₂]
    rw [h₂.length_cells, hcapacity, ← h₁.length_cells, hgrow] at hin
    exact hin
  · rw [hflat, hsize, hcells, hgrow, hposition₂, hposition]
    rfl
  · have hcursor : a'.m_position = a₂.m_position + bytes.length := show a'.flat.cursor = _ by rw [hflat]
    have hcells' : a'.flat.cells = a₂.flat.cells := by rw [hflat]
    rw [getCapacity, ← ha'.length_cells, hcells', h₂.length_cells]
    omega

/-- Where there is room for `n` bytes after addCapacity. -/
theorem WellFormed.room_iff (hB : 0 < B) (h : a.WellFormed B) (hn : 0 < n) (memory : Nat → UInt8) :
    n ≤ (a.addCapacity n memory).getCapacity ↔
      n ≤ a.getCapacity ∨ (n - a.getCapacity) % B = 0 ∨ a.getCapacity < (n - a.getCapacity) % B := by
  rw [getCapacity_addCapacity h hn, ← missingNodes_fit_iff hB h]
  split <;> omega

/-- Without room the first call runs off the chain. -/
theorem WellFormed.read_error (hB : 0 < B) (h : a.WellFormed B) (hn : 0 < n)
    (hroom : ¬ n ≤ (a.addCapacity n (memory a)).getCapacity) :
    SocketStream.read memory (peer, a) n = .error .nullNode := by
  have hnull : a.getWriteBuffers n (memory a) = .error .nullNode :=
    not_imp_comm.mp (getWriteBuffers_spec hB h hn).mp hroom
  unfold SocketStream.read
  simp only [hnull, bind, Except.bind]

/-- What has come after `k` of `n` bytes. -/
structure Receiving (B : Nat) (memory : Memory) (peer : Peer) (a : ByteArray) (n k : Nat) (s : Peer × ByteArray) :
    Prop where
  left : s.1 = peer.dropBytes k
  wrote : Wrote B (peer.bytes.take k) a s.2
  room : k < n → n - k ≤ (s.2.addCapacity (n - k) (memory s.2)).getCapacity

theorem Receiving.step (hB : 0 < B) (hs : peer.Successful) (hn : n ≤ peer.bytes.length) {k : Nat}
    {s : Peer × ByteArray} (h : Receiving B memory peer a n k s) (hk : k < n) :
    ∃ len s', SocketStream.read memory s (n - k) = .ok (some len, s') ∧ 0 < len ∧ k + len ≤ n ∧
      Receiving B memory peer a n (k + len) s' := by
  obtain ⟨peer₁, a₁⟩ := s
  obtain ⟨hleft, hwrote, hroom⟩ := h
  simp only at hleft hwrote hroom
  subst hleft
  have hsuccessful := Peer.dropBytes_successful k hs
  have hne : (peer.dropBytes k).bytes ≠ [] := by
    rw [Peer.bytes_dropBytes hs, Ne, List.drop_eq_nil_iff]
    omega
  obtain ⟨bytes, left, hrec⟩ := Peer.receive_successful hsuccessful hne (Nat.sub_pos_of_lt hk)
  have hr := Peer.receive_spec hrec
  have hle := hr.length_le
  obtain ⟨a₂, hread, hwrote₂, hroom₂⟩ := hwrote.wellFormed.read_received hB (Nat.sub_pos_of_lt hk) (hroom hk) hrec
  have htake : peer.bytes.take (k + bytes.length) = peer.bytes.take k ++ bytes := by
    have hbytes := hr.bytes_eq
    rw [Peer.bytes_dropBytes hs] at hbytes
    rw [List.take_add, hbytes, List.take_left]
  refine ⟨bytes.length, (left, a₂), hread, List.length_pos_of_ne_nil hr.ne_nil, by omega, ?_, ?_, ?_⟩
  · exact (Peer.receive_dropBytes hsuccessful hrec).trans (Peer.dropBytes_dropBytes ..)
  · rw [htake]
    exact hwrote.trans hwrote₂
  · intro hlt
    rw [Nat.sub_sub] at hroom₂
    rw [getCapacity_addCapacity hwrote₂.wellFormed (Nat.sub_pos_of_lt hlt)]
    split <;> omega

end ByteArray

namespace SocketStream

open Lib

variable {B n : Nat} {a : ByteArray} {peer : Peer}

/-- Where addCapacity makes the room, the bytes come into the array. -/
theorem readFixSize_ok (hB : 0 < B) (ha : a.WellFormed B) (memory : ByteArray.Memory) (hs : peer.Successful)
    (hn : n ≤ peer.bytes.length) (h64 : n < 2 ^ 64)
    (hroom : n ≤ a.getCapacity ∨ (n - a.getCapacity) % B = 0 ∨ a.getCapacity < (n - a.getCapacity) % B) :
    ∃ a', readFixSize memory peer a n = .ok (some (toInt32 n, (peer.dropBytes n, a'))) ∧
      ByteArray.Wrote B (peer.bytes.take n) a a' := by
  have hstart : ByteArray.Receiving B memory peer a n 0 (peer, a) :=
    ⟨(Peer.dropBytes_zero hs).symm, .nil ha, fun hpos => (ha.room_iff hB hpos (memory a)).mpr hroom⟩
  have hfuel : n - 0 < peer.size + 1 := by
    have := peer.length_bytes_le
    omega
  obtain ⟨⟨left, a'⟩, hloop, hleft, hwrote, -⟩ := transferLoop_run
    (fun k s hk hlt => hk.step hB hs hn hlt) h64 (Nat.zero_le n) hfuel hstart
  simp only at hleft hwrote
  subst hleft
  refine ⟨a', ?_, hwrote⟩
  unfold readFixSize
  rw [Nat.sub_zero] at hloop
  simp only [hloop, Except.map, Option.map_some, result, if_true]

/-- All bytes come into the array as if they had been written there, in whatever pieces they arrive, exactly if
addCapacity makes the room for them. -/
theorem readFixSize_iff (hB : 1 ≤ B) {init : Nat → UInt8} (h : (ByteArray.system B init).Reachable a)
    (memory : ByteArray.Memory) (hs : peer.Successful) (hn : n ≤ peer.bytes.length) (h64 : n < 2 ^ 64) :
    (∃ a', readFixSize memory peer a n = .ok (some (toInt32 n, (peer.dropBytes n, a'))) ∧
        ByteArray.Wrote B (peer.bytes.take n) a a') ↔
      n ≤ a.getCapacity ∨ (n - a.getCapacity) % B = 0 ∨ a.getCapacity < (n - a.getCapacity) % B := by
  have ha := ByteArray.reachable_wellFormed hB h
  constructor
  · rintro ⟨a', hok, -⟩
    rcases Nat.eq_zero_or_pos n with rfl | hpos
    · exact .inl (Nat.zero_le _)
    · by_contra hno
      unfold readFixSize at hok
      rw [transferLoop_error hpos (ha.read_error hB hpos (mt (ha.room_iff hB hpos (memory a)).mp hno))] at hok
      cases hok
  · exact readFixSize_ok hB ha memory hs hn h64

/-- Eleven bytes, of which a node of ten has room for five; for the other six a node is added. -/
theorem readFixSize_fiveBytes : ∃ a',
    readFixSize (fun _ _ => 0) [.data [6, 7, 8], .data [9, 10, 11, 12, 13, 14, 15, 16, 17]] ByteArray.fiveBytes 11 =
        .ok (some (11, ([.data [17]], a'))) ∧
      ByteArray.Wrote 10 [6, 7, 8, 9, 10, 11, 12, 13, 14, 15, 16] ByteArray.fiveBytes a' :=
  (readFixSize_iff (by decide) ByteArray.fiveBytes_reachable _ (by simp [Peer.Successful, Packet.Successful])
    (by decide) (by decide)).mpr (.inr (.inr (by decide)))

end SocketStream

end Mingfwq
