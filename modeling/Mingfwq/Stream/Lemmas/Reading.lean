import Mingfwq.Stream.Model

/-!
# What reading delivers

The bytes a read returns are taken off the front of what is still to arrive.
-/

namespace Mingfwq

open Lib

/-! ## Numbers as `int` -/

theorem toInt32_of_lt {x : Nat} (h : x < 2 ^ 31) : toInt32 x = x := by
  rw [toInt32, Int.bmod_eq_of_le] <;> omega

/-- From 2^31 to 2^32 an `int` is negative. -/
theorem toInt32_long {x : Nat} (h : 2 ^ 31 ≤ x) (hlt : x < 2 ^ 32) : toInt32 x = x - 2 ^ 32 := by
  rw [toInt32, Int.bmod_def]
  omega

/-! ## Calls in a row -/

section Bind

variable {α β : Type}

@[simp] theorem ok_bind (a : α) (f : α → Except Stop β) : (Except.ok a >>= f) = f a := rfl

@[simp] theorem error_bind (s : Stop) (f : α → Except Stop β) : (Except.error s >>= f) = .error s := rfl

theorem bind_eq_ok {x : Except Stop α} {f : α → Except Stop β} {b : β} :
    (x >>= f) = .ok b ↔ ∃ a, x = .ok a ∧ f a = .ok b := by
  cases x with
  | error s => simp
  | ok a => simp

theorem map_eq_ok {x : Except Stop α} {f : α → β} {a : α} {b : β} (h : x = .ok a) (hf : x.map f = .ok b) : f a = b := by
  subst h
  exact Except.ok.inj hf

theorem exists_of_map_eq_ok {x : Except Stop α} {f : α → β} {b : β} (hf : x.map f = .ok b) : ∃ a, x = .ok a := by
  cases x with
  | ok a => exact ⟨a, rfl⟩
  | error s => cases hf

end Bind

/-! ## Buffers -/

section Buffer

variable {data xs : Bytes} {pos n : Nat}

theorem overwrite_eq (h : pos + xs.length ≤ data.length) :
    overwrite data pos xs = data.take pos ++ xs ++ data.drop (pos + xs.length) := by
  rw [overwrite, List.take_of_length_le (show xs.length ≤ data.length - pos by omega)]

theorem overwrite_nil (h : pos ≤ data.length) : overwrite data pos [] = data := by
  rw [overwrite_eq h, List.append_nil, List.length_nil, Nat.add_zero, List.take_append_drop]

theorem take_overwrite (h : pos + xs.length ≤ data.length) :
    (overwrite data pos xs).take (pos + xs.length) = data.take pos ++ xs := by
  have hlen : (data.take pos ++ xs).length = pos + xs.length := by
    rw [List.length_append, List.length_take, Nat.min_eq_left (by omega)]
  rw [overwrite_eq h, List.take_append_of_le_length (Nat.le_of_eq hlen.symm),
    List.take_of_length_le (Nat.le_of_eq hlen)]

theorem overwrite_overwrite {ys : Bytes} (h : pos + (xs ++ ys).length ≤ data.length) :
    overwrite (overwrite data pos xs) (pos + xs.length) ys = overwrite data pos (xs ++ ys) := by
  rw [List.length_append] at h
  have hx : pos + xs.length ≤ data.length := by omega
  have hpre : (data.take pos ++ xs).length = pos + xs.length := by
    rw [List.length_append, List.length_take, Nat.min_eq_left (by omega)]
  have hfit : pos + xs.length + ys.length ≤ (overwrite data pos xs).length := by rw [length_overwrite hx]; omega
  have hrest : (overwrite data pos xs).drop (pos + xs.length + ys.length) =
      data.drop (pos + (xs ++ ys).length) := by
    rw [overwrite_eq hx, List.drop_append, List.drop_eq_nil_of_le (by omega), List.nil_append, List.drop_drop, hpre,
      List.length_append]
    congr 1
    omega
  rw [overwrite_eq hfit, take_overwrite hx, hrest, overwrite_eq (by rw [List.length_append]; omega)]
  simp only [List.append_assoc]

theorem take_overwrite_zero (h : xs.length ≤ data.length) : (overwrite data 0 xs).take xs.length = xs := by
  have htake : (overwrite data 0 xs).take (0 + xs.length) = data.take 0 ++ xs := take_overwrite (by omega)
  simpa using htake

theorem take_overwrite_le (h : pos + xs.length ≤ data.length) (hn : n ≤ pos) :
    (overwrite data pos xs).take n = data.take n := by
  rw [overwrite_eq h, List.append_assoc, List.take_append_of_le_length (by rw [List.length_take]; omega),
    List.take_take, Nat.min_eq_left hn]

theorem memmove_ok {source length : Nat} (h : source + length ≤ data.length) :
    memmove data source length = .ok (overwrite data 0 ((data.drop source).take length)) :=
  if_pos h

end Buffer

/-! ## Packets -/

namespace Peer

variable {peer left : Peer} {bytes : Bytes} {length : Nat}

theorem bytes_data_cons (bytes : Bytes) (peer : Peer) : Peer.bytes (.data bytes :: peer) = bytes ++ peer.bytes := rfl

theorem size_data_append (segs : List Bytes) (rest : Peer) :
    Peer.size (segs.map .data ++ rest) = segs.flatten.length + segs.length + rest.size := by
  induction segs with
  | nil => simp
  | cons s segs ih =>
      simp only [List.map_cons, List.cons_append, Peer.size, Packet.bytes, ih, List.flatten_cons,
        List.length_append, List.length_cons]
      omega

theorem receive_data (hne : bytes ≠ []) (hle : bytes.length ≤ length) :
    Peer.receive (.data bytes :: peer) length = .ok (bytes, peer) := by
  cases bytes with
  | nil => exact absurd rfl hne
  | cons b bytes => simp only [receive, read, if_pos hle]

/-- What a read that succeeds says about the packets. -/
structure Received (peer : Peer) (length : Nat) (bytes : Bytes) (left : Peer) : Prop where
  ne_nil : bytes ≠ []
  length_le : bytes.length ≤ length
  bytes_eq : peer.bytes = bytes ++ left.bytes
  size_lt : left.size < peer.size
  successful : peer.Successful → left.Successful

theorem read_of_receive (h : peer.receive length = .ok (bytes, left)) : peer.read length = (some bytes, left) := by
  simp only [receive] at h
  split at h
  · next hread =>
      simp only [Except.ok.injEq, Prod.mk.injEq] at h
      rw [hread, h.1, h.2]
  · cases h

theorem receive_spec (h : peer.receive length = .ok (bytes, left)) : Received peer length bytes left := by
  cases peer with
  | nil => simp [receive, read] at h
  | cons p peer =>
      cases p with
      | failure => simp [receive, read] at h
      | data all =>
          by_cases hle : all.length ≤ length
          · cases all with
            | nil => simp [receive, read] at h
            | cons b all =>
                simp only [receive, read, if_pos hle, Except.ok.injEq, Prod.mk.injEq] at h
                obtain ⟨rfl, rfl⟩ := h
                refine ⟨List.cons_ne_nil _ _, hle, rfl, by simp only [Peer.size]; omega, ?_⟩
                exact fun hs p hp => hs p (List.mem_cons_of_mem _ hp)
          · simp only [receive, read, if_neg hle] at h
            have hsplit : all.take length ++ all.drop length = all := List.take_append_drop _ _
            have hlen : (all.take length).length = length := by simp only [List.length_take]; omega
            cases htake : all.take length with
            | nil => simp only [htake, reduceCtorEq] at h
            | cons b bs =>
                simp only [htake, Except.ok.injEq, Prod.mk.injEq] at h
                obtain ⟨rfl, rfl⟩ := h
                rw [htake] at hsplit hlen
                have hdrop : all.drop length ≠ [] := by
                  rw [Ne, List.drop_eq_nil_iff]
                  omega
                refine ⟨List.cons_ne_nil _ _, Nat.le_of_eq hlen, ?_, ?_, ?_⟩
                · rw [bytes_data_cons, bytes_data_cons, ← List.append_assoc, hsplit]
                · have hsum := congrArg List.length hsplit
                  simp only [List.length_append, List.length_cons] at hsum
                  simp only [Peer.size, Packet.bytes]
                  omega
                · intro hs p hp
                  rcases List.mem_cons.mp hp with rfl | hp
                  · exact hdrop
                  · exact hs p (List.mem_cons_of_mem _ hp)

theorem receive_successful (hs : peer.Successful) (hne : peer.bytes ≠ []) (hlen : 0 < length) :
    ∃ bytes left, peer.receive length = .ok (bytes, left) := by
  cases peer with
  | nil => exact absurd rfl hne
  | cons p peer =>
      have hp := hs p List.mem_cons_self
      cases p with
      | failure => exact hp.elim
      | data all =>
          cases all with
          | nil => exact absurd rfl hp
          | cons b all =>
              by_cases hle : (b :: all).length ≤ length
              · exact ⟨_, _, receive_data (List.cons_ne_nil _ _) hle⟩
              · obtain ⟨n, rfl⟩ : ∃ n, length = n + 1 := ⟨length - 1, by omega⟩
                exact ⟨_, _, by simp only [receive, read, if_neg hle, List.take_succ_cons]; rfl⟩

/-- What is still to arrive after the first `n` bytes. -/
def dropBytes : Peer → Nat → Peer
  | [], _ => []
  | .failure :: peer, n => .failure :: dropBytes peer n
  | .data bytes :: peer, n =>
      if bytes.length ≤ n then dropBytes peer (n - bytes.length) else .data (bytes.drop n) :: peer

/-- How many bytes the next read of at most `length` delivers. -/
def nextRead (peer : Peer) (length : Nat) : Nat :=
  match peer.receive length with
  | .ok (bytes, _) => bytes.length
  | .error _ => 0

theorem nextRead_eq (h : peer.receive length = .ok (bytes, left)) : peer.nextRead length = bytes.length := by
  simp only [nextRead, h]

theorem dropBytes_zero (hs : peer.Successful) : peer.dropBytes 0 = peer := by
  cases peer with
  | nil => rfl
  | cons p peer =>
      have hp := hs p List.mem_cons_self
      cases p with
      | failure => exact hp.elim
      | data bytes =>
          have hlen : ¬ bytes.length ≤ 0 := Nat.not_le.mpr (List.length_pos_of_ne_nil hp)
          rw [dropBytes, if_neg hlen, List.drop_zero]

theorem dropBytes_dropBytes (peer : Peer) (m n : Nat) : (peer.dropBytes m).dropBytes n = peer.dropBytes (m + n) := by
  induction peer generalizing m with
  | nil => rfl
  | cons p peer ih =>
      cases p with
      | failure => simp only [dropBytes, ih]
      | data bytes =>
          by_cases hm : bytes.length ≤ m
          · rw [dropBytes, if_pos hm, dropBytes, if_pos (by omega), ih, ← Nat.sub_add_comm hm]
          · rw [dropBytes, if_neg hm, dropBytes, List.length_drop]
            by_cases hn : bytes.length ≤ m + n
            · rw [if_pos (by omega), dropBytes, if_pos hn, show n - (bytes.length - m) = m + n - bytes.length by omega]
            · rw [if_neg (by omega), dropBytes, if_neg hn, List.drop_drop]

theorem receive_dropBytes (hs : peer.Successful) (h : peer.receive length = .ok (bytes, left)) :
    left = peer.dropBytes bytes.length := by
  cases peer with
  | nil => simp [receive, read] at h
  | cons p peer =>
      have hs' : Peer.Successful peer := fun p hp => hs p (List.mem_cons_of_mem _ hp)
      have hread := read_of_receive h
      cases p with
      | failure => simp [read] at hread
      | data all =>
          rw [read] at hread
          split at hread
          · cases hread
            rw [dropBytes, if_pos (Nat.le_refl _), Nat.sub_self, dropBytes_zero hs']
          · next hlt =>
              cases hread
              rw [dropBytes, List.length_take, Nat.min_eq_left (by omega), if_neg hlt]

theorem dropBytes_successful (n : Nat) (hs : peer.Successful) : (peer.dropBytes n).Successful := by
  induction peer generalizing n with
  | nil => exact hs
  | cons p peer ih =>
      have hs' : Peer.Successful peer := fun p hp => hs p (List.mem_cons_of_mem _ hp)
      have hp := hs p List.mem_cons_self
      cases p with
      | failure => exact hp.elim
      | data bytes =>
          rw [dropBytes]
          split
          · exact ih _ hs'
          · next hlt =>
              intro p hp
              rcases List.mem_cons.mp hp with rfl | hp
              · rw [Packet.Successful, Ne, List.drop_eq_nil_iff]
                exact hlt
              · exact hs' p hp

theorem bytes_dropBytes {n : Nat} (hs : peer.Successful) : (peer.dropBytes n).bytes = peer.bytes.drop n := by
  induction peer generalizing n with
  | nil => exact List.drop_nil.symm
  | cons p peer ih =>
      have hs' : Peer.Successful peer := fun p hp => hs p (List.mem_cons_of_mem _ hp)
      have hp := hs p List.mem_cons_self
      cases p with
      | failure => exact hp.elim
      | data bytes =>
          rw [dropBytes]
          split
          · next hle =>
              rw [ih hs', bytes_data_cons, List.drop_append, List.drop_eq_nil_of_le hle, List.nil_append]
          · next hlt =>
              rw [bytes_data_cons, bytes_data_cons, List.drop_append, Nat.sub_eq_zero_of_le (by omega), List.drop_zero]

theorem size_dropBytes_le (peer : Peer) (n : Nat) : (peer.dropBytes n).size ≤ peer.size := by
  induction peer generalizing n with
  | nil => exact Nat.le_refl _
  | cons p peer ih =>
      cases p with
      | failure => exact Nat.add_le_add_left (ih n) _
      | data bytes =>
          rw [dropBytes]
          split
          · exact Nat.le_trans (ih _) (Nat.le_add_left _ _)
          · simp only [size, Packet.bytes, List.length_drop]
            omega

theorem size_dropBytes_lt {n : Nat} (hpos : 0 < n) (hne : peer.bytes ≠ []) : (peer.dropBytes n).size < peer.size := by
  induction peer with
  | nil => exact absurd rfl hne
  | cons p peer ih =>
      cases p with
      | failure => exact Nat.add_lt_add_left (ih hne) _
      | data bytes =>
          rw [dropBytes]
          split
          · have hle := size_dropBytes_le peer (n - bytes.length)
            simp only [size, Packet.bytes]
            omega
          · simp only [size, Packet.bytes, List.length_drop]
            omega

theorem eq_nil_of_bytes (hs : peer.Successful) (h : peer.bytes = []) : peer = [] := by
  cases peer with
  | nil => rfl
  | cons p peer =>
      have hp := hs p List.mem_cons_self
      cases p with
      | failure => exact hp.elim
      | data bytes =>
          rw [bytes_data_cons, List.append_eq_nil_iff] at h
          exact absurd h.1 hp

end Peer

/-! ## readFixSize -/

/-- When all reads succeed and enough is to arrive, the missing bytes are what arrives next. -/
theorem readFixSizeLoop_successful {fuel pos left : Nat} {peer : Peer} {buffer : Bytes} (hs : peer.Successful)
    (hfuel : peer.size < fuel) (hleft : left ≤ peer.bytes.length) (hpos : pos + left ≤ buffer.length) :
    ∃ peer', readFixSizeLoop fuel peer buffer pos left =
        .ok (some (overwrite buffer pos (peer.bytes.take left)), peer') ∧
      peer'.bytes = peer.bytes.drop left ∧ peer' = peer.dropBytes left ∧ peer'.Successful := by
  induction fuel generalizing peer buffer pos left with
  | zero => omega
  | succ fuel ih =>
      by_cases hzero : left = 0
      · subst hzero
        refine ⟨peer, ?_, rfl, (Peer.dropBytes_zero hs).symm, hs⟩
        rw [readFixSizeLoop, if_pos rfl, List.take_zero, overwrite_nil (by omega)]
      · have hne : peer.bytes ≠ [] := by
          intro hnil
          rw [hnil, List.length_nil] at hleft
          omega
        obtain ⟨bytes, peer₁, hrec⟩ := Peer.receive_successful hs hne (Nat.pos_of_ne_zero hzero)
        have hr := Peer.receive_spec hrec
        have hle := hr.length_le
        have hfit : pos + bytes.length ≤ buffer.length := by omega
        have hbytes := hr.bytes_eq
        have hlen : peer.bytes.length = bytes.length + peer₁.bytes.length := by rw [hbytes, List.length_append]
        obtain ⟨peer', hloop, hrest, hpeer, hs'⟩ :=
          ih (hr.successful hs) (by have := hr.size_lt; omega)
            (show left - bytes.length ≤ peer₁.bytes.length by omega)
            (show pos + bytes.length + (left - bytes.length) ≤ (overwrite buffer pos bytes).length by
              rw [length_overwrite hfit]; omega)
        have htake : bytes ++ peer₁.bytes.take (left - bytes.length) = peer.bytes.take left := by
          rw [hbytes, List.take_append, List.take_of_length_le hle]
        have hdrop : peer₁.bytes.drop (left - bytes.length) = peer.bytes.drop left := by
          rw [hbytes, List.drop_append, List.drop_eq_nil_of_le hle, List.nil_append]
        have hpeer' : peer' = peer.dropBytes left := by
          rw [hpeer, Peer.receive_dropBytes hs hrec, Peer.dropBytes_dropBytes, Nat.add_sub_cancel' hle]
        refine ⟨peer', ?_, by rw [hrest, hdrop], hpeer', hs'⟩
        rw [overwrite_overwrite (by rw [htake, List.length_take]; omega), htake] at hloop
        rw [readFixSizeLoop, if_neg hzero, Peer.read_of_receive hrec]
        cases bytes with
        | nil => exact absurd rfl hr.ne_nil
        | cons b bytes =>
            simp only
            rw [if_neg (by omega)]
            exact_mod_cast hloop

end Mingfwq
