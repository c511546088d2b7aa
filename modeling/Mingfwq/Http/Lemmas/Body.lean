import Mingfwq.Stream.Lemmas.Reading
import Mingfwq.Http.HttpSession

/-!
# A body with a Content-Length

The body is put together only when part of it is still to arrive.
-/

namespace Mingfwq.Http

open Lib

variable {data : Bytes} {offset length : Nat} {peer : Peer}

theorem toInt64_of_lt {x : Nat} (h : x < 2 ^ 63) : toInt64 x = x := by
  rw [toInt64, Int.bmod_eq_of_le] <;> omega

theorem toInt64_nonpos {x : Nat} (h : 2 ^ 63 ≤ x) (hlt : x < 2 ^ 64) : toInt64 x ≤ 0 := by
  have hmod : (x : Int) % (2 ^ 64 : Nat) = x := by omega
  rw [toInt64, Int.bmod_def, hmod, if_neg (by omega)]
  omega

theorem recvBody_none {length : Int} (h : length ≤ 0 ∨ length ≤ offset) :
    recvBody length data offset peer = .ok (none, peer) := by
  rw [recvBody]
  split
  · simp only
    rw [if_neg (by omega)]
  · rfl

/-- With fewer bytes in the buffer than the body has, the rest of it is what arrives next; but `readFixSize` returns
its length as an `int`. -/
theorem recvBody_some (hoffset : offset < length) (hdata : offset ≤ data.length) (hs : peer.Successful)
    (henough : length - offset ≤ peer.bytes.length) :
    ∃ left, recvBody length data offset peer =
        (if toInt32 (length - offset : Nat) ≤ 0 then .error .closed
        else .ok (some (data.take offset ++ peer.bytes.take (length - offset)), left)) ∧
      left.bytes = peer.bytes.drop (length - offset) ∧ left = peer.dropBytes (length - offset) ∧
      left.Successful := by
  have hzeros : (List.replicate length (0 : UInt8)).length = length := List.length_replicate
  have htaken : (data.take offset).length = offset := by rw [List.length_take, Nat.min_eq_left hdata]
  have hbuffer : bodyFromBuffer data offset length =
      (overwrite (List.replicate length 0) 0 (data.take offset), offset) := by
    simp only [bodyFromBuffer, if_pos (Nat.le_of_lt hoffset)]
  obtain ⟨left, hloop, hbytes, hleft, hs'⟩ := readFixSizeLoop_successful hs (Nat.lt_succ_self peer.size) henough
    (show offset + (length - offset) ≤ (overwrite (List.replicate length 0) 0 (data.take offset)).length by
      rw [length_overwrite (by omega), hzeros]; omega)
  refine ⟨left, ?_, hbytes, hleft, hs'⟩
  have hwhole : overwrite (overwrite (List.replicate length 0) 0 (data.take offset)) offset
      (peer.bytes.take (length - offset)) = data.take offset ++ peer.bytes.take (length - offset) := by
    have hlen : (data.take offset ++ peer.bytes.take (length - offset)).length = length := by
      rw [List.length_append, htaken, List.length_take]
      omega
    have hover := overwrite_overwrite (show 0 + (data.take offset ++ peer.bytes.take (length - offset)).length ≤
      (List.replicate length (0 : UInt8)).length by omega)
    rw [htaken, Nat.zero_add] at hover
    rw [hover, overwrite_eq (by omega), hlen, Nat.zero_add, List.take_zero, List.nil_append,
      List.drop_eq_nil_of_le (Nat.le_of_eq hzeros), List.append_nil]
  have hdiff : ((length : Int) - offset).toNat = length - offset := by omega
  rw [recvBody, if_pos (by omega), Int.toNat_natCast, hbuffer]
  simp only
  rw [if_pos (by omega), hdiff, readFixSize, hloop, hwhole, ok_bind]
  by_cases hint : toInt32 (length - offset : Nat) ≤ 0
  · simp only [if_pos hint, error_bind]
  · simp only [if_neg hint, ok_bind]

end Mingfwq.Http
