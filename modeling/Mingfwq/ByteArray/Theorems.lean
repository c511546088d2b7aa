import Mingfwq.ByteArray.Lemmas.WellFormed

/-!
# Room for a write

addCapacity adds one node for a remainder only when the remainder exceeds the old free capacity, so it can
leave a write short by up to that much.
-/

namespace Mingfwq.ByteArray

open Lib

/-- What write and getWriteBuffers rely on: after addCapacity the chain holds `n` more bytes behind the
position, `m_cur` is its node, and neither loop steps onto a null node. -/
structure Enough (B n : Nat) (memory : Nat → UInt8) (a : ByteArray) : Prop where
  capacity : (a.addCapacity n memory).m_capacity = B * (a.addCapacity n memory).m_root.length
  room : n ≤ (a.addCapacity n memory).m_capacity - (a.addCapacity n memory).m_position
  cur : (a.addCapacity n memory).m_cur = some ((a.addCapacity n memory).m_position / B)
  write : ∀ buf : List UInt8, buf.length = n → a.write buf memory ≠ .error .nullNode
  getWriteBuffers : a.getWriteBuffers n memory ≠ .error .nullNode

/-- An array of base size ten after a write of five bytes. -/
def fiveBytes : ByteArray := ⟨10, 5, 10, 5, [[1, 2, 3, 4, 5, 0, 0, 0, 0, 0]], some 0⟩

theorem fiveBytes_reachable : (system 10 fun _ => 0).Reachable fiveBytes :=
  System.Reach.exec (fun _ _ => trivial) [.write [1, 2, 3, 4, 5] fun _ => 0] .init rfl

/-- Five bytes into a node of ten, eight bytes more do not fit: three are missing, which is less than the
five still free, so no node is added and the write runs off the chain. -/
theorem write_off_chain :
    ¬ ∀ B ≥ 1, ∀ init a, (system B init).Reachable a → ∀ n > 0, ∀ memory, a.Enough B n memory := by
  intro h
  have hwrite :=
    (h 10 (by decide) _ _ fiveBytes_reachable 8 (by decide) fun _ => 0).write [1, 2, 3, 4, 5, 6, 7, 8] rfl
  exact hwrite rfl

/-- After addCapacity there is room for `n` bytes exactly when the missing bytes fill whole nodes or leave a
remainder above the old free capacity. -/
theorem enough_iff {B : Nat} (hB : 1 ≤ B) {init memory : Nat → UInt8} {a : ByteArray}
    (h : (system B init).Reachable a) {n : Nat} (hn : 0 < n) :
    a.Enough B n memory ↔
      n ≤ a.getCapacity ∨ (n - a.getCapacity) % B = 0 ∨ a.getCapacity < (n - a.getCapacity) % B := by
  have hwf := reachable_wellFormed hB h
  have hwf' := hwf.addCapacity hB n memory
  have hfit := missingNodes_fit_iff hB hwf n
  have hcap := getCapacity_addCapacity hwf hn memory
  have hroom : n ≤ (a.addCapacity n memory).getCapacity ↔
      n ≤ a.getCapacity ∨ (n - a.getCapacity) % B = 0 ∨ a.getCapacity < (n - a.getCapacity) % B := by
    rw [hcap, ← hfit]
    split <;> omega
  constructor
  · intro he
    exact hroom.mp he.room
  · intro hcond
    have hle := hroom.mpr hcond
    refine ⟨hwf'.capacity, hle, ?_, fun buf hbuf => ?_, (getWriteBuffers_spec hB hwf hn).mpr hle⟩
    · have hdiv := Nat.div_lt_of_lt_mul (m := (a.addCapacity n memory).m_position) (n := B)
        (k := (a.addCapacity n memory).m_root.length)
      rw [getCapacity, hwf'.capacity] at hle
      rw [hwf'.cur, if_pos (hdiv (by omega))]
    · have hne : buf ≠ [] := List.length_pos_iff.mp (hbuf ▸ hn)
      have hw := write_spec hB hwf hne memory
      rw [hbuf, if_pos hle] at hw
      obtain ⟨a', heq, -⟩ := hw
      simp [heq]

/-- Twenty-one bytes more do fit: sixteen are missing, and two nodes come. -/
theorem enough_after_five : fiveBytes.Enough 10 21 (fun _ => 0) :=
  (enough_iff (by decide) fiveBytes_reachable (by decide)).mpr (by decide)

end Mingfwq.ByteArray
