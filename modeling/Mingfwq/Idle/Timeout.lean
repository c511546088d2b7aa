import Mingfwq.Idle.Lemmas.Told
import Mingfwq.Timer.Lemmas.Expiring

/-!
# The timeout of `epoll_wait`

`getNextTimer` measures the distance to the earliest deadline in 64 bits, and the loop of `idle` clamps it after it has
cast it to int.
-/

namespace Mingfwq

open Lib

namespace TimerManager

variable {m : TimerManager} {i next : Nat} {now : UInt64}

theorem InOrder.head_le (h : InOrder m) (hnext : m.m_timers.head? = some next) (hi : i ∈ m.m_timers) :
    (m.timer next).m_next ≤ (m.timer i).m_next := by
  have hle := h.next_le
  obtain ⟨rest, hrest⟩ := List.head?_eq_some_iff.mp hnext
  rw [hrest] at hle hi
  rcases List.mem_cons.mp hi with rfl | hi
  · exact UInt64.le_refl _
  · exact List.rel_of_pairwise_cons hle hi

theorem InOrder.expired_iff (h : InOrder m) (hnext : m.m_timers.head? = some next) :
    (∃ i ∈ m.m_timers, (m.timer i).m_next ≤ now) ↔ (m.timer next).m_next ≤ now :=
  ⟨fun ⟨_, hi, hle⟩ => UInt64.le_trans (h.head_le hnext hi) hle, fun hle => ⟨next, List.mem_of_mem_head? hnext, hle⟩⟩

/-- `listExpiredCb` delivers something exactly when a timer has expired. -/
theorem InOrder.delivers_iff (h : InOrder m) (address : Nat) (now : UInt64) :
    (∃ cbs m', m.listExpiredCb address now = .ok (cbs, m') ∧ cbs ≠ []) ↔
      ∃ i ∈ m.m_timers, (m.timer i).m_next ≤ now := by
  obtain ⟨m', hlist, -⟩ := h.listExpiredCb address now
  have hnonempty : (m.expired address now).map (fun i => (m.timer i).m_cb) ≠ [] ↔
      ∃ i ∈ m.m_timers, (m.timer i).m_next ≤ now := by
    simp [h.expired_eq]
  rw [← hnonempty, hlist]
  constructor
  · rintro ⟨cbs, m₁, heq, hcbs⟩
    cases heq
    exact hcbs
  · exact fun hcbs => ⟨_, m', rfl, hcbs⟩

theorem getNextTimer_nil (hnil : m.m_timers = []) : (m.getNextTimer now).1 = ~~~0 := by
  simp only [getNextTimer, hnil]

end TimerManager

namespace Idle

open TimerManager

variable {m : TimerManager} {next : Nat} {now d : UInt64}

/-- `next_timeout` at the call of `epoll_wait`, after so many calls that were interrupted. -/
def retried (next_timeout : UInt64) : Nat → UInt64
  | 0 => clamp next_timeout
  | interrupted + 1 => clamp (retried next_timeout interrupted)

/-- What `getNextTimer` returns at `now`, and what `idle` makes of it. -/
structure InTime (m : TimerManager) (now : UInt64) : Prop where
  empty : (m.getNextTimer now).1 = ~~~0 ↔ m.m_timers = []
  expired : (m.getNextTimer now).1 = 0 ↔ ∃ i ∈ m.m_timers, (m.timer i).m_next ≤ now
  delivered : ∀ address, (m.getNextTimer now).1 = 0 ↔
    ∃ cbs m', m.listExpiredCb address now = .ok (cbs, m') ∧ cbs ≠ []
  least : m.m_timers ≠ [] → (∀ i ∈ m.m_timers, now < (m.timer i).m_next) →
    (∃ i ∈ m.m_timers, (m.getNextTimer now).1.toNat = (m.timer i).m_next.toNat - now.toNat) ∧
      ∀ i ∈ m.m_timers, (m.getNextTimer now).1.toNat ≤ (m.timer i).m_next.toNat - now.toNat
  timeout : ∀ interrupted, let timeout := toInt (retried (m.getNextTimer now).1 interrupted)
    0 ≤ timeout ∧ timeout ≤ 3000 ∧ ∀ i ∈ m.m_timers, timeout ≤ ((m.timer i).m_next.toNat - now.toNat : Nat)

/-! ## The cast -/

theorem bmod_of_lt {x : Nat} (h : x % 2 ^ 32 < 2 ^ 31) : Int.bmod x (2 ^ 32) = (x % 2 ^ 32 : Nat) := by
  rw [Int.bmod_def]
  split <;> omega

theorem bmod_of_le {x : Nat} (h : 2 ^ 31 ≤ x % 2 ^ 32) : Int.bmod x (2 ^ 32) < 0 := by
  rw [Int.bmod_def]
  split <;> omega

theorem toInt_of_lt (h : d.toNat % 2 ^ 32 < 2 ^ 31) : toInt d = (d.toNat % 2 ^ 32 : Nat) := bmod_of_lt h

theorem toInt_of_le (h : 2 ^ 31 ≤ d.toNat % 2 ^ 32) : toInt d < 0 := bmod_of_le h

theorem clamp_of_bounds (hneg : 0 ≤ toInt d) (hmax : toInt d ≤ 3000) : clamp d = d := by
  rw [clamp]
  split
  · exact if_neg (Int.not_lt.mpr hmax)
  · next heq =>
      have heq : d = ~~~0 := by simpa using heq
      rw [heq] at hneg
      exact absurd hneg (by decide)

theorem retried_of_bounds (hneg : 0 ≤ toInt (clamp d)) (hmax : toInt (clamp d) ≤ 3000) (k : Nat) :
    retried d k = clamp d := by
  induction k with
  | zero => rfl
  | succ k ih => rw [retried, ih, clamp_of_bounds hneg hmax]

theorem toInt_clamp_top : toInt (clamp (~~~0)) = 3000 := by decide

theorem toInt_clamp (h : d.toNat % 2 ^ 32 < 2 ^ 31) :
    0 ≤ toInt (clamp d) ∧ toInt (clamp d) ≤ 3000 ∧ toInt (clamp d) ≤ d.toNat := by
  have hmax : toInt MAX_TIMEOUT = 3000 := by decide
  have hd := toInt_of_lt h
  have hmod := Nat.mod_le d.toNat (2 ^ 32)
  rw [clamp]
  split
  · split
    · next hgt =>
        have hgt : toInt d > 3000 := hgt
        omega
    · next hle =>
        have hle : ¬ toInt d > 3000 := hle
        omega
  · next heq =>
      have heq : d = ~~~0 := by simpa using heq
      rw [heq] at h
      exact absurd h (by decide)

theorem toInt_clamp_neg (h : 2 ^ 31 ≤ d.toNat % 2 ^ 32) (htop : d ≠ ~~~0) : toInt (clamp d) < 0 := by
  have hneg := toInt_of_le h
  have hmax : (MAX_TIMEOUT.toNat : Int) = 3000 := by decide
  rw [clamp, if_pos htop, if_neg (by omega)]
  exact hneg

/-! ## The bounds -/

theorem InTime.of_nil (h : InOrder m) (hnil : m.m_timers = []) : InTime m now := by
  have hnext : (m.getNextTimer now).1 = ~~~0 := getNextTimer_nil hnil
  have hzero : (m.getNextTimer now).1 ≠ 0 := by
    rw [hnext]
    decide
  have hnone : ¬ ∃ i ∈ m.m_timers, (m.timer i).m_next ≤ now := by simp [hnil]
  refine ⟨iff_of_true hnext hnil, iff_of_false hzero hnone, ?_, fun hne => absurd hnil hne, ?_⟩
  · intro address
    rw [h.delivers_iff]
    exact iff_of_false hzero hnone
  · intro interrupted
    have htop := toInt_clamp_top
    rw [hnext, retried_of_bounds (by omega) (by omega), htop, hnil]
    simp

/-- A distance of which the cast keeps the sign. -/
theorem InTime.of_cons (h : InOrder m) (hnext : m.m_timers.head? = some next)
    (hsign : now < (m.timer next).m_next → ((m.timer next).m_next.toNat - now.toNat) % 2 ^ 32 < 2 ^ 31) :
    InTime m now := by
  have hmem : next ∈ m.m_timers := List.mem_of_mem_head? hnext
  have hne : m.m_timers ≠ [] := List.ne_nil_of_mem hmem
  have hfst : (m.getNextTimer now).1 =
      if now ≥ (m.timer next).m_next then 0 else (m.timer next).m_next - now := getNextTimer_fst hnext
  -- the distance, zero for a timer that has expired
  have hdistance : (m.getNextTimer now).1.toNat = (m.timer next).m_next.toNat - now.toNat := by
    rw [hfst]
    split
    · next hge => rw [Nat.sub_eq_zero_of_le (UInt64.le_iff_toNat_le.mp hge), UInt64.toNat_zero]
    · next hlt => exact UInt64.toNat_sub_of_le _ _ (UInt64.le_of_lt (UInt64.not_le.mp hlt))
  have hzero : (m.getNextTimer now).1 = 0 ↔ (m.timer next).m_next ≤ now := by
    rw [← UInt64.toNat_inj, hdistance, UInt64.toNat_zero, UInt64.le_iff_toNat_le, Nat.sub_eq_zero_iff_le]
  have hle : ∀ i ∈ m.m_timers, (m.getNextTimer now).1.toNat ≤ (m.timer i).m_next.toNat - now.toNat := by
    intro i hi
    rw [hdistance]
    exact Nat.sub_le_sub_right (UInt64.le_iff_toNat_le.mp (h.head_le hnext hi)) _
  have hlow : (m.getNextTimer now).1.toNat % 2 ^ 32 < 2 ^ 31 := by
    rw [hdistance]
    by_cases hexpired : (m.timer next).m_next ≤ now
    · rw [Nat.sub_eq_zero_of_le (UInt64.le_iff_toNat_le.mp hexpired)]
      decide
    · exact hsign (UInt64.not_le.mp hexpired)
  have htop : (m.getNextTimer now).1 ≠ ~~~0 := by
    intro heq
    rw [heq] at hlow
    exact absurd hlow (by decide)
  refine ⟨iff_of_false htop hne, hzero.trans (h.expired_iff hnext).symm, ?_, ?_, ?_⟩
  · intro address
    rw [h.delivers_iff, h.expired_iff hnext]
    exact hzero
  · exact fun _ _ => ⟨⟨next, hmem, hdistance⟩, hle⟩
  · intro interrupted
    obtain ⟨hneg, hmax, hclamp⟩ := toInt_clamp hlow
    rw [retried_of_bounds hneg hmax]
    refine ⟨hneg, hmax, fun i hi => ?_⟩
    have := hle i hi
    omega

/-- The worker waits in time exactly where bit 31 of the distance to the earliest deadline is clear. -/
theorem inTime_iff (h : InOrder m) (now : UInt64) : InTime m now ↔
    ∀ next, m.m_timers.head? = some next → now < (m.timer next).m_next →
      ((m.timer next).m_next.toNat - now.toNat) % 2 ^ 32 < 2 ^ 31 := by
  constructor
  · intro hintime next hnext hlt
    by_contra hsign
    have hfst : (m.getNextTimer now).1 = (m.timer next).m_next - now := by
      rw [getNextTimer_fst hnext, if_neg (UInt64.not_le.mpr hlt)]
    have hdistance : (m.getNextTimer now).1.toNat = (m.timer next).m_next.toNat - now.toNat := by
      rw [hfst, UInt64.toNat_sub_of_le _ _ (UInt64.le_of_lt hlt)]
    have hne : m.m_timers ≠ [] := List.ne_nil_of_mem (List.mem_of_mem_head? hnext)
    have htop : (m.getNextTimer now).1 ≠ ~~~0 := fun heq => hne (hintime.empty.mp heq)
    have hneg := toInt_clamp_neg (by rw [hdistance]; exact Nat.not_lt.mp hsign) htop
    exact absurd (hintime.timeout 0).1 (Int.not_le.mpr hneg)
  · intro hsign
    cases hnext : m.m_timers.head? with
    | none => exact .of_nil h (List.head?_eq_none_iff.mp hnext)
    | some next => exact .of_cons h hnext (hsign next hnext)

/-- One timer, armed at 1. -/
def oneTimer (ms : UInt64) : TimerManager := (TimerManager.new.addTimer 16 ms (some 0) false 1).2

theorem inTime_iff_oneTimer : InTime (oneTimer 5000) 1 ∧
    toInt (retried ((oneTimer 5000).getNextTimer 1).1 2) = 3000 := by
  have h : InOrder (oneTimer 5000) := ⟨by decide, by decide⟩
  refine ⟨(inTime_iff h 1).mpr ?_, by decide⟩
  intro next hnext _
  obtain rfl : 0 = next := Option.some.inj hnext
  decide

/-- With a timer of 30 days `epoll_wait` is given a negative timeout, so it does not return by itself. -/
theorem not_inTime_thirtyDays : ¬ ∀ m now, InOrder m → InTime m now := by
  intro h
  have hthirty : InOrder (oneTimer 2592000000) := ⟨by decide, by decide⟩
  have hneg := ((h _ 1 hthirty).timeout 0).1
  exact absurd hneg (by decide)

end Idle

end Mingfwq
