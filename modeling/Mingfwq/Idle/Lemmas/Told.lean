import Mingfwq.Idle.Model
import Mingfwq.Timer.Lemmas.Operations

/-!
# Who sees to the earliest deadline
-/

namespace Mingfwq

open Lib

namespace TimerManager

variable {m : TimerManager} {i next : Nat} {out : List Nat} {now : UInt64}

theorem Ordered.head_le (h : Ordered m) (hnext : m.m_timers.head? = some next) (hi : i ∈ m.m_timers) :
    (m.timer next).m_next.toNat ≤ (m.timer i).m_next.toNat := by
  have hsorted := h.sorted
  obtain ⟨rest, hrest⟩ := List.head?_eq_some_iff.mp hnext
  rw [hrest] at hsorted hi
  rcases List.mem_cons.mp hi with rfl | hi
  · exact Nat.le_refl _
  · have hless := List.rel_of_pairwise_cons hsorted hi
    rcases Timer.Comparator_iff.mp hless with hlt | ⟨heq, -⟩
    · exact Nat.le_of_lt (UInt64.lt_iff_toNat_lt.mp hlt)
    · exact Nat.le_of_eq (congrArg UInt64.toNat heq)

theorem OrderedBut.comparable (h : OrderedBut (i :: out) m) : ∀ j ∈ m.m_timers, m.less j i ∨ m.less i j := by
  intro j hj
  have hi : (m.timer i).m_cb.isSome := (h.stored i).mp List.mem_cons_self
  have hj' : (m.timer j).m_cb.isSome := (h.stored j).mp (List.mem_cons_of_mem _ (List.mem_append_right _ hj))
  refine h.total hj' hi fun heq => ?_
  exact (List.nodup_cons.mp h.nodup).1 (List.mem_append_right _ (heq ▸ hj))

theorem OrderedBut.insert_front (h : OrderedBut (i :: out) m) :
    (m.insert i).1 = true ↔ ∀ j ∈ m.m_timers, m.less i j := by
  rw [← OrderedSet.insert_front less_irrefl less_trans h.comparable h.sorted]
  exact beq_iff_eq

theorem OrderedBut.head?_insert (h : OrderedBut (i :: out) m) :
    (m.insert i).2.m_timers.head? = if (m.insert i).1 then some i else m.m_timers.head? := by
  have hhead := OrderedSet.head?_insert h.comparable
  simpa [TimerManager.insert] using hhead

theorem getNextTimer_fst (hnext : m.m_timers.head? = some next) :
    (m.getNextTimer now).1 =
      if now ≥ (m.timer next).m_next then 0 else (m.timer next).m_next - now := by
  obtain ⟨rest, hrest⟩ := List.head?_eq_some_iff.mp hnext
  simp only [getNextTimer, hrest]
  split <;> rfl

end TimerManager

namespace Idle

open TimerManager

variable {s : Idle} {k k' : Pc} {d d' w : Nat} {now next_timeout : UInt64}

/-! ## Waits -/

theorem bmod_le_self (x : Nat) : Int.bmod x (2 ^ 32) ≤ x := by
  rw [Int.bmod_def]
  split <;> omega

theorem toInt_le (next_timeout : UInt64) : toInt next_timeout ≤ next_timeout.toNat := bmod_le_self _

theorem wakeUp_le {deadline : UInt64} (hlt : now < deadline) (h : 0 ≤ toInt (clamp (deadline - now))) :
    ∃ wake, wakeUp now (clamp (deadline - now)) = some wake ∧ wake ≤ deadline.toNat := by
  refine ⟨_, if_neg (Int.not_lt.mpr h), ?_⟩
  have hlt' : now.toNat < deadline.toNat := UInt64.lt_iff_toNat_lt.mp hlt
  have hsub : (deadline - now).toNat = deadline.toNat - now.toNat :=
    UInt64.toNat_sub_of_le _ _ (UInt64.le_iff_toNat_le.mpr (Nat.le_of_lt hlt'))
  have hmax : toInt MAX_TIMEOUT = 3000 := by decide
  have hle : toInt (clamp (deadline - now)) ≤ (deadline - now).toNat := by
    rw [clamp]
    split
    · split
      · next hgt =>
          have hle := toInt_le (deadline - now)
          have hmax' : (MAX_TIMEOUT.toNat : Int) = 3000 := by decide
          omega
      · exact toInt_le _
    · next heq =>
        have heq : deadline - now = ~~~0 := by simpa using heq
        rw [heq]
        decide
  omega

/-- Where a worker is that has given `epoll_wait` a timeout. -/
def waits (now next_timeout : UInt64) : Pc :=
  if toInt next_timeout = 0 then .returned else .blocked next_timeout (wakeUp now next_timeout)

theorem epoll_wait_eq : s.epoll_wait w now next_timeout = s.setPc w (waits now next_timeout) := by
  simp only [epoll_wait, waits]
  split <;> rfl

theorem waits_isIdle : (waits now next_timeout).isIdle := by
  rw [waits]
  split <;> rfl

/-- The worker will look at the timers by the deadline. -/
def Pc.SeesTo (d : Nat) (k : Pc) : Prop := k.woken ∨ k.isBlocked ∧ ¬ k.sleepsPast d

theorem Pc.SeesTo.mono (h : k.SeesTo d) (hle : d ≤ d') : k.SeesTo d' := by
  refine h.imp id fun hb => ⟨hb.1, fun hpast => hb.2 ?_⟩
  match k with
  | .blocked _ (some wake) =>
      simp only [Pc.sleepsPast, decide_eq_true_eq] at hpast ⊢
      exact Nat.lt_of_le_of_lt hle hpast
  | .blocked _ none => rfl

theorem waits_seesTo : (waits now next_timeout).SeesTo d ↔ ¬ (waits now next_timeout).sleepsPast d := by
  rw [waits]
  split
  · simp [Pc.SeesTo, Pc.woken, Pc.sleepsPast]
  · simp [Pc.SeesTo, Pc.woken, Pc.isBlocked]

/-- Unless its timeout is negative, a worker sees to the deadline it has computed its wait from. -/
theorem waits_getNextTimer {m : TimerManager} {next : Nat} (hnext : m.m_timers.head? = some next)
    (h : 0 ≤ toInt (clamp (m.getNextTimer now).1)) :
    (waits now (clamp (m.getNextTimer now).1)).SeesTo (m.timer next).m_next.toNat := by
  rw [waits_seesTo]
  rw [getNextTimer_fst hnext] at *
  by_cases hge : now ≥ (m.timer next).m_next
  · rw [if_pos hge]
    have hzero : toInt (clamp 0) = 0 := by decide
    simp [waits, hzero, Pc.sleepsPast]
  · rw [if_neg hge] at *
    obtain ⟨wake, hwake, hle⟩ := wakeUp_le (UInt64.not_le.mp hge) h
    rw [waits, hwake]
    split
    · simp [Pc.sleepsPast]
    · simpa [Pc.sleepsPast] using hle

theorem waits_endless (h : toInt next_timeout < 0) : (waits now next_timeout).isBlocked ∧
    (waits now next_timeout).sleepsPast d := by
  rw [waits, if_neg (Int.ne_of_lt h), wakeUp, if_pos h]
  exact ⟨rfl, rfl⟩

/-! ## Notifications -/

def deadline (s : Idle) (i : Nat) : Nat := (s.timers.timer i).m_next.toNat

/-- Where workers sleep, all of them past the earliest deadline, a byte is in the pipe or a worker is about to look at
the timers again. -/
def Told (s : Idle) : Prop :=
  ∀ next, s.timers.m_timers.head? = some next → (∃ k ∈ s.workers, k.isBlocked) →
    (∀ k ∈ s.workers, k.isBlocked → k.sleepsPast (s.deadline next)) →
      0 < s.m_tickleFds ∨ ∃ k ∈ s.workers, k.woken

/-- A byte is in the pipe, or some worker will look at the timers by the deadline. -/
def SeenTo (s : Idle) (d : Nat) : Prop := 0 < s.m_tickleFds ∨ ∃ k ∈ s.workers, k.SeesTo d

/-- The same without the worker `w`. -/
def SeenToBut (s : Idle) (w d : Nat) : Prop :=
  0 < s.m_tickleFds ∨ ∃ v k, v ≠ w ∧ s.workers[v]? = some k ∧ k.SeesTo d

theorem SeenTo.mono (h : s.SeenTo d) (hle : d ≤ d') : s.SeenTo d' := by
  refine h.imp id ?_
  rintro ⟨k, hk, hsees⟩
  exact ⟨k, hk, hsees.mono hle⟩

theorem told_iff : s.Told ↔ ∀ next, s.timers.m_timers.head? = some next → (∃ k ∈ s.workers, k.isBlocked) →
    s.SeenTo (s.deadline next) := by
  refine forall_congr' fun next => imp_congr_right fun _ => imp_congr_right fun _ => ?_
  constructor
  · intro h
    by_cases hpast : ∀ k ∈ s.workers, k.isBlocked → k.sleepsPast (s.deadline next)
    · refine (h hpast).imp id ?_
      rintro ⟨k, hk, hwoken⟩
      exact ⟨k, hk, .inl hwoken⟩
    · obtain ⟨k, hk⟩ := not_forall.mp hpast
      obtain ⟨hk, hb⟩ := Classical.not_imp.mp hk
      obtain ⟨hb, hnot⟩ := Classical.not_imp.mp hb
      exact .inr ⟨k, hk, .inr ⟨hb, hnot⟩⟩
  · intro h hpast
    refine h.imp id ?_
    rintro ⟨k, hk, hwoken | ⟨hb, hnot⟩⟩
    · exact ⟨k, hk, hwoken⟩
    · exact absurd (hpast k hk hb) hnot

theorem told_of_woken (hk : k ∈ s.workers) (hwoken : k.woken) : s.Told :=
  fun _ _ _ _ => .inr ⟨k, hk, hwoken⟩

theorem exists_mem_split {P : Pc → Prop} {l : List Pc} (hw : l[w]? = some k) :
    (∃ e ∈ l, P e) ↔ P k ∨ ∃ v e, v ≠ w ∧ l[v]? = some e ∧ P e := by
  constructor
  · rintro ⟨e, he, hP⟩
    obtain ⟨v, hv⟩ := List.mem_iff_getElem?.mp he
    by_cases hvw : v = w
    · subst hvw
      cases hw.symm.trans hv
      exact .inl hP
    · exact .inr ⟨v, e, hvw, hv, hP⟩
  · rintro (hP | ⟨v, e, -, hv, hP⟩)
    · exact ⟨k, List.mem_of_getElem? hw, hP⟩
    · exact ⟨e, List.mem_of_getElem? hv, hP⟩

theorem exists_mem_set {P : Pc → Prop} {l : List Pc} (hw : l[w]? = some k) :
    (∃ e ∈ l.set w k', P e) ↔ P k' ∨ ∃ v e, v ≠ w ∧ l[v]? = some e ∧ P e := by
  have hlt : w < l.length := (List.getElem?_eq_some_iff.mp hw).1
  rw [exists_mem_split (List.getElem?_set_self hlt)]
  refine or_congr_right (exists₂_congr fun v e => and_congr_right fun hvw => ?_)
  rw [List.getElem?_set_ne (Ne.symm hvw)]

/-- One worker has moved. -/
theorem told_setPc {m : TimerManager} (hw : s.workers[w]? = some k) (k' : Pc) (n : Nat)
    (hset : m.m_timers = s.timers.m_timers) (htimer : m.timer = s.timers.timer) :
    Told { s.setPc w k' with timers := m, m_idleThreadCount := n } ↔
      ∀ next, s.timers.m_timers.head? = some next →
        (k'.isBlocked ∨ ∃ v e, v ≠ w ∧ s.workers[v]? = some e ∧ e.isBlocked) →
          k'.SeesTo (s.deadline next) ∨ s.SeenToBut w (s.deadline next) := by
  simp only [told_iff, SeenTo, SeenToBut, setPc, hset, deadline, htimer, exists_mem_set hw]
  refine forall_congr' fun next => imp_congr_right fun _ => imp_congr_right fun _ => ?_
  exact or_left_comm

theorem Told.setPc (h : s.Told) (hw : s.workers[w]? = some k) (k' : Pc) (n : Nat) (hk : k'.isBlocked = false)
    (hsees : ∀ d, k.SeesTo d → k'.SeesTo d) : Told { s.setPc w k' with m_idleThreadCount := n } := by
  refine (told_setPc hw k' n rfl rfl).mpr fun next hnext hblocked => ?_
  have hothers := hblocked.resolve_left (by simp [hk])
  have hseen := told_iff.mp h next hnext ((exists_mem_split hw).mpr (.inr hothers))
  rcases hseen with hpipe | hseen
  · exact .inr (.inl hpipe)
  · exact ((exists_mem_split hw).mp hseen).imp (hsees _) .inr

theorem exists_blocked_iff (hw : s.workers[w]? = some k) (hk : k.isBlocked = false) :
    (∃ e ∈ s.workers, e.isBlocked) ↔ ∃ v e, v ≠ w ∧ s.workers[v]? = some e ∧ e.isBlocked := by
  rw [exists_mem_split hw]
  simp [hk]

end Idle

end Mingfwq
