import Mingfwq.Timer.Lemmas.Ordered

/-!
# What each operation does to a sorted set
-/

namespace Mingfwq

open Lib

/-- The timer as `reset` puts it back. -/
def Timer.restarted (t : Timer) (ms : UInt64) (from_now : Bool) (now : UInt64) : Timer :=
  { t with m_ms := ms, m_next := (if from_now then now else t.m_next - t.m_ms) + ms }

namespace TimerManager

variable {m m' : TimerManager} {i j : Nat} {t : Timer} {out : List Nat} {now ms : UInt64}

/-- The set without a timer. -/
def without (m : TimerManager) (i : Nat) : TimerManager := { m with m_timers := m.m_timers.erase i }

@[simp] theorem timer_without : (m.without i).timer = m.timer := rfl

/-- `find` finds a timer of the set, and `erase` removes it. -/
theorem Ordered.erase_find (h : Ordered m) (hi : i ∈ m.m_timers) :
    m.find i ≠ m.m_timers.length ∧ m.erase (m.find i) = .ok (m.without i) := by
  obtain ⟨a, b, hsplit, hfind⟩ := OrderedSet.find_of_mem less_irrefl h.sorted hi
  have hlt : a.length < m.m_timers.length := by
    rw [hsplit]
    simp
  have hnot : i ∉ a := by
    have hnodup : (a ++ i :: b).Nodup := hsplit ▸ h.nodup
    exact fun hmem => (List.nodup_append.mp hnodup).2.2 i hmem i List.mem_cons_self rfl
  have herase : m.m_timers.eraseIdx a.length = m.m_timers.erase i := by
    rw [hsplit, List.eraseIdx_append_of_length_le (Nat.le_refl _), Nat.sub_self, List.eraseIdx_cons_zero,
      List.erase_append_right _ hnot, List.erase_cons_head]
  constructor
  · rw [find, hfind]
    exact Nat.ne_of_lt hlt
  · rw [TimerManager.erase, find, hfind, if_pos hlt, herase]
    rfl

theorem not_mem_without (h : Ordered m) : i ∉ (m.without i).m_timers := by
  have hnodup : m.m_timers.Nodup := h.nodup
  exact hnodup.not_mem_erase

theorem setNext_without (h : Ordered m) :
    (m.without i).setNext i now = .ok ((m.without i).setTimer i { m.timer i with m_next := now }) :=
  if_neg (not_mem_without h)

theorem less_setTimer_cb {cb : Option Callback} : (m.setTimer i { m.timer i with m_cb := cb }).less = m.less := by
  funext j k
  simp only [less, timer_setTimer]
  split <;> split <;> simp [Timer.Comparator, *]

theorem Ordered.cancel_eq (h : Ordered m) (i : Nat) :
    m.cancel i = if i ∈ m.m_timers then
        .ok (true, (m.without i).setTimer i { m.timer i with m_cb := none })
      else .ok (false, m) := by
  simp only [cancel, ← h.mem_iff]
  split
  · next hi =>
      have hfind : (m.setTimer i { m.timer i with m_cb := none }).find i = m.find i := by
        rw [find, find, less_setTimer_cb]
        rfl
      obtain ⟨hend, herase⟩ := h.erase_find hi
      have hlt : m.find i < m.m_timers.length := by
        by_contra hge
        rw [TimerManager.erase, if_neg hge] at herase
        cases herase
      rw [TimerManager.erase, if_pos hlt] at herase
      rw [hfind, TimerManager.erase, m_timers_setTimer, if_pos hlt]
      simp only [bind, Except.bind, Except.ok.injEq, without, TimerManager.mk.injEq] at herase ⊢
      simp [setTimer, herase.2.2.1]
  · rfl

theorem Ordered.refresh_eq (h : Ordered m) (i : Nat) (now : UInt64) :
    m.refresh i now = if i ∈ m.m_timers then
        .ok (true,
          (((m.without i).setTimer i { m.timer i with m_next := now + (m.timer i).m_ms }).insert i).2)
      else .ok (false, m) := by
  by_cases hi : i ∈ m.m_timers
  · obtain ⟨hend, herase⟩ := h.erase_find hi
    have hcb : (m.timer i).m_cb.isNone = false := by
      simpa [Option.isSome_iff_ne_none] using h.mem_iff.mp hi
    simp [refresh, hcb, hend, herase, hi, bind, Except.bind, setNext_without h]
  · have hcb : (m.timer i).m_cb.isNone := by
      simpa using mt h.mem_iff.mpr hi
    simp [refresh, hcb, hi]

theorem setTimer_setTimer {t' : Timer} : (m.setTimer i t).setTimer i t' = m.setTimer i t' := by
  simp [setTimer]

theorem Ordered.reset_eq (h : Ordered m) (i : Nat) (ms : UInt64) (from_now : Bool) (now : UInt64) :
    m.reset i ms from_now now = if i ∈ m.m_timers ∧ ¬ (ms = (m.timer i).m_ms ∧ from_now = false) then
        .ok (true, ((m.without i).setTimer i ((m.timer i).restarted ms from_now now)).addTimerLocked i)
      else .ok (false, false, m) := by
  by_cases hsame : ms = (m.timer i).m_ms ∧ from_now = false
  · simp [reset, hsame]
  · have hsame' : (ms == (m.timer i).m_ms && !from_now) = false := by
      simpa using hsame
    by_cases hi : i ∈ m.m_timers
    · obtain ⟨hend, herase⟩ := h.erase_find hi
      have hcb : (m.timer i).m_cb.isNone = false := by
        simpa [Option.isSome_iff_ne_none] using h.mem_iff.mp hi
      have hnext : ∀ t next, ((m.without i).setTimer i t).setNext i next =
          .ok ((m.without i).setTimer i { t with m_next := next }) := by
        intro t next
        rw [setNext, m_timers_setTimer, if_neg (not_mem_without h), setTimer_setTimer, timer_setTimer_self]
      rw [if_pos ⟨hi, hsame⟩]
      simp [reset, hsame', hcb, hend, herase, bind, Except.bind, hnext, Timer.restarted]
    · have hcb : (m.timer i).m_cb.isNone := by
        simpa using mt h.mem_iff.mpr hi
      simp [reset, hsame', hcb, hi]

/-! ## The invariant -/

theorem OrderedBut.addTimerLocked (h : OrderedBut (i :: out) m) : OrderedBut out (m.addTimerLocked i).2 := by
  have hinsert := h.insert
  simp only [TimerManager.addTimerLocked]
  split
  · exact ⟨hinsert.sorted, hinsert.nodup, hinsert.stored, hinsert.created, hinsert.distinct⟩
  · exact hinsert

/-- A new timer at an address that no timer in use has. -/
theorem Ordered.newTimer {address : Nat} (h : Ordered m)
    (hfresh : ¬ ∃ i < m.created, m.Live i ∧ (m.timer i).address = address) (ms : UInt64) (cb : Callback)
    (recurring : Bool) (now : UInt64) :
    OrderedBut [m.created] ({ m with created := m.created + 1 }.setTimer m.created
      (.new address ms (some cb) recurring now)) := by
  have hnew : ∀ i, m.InUse i → i ≠ m.created ∧ (m.timer i).address ≠ address := by
    intro i hi
    have hlt := h.created i hi
    refine ⟨Nat.ne_of_lt hlt, fun heq => hfresh ⟨i, hlt, ⟨hlt, ?_⟩, heq⟩⟩
    exact hi.imp id h.mem_iff.mpr
  have hmem : m.created ∉ m.m_timers := fun hi => (hnew _ (.inr (h.mem_iff.mp hi))).1 rfl
  have hsorted : OrderedSet.Sorted ({ m with created := m.created + 1 } : TimerManager).less m.m_timers := h.sorted
  refine ⟨sorted_setTimer hsorted hmem, List.nodup_cons.mpr ⟨hmem, h.nodup⟩, ?_, ?_, ?_⟩
  · intro i
    rw [timer_setTimer]
    split
    · next heq => simp [heq, Timer.new]
    · next hne => simpa [hne] using h.mem_iff
  · intro i hi
    rw [InUse, timer_setTimer] at hi
    split at hi
    · next heq => simp [heq]
    · exact Nat.lt_succ_of_lt (h.created i hi)
  · intro i j hi hj heq
    simp only [InUse, timer_setTimer] at hi hj heq
    split at hi <;> split at hj
    · next hi' hj' => rw [hi', hj']
    · next hi' hj' =>
        rw [if_pos hi', if_neg hj'] at heq
        exact absurd heq.symm (hnew j hj).2
    · next hi' hj' =>
        rw [if_neg hi', if_pos hj'] at heq
        exact absurd heq (hnew i hi).2
    · next hi' hj' =>
        rw [if_neg hi', if_neg hj'] at heq
        exact h.distinct i j hi hj heq

theorem Ordered.addTimer {address : Nat} {cb : Callback} {recurring : Bool} (h : Ordered m)
    (hfresh : ¬ ∃ i < m.created, m.Live i ∧ (m.timer i).address = address) :
    Ordered (m.addTimer address ms (some cb) recurring now).2 :=
  OrderedBut.addTimerLocked (h.newTimer hfresh ms cb recurring now)

/-- What `reset` puts back. -/
theorem Ordered.restarted (h : Ordered m) (hi : i ∈ m.m_timers) (ms : UInt64) (from_now : Bool) (now : UInt64) :
    OrderedBut [i] ((m.without i).setTimer i ((m.timer i).restarted ms from_now now)) :=
  OrderedBut.setTimer (h.erase hi) rfl rfl rfl

/-- One turn of the loop of `listExpiredCb`. -/
theorem OrderedBut.expire (h : OrderedBut (i :: out) m) (now : UInt64) :
    ∃ m', m.expire now i = .ok m' ∧ OrderedBut out m' ∧
    m'.created = m.created ∧ ∀ j, (m'.timer j).m_recurring = (m.timer j).m_recurring ∧
      (m'.timer j).m_cb = if j = i ∧ (m.timer i).m_recurring = false then none else (m.timer j).m_cb := by
  have hi : i ∉ m.m_timers := fun hi => (List.nodup_cons.mp h.nodup).1 (List.mem_append_right _ hi)
  cases hrecurring : (m.timer i).m_recurring with
  | true =>
      refine ⟨((m.setTimer i { m.timer i with m_next := now + (m.timer i).m_ms }).insert i).2, ?_, ?_, rfl, ?_⟩
      · rw [TimerManager.expire, if_pos hrecurring, setNext, if_neg hi]
        rfl
      · exact OrderedBut.insert (h.setTimer rfl rfl rfl)
      · intro j
        rw [timer_insert, timer_setTimer]
        split <;> simp [*]
  | false =>
      refine ⟨m.setTimer i { m.timer i with m_cb := none }, ?_, h.clear, rfl, ?_⟩
      · rw [TimerManager.expire, hrecurring]
        rfl
      · intro j
        rw [timer_setTimer]
        split <;> simp [*]

/-- The whole loop, over timers taken out of the set. -/
theorem OrderedBut.expireAll (h : OrderedBut out m) (now : UInt64) :
    ∃ cbs m', m.expireAll now out = .ok (cbs, m') ∧ Ordered m' ∧
    m'.created = m.created ∧ ∀ j, (m'.timer j).m_recurring = (m.timer j).m_recurring ∧
      (m'.timer j).m_cb = if j ∈ out ∧ (m.timer j).m_recurring = false then none else (m.timer j).m_cb := by
  induction out generalizing m with
  | nil => exact ⟨[], m, rfl, h, rfl, by simp⟩
  | cons i out ih =>
      obtain ⟨m₁, hexpire, h₁, hcreated₁, hsame₁⟩ := h.expire now
      obtain ⟨cbs, m₂, hrest, h₂, hcreated₂, hsame₂⟩ := ih h₁
      refine ⟨(m.timer i).m_cb :: cbs, m₂, ?_, h₂, hcreated₂.trans hcreated₁, ?_⟩
      · simp [TimerManager.expireAll, hexpire, hrest, bind, Except.bind]
      · intro j
        refine ⟨(hsame₂ j).1.trans (hsame₁ j).1, ?_⟩
        rw [(hsame₂ j).2, (hsame₁ j).1, (hsame₁ j).2]
        by_cases hji : j = i
        · subst hji
          cases (m.timer j).m_recurring <;> simp
        · simp [hji]

theorem Ordered.listExpiredCb (h : Ordered m) (address : Nat) (now : UInt64) :
    ∃ cbs m', m.listExpiredCb address now = .ok (cbs, m') ∧
    Ordered m' ∧ m'.created = m.created ∧ ∀ j, (m'.timer j).m_recurring = (m.timer j).m_recurring ∧
      (m'.timer j).m_cb = if j ∈ m.expired address now ∧ (m.timer j).m_recurring = false then none
        else (m.timer j).m_cb := by
  rw [TimerManager.listExpiredCb]
  split
  · next hempty =>
      have hnone : m.expired address now = [] := by
        rw [expired, List.isEmpty_iff.mp hempty, List.take_nil]
      exact ⟨[], m, rfl, h, rfl, by simp [hnone]⟩
  · exact OrderedBut.expireAll (h.drop _) now

theorem Ordered.cancel {b : Bool} (h : Ordered m) (hc : m.cancel i = .ok (b, m')) : Ordered m' := by
  rw [h.cancel_eq] at hc
  split at hc
  · next hi =>
      cases hc
      exact OrderedBut.clear (h.erase hi)
  · cases hc
    exact h

theorem Ordered.refresh {b : Bool} (h : Ordered m) (hr : m.refresh i now = .ok (b, m')) : Ordered m' := by
  rw [h.refresh_eq] at hr
  split at hr
  · next hi =>
      cases hr
      exact OrderedBut.insert (OrderedBut.setTimer (h.erase hi) rfl rfl rfl)
  · cases hr
    exact h

theorem Ordered.reset {b at_front from_now : Bool} (h : Ordered m)
    (hr : m.reset i ms from_now now = .ok (b, at_front, m')) : Ordered m' := by
  rw [h.reset_eq] at hr
  split at hr
  · next hi =>
      cases hr
      exact OrderedBut.addTimerLocked (h.restarted hi.1 ms from_now now)
  · cases hr
    exact h

theorem getNextTimer_manager : (m.getNextTimer now).2 = { m with m_tickled := false } := by
  simp only [TimerManager.getNextTimer]
  split
  · rfl
  · split <;> rfl

theorem Ordered.getNextTimer (h : Ordered m) : Ordered (m.getNextTimer now).2 := by
  rw [getNextTimer_manager]
  exact ⟨h.sorted, h.nodup, h.stored, h.created, h.distinct⟩

theorem Ordered.release (h : Ordered m) : Ordered (m.release i) := by
  have hsame : ∀ j, ((m.release i).timer j).address = (m.timer j).address ∧
      ((m.release i).timer j).m_next = (m.timer j).m_next ∧
      ((m.release i).timer j).m_cb = (m.timer j).m_cb := by
    intro j
    rw [TimerManager.release, timer_setTimer]
    split
    · next heq => simp [heq]
    · exact ⟨rfl, rfl, rfl⟩
  have huse : ∀ j, (m.release i).InUse j → m.InUse j := by
    intro j hj
    rw [InUse, (hsame j).2.2] at hj
    refine hj.imp (fun hheld => ?_) id
    rw [TimerManager.release, timer_setTimer] at hheld
    split at hheld
    · cases hheld
    · exact hheld
  have hless : (m.release i).less = m.less := by
    funext j k
    simp [less, Timer.Comparator, hsame]
  refine ⟨hless ▸ h.sorted, h.nodup, ?_, fun j hj => h.created j (huse j hj), ?_⟩
  · intro j
    rw [(hsame j).2.2]
    exact h.stored j
  · intro j k hj hk heq
    rw [(hsame j).1, (hsame k).1] at heq
    exact h.distinct j k (huse j hj) (huse k hk) heq

end TimerManager

end Mingfwq
