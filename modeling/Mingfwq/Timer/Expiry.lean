import Mathlib.Algebra.Group.Nat.Defs
import Mingfwq.Timer.Theorems

/-!
# One call of `listExpiredCb`

The probe of `lower_bound` may have any address, several timers may expire at once, and a recurring timer goes back
into the set with a deadline that may have passed already or have wrapped around.
-/

namespace Mingfwq.TimerManager

open Lib

variable {m m' : TimerManager} {s s' : State} {a : Action} {i j : Nat} {now : UInt64}

/-- The callbacks of the timers that have expired come out in the order of the set. The timers that have not expired
stay as they are, the recurring ones come back, and the others lose their callback. -/
theorem listExpiredCb_exact (h : InOrder m) (address : Nat) (now : UInt64) :
    ∃ (expired : List Nat) (m' : TimerManager),
      m.listExpiredCb address now = .ok (expired.map fun i => (m.timer i).m_cb, m') ∧
      (∀ i, i ∈ expired ↔ i ∈ m.m_timers ∧ (m.timer i).m_next ≤ now) ∧
      expired.Nodup ∧
      expired.Pairwise (fun i j => (m.timer i).m_next < (m.timer j).m_next ∨
        (m.timer i).m_next = (m.timer j).m_next ∧ (m.timer i).address < (m.timer j).address) ∧
      InOrder m' ∧
      (∀ i, i ∈ m'.m_timers ↔ i ∈ m.m_timers ∧ (now < (m.timer i).m_next ∨ (m.timer i).m_recurring)) ∧
      (∀ i ∉ expired, m'.timer i = m.timer i) ∧
      (∀ i ∈ expired, (m.timer i).m_recurring → ∃ next : UInt64,
        next.toNat = (now.toNat + (m.timer i).m_ms.toNat) % 2 ^ 64 ∧
          m'.timer i = { m.timer i with m_next := next }) ∧
      ∀ i ∈ expired, (m.timer i).m_recurring = false → m'.timer i = { m.timer i with m_cb := none } := by
  obtain ⟨m', hlist, hinorder, htimer, hmem⟩ := h.listExpiredCb address now
  have hsublist : (m.expired address now).Sublist m.m_timers := List.take_sublist _ _
  refine ⟨m.expired address now, m', hlist, ?_, hsublist.nodup h.nodup, ?_, hinorder, hmem, ?_, ?_, ?_⟩
  · intro i
    rw [h.expired_eq, List.mem_filter, decide_eq_true_eq]
  · exact (h.sorted.sublist hsublist).imp Timer.Comparator_iff.mp
  · intro i hi
    rw [htimer, if_neg hi]
  · intro i hi hrecurring
    refine ⟨now + (m.timer i).m_ms, UInt64.toNat_add _ _, ?_⟩
    rw [htimer, if_pos hi, Timer.afterExpiry, if_pos hrecurring]
  · intro i hi hrecurring
    rw [htimer, if_pos hi, Timer.afterExpiry, if_neg (Bool.not_eq_true _ ▸ hrecurring)]

/-- A timer with period 0 and one of one shot that expire at the same time, the later one by address first, and one
that does not expire. -/
def expiresTogether : TimerManager :=
  let m := (new.addTimer 32 0 (some 0) true 7).2
  let m := (m.addTimer 16 2 (some 1) false 5).2
  (m.addTimer 48 100 (some 2) true 5).2

theorem listExpiredCb_exact_expiresTogether : ∃ m', expiresTogether.listExpiredCb 24 7 = .ok ([some 1, some 0], m') ∧
    0 ∈ m'.m_timers ∧ (m'.timer 1).m_cb = none := by
  have h : InOrder expiresTogether := ⟨by decide, by decide⟩
  obtain ⟨expired, m', hlist, hmem, -, -, -, hleft, -, -, hcleared⟩ := listExpiredCb_exact h 24 7
  have hcbs : (expiresTogether.listExpiredCb 24 7).toOption.map Prod.fst = some [some 1, some 0] := by decide
  rw [hlist] at hcbs
  have hcbs : expired.map (fun i => (expiresTogether.timer i).m_cb) = [some 1, some 0] := Option.some.inj hcbs
  refine ⟨m', ?_, (hleft 0).mpr (by decide), ?_⟩
  · rw [hlist, hcbs]
  · rw [hcleared 1 ((hmem 1).mpr (by decide)) (by decide)]

/-! ## A timer that nobody holds -/

/-- Every call but `listExpiredCb` leaves a timer alone that nobody holds. -/
theorem Kept.step_unheld (h : Kept s) (hs : TimerManager.step s a = .next s') (hi : i < s.manager.created)
    (hheld : (s.manager.timer i).held = false) (ha : ∀ address now, a ≠ .listExpiredCb address now) :
    s.manager.created ≤ s'.manager.created ∧ s'.manager.timer i = s.manager.timer i := by
  have hne : ∀ {j}, (s.manager.timer j).held → i ≠ j := by
    rintro j hj rfl
    rw [hheld] at hj
    cases hj
  cases a with
  | addTimer address ms cb recurring now =>
      simp only [TimerManager.step, State.after] at hs
      split at hs
      · cases hs
      · cases hs
        simp [TimerManager.addTimer, timer_setTimer, Nat.ne_of_lt hi]
  | cancel j =>
      by_cases hj : (s.manager.timer j).held
      · have hcancel := h.ordered.cancel_eq j
        split at hcancel
        all_goals obtain rfl := Outcome.next.inj ((step_cancel hj hcancel).symm.trans hs)
        · exact ⟨Nat.le_refl _, timer_setTimer.trans (if_neg (hne hj))⟩
        · exact ⟨Nat.le_refl _, rfl⟩
      · simp [TimerManager.step, hj] at hs
  | refresh j now =>
      by_cases hj : (s.manager.timer j).held
      · have hrefresh := h.ordered.refresh_eq j now
        split at hrefresh
        all_goals obtain rfl := Outcome.next.inj ((step_refresh hj hrefresh).symm.trans hs)
        · exact ⟨Nat.le_refl _, timer_setTimer.trans (if_neg (hne hj))⟩
        · exact ⟨Nat.le_refl _, rfl⟩
      · simp [TimerManager.step, hj] at hs
  | reset j ms from_now now =>
      by_cases hj : (s.manager.timer j).held
      · have hreset := h.ordered.reset_eq j ms from_now now
        split at hreset
        · have hnext : TimerManager.step s (.reset j ms from_now now) = .next { s with manager :=
              (((s.manager.without j).setTimer j
                ((s.manager.timer j).restarted ms from_now now)).addTimerLocked j).2 } :=
            step_reset hj hreset
          obtain rfl := Outcome.next.inj (hnext.symm.trans hs)
          refine ⟨by simp [without], ?_⟩
          exact (congrFun timer_addTimerLocked i).trans (timer_setTimer.trans (if_neg (hne hj)))
        · obtain rfl := Outcome.next.inj ((step_reset hj hreset).symm.trans hs)
          exact ⟨Nat.le_refl _, rfl⟩
      · simp [TimerManager.step, hj] at hs
  | listExpiredCb address now => exact absurd rfl (ha address now)
  | getNextTimer now =>
      have hnext : TimerManager.step s (.getNextTimer now) =
          .next { s with manager := { s.manager with m_tickled := false } } :=
        congrArg (fun manager => Outcome.next (State.mk manager s.events)) getNextTimer_manager
      obtain rfl := Outcome.next.inj (hnext.symm.trans hs)
      exact ⟨Nat.le_refl _, rfl⟩
  | release j =>
      obtain rfl := Outcome.next.inj hs
      refine ⟨Nat.le_refl _, ?_⟩
      by_cases hij : i = j
      · subst hij
        have hself : { s.manager.timer i with held := false } = s.manager.timer i := by rw [← hheld]
        exact timer_setTimer_self.trans hself
      · exact timer_setTimer.trans (if_neg hij)

/-- A timer of one shot that nobody holds, from its arming on. -/
structure Armed (i : Nat) (next : UInt64) (s : State) : Prop where
  kept : Kept s
  created : i < s.manager.created
  held : (s.manager.timer i).held = false
  recurring : (s.manager.timer i).m_recurring = false
  deadline : (s.manager.timer i).m_next = next

theorem Armed.step {next : UInt64} (h : Armed i next s) (hs : TimerManager.step s a = .next s') : Armed i next s' := by
  have hkept := h.kept.next hs
  by_cases ha : ∃ address now, a = .listExpiredCb address now
  · obtain ⟨address, now, rfl⟩ := ha
    obtain ⟨cbs, m', hlist, -, hcreated, -⟩ := h.kept.ordered.listExpiredCb address now
    obtain ⟨m₁, hlist₁, -, htimer, -⟩ := InOrder.listExpiredCb h.kept.ordered.expiring address now
    cases hlist.symm.trans hlist₁
    obtain rfl := Outcome.next.inj ((step_listExpiredCb hlist).symm.trans hs)
    have hone : (s.manager.timer i).afterExpiry now = { s.manager.timer i with m_cb := none } :=
      if_neg (by simp [h.recurring])
    have hi : m'.timer i = if i ∈ s.manager.expired address now then { s.manager.timer i with m_cb := none }
        else s.manager.timer i := by rw [htimer, hone]
    refine ⟨hkept, hcreated ▸ h.created, ?_, ?_, ?_⟩
    all_goals
      rw [hi]
      split
    · exact h.held
    · exact h.held
    · exact h.recurring
    · exact h.recurring
    · exact h.deadline
    · exact h.deadline
  · have ha : ∀ address now, a ≠ .listExpiredCb address now := fun address now heq => ha ⟨address, now, heq⟩
    obtain ⟨hcreated, hsame⟩ := h.kept.step_unheld hs h.created h.held ha
    exact ⟨hkept, Nat.lt_of_lt_of_le h.created hcreated, hsame ▸ h.held, hsame ▸ h.recurring, hsame ▸ h.deadline⟩

theorem Armed.not_early {next : UInt64} {address : Nat} (h : Armed i next s)
    (hi : i ∈ s.manager.expired address now) : next ≤ now := by
  have hexpired := InOrder.expired_eq h.kept.ordered.expiring address now
  rw [hexpired, List.mem_filter, decide_eq_true_eq, h.deadline] at hi
  exact hi.2

end Mingfwq.TimerManager
