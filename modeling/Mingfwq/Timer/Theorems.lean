import Mathlib.Data.List.Nodup
import Mingfwq.Timer.Lemmas.Expiring
import Mingfwq.Timer.Lemmas.Operations

/-!
# What comes out of the manager, over any sequence of calls
-/

namespace Mingfwq.TimerManager

open Lib

variable {s s' : State} {a : Action} {m m' : TimerManager}

/-- The timer an event is about. -/
def Event.timer : Event → Nat
  | .cancelled i => i
  | .delivered i => i

/-- No callback after the cancellation of its timer. -/
def Event.Before (e e' : Event) : Prop := ∀ i, e = .cancelled i → e' ≠ .delivered i

/-- A timer that has been cancelled, and a timer of one shot that has been delivered, has lost its callback. -/
structure Kept (s : State) : Prop where
  ordered : Ordered s.manager
  cancelled : ∀ i, .cancelled i ∈ s.events → i < s.manager.created ∧ (s.manager.timer i).m_cb = none
  delivered : ∀ i, .delivered i ∈ s.events → i < s.manager.created ∧
    ((s.manager.timer i).m_recurring = false → (s.manager.timer i).m_cb = none)
  cancelledOnce : ∀ i, s.events.count (.cancelled i) ≤ 1
  deliveredOnce : ∀ i, (s.manager.timer i).m_recurring = false → s.events.count (.delivered i) ≤ 1
  before : s.events.Pairwise Event.Before

theorem Kept.init : Kept .init where
  ordered := .new
  cancelled := by simp [State.init]
  delivered := by simp [State.init]
  cancelledOnce := by simp [State.init]
  deliveredOnce := by simp [State.init]
  before := .nil

/-- The timers that are there keep their kind, and none gets a callback again. -/
def Ages (m m' : TimerManager) : Prop :=
  m.created ≤ m'.created ∧ ∀ i < m.created, (m'.timer i).m_recurring = (m.timer i).m_recurring ∧
    ((m.timer i).m_cb = none → (m'.timer i).m_cb = none)

/-- A call that lets `es` out. -/
theorem Kept.extend (h : Kept s) (hordered : Ordered m') (hages : Ages s.manager m') {es : List Event}
    (hnodup : es.Nodup) (hsome : ∀ e ∈ es, (s.manager.timer e.timer).m_cb.isSome)
    (hcancelled : ∀ i, .cancelled i ∈ es → (m'.timer i).m_cb = none)
    (hdelivered : ∀ i, .delivered i ∈ es → (m'.timer i).m_recurring = false → (m'.timer i).m_cb = none)
    (hbefore : es.Pairwise Event.Before) : Kept ⟨m', s.events ++ es⟩ := by
  obtain ⟨hcreated, hage⟩ := hages
  have hlt : ∀ e ∈ es, e.timer < s.manager.created := fun e he => h.ordered.created _ (.inr (hsome e he))
  have hnew : ∀ i, .cancelled i ∈ es → .cancelled i ∉ s.events := by
    intro i hi hold
    have := hsome _ hi
    simp [Event.timer, (h.cancelled i hold).2] at this
  have honce := List.nodup_iff_count_le_one.mp hnodup
  refine ⟨hordered, ?_, ?_, ?_, ?_, List.pairwise_append.mpr ⟨h.before, hbefore, ?_⟩⟩
  · intro i hi
    rcases List.mem_append.mp hi with hi | hi
    · obtain ⟨hi, hcb⟩ := h.cancelled i hi
      exact ⟨Nat.lt_of_lt_of_le hi hcreated, (hage i hi).2 hcb⟩
    · exact ⟨Nat.lt_of_lt_of_le (hlt _ hi) hcreated, hcancelled i hi⟩
  · intro i hi
    rcases List.mem_append.mp hi with hi | hi
    · obtain ⟨hi, hcb⟩ := h.delivered i hi
      refine ⟨Nat.lt_of_lt_of_le hi hcreated, fun hrecurring => (hage i hi).2 (hcb ?_)⟩
      exact (hage i hi).1 ▸ hrecurring
    · exact ⟨Nat.lt_of_lt_of_le (hlt _ hi) hcreated, hdelivered i hi⟩
  · intro i
    rw [List.count_append]
    by_cases hi : .cancelled i ∈ es
    · rw [List.count_eq_zero.mpr (hnew i hi), Nat.zero_add]
      exact honce _
    · rw [List.count_eq_zero.mpr hi]
      exact h.cancelledOnce i
  · intro i hrecurring
    rw [List.count_append]
    by_cases hold : .delivered i ∈ s.events
    · obtain ⟨hi, hcb⟩ := h.delivered i hold
      have hone : (s.manager.timer i).m_recurring = false := (hage i hi).1 ▸ hrecurring
      have hes : .delivered i ∉ es := by
        intro hes
        have := hsome _ hes
        simp [Event.timer, hcb hone] at this
      rw [List.count_eq_zero.mpr hes]
      exact h.deliveredOnce i hone
    · rw [List.count_eq_zero.mpr hold, Nat.zero_add]
      exact honce _
  · rintro e he e' he' i rfl rfl
    have := hsome _ he'
    simp [Event.timer, (h.cancelled i he).2] at this

theorem Kept.quiet (h : Kept s) (hordered : Ordered m') (hages : Ages s.manager m') :
    Kept { s with manager := m' } := by
  simpa using h.extend hordered hages (@List.nodup_nil Event) (by simp) (by simp) (by simp) .nil

theorem Ages.of_timer (hcreated : m'.created = m.created)
    (htimer : ∀ i, (m'.timer i).m_recurring = (m.timer i).m_recurring ∧
    ((m.timer i).m_cb = none → (m'.timer i).m_cb = none)) : Ages m m' :=
  ⟨Nat.le_of_eq hcreated.symm, fun i _ => htimer i⟩

theorem Ages.setTimer {i : Nat} {t : Timer} (hrecurring : t.m_recurring = (m.timer i).m_recurring)
    (hcb : (m.timer i).m_cb = none → t.m_cb = none) : Ages m (m.setTimer i t) := by
  apply Ages.of_timer created_setTimer
  intro j
  rw [timer_setTimer]
  split
  · next heq => exact heq ▸ ⟨hrecurring, hcb⟩
  · exact ⟨rfl, id⟩

theorem Ages.addTimerLocked {i : Nat} (h : Ages m m') : Ages m (m'.addTimerLocked i).2 := by
  rw [Ages, timer_addTimerLocked, created_addTimerLocked]
  exact h

theorem Ages.getNextTimer {now : UInt64} : Ages m (m.getNextTimer now).2 := by
  rw [getNextTimer_manager]
  exact Ages.of_timer rfl fun _ => ⟨rfl, id⟩

theorem Kept.addTimer {address : Nat} {ms now : UInt64} {cb : Callback} {recurring : Bool} (h : Kept s)
    (hs : step s (.addTimer address ms cb recurring now) = .next s') : Kept s' := by
  simp only [step, State.after] at hs
  split at hs
  · cases hs
  · next hfresh =>
      cases hs
      refine h.quiet (h.ordered.addTimer hfresh) ⟨?_, ?_⟩
      · simp [TimerManager.addTimer]
      · intro i hi
        simp [TimerManager.addTimer, timer_setTimer, Nat.ne_of_lt hi]

theorem step_cancel {i : Nat} {b : Bool} (hheld : (s.manager.timer i).held) (hc : s.manager.cancel i = .ok (b, m')) :
    step s (.cancel i) = .next ⟨m', if b then s.events ++ [.cancelled i] else s.events⟩ := by
  cases b
  · simp only [step, hheld, if_true, hc, Bool.false_eq_true, if_false]
  · simp only [step, hheld, if_true, hc]

theorem step_refresh {i : Nat} {now : UInt64} {b : Bool} (hheld : (s.manager.timer i).held)
    (hr : s.manager.refresh i now = .ok (b, m')) : step s (.refresh i now) = .next { s with manager := m' } := by
  simp only [step, hheld, if_true, hr, State.after]

theorem step_reset {i : Nat} {ms now : UInt64} {from_now b at_front : Bool} (hheld : (s.manager.timer i).held)
    (hr : s.manager.reset i ms from_now now = .ok (b, at_front, m')) :
    step s (.reset i ms from_now now) = .next { s with manager := m' } := by
  simp only [step, hheld, if_true, hr, State.after, Except.map]

theorem step_listExpiredCb {address : Nat} {now : UInt64} {cbs : List (Option Callback)}
    (hl : s.manager.listExpiredCb address now = .ok (cbs, m')) : step s (.listExpiredCb address now) =
      .next ⟨m', s.events ++ (s.manager.expired address now).map .delivered⟩ := by
  simp only [step, hl]

theorem Kept.cancel {i : Nat} (h : Kept s) :
    (s.manager.timer i).held → ∃ s', step s (.cancel i) = .next s' ∧ Kept s' := by
  intro hheld
  by_cases hi : i ∈ s.manager.m_timers
  · have hcancel := h.ordered.cancel_eq i
    rw [if_pos hi] at hcancel
    refine ⟨_, step_cancel hheld hcancel, ?_⟩
    apply h.extend (h.ordered.cancel hcancel) (Ages.setTimer rfl fun _ => rfl) (List.nodup_singleton _)
    · simpa [Event.timer] using h.ordered.mem_iff.mp hi
    · intro j hj
      obtain rfl : j = i := by simpa using hj
      simp
    · simp
    · exact List.pairwise_singleton _ _
  · have hcancel := h.ordered.cancel_eq i
    rw [if_neg hi] at hcancel
    exact ⟨_, step_cancel hheld hcancel, h⟩

theorem Kept.listExpiredCb {address : Nat} {now : UInt64} (h : Kept s) :
    ∃ s', step s (.listExpiredCb address now) = .next s' ∧ Kept s' := by
  obtain ⟨cbs, m', hlist, hordered, hcreated, hsame⟩ := h.ordered.listExpiredCb address now
  have hexpired : (s.manager.expired address now).Sublist s.manager.m_timers := List.take_sublist _ _
  refine ⟨_, step_listExpiredCb hlist, ?_⟩
  apply h.extend hordered
  · apply Ages.of_timer hcreated
    intro i
    refine ⟨(hsame i).1, fun hcb => ?_⟩
    rw [(hsame i).2, hcb, ite_self]
  · apply List.Nodup.map
    · exact fun i j hij => Event.delivered.inj hij
    · exact hexpired.nodup h.ordered.nodup
  · intro e he
    obtain ⟨i, hi, rfl⟩ := List.mem_map.mp he
    exact h.ordered.mem_iff.mp (hexpired.subset hi)
  · simp
  · intro i hi hrecurring
    obtain ⟨j, hj, heq⟩ := List.mem_map.mp hi
    cases heq
    rw [(hsame i).2, if_pos ⟨hj, (hsame i).1 ▸ hrecurring⟩]
  · rw [List.pairwise_map]
    apply List.pairwise_of_forall
    intro i j k hk
    exact nomatch hk

theorem Kept.step (h : Kept s) (a : Action) :
    TimerManager.step s a = .blocked ∨ ∃ s', TimerManager.step s a = .next s' ∧ Kept s' := by
  cases a with
  | addTimer address ms cb recurring now =>
      rcases hs : TimerManager.step s (.addTimer address ms cb recurring now) with _ | e | s'
      · exact .inl rfl
      · simp only [TimerManager.step, State.after] at hs
        split at hs <;> cases hs
      · exact .inr ⟨s', rfl, h.addTimer hs⟩
  | cancel i =>
      by_cases hheld : (s.manager.timer i).held
      · exact .inr (h.cancel hheld)
      · exact .inl (if_neg hheld)
  | refresh i now =>
      by_cases hheld : (s.manager.timer i).held
      · right
        have hrefresh := h.ordered.refresh_eq i now
        split at hrefresh
        · refine ⟨_, step_refresh hheld hrefresh, ?_⟩
          exact h.quiet (h.ordered.refresh hrefresh) (Ages.setTimer rfl id)
        · exact ⟨_, step_refresh hheld hrefresh, h⟩
      · exact .inl (if_neg hheld)
  | reset i ms from_now now =>
      by_cases hheld : (s.manager.timer i).held
      · right
        have hreset := h.ordered.reset_eq i ms from_now now
        split at hreset
        · refine ⟨_, step_reset hheld hreset, ?_⟩
          have hages : Ages s.manager ((s.manager.without i).setTimer i
              ((s.manager.timer i).restarted ms from_now now)) := Ages.setTimer rfl id
          exact h.quiet (h.ordered.reset hreset) hages.addTimerLocked
        · exact ⟨_, step_reset hheld hreset, h⟩
      · exact .inl (if_neg hheld)
  | listExpiredCb address now => exact .inr h.listExpiredCb
  | getNextTimer now =>
      exact .inr ⟨_, rfl, h.quiet h.ordered.getNextTimer Ages.getNextTimer⟩
  | release i => exact .inr ⟨_, rfl, h.quiet h.ordered.release (Ages.setTimer rfl id)⟩

theorem Kept.next (h : Kept s) (hs : TimerManager.step s a = .next s') : Kept s' := by
  rcases h.step a with hblocked | ⟨s₁, hnext, hs₁⟩
  · cases hblocked.symm.trans hs
  · cases hnext.symm.trans hs
    exact hs₁

/-- The callbacks that `listExpiredCb` returns are those of the timers it delivers. -/
theorem Kept.callbacks (h : Kept s) {address : Nat} {now : UInt64} {cbs : List (Option Callback)}
    (hlist : s.manager.listExpiredCb address now = .ok (cbs, m')) :
    cbs = (s.manager.expired address now).map fun i => (s.manager.timer i).m_cb := by
  obtain ⟨m₁, hlist₁, -⟩ := InOrder.listExpiredCb h.ordered.expiring address now
  cases hlist.symm.trans hlist₁
  rfl

theorem kept_of_reachable (h : system.Reachable s) : Kept s :=
  Lib.System.Reach.invariant Kept.init (fun _ _ _ hs _ hstep => hs.next hstep) h

/-- In every sequence of calls the set is sorted and holds the timers that have a callback; no key of a timer changes
in the set and nothing is erased at its end; `cancel` returns true at most once for a timer, a timer of one shot is
delivered at most once, no timer is delivered after `cancel` has returned true, and what `listExpiredCb` returns are the
callbacks of the timers delivered. -/
theorem run_kept (h : system.Reachable s) :
    OrderedSet.Sorted s.manager.less s.manager.m_timers ∧ s.manager.m_timers.Nodup ∧
      (∀ i, i ∈ s.manager.m_timers ↔ (s.manager.timer i).m_cb.isSome) ∧
      (∀ a e, system.step s a ≠ .abort e) ∧
      (∀ i, s.events.count (.cancelled i) ≤ 1) ∧
      (∀ i, (s.manager.timer i).m_recurring = false → s.events.count (.delivered i) ≤ 1) ∧
      s.events.Pairwise Event.Before ∧
      ∀ address now cbs m', s.manager.listExpiredCb address now = .ok (cbs, m') →
        cbs = (s.manager.expired address now).map fun i => (s.manager.timer i).m_cb := by
  have hkept := kept_of_reachable h
  refine ⟨hkept.ordered.sorted, hkept.ordered.nodup, hkept.ordered.stored, ?_, hkept.cancelledOnce,
    hkept.deliveredOnce, hkept.before, fun _ _ _ _ hlist => hkept.callbacks hlist⟩
  intro a e habort
  rcases hkept.step a with hblocked | ⟨s', hnext, -⟩
  · cases hblocked.symm.trans habort
  · cases hnext.symm.trans habort

/-- Two timers, one of which expires and the other of which is cancelled. -/
def expireAndCancel : List Action :=
  [.addTimer 16 100 0 false 0, .addTimer 32 50 1 false 0, .listExpiredCb 48 60, .cancel 0, .cancel 1]

theorem run_kept_expireAndCancel : ∃ s, system.Reachable s ∧ s.events = [.delivered 1, .cancelled 0] ∧
    s.events.Pairwise Event.Before := by
  have hevents : (system.exec system.init expireAndCancel).view (fun s => s.events) =
      some [.delivered 1, .cancelled 0] := by decide +kernel
  obtain ⟨s, hreach, hevents⟩ := Lib.System.reachable_of_view hevents
  obtain ⟨-, -, -, -, -, -, hbefore, -⟩ := run_kept hreach
  exact ⟨s, hreach, hevents, hbefore⟩

end Mingfwq.TimerManager
