import Mathlib.Algebra.BigOperators.Group.List.Basic
import Mathlib.Algebra.Ring.Int.Defs
import Mingfwq.IOManager.Model
import Mingfwq.IOManager.Lemmas.FdContext

/-!
# The invariant of the event table

The counter is the number of bits set in the contexts, each context is consistent, and each registration is
in exactly one place: still waiting, handed to a scheduler once, or dropped by delEvent.
-/

namespace Mingfwq.IOManager

open Lib FdContext

/-- The registrations waiting in the table. -/
def waiting (m : IOManager) : List Nat := m.contexts.flatMap waiters

structure Consistent (m : IOManager) : Prop where
  pending : m.m_pendingEventCount = (m.contexts.map (·.events.count)).sum
  contexts : ∀ c ∈ m.contexts, c.Ok
  once : ∀ w, m.waiting.count w + m.scheduled.count w + m.dropped.count w =
    if w < m.issued then 1 else 0

variable {m m' : IOManager}

theorem Consistent.setPc (h : m.Consistent) (t : Nat) (pc : Pc) : (m.setPc t pc).Consistent :=
  ⟨h.pending, h.contexts, h.once⟩

theorem exists_split {c : FdContext} {cs : List FdContext} {i : Nat} (h : cs[i]? = some c) :
    ∃ l r, cs = l ++ c :: r ∧ ∀ c', cs.set i c' = l ++ c' :: r := by
  obtain ⟨hi, rfl⟩ := List.getElem?_eq_some_iff.mp h
  refine ⟨cs.take i, cs.drop (i + 1), ?_, fun c' => ?_⟩
  · rw [← List.drop_eq_getElem_cons hi, List.take_append_drop]
  · rw [List.set_eq_take_append_cons_drop, if_pos hi]

theorem Consistent.commit (h : m.Consistent) {i : Nat} {c : FdContext} {r : Section}
    (hc : m.contexts[i]? = some c) (hr : c.Releases r) : (m.commit i r).Consistent := by
  obtain ⟨xs, ys, heq, hset⟩ := exists_split hc
  refine ⟨?_, ?_, fun w => ?_⟩
  · have hp := h.pending
    simp only [heq, List.map_append, List.map_cons, List.sum_append, List.sum_cons] at hp
    simp only [IOManager.commit, hset, List.map_append, List.map_cons, List.sum_append, List.sum_cons, hp,
      hr.pending]
    omega
  · intro c' hc'
    simp only [IOManager.commit, hset, List.mem_append, List.mem_cons] at hc'
    rcases hc' with hc' | rfl | hc'
    · exact h.contexts c' (by simp [heq, hc'])
    · exact hr.ok
    · exact h.contexts c' (by simp [heq, hc'])
  · have ho := h.once w
    have hw := hr.waiters w
    simp only [waiting, heq, List.flatMap_append, List.flatMap_cons, List.count_append] at ho
    simp only [IOManager.commit, waiting, hset, List.flatMap_append, List.flatMap_cons, List.count_append]
    omega

/-- A successful addEvent keeps the invariant iff its thread has a scheduler. -/
theorem Consistent.commit_add (h : m.Consistent) {i : Nat} {c : FdContext} {e : Event} {who : Caller} {r : Section}
    (hc : m.contexts[i]? = some c) (hr : c.Registers e who m.issued r) :
    ({ m.commit i r with issued := m.issued + 1 } : IOManager).Consistent ↔ who.scheduler.isSome := by
  obtain ⟨xs, ys, heq, hset⟩ := exists_split hc
  constructor
  · intro h'
    exact hr.ok.mpr (h'.contexts r.ctx (by simp [IOManager.commit, hset]))
  intro hs
  refine ⟨?_, ?_, fun w => ?_⟩
  · have hp := h.pending
    simp only [heq, List.map_append, List.map_cons, List.sum_append, List.sum_cons] at hp
    simp only [IOManager.commit, hset, List.map_append, List.map_cons, List.sum_append, List.sum_cons, hp,
      hr.pending]
    omega
  · intro c' hc'
    simp only [IOManager.commit, hset, List.mem_append, List.mem_cons] at hc'
    rcases hc' with hc' | rfl | hc'
    · exact h.contexts c' (by simp [heq, hc'])
    · exact hr.ok.mp hs
    · exact h.contexts c' (by simp [heq, hc'])
  · have ho := h.once w
    have hw := hr.waiters w
    simp only [waiting, heq, List.flatMap_append, List.flatMap_cons, List.count_append] at ho
    simp only [IOManager.commit, waiting, hset, List.flatMap_append, List.flatMap_cons, List.count_append,
      hr.scheduled, hr.dropped, List.append_nil, hw]
    split at ho <;> split <;> split <;> omega

theorem Consistent.contextResize (h : m.Consistent) (size : Nat) : (m.contextResize size).Consistent := by
  have hz : ∀ fds : List Nat, ((fds.map fun i => ({ fd := i } : FdContext)).map (·.events.count)).sum = 0 := by
    intro fds
    induction fds with
    | nil => rfl
    | cons i fds ih => simpa [Events.count, Events.NONE] using ih
  have hw : ∀ fds : List Nat, (fds.map fun i => ({ fd := i } : FdContext)).flatMap waiters = [] := by
    intro fds
    simp [waiters, List.flatMap_eq_nil_iff]
  refine ⟨?_, ?_, fun w => ?_⟩
  · simp only [IOManager.contextResize, List.map_append, List.sum_append, hz, Int.add_zero]
    exact h.pending
  · intro c hc
    simp only [IOManager.contextResize, List.mem_append, List.mem_map] at hc
    rcases hc with hc | ⟨fd, -, rfl⟩
    · exact h.contexts c hc
    · exact ok_fresh fd
  · simp only [waiting, IOManager.contextResize, List.flatMap_append, hw, List.append_nil]
    exact h.once w

theorem init_consistent : init.Consistent := by
  refine Consistent.contextResize ⟨rfl, by simp, fun w => ?_⟩ 32
  simp [waiting]

/-! ## One step -/

/-- What a step needs from the state it starts in: an addEvent that is about to succeed runs on a thread with
a scheduler, and a dispatch meets only events that are registered, or none. -/
def StepOk (m : IOManager) : Action → Prop
  | .addEventLocked t who rt =>
      match m.pc t with
      | .addEvent i e cb => ∀ c, m.contexts[i]? = some c → c.AddSucceeds e cb who rt → who.scheduler.isSome
      | _ => True
  | .dispatch t rt2 =>
      match m.pc t with
      | .idle ((i, e) :: _) => ∀ c, m.contexts[i]? = some c → c.DispatchOk e rt2
      | _ => True
  | _ => True

/-- The step ends in a consistent state, or is not taken, or the process dies of something else than the
assertion of triggerEvent. -/
def Safe (o : Outcome EventFault IOManager) : Prop :=
  (∀ m', o = .next m' → m'.Consistent) ∧ o ≠ .abort .triggerEvent

theorem safe_blocked : Safe .blocked := ⟨by simp, by simp⟩

theorem safe_abort {f : EventFault} : Safe (.abort f) ↔ f ≠ .triggerEvent := by
  simp [Safe]

theorem safe_next : Safe (.next m) ↔ m.Consistent := by
  simp [Safe]

theorem leave_safe (h : m.Consistent) {t i : Nat} {pc : Pc} {c : FdContext} {o : Option Section}
    (hc : m.contexts[i]? = some c) (ho : ∀ r, o = some r → c.Releases r) : Safe (m.leave t pc i (.ok o)) := by
  cases o with
  | none => exact safe_next.mpr (h.setPc t pc)
  | some r => exact safe_next.mpr ((h.commit hc (ho r rfl)).setPc t pc)

theorem lookup_safe (h : m.Consistent) {t fd : Nat} {pc : Nat → Pc} : Safe (m.lookup t fd pc) := by
  unfold lookup
  split
  · exact safe_next.mpr h
  · exact safe_next.mpr (h.setPc _ _)

theorem addEventLocked_safe (h : m.Consistent) (t : Nat) (who : Caller) (rt : Bool) :
    Safe (step m (.addEventLocked t who rt)) ↔ StepOk m (.addEventLocked t who rt) := by
  cases hpc : m.pc t with
  | addEvent i e cb =>
      cases hc : m.contexts[i]? with
      | none => simp [StepOk, step, hpc, hc, safe_blocked]
      | some c =>
          simp only [StepOk, step, hpc, hc, Option.some.injEq, forall_eq']
          rcases addEvent_cases (h.contexts c (List.mem_of_getElem? hc)) e cb who m.issued rt with
            ⟨hs, r, hr, hreg⟩ | ⟨hs, hr | ⟨f, hf, hr⟩⟩
          · simp only [hr, safe_next, hs, true_implies]
            rw [← h.commit_add hc hreg]
            exact ⟨fun hc' => ⟨hc'.pending, hc'.contexts, hc'.once⟩,
              fun hc' => ⟨hc'.pending, hc'.contexts, hc'.once⟩⟩
          · simpa only [hr, hs, false_implies, iff_true, safe_next] using h.setPc t .out
          · simpa only [hr, hs, false_implies, iff_true, safe_abort] using hf
  | _ => simp [StepOk, step, hpc, safe_blocked]

theorem dispatch_safe (h : m.Consistent) (t : Nat) (rt2 : Bool) :
    Safe (step m (.dispatch t rt2)) ↔ StepOk m (.dispatch t rt2) := by
  cases hpc : m.pc t with
  | idle events =>
      cases events with
      | nil => simpa only [StepOk, step, hpc, iff_true, safe_next] using h.setPc t .out
      | cons q events =>
          obtain ⟨i, e⟩ := q
          cases hc : m.contexts[i]? with
          | none => simp [StepOk, step, hpc, hc, safe_blocked]
          | some c =>
              simp only [StepOk, step, hpc, hc, Option.some.injEq, forall_eq']
              rcases dispatch_cases (h.contexts c (List.mem_of_getElem? hc)) e rt2 with
                ⟨hbad, hr⟩ | ⟨hgood, r, hr, hrel⟩
              · simp [hr, hbad, Except.map, leave, safe_abort]
              · simp only [hr, hgood, Except.map, iff_true]
                exact leave_safe h hc (by rintro r' ⟨⟩; exact hrel)
  | _ => simp [StepOk, step, hpc, safe_blocked]

theorem step_safe_iff (h : m.Consistent) (a : Action) : Safe (step m a) ↔ StepOk m a := by
  have hctx : ∀ {i : Nat} {c : FdContext}, m.contexts[i]? = some c → c.Ok :=
    fun hc => h.contexts _ (List.mem_of_getElem? hc)
  cases a with
  | addEventLocked t who rt => exact addEventLocked_safe h t who rt
  | dispatch t rt2 => exact dispatch_safe h t rt2
  | addEvent t fd event cb =>
      simp only [StepOk, iff_true]
      cases hpc : m.pc t <;> simp only [step, hpc, safe_blocked]
      cases m.m_FdContexts[fd]? <;> exact safe_next.mpr (h.setPc _ _)
  | contextResize t =>
      simp only [StepOk, iff_true]
      cases hpc : m.pc t <;> simp only [step, hpc, safe_blocked]
      split
      · exact safe_next.mpr ((h.contextResize _).setPc _ _)
      · exact safe_abort.mpr (by simp)
  | delEvent t fd event | cancelEvent t fd event | cancelAll t fd =>
      simp only [StepOk, iff_true]
      cases hpc : m.pc t <;> simp only [step, hpc, safe_blocked]
      exact lookup_safe h
  | delEventLocked t rt =>
      simp only [StepOk, iff_true]
      cases hpc : m.pc t <;> simp only [step, hpc, safe_blocked]
      rename_i i e
      cases hc : m.contexts[i]? with
      | none => exact safe_blocked
      | some c => exact leave_safe h hc fun r hr => delEvent_releases (hctx hc) hr
  | cancelEventLocked t rt =>
      simp only [StepOk, iff_true]
      cases hpc : m.pc t <;> simp only [step, hpc, safe_blocked]
      rename_i i e
      cases hc : m.contexts[i]? with
      | none => exact safe_blocked
      | some c =>
          obtain ⟨o, ho, hrel⟩ := cancelEvent_ok (hctx hc) e rt
          simp only [ho]
          exact leave_safe h hc hrel
  | cancelAllLocked t rt =>
      simp only [StepOk, iff_true]
      cases hpc : m.pc t <;> simp only [step, hpc, safe_blocked]
      rename_i i
      cases hc : m.contexts[i]? with
      | none => exact safe_blocked
      | some c =>
          obtain ⟨o, ho, hrel⟩ := cancelAll_ok (hctx hc) rt
          simp only [ho]
          exact leave_safe h hc hrel
  | epoll_wait t events =>
      simp only [StepOk, iff_true]
      cases hpc : m.pc t <;> simp only [step, hpc, safe_blocked]
      split
      · exact safe_next.mpr (h.setPc _ _)
      · exact safe_blocked

theorem reach_consistent (h : system.Reach StepOk m) : m.Consistent :=
  h.invariant init_consistent fun _ _ _ hm ha hs => ((step_safe_iff hm _).mpr ha).1 _ hs

end Mingfwq.IOManager
