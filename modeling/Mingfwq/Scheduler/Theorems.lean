import Mingfwq.Scheduler.Lemmas.Active
import Mingfwq.Scheduler.Lemmas.Ownership

/-!
# Safety of the scheduler

A fiber is published, through the queue or the event table, before the thread that runs it has let it go; and
the stop condition does not see a fiber that is about to go back on the queue.
-/

namespace Mingfwq.Scheduler

open Lib

variable {threads : Nat} {s : Scheduler}

/-! ## One thread for each fiber -/

/-- From the assignment of EXEC to the save of the context. -/
def Pc.executes (f : Nat) : Pc → Prop
  | .restore g _ | .exec g _ | .save g _ => g = f
  | _ => False

/-- No fiber is executed by two threads. -/
def Exclusive (s : Scheduler) : Prop :=
  ∀ (w w' : Nat) (k k' : Worker) (f : Nat), s.workers[w]? = some k → s.workers[w']? = some k' →
    k.pc.executes f → k'.pc.executes f → w = w'

/-- The assertion of swapIn holds, and the context restored is one that was saved. -/
def Safe (o : Outcome Fault Scheduler) : Prop := o ≠ .abort .swapIn ∧ o ≠ .abort .restore

/-- The fibers handed to schedule by something else than run or the dispatch of an event. -/
def scheduledFibers (as : List Action) : List Nat :=
  as.flatMap fun
    | .schedule (.fiber f) _ => [f]
    | .scheduleAll fcs => fcs.filterMap fun
        | .fiber f => some f
        | .cb => none
    | _ => []

theorem executes_fiber {pc : Pc} {f : Nat} (h : pc.executes f) : pc.fiber = some f := by
  cases pc <;> simp only [Pc.executes] at h <;> simp [Pc.fiber, h]

theorem Owned.exclusive (h : s.Owned) : s.Exclusive := by
  intro w w' k k' f hk hk' hf hf'
  by_contra hne
  exact h.unique w k f hk (.inl (executes_fiber hf)) w' k' hk' (Ne.symm hne) (.inl (executes_fiber hf'))

theorem begin_safe (w : Nat) (k : Worker) (task : FiberOrCb) : Safe (s.begin w k task) := by
  cases task with
  | fiber f =>
      simp only [Safe, begin]
      split <;> simp
  | cb =>
      simp only [Safe, begin]
      split
      · split
        · simp
        · split <;> simp
      · simp

theorem Owned.resume_opt_safe (h : s.Owned) {w : Nat} {k : Worker} (hk : s.workers[w]? = some k) :
    Safe (match k.pc.fiber.bind fun f => s.fibers[f]? with
      | some x => s.resume w k x k.pc
      | none => .blocked) := by
  cases hf : k.pc.fiber with
  | none => simp [Safe]
  | some f =>
      simp only [Option.bind_some]
      cases hx : s.fibers[f]? with
      | none => simp [Safe]
      | some x => exact h.resume_safe hk hf hx

theorem Owned.run_safe (h : s.Owned) {w : Nat} {k : Worker} (hk : s.workers[w]? = some k) :
    Safe (s.run w k) := by
  cases hpc : k.pc with
  | scan =>
      simp only [Safe, Scheduler.run, hpc]
      split <;> simp
  | taken ft =>
      simp only [Scheduler.run, hpc]
      exact begin_safe w k ft.task
  | drop => simp [Safe, Scheduler.run, hpc]
  | idle =>
      simp only [Safe, Scheduler.run, hpc]
      split <;> simp
  | exited => simp [Safe, Scheduler.run, hpc]
  | _ =>
      have hresume := h.resume_opt_safe hk
      rw [hpc] at hresume
      simp only [Scheduler.run, hpc]
      exact hresume

theorem Owned.safe (h : s.Owned) (a : Action) : Safe (s.step a) := by
  cases a with
  | newFiber | stop_autoStop => simp [Safe, Scheduler.step]
  | schedule | scheduleAll | dispatch | stop_stopping =>
      simp only [Safe, Scheduler.step]
      split <;> simp
  | run w =>
      simp only [Scheduler.step]
      split
      · next k hk => exact h.run_safe hk
      · simp [Safe]
  | body w b =>
      simp only [Scheduler.step]
      split
      · split
        · split
          · simp only [Safe, Scheduler.body]
            split
            · simp
            · split
              · split <;> simp
              · simp
          · simp [Safe]
        · simp [Safe]
      · simp [Safe]

/-- A fiber waits for an event and calls YieldToHold; the event is dispatched and worker 1 resumes the fiber
before worker 0 has saved its context. -/
def resumedEarly : List Action :=
  [.newFiber, .schedule (.fiber 0) none, .run 0, .run 0, .run 0, .run 0, .body 0 .addEvent, .body 0 .YieldToHold,
   .dispatch 0, .run 1, .run 1, .run 1, .run 1]

/-- A fiber that nobody but its event schedules again is restored before it is saved. -/
theorem resumedEarly_unsafe :
    ¬ ∀ threads as, (scheduledFibers as).Nodup →
      ∀ q ∈ (system threads).trace (init threads) as, q.1.Exclusive ∧ Safe (q.1.step q.2) := by
  intro h
  have hexec : (system 2).exec (init 2) resumedEarly = .abort .restore := by rfl
  obtain ⟨q, hq, hstep⟩ := System.exec_abort hexec
  exact (h 2 resumedEarly (by decide) q hq).2.2 hstep

/-- In a run where the scan removes a fiber only when no other worker is still in the iteration that ran it, no
fiber is executed by two threads, none is restored before it is saved, and the assertion of swapIn holds. -/
theorem run_exclusive (threads : Nat) (as : List Action)
    (h : ∀ q ∈ (system threads).trace (init threads) as, q.1.RemovesFree q.2) :
    ∀ q ∈ (system threads).trace (init threads) as, q.1.Exclusive ∧ Safe (q.1.step q.2) := by
  intro q hq
  have ho := reach_owned (System.Reach.of_mem_trace .init h q hq)
  exact ⟨ho.exclusive, ho.safe q.2⟩

/-- Worker 0 finishes its iteration before the event is dispatched; then worker 1 resumes the fiber. -/
def handedOver : List Action :=
  [.newFiber, .schedule (.fiber 0) none, .run 0, .run 0, .run 0, .run 0, .body 0 .addEvent, .body 0 .YieldToHold,
   .run 0, .run 0, .run 0, .run 0, .dispatch 0, .run 1, .run 1, .run 1, .run 1]

/-- The state before worker 1 restores the context. -/
def resumedInTime : Scheduler where
  m_fibers := []
  m_activeThreadCount := 1
  m_stopping := false
  m_autoStop := false
  workers := [{ pc := .scan, cb_fiber := none, idleTerm := false },
    { pc := .restore 0 false, cb_fiber := none, idleTerm := false }]
  fibers := [⟨.EXEC, true, true⟩]
  waiting := []

theorem run_exclusive_handedOver : resumedInTime.Exclusive ∧ Safe (resumedInTime.step (.run 1)) :=
  run_exclusive 2 handedOver (by decide) (resumedInTime, .run 1) (by decide)

/-! ## The stop condition -/

/-- The fiber's task is over for now: it is on HOLD or has ended. -/
def Rests (s : Scheduler) (f : Nat) : Prop :=
  ∃ x, s.fibers[f]? = some x ∧ (x.m_state = .HOLD ∨ x.m_state.finished)

/-- The worker has removed an entry whose task has neither ended, nor gone on HOLD, nor been pushed back. -/
def Unfinished (s : Scheduler) (k : Worker) : Prop :=
  match k.pc with
  | .taken _ | .swapIn _ _ | .restore _ _ | .exec _ _ | .push _ _ => True
  | .save f _ | .back f _ | .test f _ | .hold f _ => ¬s.Rests f
  | .scan | .drop | .idle | .exited => False

/-- The worker has decremented the count and still has a fiber to push back or to put on HOLD. -/
def Requeueing (s : Scheduler) (k : Worker) : Prop :=
  match k.pc with
  | .push _ _ => True
  | .test f _ | .hold f _ => ¬s.Rests f
  | _ => False

/-- In the next step of worker `w` its idle fiber terminates. -/
def IdleEnds (s : Scheduler) (w : Nat) : Prop :=
  ∃ k s' k', s.workers[w]? = some k ∧ s.step (.run w) = .next s' ∧ s'.workers[w]? = some k' ∧
    k.idleTerm = false ∧ k'.idleTerm = true

/-- Nothing that was accepted is unfinished when stopping returns true, and no idle fiber terminates while
another worker has a fiber to run. -/
structure Settles (s : Scheduler) : Prop where
  queue : s.stopping = true → s.m_fibers = []
  workers : s.stopping = true → ∀ k ∈ s.workers, ¬s.Unfinished k
  idle : ∀ w, s.IdleEnds w → ∀ w' k, w' ≠ w → s.workers[w']? = some k → ¬s.Unfinished k

theorem IdleEnds.stopping {w : Nat} (h : s.IdleEnds w) : s.stopping = true := by
  obtain ⟨k, s', k', hk, hs, hk', hterm, hterm'⟩ := h
  simp only [step, hk] at hs
  obtain ⟨k₁, hm⟩ := run_moves hs
  rw [hm.workers, getElem?_set_of_some hk, if_pos rfl] at hk'
  cases hk'
  rcases hm.idle with hi | hi
  · rw [hterm, hterm'] at hi
    cases hi
  · rw [← hi, hterm']

/-- A worker that is not counted has an unfinished task exactly when it has one to put back. -/
theorem unfinished_iff_requeueing {k : Worker} (h : k.pc.active = false) :
    s.Unfinished k ↔ s.Requeueing k := by
  cases hpc : k.pc <;> simp [hpc, Pc.active] at h <;> simp [Unfinished, Requeueing, hpc]

/-- A fiber leaves worker 0 through swapOut, its worker decrements the count, and stop is called. -/
def leaveAndStop (b : Body) : List Action :=
  [.newFiber, .schedule (.fiber 0) none, .run 0, .run 0, .run 0, .run 0, .body 0 b, .run 0, .run 0,
   .stop_autoStop, .stop_stopping]

/-- The state at the end, with the fiber as its function has left it. -/
def leftAndStopped (x : Fiber) : Scheduler where
  m_fibers := []
  m_activeThreadCount := 0
  m_stopping := true
  m_autoStop := true
  workers := [{ pc := .test 0 false, cb_fiber := none, idleTerm := false },
    { pc := .scan, cb_fiber := none, idleTerm := false }]
  fibers := [x]
  waiting := []

theorem yieldReady_reachable : (system 2).Reachable (leftAndStopped ⟨.READY, true, true⟩) :=
  System.Reach.exec (fun _ _ => trivial) (leaveAndStop .YieldToReady) .init rfl

theorem returns_reachable : (system 2).Reachable (leftAndStopped ⟨.TERM, false, true⟩) :=
  System.Reach.exec (fun _ _ => trivial) (leaveAndStop .returns) .init rfl

/-- stopping returns true while a fiber that yielded READY is not back on the queue. -/
theorem yieldReady_unsettled : ¬ ∀ threads s, (system threads).Reachable s → s.Settles := by
  intro h
  refine (h 2 _ yieldReady_reachable).workers rfl _ List.mem_cons_self ?_
  rintro ⟨x, hx, hrest⟩
  cases hx
  simp [FiberState.finished] at hrest

/-- In a reachable state the stop condition is sound exactly when, should it hold, no worker is between the
decrement and putting its fiber back. -/
theorem settles_iff (h : (system threads).Reachable s) :
    s.Settles ↔ (s.stopping = true → ∀ k ∈ s.workers, ¬s.Requeueing k) := by
  have hcount := reachable_counted h
  constructor
  · intro hset hstop k hk
    rw [← unfinished_iff_requeueing (hcount.not_active hstop hk)]
    exact hset.workers hstop k hk
  · intro hcond
    have hdone : s.stopping = true → ∀ k ∈ s.workers, ¬s.Unfinished k := by
      intro hstop k hk
      rw [unfinished_iff_requeueing (hcount.not_active hstop hk)]
      exact hcond hstop k hk
    refine ⟨fun hstop => ?_, hdone, fun w hends w' k _ hk => ?_⟩
    · simp only [stopping, Bool.and_eq_true, List.isEmpty_iff] at hstop
      exact hstop.1.2
    · exact hdone hends.stopping k (List.mem_of_getElem? hk)

/-- A task that has returned leaves nothing to put back. -/
theorem settles_returned : (leftAndStopped ⟨.TERM, false, true⟩).Settles := by
  refine (settles_iff returns_reachable).mpr fun _ k hk => ?_
  simp only [leftAndStopped, List.mem_cons, List.not_mem_nil, or_false] at hk
  rcases hk with rfl | rfl
  · exact fun h => h ⟨⟨.TERM, false, true⟩, rfl, .inr rfl⟩
  · exact id

end Mingfwq.Scheduler
