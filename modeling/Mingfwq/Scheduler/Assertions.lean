import Mingfwq.Scheduler.Lemmas.Trusted

/-!
# The assertions of the scheduler

Those of swapIn and reset, and that of addEvent on the state of the fiber. None of them fails where the scan removes a
fiber only when no other worker is in the iteration that ran it, and one worker alone cannot do otherwise.
-/

namespace Mingfwq.Scheduler

open Lib

variable {s s' : Scheduler} {w f : Nat} {k : Worker} {x : Fiber} {e : Fault}

/-! ## One step -/

theorem Sound.begin_not_abort (h : s.Sound) (hk : s.workers[w]? = some k) {ft : FiberAndThread}
    (hpc : k.pc = .taken ft) : s.begin w k ft.task ≠ .abort e := by
  obtain ⟨task, thread⟩ := ft
  cases task with
  | fiber f =>
      simp only [Scheduler.begin]
      split <;> simp
  | cb =>
      simp only [Scheduler.begin]
      split
      · next f hcb =>
          split
          · simp
          · next x hx =>
              have hspare := (h.trusted w k f x hk hx).spare hcb (by simp [hpc, Pc.fiber])
              rw [if_pos hspare.1]
              simp
      · simp

theorem Sound.resume_not_abort (h : s.Sound) (hk : s.workers[w]? = some k) (hf : k.pc.fiber = some f)
    (hx : s.fibers[f]? = some x) : s.resume w k x k.pc ≠ .abort e := by
  have hexpects := h.owned.expects w k f x hk hf hx
  cases hpc : k.pc with
  | swapIn g cb =>
      rw [hpc] at hexpects
      simp only [Scheduler.resume]
      rw [if_neg hexpects.1]
      simp
  | restore g cb =>
      rw [hpc] at hexpects
      have hsaved : x.saved = true := hexpects
      simp only [Scheduler.resume]
      rw [if_pos hsaved]
      simp
  | test g cb =>
      simp only [Scheduler.resume]
      split
      · simp
      · split <;> simp
  | _ => simp [Scheduler.resume]

theorem Sound.resume_opt_not_abort (h : s.Sound) (hk : s.workers[w]? = some k) :
    (match k.pc.fiber.bind fun f => s.fibers[f]? with
      | some x => s.resume w k x k.pc
      | none => .blocked) ≠ .abort e := by
  cases hf : k.pc.fiber with
  | none => simp
  | some f =>
      rw [Option.bind_some]
      cases hx : s.fibers[f]? with
      | none => simp
      | some x => exact h.resume_not_abort hk hf hx

theorem Sound.run_not_abort (h : s.Sound) (hk : s.workers[w]? = some k) : s.run w k ≠ .abort e := by
  cases hpc : k.pc with
  | scan | idle =>
      simp only [Scheduler.run, hpc]
      split <;> simp
  | taken ft =>
      simp only [Scheduler.run, hpc]
      exact h.begin_not_abort hk hpc
  | drop | exited =>
      simp only [Scheduler.run, hpc]
      simp
  | _ =>
      have hresume := h.resume_opt_not_abort (e := e) hk
      rw [hpc] at hresume
      simp only [Scheduler.run, hpc]
      exact hresume

theorem Sound.body_not_abort (h : s.Sound) (hk : s.workers[w]? = some k) {cb : Bool} {b : Body}
    (hpc : k.pc = .exec f cb) (hx : s.fibers[f]? = some x) : s.body w k f cb x b ≠ .abort e := by
  have hruns := (h.trusted w k f x hk hx).runs (by rw [hpc]; rfl)
  rw [hpc] at hruns
  have hexec : x.m_state = .EXEC := hruns
  simp only [Scheduler.body]
  split
  · simp
  · split <;> simp

theorem Sound.not_abort (h : s.Sound) (a : Action) : s.step a ≠ .abort e := by
  cases a with
  | newFiber | stop_autoStop => simp [Scheduler.step]
  | schedule | scheduleAll | dispatch | stop_stopping =>
      simp only [Scheduler.step]
      split <;> simp
  | run w =>
      simp only [Scheduler.step]
      split
      · next k hk => exact h.run_not_abort hk
      · simp
  | body w b =>
      simp only [Scheduler.step]
      split
      · next k hk =>
          split
          · next hpc =>
              split
              · next hx => exact h.body_not_abort hk hpc hx
              · simp
          · simp
      · simp

/-! ## Whole runs -/

/-- In a run where the scan removes a fiber only when no other worker is still in the iteration that ran it, swapIn,
reset and addEvent (on the state of the fiber) fail no assertion, and no context is restored that is not there. -/
theorem run_asserts (threads : Nat) (as : List Action)
    (h : ∀ q ∈ (system threads).trace (init threads) as, q.1.RemovesFree q.2) :
    ∀ q ∈ (system threads).trace (init threads) as, ∀ e, q.1.step q.2 ≠ .abort e :=
  fun q hq _ => (reach_sound (System.Reach.of_mem_trace .init h q hq)).not_abort q.2

/-- The fiber of a callback waits for an event and returns; the event schedules it once more while it is kept for the
next callback, and without a function it throws. Then the next callback resets it. -/
def scheduledWhileKept : List Action :=
  [.schedule .cb none, .run 0, .run 0, .run 0, .run 0, .body 0 .addEvent, .body 0 .returns, .run 0, .run 0, .run 0,
   .dispatch 0, .run 0, .run 0, .run 0, .run 0, .body 0 .throws, .run 0, .run 0, .run 0, .schedule .cb none, .run 0]

/-- The state before the reset. -/
def keptThrown : Scheduler where
  m_fibers := []
  m_activeThreadCount := 1
  m_stopping := false
  m_autoStop := false
  workers := [{ pc := .taken ⟨.cb, none⟩, cb_fiber := some 0, idleTerm := false },
    { pc := .scan, cb_fiber := none, idleTerm := false }]
  fibers := [⟨.EXCEPT, false, true⟩]
  waiting := []

theorem run_asserts_scheduledWhileKept : keptThrown.step (.run 0) ≠ .abort .reset :=
  run_asserts 2 (scheduledWhileKept ++ [.run 0]) (by decide) (keptThrown, .run 0) (by decide) .reset

/-! ## One worker -/

theorem length_workers {a : Action} (hs : s.step a = .next s') : s'.workers.length = s.workers.length := by
  rcases step_moves hs with ⟨hw, -⟩ | ⟨w, k, k', -, hm⟩
  · rw [hw]
  · rw [hm.workers, List.length_set]

theorem removesFree_of_one (h : s.workers.length = 1) (a : Action) : s.RemovesFree a := by
  cases a with
  | run w =>
      intro k hk _ q _ f _ w' k' hk' hne
      obtain ⟨hw, -⟩ := List.getElem?_eq_some_iff.mp hk
      obtain ⟨hw', -⟩ := List.getElem?_eq_some_iff.mp hk'
      omega
  | _ => trivial

theorem one_worker_reach (h : (system 1).Reachable s) : (system 1).Reach RemovesFree s ∧ s.workers.length = 1 := by
  induction h with
  | init => exact ⟨.init, rfl⟩
  | step _ _ hs ih => exact ⟨.step ih.1 (removesFree_of_one ih.2 _) hs, (length_workers hs).trans ih.2⟩

/-- With one worker swapIn, reset and addEvent (on the state of the fiber) fail no assertion, and no context is restored
that is not there, whatever is scheduled, how often and when. -/
theorem one_worker_asserts (as : List Action) :
    ∀ q ∈ (system 1).trace (init 1) as, ∀ e, q.1.step q.2 ≠ .abort e := by
  intro q hq e
  have hreach : (system 1).Reachable q.1 := System.Reach.of_mem_trace .init (fun _ _ => trivial) q hq
  exact (reach_sound (one_worker_reach hreach).1).not_abort q.2

theorem one_worker_asserts_scheduledWhileKept :
    { keptThrown with workers := keptThrown.workers.take 1 }.step (.run 0) ≠ .abort .reset :=
  one_worker_asserts (scheduledWhileKept ++ [.run 0]) ({ keptThrown with workers := keptThrown.workers.take 1 }, .run 0)
    (by decide) .reset

end Mingfwq.Scheduler
