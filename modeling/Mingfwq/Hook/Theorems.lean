import Mingfwq.Hook.Lemmas.Heard

/-!
# Timeouts that are lost

The timer is armed before the event is registered, and a callback that finds no registration wakes nobody.
-/

namespace Mingfwq.Hook

open Lib FdContext

variable {call : Call} {fd iom fiber : Nat} {s s' : Hook}

/-- The timeout has fired for nothing: `cancelled` is set and no callback is left to call cancelEvent. -/
structure Missed (s : Hook) : Prop where
  cancelled : s.cancelled = true
  finished : .cancelEvent ∉ s.timers

theorem lost_of_yield (h : Missed s) (hpc : s.pc = .YieldToHold) (hreg : s.fd_ctx.events.has call.event = true) :
    ∃ s', (system call fd iom fiber).exec s [.YieldToHold] = .next s' ∧ Lost call s' := by
  have hstep : (system call fd iom fiber).step s .YieldToHold = .next { s with pc := .parked } := if_pos hpc
  exact ⟨_, System.exec_cons hstep [], rfl, hreg, h.cancelled, h.finished⟩

theorem lost_of_addEvent (hok : s.Ok) (h : Missed s) (hpc : s.pc = .addEvent) :
    ∃ s', (system call fd iom fiber).exec s [.addEvent true, .YieldToHold] = .next s' ∧ Lost call s' := by
  have hno : s.fd_ctx.events.has call.event = false := by
    by_contra hyes
    rcases hok.registered (by simpa using hyes) with hpc' | hpc' <;> rw [hpc] at hpc' <;> cases hpc'
  obtain ⟨r, hr, -, hev⟩ := @addEvent_succeeds _ _ ⟨some iom, fiber, .EXEC⟩ hok.ctx hno rfl rfl s.timers.length
  have hstep : (system call fd iom fiber).step s (.addEvent true) = .next { s.commit r with pc := .YieldToHold } := by
    simp [system, step, hpc, hr]
  rw [System.exec_cons hstep]
  refine lost_of_yield ⟨h.cancelled, h.finished⟩ rfl ?_
  simp [Hook.commit, hev, Events.has_or]

theorem lost_of_addTimer (hok : s.Ok) (h : Missed s) (hpc : s.pc = .addTimer) :
    ∃ s', (system call fd iom fiber).exec s [.addTimer, .addEvent true, .YieldToHold] = .next s' ∧ Lost call s' := by
  have hstep : (system call fd iom fiber).step s .addTimer =
      .next { s with pc := .addEvent, timers := s.timers ++ [.armed] } := if_pos hpc
  rw [System.exec_cons hstep]
  exact lost_of_addEvent (hok.step hstep) ⟨h.cancelled, by simpa using h.finished⟩ rfl

theorem lost_of_io (hok : s.Ok) (h : Missed s) (hpc : s.pc = .io) :
    ∃ s', (system call fd iom fiber).exec s [.io true, .addTimer, .addEvent true, .YieldToHold] = .next s' ∧
      Lost call s' := by
  have hstep : (system call fd iom fiber).step s (.io true) = .next { s with pc := .addTimer } := if_pos hpc
  rw [System.exec_cons hstep]
  exact lost_of_addTimer (hok.step hstep) ⟨h.cancelled, h.finished⟩ rfl

/-- A callback that is not in time finds nothing to trigger, and its timeout is over. -/
theorem missed_of_early (hok : s.Ok) {a : Action} (ha : ¬InTime call s a)
    (hs : (system call fd iom fiber).step s a = .next s') :
    Missed s' ∧ s'.pc = s.pc ∧ s'.fd_ctx = s.fd_ctx ∧
      (s.pc.waits = true → s.fd_ctx.events.has call.event = true) := by
  cases a with
  | cancelEvent i rt =>
      have hearly : s.pc.waits = false ∨ s.fd_ctx.events.has call.event = true ∧ rt = false := by
        by_contra hno
        refine ha ⟨by simpa using (not_or.mp hno).1, fun hreg => ?_⟩
        simpa [hreg] using (not_or.mp hno).2
      have hnone : s.fd_ctx.cancelEvent call.event rt = .ok none := by
        rcases hearly with hpc | ⟨-, rfl⟩
        · cases hreg : s.fd_ctx.events.has call.event with
          | false => simp [FdContext.cancelEvent, hreg]
          | true => rcases hok.registered hreg with hpc' | hpc' <;> simp [hpc', Pc.waits] at hpc
        · simp [FdContext.cancelEvent]
      simp only [system, step, hnone] at hs
      split at hs <;> cases hs
      next hi =>
      have hset : (s.timers.set i .finished).count .cancelEvent + 1 = s.timers.count .cancelEvent :=
        count_set hi TimerPc.finished .cancelEvent
      have honce := hok.once
      have hle : s.cancelled.toNat ≤ 1 := Bool.toNat_le _
      refine ⟨⟨?_, List.count_eq_zero.mp ?_⟩, rfl, rfl, ?_⟩
      · cases hc : s.cancelled with
        | true => exact hc
        | false =>
            rw [hc, Bool.toNat_false] at honce
            omega
      · simp only [setTimer]
        omega
      · intro hw
        rcases hearly with hpc | ⟨hreg, -⟩
        · rw [hpc] at hw
          cases hw
        · exact hreg
  | _ => exact absurd trivial ha

/-- The timer fires before addEvent: the callback sets `cancelled` and calls cancelEvent, which finds nothing;
then the fiber registers and parks. -/
def firesEarly : List Action :=
  [.io true, .addTimer, .listExpiredCb 0, .callback 0, .cancelEvent 0 true, .addEvent true, .YieldToHold]

/-- A timeout that fires before addEvent is lost, in do_io and in connect_with_timeout. -/
theorem firesEarly_lost :
    (¬ ∀ event fd iom fiber s, (system (.do_io event) fd iom fiber).Reachable s → ¬Lost (.do_io event) s) ∧
      ¬ ∀ fd iom fiber s, (system .connect_with_timeout fd iom fiber).Reachable s →
        ¬Lost .connect_with_timeout s := by
  constructor
  · intro h
    exact h .READ 5 0 1 _ (System.Reach.exec (fun _ _ => trivial) firesEarly .init rfl)
      ⟨rfl, rfl, rfl, by decide⟩
  · intro h
    exact h 5 0 1 _ (System.Reach.exec (fun _ _ => trivial) firesEarly .init rfl)
      ⟨rfl, rfl, rfl, by decide⟩

/-- No timeout is lost as long as every callback calls cancelEvent in time, and after any callback that does
not, the fiber's own next steps lose the timeout. -/
theorem lost_iff_early :
    (∀ s, (system call fd iom fiber).Reach (InTime call) s → ¬Lost call s) ∧
      ∀ s a s₁, (system call fd iom fiber).Reachable s → ¬InTime call s a →
        (system call fd iom fiber).step s a = .next s₁ →
          ∃ as s', (system call fd iom fiber).exec s₁ as = .next s' ∧ Lost call s' := by
  refine ⟨fun s h => (reach_heard h).not_lost, fun s a s₁ h ha hs => ?_⟩
  have hok : s.Ok := reach_ok h
  have hok₁ : s₁.Ok := hok.step hs
  obtain ⟨hmissed, hpc, hctx, hwaits⟩ := missed_of_early hok ha hs
  -- either the fiber is on its way to addEvent, or its registration stands
  cases hw : s.pc.waits with
  | true =>
      have hreg := hctx ▸ hwaits hw
      rcases hok₁.registered hreg with hpc₁ | hpc₁
      · exact ⟨_, lost_of_yield hmissed hpc₁ hreg⟩
      · exact ⟨[], s₁, rfl, hpc₁, hreg, hmissed.cancelled, hmissed.finished⟩
  | false =>
      rw [← hpc] at hw
      cases hpc₁ : s₁.pc with
      | io => exact ⟨_, lost_of_io hok₁ hmissed hpc₁⟩
      | addTimer => exact ⟨_, lost_of_addTimer hok₁ hmissed hpc₁⟩
      | addEvent => exact ⟨_, lost_of_addEvent hok₁ hmissed hpc₁⟩
      | _ => simp [hpc₁, Pc.waits] at hw

end Mingfwq.Hook
