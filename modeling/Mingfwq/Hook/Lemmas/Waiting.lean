import Mathlib.Data.List.Count
import Mingfwq.Hook.Model
import Mingfwq.IOManager.Lemmas.FdContext
import Mingfwq.Lib.Table

/-!
# The fiber and its registration

The fiber of a hooked call is waiting in the event table or on the queue only between addEvent and its next
turn, and in one of the two at most; at most one callback has set `cancelled` and not yet called cancelEvent.
-/

namespace Mingfwq.Hook

open Lib FdContext

variable {call : Call} {fd iom fiber : Nat} {s s' : Hook}

/-- How many places the fiber may wait in. -/
def Pc.places : Pc → Nat
  | .YieldToHold | .parked => 1
  | _ => 0

structure Ok (s : Hook) : Prop where
  ctx : s.fd_ctx.Ok
  places : s.scheduled + s.fd_ctx.waiters.length ≤ s.pc.places
  once : s.timers.count .cancelEvent ≤ s.cancelled.toNat

theorem Releases.length {c : FdContext} {r : Section} (h : c.Releases r) :
    r.ctx.waiters.length + r.scheduled.length + r.dropped.length = c.waiters.length := by
  have hperm : (r.ctx.waiters ++ r.scheduled ++ r.dropped).Perm c.waiters := by
    rw [List.perm_iff_count]
    intro w
    rw [List.count_append, List.count_append]
    exact h.waiters w
  rw [← hperm.length_eq, List.length_append, List.length_append]

theorem Registers.length {c : FdContext} {e : Event} {who : Caller} {n : Nat} {r : Section}
    (h : c.Registers e who n r) : r.ctx.waiters.length = c.waiters.length + 1 := by
  have hperm : r.ctx.waiters.Perm (n :: c.waiters) := by
    rw [List.perm_iff_count]
    intro w
    rw [h.waiters w, List.count_cons]
    simp
  rw [hperm.length_eq, List.length_cons]

theorem waiters_pos {c : FdContext} {e : Event} (h : c.Ok) (he : c.events.has e = true) :
    0 < c.waiters.length := by
  obtain ⟨w, hw⟩ := Option.isSome_iff_exists.mp (h.armed he).waiter
  cases e <;> simp only [getContext] at hw <;> simp [waiters, hw]

theorem Ok.registered (h : s.Ok) {e : Event} (he : s.fd_ctx.events.has e = true) :
    s.pc = .YieldToHold ∨ s.pc = .parked := by
  have hpos := waiters_pos h.ctx he
  have hle := h.places
  cases hpc : s.pc <;> simp only [hpc, Pc.places] at hle <;> first | omega | simp

/-! ## The steps -/

/-- A step of the fiber that touches neither the event table nor the callbacks. -/
theorem Ok.move (h : s.Ok) (hctx : s'.fd_ctx = s.fd_ctx)
    (hplaces : s'.scheduled + s.pc.places ≤ s.scheduled + s'.pc.places)
    (htimers : s'.timers.count .cancelEvent ≤ s.timers.count .cancelEvent) (hc : s'.cancelled = s.cancelled) :
    s'.Ok := by
  refine ⟨hctx ▸ h.ctx, ?_, ?_⟩
  · have := h.places
    rw [hctx]
    omega
  · rw [hc]
    exact Nat.le_trans htimers h.once

theorem Ok.commit (h : s.Ok) {r : Section} (hr : s.fd_ctx.Releases r) : (s.commit r).Ok := by
  refine ⟨hr.ok, ?_, h.once⟩
  have hlen := Releases.length hr
  have := h.places
  simp only [Hook.commit]
  omega

theorem Ok.setTimer (h : s.Ok) {i : Nat} {t t' : TimerPc} (hi : s.timers[i]? = some t) (ht' : t' ≠ .cancelEvent) :
    (s.setTimer i t').Ok := by
  refine h.move rfl (Nat.le_refl _) ?_ rfl
  have hset := count_set hi t' .cancelEvent
  rw [beq_eq_false_iff_ne.mpr ht', Bool.toNat_false] at hset
  simp only [Hook.setTimer]
  omega

theorem Ok.cancelTimer (h : s.Ok) : s.cancelTimer.Ok := by
  simp only [Hook.cancelTimer]
  split
  · next hi => exact h.setTimer hi nofun
  · exact h

theorem Ok.addEvent (h : s.Ok) {e : Event} {r : Section} (hpc : s.pc = .addEvent)
    (hr : s.fd_ctx.Registers e ⟨some iom, fiber, .EXEC⟩ s.timers.length r) :
    Ok { s.commit r with pc := .YieldToHold } := by
  refine ⟨hr.ok.mp rfl, ?_, h.once⟩
  have := h.places
  rw [hpc] at this
  simp only [Hook.commit, Registers.length hr, hr.scheduled, List.length_nil, Pc.places] at this ⊢
  omega

theorem Ok.step (h : s.Ok) {a : Action} (hs : (system call fd iom fiber).step s a = .next s') : s'.Ok := by
  simp only [system] at hs
  cases a with
  | io again =>
      simp only [Hook.step] at hs
      split at hs <;> cases hs
      next hpc =>
      refine h.move rfl ?_ (Nat.le_refl _) rfl
      cases again <;> simp [hpc, Pc.places]
  | addTimer =>
      simp only [Hook.step] at hs
      split at hs <;> cases hs
      next hpc => exact h.move rfl (by simp [hpc, Pc.places]) (by simp) rfl
  | addEvent rt =>
      simp only [Hook.step] at hs
      split at hs
      · next hpc =>
        rcases addEvent_cases h.ctx call.event none ⟨some iom, fiber, .EXEC⟩ s.timers.length rt with
          ⟨-, r, hr, hreg⟩ | ⟨-, hr | ⟨f, -, hr⟩⟩
        · simp only [hr] at hs
          cases hs
          exact h.addEvent hpc hreg
        · simp only [hr] at hs
          cases hs
          exact h.move rfl (by simp [hpc, Pc.places]) (Nat.le_refl _) rfl
        · simp [hr] at hs
      · cases hs
  | YieldToHold =>
      simp only [Hook.step] at hs
      split at hs <;> cases hs
      next hpc => exact h.move rfl (by simp [hpc, Pc.places]) (Nat.le_refl _) rfl
  | swapIn =>
      simp only [Hook.step] at hs
      split at hs <;> cases hs
      next hpc => exact h.move rfl (by simp only [hpc.1, Pc.places]; omega) (Nat.le_refl _) rfl
  | timerCancel =>
      simp only [Hook.step] at hs
      have hc := h.cancelTimer
      have hpcs : s.cancelTimer.pc = s.pc := by
        simp only [Hook.cancelTimer]
        split <;> rfl
      split at hs
      · next hpc =>
        cases hs
        exact hc.move rfl (by simp [hpcs, hpc, Pc.places]) (Nat.le_refl _) rfl
      · split at hs <;> cases hs
        next hpc => exact hc.move rfl (by simp [hpcs, hpc, Pc.places]) (Nat.le_refl _) rfl
  | test =>
      simp only [Hook.step] at hs
      split at hs <;> cases hs
      next hpc =>
      refine h.move rfl ?_ (Nat.le_refl _) rfl
      simp only [hpc, Pc.places]
      omega
  | listExpiredCb i =>
      simp only [Hook.step] at hs
      split at hs <;> cases hs
      next hi => exact h.setTimer hi nofun
  | callback i =>
      simp only [Hook.step] at hs
      split at hs
      · next hi =>
        split at hs <;> cases hs
        · exact h.setTimer hi nofun
        · next hnot =>
          have hc : s.cancelled = false := by simpa using (not_or.mp hnot).2
          refine ⟨h.ctx, h.places, ?_⟩
          have hset := count_set hi TimerPc.cancelEvent .cancelEvent
          have honce := h.once
          rw [hc, Bool.toNat_false] at honce
          simp only [beq_self_eq_true, Bool.toNat_true, Hook.setTimer] at hset ⊢
          omega
      · cases hs
  | cancelEvent i rt =>
      simp only [Hook.step] at hs
      split at hs
      · next hi =>
        obtain ⟨o, ho, hrel⟩ := cancelEvent_ok h.ctx call.event rt
        simp only [ho] at hs
        cases o with
        | none =>
            cases hs
            exact h.setTimer hi nofun
        | some r =>
            cases hs
            exact (h.commit (hrel r rfl)).setTimer hi nofun
      · cases hs
  | dispatch event rt2 =>
      simp only [Hook.step] at hs
      rcases dispatch_cases h.ctx event rt2 with ⟨-, hr⟩ | ⟨-, r, hr, hrel⟩
      · simp [hr] at hs
      · simp only [hr] at hs
        cases hs
        exact h.commit hrel

theorem init_ok (fd : Nat) :
    Ok { fd_ctx := { fd := fd }, pc := .io, cancelled := false, timers := [], scheduled := 0 } :=
  ⟨ok_fresh fd, Nat.le_refl 0, Nat.le_refl 0⟩

theorem reach_ok {ok : Hook → Action → Prop} (h : (system call fd iom fiber).Reach ok s) : s.Ok :=
  h.invariant (init_ok fd) fun _ _ _ ho _ hs => ho.step hs

end Mingfwq.Hook
