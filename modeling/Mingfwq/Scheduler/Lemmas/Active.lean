import Mingfwq.Scheduler.Lemmas.Steps

/-!
# The count of active threads

`m_activeThreadCount` is the number of workers between the removal of an entry and the decrement.
-/

namespace Mingfwq.Scheduler

open Lib

variable {s s' : Scheduler} {w : Nat} {k k' : Worker}

/-- A step of worker `w` from `k` to `k'`, as the count and the idle fiber see it. -/
structure Moves (s s' : Scheduler) (w : Nat) (k k' : Worker) : Prop where
  workers : s'.workers = s.workers.set w k'
  active : k.pc.active.toNat ≤ s.m_activeThreadCount →
    s'.m_activeThreadCount + k.pc.active.toNat = s.m_activeThreadCount + k'.pc.active.toNat
  idle : k'.idleTerm = k.idleTerm ∨ k'.idleTerm = s.stopping

theorem Moves.of_same (hw : s'.workers = s.workers.set w k') (hc : s'.m_activeThreadCount = s.m_activeThreadCount)
    (ha : k'.pc.active = k.pc.active) (hi : k'.idleTerm = k.idleTerm) : Moves s s' w k k' :=
  ⟨hw, fun _ => by rw [hc, ha], .inl hi⟩

theorem Moves.of_decrement (hw : s'.workers = s.workers.set w k')
    (hc : s'.m_activeThreadCount = s.m_activeThreadCount - 1) (hk : k.pc.active = true)
    (hk' : k'.pc.active = false) (hi : k'.idleTerm = k.idleTerm) : Moves s s' w k k' := by
  refine ⟨hw, fun hle => ?_, .inl hi⟩
  rw [hk] at hle ⊢
  rw [hk', hc]
  simp only [Bool.toNat_true, Bool.toNat_false] at hle ⊢
  omega

theorem resume_moves {x : Fiber} (hs : s.resume w k x k.pc = .next s') : ∃ k', Moves s s' w k k' := by
  cases hpc : k.pc with
  | swapIn f cb =>
      simp only [hpc, resume] at hs
      split at hs <;> cases hs
      exact ⟨_, .of_same rfl rfl (by rw [hpc]; rfl) rfl⟩
  | restore f cb =>
      simp only [hpc, resume] at hs
      split at hs <;> cases hs
      exact ⟨_, .of_same rfl rfl (by rw [hpc]; rfl) rfl⟩
  | save f cb =>
      simp only [hpc, resume] at hs
      cases hs
      exact ⟨_, .of_same rfl rfl (by rw [hpc]; rfl) rfl⟩
  | back f cb =>
      simp only [hpc, resume] at hs
      cases hs
      exact ⟨_, .of_decrement rfl rfl (by rw [hpc]; rfl) rfl rfl⟩
  | test f cb =>
      simp only [hpc, resume] at hs
      split at hs
      · cases hs
        exact ⟨_, .of_same rfl rfl (by rw [hpc]; rfl) rfl⟩
      split at hs <;> cases hs
      · cases cb <;> exact ⟨_, .of_same rfl rfl (by rw [hpc]; rfl) rfl⟩
      · exact ⟨_, .of_same rfl rfl (by rw [hpc]; rfl) rfl⟩
  | push f cb =>
      simp only [hpc, resume] at hs
      cases hs
      exact ⟨_, .of_same rfl rfl (by rw [hpc]; rfl) rfl⟩
  | hold f cb =>
      simp only [hpc, resume] at hs
      cases hs
      exact ⟨_, .of_same rfl rfl (by rw [hpc]; rfl) rfl⟩
  | _ => simp [hpc, resume] at hs

theorem begin_moves {ft : FiberAndThread} (hpc : k.pc = .taken ft) (hs : s.begin w k ft.task = .next s') :
    ∃ k', Moves s s' w k k' := by
  cases htask : ft.task with
  | fiber f =>
      simp only [htask, begin] at hs
      split at hs <;> cases hs
      refine ⟨_, .of_same rfl rfl ?_ rfl⟩
      rw [hpc]
      split <;> rfl
  | cb =>
      simp only [htask, begin] at hs
      split at hs
      · split at hs
        · cases hs
        · split at hs <;> cases hs
          exact ⟨_, .of_same rfl rfl (by rw [hpc]; rfl) rfl⟩
      · cases hs
        exact ⟨_, .of_same rfl rfl (by rw [hpc]; rfl) rfl⟩

/-- From swapIn on the worker has a fiber and goes on with resume. -/
theorem resume_moves_opt {o : Option Fiber}
    (ho : (match o with
      | some x => s.resume w k x k.pc
      | none => .blocked) = .next s') : ∃ k', Moves s s' w k k' := by
  cases o with
  | none => cases ho
  | some x => exact resume_moves ho

theorem run_moves (hs : s.run w k = .next s') : ∃ k', Moves s s' w k k' := by
  cases hpc : k.pc with
  | scan =>
      simp only [hpc, run] at hs
      split at hs <;> cases hs
      · exact ⟨_, rfl, fun _ => by rw [hpc]; rfl, .inl rfl⟩
      · exact ⟨_, .of_same rfl rfl (by rw [hpc]; rfl) rfl⟩
  | taken ft =>
      simp only [hpc, run] at hs
      exact begin_moves hpc hs
  | drop =>
      simp only [hpc, run] at hs
      cases hs
      exact ⟨_, .of_decrement rfl rfl (by rw [hpc]; rfl) rfl rfl⟩
  | idle =>
      simp only [hpc, run] at hs
      split at hs <;> cases hs
      · exact ⟨_, .of_same rfl rfl (by rw [hpc]; rfl) rfl⟩
      · exact ⟨_, rfl, fun _ => by rw [hpc]; rfl, .inr rfl⟩
  | exited => simp [hpc, run] at hs
  | _ =>
      simp only [hpc, run] at hs
      apply resume_moves_opt
      rw [hpc]
      exact hs

/-- A step of the fiber's function leaves the workers alone, or moves its own on to swapOut. -/
theorem body_moves {f : Nat} {cb : Bool} {x : Fiber} {b : Body} (hk : s.workers[w]? = some k)
    (hpc : k.pc = .exec f cb) (hs : s.body w k f cb x b = .next s') : ∃ k', Moves s s' w k k' := by
  simp only [body] at hs
  split at hs
  · cases hs
  split at hs
  · split at hs <;> cases hs
    exact ⟨k, .of_same (set_of_getElem? hk).symm rfl rfl rfl⟩
  · cases hs
    exact ⟨_, .of_same rfl rfl (by rw [hpc]; rfl) rfl⟩

/-- Every step leaves the workers and the count alone, or is a step of one worker. -/
theorem step_moves {a : Action} (hs : s.step a = .next s') :
    (s'.workers = s.workers ∧ s'.m_activeThreadCount = s.m_activeThreadCount) ∨
      ∃ w k k', s.workers[w]? = some k ∧ Moves s s' w k k' := by
  cases a with
  | newFiber =>
      cases hs
      exact .inl ⟨rfl, rfl⟩
  | schedule fc thread =>
      simp only [step] at hs
      split at hs <;> cases hs
      exact .inl ⟨rfl, rfl⟩
  | scheduleAll fcs =>
      simp only [step, scheduleAll_fields] at hs
      split at hs <;> cases hs
      exact .inl ⟨rfl, rfl⟩
  | dispatch f =>
      simp only [step] at hs
      split at hs <;> cases hs
      exact .inl ⟨rfl, rfl⟩
  | stop_autoStop =>
      cases hs
      exact .inl ⟨rfl, rfl⟩
  | stop_stopping =>
      simp only [step] at hs
      split at hs <;> cases hs
      exact .inl ⟨rfl, rfl⟩
  | run w =>
      simp only [step] at hs
      split at hs
      · next k hk =>
        obtain ⟨k', hm⟩ := run_moves hs
        exact .inr ⟨w, k, k', hk, hm⟩
      · cases hs
  | body w b =>
      simp only [step] at hs
      split at hs
      · next k hk =>
        split at hs
        · next hpc =>
          split at hs
          · obtain ⟨k', hm⟩ := body_moves hk hpc hs
            exact .inr ⟨w, k, k', hk, hm⟩
          · cases hs
        · cases hs
      · cases hs

/-! ## The count -/

def Counted (s : Scheduler) : Prop := s.m_activeThreadCount = s.workers.countP (·.pc.active)

theorem Counted.moves (h : s.Counted) (hk : s.workers[w]? = some k) (hm : Moves s s' w k k') : s'.Counted := by
  have hset := countP_set hk k' (·.pc.active)
  have hle : k.pc.active.toNat ≤ s.m_activeThreadCount := by
    rw [h]
    cases hact : k.pc.active with
    | false => exact Nat.zero_le _
    | true => exact List.countP_pos_iff.mpr ⟨k, List.mem_of_getElem? hk, hact⟩
  have hact := hm.active hle
  rw [Counted, hm.workers]
  rw [Counted] at h
  omega

theorem Counted.step (h : s.Counted) {a : Action} (hs : s.step a = .next s') : s'.Counted := by
  rcases step_moves hs with ⟨hw, hc⟩ | ⟨w, k, k', hk, hm⟩
  · rw [Counted, hw, hc]
    exact h
  · exact h.moves hk hm

theorem reachable_counted {threads : Nat} (h : (system threads).Reachable s) : s.Counted := by
  refine h.invariant ?_ fun _ _ _ hc _ hs => hc.step hs
  simp only [Counted, system, init, List.countP_replicate]
  rfl

theorem Counted.not_active (h : s.Counted) (hs : s.stopping = true) {k : Worker} (hk : k ∈ s.workers) :
    k.pc.active = false := by
  simp only [stopping, Bool.and_eq_true, beq_iff_eq] at hs
  rw [Counted, hs.2] at h
  simpa using List.countP_eq_zero.mp h.symm k hk

end Mingfwq.Scheduler
