import Mingfwq.Lib.Table
import Mingfwq.Scheduler.Model

/-!
# Workers and their fibers

Which fiber a worker has, which steps keep to it, and how the tables look after a step.
-/

namespace Mingfwq.Scheduler

open Lib

/-- The worker has fiber `f` in hand, or keeps it for its next callback. -/
def Worker.Holds (k : Worker) (f : Nat) : Prop := k.pc.fiber = some f ∨ k.cb_fiber = some f

instance (k : Worker) (f : Nat) : Decidable (k.Holds f) := inferInstanceAs (Decidable (_ ∨ _))

/-- The worker is counted in `m_activeThreadCount`. -/
def Pc.active : Pc → Bool
  | .taken _ | .swapIn _ _ | .restore _ _ | .exec _ _ | .save _ _ | .back _ _ | .drop => true
  | _ => false

/-- The entry the scan takes is in the queue, is not passed over, and leaves the others. -/
theorem takeFirst_spec {s : Scheduler} {w : Nat} {ft : FiberAndThread} {fts rest : List FiberAndThread}
    (h : s.takeFirst w fts = some (ft, rest)) :
    s.skips w ft = false ∧ ft ∈ fts ∧ ∀ x ∈ rest, x ∈ fts := by
  induction fts generalizing rest with
  | nil => simp [takeFirst] at h
  | cons x fts ih =>
      simp only [takeFirst] at h
      split at h
      · cases hrec : s.takeFirst w fts with
        | none => simp [hrec] at h
        | some q =>
            obtain ⟨ft', rest'⟩ := q
            simp only [hrec, Option.map_some, Option.some.injEq, Prod.mk.injEq] at h
            obtain ⟨rfl, rfl⟩ := h
            obtain ⟨hskip, hmem, hrest⟩ := ih hrec
            refine ⟨hskip, List.mem_cons_of_mem x hmem, fun y hy => ?_⟩
            rcases List.mem_cons.mp hy with rfl | hy
            · exact List.mem_cons_self
            · exact List.mem_cons_of_mem x (hrest y hy)
      · next hskip =>
        simp only [Option.some.injEq, Prod.mk.injEq] at h
        obtain ⟨rfl, rfl⟩ := h
        exact ⟨by simpa using hskip, List.mem_cons_self, fun y hy => List.mem_cons_of_mem x hy⟩

theorem scheduleAll_fields (s : Scheduler) (fcs : List FiberOrCb) :
    fcs.foldl (fun s fc => s.scheduleNoLock fc none) s =
      { s with m_fibers := s.m_fibers ++ fcs.map fun fc => ⟨fc, none⟩ } := by
  induction fcs generalizing s with
  | nil => simp
  | cons fc fcs ih =>
      rw [List.foldl_cons, ih]
      simp [scheduleNoLock]

end Mingfwq.Scheduler
