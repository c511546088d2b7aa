import Mingfwq.Scheduler.Lemmas.Active
import Mingfwq.Scheduler.Lemmas.Ownership

/-!
# What a worker relies on in its fibers

The fiber on whose stack a worker is executes, and the fiber it keeps for its next callback can be reset, even if an
entry of the queue still names it.
-/

namespace Mingfwq.Scheduler

open Lib

variable {s s' : Scheduler} {w f g : Nat} {k k' : Worker} {x x' : Fiber}

/-- A fiber that can be reset, and whose function is gone. -/
def Spare (x : Fiber) : Prop := x.resettable = true ∧ x.m_cb = false

/-- From the assignment of EXEC to swapOut the fiber executes. -/
def Pc.Runs (x : Fiber) : Pc → Prop
  | .restore _ _ | .exec _ _ => x.m_state = .EXEC
  | _ => True

/-- What is kept of a spare fiber that is in hand: it has been reset for a callback, or it is only about to throw. -/
def Pc.Lends (x : Fiber) : Pc → Prop
  | .swapIn _ cb => cb = true ∨ Spare x
  | .restore _ cb | .exec _ cb => cb = true ∨ x.m_cb = false
  | .save _ cb | .back _ cb | .test _ cb => cb = true ∨ x.m_state.finished = true ∧ x.m_cb = false
  | .push _ cb | .hold _ cb => cb = true
  | _ => Spare x

structure Worker.Trusts (k : Worker) (g : Nat) (x : Fiber) : Prop where
  runs : k.pc.fiber = some g → k.pc.Runs x
  lends : k.cb_fiber = some g → k.pc.fiber = some g → k.pc.Lends x
  spare : k.cb_fiber = some g → k.pc.fiber ≠ some g → Spare x

/-- Every worker can rely on its fibers. -/
def Trusted (s : Scheduler) : Prop :=
  ∀ (w : Nat) (k : Worker) (g : Nat) (x : Fiber), s.workers[w]? = some k → s.fibers[g]? = some x → k.Trusts g x

theorem trusts_of_not_holds (h : ¬k.Holds g) : k.Trusts g x :=
  ⟨fun hg => absurd (.inl hg) h, fun hg => absurd (.inr hg) h, fun hg => absurd (.inr hg) h⟩

theorem Trusted.grow (h : s.Trusted) (ho : s.Owned) (fresh : List Fiber) (hw : s'.workers = s.workers)
    (hf : s'.fibers = s.fibers ++ fresh) : s'.Trusted := by
  intro w k g x hk hx
  rw [hw] at hk
  by_cases hholds : k.Holds g
  · rw [hf, List.getElem?_append_left (ho.made w k g hk hholds)] at hx
    exact h w k g x hk hx
  · exact trusts_of_not_holds hholds

/-- A step of worker `w` that concerns no fiber but `f`, which no other worker has. -/
theorem Trusted.move (h : s.Trusted) (hk : s.workers[w]? = some k) (hf : f < s.fibers.length) (hfree : s.FreeFor w f)
    (hold : ∀ g, k.pc.fiber = some g → g = f) (hw : s'.workers = s.workers.set w k')
    (hset : s'.fibers = s.fibers.set f x') (hpc : ∀ g, k'.pc.fiber = some g → g = f)
    (hcb : ∀ g, k'.cb_fiber = some g → g = f ∨ k.cb_fiber = some g) (htrusts : k'.Trusts f x') : s'.Trusted := by
  intro w' k₁ g y hk₁ hy
  rw [hw, getElem?_set_of_some hk] at hk₁
  rw [hset, getElem?_set_of_some (List.getElem?_eq_getElem hf)] at hy
  split at hy
  · next hgf =>
      cases hy
      subst hgf
      split at hk₁
      · cases hk₁
        exact htrusts
      · next hne => exact trusts_of_not_holds (hfree w' k₁ hk₁ hne)
  · next hgf =>
      split at hk₁
      · cases hk₁
        refine ⟨fun hg => absurd (hpc g hg) hgf, fun _ hg => absurd (hpc g hg) hgf, fun hg _ => ?_⟩
        have hkept := (hcb g hg).resolve_left hgf
        exact (h w k g y hk hy).spare hkept fun hg => hgf (hold g hg)
      · exact h w' k₁ g y hk₁ hy

/-- A step of a worker that has fiber `f` in hand and keeps it or lets it go. -/
theorem Trusted.keep (h : s.Trusted) (ho : s.Owned) (hk : s.workers[w]? = some k) (hf : k.pc.fiber = some f)
    (hw : s'.workers = s.workers.set w k') (hset : s'.fibers = s.fibers.set f x')
    (hpc : k'.pc.fiber = some f ∨ k'.pc.fiber = none) (hcb : k'.cb_fiber = k.cb_fiber ∨ k'.cb_fiber = none)
    (htrusts : k'.Trusts f x') : s'.Trusted := by
  refine h.move hk (ho.made w k f hk (.inl hf)) (ho.unique w k f hk (.inl hf)) ?_ hw hset ?_ ?_ htrusts
  · intro g hg
    exact (Option.some.inj (hf.symm.trans hg)).symm
  · intro g hg
    rcases hpc with hpc | hpc
    · exact (Option.some.inj (hpc.symm.trans hg)).symm
    · cases hpc.symm.trans hg
  · intro g hg
    rcases hcb with hcb | hcb
    · exact .inr (hcb ▸ hg)
    · cases hcb.symm.trans hg

/-- A step of worker `w` from a place without a fiber to another, which changes no fiber. -/
theorem Trusted.rest (h : s.Trusted) (hk : s.workers[w]? = some k) (hpc : k.pc.fiber = none)
    (hw : s'.workers = s.workers.set w k') (hset : s'.fibers = s.fibers) (hpc' : k'.pc.fiber = none)
    (hcb : k'.cb_fiber = k.cb_fiber) : s'.Trusted := by
  intro w' k₁ g y hk₁ hy
  rw [hw, getElem?_set_of_some hk] at hk₁
  rw [hset] at hy
  split at hk₁
  · cases hk₁
    refine ⟨fun hg => ?_, fun _ hg => ?_, fun hg _ => ?_⟩
    · cases hpc'.symm.trans hg
    · cases hpc'.symm.trans hg
    · refine (h w k g y hk hy).spare (hcb ▸ hg) ?_
      simp [hpc]
  · exact h w' k₁ g y hk₁ hy

/-! ## The steps -/

theorem trusts_let_go (hpc : k'.pc.fiber = none) (h : k'.cb_fiber = some f → Spare x) : k'.Trusts f x := by
  refine ⟨fun hg => ?_, fun _ hg => ?_, fun hg _ => h hg⟩
  · cases hpc.symm.trans hg
  · cases hpc.symm.trans hg

theorem trusts_in_hand (hpc : k'.pc.fiber = some f) (hruns : k'.pc.Runs x) (h : k'.cb_fiber = some f → k'.pc.Lends x) :
    k'.Trusts f x :=
  ⟨fun _ => hruns, fun hg _ => h hg, fun _ hne => absurd hpc hne⟩

theorem spare_new : Spare (Fiber.new false) := ⟨rfl, rfl⟩

/-- A fiber that has not finished is let go; if it was made or reset for a callback, the worker keeps none. -/
theorem Trusted.part (h : s.Trusted) (ho : s.Owned) (hk : s.workers[w]? = some k) (hf : k.pc.fiber = some f)
    (hw : s'.workers = s.workers.set w k') (hset : s'.fibers = s.fibers.set f x') (hpc : k'.pc.fiber = none) {cb : Bool}
    (hcb : k'.cb_fiber = if cb then none else k.cb_fiber) (hlends : k.cb_fiber = some f → cb = true) : s'.Trusted := by
  cases cb with
  | true =>
      have hnone : k'.cb_fiber = none := hcb
      exact h.keep ho hk hf hw hset (.inr hpc) (.inr hnone) (trusts_let_go hpc (by simp [hnone]))
  | false =>
      have hsame : k'.cb_fiber = k.cb_fiber := hcb
      refine h.keep ho hk hf hw hset (.inr hpc) (.inl hsame) (trusts_let_go hpc fun hkept => ?_)
      exact absurd (hlends (hsame ▸ hkept)) Bool.false_ne_true

theorem Trusted.resume (h : s.Trusted) (ho : s.Owned) (hk : s.workers[w]? = some k) (hf : k.pc.fiber = some f)
    (hx : s.fibers[f]? = some x) (hs : s.resume w k x k.pc = .next s') : s'.Trusted := by
  have htrusts := h w k f x hk hx
  have hruns := htrusts.runs hf
  have hlends := fun hcb => htrusts.lends hcb hf
  have hself : s.fibers = s.fibers.set f x := (set_of_getElem? hx).symm
  cases hpc : k.pc with
  | swapIn g cb =>
      rw [hpc] at hlends
      simp only [hpc, Pc.fiber, Option.some.injEq] at hf
      simp only [hpc, Scheduler.resume, hf] at hs
      split at hs <;> cases hs
      refine h.keep ho hk (by rw [hpc, hf]; rfl) rfl rfl (.inl rfl) (.inl rfl) (trusts_in_hand rfl rfl fun hcb => ?_)
      exact (hlends hcb).imp_right fun hspare => hspare.2
  | restore g cb =>
      rw [hpc] at hruns hlends
      simp only [hpc, Pc.fiber, Option.some.injEq] at hf
      simp only [hpc, Scheduler.resume, hf] at hs
      split at hs <;> cases hs
      exact h.keep ho hk (by rw [hpc, hf]; rfl) rfl rfl (.inl rfl) (.inl rfl) (trusts_in_hand rfl hruns hlends)
  | save g cb =>
      rw [hpc] at hlends
      simp only [hpc, Pc.fiber, Option.some.injEq] at hf
      simp only [hpc, Scheduler.resume, hf] at hs
      cases hs
      exact h.keep ho hk (by rw [hpc, hf]; rfl) rfl rfl (.inl rfl) (.inl rfl) (trusts_in_hand rfl trivial hlends)
  | back g cb =>
      rw [hpc] at hlends
      simp only [hpc, Pc.fiber, Option.some.injEq] at hf
      simp only [hpc, Scheduler.resume, hf] at hs
      cases hs
      exact h.keep ho hk (by rw [hpc, hf]; rfl) rfl hself (.inl rfl) (.inl rfl) (trusts_in_hand rfl trivial hlends)
  | test g cb =>
      rw [hpc] at hlends
      simp only [hpc, Pc.fiber, Option.some.injEq] at hf
      simp only [hpc, Scheduler.resume, hf] at hs
      split at hs
      · next hready =>
          cases hs
          refine h.keep ho hk (by rw [hpc, hf]; rfl) rfl hself (.inl rfl) (.inl rfl)
            (trusts_in_hand rfl trivial fun hcb => ?_)
          refine (hlends hcb).resolve_right fun hfinished => ?_
          rw [hready] at hfinished
          cases hfinished.1
      · split at hs <;> cases hs
        · next hfinished =>
            cases cb with
            | true =>
                exact h.keep ho hk (by rw [hpc, hf]; rfl) rfl rfl (.inr rfl) (.inl rfl)
                  (trusts_let_go rfl fun _ => spare_new)
            | false =>
                refine h.keep ho hk (by rw [hpc, hf]; rfl) rfl hself (.inr rfl) (.inl rfl)
                  (trusts_let_go rfl fun hcb => ⟨?_, ((hlends hcb).resolve_left Bool.false_ne_true).2⟩)
                rw [Fiber.resettable, hfinished, Bool.true_or]
        · next hfinished =>
            refine h.keep ho hk (by rw [hpc, hf]; rfl) rfl hself (.inl rfl) (.inl rfl)
              (trusts_in_hand rfl trivial fun hcb => ?_)
            exact (hlends hcb).resolve_right fun hends => hfinished hends.1
  | push g cb =>
      rw [hpc] at hlends
      simp only [hpc, Pc.fiber, Option.some.injEq] at hf
      simp only [hpc, Scheduler.resume, hf] at hs
      cases hs
      exact h.part ho hk (by rw [hpc, hf]; rfl) rfl hself rfl rfl hlends
  | hold g cb =>
      rw [hpc] at hlends
      simp only [hpc, Pc.fiber, Option.some.injEq] at hf
      simp only [hpc, Scheduler.resume, hf] at hs
      cases hs
      exact h.part ho hk (by rw [hpc, hf]; rfl) rfl rfl rfl rfl hlends
  | _ => simp [hpc, Scheduler.resume] at hs

theorem Trusted.begin (h : s.Trusted) (ho : s.Owned) (hk : s.workers[w]? = some k) {ft : FiberAndThread}
    (hpc : k.pc = .taken ft) (hs : s.begin w k ft.task = .next s') : s'.Trusted := by
  obtain ⟨task, thread⟩ := ft
  cases task with
  | fiber f =>
      have hf : k.pc.fiber = some f := by rw [hpc]; rfl
      simp only [Scheduler.begin] at hs
      split at hs
      · cases hs
      · next x hx =>
          have hlends := fun hcb => (h w k f x hk hx).lends hcb hf
          rw [hpc] at hlends
          cases hs
          by_cases hfinished : x.m_state.finished = true
          · refine h.keep ho hk hf rfl (set_of_getElem? hx).symm (.inr ?_) (.inl rfl) (trusts_let_go ?_ hlends)
            · rw [if_pos hfinished]
              rfl
            · rw [if_pos hfinished]
              rfl
          · refine h.keep ho hk hf rfl (set_of_getElem? hx).symm (.inl ?_) (.inl rfl) (trusts_in_hand ?_ ?_ ?_)
            · rw [if_neg hfinished]
              rfl
            · rw [if_neg hfinished]
              rfl
            · rw [if_neg hfinished]
              trivial
            · rw [if_neg hfinished]
              exact fun hcb => .inr (hlends hcb)
  | cb =>
      have hnone : k.pc.fiber = none := by rw [hpc]; rfl
      have hold : ∀ (f g : Nat), k.pc.fiber = some g → g = f := by
        intro f g hg
        cases hnone.symm.trans hg
      have hnew : ∀ f g, (Pc.swapIn f true).fiber = some g → g = f := by
        intro f g hg
        cases hg
        rfl
      have hown : ∀ (f : Nat) (cb : Option Nat) (t : Bool),
          Worker.Trusts { pc := .swapIn f true, cb_fiber := cb, idleTerm := t } f (Fiber.new true) :=
        fun f cb t => trusts_in_hand rfl trivial fun _ => .inl rfl
      simp only [Scheduler.begin] at hs
      split at hs
      · next f hcb =>
          split at hs
          · cases hs
          split at hs <;> cases hs
          have hholds : k.Holds f := .inr hcb
          exact h.move hk (ho.made w k f hk hholds) (ho.unique w k f hk hholds) (hold f) rfl rfl (hnew f)
            (fun g hg => .inr hg) (hown f _ _)
      · next hcb =>
          cases hs
          -- first the new fiber, then the worker that takes it
          have h₁ : Trusted { s with fibers := s.fibers ++ [Fiber.new true] } := h.grow ho [Fiber.new true] rfl rfl
          have hfree : FreeFor { s with fibers := s.fibers ++ [Fiber.new true] } w s.fibers.length :=
            fun w' k' hk' _ hh => Nat.lt_irrefl _ (ho.made w' k' _ hk' hh)
          refine h₁.move hk (by simp) hfree (hold _) rfl ?_ (hnew _) ?_ (hown _ _ _)
          · exact (set_of_getElem? (x := Fiber.new true) List.getElem?_concat_length).symm
          · intro g hg
            exact .inl (Option.some.inj hg).symm

theorem Trusted.scan (h : s.Trusted) (ho : s.Owned) (hok : s.RemovesFree (.run w)) (hk : s.workers[w]? = some k)
    (hpc : k.pc = .scan) {ft : FiberAndThread} {fts : List FiberAndThread}
    (ht : s.takeFirst w s.m_fibers = some (ft, fts)) (hw : s'.workers = s.workers.set w { k with pc := .taken ft })
    (hset : s'.fibers = s.fibers) : s'.Trusted := by
  have hnone : k.pc.fiber = none := by rw [hpc]; rfl
  obtain ⟨task, thread⟩ := ft
  cases task with
  | cb => exact h.rest hk hnone hw hset rfl rfl
  | fiber f =>
      have hf : f < s.fibers.length := by
        simpa [FiberOrCb.made] using ho.queue _ (takeFirst_spec ht).2.1
      have hx := List.getElem?_eq_getElem hf
      refine h.move hk hf (hok k hk hpc _ ht f rfl) ?_ hw (hset.trans (set_of_getElem? hx).symm) ?_ ?_ ?_
      · intro g hg
        cases hnone.symm.trans hg
      · intro g hg
        exact (Option.some.inj hg).symm
      · exact fun g hg => .inr hg
      · refine trusts_in_hand rfl trivial fun hcb => ?_
        refine (h w k f _ hk hx).spare hcb ?_
        simp [hnone]

/-- From swapIn on the worker has a fiber and goes on with resume. -/
theorem Trusted.resume_opt (h : s.Trusted) (ho : s.Owned) (hk : s.workers[w]? = some k)
    (hs : (match k.pc.fiber.bind fun f => s.fibers[f]? with
      | some x => s.resume w k x k.pc
      | none => .blocked) = .next s') : s'.Trusted := by
  cases hf : k.pc.fiber with
  | none => simp [hf] at hs
  | some f =>
      cases hx : s.fibers[f]? with
      | none => simp [hf, hx] at hs
      | some x =>
          simp only [hf, hx, Option.bind_some] at hs
          exact h.resume ho hk hf hx hs

theorem Trusted.run (h : s.Trusted) (ho : s.Owned) (hok : s.RemovesFree (.run w)) (hk : s.workers[w]? = some k)
    (hs : s.run w k = .next s') : s'.Trusted := by
  cases hpc : k.pc with
  | scan =>
      simp only [hpc, Scheduler.run] at hs
      split at hs
      · next ft fts ht =>
          cases hs
          exact h.scan ho hok hk hpc ht rfl rfl
      · cases hs
        exact h.rest hk (by rw [hpc]; rfl) rfl rfl rfl rfl
  | taken ft =>
      simp only [hpc, Scheduler.run] at hs
      exact h.begin ho hk hpc hs
  | drop =>
      simp only [hpc, Scheduler.run] at hs
      cases hs
      exact h.rest hk (by rw [hpc]; rfl) rfl rfl rfl rfl
  | idle =>
      simp only [hpc, Scheduler.run] at hs
      split at hs <;> cases hs <;> exact h.rest hk (by rw [hpc]; rfl) rfl rfl rfl rfl
  | exited => simp [hpc, Scheduler.run] at hs
  | _ =>
      simp only [hpc, Scheduler.run] at hs
      apply h.resume_opt ho hk
      rw [hpc]
      exact hs

theorem Trusted.body (h : s.Trusted) (ho : s.Owned) (hk : s.workers[w]? = some k) {cb : Bool} {b : Body}
    (hpc : k.pc = .exec f cb) (hx : s.fibers[f]? = some x) (hs : s.body w k f cb x b = .next s') : s'.Trusted := by
  have hf : k.pc.fiber = some f := by rw [hpc]; rfl
  have hlends := fun hcb => (h w k f x hk hx).lends hcb hf
  rw [hpc] at hlends
  simp only [Scheduler.body] at hs
  split at hs
  · cases hs
  next hthrows =>
  split at hs
  · split at hs <;> cases hs
    exact h.grow ho [] rfl (by simp)
  · cases hs
    refine h.keep ho hk hf rfl rfl (.inl rfl) (.inl rfl) (trusts_in_hand rfl trivial fun hcb => ?_)
    refine (hlends hcb).imp_right fun hgone => ?_
    -- without a function all it does is throw
    obtain rfl : b = .throws := by simpa [hgone] using hthrows
    exact ⟨rfl, hgone⟩

theorem Trusted.step (h : s.Trusted) (ho : s.Owned) {a : Action} (hok : s.RemovesFree a)
    (hs : s.step a = .next s') : s'.Trusted := by
  cases a with
  | newFiber =>
      cases hs
      exact h.grow ho [Fiber.new true] rfl rfl
  | stop_autoStop =>
      cases hs
      exact h.grow ho [] rfl (by simp)
  | schedule | dispatch | stop_stopping =>
      simp only [Scheduler.step] at hs
      split at hs <;> cases hs
      exact h.grow ho [] rfl (by simp [scheduleNoLock])
  | scheduleAll fcs =>
      simp only [Scheduler.step, scheduleAll_fields] at hs
      split at hs <;> cases hs
      exact h.grow ho [] rfl (by simp)
  | run w =>
      simp only [Scheduler.step] at hs
      split at hs
      · next k hk => exact h.run ho hok hk hs
      · cases hs
  | body w b =>
      simp only [Scheduler.step] at hs
      split at hs
      · next k hk =>
          split at hs
          · next hpc =>
              split at hs
              · next hx => exact h.body ho hk hpc hx hs
              · cases hs
          · cases hs
      · cases hs

theorem init_trusted (threads : Nat) : (init threads).Trusted := by
  intro w k g x _ hx
  simp [init] at hx

/-- The fibers have their owners, and every worker can rely on its own. -/
structure Sound (s : Scheduler) : Prop where
  owned : s.Owned
  trusted : s.Trusted

theorem Sound.step (h : s.Sound) {a : Action} (hok : s.RemovesFree a) (hs : s.step a = .next s') : s'.Sound :=
  ⟨h.owned.step hok hs, h.trusted.step h.owned hok hs⟩

theorem reach_sound {threads : Nat} (h : (system threads).Reach RemovesFree s) : s.Sound :=
  h.invariant ⟨init_owned threads, init_trusted threads⟩ fun _ _ _ hs hok hstep => hs.step hok hstep

end Mingfwq.Scheduler
