import Mingfwq.Scheduler.Lemmas.Steps

/-!
# Who has a fiber

As long as the scan removes a fiber only when no other worker has it, a fiber has one owner at a time, and the
owner finds its context saved when it resumes it.
-/

namespace Mingfwq.Scheduler

open Lib

variable {s s' : Scheduler} {w f : Nat} {k k' : Worker} {x x' : Fiber}

/-- No worker but `w` has fiber `f`. -/
def FreeFor (s : Scheduler) (w f : Nat) : Prop :=
  ∀ w' k, s.workers[w']? = some k → w' ≠ w → ¬k.Holds f

def FiberOrCb.toFiber : FiberOrCb → Option Nat
  | .fiber f => some f
  | .cb => none

/-- The scan removes an entry of a fiber only when no other worker is still in the iteration that ran it. -/
def RemovesFree (s : Scheduler) : Action → Prop
  | .run w => ∀ k ∈ s.workers[w]?, k.pc = .scan →
      ∀ q ∈ s.takeFirst w s.m_fibers, ∀ f ∈ q.1.task.toFiber, s.FreeFor w f
  | _ => True

instance (s : Scheduler) (w f : Nat) : Decidable (s.FreeFor w f) :=
  decidable_of_iff (∀ q ∈ s.workers.zipIdx, q.2 ≠ w → ¬q.1.Holds f)
    ⟨fun h w' k hk => h (k, w') (List.mk_mem_zipIdx_iff_getElem?.mpr hk),
      fun h q hq => h q.2 q.1 (List.mem_zipIdx_iff_getElem?.mp hq)⟩

instance (s : Scheduler) : (a : Action) → Decidable (s.RemovesFree a)
  | .run w => inferInstanceAs (Decidable (∀ k ∈ s.workers[w]?, k.pc = .scan →
      ∀ q ∈ s.takeFirst w s.m_fibers, ∀ f ∈ q.1.task.toFiber, s.FreeFor w f))
  | .newFiber | .schedule _ _ | .scheduleAll _ | .dispatch _ | .stop_autoStop | .stop_stopping | .body _ _ =>
      inferInstanceAs (Decidable True)

/-- What a worker relies on in the fiber it has in hand. -/
def Pc.Expects (x : Fiber) : Pc → Prop
  | .taken _ | .swapIn _ _ => x.m_state ≠ .EXEC ∧ x.saved = true
  | .exec _ _ | .save _ _ => True
  | _ => x.saved = true

structure Owned (s : Scheduler) : Prop where
  queue : ∀ ft ∈ s.m_fibers, ft.task.made s
  waiting : ∀ f ∈ s.waiting, f < s.fibers.length
  made : ∀ (w : Nat) (k : Worker) (f : Nat), s.workers[w]? = some k → k.Holds f → f < s.fibers.length
  unique : ∀ (w : Nat) (k : Worker) (f : Nat), s.workers[w]? = some k → k.Holds f → s.FreeFor w f
  expects : ∀ (w : Nat) (k : Worker) (f : Nat) (x : Fiber), s.workers[w]? = some k → k.pc.fiber = some f →
    s.fibers[f]? = some x → k.pc.Expects x
  saved : ∀ f x, s.fibers[f]? = some x → (∀ (w : Nat) (k : Worker), s.workers[w]? = some k → k.pc.fiber ≠ some f) →
    x.saved = true

theorem made_mono {fc : FiberOrCb} (h : fc.made s) (hlen : s.fibers.length ≤ s'.fibers.length) : fc.made s' := by
  cases fc with
  | fiber f =>
      simp only [FiberOrCb.made, decide_eq_true_eq] at h ⊢
      exact Nat.lt_of_lt_of_le h hlen
  | cb => rfl

/-- Steps that add fibers, entries or waiters but move no worker. -/
theorem Owned.grow (h : s.Owned) (fresh : List Fiber) (hw : s'.workers = s.workers)
    (hf : s'.fibers = s.fibers ++ fresh) (hfresh : ∀ x ∈ fresh, x.saved = true)
    (hq : ∀ ft ∈ s'.m_fibers, ft.task.made s') (hwait : ∀ f ∈ s'.waiting, f < s'.fibers.length) : s'.Owned := by
  have hlen : s.fibers.length ≤ s'.fibers.length := by
    rw [hf, List.length_append]
    exact Nat.le_add_right ..
  refine ⟨hq, hwait, ?_, ?_, ?_, ?_⟩
  · intro w k f hk hh
    rw [hw] at hk
    exact Nat.lt_of_lt_of_le (h.made w k f hk hh) hlen
  · intro w k f hk hh
    rw [FreeFor, hw]
    rw [hw] at hk
    exact h.unique w k f hk hh
  · intro w k f x hk hpc hx
    rw [hw] at hk
    rw [hf, List.getElem?_append_left (h.made w k f hk (.inl hpc))] at hx
    exact h.expects w k f x hk hpc hx
  · intro f x hx hno
    rw [hw] at hno
    rw [hf, List.getElem?_append] at hx
    split at hx
    · exact h.saved f x hx hno
    · exact hfresh x (List.mem_of_getElem? hx)

/-- A step of worker `w` that concerns no fiber but `f`, which no other worker has. -/
theorem Owned.move (h : s.Owned) (hk : s.workers[w]? = some k) (hf : f < s.fibers.length)
    (hfree : s.FreeFor w f) (hold : ∀ g, k.pc.fiber = some g → g = f)
    (hw : s'.workers = s.workers.set w k') (hset : s'.fibers = s.fibers.set f x')
    (hq : ∀ ft ∈ s'.m_fibers, ft.task.made s) (hwait : s'.waiting = s.waiting)
    (hnew : ∀ g, k'.Holds g → g = f ∨ k.Holds g) (hpc : ∀ g, k'.pc.fiber = some g → g = f)
    (hexp : k'.pc.fiber = some f → k'.pc.Expects x') (hsaved : k'.pc.fiber ≠ some f → x'.saved = true) :
    s'.Owned := by
  have hlen : s'.fibers.length = s.fibers.length := by rw [hset, List.length_set]
  have hworker : ∀ w', s'.workers[w']? = if w' = w then some k' else s.workers[w']? := by
    intro w'
    rw [hw, getElem?_set_of_some hk]
  have hfiber : ∀ g, s'.fibers[g]? = if g = f then some x' else s.fibers[g]? := by
    intro g
    rw [hset, getElem?_set_of_some (List.getElem?_eq_getElem hf)]
  refine ⟨fun ft hft => made_mono (hq ft hft) (Nat.le_of_eq hlen.symm), ?_, ?_, ?_, ?_, ?_⟩
  · intro g hg
    rw [hlen]
    exact h.waiting g (hwait ▸ hg)
  · intro w' k₁ g hk₁ hh
    rw [hlen]
    rw [hworker] at hk₁
    split at hk₁
    · cases hk₁
      rcases hnew g hh with rfl | hh
      · exact hf
      · exact h.made w k g hk hh
    · exact h.made w' k₁ g hk₁ hh
  · intro w₁ k₁ g hk₁ hh₁ w₂ k₂ hk₂ hne hh₂
    rw [hworker] at hk₁ hk₂
    -- who held `g` before the step: `w` may just have taken it, and then it is `f`
    split at hk₁
    · next heq =>
      cases hk₁
      rw [if_neg (heq ▸ hne)] at hk₂
      rcases hnew g hh₁ with rfl | hh
      · exact hfree w₂ k₂ hk₂ (heq ▸ hne) hh₂
      · exact h.unique w k g hk hh w₂ k₂ hk₂ (heq ▸ hne) hh₂
    · next hne₁ =>
      split at hk₂
      · next heq =>
        cases hk₂
        rcases hnew g hh₂ with rfl | hh
        · exact hfree w₁ k₁ hk₁ hne₁ hh₁
        · exact h.unique w k g hk hh w₁ k₁ hk₁ hne₁ hh₁
      · exact h.unique w₁ k₁ g hk₁ hh₁ w₂ k₂ hk₂ hne hh₂
  · intro w' k₁ g y hk₁ hpc₁ hy
    rw [hworker] at hk₁
    rw [hfiber] at hy
    split at hk₁
    · cases hk₁
      obtain rfl := hpc g hpc₁
      rw [if_pos rfl] at hy
      cases hy
      exact hexp hpc₁
    · next hne =>
      have hgf : g ≠ f := by
        rintro rfl
        exact hfree w' k₁ hk₁ hne (.inl hpc₁)
      rw [if_neg hgf] at hy
      exact h.expects w' k₁ g y hk₁ hpc₁ hy
  · intro g y hy hno
    rw [hfiber] at hy
    split at hy
    · next heq =>
      cases hy
      subst heq
      exact hsaved (hno w k' (by rw [hworker, if_pos rfl]))
    · next hgf =>
      refine h.saved g y hy fun w' k₁ hk₁ => ?_
      by_cases hw' : w' = w
      · subst hw'
        rw [hk] at hk₁
        cases hk₁
        exact fun hpc₁ => hgf (hold g hpc₁)
      · exact hno w' k₁ (by rw [hworker, if_neg hw']; exact hk₁)

/-- A step of worker `w` from a place without a fiber to another, which changes no fiber. -/
theorem Owned.rest (h : s.Owned) (hk : s.workers[w]? = some k) (hpc : k.pc.fiber = none)
    (hw : s'.workers = s.workers.set w k') (hset : s'.fibers = s.fibers)
    (hq : ∀ ft ∈ s'.m_fibers, ft ∈ s.m_fibers) (hwait : s'.waiting = s.waiting) (hpc' : k'.pc.fiber = none)
    (hcb : k'.cb_fiber = k.cb_fiber) : s'.Owned := by
  have hworker : ∀ (w' : Nat) (k₁ : Worker), s'.workers[w']? = some k₁ →
      ∃ k₂, s.workers[w']? = some k₂ ∧ k₂.pc.fiber = k₁.pc.fiber ∧ k₂.cb_fiber = k₁.cb_fiber ∧
        (k₁.pc.fiber = none ∨ k₂ = k₁) := by
    intro w' k₁ hk₁
    rw [hw, getElem?_set_of_some hk] at hk₁
    split at hk₁
    · next heq =>
      cases hk₁
      exact ⟨k, heq ▸ hk, by rw [hpc, hpc'], hcb.symm, .inl hpc'⟩
    · exact ⟨k₁, hk₁, rfl, rfl, .inr rfl⟩
  have hholds : ∀ (w' : Nat) (k₁ : Worker), s'.workers[w']? = some k₁ →
      ∃ k₂, s.workers[w']? = some k₂ ∧ ∀ g, k₁.Holds g → k₂.Holds g := by
    intro w' k₁ hk₁
    obtain ⟨k₂, hk₂, hf, hc, -⟩ := hworker w' k₁ hk₁
    exact ⟨k₂, hk₂, fun g hg => by rwa [Worker.Holds, hf, hc]⟩
  refine ⟨fun ft hft => made_mono (h.queue ft (hq ft hft)) (Nat.le_of_eq (by rw [hset])), ?_, ?_, ?_, ?_, ?_⟩
  · intro g hg
    rw [hset]
    exact h.waiting g (hwait ▸ hg)
  · intro w' k₁ g hk₁ hh
    obtain ⟨k₂, hk₂, hh₂⟩ := hholds w' k₁ hk₁
    rw [hset]
    exact h.made w' k₂ g hk₂ (hh₂ g hh)
  · intro w₁ k₁ g hk₁ hg₁ w₂ k₂ hk₂ hne hg₂
    obtain ⟨k₁', hk₁', hh₁⟩ := hholds w₁ k₁ hk₁
    obtain ⟨k₂', hk₂', hh₂⟩ := hholds w₂ k₂ hk₂
    exact h.unique w₁ k₁' g hk₁' (hh₁ g hg₁) w₂ k₂' hk₂' hne (hh₂ g hg₂)
  · intro w' k₁ g y hk₁ hg hy
    obtain ⟨k₂, hk₂, -, -, hor⟩ := hworker w' k₁ hk₁
    rw [hset] at hy
    rcases hor with hnone | rfl
    · rw [hnone] at hg
      cases hg
    · exact h.expects w' k₂ g y hk₂ hg hy
  · intro g y hy hno
    rw [hset] at hy
    refine h.saved g y hy fun w' k₁ hk₁ hg => ?_
    by_cases hw' : w' = w
    · subst hw'
      rw [hk] at hk₁
      cases hk₁
      rw [hpc] at hg
      cases hg
    · exact hno w' k₁ (by rw [hw, getElem?_set_of_some hk, if_neg hw']; exact hk₁) hg

/-! ## The steps -/

/-- A step of a worker that has fiber `f` in hand and keeps it or lets it go. -/
theorem Owned.keep (h : s.Owned) (hk : s.workers[w]? = some k) (hpc : k.pc.fiber = some f)
    (hw : s'.workers = s.workers.set w k') (hset : s'.fibers = s.fibers.set f x')
    (hq : ∀ ft ∈ s'.m_fibers, ft.task.made s) (hwait : s'.waiting = s.waiting)
    (hpc' : k'.pc.fiber = some f ∨ k'.pc.fiber = none) (hcb : k'.cb_fiber = k.cb_fiber ∨ k'.cb_fiber = none)
    (hexp : k'.pc.fiber = some f → k'.pc.Expects x') (hsaved : k'.pc.fiber = none → x'.saved = true) :
    s'.Owned := by
  have hk' : ∀ g, k'.pc.fiber = some g → g = f := by
    intro g hg
    rcases hpc' with h' | h' <;> rw [h'] at hg <;> cases hg
    rfl
  refine h.move hk (h.made w k f hk (.inl hpc)) (h.unique w k f hk (.inl hpc)) ?_ hw hset hq hwait ?_ hk' hexp ?_
  · intro g hg
    rw [hpc] at hg
    cases hg
    rfl
  · rintro g (hg | hg)
    · exact .inl (hk' g hg)
    · rcases hcb with hcb | hcb <;> rw [hcb] at hg
      · exact .inr (.inr hg)
      · cases hg
  · intro hne
    rcases hpc' with h' | h'
    · exact absurd h' hne
    · exact hsaved h'

theorem Owned.resume (h : s.Owned) (hk : s.workers[w]? = some k) (hf : k.pc.fiber = some f)
    (hx : s.fibers[f]? = some x) (hs : s.resume w k x k.pc = .next s') : s'.Owned := by
  have hexp := h.expects w k f x hk hf hx
  have hself : s.fibers = s.fibers.set f x := (set_of_getElem? hx).symm
  cases hpc : k.pc with
  | swapIn g cb =>
      rw [hpc] at hexp
      simp only [hpc, Pc.fiber, Option.some.injEq] at hf
      simp only [hpc, Scheduler.resume, hf] at hs
      split at hs <;> cases hs
      exact h.keep hk (by rw [hpc, hf]; rfl) rfl rfl h.queue rfl (.inl rfl) (.inl rfl) (fun _ => hexp.2) nofun
  | restore g cb =>
      simp only [hpc, Pc.fiber, Option.some.injEq] at hf
      simp only [hpc, Scheduler.resume, hf] at hs
      split at hs <;> cases hs
      exact h.keep hk (by rw [hpc, hf]; rfl) rfl rfl h.queue rfl (.inl rfl) (.inl rfl) (fun _ => trivial) nofun
  | save g cb =>
      simp only [hpc, Pc.fiber, Option.some.injEq] at hf
      simp only [hpc, Scheduler.resume, hf] at hs
      cases hs
      exact h.keep hk (by rw [hpc, hf]; rfl) rfl rfl h.queue rfl (.inl rfl) (.inl rfl) (fun _ => rfl) nofun
  | back g cb =>
      rw [hpc] at hexp
      simp only [hpc, Pc.fiber, Option.some.injEq] at hf
      simp only [hpc, Scheduler.resume, hf] at hs
      cases hs
      exact h.keep hk (by rw [hpc, hf]; rfl) rfl hself h.queue rfl (.inl rfl) (.inl rfl) (fun _ => hexp) nofun
  | test g cb =>
      rw [hpc] at hexp
      simp only [hpc, Pc.fiber, Option.some.injEq] at hf
      simp only [hpc, Scheduler.resume, hf] at hs
      split at hs
      · cases hs
        exact h.keep hk (by rw [hpc, hf]; rfl) rfl hself h.queue rfl (.inl rfl) (.inl rfl) (fun _ => hexp) nofun
      split at hs <;> cases hs
      · cases cb with
        | true =>
            exact h.keep hk (by rw [hpc, hf]; rfl) rfl rfl h.queue rfl (.inr rfl) (.inl rfl) nofun fun _ => rfl
        | false =>
            exact h.keep hk (by rw [hpc, hf]; rfl) rfl hself h.queue rfl (.inr rfl) (.inl rfl) nofun fun _ => hexp
      · exact h.keep hk (by rw [hpc, hf]; rfl) rfl hself h.queue rfl (.inl rfl) (.inl rfl) (fun _ => hexp) nofun
  | push g cb =>
      rw [hpc] at hexp
      have hmade := h.made w k f hk (.inl hf)
      simp only [hpc, Pc.fiber, Option.some.injEq] at hf
      simp only [hpc, Scheduler.resume, hf] at hs
      cases hs
      refine h.keep hk (by rw [hpc, hf]; rfl) rfl hself ?_ rfl (.inr rfl) ?_ nofun fun _ => hexp
      · intro ft hft
        rcases List.mem_append.mp hft with hft | hft
        · exact h.queue ft hft
        · rw [List.mem_singleton] at hft
          rw [hft]
          exact decide_eq_true hmade
      · cases cb
        · exact .inl rfl
        · exact .inr rfl
  | hold g cb =>
      rw [hpc] at hexp
      simp only [hpc, Pc.fiber, Option.some.injEq] at hf
      simp only [hpc, Scheduler.resume, hf] at hs
      cases hs
      refine h.keep hk (by rw [hpc, hf]; rfl) rfl rfl h.queue rfl (.inr rfl) ?_ nofun fun _ => hexp
      cases cb
      · exact .inl rfl
      · exact .inr rfl
  | _ => simp [hpc, Scheduler.resume] at hs

/-- The context a worker is about to restore is saved, and the fiber it is about to enter is not executing. -/
theorem Owned.resume_safe (h : s.Owned) (hk : s.workers[w]? = some k) (hf : k.pc.fiber = some f)
    (hx : s.fibers[f]? = some x) :
    s.resume w k x k.pc ≠ .abort .swapIn ∧ s.resume w k x k.pc ≠ .abort .restore := by
  have hexp := h.expects w k f x hk hf hx
  cases hpc : k.pc <;> simp only [Scheduler.resume, ne_eq, reduceCtorEq, not_false_eq_true, and_self]
  case swapIn =>
    rw [hpc] at hexp
    simp [hexp.1]
  case restore =>
    rw [hpc] at hexp
    simp [show x.saved = true from hexp]
  case test =>
    split
    · simp
    · split <;> simp

theorem new_expects (m_cb : Bool) (f : Nat) (cb : Bool) : (Pc.swapIn f cb).Expects (Fiber.new m_cb) :=
  ⟨nofun, rfl⟩

theorem Owned.begin (h : s.Owned) (hk : s.workers[w]? = some k) {ft : FiberAndThread}
    (hpc : k.pc = .taken ft) (hs : s.begin w k ft.task = .next s') : s'.Owned := by
  obtain ⟨task, thread⟩ := ft
  cases task with
  | fiber f =>
      have hf : k.pc.fiber = some f := by rw [hpc]; rfl
      simp only [Scheduler.begin] at hs
      split at hs
      · cases hs
      · next x hx =>
        have hexp := h.expects w k f x hk hf hx
        rw [hpc] at hexp
        cases hs
        refine h.keep hk hf rfl (set_of_getElem? hx).symm h.queue rfl ?_ (.inl rfl) ?_ fun _ => hexp.2
        · split
          · exact .inr rfl
          · exact .inl rfl
        · intro _
          split
          · exact hexp.2
          · exact hexp
  | cb =>
      have hnone : k.pc.fiber = none := by rw [hpc]; rfl
      have hold : ∀ (f g : Nat), k.pc.fiber = some g → g = f := by
        intro f g hg
        rw [hnone] at hg
        cases hg
      have hnew : ∀ f g, (Pc.swapIn f true).fiber = some g → g = f := by
        intro f g hg
        cases hg
        rfl
      simp only [Scheduler.begin] at hs
      split at hs
      · next f hcb =>
        split at hs
        · cases hs
        split at hs <;> cases hs
        have hholds : k.Holds f := .inr hcb
        refine h.move hk (h.made w k f hk hholds) (h.unique w k f hk hholds) (hold f) rfl rfl h.queue rfl ?_
          (hnew f) (fun _ => new_expects true f true) fun hne => absurd rfl hne
        rintro g (hg | hg)
        · exact .inl (hnew f g hg)
        · exact .inr (.inr hg)
      · next hcb =>
        cases hs
        -- first the new fiber, then the worker that takes it
        have h₁ : Owned { s with fibers := s.fibers ++ [Fiber.new true] } := by
          refine h.grow [Fiber.new true] rfl rfl ?_ ?_ ?_
          · intro x hx
            rw [List.mem_singleton.mp hx]
            rfl
          · exact fun ft hft => made_mono (h.queue ft hft) (by simp)
          · intro f hf
            have := h.waiting f hf
            simp only [List.length_append, List.length_singleton]
            omega
        have hfree : FreeFor { s with fibers := s.fibers ++ [Fiber.new true] } w s.fibers.length :=
          fun w' k' hk' _ hh => Nat.lt_irrefl _ (h.made w' k' _ hk' hh)
        refine h₁.move hk (by simp) hfree (hold _) rfl ?_ h₁.queue rfl ?_
          (hnew _) (fun _ => new_expects true _ true) fun hne => absurd rfl hne
        · exact (set_of_getElem? (x := Fiber.new true) List.getElem?_concat_length).symm
        · rintro g (hg | hg)
          · exact .inl (hnew _ g hg)
          · cases hg
            exact .inl rfl

theorem Owned.scan (h : s.Owned) (hok : s.RemovesFree (.run w)) (hk : s.workers[w]? = some k)
    (hpc : k.pc = .scan) {ft : FiberAndThread} {fts : List FiberAndThread}
    (ht : s.takeFirst w s.m_fibers = some (ft, fts)) (hw : s'.workers = s.workers.set w { k with pc := .taken ft })
    (hset : s'.fibers = s.fibers) (hq : s'.m_fibers = fts) (hwait : s'.waiting = s.waiting) : s'.Owned := by
  obtain ⟨hskip, hmem, hrest⟩ := takeFirst_spec ht
  obtain ⟨task, thread⟩ := ft
  have hnone : k.pc.fiber = none := by rw [hpc]; rfl
  cases task with
  | cb => exact h.rest hk hnone hw hset (fun ft hft => hrest ft (hq ▸ hft)) hwait rfl rfl
  | fiber f =>
      have hfree := hok k hk hpc _ ht f rfl
      have hf : f < s.fibers.length := by simpa [FiberOrCb.made] using h.queue _ hmem
      have hx := List.getElem?_eq_getElem hf
      have hexec : (s.fibers[f]).m_state ≠ .EXEC := by
        intro he
        simp [skips, hx, he] at hskip
      have hsaved : (s.fibers[f]).saved = true := by
        refine h.saved f _ hx fun w' k' hk' hpc' => ?_
        by_cases hne : w' = w
        · subst hne
          rw [hk] at hk'
          cases hk'
          rw [hnone] at hpc'
          cases hpc'
        · exact hfree w' k' hk' hne (.inl hpc')
      have hnew : ∀ g, (Pc.taken ⟨.fiber f, thread⟩).fiber = some g → g = f := by
        intro g hg
        cases hg
        rfl
      refine h.move hk hf hfree ?_ hw (hset.trans (set_of_getElem? hx).symm)
        (fun ft hft => h.queue ft (hrest ft (hq ▸ hft))) hwait ?_ hnew (fun _ => ⟨hexec, hsaved⟩)
        fun hne => absurd rfl hne
      · intro g hg
        rw [hnone] at hg
        cases hg
      · rintro g (hg | hg)
        · exact .inl (hnew g hg)
        · exact .inr (.inr hg)

/-- From swapIn on the worker has a fiber and goes on with resume. -/
theorem Owned.resume_opt (h : s.Owned) (hk : s.workers[w]? = some k)
    (ho : (match k.pc.fiber.bind fun f => s.fibers[f]? with
      | some x => s.resume w k x k.pc
      | none => .blocked) = .next s') : s'.Owned := by
  cases hf : k.pc.fiber with
  | none => simp [hf] at ho
  | some f =>
      cases hx : s.fibers[f]? with
      | none => simp [hf, hx] at ho
      | some x =>
          simp only [hf, hx, Option.bind_some] at ho
          exact h.resume hk hf hx ho

theorem Owned.run (h : s.Owned) (hok : s.RemovesFree (.run w)) (hk : s.workers[w]? = some k)
    (hs : s.run w k = .next s') : s'.Owned := by
  cases hpc : k.pc with
  | scan =>
      simp only [hpc, Scheduler.run] at hs
      split at hs
      · next ft fts ht =>
        cases hs
        exact h.scan hok hk hpc ht rfl rfl rfl rfl
      · cases hs
        exact h.rest hk (by rw [hpc]; rfl) rfl rfl (fun _ => id) rfl rfl rfl
  | taken ft =>
      simp only [hpc, Scheduler.run] at hs
      exact h.begin hk hpc hs
  | drop =>
      simp only [hpc, Scheduler.run] at hs
      cases hs
      exact h.rest hk (by rw [hpc]; rfl) rfl rfl (fun _ => id) rfl rfl rfl
  | idle =>
      simp only [hpc, Scheduler.run] at hs
      split at hs <;> cases hs <;> exact h.rest hk (by rw [hpc]; rfl) rfl rfl (fun _ => id) rfl rfl rfl
  | exited => simp [hpc, Scheduler.run] at hs
  | _ =>
      simp only [hpc, Scheduler.run] at hs
      apply h.resume_opt hk
      rw [hpc]
      exact hs

theorem Owned.body (h : s.Owned) (hk : s.workers[w]? = some k) {cb : Bool} {b : Body} (hpc : k.pc = .exec f cb)
    (hs : s.body w k f cb x b = .next s') : s'.Owned := by
  have hf : k.pc.fiber = some f := by rw [hpc]; rfl
  simp only [Scheduler.body] at hs
  split at hs
  · cases hs
  split at hs
  · split at hs <;> cases hs
    refine h.grow [] rfl (by simp) nofun h.queue fun g hg => ?_
    rcases List.mem_append.mp hg with hg | hg
    · exact h.waiting g hg
    · rw [List.mem_singleton.mp hg]
      exact h.made w k f hk (.inl hf)
  · cases hs
    exact h.keep hk hf rfl rfl h.queue rfl (.inl rfl) (.inl rfl) (fun _ => trivial) nofun

theorem Owned.step (h : s.Owned) {a : Action} (hok : s.RemovesFree a) (hs : s.step a = .next s') : s'.Owned := by
  have happend : ∀ fts : List FiberAndThread, (∀ ft ∈ fts, ft.task.made s) →
      ∀ ft ∈ s.m_fibers ++ fts, ft.task.made s := by
    intro fts hfts ft hft
    rcases List.mem_append.mp hft with hft | hft
    · exact h.queue ft hft
    · exact hfts ft hft
  cases a with
  | newFiber =>
      cases hs
      refine h.grow [Fiber.new true] rfl rfl ?_ ?_ ?_
      · intro x hx
        rw [List.mem_singleton.mp hx]
        rfl
      · exact fun ft hft => made_mono (h.queue ft hft) (by simp)
      · intro f hf
        have := h.waiting f hf
        simp only [List.length_append, List.length_singleton]
        omega
  | schedule fc thread =>
      simp only [Scheduler.step] at hs
      split at hs <;> cases hs
      next hmade =>
      refine h.grow [] rfl (by simp [scheduleNoLock]) nofun (happend [⟨fc, thread⟩] ?_) h.waiting
      exact fun ft hft => (List.mem_singleton.mp hft) ▸ hmade
  | scheduleAll fcs =>
      simp only [Scheduler.step, scheduleAll_fields] at hs
      split at hs <;> cases hs
      next hmade =>
      refine h.grow [] rfl (by simp) nofun (happend _ ?_) h.waiting
      intro ft hft
      obtain ⟨fc, hfc, rfl⟩ := List.mem_map.mp hft
      exact List.all_eq_true.mp hmade fc hfc
  | dispatch f =>
      simp only [Scheduler.step] at hs
      split at hs <;> cases hs
      next hmem =>
      refine h.grow [] rfl (by simp [scheduleNoLock]) nofun (happend [⟨.fiber f, none⟩] ?_) ?_
      · intro ft hft
        rw [List.mem_singleton.mp hft]
        exact decide_eq_true (h.waiting f hmem)
      · exact fun g hg => h.waiting g (List.mem_of_mem_erase hg)
  | stop_autoStop =>
      cases hs
      exact h.grow [] rfl (by simp) nofun h.queue h.waiting
  | stop_stopping =>
      simp only [Scheduler.step] at hs
      split at hs <;> cases hs
      exact h.grow [] rfl (by simp) nofun h.queue h.waiting
  | run w =>
      simp only [Scheduler.step] at hs
      split at hs
      · next k hk => exact h.run hok hk hs
      · cases hs
  | body w b =>
      simp only [Scheduler.step] at hs
      split at hs
      · next k hk =>
        split at hs
        · next hpc =>
          split at hs
          · exact h.body hk hpc hs
          · cases hs
        · cases hs
      · cases hs

theorem init_owned (threads : Nat) : (init threads).Owned := by
  have hworker : ∀ (w : Nat) (k : Worker), (init threads).workers[w]? = some k → ∀ f, ¬k.Holds f := by
    intro w k hk f hh
    have hmem := List.mem_of_getElem? hk
    simp only [init, List.mem_replicate] at hmem
    rw [hmem.2] at hh
    rcases hh with hh | hh <;> cases hh
  exact ⟨nofun, nofun, fun w k f hk hh => absurd hh (hworker w k hk f),
    fun w k f hk hh => absurd hh (hworker w k hk f),
    fun w k f x hk hf => absurd (.inl hf) (hworker w k hk f), fun f x hx => by simp [init] at hx⟩

theorem reach_owned {threads : Nat} (h : (system threads).Reach RemovesFree s) : s.Owned :=
  h.invariant (init_owned threads) fun _ _ _ ho hok hs => ho.step hok hs

end Mingfwq.Scheduler
