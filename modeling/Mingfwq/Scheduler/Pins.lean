import Mathlib.Logic.Function.Basic
import Mingfwq.Scheduler.Theorems

/-!
# Thread ids

The thread id stands in the entry of the queue, not in the fiber. What puts a fiber back on the queue gives none.
-/

namespace Mingfwq.Scheduler

open Lib

/-- The scheduler, with the thread id that each fiber, or the callback it runs, has last been scheduled with. -/
structure Pinned where
  scheduler : Scheduler
  pins : Nat → Option Nat

namespace Pinned

def pin (s : Pinned) : Action → Nat → Option Nat
  | .schedule (.fiber f) (some t) => Function.update s.pins f (some t)
  | .run w =>
      match s.scheduler.workers[w]? with
      | some ⟨.taken ⟨.cb, thread⟩, cb_fiber, _⟩ =>
          Function.update s.pins (cb_fiber.getD s.scheduler.fibers.length) thread
      | _ => s.pins
  | _ => s.pins

def step (s : Pinned) (a : Action) : Outcome Fault Pinned :=
  match s.scheduler.step a with
  | .next s' => .next ⟨s', s.pin a⟩
  | .abort e => .abort e
  | .blocked => .blocked

def system (threads : Nat) : System Pinned Action Fault where
  init := ⟨init threads, fun _ => none⟩
  step := step

/-- A fiber is executed on the thread it is pinned to. -/
def Respected (s : Pinned) : Prop :=
  ∀ (w : Nat) (k : Worker) (f t : Nat), s.scheduler.workers[w]? = some k → k.pc.executes f →
    s.pins f = some t → w = t

end Pinned

/-- No entry and no worker has fiber `f` that would execute it on another thread than `t`. -/
structure Pinnable (s : Scheduler) (f t : Nat) : Prop where
  queue : ∀ ft ∈ s.m_fibers, ft.task = .fiber f → ft.thread = some t
  workers : ∀ (w : Nat) (k : Worker), s.workers[w]? = some k → k.pc.fiber = some f → w = t

/-- A pinned fiber is not put on the queue without its thread id, and a fiber gets a thread id only where nothing is
under way that would execute it elsewhere. -/
def Pinned.Keeps (s : Pinned) : Action → Prop
  | .schedule (.fiber f) none => s.pins f = none
  | .schedule (.fiber f) (some t) => s.scheduler.Pinnable f t
  | .scheduleAll fcs => ∀ f, .fiber f ∈ fcs → s.pins f = none
  | .dispatch f => s.pins f = none
  | .run w => ∀ k, s.scheduler.workers[w]? = some k →
      (∀ f cb, k.pc = .push f cb → s.pins f = none) ∧
        ∀ t, k.pc = .taken ⟨.cb, some t⟩ → s.scheduler.Pinnable (k.cb_fiber.getD s.scheduler.fibers.length) t
  | _ => True

variable {s s' : Scheduler} {w : Nat} {k : Worker} {a : Action}

/-! ## What a step puts on the queue and into the hands of a worker -/

/-- Where an entry comes from that a step puts on the queue. -/
inductive Queues (s : Scheduler) : Action → FiberAndThread → Prop
  | schedule {fc : FiberOrCb} {thread : Option Nat} : Queues s (.schedule fc thread) ⟨fc, thread⟩
  | scheduleAll {fcs : List FiberOrCb} {fc : FiberOrCb} (hmem : fc ∈ fcs) : Queues s (.scheduleAll fcs) ⟨fc, none⟩
  | dispatch {f : Nat} : Queues s (.dispatch f) ⟨.fiber f, none⟩
  | push {w f : Nat} {cb : Bool} {k : Worker} (hk : s.workers[w]? = some k) (hpc : k.pc = .push f cb) :
      Queues s (.run w) ⟨.fiber f, none⟩

/-- Where worker `w` goes in a step, as far as the fiber in its hands is concerned. -/
inductive Goes (s : Scheduler) (a : Action) (w : Nat) (k : Worker) : Pc → Prop
  | leaves {pc : Pc} (hpc : pc.fiber = none) (hne : ∀ ft, pc ≠ .taken ft) : Goes s a w k pc
  | keeps {pc : Pc} (hpc : pc.fiber = k.pc.fiber) (hne : ∀ ft, pc ≠ .taken ft) : Goes s a w k pc
  | takes {ft : FiberAndThread} (hpc : k.pc = .scan) (hmem : ft ∈ s.m_fibers) (hskip : s.skips w ft = false) :
      Goes s a w k (.taken ft)
  | begins {thread : Option Nat} (ha : a = .run w) (hpc : k.pc = .taken ⟨.cb, thread⟩) :
      Goes s a w k (.swapIn (k.cb_fiber.getD s.fibers.length) true)

/-- A step puts only such entries on the queue, and moves no more than one worker. -/
structure Moved (s : Scheduler) (a : Action) (s' : Scheduler) : Prop where
  queue : ∀ ft ∈ s'.m_fibers, ft ∈ s.m_fibers ∨ Queues s a ft
  workers : ∀ (w : Nat) (k' : Worker), s'.workers[w]? = some k' →
    s.workers[w]? = some k' ∨ ∃ k, s.workers[w]? = some k ∧ Goes s a w k k'.pc

theorem Moved.of_queue (hworkers : s'.workers = s.workers)
    (hqueue : ∀ ft ∈ s'.m_fibers, ft ∈ s.m_fibers ∨ Queues s a ft) : Moved s a s' :=
  ⟨hqueue, fun _ _ hk' => .inl (hworkers ▸ hk')⟩

theorem Moved.of_worker (hk : s.workers[w]? = some k) {k' : Worker} (hworkers : s'.workers = s.workers.set w k')
    (hgoes : Goes s a w k k'.pc) (hqueue : ∀ ft ∈ s'.m_fibers, ft ∈ s.m_fibers ∨ Queues s a ft) : Moved s a s' := by
  refine ⟨hqueue, fun v kv hkv => ?_⟩
  rw [hworkers, getElem?_set_of_some hk] at hkv
  split at hkv
  · next heq =>
      cases hkv
      subst heq
      exact .inr ⟨k, hk, hgoes⟩
  · exact .inl hkv

theorem resume_moved {x : Fiber} (hk : s.workers[w]? = some k) (hs : s.resume w k x k.pc = .next s') :
    Moved s (.run w) s' := by
  cases hpc : k.pc with
  | swapIn f cb =>
      simp only [hpc, resume] at hs
      split at hs <;> cases hs
      exact .of_worker hk rfl (.keeps (by rw [hpc]; rfl) (by simp)) fun _ hft => .inl hft
  | restore f cb =>
      simp only [hpc, resume] at hs
      split at hs <;> cases hs
      exact .of_worker hk rfl (.keeps (by rw [hpc]; rfl) (by simp)) fun _ hft => .inl hft
  | save f cb =>
      simp only [hpc, resume] at hs
      cases hs
      exact .of_worker hk rfl (.keeps (by rw [hpc]; rfl) (by simp)) fun _ hft => .inl hft
  | back f cb =>
      simp only [hpc, resume] at hs
      cases hs
      exact .of_worker hk rfl (.keeps (by rw [hpc]; rfl) (by simp)) fun _ hft => .inl hft
  | test f cb =>
      simp only [hpc, resume] at hs
      split at hs
      · cases hs
        exact .of_worker hk rfl (.keeps (by rw [hpc]; rfl) (by simp)) fun _ hft => .inl hft
      split at hs <;> cases hs
      · cases cb <;> exact .of_worker hk rfl (.leaves rfl (by simp)) fun _ hft => .inl hft
      · exact .of_worker hk rfl (.keeps (by rw [hpc]; rfl) (by simp)) fun _ hft => .inl hft
  | push f cb =>
      simp only [hpc, resume] at hs
      cases hs
      refine .of_worker hk rfl (.leaves rfl (by simp)) fun ft hft => ?_
      rcases List.mem_append.mp hft with hft | hft
      · exact .inl hft
      · obtain rfl := List.mem_singleton.mp hft
        exact .inr (.push hk hpc)
  | hold f cb =>
      simp only [hpc, resume] at hs
      cases hs
      exact .of_worker hk rfl (.leaves rfl (by simp)) fun _ hft => .inl hft
  | _ => simp [hpc, resume] at hs

theorem begin_moved {ft : FiberAndThread} (hk : s.workers[w]? = some k) (hpc : k.pc = .taken ft)
    (hs : s.begin w k ft.task = .next s') : Moved s (.run w) s' := by
  obtain ⟨task, thread⟩ := ft
  cases task with
  | fiber f =>
      simp only [begin] at hs
      split at hs <;> cases hs
      refine .of_worker hk rfl ?_ fun _ hft => .inl hft
      split
      · exact .leaves rfl (by simp)
      · exact .keeps (by rw [hpc]; rfl) (by simp)
  | cb =>
      have hbegins := Goes.begins (s := s) (w := w) rfl hpc
      simp only [begin] at hs
      split at hs
      · next f hf =>
          rw [hf] at hbegins
          split at hs
          · cases hs
          · split at hs <;> cases hs
            exact .of_worker hk rfl hbegins fun _ hft => .inl hft
      · next hf =>
          rw [hf] at hbegins
          cases hs
          exact .of_worker hk rfl hbegins fun _ hft => .inl hft

theorem run_moved (hk : s.workers[w]? = some k) (hs : s.run w k = .next s') : Moved s (.run w) s' := by
  cases hpc : k.pc with
  | scan =>
      simp only [hpc, run] at hs
      split at hs
      · next ft fts htake =>
          cases hs
          obtain ⟨hskip, hmem, hrest⟩ := takeFirst_spec htake
          exact .of_worker hk rfl (.takes hpc hmem hskip) fun x hx => .inl (hrest x hx)
      · cases hs
        exact .of_worker hk rfl (.leaves rfl (by simp)) fun _ hft => .inl hft
  | taken ft =>
      simp only [hpc, run] at hs
      exact begin_moved hk hpc hs
  | drop =>
      simp only [hpc, run] at hs
      cases hs
      exact .of_worker hk rfl (.leaves rfl (by simp)) fun _ hft => .inl hft
  | idle =>
      simp only [hpc, run] at hs
      split at hs <;> cases hs
      · exact .of_worker hk rfl (.leaves rfl (by simp)) fun _ hft => .inl hft
      · exact .of_worker hk rfl (.leaves rfl (by simp)) fun _ hft => .inl hft
  | exited => simp [hpc, run] at hs
  | _ =>
      simp only [hpc, run] at hs
      split at hs
      · apply resume_moved hk
        rw [hpc]
        exact hs
      · cases hs

theorem body_moved {f : Nat} {cb : Bool} {x : Fiber} {b : Body} (hk : s.workers[w]? = some k)
    (hpc : k.pc = .exec f cb) (hs : s.body w k f cb x b = .next s') : Moved s (.body w b) s' := by
  simp only [body] at hs
  split at hs
  · cases hs
  split at hs
  · split at hs <;> cases hs
    exact .of_queue rfl fun _ hft => .inl hft
  · cases hs
    exact .of_worker hk rfl (.keeps (by rw [hpc]; rfl) (by simp)) fun _ hft => .inl hft

theorem step_moved (hs : s.step a = .next s') : Moved s a s' := by
  cases a with
  | newFiber | stop_autoStop =>
      cases hs
      exact .of_queue rfl fun _ hft => .inl hft
  | schedule fc thread =>
      simp only [step] at hs
      split at hs <;> cases hs
      refine .of_queue rfl fun ft hft => (List.mem_append.mp hft).imp_right fun hft => ?_
      obtain rfl := List.mem_singleton.mp hft
      exact .schedule
  | scheduleAll fcs =>
      simp only [step, scheduleAll_fields] at hs
      split at hs <;> cases hs
      refine .of_queue rfl fun ft hft => (List.mem_append.mp hft).imp_right fun hft => ?_
      obtain ⟨fc, hmem, rfl⟩ := List.mem_map.mp hft
      exact .scheduleAll hmem
  | dispatch f =>
      simp only [step] at hs
      split at hs <;> cases hs
      refine .of_queue rfl fun ft hft => (List.mem_append.mp hft).imp_right fun hft => ?_
      obtain rfl := List.mem_singleton.mp hft
      exact .dispatch
  | stop_stopping =>
      simp only [step] at hs
      split at hs <;> cases hs
      exact .of_queue rfl fun _ hft => .inl hft
  | run w =>
      simp only [step] at hs
      split at hs
      · next k hk => exact run_moved hk hs
      · cases hs
  | body w b =>
      simp only [step] at hs
      split at hs
      · next k hk =>
          split at hs
          · next hpc =>
              split at hs
              · exact body_moved hk hpc hs
              · cases hs
          · cases hs
      · cases hs

/-! ## The condition -/

theorem skips_false {ft : FiberAndThread} (h : s.skips w ft = false) : ft.thread = none ∨ ft.thread = some w := by
  rw [skips] at h
  split at h
  · cases h
  · next hnot =>
      rw [not_and_or, not_not, not_not] at hnot
      exact hnot

namespace Pinned

variable {threads : Nat} {p p' : Pinned}

/-- A pinned fiber is on the queue with its thread id only, and in no other hands. -/
structure Kept (p : Pinned) : Prop where
  queue : ∀ ft ∈ p.scheduler.m_fibers, ∀ f t, ft.task = .fiber f → p.pins f = some t → ft.thread = some t
  hand : ∀ (w : Nat) (k : Worker) (f t : Nat), p.scheduler.workers[w]? = some k → k.pc.fiber = some f →
    p.pins f = some t → w = t
  taken : ∀ (w : Nat) (k : Worker) (ft : FiberAndThread), p.scheduler.workers[w]? = some k → k.pc = .taken ft →
    ft.thread = none ∨ ft.thread = some w

theorem step_eq (hs : p.step a = .next p') : p.scheduler.step a = .next p'.scheduler ∧ p'.pins = p.pin a := by
  rw [Pinned.step] at hs
  split at hs <;> cases hs
  next hnext => exact ⟨hnext, rfl⟩

theorem pin_cases {f t : Nat} (hok : p.Keeps a) (h : p.pin a f = some t) :
    p.pins f = some t ∨ p.scheduler.Pinnable f t := by
  have hupdate : ∀ {g : Nat} {thread : Option Nat}, (∀ t, thread = some t → p.scheduler.Pinnable g t) →
      Function.update p.pins g thread f = some t → p.pins f = some t ∨ p.scheduler.Pinnable f t := by
    intro g thread hpinnable hpin
    by_cases heq : f = g
    · subst heq
      rw [Function.update_self] at hpin
      exact .inr (hpinnable t hpin)
    · rw [Function.update_of_ne heq] at hpin
      exact .inl hpin
  cases a with
  | schedule fc thread =>
      cases fc with
      | cb => exact .inl h
      | fiber g =>
          cases thread with
          | none => exact .inl h
          | some u =>
              refine hupdate ?_ h
              rintro t ⟨⟩
              exact hok
  | run w =>
      cases hk : p.scheduler.workers[w]? with
      | none =>
          simp only [pin, hk] at h
          exact .inl h
      | some k =>
          obtain ⟨pc, cb_fiber, idleTerm⟩ := k
          simp only [pin, hk] at h
          cases pc with
          | taken ft =>
              obtain ⟨task, thread⟩ := ft
              cases task with
              | fiber g => exact .inl h
              | cb =>
                  refine hupdate ?_ h
                  rintro t rfl
                  exact (hok _ hk).2 t rfl
          | _ => exact .inl h
  | _ => exact .inl h

theorem pin_of_queues {f : Nat} (hok : p.Keeps a) {thread : Option Nat}
    (hqueues : p.scheduler.Queues a ⟨.fiber f, thread⟩) : p.pin a f = thread := by
  cases hqueues with
  | schedule =>
      cases thread with
      | none => exact hok
      | some t => exact Function.update_self ..
  | scheduleAll hmem => exact hok f hmem
  | dispatch => exact hok
  | @push w _ cb k hk hpc =>
      have hnone := (hok k hk).1 f cb hpc
      simp only [pin, hk]
      obtain ⟨pc, cb_fiber, idleTerm⟩ := k
      obtain rfl : pc = .push f cb := hpc
      exact hnone

/-- What the fiber of a callback gets is the thread id of the entry. -/
theorem pin_of_begins {thread : Option Nat} (hk : p.scheduler.workers[w]? = some k)
    (hpc : k.pc = .taken ⟨.cb, thread⟩) :
    p.pin (.run w) (k.cb_fiber.getD p.scheduler.fibers.length) = thread := by
  obtain ⟨pc, cb_fiber, idleTerm⟩ := k
  obtain rfl : pc = .taken ⟨.cb, thread⟩ := hpc
  simp only [pin, hk, Function.update_self]

theorem Kept.step (h : Kept p) (hok : p.Keeps a) (hs : p.step a = .next p') : Kept p' := by
  obtain ⟨hnext, hpins⟩ := step_eq hs
  have hmoved := step_moved hnext
  have hqueue : ∀ ft ∈ p.scheduler.m_fibers, ∀ f t, ft.task = .fiber f → p'.pins f = some t → ft.thread = some t := by
    intro ft hft f t htask hpin
    rcases pin_cases hok (hpins ▸ hpin) with hold | hpinnable
    · exact h.queue ft hft f t htask hold
    · exact hpinnable.queue ft hft htask
  have hhand : ∀ (w : Nat) (k : Worker) (f t : Nat), p.scheduler.workers[w]? = some k → k.pc.fiber = some f →
      p'.pins f = some t → w = t := by
    intro w k f t hk hf hpin
    rcases pin_cases hok (hpins ▸ hpin) with hold | hpinnable
    · exact h.hand w k f t hk hf hold
    · exact hpinnable.workers w k hk hf
  refine ⟨?_, ?_, ?_⟩
  · rintro ft hft f t htask hpin
    rcases hmoved.queue ft hft with hft | hqueues
    · exact hqueue ft hft f t htask hpin
    · obtain ⟨task, thread⟩ := ft
      obtain rfl : task = .fiber f := htask
      exact (pin_of_queues hok hqueues).symm.trans (hpins ▸ hpin)
  · intro w k' f t hk' hf hpin
    rcases hmoved.workers w k' hk' with hk | ⟨k, hk, hgoes⟩
    · exact hhand w k' f t hk hf hpin
    · generalize hpc' : k'.pc = pc' at hgoes
      rw [hpc'] at hf
      cases hgoes with
      | leaves hnone _ => cases hnone.symm.trans hf
      | keeps hsame _ => exact hhand w k f t hk (hsame.symm.trans hf) hpin
      | @takes ft _ hmem hskip =>
          have htask : ft.task = .fiber f := by
            obtain ⟨task, thread⟩ := ft
            cases task with
            | cb => cases hf
            | fiber g => exact congrArg FiberOrCb.fiber (Option.some.inj hf)
          have hthread := hqueue ft hmem f t htask hpin
          rcases skips_false hskip with hnone | hmine
          · cases hthread.symm.trans hnone
          · exact Option.some.inj (hmine.symm.trans hthread)
      | @begins thread ha hpc =>
          obtain rfl := Option.some.inj hf
          have hthread : thread = some t := by
            rw [← pin_of_begins hk hpc, ← ha, ← hpins]
            exact hpin
          rcases h.taken w k _ hk hpc with hnone | hmine
          · cases hthread.symm.trans hnone
          · exact Option.some.inj (hmine.symm.trans hthread)
  · intro w k' ft hk' hpc'
    rcases hmoved.workers w k' hk' with hk | ⟨k, hk, hgoes⟩
    · exact h.taken w k' ft hk hpc'
    · rw [hpc'] at hgoes
      cases hgoes with
      | leaves _ hne => exact absurd rfl (hne ft)
      | keeps _ hne => exact absurd rfl (hne ft)
      | takes _ _ hskip => exact skips_false hskip

theorem kept_init (threads : Nat) : Kept (system threads).init := by
  refine ⟨nofun, nofun, fun w k ft hk hpc => ?_⟩
  obtain rfl := (List.mem_replicate.mp (List.mem_of_getElem? hk)).2
  cases hpc

/-- In a run that keeps the thread ids of the fibers on the queue, a fiber is executed on no other thread than the one
it has been scheduled with. -/
theorem respected_of_keeps (h : (system threads).Reach Keeps p) : Respected p := by
  have hkept := h.invariant (kept_init threads) fun _ _ _ hkept hok hs => hkept.step hok hs
  exact fun w k f t hk hexec hpin => hkept.hand w k f t hk (executes_fiber hexec) hpin

/-- Worker 1 executes a callback that is pinned to it. -/
theorem respected_of_keeps_callback : ∃ p, Respected p ∧
    (p.scheduler.workers[1]?).map Worker.pc = some (.exec 0 true) ∧ p.pins 0 = some 1 := by
  have hpushed : (system 2).Reach Keeps _ := .step .init (a := .schedule .cb (some 1)) trivial rfl
  have htaken : (system 2).Reach Keeps _ := .step hpushed (a := .run 1) (by rintro k ⟨⟩; exact ⟨nofun, nofun⟩) rfl
  have hbegun : (system 2).Reach Keeps _ := .step htaken (a := .run 1) (by
    rintro k ⟨⟩
    refine ⟨nofun, ?_⟩
    rintro t ⟨⟩
    refine ⟨nofun, fun w k hk hf => ?_⟩
    match w with
    | 0 =>
        cases hk
        cases hf
    | 1 => rfl) rfl
  have hentered : (system 2).Reach Keeps _ := .step hbegun (a := .run 1) (by rintro k ⟨⟩; exact ⟨nofun, nofun⟩) rfl
  have hrestored : (system 2).Reach Keeps _ := .step hentered (a := .run 1) (by rintro k ⟨⟩; exact ⟨nofun, nofun⟩) rfl
  exact ⟨_, respected_of_keeps hrestored, rfl, rfl⟩

/-- A callback pinned to thread 1 yields there, and thread 0 resumes it. -/
theorem not_respected_yieldReady : ¬ ∀ threads p, (system threads).Reachable p → Respected p := by
  intro h
  have hrun : ((system 2).exec (system 2).init [.schedule .cb (some 1), .run 1, .run 1, .run 1, .run 1,
      .body 1 .YieldToReady, .run 1, .run 1, .run 1, .run 1, .run 0, .run 0, .run 0, .run 0]).view
        (fun p => ((p.scheduler.workers[0]?).map Worker.pc, p.pins 0)) = some (some (.exec 0 false), some 1) := by
    decide
  obtain ⟨p, hreach, hview⟩ := System.reachable_of_view hrun
  rw [Prod.mk.injEq, Option.map_eq_some_iff] at hview
  obtain ⟨⟨k, hk, hpc⟩, hpin⟩ := hview
  have hexec : k.pc.executes 0 := by
    rw [hpc]
    rfl
  exact absurd (h 2 p hreach 0 k 0 1 hk hexec hpin) (by decide)

end Pinned

end Mingfwq.Scheduler
