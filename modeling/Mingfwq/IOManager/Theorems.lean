import Mingfwq.IOManager.Lemmas.Consistent
import Mingfwq.IOManager.Lemmas.Located

/-!
# Safety of the event table

The invariant over runs of any number of threads, and the report of epoll that breaks it.
-/

namespace Mingfwq.IOManager

/-! ## The registrations -/

/-- Thread 0 waits for READ on descriptor 5 and the peer hangs up: the dispatch counts the hang-up as WRITE
too, which nobody registered. -/
def hangUp : List Action :=
  [.addEvent 0 5 .READ none, .addEventLocked 0 ⟨some 0, 1, .EXEC⟩ true,
   .epoll_wait 1 [(5, { EPOLLHUP := true })], .dispatch 1 true]

/-- A hang-up on a descriptor with one registered event kills the process. -/
theorem hangUp_aborts :
    ¬ ∀ m, system.Reachable m → m.Consistent ∧ ∀ a, step m a ≠ .abort .triggerEvent := by
  intro h
  have hexec : system.exec system.init hangUp = .abort .triggerEvent := by rfl
  obtain ⟨q, hq, hstep⟩ := Lib.System.exec_abort hexec
  have hm : system.Reachable q.1 := Lib.System.Reach.of_mem_trace .init (fun _ _ => trivial) q hq
  exact (h q.1 hm).2 q.2 hstep

/-- A run keeps the counter, the contexts and the registrations consistent and never fails the assertion of
triggerEvent exactly when each of its steps meets `StepOk`. -/
theorem run_safe_iff (as : List Action) :
    (∀ q ∈ system.trace system.init as, q.1.Consistent ∧ Safe (step q.1 q.2)) ↔
      ∀ q ∈ system.trace system.init as, StepOk q.1 q.2 := by
  constructor
  · intro h q hq
    exact (step_safe_iff (h q hq).1 q.2).mp (h q hq).2
  · intro h q hq
    have hm := reach_consistent (Lib.System.Reach.of_mem_trace .init h q hq)
    exact ⟨hm, (step_safe_iff hm q.2).mpr (h q hq)⟩

/-! ## The table of the contexts -/

/-- delEvent, cancelEvent and cancelAll find the context of every registered event. -/
def Found (m : IOManager) : Prop :=
  ∀ (i : Nat) (c : FdContext), m.contexts[i]? = some c → c.events ≠ .NONE → m.m_FdContexts[c.fd]? = some i

/-- The step accesses no context past the end of the table, keeps every entry of the table, and leaves every context
with a registered event to be found. -/
def Stable (m : IOManager) (a : Action) : Prop :=
  step m a ≠ .abort .outOfRange ∧ ∀ m', step m a = .next m' → m.m_FdContexts <+: m'.m_FdContexts ∧ m'.Found

/-- A thread that resizes the table does not make it smaller. -/
def Extends (m : IOManager) : Action → Prop
  | .contextResize t =>
      ∀ fd event cb, m.pc t = .addEventResize fd event cb → m.m_FdContexts.length ≤ fd * 3 / 2
  | _ => True

variable {m m' : IOManager}

/-- A resize for a descriptor past the first contexts never misses it. -/
theorem step_contextResize (h : Located m) {t fd : Nat} {event : Event} {cb : Option Nat}
    (hpc : m.pc t = .addEventResize fd event cb) :
    ∃ fd_ctx, step m (.contextResize t) =
      .next ((m.contextResize (fd * 3 / 2)).setPc t (.addEvent fd_ctx event cb)) := by
  have hfd := h.resizing t fd event cb hpc
  have hlt : fd < (m.contextResize (fd * 3 / 2)).m_FdContexts.length := by
    simp only [contextResize, List.length_append, List.length_take, List.length_range']
    omega
  exact ⟨(m.contextResize (fd * 3 / 2)).m_FdContexts[fd],
    by simp only [IOManager.step, hpc, List.getElem?_eq_getElem hlt]⟩

theorem Located.resize (h : Located m) {t fd fd_ctx : Nat} {event : Event} {cb : Option Nat}
    (hle : m.m_FdContexts.length ≤ fd * 3 / 2) :
    Located ((m.contextResize (fd * 3 / 2)).setPc t (.addEvent fd_ctx event cb)) := by
  refine ⟨?_, fun i c hc => contextResize_found hle h.found hc, ?_⟩
  · rw [show ((m.contextResize (fd * 3 / 2)).setPc t (.addEvent fd_ctx event cb)).m_FdContexts =
      (m.contextResize (fd * 3 / 2)).m_FdContexts from rfl, contextResize_table hle, List.length_append]
    exact Nat.le_trans h.length (Nat.le_add_right _ _)
  · intro t' fd' event' cb' hpc
    simp only [setPc, contextResize, Function.update_apply] at hpc
    split at hpc
    · cases hpc
    · exact h.resizing t' fd' event' cb' hpc

theorem Located.step (h : Located m) {a : Action} (ha : Extends m a) (hs : step m a = .next m') : Located m' := by
  by_cases hresize : ∃ t, a = .contextResize t
  · obtain ⟨t, rfl⟩ := hresize
    cases hpc : m.pc t with
    | addEventResize fd event cb =>
        obtain ⟨fd_ctx, hnext⟩ := step_contextResize h hpc
        rw [hnext] at hs
        cases hs
        exact h.resize (ha fd event cb hpc)
    | _ => simp only [IOManager.step, hpc, reduceCtorEq] at hs
  · exact h.keeps (step_keeps (fun t heq => hresize ⟨t, heq⟩) hs)

theorem step_stable_iff (h : Located m) (a : Action) : Stable m a ↔ Extends m a := by
  constructor
  · intro hstable
    cases a with
    | contextResize t =>
        intro fd event cb hpc
        obtain ⟨fd_ctx, hnext⟩ := step_contextResize h hpc
        have hlen := (hstable.2 _ hnext).1.length_le
        simp only [setPc, contextResize, List.length_append, List.length_take, List.length_range'] at hlen
        omega
    | _ => trivial
  · intro ha
    constructor
    · by_cases hresize : ∃ t, a = .contextResize t
      · obtain ⟨t, rfl⟩ := hresize
        cases hpc : m.pc t with
        | addEventResize fd event cb =>
            obtain ⟨fd_ctx, hnext⟩ := step_contextResize h hpc
            rw [hnext]
            rintro ⟨⟩
        | _ => simp only [IOManager.step, hpc, ne_eq, reduceCtorEq, not_false_eq_true]
      · exact step_inRange fun t heq => hresize ⟨t, heq⟩
    · intro m' hs
      refine ⟨?_, fun i c hc _ => (h.step ha hs).found i c hc⟩
      by_cases hresize : ∃ t, a = .contextResize t
      · obtain ⟨t, rfl⟩ := hresize
        cases hpc : m.pc t with
        | addEventResize fd event cb =>
            obtain ⟨fd_ctx, hnext⟩ := step_contextResize h hpc
            rw [hnext] at hs
            cases hs
            exact ⟨_, (contextResize_table (ha fd event cb hpc)).symm⟩
        | _ => simp only [IOManager.step, hpc, reduceCtorEq] at hs
      · have htable := (step_keeps (fun t heq => hresize ⟨t, heq⟩) hs).table
        exact htable ▸ List.prefix_refl _

/-- Two threads find no context for their descriptors; the one with the larger resizes first, and registers. -/
def shrinks : List Action :=
  [.addEvent 0 32 .READ none, .addEvent 1 50 .READ none, .contextResize 1,
   .addEventLocked 1 ⟨some 0, 1, .EXEC⟩ true, .contextResize 0]

/-- The resize for the smaller descriptor takes the table back, and with it the context of the larger. -/
theorem shrinks_notFound : ¬ ∀ m, system.Reachable m → m.Found := by
  intro h
  have hlost : (system.exec system.init shrinks).view
      (fun m => (m.contexts[50]?.map fun c => (c.fd, c.events), m.m_FdContexts[50]?)) =
      some (some (50, ⟨true, false⟩), none) := by decide +kernel
  obtain ⟨m, hreach, hlost⟩ := Lib.System.reachable_of_view hlost
  obtain ⟨hc, hnone⟩ := Prod.mk.inj hlost
  obtain ⟨c, hc, heq⟩ := Option.map_eq_some_iff.mp hc
  simp only [Prod.mk.injEq] at heq
  have hsome := h m hreach 50 c hc (by rw [heq.2]; decide)
  rw [heq.1, hnone] at hsome
  cases hsome

/-- In a run the table never shrinks, its entries stay, no access is past its end and every registered event is
found, exactly when no thread resizes the table to fewer contexts than it has. -/
theorem run_stable_iff (as : List Action) :
    (∀ q ∈ system.trace system.init as, Stable q.1 q.2) ↔ ∀ q ∈ system.trace system.init as, Extends q.1 q.2 := by
  have hgood : ∀ m a, Located m → (Stable m a ↔ Extends m a) := fun _ a hm => step_stable_iff hm a
  have hstep : ∀ m a m', Located m → Extends m a → system.step m a = .next m' → Located m' :=
    fun _ _ _ hm ha hs => hm.step ha hs
  exact Lib.System.trace_iff (fun s a hs _ => hgood s a hs) hstep init_located as

end Mingfwq.IOManager
