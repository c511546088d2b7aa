import Mingfwq.FdManager.Lemmas.Slots

/-!
# One context for each descriptor

Between its two sections `get` does not look again whether another thread has created the context.
-/

namespace Mingfwq.FdManager

open Lib

variable {m : FdManager} {s s' : State} {fd fd' : Int} {fd_stat : Option Bool}

/-- All results for a descriptor that are not null and that no call of `del` separates are one context. -/
def OneCtx (s : State) : Prop :=
  ∀ r ∈ s.results, ∀ r' ∈ s.results, r.fd = r'.fd → r.generation = r'.generation → r.ctx = r'.ctx

/-- A thread that creates a context finds none in the table. -/
def CreatesMissing (s : State) : Action → Prop
  | .create t _ => ∀ fd, s.pc t = .create fd → s.manager.slot fd = none
  | _ => True

/-- The results since the last `del` are what the table has. -/
structure Current (s : State) : Prop where
  length : 2 ≤ s.manager.m_datas.length
  created : ∀ fd c, s.manager.slot fd = some c → c < s.manager.ctxs.length
  past : ∀ r ∈ s.results, r.generation ≤ s.generation r.fd
  present : ∀ r ∈ s.results, r.generation = s.generation r.fd → s.manager.slot r.fd = some r.ctx
  returned : ∀ fd c, s.manager.slot fd = some c → ⟨fd, s.generation fd, c⟩ ∈ s.results
  creating : ∀ t fd, s.pc t = .create fd → 0 ≤ fd
  one : OneCtx s

theorem Current.init : Current .init where
  length := by decide
  created := by
    intro fd c h
    rw [State.init, slot_new] at h
    cases h
  past := by simp [State.init]
  present := by simp [State.init]
  returned := by
    intro fd c h
    rw [State.init, slot_new] at h
    cases h
  creating := by simp [State.init]
  one := by simp [State.init, OneCtx]

theorem Current.found (h : Current s) {ctx : Option Nat} (hctx : ctx = none ∨ s.manager.slot fd = ctx) :
    Current (s.returned fd ctx) := by
  cases ctx with
  | none => exact h
  | some c =>
      have hslot : s.manager.slot fd = some c := by
        rcases hctx with hctx | hctx
        · cases hctx
        · exact hctx
      have hmem := h.returned fd c hslot
      refine ⟨h.length, h.created, ?_, ?_, ?_, h.creating, ?_⟩
      · intro r hr
        rcases List.mem_cons.mp hr with rfl | hr
        · exact Nat.le_refl _
        · exact h.past r hr
      · intro r hr hgen
        rcases List.mem_cons.mp hr with rfl | hr
        · exact hslot
        · exact h.present r hr hgen
      · intro fd' c' hc'
        exact List.mem_cons_of_mem _ (h.returned fd' c' hc')
      · -- the result is one that has been returned before
        have hsub : ∀ r ∈ (s.returned fd (some c)).results, r ∈ s.results := by
          intro r hr
          rcases List.mem_cons.mp hr with rfl | hr
          · exact hmem
          · exact hr
        exact fun r hr r' hr' => h.one r (hsub r hr) r' (hsub r' hr')

theorem Current.create (h : Current s) {t : Nat} (hpc : s.pc t = .create fd) (hslot : s.manager.slot fd = none)
    (hs : step s (.create t fd_stat) = .next s') : Current s' := by
  have hfd := h.creating t fd hpc
  simp only [step, hpc, slot_create h.length hfd, if_true, Outcome.next.injEq, State.returned] at hs
  subst hs
  have hold : ∀ r ∈ s.results, r.fd = fd → r.generation ≠ s.generation fd := by
    rintro r hr rfl hgen
    rw [h.present r hr hgen] at hslot
    cases hslot
  refine ⟨Nat.le_trans h.length length_create, ?_, ?_, ?_, ?_, ?_, ?_⟩
  · intro fd' c hc
    rw [slot_create h.length hfd] at hc
    simp only [FdManager.create, List.length_append, List.length_singleton]
    split at hc
    · cases hc
      exact Nat.lt_succ_self _
    · exact Nat.lt_succ_of_lt (h.created fd' c hc)
  · intro r hr
    rcases List.mem_cons.mp hr with rfl | hr
    · exact Nat.le_refl _
    · exact h.past r hr
  · intro r hr hgen
    rw [slot_create h.length hfd]
    rcases List.mem_cons.mp hr with rfl | hr
    · exact if_pos rfl
    · rw [if_neg (fun heq => hold r hr heq (heq ▸ hgen))]
      exact h.present r hr hgen
  · intro fd' c hc
    rw [slot_create h.length hfd] at hc
    split at hc
    · next heq =>
        cases hc
        subst heq
        exact List.mem_cons_self
    · exact List.mem_cons_of_mem _ (h.returned fd' c hc)
  · intro t' fd' hpc'
    simp only [Function.update_apply] at hpc'
    split at hpc'
    · cases hpc'
    · exact h.creating t' fd' hpc'
  · intro r hr r' hr' hfd' hgen
    rcases List.mem_cons.mp hr with rfl | hr
    · rcases List.mem_cons.mp hr' with rfl | hr'
      · rfl
      · exact absurd hgen.symm (hold r' hr' hfd'.symm)
    · rcases List.mem_cons.mp hr' with rfl | hr'
      · exact absurd hgen (hold r hr hfd')
      · exact h.one r hr r' hr' hfd' hgen

theorem Current.del (h : Current s) {manager : FdManager} (hm : s.manager.del fd = .ok manager) :
    Current { s with manager, generation := Function.update s.generation fd (s.generation fd + 1) } := by
  have hslot : ∀ fd', manager.slot fd' = if fd' = fd then none else s.manager.slot fd' := fun _ => (slot_del hm).2.2
  refine ⟨?_, ?_, ?_, ?_, ?_, h.creating, h.one⟩
  · rw [(@slot_del _ fd fd _ hm).2.1]
    exact h.length
  · intro fd' c hc
    rw [hslot] at hc
    rw [(@slot_del _ fd fd _ hm).1]
    split at hc
    · cases hc
    · exact h.created fd' c hc
  · intro r hr
    have hpast := h.past r hr
    simp only [Function.update_apply]
    split
    · next heq =>
        rw [heq] at hpast
        exact Nat.le_succ_of_le hpast
    · exact hpast
  · intro r hr hgen
    have hpast := h.past r hr
    simp only [Function.update_apply] at hgen
    rw [hslot]
    split at hgen
    · next heq =>
        rw [heq] at hpast
        omega
    · next hne =>
        rw [if_neg hne]
        exact h.present r hr hgen
  · intro fd' c hc
    rw [hslot] at hc
    simp only [Function.update_apply]
    split at hc
    · cases hc
    · next hne =>
        rw [if_neg hne]
        exact h.returned fd' c hc

theorem Current.step (h : Current s) {a : Action} (hok : CreatesMissing s a) (hs : step s a = .next s') :
    Current s' := by
  cases a with
  | get t fd auto_create =>
      rw [FdManager.step] at hs
      split at hs
      · split at hs
        · cases hs
        · next ctx hlookup =>
            cases hs
            exact h.found (lookup_found hlookup)
        · next hlookup =>
            cases hs
            refine ⟨h.length, h.created, h.past, h.present, h.returned, ?_, h.one⟩
            intro t' fd' hpc'
            simp only [Function.update_apply] at hpc'
            split at hpc'
            · cases hpc'
              exact lookup_missing hlookup
            · exact h.creating t' fd' hpc'
      · cases hs
  | create t fd_stat =>
      cases hpc : s.pc t with
      | out =>
          simp only [FdManager.step, hpc, reduceCtorEq] at hs
      | create fd => exact h.create hpc (hok fd hpc) hs
  | del t fd =>
      rw [FdManager.step] at hs
      split at hs
      · split at hs
        · cases hs
        · next manager hm =>
            cases hs
            exact h.del hm
      · cases hs

/-- A step keeps the results one context exactly when it creates none that is there. -/
theorem step_oneCtx_iff (h : Current s) (a : Action) :
    (∀ s', step s a = .next s' → OneCtx s') ↔ CreatesMissing s a := by
  constructor
  · intro hone
    cases a with
    | get | del => trivial
    | create t fd_stat =>
        intro fd hpc
        by_contra hslot
        obtain ⟨c, hc⟩ := Option.ne_none_iff_exists'.mp hslot
        have hone := hone _ (by simp only [FdManager.step, hpc]; rfl)
        rw [slot_create h.length (h.creating t fd hpc), if_pos rfl] at hone
        -- the context that was in the table has been returned, and now the new one is
        have heq : c = s.manager.ctxs.length :=
          hone ⟨fd, s.generation fd, c⟩ (List.mem_cons_of_mem _ (h.returned fd c hc)) ⟨fd, s.generation fd, _⟩
            List.mem_cons_self rfl rfl
        have hlt := h.created fd c hc
        omega
  · intro hok s' hs
    exact (h.step hok hs).one

/-- Two threads look up a descriptor that has no context, and then both create one. -/
def bothMiss : List Action :=
  [.get 0 5 true, .get 1 5 true, .create 0 (some true), .create 1 (some true)]

theorem bothMiss_differ : ¬ ∀ s, system.Reachable s → OneCtx s := by
  intro h
  have hresults : (system.exec system.init bothMiss).view (fun s => s.results) = some [⟨5, 0, 1⟩, ⟨5, 0, 0⟩] := by
    decide
  obtain ⟨s, hreach, hresults⟩ := System.reachable_of_view hresults
  have heq := h s hreach ⟨5, 0, 1⟩ (by simp [hresults]) ⟨5, 0, 0⟩ (by simp [hresults]) rfl rfl
  cases heq

/-- In every state of a run the results for a descriptor between two calls of `del` are one context, exactly when no
thread creates a context for a descriptor that has got one since the thread looked. -/
theorem run_oneCtx_iff (as : List Action) :
    (∀ q ∈ system.trace system.init as, ∀ s', step q.1 q.2 = .next s' → OneCtx s') ↔
      ∀ q ∈ system.trace system.init as, CreatesMissing q.1 q.2 := by
  have hgood : ∀ s a, Current s → ((∀ s', step s a = .next s' → OneCtx s') ↔ CreatesMissing s a) :=
    fun _ a hs => step_oneCtx_iff hs a
  have hstep : ∀ s a s', Current s → CreatesMissing s a → system.step s a = .next s' → Current s' :=
    fun _ _ _ hs hok hs' => hs.step hok hs'
  exact System.trace_iff (fun s a hs _ => hgood s a hs) hstep Current.init as

end Mingfwq.FdManager
