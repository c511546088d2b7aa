import Mingfwq.Lib.Automaton

/-!
# Actions that read and set registers

A watch over the actions keeps the list of the registers that are set; it fails at an action that reads any other
register. A run that the watch lets pass depends on no register from before it.
-/

namespace Mingfwq.Lib

variable {Act Reg κ κ' δ : Type}

/-- The registers each action reads and sets, and those whose value it makes useless. -/
structure RegisterUse (Act Reg : Type) where
  reads : Act → List Reg
  sets : Act → List Reg
  drops : Act → List Reg

/-- One step of the watch; `own` are the registers that are set. -/
def RegisterUse.watch [DecidableEq Reg] (u : RegisterUse Act Reg) (a : Act) (_ : Nat) (own : List Reg) :
    Option (List Reg) :=
  if ∀ r ∈ u.reads a, r ∈ own then some (u.sets a ++ own.filter (· ∉ u.drops a)) else none

section Watch

variable [DecidableEq Reg] {u : RegisterUse Act Reg} {next : Nat → UInt8 → Option (Edge Act)} {breaks : Act → Bool}

theorem RegisterUse.watch_mono {a : Act} {p : Nat} {own own₁ own' : List Reg} (hsub : own ⊆ own')
    (h : u.watch a p own = some own₁) : ∃ own₂, u.watch a p own' = some own₂ ∧ own₁ ⊆ own₂ := by
  rw [watch] at h
  split at h
  · next hreads =>
      cases h
      refine ⟨_, if_pos fun r hr => hsub (hreads r hr), ?_⟩
      intro r hr
      simp only [List.mem_append, List.mem_filter] at hr ⊢
      rcases hr with hr | ⟨hr, hdrop⟩
      · exact Or.inl hr
      · exact Or.inr ⟨hsub hr, hdrop⟩
  · cases h

theorem RegisterUse.runActs_watch_mono {acts : List Act} {p : Nat} {own own₁ own' : List Reg} (hsub : own ⊆ own')
    (h : runActs u.watch acts p own = some own₁) :
    ∃ own₂, runActs u.watch acts p own' = some own₂ ∧ own₁ ⊆ own₂ := by
  induction acts generalizing own own' with
  | nil =>
      cases h
      exact ⟨own', rfl, hsub⟩
  | cons a acts ih =>
      rw [runActs, List.foldlM_cons] at h
      obtain ⟨mid, hmid, h⟩ := Option.bind_eq_some_iff.mp h
      obtain ⟨mid', hmid', hsub'⟩ := watch_mono hsub hmid
      obtain ⟨own₂, hown₂, hsub₂⟩ := ih hsub' h
      exact ⟨own₂, by rw [runActs, List.foldlM_cons, hmid']; exact hown₂, hsub₂⟩

/-- When every edge sets what is pending at its target, unless it is pending at its source, a run that starts with
all that is pending passes the watch. -/
theorem RegisterUse.scan_watch_ne_fault {pending : Nat → List Reg}
    (hedge : ∀ cs c e, next cs c = some e →
      ∃ own, runActs u.watch e.acts 0 (pending cs) = some own ∧ (e.acts.any breaks = false → pending e.target ⊆ own))
    {xs : List UInt8} {p cs : Nat} {own : List Reg} (hown : pending cs ⊆ own) :
    scan next breaks u.watch p xs cs own ≠ .fault := by
  induction xs generalizing p cs own with
  | nil => exact fun h => nomatch h
  | cons c xs ih =>
      cases he : next cs c with
      | none =>
          rw [scan_cons_err he]
          exact fun h => nomatch h
      | some e =>
          obtain ⟨own₁, hown₁, htarget⟩ := hedge cs c e he
          have hp : runActs u.watch e.acts p (pending cs) = some own₁ := hown₁
          obtain ⟨own₂, hown₂, hsub⟩ := runActs_watch_mono hown hp
          cases hb : e.acts.any breaks with
          | true =>
              rw [scan_cons_stop he hown₂ hb]
              exact fun h => nomatch h
          | false =>
              rw [scan_cons_live he hown₂ hb]
              exact ih fun r hr => hsub (htarget hb hr)

end Watch

/-- Two sequences of actions stay related action by action. -/
theorem runActs_sim {track : Act → Nat → δ → Option δ} {run : Act → Nat → κ → Option κ}
    {run' : Act → Nat → κ' → Option κ'} {R : δ → κ → κ' → Prop} {acts : List Act} {p p' : Nat} {d d' : δ} {k : κ}
    {k' : κ'}
    (hact : ∀ a ∈ acts, ∀ d d' k k', R d k k' → track a p d = some d' →
      ∃ k₁ k₁', run a p k = some k₁ ∧ run' a p' k' = some k₁' ∧ R d' k₁ k₁')
    (h : R d k k') (ht : runActs track acts p d = some d') :
    ∃ k₁ k₁', runActs run acts p k = some k₁ ∧ runActs run' acts p' k' = some k₁' ∧ R d' k₁ k₁' := by
  induction acts generalizing d k k' with
  | nil =>
      cases ht
      exact ⟨k, k', rfl, rfl, h⟩
  | cons a acts ih =>
      rw [runActs, List.foldlM_cons] at ht
      obtain ⟨d₁, hd₁, ht⟩ := Option.bind_eq_some_iff.mp ht
      obtain ⟨k₁, k₁', hr, hr', hk⟩ := hact a List.mem_cons_self d d₁ k k' h hd₁
      rw [runActs, List.foldlM_cons, runActs, List.foldlM_cons, hr, hr']
      exact ih (fun a ha => hact a (List.mem_cons_of_mem _ ha)) hk ht

end Mingfwq.Lib
