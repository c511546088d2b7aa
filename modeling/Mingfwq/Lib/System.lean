import Mathlib.Logic.Relation

/-!
# Interleaved systems

A system takes one atomic step at a time. The action names the party that moves and carries every choice
of the environment, so `step` is a function. A step may be disabled, lead to the next state, or kill the
process (a failed assertion, a null pointer).
-/

namespace Mingfwq.Lib

/-- What one atomic step does. -/
inductive Outcome (ε σ : Type) where
  | blocked
  | abort (e : ε)
  | next (s : σ)
  deriving DecidableEq, Repr

/-- What can be seen of the next state. -/
def Outcome.view {ε σ β : Type} (f : σ → β) : Outcome ε σ → Option β
  | .next s => some (f s)
  | .blocked | .abort _ => none

theorem Outcome.view_eq_some {ε σ β : Type} {f : σ → β} {o : Outcome ε σ} {b : β} (h : o.view f = some b) :
    ∃ s, o = .next s ∧ f s = b := by
  cases o with
  | blocked => cases h
  | abort e => cases h
  | next s =>
      cases h
      exact ⟨s, rfl, rfl⟩

structure System (σ α ε : Type) where
  init : σ
  step : σ → α → Outcome ε σ

namespace System

variable {σ α ε : Type} (sys : System σ α ε)

/-- The states reached by steps that all meet `ok` in the state they start from. -/
inductive Reach (ok : σ → α → Prop) : σ → Prop
  | init : Reach ok sys.init
  | step {s s' : σ} {a : α} : Reach ok s → ok s a → sys.step s a = .next s' → Reach ok s'

/-- The states reached by any steps. -/
abbrev Reachable : σ → Prop := sys.Reach fun _ _ => True

/-- The steps a run takes from `s`: an action that is not enabled is passed over, and nothing follows an
abort. -/
def trace (s : σ) : List α → List (σ × α)
  | [] => []
  | a :: as =>
      match sys.step s a with
      | .blocked => trace s as
      | .abort _ => [(s, a)]
      | .next s' => (s, a) :: trace s' as

/-- Run the actions one after the other; none may be disabled. -/
def exec (s : σ) : List α → Outcome ε σ
  | [] => .next s
  | a :: as =>
      match sys.step s a with
      | .next s' => exec s' as
      | o => o

variable {sys}

/-- The invariant rule: what holds initially and is kept by every allowed step holds in every state
reached. -/
theorem Reach.invariant {ok : σ → α → Prop} {inv : σ → Prop} (hinit : inv sys.init)
    (hstep : ∀ s a s', inv s → ok s a → sys.step s a = .next s' → inv s') {s : σ}
    (h : sys.Reach ok s) : inv s := by
  induction h with
  | init => exact hinit
  | step _ ha hs ih => exact hstep _ _ _ ih ha hs

theorem exec_cons {s s' : σ} {a : α} (h : sys.step s a = .next s') (as : List α) :
    sys.exec s (a :: as) = sys.exec s' as := by
  simp only [exec, h]

/-- An execution without a disabled action ends in a reachable state. -/
theorem Reach.exec {ok : σ → α → Prop} (hok : ∀ s a, ok s a) (as : List α) {s s' : σ}
    (h : sys.Reach ok s) (he : sys.exec s as = .next s') : sys.Reach ok s' := by
  induction as generalizing s with
  | nil =>
      simp only [System.exec, Outcome.next.injEq] at he
      exact he ▸ h
  | cons a as ih =>
      simp only [System.exec] at he
      cases hs : sys.step s a with
      | blocked => simp [hs] at he
      | abort e => simp [hs] at he
      | next s₁ =>
          simp only [hs] at he
          exact ih (.step h (hok _ _) hs) he

/-- What can be seen at the end of an execution is seen of a reachable state. -/
theorem reachable_of_view {β : Type} {f : σ → β} {as : List α} {b : β}
    (h : (sys.exec sys.init as).view f = some b) : ∃ s, sys.Reachable s ∧ f s = b := by
  obtain ⟨s, hexec, hview⟩ := Outcome.view_eq_some h
  exact ⟨s, .exec (fun _ _ => trivial) as .init hexec, hview⟩

/-- An execution that dies does so in one of the steps of the run. -/
theorem exec_abort {as : List α} {s : σ} {e : ε} (he : sys.exec s as = .abort e) :
    ∃ q ∈ sys.trace s as, sys.step q.1 q.2 = .abort e := by
  induction as generalizing s with
  | nil => simp [System.exec] at he
  | cons a as ih =>
      simp only [System.exec] at he
      simp only [trace]
      cases hs : sys.step s a with
      | blocked => simp [hs] at he
      | abort e' =>
          simp only [hs, Outcome.abort.injEq] at he
          exact ⟨(s, a), List.mem_singleton_self _, he ▸ hs⟩
      | next s₁ =>
          simp only [hs] at he
          obtain ⟨q, hq, hstep⟩ := ih he
          exact ⟨q, List.mem_cons_of_mem _ hq, hstep⟩

/-- Every step a run takes starts in a state reached by the steps before it. -/
theorem Reach.of_mem_trace {ok : σ → α → Prop} {as : List α} {s : σ} (h : sys.Reach ok s)
    (hok : ∀ q ∈ sys.trace s as, ok q.1 q.2) : ∀ q ∈ sys.trace s as, sys.Reach ok q.1 := by
  induction as generalizing s with
  | nil => intro q hq; simp [trace] at hq
  | cons a as ih =>
      intro q hq
      simp only [trace] at hq hok
      cases hs : sys.step s a with
      | blocked =>
          simp only [hs] at hq hok
          exact ih h hok q hq
      | abort e =>
          simp only [hs, List.mem_singleton] at hq
          exact hq ▸ h
      | next s₁ =>
          simp only [hs, List.mem_cons] at hq hok
          rcases hq with rfl | hq
          · exact h
          · have ha : ok s a := hok (s, a) (.inl rfl)
            exact ih (.step h ha hs) (fun q hq => hok q (.inr hq)) q hq

/-- In a state with the invariant a step does well exactly when it is allowed, and an allowed step keeps the invariant:
then a run does well in every step exactly when every step is allowed. -/
theorem trace_iff {inv : σ → Prop} {good ok : σ → α → Prop}
    (hgood : ∀ s a, inv s → sys.step s a ≠ .blocked → (good s a ↔ ok s a))
    (hstep : ∀ s a s', inv s → ok s a → sys.step s a = .next s' → inv s') {s : σ} (hs : inv s) (as : List α) :
    (∀ q ∈ sys.trace s as, good q.1 q.2) ↔ ∀ q ∈ sys.trace s as, ok q.1 q.2 := by
  induction as generalizing s with
  | nil => simp [trace]
  | cons a as ih =>
      cases ha : sys.step s a with
      | blocked =>
          simp only [trace, ha]
          exact ih hs
      | abort e =>
          simp only [trace, ha, List.mem_singleton, forall_eq]
          exact hgood s a hs (by simp [ha])
      | next s' =>
          simp only [trace, ha, List.forall_mem_cons, hgood s a hs (by simp [ha])]
          constructor
          · rintro ⟨hok, hrest⟩
            exact ⟨hok, (ih (hstep s a s' hs hok ha)).mp hrest⟩
          · rintro ⟨hok, hrest⟩
            exact ⟨hok, (ih (hstep s a s' hs hok ha)).mpr hrest⟩

end System

end Mingfwq.Lib
