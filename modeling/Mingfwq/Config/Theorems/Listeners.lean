import Mingfwq.Config.ConfigVar

/-!
# What the listeners of a variable know

Two calls of setValue can notify in one order and assign in the other.
-/

namespace Mingfwq.ConfigVar

open Lib

variable {T : Type} {var : ConfigVar T} {s s' : State T} {v : T} {t : Nat} {calls : Calls T}
  {key : UInt64}

theorem notify_apply (var : ConfigVar T) (v : T) (calls : Calls T) (hkey : key ∈ var.m_cbs) :
    ∃ rest, var.notify v calls key = (var.m_val, v) :: rest := by
  have hfold : ∀ (keys : List UInt64) (calls : Calls T),
      (key ∈ keys ∨ ∃ rest, calls key = (var.m_val, v) :: rest) →
        ∃ rest, keys.foldl (fun calls key => Function.update calls key ((var.m_val, v) :: calls key)) calls key =
          (var.m_val, v) :: rest := by
    intro keys
    induction keys with
    | nil => exact fun calls h => h.resolve_left List.not_mem_nil
    | cons k keys ih =>
        intro calls h
        rw [List.foldl_cons]
        apply ih
        by_cases hk : key = k
        · subst hk
          exact .inr ⟨_, Function.update_self ..⟩
        · rw [Function.update_of_ne hk]
          exact h.imp_left fun h => (List.mem_cons.mp h).resolve_left hk
  exact hfold var.m_cbs calls (.inl hkey)

/-- No call of setValue is in progress. -/
def Quiet (s : State T) : Prop := ∀ t, s.pc t = .out

/-- The last value every listener has been passed is the value of the variable. -/
def Agrees (s : State T) : Prop := ∀ key ∈ s.var.m_cbs, ∃ old, (s.calls key).head? = some (old, s.var.getValue)

/-- Where no call is in progress and one has changed the value, the listeners agree. -/
def Told (s : State T) : Prop := Quiet s → s.changed = true → Agrees s

/-- The call that is the last of those in progress to assign is the last that has passed its value to the listeners, or
it has passed the same one. -/
def InOrder (s : State T) : Action T → Prop
  | .notify _ _ => True
  | .assign t => (∀ t', t' ≠ t → s.pc t' = .out) → ∀ v, s.pc t = .assign v →
      ∀ key ∈ s.var.m_cbs, ∀ call ∈ (s.calls key).head?, call.2 = v

/-- What is about to be assigned has been passed to the listeners, and before the first change it is another value. -/
structure Sound (s : State T) : Prop where
  told : Told s
  heard : ∀ t v, s.pc t = .assign v → ∀ key ∈ s.var.m_cbs, s.calls key ≠ []
  fresh : s.changed = false → ∀ t v, s.pc t = .assign v → v ≠ s.var.m_val

theorem Sound.init : Sound (.init var) where
  told := fun _ h => by cases h
  heard := fun t v h => by cases h
  fresh := fun _ t v h => by cases h

variable [DecidableEq T]

theorem setValueNotify_eq (h : s.var.setValueNotify v s.calls = some calls) :
    v ≠ s.var.m_val ∧ calls = s.var.notify v s.calls := by
  rw [setValueNotify] at h
  split at h
  · cases h
  · next hne =>
      cases h
      exact ⟨hne, rfl⟩

theorem Sound.step_iff (h : Sound s) {a : Action T} (hs : step s a = .next s') : Told s' ↔ InOrder s a := by
  cases a with
  | notify t v =>
      refine iff_of_true ?_ trivial
      simp only [step] at hs
      split at hs
      · split at hs
        · cases hs
          exact h.told
        · cases hs
          intro hquiet
          have ht := hquiet t
          simp only [Function.update_self, reduceCtorEq] at ht
      · cases hs
  | assign t =>
      simp only [step] at hs
      split at hs
      · next v hpc =>
          cases hs
          have hquiet : Quiet { s with
              var := s.var.setValueAssign v, pc := Function.update s.pc t .out,
              changed := s.changed || decide (s.var.m_val ≠ v) } ↔ ∀ t', t' ≠ t → s.pc t' = .out := by
            constructor
            · intro hq t' ht'
              have ht := hq t'
              simpa only [Function.update_of_ne ht'] using ht
            · intro hq t'
              by_cases ht' : t' = t
              · subst ht'
                exact Function.update_self ..
              · exact (Function.update_of_ne ht' ..).trans (hq t' ht')
          have hchanged : (s.changed || decide (s.var.m_val ≠ v)) = true := by
            cases hc : s.changed with
            | true => rfl
            | false => simpa using (h.fresh hc t v hpc).symm
          constructor
          · intro htold hothers v' hpc' key hkey call hcall
            cases hpc.symm.trans hpc'
            obtain ⟨old, hhead⟩ := htold (hquiet.mpr hothers) hchanged key hkey
            cases hhead.symm.trans hcall
            rfl
          · intro hok hq _ key hkey
            cases hcalls : s.calls key with
            | nil => exact absurd hcalls (h.heard t v hpc key hkey)
            | cons call rest =>
                have hlast := hok (hquiet.mp hq) v hpc key hkey call (by rw [hcalls]; rfl)
                exact ⟨call.1, by simp only [List.head?_cons, ConfigVar.getValue, setValueAssign, ← hlast]⟩
      · cases hs

theorem Sound.step (h : Sound s) {a : Action T} (hok : InOrder s a) (hs : step s a = .next s') : Sound s' := by
  have htold := (h.step_iff hs).mpr hok
  cases a with
  | notify t v =>
      simp only [ConfigVar.step] at hs
      split at hs
      · split at hs
        · cases hs
          exact h
        · next calls hcalls =>
            cases hs
            obtain ⟨hne, rfl⟩ := setValueNotify_eq hcalls
            refine ⟨htold, fun t' v' _ key hkey => ?_, fun hc t' v' hpc => ?_⟩
            · obtain ⟨rest, hrest⟩ := notify_apply s.var v s.calls hkey
              exact fun hnil => by cases hrest.symm.trans hnil
            · simp only [Function.update_apply] at hpc
              split at hpc
              · cases hpc
                exact hne
              · exact h.fresh hc t' v' hpc
      · cases hs
  | assign t =>
      simp only [ConfigVar.step] at hs
      split at hs
      · next v hpc =>
          cases hs
          refine ⟨htold, fun t' v' hpc' => ?_, fun hc => ?_⟩
          · simp only [Function.update_apply] at hpc'
            split at hpc'
            · cases hpc'
            · exact h.heard t' v' hpc'
          · simp only [Bool.or_eq_false_iff, decide_eq_false_iff_not, not_not] at hc
            exact absurd hc.2.symm (h.fresh hc.1 t v hpc)
      · cases hs

/-- Two writers: the first to notify is the last to assign. -/
def crossed : List (Action Nat) := [.notify 0 1, .notify 1 2, .assign 1, .assign 0]

/-- A listener keeps 2, and the value is 1. -/
theorem crossed_differ : ¬ ∀ (var : ConfigVar Nat) s, (system var).Reachable s → Told s := by
  intro h
  obtain ⟨s, hexec, hvar, hcalls, hquiet, hchanged⟩ : ∃ s, (system ⟨0, [1]⟩).exec (system ⟨0, [1]⟩).init crossed =
      .next s ∧ s.var = ⟨1, [1]⟩ ∧ (s.calls 1).head? = some (0, 2) ∧ Quiet s ∧ s.changed = true := by
    refine ⟨_, rfl, rfl, rfl, fun t => ?_, rfl⟩
    simp only [Function.update_apply]
    split
    · rfl
    · split
      · rfl
      · rfl
  obtain ⟨old, hlast⟩ := h _ s (.exec (fun _ _ => trivial) crossed .init hexec) hquiet hchanged 1 (by simp [hvar])
  rw [hcalls, hvar] at hlast
  cases hlast

/-- In every state of a run where no call of setValue is in progress and one has changed the value, the last value
passed to each listener is that of the variable, exactly when the calls that overlap end in order. -/
theorem run_listeners_iff (var : ConfigVar T) (as : List (Action T)) :
    (∀ q ∈ (system var).trace (system var).init as, ∀ s', step q.1 q.2 = .next s' → Told s') ↔
      ∀ q ∈ (system var).trace (system var).init as, InOrder q.1 q.2 := by
  have hgood : ∀ s a, Sound s → (system var).step s a ≠ .blocked →
      ((∀ s', ConfigVar.step s a = .next s' → Told s') ↔ InOrder s a) := by
    intro s a hsound hnext
    cases hs : ConfigVar.step s a with
    | blocked => exact absurd hs hnext
    | abort e => exact e.elim
    | next s' => simpa using hsound.step_iff hs
  have hstep : ∀ s a s', Sound s → InOrder s a → (system var).step s a = .next s' → Sound s' :=
    fun _ _ _ hs hok hs' => hs.step hok hs'
  exact System.trace_iff hgood hstep Sound.init as

end Mingfwq.ConfigVar
