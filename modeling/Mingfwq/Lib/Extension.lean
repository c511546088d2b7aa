import Mingfwq.Lib.Automaton

/-!
# Automata with more edges

One table has the edges of another and some more. Two runs that differ by the tables, and in what no action reads, come
to the same end unless the first stops at a byte for which the second has an edge.
-/

namespace Mingfwq.Lib

variable {Act κ κ' δ : Type} {next next' : Nat → UInt8 → Option (Edge Act)} {breaks : Act → Bool}
  {run : Act → Nat → κ → Option κ} {run' : Act → Nat → κ' → Option κ'}

/-- Two sequences of actions stay related action by action, or fail together. -/
theorem runActs_rel {track : Act → Nat → δ → Option δ} {R : δ → κ → κ' → Prop} {acts : List Act} {p : Nat} {d d' : δ}
    {k : κ} {k' : κ'}
    (hact : ∀ a d d' k k', R d k k' → track a p d = some d' → Option.Rel (R d') (run a p k) (run' a p k'))
    (h : R d k k') (ht : runActs track acts p d = some d') :
    Option.Rel (R d') (runActs run acts p k) (runActs run' acts p k') := by
  induction acts generalizing d k k' with
  | nil =>
      cases ht
      exact .some h
  | cons a acts ih =>
      rw [runActs, List.foldlM_cons] at ht
      obtain ⟨d₁, hd₁, ht⟩ := Option.bind_eq_some_iff.mp ht
      rw [runActs, List.foldlM_cons, runActs, List.foldlM_cons]
      have hfirst := hact a d d₁ k k' h hd₁
      generalize run a p k = o at hfirst ⊢
      generalize run' a p k' = o' at hfirst ⊢
      cases hfirst with
      | none => exact .none
      | some hk => exact ih hk ht

theorem le_of_result {xs : List UInt8} {p cs error p' cs' : Nat} {k k' : κ}
    (h : (scan next breaks run p xs cs k).result (p + xs.length) error = some (p', cs', k')) : p ≤ p' :=
  (scan_inv (I := fun _ _ => True) (fun _ _ _ _ _ _ _ => trivial) rfl trivial h).1

/-- What the edges keep of the state and the data together holds at the end of a run. -/
theorem scan_state_inv {I : Nat → κ → Prop} {xs : List UInt8} {n p cs error p' cs' : Nat} {k k' : κ}
    (hedge : ∀ cs c e p k k', I cs k → next cs c = some e → runActs run e.acts p k = some k' → I e.target k')
    (herror : ∀ cs k, I cs k → I error k) (h : I cs k)
    (hr : (scan next breaks run p xs cs k).result n error = some (p', cs', k')) : I cs' k' := by
  induction xs generalizing p cs k with
  | nil =>
      cases hr
      exact h
  | cons c xs ih =>
      cases he : next cs c with
      | none =>
          rw [scan_cons_err he] at hr
          cases hr
          exact herror _ _ h
      | some e =>
          cases hk : runActs run e.acts p k with
          | none =>
              rw [scan_cons_fault he hk] at hr
              cases hr
          | some k₁ =>
              have hk₁ := hedge cs c e p k k₁ h he hk
              cases hb : e.acts.any breaks with
              | true =>
                  rw [scan_cons_stop he hk hb] at hr
                  cases hr
                  exact hk₁
              | false =>
                  rw [scan_cons_live he hk hb] at hr
                  exact ih hk₁ hr

variable (next next' breaks) in
/-- The automaton stops at a byte for which the other one has an edge. -/
def meets : List UInt8 → Nat → Bool
  | [], _ => false
  | c :: rest, cs =>
      match next cs c with
      | none => (next' cs c).isSome
      | some e => if e.acts.any breaks then false else meets rest e.target

section Meets

variable {c : UInt8} {cs : Nat} {e : Edge Act} {xs : List UInt8}

theorem meets_none (h : next cs c = none) : meets next next' breaks (c :: xs) cs = (next' cs c).isSome := by
  rw [meets, h]

theorem meets_stop (h : next cs c = some e) (hb : e.acts.any breaks = true) :
    meets next next' breaks (c :: xs) cs = false := by
  rw [meets, h]
  exact if_pos hb

theorem meets_live (h : next cs c = some e) (hb : e.acts.any breaks = false) :
    meets next next' breaks (c :: xs) cs = meets next next' breaks xs e.target := by
  rw [meets, h]
  exact if_neg (by rw [hb]; exact Bool.false_ne_true)

theorem meets_self : (xs : List UInt8) → (cs : Nat) → meets next next breaks xs cs = false
  | [], _ => rfl
  | c :: xs, cs => by
      cases he : next cs c with
      | none => rw [meets_none he, he, Option.isSome_none]
      | some e =>
          cases hb : e.acts.any breaks with
          | true => exact meets_stop he hb
          | false => rw [meets_live he hb, meets_self xs e.target]

/-- There is nothing to meet in states that both tables lead on alike and do not lead out of. -/
theorem meets_closed {Q : Nat → Prop} (hnext : ∀ cs c, Q cs → next cs c = next' cs c)
    (hedge : ∀ cs c e, Q cs → next cs c = some e → Q e.target) (h : Q cs) :
    meets next next' breaks xs cs = false := by
  induction xs generalizing cs with
  | nil => rfl
  | cons c xs ih =>
      cases he : next cs c with
      | none => rw [meets_none he, ← hnext cs c h, he, Option.isSome_none]
      | some e =>
          cases hb : e.acts.any breaks with
          | true => exact meets_stop he hb
          | false => rw [meets_live he hb, ih (hedge cs c e h he)]

end Meets

/-- Two runs come to the same end, or fail together. -/
inductive Run.Ends (R : Nat → κ → κ' → Prop) : Run κ → Run κ' → Prop
  | live {cs : Nat} {k : κ} {k' : κ'} : R cs k k' → Ends R (.live cs k) (.live cs k')
  | stop {p cs : Nat} {k : κ} {k' : κ'} : R cs k k' → Ends R (.stop p cs k) (.stop p cs k')
  | err {p cs : Nat} {k : κ} {k' : κ'} : R cs k k' → Ends R (.err p k) (.err p k')
  | fault : Ends R .fault .fault

/-- The second run goes on where the first stops, so it ends further on if it does not fail; or both fail before. -/
def Run.Passed (n error : Nat) (r : Run κ) (r' : Run κ') : Prop :=
  (∃ p k, r = .err p k ∧ ∀ q cs k', r'.result n error = some (q, cs, k') → p < q) ∨ r = .fault ∧ r' = .fault

theorem scan_extend {R : Nat → κ → κ' → Prop} {xs : List UInt8} {p cs error : Nat} {k : κ} {k' : κ'}
    (hext : ∀ cs c e, next cs c = some e → next' cs c = some e)
    (hstep : ∀ cs c e p k k', R cs k k' → next cs c = some e →
      Option.Rel (R e.target) (runActs run e.acts p k) (runActs run' e.acts p k'))
    (h : R cs k k') :
    (meets next next' breaks xs cs = false →
      (scan next breaks run p xs cs k).Ends R (scan next' breaks run' p xs cs k')) ∧
    (meets next next' breaks xs cs = true →
      (scan next breaks run p xs cs k).Passed (p + xs.length) error (scan next' breaks run' p xs cs k')) := by
  induction xs generalizing p cs k k' with
  | nil => exact ⟨fun _ => .live h, nofun⟩
  | cons c xs ih =>
      rw [List.length_cons, Nat.add_comm xs.length, ← Nat.add_assoc]
      cases he : next cs c with
      | none =>
          rw [scan_cons_err he, meets_none he]
          constructor
          · intro hnone
            rw [scan_cons_err (Option.not_isSome_iff_eq_none.mp (by rw [hnone]; exact Bool.false_ne_true))]
            exact .err h
          · intro hsome
            obtain ⟨f, he'⟩ := Option.isSome_iff_exists.mp hsome
            refine .inl ⟨p, k, rfl, fun q cs' k₁ hr => ?_⟩
            cases hk : runActs run' f.acts p k' with
            | none =>
                rw [scan_cons_fault he' hk] at hr
                cases hr
            | some k₂ =>
                cases hb : f.acts.any breaks with
                | true =>
                    rw [scan_cons_stop he' hk hb] at hr
                    cases hr
                    exact Nat.lt_succ_self p
                | false =>
                    rw [scan_cons_live he' hk hb] at hr
                    exact le_of_result hr
      | some e =>
          have hrel := hstep cs c e p k k' h he
          cases hk : runActs run e.acts p k with
          | none =>
              have hk' : runActs run' e.acts p k' = none := by
                rw [hk] at hrel
                generalize runActs run' e.acts p k' = o at hrel
                cases hrel
                rfl
              rw [scan_cons_fault he hk, scan_cons_fault (hext cs c e he) hk']
              exact ⟨fun _ => .fault, fun _ => .inr ⟨rfl, rfl⟩⟩
          | some k₁ =>
              obtain ⟨k₁', hk', hR⟩ : ∃ k₁', runActs run' e.acts p k' = some k₁' ∧ R e.target k₁ k₁' := by
                rw [hk] at hrel
                generalize runActs run' e.acts p k' = o at hrel
                cases hrel with
                | some hR => exact ⟨_, rfl, hR⟩
              cases hb : e.acts.any breaks with
              | true =>
                  rw [scan_cons_stop he hk hb, scan_cons_stop (hext cs c e he) hk' hb, meets_stop he hb]
                  exact ⟨fun _ => .stop hR, nofun⟩
              | false =>
                  rw [scan_cons_live he hk hb, scan_cons_live (hext cs c e he) hk' hb, meets_live he hb]
                  exact ih hR

end Mingfwq.Lib
