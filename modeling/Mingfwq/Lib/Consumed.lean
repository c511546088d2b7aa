import Mingfwq.Lib.Automaton

/-!
# How far a run comes

The bytes that an automaton takes are a matter of its table alone, as long as no action fails.
-/

namespace Mingfwq.Lib

variable {Act κ : Type} {next : Nat → UInt8 → Option (Edge Act)} {breaks : Act → Bool}

variable (next breaks) in
/-- The bytes up to the end of the input, before the first without an edge, or up to the one that breaks off. -/
def consumed : List UInt8 → Nat → Nat
  | [], _ => 0
  | c :: rest, cs =>
      match next cs c with
      | none => 0
      | some e => if e.acts.any breaks then 1 else consumed rest e.target + 1

variable (next breaks) in
/-- An action breaks the run off. -/
def breaksOff : List UInt8 → Nat → Bool
  | [], _ => false
  | c :: rest, cs =>
      match next cs c with
      | none => false
      | some e => if e.acts.any breaks then true else breaksOff rest e.target

section Step

variable {c : UInt8} {cs : Nat} {e : Edge Act} {xs : List UInt8}

theorem consumed_none (h : next cs c = none) : consumed next breaks (c :: xs) cs = 0 := by
  rw [consumed, h]

theorem consumed_stop (h : next cs c = some e) (hb : e.acts.any breaks = true) :
    consumed next breaks (c :: xs) cs = 1 := by
  rw [consumed, h]
  exact if_pos hb

theorem consumed_live (h : next cs c = some e) (hb : e.acts.any breaks = false) :
    consumed next breaks (c :: xs) cs = consumed next breaks xs e.target + 1 := by
  rw [consumed, h]
  exact if_neg (by rw [hb]; exact Bool.false_ne_true)

theorem breaksOff_none (h : next cs c = none) : breaksOff next breaks (c :: xs) cs = false := by
  rw [breaksOff, h]

theorem breaksOff_stop (h : next cs c = some e) (hb : e.acts.any breaks = true) :
    breaksOff next breaks (c :: xs) cs = true := by
  rw [breaksOff, h]
  exact if_pos hb

theorem breaksOff_live (h : next cs c = some e) (hb : e.acts.any breaks = false) :
    breaksOff next breaks (c :: xs) cs = breaksOff next breaks xs e.target := by
  rw [breaksOff, h]
  exact if_neg (by rw [hb]; exact Bool.false_ne_true)

end Step

theorem consumed_le (xs : List UInt8) (cs : Nat) : consumed next breaks xs cs ≤ xs.length := by
  induction xs generalizing cs with
  | nil => exact Nat.le_refl 0
  | cons c xs ih =>
      rw [List.length_cons]
      cases he : next cs c with
      | none =>
          rw [consumed_none he]
          exact Nat.zero_le _
      | some e =>
          cases hb : e.acts.any breaks with
          | true =>
              rw [consumed_stop he hb]
              exact Nat.succ_le_succ (Nat.zero_le _)
          | false =>
              rw [consumed_live he hb]
              exact Nat.succ_le_succ (ih e.target)

variable {run run' : Act → Nat → κ → Option κ} {xs : List UInt8} {p cs p' cs' n error : Nat} {k k' : κ}

/-- A run that does not fail ends behind the bytes it takes. -/
theorem result_consumed (hn : p + xs.length = n)
    (h : (scan next breaks run p xs cs k).result n error = some (p', cs', k')) :
    p' = p + consumed next breaks xs cs := by
  induction xs generalizing p cs k with
  | nil =>
      cases h
      exact hn.symm
  | cons c xs ih =>
      rw [List.length_cons] at hn
      cases he : next cs c with
      | none =>
          rw [scan_cons_err he] at h
          cases h
          rw [consumed_none he, Nat.add_zero]
      | some e =>
          cases hk : runActs run e.acts p k with
          | none =>
              rw [scan_cons_fault he hk] at h
              cases h
          | some k₁ =>
              cases hb : e.acts.any breaks with
              | true =>
                  rw [scan_cons_stop he hk hb] at h
                  cases h
                  rw [consumed_stop he hb]
              | false =>
                  rw [scan_cons_live he hk hb] at h
                  rw [consumed_live he hb, ih (by omega) h]
                  omega

/-- A run is broken off where the table says so, with what the actions of the last edge leave. -/
theorem result_breaksOff {I J : Nat → κ → Prop}
    (hlive : ∀ cs c e p k k', I p k → next cs c = some e → e.acts.any breaks = false →
      runActs run e.acts p k = some k' → I (p + 1) k')
    (hstop : ∀ cs c e p k k', I p k → next cs c = some e → e.acts.any breaks = true →
      runActs run e.acts p k = some k' → J (p + 1) k')
    (hn : p + xs.length = n) (hI : I p k)
    (h : (scan next breaks run p xs cs k).result n error = some (p', cs', k')) :
    if breaksOff next breaks xs cs then J p' k' else I p' k' := by
  induction xs generalizing p cs k with
  | nil =>
      obtain rfl : p = n := hn
      cases h
      exact hI
  | cons c xs ih =>
      rw [List.length_cons] at hn
      cases he : next cs c with
      | none =>
          rw [scan_cons_err he] at h
          cases h
          rw [breaksOff_none he]
          exact hI
      | some e =>
          cases hk : runActs run e.acts p k with
          | none =>
              rw [scan_cons_fault he hk] at h
              cases h
          | some k₁ =>
              cases hb : e.acts.any breaks with
              | true =>
                  rw [scan_cons_stop he hk hb] at h
                  cases h
                  rw [breaksOff_stop he hb]
                  exact hstop cs c e p k k' hI he hb hk
              | false =>
                  rw [scan_cons_live he hk hb] at h
                  rw [breaksOff_live he hb]
                  exact ih (by omega) (hlive cs c e p k k₁ hI he hb hk) h

/-- Two kinds of actions that do the same, and do not fail, where the first keep an invariant: the runs are the same. -/
theorem scan_congr {buffer : List UInt8} {I : Nat → Nat → κ → Prop}
    (hstep : ∀ cs c e p k, buffer[p]? = some c → I cs p k → next cs c = some e →
      ∃ k', runActs run e.acts p k = some k' ∧ runActs run' e.acts p k = some k' ∧
        (e.acts.any breaks = false → I e.target (p + 1) k'))
    (hxs : xs = buffer.drop p) (h : I cs p k) :
    scan next breaks run p xs cs k = scan next breaks run' p xs cs k ∧ scan next breaks run p xs cs k ≠ .fault := by
  induction xs generalizing p cs k with
  | nil => exact ⟨rfl, nofun⟩
  | cons c xs ih =>
      have hget : buffer[p]? = some c := by
        rw [← Nat.add_zero p, ← List.getElem?_drop, ← hxs]
        rfl
      have htail : xs = buffer.drop (p + 1) := by
        rw [← List.drop_drop, ← hxs]
        rfl
      cases he : next cs c with
      | none =>
          rw [scan_cons_err he, scan_cons_err he]
          exact ⟨rfl, nofun⟩
      | some e =>
          obtain ⟨k₁, hk, hk', hI⟩ := hstep cs c e p k hget h he
          cases hb : e.acts.any breaks with
          | true =>
              rw [scan_cons_stop he hk hb, scan_cons_stop he hk' hb]
              exact ⟨rfl, nofun⟩
          | false =>
              rw [scan_cons_live he hk hb, scan_cons_live he hk' hb]
              exact ih htail (hI hb)

section Track

variable {δ : Type} {track : Act → Nat → δ → Option δ}

/-- What keeps track of a run that does not fail does not fail. -/
theorem scan_track {R : δ → κ → Prop} {d : δ}
    (hact : ∀ a p d k k', p < n → R d k → run a p k = some k' → ∃ d', track a p d = some d' ∧ R d' k')
    (hn : p + xs.length = n) (hR : R d k) (h : scan next breaks run p xs cs k ≠ .fault) :
    scan next breaks track p xs cs d ≠ .fault := by
  have hacts (acts : List Act) (p : Nat) (hp : p < n) (d : δ) (k k' : κ) (hR : R d k)
      (hk : runActs run acts p k = some k') : ∃ d', runActs track acts p d = some d' ∧ R d' k' := by
    induction acts generalizing d k with
    | nil =>
        cases hk
        exact ⟨d, rfl, hR⟩
    | cons a acts ih =>
        rw [runActs, List.foldlM_cons] at hk
        obtain ⟨k₁, hk₁, hk⟩ := Option.bind_eq_some_iff.mp hk
        obtain ⟨d₁, hd₁, hR₁⟩ := hact a p d k k₁ hp hR hk₁
        obtain ⟨d', hd', hR'⟩ := ih d₁ k₁ hR₁ hk
        exact ⟨d', by rw [runActs, List.foldlM_cons, hd₁]; exact hd', hR'⟩
  induction xs generalizing p cs d k with
  | nil =>
      intro hfault
      cases hfault
  | cons c xs ih =>
      rw [List.length_cons] at hn
      cases he : next cs c with
      | none =>
          intro hfault
          cases (scan_cons_err he).symm.trans hfault
      | some e =>
          cases hk : runActs run e.acts p k with
          | none => exact absurd (scan_cons_fault he hk) h
          | some k₁ =>
              obtain ⟨d', hd', hR'⟩ := hacts e.acts p (by omega) d k k₁ hR hk
              cases hb : e.acts.any breaks with
              | true =>
                  intro hfault
                  cases (scan_cons_stop he hd' hb).symm.trans hfault
              | false =>
                  rw [scan_cons_live he hk hb] at h
                  rw [scan_cons_live he hd' hb]
                  exact ih (by omega) hR' h

/-- One edge of a run whose track does not fail. -/
theorem track_cons {c : UInt8} {e : Edge Act} {d : δ} (he : next cs c = some e)
    (h : scan next breaks track p (c :: xs) cs d ≠ .fault) : ∃ d', runActs track e.acts p d = some d' ∧
      (e.acts.any breaks = false → scan next breaks track (p + 1) xs e.target d' ≠ .fault) := by
  cases hd : runActs track e.acts p d with
  | none => exact absurd (scan_cons_fault he hd) h
  | some d' =>
      refine ⟨d', rfl, fun hb => ?_⟩
      rwa [scan_cons_live he hd hb] at h

end Track

theorem result_start (hn : p + xs.length = n)
    (h : (scan next breaks run p xs cs k).result n error = some (p, cs', k')) : k' = k := by
  cases xs with
  | nil =>
      cases h
      rfl
  | cons c xs =>
      have hzero := result_consumed hn h
      cases he : next cs c with
      | none =>
          rw [scan_cons_err he] at h
          cases h
          rfl
      | some e =>
          cases hb : e.acts.any breaks with
          | true =>
              rw [consumed_stop he hb] at hzero
              omega
          | false =>
              rw [consumed_live he hb] at hzero
              omega

end Mingfwq.Lib
