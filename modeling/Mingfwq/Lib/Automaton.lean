import Mathlib.Data.List.Basic

/-!
# Table-driven automata with actions

A state of the automaton is a number. An edge leads from a state, on the bytes of a range, to its target and
runs its actions on the way; some actions break off the run. A run over a piece of input starts in any state, so
that input which arrives in pieces is a sequence of runs.
-/

namespace Mingfwq.Lib

variable {Act κ κ' δ : Type}

/-- An edge, for the bytes from `lo` to `hi`. -/
structure Edge (Act : Type) where
  lo : Nat
  hi : Nat
  acts : List Act
  target : Nat
  deriving DecidableEq, Repr

/-- The edges of every state. -/
abbrev Table (Act : Type) := List (Nat × List (Edge Act))

def Table.next (t : Table Act) (cs : Nat) (c : UInt8) : Option (Edge Act) :=
  (t.lookup cs).bind fun edges => edges.find? fun e => e.lo ≤ c.toNat && c.toNat ≤ e.hi

/-- What a run comes to: it reads all its input, it meets a byte without an edge, an action breaks it off, or
an action fails. `p` is the position it stops at. -/
inductive Run (κ : Type) where
  | live (cs : Nat) (k : κ)
  | err (p : Nat) (k : κ)
  | stop (p cs : Nat) (k : κ)
  | fault
  deriving DecidableEq, Repr

/-- The position, the state and the data a run over input up to position `n` ends with, `error` being the state
after a byte without an edge. -/
def Run.result (n error : Nat) : Run κ → Option (Nat × Nat × κ)
  | .live cs k => some (n, cs, k)
  | .err p k => some (p, error, k)
  | .stop p cs k => some (p, cs, k)
  | .fault => none

/-- A byte had no edge, or an action failed. -/
def Run.Failed : Run κ → Prop
  | .err _ _ | .fault => True
  | .live _ _ | .stop _ _ _ => False

theorem Run.result_eq_none {n error : Nat} {r : Run κ} (h : r.result n error = none) : r = .fault := by
  cases r with
  | fault => rfl
  | live cs k | err p k | stop p cs k => cases h

/-- The actions of an edge, in their order, at position `p`. -/
def runActs (run : Act → Nat → κ → Option κ) (acts : List Act) (p : Nat) (k : κ) : Option κ :=
  acts.foldlM (fun k a => run a p k) k

theorem runActs_singleton (run : Act → Nat → κ → Option κ) (a : Act) (p : Nat) (k : κ) :
    runActs run [a] p k = run a p k := by
  rw [runActs, List.foldlM_cons]
  cases run a p k <;> rfl

section Scan

variable (next : Nat → UInt8 → Option (Edge Act)) (breaks : Act → Bool) (run : Act → Nat → κ → Option κ)

/-- A run over `input`, whose first byte stands at position `p`, from state `cs`. -/
def scan : Nat → List UInt8 → Nat → κ → Run κ
  | _, [], cs, k => .live cs k
  | p, c :: rest, cs, k =>
      match next cs c with
      | none => .err p k
      | some e =>
          match runActs run e.acts p k with
          | none => .fault
          | some k => if e.acts.any breaks then .stop (p + 1) e.target k else scan (p + 1) rest e.target k

end Scan

variable {next : Nat → UInt8 → Option (Edge Act)} {breaks : Act → Bool} {n : Nat}
  {run : Act → Nat → κ → Option κ} {run' : Act → Nat → κ' → Option κ'} {track : Act → Nat → δ → Option δ}

/-- What is checked of every edge of a table holds of the edge taken. -/
theorem Table.forall_next {t : Table Act} {P : Nat → Edge Act → Prop} (hall : ∀ row ∈ t, ∀ e ∈ row.2, P row.1 e)
    {cs : Nat} {c : UInt8} {e : Edge Act} (h : t.next cs c = some e) :
    P cs e ∧ e.lo ≤ c.toNat ∧ c.toNat ≤ e.hi := by
  obtain ⟨edges, hrow, he⟩ := Option.bind_eq_some_iff.mp h
  obtain ⟨l₁, l₂, rfl, -⟩ := List.lookup_eq_some_iff.mp hrow
  have hrange := List.find?_some he
  simp only [Bool.and_eq_true, decide_eq_true_eq] at hrange
  refine ⟨?_, hrange⟩
  exact hall (cs, edges) (by simp) e (List.mem_of_find?_eq_some he)

section Step

variable {p cs : Nat} {c : UInt8} {rest : List UInt8} {k k' : κ} {e : Edge Act}

theorem scan_cons_err (hn : next cs c = none) : scan next breaks run p (c :: rest) cs k = .err p k := by
  simp only [scan, hn]

theorem scan_cons_fault (hn : next cs c = some e) (hr : runActs run e.acts p k = none) :
    scan next breaks run p (c :: rest) cs k = .fault := by
  simp only [scan, hn, hr]

theorem scan_cons_stop (hn : next cs c = some e) (hr : runActs run e.acts p k = some k')
    (hb : e.acts.any breaks = true) :
    scan next breaks run p (c :: rest) cs k = .stop (p + 1) e.target k' := by
  simp only [scan, hn, hr, hb, if_true]

theorem scan_cons_live (hn : next cs c = some e) (hr : runActs run e.acts p k = some k')
    (hb : e.acts.any breaks = false) :
    scan next breaks run p (c :: rest) cs k = scan next breaks run (p + 1) rest e.target k' := by
  simp only [scan, hn, hr, hb, Bool.false_eq_true, if_false]

end Step

/-- A run over two pieces is the run over the first, and over the second from where the first ends. -/
theorem scan_append (xs ys : List UInt8) (p cs : Nat) (k : κ) :
    scan next breaks run p (xs ++ ys) cs k =
      match scan next breaks run p xs cs k with
      | .live cs' k' => scan next breaks run (p + xs.length) ys cs' k'
      | r => r := by
  induction xs generalizing p cs k with
  | nil => rfl
  | cons c xs ih =>
      rw [List.cons_append]
      cases hn : next cs c with
      | none => rw [scan_cons_err hn, scan_cons_err hn]
      | some e =>
          cases hr : runActs run e.acts p k with
          | none => rw [scan_cons_fault hn hr, scan_cons_fault hn hr]
          | some k' =>
              cases hb : e.acts.any breaks with
              | true => rw [scan_cons_stop hn hr hb, scan_cons_stop hn hr hb]
              | false =>
                  rw [scan_cons_live hn hr hb, scan_cons_live hn hr hb, ih, List.length_cons, Nat.add_right_comm,
                    Nat.add_assoc]

theorem scan_append_failed {xs : List UInt8} {p cs : Nat} {k : κ} (h : (scan next breaks run p xs cs k).Failed)
    (ys : List UInt8) : (scan next breaks run p (xs ++ ys) cs k).Failed := by
  rw [scan_append]
  cases hrun : scan next breaks run p xs cs k with
  | err p' k' => trivial
  | fault => trivial
  | live cs' k' =>
      rw [hrun] at h
      exact h.elim
  | stop p' cs' k' =>
      rw [hrun] at h
      exact h.elim

/-- What every action keeps, all actions of an edge keep. -/
theorem runActs_inv {I : κ → Prop} {acts : List Act} {p : Nat} {k k' : κ}
    (hact : ∀ a ∈ acts, ∀ k k', I k → run a p k = some k' → I k') (h : I k)
    (hr : runActs run acts p k = some k') : I k' := by
  induction acts generalizing k with
  | nil =>
      cases hr
      exact h
  | cons a acts ih =>
      rw [runActs, List.foldlM_cons] at hr
      obtain ⟨k₁, hk₁, hr⟩ := Option.bind_eq_some_iff.mp hr
      exact ih (fun a ha => hact a (List.mem_cons_of_mem _ ha)) (hact a List.mem_cons_self k k₁ h hk₁) hr

/-- What the actions of every edge keep holds where the run ends. -/
theorem scan_inv {I : Nat → κ → Prop} {xs : List UInt8} {p cs error p' cs' : Nat} {k k' : κ}
    (hstep : ∀ p k acts k', p < n → I p k → runActs run acts p k = some k' → I (p + 1) k')
    (hn : p + xs.length = n) (h : I p k)
    (hr : (scan next breaks run p xs cs k).result n error = some (p', cs', k')) : p ≤ p' ∧ p' ≤ n ∧ I p' k' := by
  induction xs generalizing p cs k with
  | nil =>
      cases hr
      have hpn : p = n := hn
      exact ⟨Nat.le_of_eq hpn, Nat.le_refl _, hpn ▸ h⟩
  | cons c xs ih =>
      have hlt : p < n := by rw [← hn, List.length_cons]; omega
      cases he : next cs c with
      | none =>
          rw [scan_cons_err he] at hr
          cases hr
          exact ⟨Nat.le_refl _, Nat.le_of_lt hlt, h⟩
      | some e =>
          cases hk : runActs run e.acts p k with
          | none => rw [scan_cons_fault he hk] at hr; cases hr
          | some k₁ =>
              have hk₁ := hstep p k e.acts k₁ hlt h hk
              cases hb : e.acts.any breaks with
              | true =>
                  rw [scan_cons_stop he hk hb] at hr
                  cases hr
                  exact ⟨Nat.le_succ p, hlt, hk₁⟩
              | false =>
                  rw [scan_cons_live he hk hb] at hr
                  obtain ⟨hle, hle', hI⟩ := ih (by rw [← hn, List.length_cons]; omega) hk₁ hr
                  exact ⟨by omega, hle', hI⟩

/-- What every action keeps that does not break off holds at the end of a run that is not broken off. -/
theorem scan_live_inv {I : κ → Prop} {xs : List UInt8} {p cs cs' : Nat} {k k' : κ}
    (hact : ∀ a p k k', breaks a = false → I k → run a p k = some k' → I k') (h : I k)
    (hr : scan next breaks run p xs cs k = .live cs' k') : I k' := by
  induction xs generalizing p cs k with
  | nil =>
      cases hr
      exact h
  | cons c xs ih =>
      cases he : next cs c with
      | none => rw [scan_cons_err he] at hr; cases hr
      | some e =>
          cases hk : runActs run e.acts p k with
          | none => rw [scan_cons_fault he hk] at hr; cases hr
          | some k₁ =>
              cases hb : e.acts.any breaks with
              | true => rw [scan_cons_stop he hk hb] at hr; cases hr
              | false =>
                  rw [scan_cons_live he hk hb] at hr
                  have hbreaks : ∀ a ∈ e.acts, breaks a = false := by simpa using hb
                  exact ih (runActs_inv (fun a ha k k' => hact a p k k' (hbreaks a ha)) h hk) hr

/-- The state of a run that is not broken off stays among those the edges keep to. -/
theorem scan_live_state {Q : Nat → Prop} {xs : List UInt8} {p cs cs' : Nat} {k k' : κ}
    (hedge : ∀ cs c e, next cs c = some e → e.acts.any breaks = false → Q cs → Q e.target) (h : Q cs)
    (hr : scan next breaks run p xs cs k = .live cs' k') : Q cs' := by
  induction xs generalizing p cs k with
  | nil =>
      cases hr
      exact h
  | cons c xs ih =>
      cases he : next cs c with
      | none => rw [scan_cons_err he] at hr; cases hr
      | some e =>
          cases hk : runActs run e.acts p k with
          | none => rw [scan_cons_fault he hk] at hr; cases hr
          | some k₁ =>
              cases hb : e.acts.any breaks with
              | true => rw [scan_cons_stop he hk hb] at hr; cases hr
              | false =>
                  rw [scan_cons_live he hk hb] at hr
                  exact ih (hedge cs c e he hb h) hr

/-- A run that is broken off went over an edge that breaks. -/
theorem scan_stop_edge {xs : List UInt8} {p cs p' cs' : Nat} {k k' : κ}
    (h : scan next breaks run p xs cs k = .stop p' cs' k') :
    p < p' ∧ ∃ cs₀ c e, next cs₀ c = some e ∧ e.acts.any breaks = true ∧ e.target = cs' := by
  induction xs generalizing p cs k with
  | nil => cases h
  | cons c xs ih =>
      cases he : next cs c with
      | none => rw [scan_cons_err he] at h; cases h
      | some e =>
          cases hk : runActs run e.acts p k with
          | none => rw [scan_cons_fault he hk] at h; cases h
          | some k₁ =>
              cases hb : e.acts.any breaks with
              | true =>
                  rw [scan_cons_stop he hk hb] at h
                  cases h
                  exact ⟨Nat.lt_succ_self p, cs, c, e, he, hb, rfl⟩
              | false =>
                  rw [scan_cons_live he hk hb] at h
                  obtain ⟨hlt, hedge⟩ := ih h
                  exact ⟨by omega, hedge⟩

/-- Two runs over one input end at the same place, `b` further on in the second, with related data; none fails. -/
def Run.Rel (b : Nat) (S : κ → κ' → Prop) : Run κ → Run κ' → Prop
  | .live cs k, .live cs' k' => cs = cs' ∧ S k k'
  | .err p k, .err p' k' => p' = b + p ∧ S k k'
  | .stop p cs k, .stop p' cs' k' => p' = b + p ∧ cs = cs' ∧ S k k'
  | _, _ => False

/-- Two runs over one input, the second `b` positions further on, stay related as long as a third run, which
keeps watch over the actions, does not fail. -/
theorem scan_sim {R : List UInt8 → Nat → δ → κ → κ' → Prop} {S : κ → κ' → Prop} {b : Nat}
    (hstep : ∀ c rest cs e p d d' k k', R (c :: rest) p d k k' → next cs c = some e →
      runActs track e.acts p d = some d' →
        ∃ k₁ k₁', runActs run e.acts p k = some k₁ ∧ runActs run' e.acts (b + p) k' = some k₁' ∧
          R rest (p + 1) d' k₁ k₁')
    (hS : ∀ rest p d k k', R rest p d k k' → S k k')
    {xs : List UInt8} {p cs : Nat} {d : δ} {k : κ} {k' : κ'} (h : R xs p d k k')
    (ht : scan next breaks track p xs cs d ≠ .fault) :
    (scan next breaks run p xs cs k).Rel b S (scan next breaks run' (b + p) xs cs k') := by
  induction xs generalizing p cs d k k' with
  | nil => exact ⟨rfl, hS _ _ _ _ _ h⟩
  | cons c xs ih =>
      cases he : next cs c with
      | none =>
          rw [scan_cons_err he, scan_cons_err he]
          exact ⟨rfl, hS _ _ _ _ _ h⟩
      | some e =>
          cases hd : runActs track e.acts p d with
          | none => exact absurd (scan_cons_fault he hd) ht
          | some d' =>
              obtain ⟨k₁, k₁', hr, hr', hk⟩ := hstep c xs cs e p d d' k k' h he hd
              cases hb : e.acts.any breaks with
              | true =>
                  rw [scan_cons_stop he hr hb, scan_cons_stop he hr' hb]
                  exact ⟨rfl, rfl, hS _ _ _ _ _ hk⟩
              | false =>
                  rw [scan_cons_live he hr hb, scan_cons_live he hr' hb]
                  rw [scan_cons_live he hd hb] at ht
                  exact ih hk ht

/-- What the automaton does alone, without the actions' data. -/
def path (next : Nat → UInt8 → Option (Edge Act)) (breaks : Act → Bool) (p : Nat) (xs : List UInt8) (cs : Nat) :
    Run Unit :=
  scan next breaks (fun _ _ u => some u) p xs cs ()

/-- The same end, whatever the data. -/
def Run.SameEnd (r : Run κ) (r' : Run κ') : Prop := Run.Rel 0 (fun _ _ => True) r r'

section RelEnd

variable {b cs p : Nat} {S : κ → κ' → Prop} {k : κ} {r : Run κ'}

theorem Run.Rel.of_live (h : Run.Rel b S (.live cs k) r) : ∃ k', r = .live cs k' ∧ S k k' := by
  cases r with
  | live cs' k' =>
      obtain ⟨rfl, hk⟩ := h
      exact ⟨k', rfl, hk⟩
  | err p' k' | stop p' cs' k' | fault => exact h.elim

theorem Run.Rel.of_err (h : Run.Rel b S (.err p k) r) : ∃ k', r = .err (b + p) k' ∧ S k k' := by
  cases r with
  | err p' k' =>
      obtain ⟨rfl, hk⟩ := h
      exact ⟨k', rfl, hk⟩
  | live cs' k' | stop p' cs' k' | fault => exact h.elim

theorem Run.Rel.of_stop (h : Run.Rel b S (.stop p cs k) r) : ∃ k', r = .stop (b + p) cs k' ∧ S k k' := by
  cases r with
  | stop p' cs' k' =>
      obtain ⟨rfl, rfl, hk⟩ := h
      exact ⟨k', rfl, hk⟩
  | live cs' k' | err p' k' | fault => exact h.elim

end RelEnd

theorem scan_sameEnd {xs : List UInt8} {p cs : Nat} {k : κ} (h : scan next breaks run p xs cs k ≠ .fault) :
    (scan next breaks run p xs cs k).SameEnd (path next breaks p xs cs) := by
  have hacts : ∀ (acts : List Act) (p : Nat), runActs (fun _ _ (u : Unit) => some u) acts p () = some () := by
    intro acts p
    induction acts with
    | nil => rfl
    | cons a acts ih => exact ih
  have hsim : (scan next breaks run p xs cs k).Rel 0 (fun _ _ => True)
      (scan next breaks (fun _ _ (u : Unit) => some u) (0 + p) xs cs ()) :=
    scan_sim (R := fun _ _ d k _ => d = k)
      (fun c rest cs e p d d' k k' hd he hr => ⟨d', (), hd ▸ hr, hacts _ _, rfl⟩) (fun _ _ _ _ _ _ => trivial) rfl h
  rw [Nat.zero_add] at hsim
  exact hsim

/-! ## Two runs from different states -/

/-- The run from `cs` is broken off at the last byte of the input, in state `final`. -/
def accepts (next : Nat → UInt8 → Option (Edge Act)) (breaks : Act → Bool) (final : Nat) : List UInt8 → Nat → Bool
  | [], _ => false
  | c :: rest, cs =>
      match next cs c with
      | none => false
      | some e =>
          if e.acts.any breaks then rest.isEmpty && e.target == final else accepts next breaks final rest e.target

section Beside

variable {c : UInt8} {cs a b final p : Nat} {k : κ} {xs rest : List UInt8} {I : Nat → Nat → κ → Prop}
  {J : Bool → Nat → Nat → κ → Prop}

theorem accepts_cons (h : accepts next breaks final (c :: rest) cs = true) :
    ∃ e, next cs c = some e ∧ if e.acts.any breaks then rest = [] ∧ e.target = final
      else accepts next breaks final rest e.target = true := by
  rw [accepts] at h
  split at h
  · cases h
  · next e he =>
      refine ⟨e, he, ?_⟩
      split
      · next hb =>
          rw [if_pos hb, Bool.and_eq_true, beq_iff_eq] at h
          exact ⟨List.isEmpty_iff.mp h.1, h.2⟩
      · next hb =>
          rw [if_neg hb] at h
          exact h

theorem scan_accepts {k' : κ} (h : scan next breaks run p xs cs k = .stop (p + xs.length) final k') :
    accepts next breaks final xs cs = true := by
  induction xs generalizing p cs k with
  | nil => cases h
  | cons c xs ih =>
      cases he : next cs c with
      | none =>
          rw [scan_cons_err he] at h
          cases h
      | some e =>
          cases hk : runActs run e.acts p k with
          | none =>
              rw [scan_cons_fault he hk] at h
              cases h
          | some k₁ =>
              simp only [accepts, he]
              cases hb : e.acts.any breaks with
              | true =>
                  rw [scan_cons_stop he hk hb, List.length_cons] at h
                  simp only [Run.stop.injEq] at h
                  have hnil : xs = [] := List.eq_nil_of_length_eq_zero (by omega)
                  rw [hnil, h.2.1]
                  simp
              | false =>
                  rw [scan_cons_live he hk hb, List.length_cons, Nat.add_comm xs.length, ← Nat.add_assoc] at h
                  exact ih h

/-- How a run over `xs` ends beside another, which starts in a different state and is broken off at the end of
`xs ++ rest`: both live on as `I` says, or the first is broken off, with the second or where `J` says of it. -/
def Run.Beside (next : Nat → UInt8 → Option (Edge Act)) (breaks : Act → Bool) (final : Nat)
    (I : Nat → Nat → κ → Prop) (J : Bool → Nat → Nat → κ → Prop) (p : Nat) (xs rest : List UInt8) : Run κ → Prop
  | .live a k => ∃ b, I a b k ∧ accepts next breaks final rest b = true
  | .stop p' a k => ∃ both b n, J both a b k ∧ p' = p + n ∧ n ≤ xs.length ∧
      if both then xs.drop n ++ rest = [] ∧ b = final else accepts next breaks final (xs.drop n ++ rest) b = true
  | .err _ _ => True
  | .fault => True

theorem Run.Beside.cons {r : Run κ} (h : r.Beside next breaks final I J (p + 1) xs rest) :
    r.Beside next breaks final I J p (c :: xs) rest := by
  cases r with
  | live a k => exact h
  | err p' k => trivial
  | fault => trivial
  | stop p' a k =>
      obtain ⟨both, b, n, hJ, hp, hn, hend⟩ := h
      exact ⟨both, b, n + 1, hJ, by rw [hp, Nat.add_assoc, Nat.add_comm 1], Nat.succ_le_succ hn, hend⟩

/-- Two runs over the same bytes, step by step. -/
theorem scan_beside
    (hstep : ∀ {a b : Nat} {k k' : κ} {c : UInt8} {e f : Edge Act} {p : Nat}, I a b k → next a c = some e →
      next b c = some f → runActs run e.acts p k = some k' →
        if e.acts.any breaks then J (f.acts.any breaks) e.target f.target k'
        else f.acts.any breaks = false ∧ I e.target f.target k')
    (h : I a b k) (hacc : accepts next breaks final (xs ++ rest) b = true) :
    (scan next breaks run p xs a k).Beside next breaks final I J p xs rest := by
  induction xs generalizing p a b k with
  | nil => exact ⟨b, h, hacc⟩
  | cons c xs ih =>
      obtain ⟨f, hf, hrest⟩ := accepts_cons hacc
      cases he : next a c with
      | none =>
          rw [scan_cons_err he]
          trivial
      | some e =>
          cases hk : runActs run e.acts p k with
          | none =>
              rw [scan_cons_fault he hk]
              trivial
          | some k' =>
              have hnext := hstep h he hf hk
              cases hb : e.acts.any breaks with
              | true =>
                  rw [hb, if_pos rfl] at hnext
                  rw [scan_cons_stop he hk hb]
                  exact ⟨_, _, 1, hnext, rfl, Nat.succ_pos _, hrest⟩
              | false =>
                  rw [hb, if_neg Bool.false_ne_true] at hnext
                  obtain ⟨hlive, hnext⟩ := hnext
                  rw [hlive, if_neg Bool.false_ne_true] at hrest
                  rw [scan_cons_live he hk hb]
                  exact (ih hnext hrest).cons

end Beside

/-! ## Where a byte leads

Two tables of one automaton may cut the bytes into different ranges; what a byte does is the actions of its edge
and the target. -/

section Walk

variable {σ : Type} {step : σ → UInt8 → Option (List Act × σ)} {s t : σ} {c : UInt8} {xs ys : List UInt8}

/-- The actions of the edge for a byte, and its target. -/
def goto (next : Nat → UInt8 → Option (Edge Act)) (cs : Nat) (c : UInt8) : Option (List Act × Nat) :=
  (next cs c).map fun e => (e.acts, e.target)

/-- The state that bytes lead to whose edges have no actions. -/
def walk (step : σ → UInt8 → Option (List Act × σ)) : List UInt8 → σ → Option σ
  | [], s => some s
  | c :: xs, s => (step s c).bind fun (acts, s) => if acts.isEmpty then walk step xs s else none

theorem walk_cons (h : step s c = some ([], t)) (xs : List UInt8) : walk step (c :: xs) s = walk step xs t := by
  rw [walk, h]
  rfl

end Walk

section Goto

variable {p cs t : Nat} {c : UInt8} {xs ys : List UInt8} {k k' : κ} {acts : List Act}

theorem scan_goto_live (h : goto next cs c = some (acts, t)) (hr : runActs run acts p k = some k')
    (hb : acts.any breaks = false) :
    scan next breaks run p (c :: xs) cs k = scan next breaks run (p + 1) xs t k' := by
  obtain ⟨e, he, heq⟩ := Option.map_eq_some_iff.mp h
  obtain ⟨rfl, rfl⟩ := Prod.mk.inj heq
  exact scan_cons_live he hr hb

theorem scan_goto_stop (h : goto next cs c = some (acts, t)) (hr : runActs run acts p k = some k')
    (hb : acts.any breaks = true) : scan next breaks run p (c :: xs) cs k = .stop (p + 1) t k' := by
  obtain ⟨e, he, heq⟩ := Option.map_eq_some_iff.mp h
  obtain ⟨rfl, rfl⟩ := Prod.mk.inj heq
  exact scan_cons_stop he hr hb

theorem scan_goto_none (h : goto next cs c = none) : scan next breaks run p (c :: xs) cs k = .err p k :=
  scan_cons_err (Option.map_eq_none_iff.mp h)

theorem scan_goto_congr {cs' : Nat} (h : goto next cs c = goto next cs' c) :
    scan next breaks run p (c :: xs) cs k = scan next breaks run p (c :: xs) cs' k := by
  cases h' : goto next cs' c with
  | none => rw [scan_goto_none (h.trans h'), scan_goto_none h']
  | some edge =>
      obtain ⟨acts, t⟩ := edge
      obtain ⟨e, he, heq⟩ := Option.map_eq_some_iff.mp (h.trans h')
      obtain ⟨f, hf, hfeq⟩ := Option.map_eq_some_iff.mp h'
      obtain ⟨hacts, htarget⟩ := Prod.mk.inj (heq.trans hfeq.symm)
      simp only [scan, he, hf, hacts, htarget]

/-- A byte from a state where one more action comes first. -/
theorem scan_goto_cons {cs' : Nat} {a : Act} (h : goto next cs c = some (a :: acts, t))
    (h' : goto next cs' c = some (acts, t)) (hr : run a p k = some k') (hb : breaks a = false) :
    scan next breaks run p (c :: xs) cs k = scan next breaks run p (c :: xs) cs' k' := by
  obtain ⟨e, he, heq⟩ := Option.map_eq_some_iff.mp h
  obtain ⟨f, hf, hfeq⟩ := Option.map_eq_some_iff.mp h'
  obtain ⟨hacts, htarget⟩ := Prod.mk.inj heq
  obtain ⟨hacts', htarget'⟩ := Prod.mk.inj hfeq
  simp only [scan, he, hf, hacts, hacts', htarget, htarget', runActs, List.foldlM_cons, hr, Option.bind_eq_bind,
    Option.bind_some, List.any_cons, hb, Bool.false_or]

theorem scan_walk (h : walk (goto next) xs cs = some t) :
    scan next breaks run p (xs ++ ys) cs k = scan next breaks run (p + xs.length) ys t k := by
  induction xs generalizing p cs with
  | nil =>
      cases h
      rfl
  | cons c xs ih =>
      rw [walk] at h
      obtain ⟨⟨acts, s⟩, hgoto, h⟩ := Option.bind_eq_some_iff.mp h
      simp only at h
      split at h
      · next hacts =>
          rw [List.isEmpty_iff] at hacts
          subst hacts
          rw [List.cons_append, scan_goto_live hgoto rfl rfl, ih h, List.length_cons, Nat.add_right_comm, Nat.add_assoc]
      · cases h

theorem scan_goto_failed (h : goto next cs c = some (acts, t)) (hb : acts.any breaks = false)
    (hrest : ∀ p k, (scan next breaks run p xs t k).Failed) : (scan next breaks run p (c :: xs) cs k).Failed := by
  cases hr : runActs run acts p k with
  | none =>
      obtain ⟨e, he, heq⟩ := Option.map_eq_some_iff.mp h
      obtain ⟨rfl, rfl⟩ := Prod.mk.inj heq
      rw [scan_cons_fault he hr]
      trivial
  | some k' =>
      rw [scan_goto_live h hr hb]
      exact hrest _ _

end Goto

/-! ## Classes of bytes -/

theorem forall_mem_of_all {α : Type} {P : α → Prop} [DecidablePred P] {l : List α}
    (h : (l.all fun a => decide (P a)) = true) (a : α) (ha : a ∈ l) : P a :=
  of_decide_eq_true (List.all_eq_true.mp h a ha)

theorem forall_byte {P : UInt8 → Prop} (h : ∀ n < 256, P (UInt8.ofNat n)) (c : UInt8) : P c := by
  have hc := h c.toNat c.toNat_lt
  rwa [UInt8.ofNat_toNat] at hc

/-- Bytes, as ranges. -/
abbrev CharClass := List (Nat × Nat)

def CharClass.has (cl : CharClass) (c : UInt8) : Bool := cl.any fun (lo, hi) => lo ≤ c.toNat && c.toNat ≤ hi

theorem CharClass.has_append {cl cl' : CharClass} {c : UInt8} : (cl ++ cl').has c = (cl.has c || cl'.has c) :=
  List.any_append

/-- No byte is in two of the edges. -/
def apart : List (Edge Act) → Bool
  | [] => true
  | e :: edges => (edges.all fun f => e.hi.blt f.lo || f.hi.blt e.lo) && apart edges

/-- The first number from `lo` on that no edge with the property contains, for edges in their order. -/
def covered (P : Edge Act → Bool) : List (Edge Act) → Nat → Nat
  | [], lo => lo
  | e :: edges, lo => covered P edges (bif P e && (e.lo.ble lo && lo.ble e.hi) then e.hi + 1 else lo)

/-- Every byte of the class has an edge, one with the property. -/
def covers (edges : List (Edge Act)) (cl : CharClass) (P : Edge Act → Bool) : Bool :=
  apart edges && cl.all fun (lo, hi) => hi.blt (covered P edges lo)

/-- No byte of the class has an edge. -/
def misses (edges : List (Edge Act)) (cl : CharClass) : Bool :=
  edges.all fun e => cl.all fun (lo, hi) => hi.blt e.lo || e.hi.blt lo

section Covers

variable {edges : List (Edge Act)} {cl : CharClass} {P : Edge Act → Bool} {e : Edge Act} {c : UInt8} {m lo : Nat}

theorem exists_of_covered (hlo : lo ≤ m) (hm : m < covered P edges lo) :
    ∃ e ∈ edges, P e = true ∧ e.lo ≤ m ∧ m ≤ e.hi := by
  induction edges generalizing lo with
  | nil => exact absurd hm (Nat.not_lt.mpr hlo)
  | cons e edges ih =>
      rw [covered, Bool.cond_eq_ite] at hm
      by_cases h : P e = true ∧ e.lo ≤ lo ∧ lo ≤ e.hi
      · rw [if_pos (by simpa using h)] at hm
        by_cases hle : m ≤ e.hi
        · exact ⟨e, List.mem_cons_self, h.1, by omega, hle⟩
        · obtain ⟨f, hf, hP⟩ := ih (by omega) hm
          exact ⟨f, List.mem_cons_of_mem _ hf, hP⟩
      · rw [if_neg (by simpa using h)] at hm
        obtain ⟨f, hf, hP⟩ := ih hlo hm
        exact ⟨f, List.mem_cons_of_mem _ hf, hP⟩

theorem find?_of_apart (h : apart edges = true) (he : e ∈ edges) (hlo : e.lo ≤ m) (hhi : m ≤ e.hi) :
    (edges.find? fun e => e.lo ≤ m && m ≤ e.hi) = some e := by
  induction edges with
  | nil => cases he
  | cons f edges ih =>
      rw [apart, Bool.and_eq_true, List.all_eq_true] at h
      rcases List.mem_cons.mp he with rfl | he
      · exact List.find?_cons_of_pos (by simp [hlo, hhi])
      · have hapart := h.1 e he
        simp only [Bool.or_eq_true, Nat.blt_eq] at hapart
        rw [List.find?_cons_of_neg (by simp; omega)]
        exact ih h.2 he

theorem find?_of_covers (h : covers edges cl P = true) (hc : cl.has c = true) :
    ∃ e, (edges.find? fun e => e.lo ≤ c.toNat && c.toNat ≤ e.hi) = some e ∧ P e = true := by
  rw [covers, Bool.and_eq_true, List.all_eq_true] at h
  obtain ⟨⟨lo, hi⟩, hmem, hrange⟩ := List.any_eq_true.mp hc
  simp only [Bool.and_eq_true, decide_eq_true_eq] at hrange
  have hcovered := h.2 _ hmem
  simp only [Nat.blt_eq] at hcovered
  obtain ⟨e, he, hP, hlo, hhi⟩ := exists_of_covered hrange.1 (Nat.lt_of_le_of_lt hrange.2 hcovered)
  exact ⟨e, find?_of_apart h.1 he hlo hhi, hP⟩

theorem find?_of_misses (h : misses edges cl = true) (hc : cl.has c = true) :
    (edges.find? fun e => e.lo ≤ c.toNat && c.toNat ≤ e.hi) = none := by
  obtain ⟨⟨lo, hi⟩, hmem, hrange⟩ := List.any_eq_true.mp hc
  simp only [Bool.and_eq_true, decide_eq_true_eq] at hrange
  refine List.find?_eq_none.mpr fun e he => ?_
  have hapart := List.all_eq_true.mp (List.all_eq_true.mp h e he) _ hmem
  simp only [Bool.or_eq_true, Nat.blt_eq] at hapart
  simp only [Bool.and_eq_true, decide_eq_true_eq]
  omega

end Covers

end Mingfwq.Lib
