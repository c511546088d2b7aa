import Mingfwq.Lib.Region

/-!
# States that spell a word

Some states of a region are reached by one word only, up to a fold of its bytes such as that of upper case to lower
case. Then the state a run ends in says what the run has read.
-/

namespace Mingfwq.Lib

/-- The word that leads to a state. -/
abbrev Spelling := List (Nat × List UInt8)

variable {Act : Type} {t : Table Act} {P : States} {fold : UInt8 → UInt8} {words : Spelling} {s n : Nat} {c : UInt8}
  {xs v w : List UInt8} {acts : List Act}

/-- An edge to a state with a word starts at one with this word but for its last byte, which is that of the edge. -/
def Table.spells (t : Table Act) (P : States) (fold : UInt8 → UInt8) (words : Spelling) : Bool :=
  t.all fun row => !P.has row.1 || row.2.all fun e =>
    match words.lookup e.target with
    | none => true
    | some w => (words.lookup row.1).any fun v =>
        (List.range' e.lo (e.hi + 1 - e.lo)).all fun b => w == v ++ [fold (UInt8.ofNat b)]

theorem Table.lookup_of_spells (h : t.spells P fold words = true) (hs : P.has s = true)
    (hgoto : goto t.next s c = some (acts, n)) (hn : words.lookup n = some w) :
    ∃ v, words.lookup s = some v ∧ w = v ++ [fold c] := by
  obtain ⟨e, he, hlo, hhi, -, rfl⟩ := t.exists_edge hgoto
  rw [t.edges_eq] at he
  cases hrow : t.lookup s with
  | none => simp [hrow] at he
  | some edges =>
      rw [hrow, Option.getD_some] at he
      obtain ⟨l₁, l₂, rfl, -⟩ := List.lookup_eq_some_iff.mp hrow
      have hedges := List.all_eq_true.mp h (s, edges) (by simp)
      simp only [hs, Bool.not_true, Bool.false_or, List.all_eq_true] at hedges
      have hedge := hedges e he
      simp only [hn, Option.any_eq_true, List.all_eq_true, beq_iff_eq] at hedge
      obtain ⟨v, hv, hbytes⟩ := hedge
      have hc := hbytes c.toNat (List.mem_range'_1.mpr ⟨hlo, by omega⟩)
      rw [UInt8.ofNat_toNat] at hc
      exact ⟨v, hv, hc⟩

/-- Where a run ends says what it has read. -/
theorem Table.lookup_of_within (h : t.spells P fold words = true) (hs : P.has s = true)
    (hw : Within t.next P xs s n) (hn : words.lookup n = some w) :
    ∃ v, words.lookup s = some v ∧ w = v ++ xs.map fold := by
  induction hw with
  | nil => exact ⟨w, hn, by simp⟩
  | cons hgoto hu hw ih =>
      obtain ⟨v, hv, rfl⟩ := ih hu hn
      obtain ⟨v', hv', rfl⟩ := t.lookup_of_spells h hs hgoto hv
      exact ⟨v', hv', by simp⟩

/-- The same of a region that is entered from one more state. -/
theorem Table.lookup_of_entered {u : Nat} (h : t.spells ((s, s) :: P) fold words = true)
    (hgoto : goto t.next s c = some (acts, u)) (hu : P.has u = true) (hw : Within t.next P xs u n)
    (hn : words.lookup n = some w) : ∃ v, words.lookup s = some v ∧ w = v ++ (c :: xs).map fold := by
  have hsub : ∀ n, P.has n = true → States.has ((s, s) :: P) n = true := fun n hn => States.has_cons.mpr (.inr hn)
  obtain ⟨v, hv, rfl⟩ := t.lookup_of_within h (hsub u hu) (hw.mono hsub) hn
  obtain ⟨v', hv', rfl⟩ := t.lookup_of_spells h (States.has_cons.mpr (.inl rfl)) hgoto hv
  exact ⟨v', hv', by simp⟩

/-! ## Runs over any bytes of a class -/

/-- From every state of the region the bytes of the class lead to it without actions. -/
def Table.loops (t : Table Act) (P : States) (cl : CharClass) : Bool :=
  P.toList.all fun s => covers (t.edges s) cl fun e => e.acts.isEmpty && P.has e.target

theorem Table.within_of_loops {cl : CharClass} (h : t.loops P cl = true) (hs : P.has s = true)
    (hxs : ∀ c ∈ xs, cl.has c = true) : ∃ n, P.has n = true ∧ Within t.next P xs s n := by
  induction xs generalizing s with
  | nil => exact ⟨s, hs, .nil⟩
  | cons c xs ih =>
      have hcovers := List.all_eq_true.mp h s (States.mem_toList.mpr hs)
      obtain ⟨u, hu, hgoto⟩ := t.exists_goto hcovers (hxs c List.mem_cons_self)
      obtain ⟨n, hn, hw⟩ := ih hu fun d hd => hxs d (List.mem_cons_of_mem _ hd)
      exact ⟨n, hn, .cons hgoto hu hw⟩

end Mingfwq.Lib
