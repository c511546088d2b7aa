import Mingfwq.Lib.UriSyntax

/-!
# Regions of an automaton

A region is a set of states. A run goes on in a region over edges without actions until it comes to an edge that leads
out or has actions; a table has few of these for each region, and that there are no others is computed.
-/

namespace Mingfwq.Lib

/-- States, as ranges. -/
abbrev States := List (Nat × Nat)

def States.has (Q : States) (s : Nat) : Bool := Q.any fun (lo, hi) => lo.ble s && s.ble hi

/-- The states one by one. -/
def States.toList (Q : States) : List Nat := Q.flatMap fun (lo, hi) => List.range' lo (hi + 1 - lo)

theorem States.mem_toList {Q : States} {s : Nat} : s ∈ Q.toList ↔ Q.has s = true := by
  simp only [toList, has, List.mem_flatMap, List.mem_range'_1, List.any_eq_true, Bool.and_eq_true, Nat.ble_eq]
  constructor
  · rintro ⟨r, hr, hlo, hhi⟩
    exact ⟨r, hr, hlo, by omega⟩
  · rintro ⟨r, hr, hlo, hhi⟩
    exact ⟨r, hr, hlo, by omega⟩

theorem States.has_singleton {s n : Nat} : States.has [(s, s)] n = true ↔ n = s := by
  simp only [has, List.any_cons, List.any_nil, Bool.or_false, Bool.and_eq_true, Nat.ble_eq]
  omega

theorem States.has_cons {Q : States} {s n : Nat} : States.has ((s, s) :: Q) n = true ↔ n = s ∨ Q.has n = true := by
  rw [← has_singleton, has, List.any_cons, Bool.or_eq_true, has, has, List.any_cons, List.any_nil, Bool.or_false]

variable {Act : Type} {t : Table Act} {next : Nat → UInt8 → Option (Edge Act)} {Q P starts : States}
  {exits : List (Edge Act)} {cl : CharClass} {s u u' n : Nat} {c : UInt8} {xs ys : List UInt8} {acts : List Act}
  {e : Edge Act}

/-! ## The edges of a state -/

/-- By the recursor, which is fast to compute with. -/
def Table.edges (t : Table Act) (cs : Nat) : List (Edge Act) :=
  t.rec (motive := fun _ => List (Edge Act)) [] fun row _ edges => cond (cs.beq row.1) row.2 edges

theorem Table.edges_eq (t : Table Act) (cs : Nat) : t.edges cs = (t.lookup cs).getD [] := by
  induction t with
  | nil => rfl
  | cons row t ih =>
      obtain ⟨n, edges⟩ := row
      have hcons : Table.edges ((n, edges) :: t) cs = cond (cs.beq n) edges (Table.edges t cs) := rfl
      rw [hcons, ih, List.lookup_cons]
      cases h : cs.beq n with
      | true => rw [Nat.eq_of_beq_eq_true h, beq_self_eq_true]; rfl
      | false => rw [beq_eq_false_iff_ne.mpr (Nat.ne_of_beq_eq_false h)]; rfl

theorem Table.next_eq (t : Table Act) (cs : Nat) (c : UInt8) :
    t.next cs c = (t.edges cs).find? fun e => e.lo ≤ c.toNat && c.toNat ≤ e.hi := by
  rw [Table.next, t.edges_eq]
  cases t.lookup cs <;> rfl

theorem Table.goto_of_misses (h : misses (t.edges s) cl = true) (hc : cl.has c = true) : goto t.next s c = none := by
  rw [goto, t.next_eq, find?_of_misses h hc]
  rfl

theorem Table.exists_edge (h : goto t.next s c = some (acts, n)) :
    ∃ e ∈ t.edges s, e.lo ≤ c.toNat ∧ c.toNat ≤ e.hi ∧ e.acts = acts ∧ e.target = n := by
  obtain ⟨e, he, heq⟩ := Option.map_eq_some_iff.mp h
  rw [t.next_eq] at he
  have hrange := List.find?_some he
  simp only [Bool.and_eq_true, decide_eq_true_eq] at hrange
  exact ⟨e, List.mem_of_find?_eq_some he, hrange.1, hrange.2, (Prod.mk.inj heq).1, (Prod.mk.inj heq).2⟩

theorem Table.exists_goto (h : covers (t.edges s) cl (fun e => e.acts.isEmpty && P.has e.target) = true)
    (hc : cl.has c = true) : ∃ n, P.has n = true ∧ goto t.next s c = some ([], n) := by
  obtain ⟨e, he, hP⟩ := find?_of_covers h hc
  simp only [Bool.and_eq_true, List.isEmpty_iff] at hP
  exact ⟨e.target, hP.2, by rw [goto, t.next_eq, he, Option.map_some, hP.1]⟩

/-- What every edge from these states has. -/
def Table.forEdges (t : Table Act) (Q : States) (f : Edge Act → Bool) : Bool :=
  t.all fun row => !Q.has row.1 || row.2.all f

theorem Table.of_forEdges {f : Edge Act → Bool} (h : t.forEdges Q f = true) (hs : Q.has s = true)
    (he : e ∈ t.edges s) : f e = true := by
  rw [t.edges_eq] at he
  cases hrow : t.lookup s with
  | none =>
      rw [hrow] at he
      exact absurd he List.not_mem_nil
  | some edges =>
      rw [hrow] at he
      obtain ⟨l₁, l₂, rfl, -⟩ := List.lookup_eq_some_iff.mp hrow
      have hedges := List.all_eq_true.mp h (s, edges) (by simp)
      rw [hs, Bool.not_true, Bool.false_or] at hedges
      exact List.all_eq_true.mp hedges e he

/-- The bytes of an edge are in the class. -/
def Edge.inClass (e : Edge Act) (cl : CharClass) : Bool :=
  (List.range' e.lo (e.hi + 1 - e.lo)).all fun n => cl.any fun (lo, hi) => lo.ble n && n.ble hi

theorem Edge.has_of_inClass (h : e.inClass cl = true) (hlo : e.lo ≤ c.toNat) (hhi : c.toNat ≤ e.hi) :
    cl.has c = true := by
  have hany := List.all_eq_true.mp h c.toNat (List.mem_range'_1.mpr ⟨hlo, by omega⟩)
  simpa [CharClass.has] using hany

theorem Edge.has_of_misses (h : misses [e] cl = true) (hlo : e.lo ≤ c.toNat) (hhi : c.toNat ≤ e.hi) :
    cl.has c = false := by
  cases hc : cl.has c with
  | false => rfl
  | true =>
      have hnone := List.find?_eq_none.mp (find?_of_misses h hc) e List.mem_cons_self
      simp only [Bool.and_eq_true, decide_eq_true_eq] at hnone
      exact absurd ⟨hlo, hhi⟩ hnone

/-! ## Runs within a region -/

/-- The bytes lead from one state to the other without actions, to states of the region only. -/
inductive Within (next : Nat → UInt8 → Option (Edge Act)) (Q : States) : List UInt8 → Nat → Nat → Prop
  | nil {s : Nat} : Within next Q [] s s
  | cons {s u n : Nat} {c : UInt8} {xs : List UInt8} :
      goto next s c = some ([], u) → Q.has u = true → Within next Q xs u n → Within next Q (c :: xs) s n

theorem Within.walk (h : Within next Q xs s n) : walk (goto next) xs s = some n := by
  induction h with
  | nil => rfl
  | cons hgoto _ _ ih => rw [walk_cons hgoto, ih]

theorem Within.has (h : Within next Q xs s n) (hs : Q.has s = true) : Q.has n = true := by
  induction h with
  | nil => exact hs
  | cons _ hu _ ih => exact ih hu

theorem Within.mono (h : Within next Q xs s n) (hsub : ∀ n, Q.has n = true → P.has n = true) :
    Within next P xs s n := by
  induction h with
  | nil => exact .nil
  | cons hgoto hu _ ih => exact .cons hgoto (hsub _ hu) ih

theorem Within.forall_mem {p : UInt8 → Prop} (h : Within next Q xs s n) (hs : Q.has s = true)
    (hp : ∀ s c u, Q.has s = true → Q.has u = true → goto next s c = some ([], u) → p c) : ∀ c ∈ xs, p c := by
  induction h with
  | nil => exact fun c hc => absurd hc List.not_mem_nil
  | cons hgoto hu _ ih => exact List.forall_mem_cons.mpr ⟨hp _ _ _ hs hu hgoto, ih hu⟩

/-- Where a run through a region ends: with the input, at a byte without an edge, or at an exit. -/
inductive Ends (t : Table Act) (exits : List (Edge Act)) (s : Nat) : List UInt8 → Prop
  | nil : Ends t exits s []
  | stuck {c : UInt8} {xs : List UInt8} : t.next s c = none → Ends t exits s (c :: xs)
  | exit {c : UInt8} {xs : List UInt8} {e : Edge Act} :
      e ∈ exits → t.next s c = some e → e.lo ≤ c.toNat → c.toNat ≤ e.hi → Ends t exits s (c :: xs)

section Region

variable [DecidableEq Act]

/-- The edges of a state at the bytes of a class are one as to actions and target. -/
def Table.leads (t : Table Act) (s : Nat) (cl : CharClass) (acts : List Act) (n : Nat) : Bool :=
  covers (t.edges s) cl fun e => e.acts == acts && e.target == n

theorem Table.goto_of_leads (h : t.leads s cl acts n = true) (hc : cl.has c = true) :
    goto t.next s c = some (acts, n) := by
  obtain ⟨e, he, hP⟩ := find?_of_covers h hc
  simp only [Bool.and_eq_true, beq_iff_eq] at hP
  rw [goto, t.next_eq, he, Option.map_some, hP.1, hP.2]

/-- From these states the edges lead into the region with these actions, or are among the exits. -/
def Table.region (t : Table Act) (starts : States) (acts : List Act) (Q : States) (exits : List (Edge Act)) : Bool :=
  t.forEdges starts fun e => e.acts == acts && Q.has e.target || exits.contains e

theorem Table.next_of_region (h : t.region starts acts Q exits = true) (hs : starts.has s = true) :
    t.next s c = none ∨ (∃ u, Q.has u = true ∧ goto t.next s c = some (acts, u)) ∨
      ∃ e ∈ exits, t.next s c = some e ∧ e.lo ≤ c.toNat ∧ c.toNat ≤ e.hi := by
  cases he : t.next s c with
  | none => exact .inl rfl
  | some e =>
      rw [t.next_eq] at he
      have hrange := List.find?_some he
      have hedge := t.of_forEdges h hs (List.mem_of_find?_eq_some he)
      simp only [Bool.and_eq_true, decide_eq_true_eq] at hrange
      simp only [Bool.or_eq_true, Bool.and_eq_true, beq_iff_eq, List.contains_iff_mem] at hedge
      rcases hedge with ⟨hacts, htarget⟩ | hexit
      · refine .inr (.inl ⟨e.target, htarget, ?_⟩)
        rw [goto, t.next_eq, he, Option.map_some, hacts]
      · exact .inr (.inr ⟨e, hexit, rfl, hrange⟩)

theorem Table.exists_within (h : t.region Q [] Q exits = true) (hs : Q.has s = true) (xs : List UInt8) :
    ∃ ys zs n, xs = ys ++ zs ∧ Within t.next Q ys s n ∧ Q.has n = true ∧ Ends t exits n zs := by
  induction xs generalizing s with
  | nil => exact ⟨[], [], s, rfl, .nil, hs, .nil⟩
  | cons c xs ih =>
      rcases t.next_of_region h hs with hnone | ⟨u, hu, hgoto⟩ | ⟨e, he, hnext, hlo, hhi⟩
      · exact ⟨[], c :: xs, s, rfl, .nil, hs, .stuck hnone⟩
      · obtain ⟨ys, zs, n, rfl, hwithin, hn, hends⟩ := ih hu
        exact ⟨c :: ys, zs, n, rfl, .cons hgoto hu hwithin, hn, hends⟩
      · exact ⟨[], c :: xs, s, rfl, .nil, hs, .exit he hnext hlo hhi⟩

end Region

/-! ## Words -/

/-- The states of `P`, and those behind a percent sign and behind the digit that follows it. -/
def States.withPercent (P : States) (u u' : Nat) : States := (u, u) :: (u', u') :: P

theorem States.has_withPercent : (P.withPercent u u').has s = true ↔ s = u ∨ s = u' ∨ P.has s = true := by
  rw [withPercent, has_cons, has_cons]

/-- In the states of `P` the automaton reads words over the class, with the states `u` and `u'` behind the `%`. -/
structure Words (next : Nat → UInt8 → Option (Edge Act)) (cl : CharClass) (P : States) (u u' : Nat) : Prop where
  plain : ∀ s, P.has s = true → ∀ c, cl.has c = true → ∃ n, P.has n = true ∧ goto next s c = some ([], n)
  percent : ∀ s, P.has s = true → goto next s 37 = some ([], u)
  first : ∀ c, CharClass.xdigit.has c = true → goto next u c = some ([], u')
  second : ∀ c, CharClass.xdigit.has c = true → ∃ n, P.has n = true ∧ goto next u' c = some ([], n)

theorem Words.within (h : Words next cl P u u') (hxs : Coded cl xs) (hs : P.has s = true) :
    ∃ n, P.has n = true ∧ Within next (P.withPercent u u') xs s n := by
  induction hxs generalizing s with
  | nil => exact ⟨s, hs, .nil⟩
  | plain hc _ ih =>
      obtain ⟨v, hv, hgoto⟩ := h.plain s hs _ hc
      obtain ⟨n, hn, hwithin⟩ := ih hv
      exact ⟨n, hn, .cons hgoto (States.has_withPercent.mpr (.inr (.inr hv))) hwithin⟩
  | coded ha hb _ ih =>
      obtain ⟨v, hv, hgoto⟩ := h.second _ hb
      obtain ⟨n, hn, hwithin⟩ := ih hv
      have hu : (P.withPercent u u').has u = true := States.has_withPercent.mpr (.inl rfl)
      have hu' : (P.withPercent u u').has u' = true := States.has_withPercent.mpr (.inr (.inl rfl))
      have hv' : (P.withPercent u u').has v = true := States.has_withPercent.mpr (.inr (.inr hv))
      exact ⟨n, hn, .cons (h.percent s hs) hu (.cons (h.first _ ha) hu' (.cons hgoto hv' hwithin))⟩

/-- Within the region only words are read. -/
def Table.onlyWords (t : Table Act) (cl : CharClass) (P : States) (u u' : Nat) : Bool :=
  !P.has u && !P.has u' &&
    (t.forEdges P fun e => !e.acts.isEmpty || !(P.withPercent u u').has e.target ||
      (P.has e.target && e.inClass cl || e.target == u && e.lo == 37 && e.hi == 37)) &&
    (t.forEdges [(u, u)] fun e => e.target == u' && e.inClass .xdigit) &&
    t.forEdges [(u', u')] fun e => P.has e.target && e.inClass .xdigit

/-- What the check says. -/
structure OnlyWords (t : Table Act) (cl : CharClass) (P : States) (u u' : Nat) : Prop where
  apart : P.has u ≠ true
  apart' : P.has u' ≠ true
  plain : ∀ s, P.has s = true → ∀ e ∈ t.edges s, e.acts = [] → (P.withPercent u u').has e.target = true →
    P.has e.target = true ∧ e.inClass cl = true ∨ e.target = u ∧ e.lo = 37 ∧ e.hi = 37
  first : ∀ e ∈ t.edges u, e.target = u' ∧ e.inClass .xdigit = true
  second : ∀ e ∈ t.edges u', P.has e.target = true ∧ e.inClass .xdigit = true

theorem Table.onlyWords_of (h : t.onlyWords cl P u u' = true) : OnlyWords t cl P u u' := by
  simp only [Table.onlyWords, Bool.and_eq_true, Bool.not_eq_true', ← Bool.not_eq_true] at h
  obtain ⟨⟨⟨⟨hu, hu'⟩, hplain⟩, hfirst⟩, hsecond⟩ := h
  refine ⟨hu, hu', fun s hs e he hacts htarget => ?_, fun e he => ?_, fun e he => ?_⟩
  · have hedge := t.of_forEdges hplain hs he
    rw [hacts, htarget] at hedge
    simpa [and_assoc] using hedge
  · simpa using t.of_forEdges hfirst (States.has_singleton.mpr rfl) he
  · simpa using t.of_forEdges hsecond (States.has_singleton.mpr rfl) he

/-- Behind the percent sign two digits have to come. -/
theorem OnlyWords.exists_digits (h : OnlyWords t cl P u u') (hw : Within t.next (P.withPercent u u') xs u n)
    (hn : P.has n = true) :
    ∃ a b ys s, xs = a :: b :: ys ∧ CharClass.xdigit.has a = true ∧ CharClass.xdigit.has b = true ∧ P.has s = true ∧
      Within t.next (P.withPercent u u') ys s n := by
  cases hw with
  | nil => exact absurd hn h.apart
  | @cons _ _ _ a xs hgoto _ hw =>
      obtain ⟨f, hf, hlo, hhi, -, rfl⟩ := t.exists_edge hgoto
      obtain ⟨htarget, hclass⟩ := h.first f hf
      have ha := f.has_of_inClass hclass hlo hhi
      rw [htarget] at hw
      cases hw with
      | nil => exact absurd hn h.apart'
      | @cons _ _ _ b ys hgoto _ hw =>
          obtain ⟨f, hf, hlo, hhi, -, rfl⟩ := t.exists_edge hgoto
          obtain ⟨htarget, hclass⟩ := h.second f hf
          exact ⟨a, b, ys, f.target, rfl, ha, f.has_of_inClass hclass hlo hhi, htarget, hw⟩

theorem OnlyWords.has_of_exit {m : Nat} (h : OnlyWords t cl P u u') (hs : (P.withPercent u u').has s = true)
    (hgoto : goto t.next s c = some (acts, m)) (hm : (P.withPercent u u').has m ≠ true) : P.has s = true := by
  obtain ⟨e, he, -, -, -, rfl⟩ := t.exists_edge hgoto
  rcases States.has_withPercent.mp hs with rfl | rfl | hs
  · exact absurd (States.has_withPercent.mpr (.inr (.inl (h.first e he).1))) hm
  · exact absurd (States.has_withPercent.mpr (.inr (.inr (h.second e he).1))) hm
  · exact hs

theorem OnlyWords.byte_eq (hlo : e.lo ≤ c.toNat) (hhi : c.toNat ≤ e.hi) (h37 : e.lo = 37) (h37' : e.hi = 37) :
    c = 37 := by
  rw [h37] at hlo
  rw [h37'] at hhi
  exact UInt8.toNat_inj.mp (Nat.le_antisymm hhi hlo)

theorem OnlyWords.coded (h : OnlyWords t cl P u u') (hw : Within t.next (P.withPercent u u') xs s n)
    (hs : P.has s = true) (hn : P.has n = true) : Coded cl xs := by
  induction hlen : xs.length using Nat.strongRecOn generalizing xs s with
  | ind k ih =>
      subst hlen
      cases hw with
      | nil => exact .nil
      | @cons _ v _ c xs hgoto hv hw =>
          obtain ⟨e, he, hlo, hhi, hacts, rfl⟩ := t.exists_edge hgoto
          rcases h.plain s hs e he hacts hv with ⟨htarget, hclass⟩ | ⟨htarget, h37, h37'⟩
          · exact .plain (e.has_of_inClass hclass hlo hhi) (ih _ (by simp) hw htarget rfl)
          · obtain rfl := byte_eq hlo hhi h37 h37'
            rw [htarget] at hw
            obtain ⟨a, b, ys, s', rfl, ha, hb, hs', hw⟩ := h.exists_digits hw hn
            exact .coded ha hb (ih _ (by simp; omega) hw hs' rfl)

/-- A byte that leads on with actions, and the word it begins. -/
def Table.onlyMarks (t : Table Act) (q : Nat) (cl : CharClass) (P : States) (u u' : Nat) : Bool :=
  (t.edges q).all fun e => !(P.withPercent u u').has e.target ||
    (P.has e.target && e.inClass cl || e.target == u && e.lo == 37 && e.hi == 37)

theorem OnlyWords.coded_marked {q : Nat} (h : OnlyWords t cl P u u') (hmarks : t.onlyMarks q cl P u u' = true)
    (hgoto : goto t.next q c = some (acts, s)) (hs : (P.withPercent u u').has s = true)
    (hw : Within t.next (P.withPercent u u') xs s n) (hn : P.has n = true) : Coded cl (c :: xs) := by
  obtain ⟨e, he, hlo, hhi, -, rfl⟩ := t.exists_edge hgoto
  have hedge := List.all_eq_true.mp hmarks e he
  rw [hs] at hedge
  simp only [Bool.not_true, Bool.false_or, Bool.or_eq_true, Bool.and_eq_true, beq_iff_eq] at hedge
  rcases hedge with ⟨htarget, hclass⟩ | ⟨⟨htarget, h37⟩, h37'⟩
  · exact .plain (e.has_of_inClass hclass hlo hhi) (h.coded hw htarget hn)
  · obtain rfl := byte_eq hlo hhi h37 h37'
    rw [htarget] at hw
    obtain ⟨a, b, ys, s', rfl, ha, hb, hs', hw⟩ := h.exists_digits hw hn
    exact .coded ha hb (h.coded hw hs' hn)

section Check

variable [DecidableEq Act]

/-- The checks for words. -/
def Table.words (t : Table Act) (cl : CharClass) (P : States) (u u' : Nat) : Bool :=
  (P.toList.all fun s => covers (t.edges s) cl (fun e => e.acts.isEmpty && P.has e.target) &&
      t.leads s [(37, 37)] [] u) &&
    t.leads u .xdigit [] u' && covers (t.edges u') .xdigit fun e => e.acts.isEmpty && P.has e.target

theorem Table.words_of (h : t.words cl P u u' = true) : Words t.next cl P u u' := by
  simp only [Table.words, Bool.and_eq_true, List.all_eq_true] at h
  exact ⟨fun s hs c hc => t.exists_goto (h.1.1 s (States.mem_toList.mpr hs)).1 hc,
    fun s hs => t.goto_of_leads (h.1.1 s (States.mem_toList.mpr hs)).2 rfl, fun c hc => t.goto_of_leads h.1.2 hc,
    fun c hc => t.exists_goto h.2 hc⟩

/-- The checks for words at whose first byte actions run. -/
def Table.marks (t : Table Act) (q : Nat) (acts : List Act) (cl : CharClass) (P : States) (u : Nat) : Bool :=
  covers (t.edges q) cl (fun e => e.acts == acts && P.has e.target) && t.leads q [(37, 37)] acts u

theorem Words.marked {q : Nat} (h : Words t.next cl P u u') (hmarks : t.marks q acts cl P u = true)
    (hxs : Coded cl xs) (hne : xs ≠ []) :
    ∃ c ys s n, xs = c :: ys ∧ goto t.next q c = some (acts, s) ∧ (P.withPercent u u').has s = true ∧
      Within t.next (P.withPercent u u') ys s n ∧ P.has n = true := by
  rw [Table.marks, Bool.and_eq_true] at hmarks
  cases hxs with
  | nil => exact absurd rfl hne
  | @plain c xs hc hxs =>
      obtain ⟨e, he, hP⟩ := find?_of_covers hmarks.1 hc
      simp only [Bool.and_eq_true, beq_iff_eq] at hP
      obtain ⟨n, hn, hwithin⟩ := h.within hxs hP.2
      refine ⟨c, xs, e.target, n, rfl, ?_, States.has_withPercent.mpr (.inr (.inr hP.2)), hwithin, hn⟩
      rw [goto, t.next_eq, he, Option.map_some, hP.1]
  | @coded a b xs ha hb hxs =>
      obtain ⟨v, hv, hgoto⟩ := h.second b hb
      obtain ⟨n, hn, hwithin⟩ := h.within hxs hv
      have hu' : (P.withPercent u u').has u' = true := States.has_withPercent.mpr (.inr (.inl rfl))
      have hv' : (P.withPercent u u').has v = true := States.has_withPercent.mpr (.inr (.inr hv))
      exact ⟨37, a :: b :: xs, u, n, rfl, t.goto_of_leads hmarks.2 rfl, States.has_withPercent.mpr (.inl rfl),
        .cons (h.first a ha) hu' (.cons hgoto hv' hwithin), hn⟩

end Check

end Mingfwq.Lib
