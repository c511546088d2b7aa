import Mingfwq.Config.FromString
import Mingfwq.Config.Theorems.Listeners

/-!
# What a string that is refused leaves behind

A listener is told of a value before it is stored, and those behind it can still prevent that. What is stored is
reported as a failure.
-/

namespace Mingfwq.ConfigVar

variable {T : Type} {m_val v : T} {entries pre rest : List (UInt64 × on_change_cb T)} {key : UInt64}
  {cb : on_change_cb T} {e : Thrown}

/-! ## The listeners in their order -/

/-- A listener that comes last is told last. -/
theorem Cbs.entries_addListener {m_cbs : Cbs T} {s_fun_id : UInt64}
    (h : ∀ entry ∈ m_cbs.entries, entry.1 < s_fun_id + 1) :
    (m_cbs.addListener s_fun_id cb).2.entries = m_cbs.entries ++ [(s_fun_id + 1, cb)] := by
  have hbefore : m_cbs.entries.filter (fun entry => decide (entry.1 < s_fun_id + 1)) = m_cbs.entries :=
    List.filter_eq_self.mpr fun entry hentry => decide_eq_true (h entry hentry)
  have hbehind : m_cbs.entries.filter (fun entry => decide (s_fun_id + 1 < entry.1)) = [] :=
    List.filter_eq_nil_iff.mpr fun entry hentry hlt => UInt64.lt_asymm (h entry hentry) (of_decide_eq_true hlt)
  exact congrArg₂ (fun before behind => before ++ (s_fun_id + 1, cb) :: behind) hbefore hbehind

theorem callLoop_none (h : ∀ entry ∈ entries, entry.2 m_val v = none) :
    callLoop m_val v entries = (entries.map fun entry => (entry.1, m_val, v), none) := by
  induction entries with
  | nil => rfl
  | cons entry entries ih =>
      obtain ⟨key, cb⟩ := entry
      have hcb : cb m_val v = none := h (key, cb) List.mem_cons_self
      rw [callLoop, hcb, ih fun entry hentry => h entry (List.mem_cons_of_mem _ hentry)]
      rfl

/-- The first that throws is the last that is called. -/
theorem callLoop_some (hpre : ∀ entry ∈ pre, entry.2 m_val v = none) (hcb : cb m_val v = some e) :
    callLoop m_val v (pre ++ (key, cb) :: rest) =
      ((pre ++ [(key, cb)]).map fun entry => (entry.1, m_val, v), some e) := by
  induction pre with
  | nil =>
      rw [List.nil_append, callLoop, hcb]
      rfl
  | cons entry pre ih =>
      obtain ⟨key', cb'⟩ := entry
      have hcb' : cb' m_val v = none := hpre (key', cb') List.mem_cons_self
      rw [List.cons_append, callLoop, hcb', ih fun entry hentry => hpre entry (List.mem_cons_of_mem _ hentry)]
      rfl

theorem exists_first_throws (h : ¬ ∀ entry ∈ entries, entry.2 m_val v = none) :
    ∃ pre key cb rest e, entries = pre ++ (key, cb) :: rest ∧ (∀ entry ∈ pre, entry.2 m_val v = none) ∧
      cb m_val v = some e := by
  induction entries with
  | nil => exact absurd (fun _ h => absurd h List.not_mem_nil) h
  | cons entry entries ih =>
      obtain ⟨key, cb⟩ := entry
      cases hcb : cb m_val v with
      | some e => exact ⟨[], key, cb, entries, e, rfl, fun _ h => absurd h List.not_mem_nil, hcb⟩
      | none =>
          have hrest : ¬ ∀ entry ∈ entries, entry.2 m_val v = none :=
            fun hall => h (List.forall_mem_cons.mpr ⟨hcb, hall⟩)
          obtain ⟨pre, key', cb', rest, e, rfl, hpre, hcb'⟩ := ih hrest
          exact ⟨(key, cb) :: pre, key', cb', rest, e, rfl, List.forall_mem_cons.mpr ⟨hcb, hpre⟩, hcb'⟩

/-- Where no listener throws, the loop is that of a variable whose listeners do not. -/
theorem foldl_callLoop [DecidableEq T] {var : Var T} {calls : Calls T}
    (h : ∀ entry ∈ var.m_cbs.entries, entry.2 var.m_val v = none) :
    (callLoop var.m_val v var.m_cbs.entries).1.foldl (fun (calls : Calls T) call =>
      Function.update calls call.1 (call.2 :: calls call.1)) calls =
        notify ⟨var.m_val, var.m_cbs.entries.map Prod.fst⟩ v calls := by
  rw [callLoop_none h, notify, List.foldl_map, List.foldl_map]

theorem filter_key (hordered : entries.Pairwise (·.1 < ·.1)) (h : (key, cb) ∈ entries) :
    (entries.map fun entry => (entry.1, m_val, v)).filter (·.1 == key) = [(key, m_val, v)] := by
  induction entries with
  | nil => exact absurd h List.not_mem_nil
  | cons entry entries ih =>
      obtain ⟨hhead, hordered⟩ := List.pairwise_cons.mp hordered
      have hnone : ∀ key, (∀ entry ∈ entries, key < entry.1) →
          (entries.map fun entry => (entry.1, m_val, v)).filter (·.1 == key) = [] := by
        intro key hlt
        refine List.filter_eq_nil_iff.mpr fun call hcall => ?_
        obtain ⟨entry, hentry, rfl⟩ := List.mem_map.mp hcall
        simpa using (UInt64.ne_of_lt (hlt entry hentry)).symm
      rw [List.map_cons]
      rcases List.mem_cons.mp h with rfl | h
      · rw [List.filter_cons_of_pos (by simp), hnone key hhead]
      · rw [List.filter_cons_of_neg (by simpa using UInt64.ne_of_lt (hhead _ h)), ih hordered h]

/-! ## What comes of a string -/

section

variable [BEq T] {FromStr : String → Except Thrown T} {var : Var T} {val : String}

/-- The conversion throws, or a listener does. -/
def Throws (FromStr : String → Except Thrown T) (var : Var T) (val : String) : Prop :=
  (∃ e, FromStr val = .error e) ∨
    ∃ v, FromStr val = .ok v ∧ (v == var.m_val) = false ∧ ∃ entry ∈ var.m_cbs.entries, entry.2 var.m_val v ≠ none

/-- Success says that the value is stored. On failure the value is what it was, and no listener has taken one that is
not stored: it has been called with it and has returned. Where nothing throws each listener is called once, if the
values differ. -/
structure Atomic (FromStr : String → Except Thrown T) (var : Var T) (val : String) (res : Result T) : Prop where
  rt : res.rt = .ok true ↔ ∃ v, FromStr val = .ok v ∧ res.m_val = v
  failed : Throws FromStr var val → res.rt = .ok false ∧ res.m_val = var.m_val ∧
    ∀ entry ∈ var.m_cbs.entries, ∀ old v, (entry.1, old, v) ∈ res.calls → entry.2 old v = none → v = res.m_val
  told : ∀ v, FromStr val = .ok v → ¬ Throws FromStr var val → ∀ entry ∈ var.m_cbs.entries,
    res.calls.filter (·.1 == entry.1) = if v == var.m_val then [] else [(entry.1, var.m_val, v)]

theorem fromString_error (h : FromStr val = .error e) : var.fromString FromStr val = ⟨caught e, var.m_val, []⟩ := by
  simp only [Var.fromString, h]

theorem fromString_equal (h : FromStr val = .ok v) (heq : (v == var.m_val) = true) :
    var.fromString FromStr val = ⟨.ok false, var.m_val, []⟩ := by
  simp only [Var.fromString, h, Var.setValue, heq, if_true]

theorem fromString_stored (h : FromStr val = .ok v) (heq : (v == var.m_val) = false)
    (hnone : ∀ entry ∈ var.m_cbs.entries, entry.2 var.m_val v = none) :
    var.fromString FromStr val = ⟨.ok false, v, var.m_cbs.entries.map fun entry => (entry.1, var.m_val, v)⟩ := by
  simp only [Var.fromString, h, Var.setValue, heq, Bool.false_eq_true, if_false, callLoop_none hnone]

theorem fromString_refused (h : FromStr val = .ok v) (heq : (v == var.m_val) = false)
    (hentries : var.m_cbs.entries = pre ++ (key, cb) :: rest) (hpre : ∀ entry ∈ pre, entry.2 var.m_val v = none)
    (hcb : cb var.m_val v = some e) :
    var.fromString FromStr val =
      ⟨caught e, var.m_val, (pre ++ [(key, cb)]).map fun entry => (entry.1, var.m_val, v)⟩ := by
  simp only [Var.fromString, h, Var.setValue, heq, Bool.false_eq_true, if_false, hentries, callLoop_some hpre hcb]

theorem caught_ne_true (e : Thrown) : caught e ≠ .ok true := by
  cases e <;> simp [caught]

theorem caught_eq_false : caught e = .ok false ↔ e = .exception := by
  cases e <;> simp [caught]

theorem rt_fromString : (var.fromString FromStr val).rt ≠ .ok true := by
  cases h : FromStr val with
  | error e =>
      rw [fromString_error h]
      exact caught_ne_true e
  | ok v =>
      cases heq : v == var.m_val with
      | true =>
          rw [fromString_equal h heq]
          simp
      | false =>
          by_cases hnone : ∀ entry ∈ var.m_cbs.entries, entry.2 var.m_val v = none
          · rw [fromString_stored h heq hnone]
            simp
          · obtain ⟨pre, key, cb, rest, e, hentries, hpre, hcb⟩ := exists_first_throws hnone
            rw [fromString_refused h heq hentries hpre hcb]
            exact caught_ne_true e

/-- Each listener is told once of a value that differs, where nothing throws. -/
theorem told_fromString (h : FromStr val = .ok v) (hthrows : ¬ Throws FromStr var val) {entry : UInt64 × on_change_cb T}
    (hentry : entry ∈ var.m_cbs.entries) :
    (var.fromString FromStr val).calls.filter (·.1 == entry.1) =
      if v == var.m_val then [] else [(entry.1, var.m_val, v)] := by
  cases heq : v == var.m_val with
  | true => rw [fromString_equal h heq, if_pos rfl, List.filter_nil]
  | false =>
      have hnone : ∀ entry ∈ var.m_cbs.entries, entry.2 var.m_val v = none := by
        intro entry hentry
        by_contra hne
        exact hthrows (.inr ⟨v, h, heq, entry, hentry, hne⟩)
      rw [fromString_stored h heq hnone, filter_key var.m_cbs.ordered hentry]
      rfl

theorem Atomic.differs (hatomic : Atomic FromStr var val (var.fromString FromStr val)) (h : FromStr val = .ok v) :
    (var.fromString FromStr val).m_val ≠ v := by
  intro hv
  exact rt_fromString (hatomic.rt.mpr ⟨v, h, hv⟩)

/-- The first listener to be told throws a `std::exception`. -/
def FirstRefuses (var : Var T) (v : T) : Prop :=
  ∃ key cb rest, var.m_cbs.entries = (key, cb) :: rest ∧ cb var.m_val v = some .exception

theorem atomic_error (h : FromStr val = .error e) :
    Atomic FromStr var val (var.fromString FromStr val) ↔ e = .exception := by
  have hres : var.fromString FromStr val = ⟨caught e, var.m_val, []⟩ := fromString_error h
  constructor
  · intro hatomic
    have hrt := (hatomic.failed (.inl ⟨e, h⟩)).1
    rw [hres] at hrt
    exact caught_eq_false.mp hrt
  · rintro rfl
    refine ⟨?_, fun _ => ?_, fun v hv hthrows entry hentry => told_fromString hv hthrows hentry⟩
    · rw [hres]
      simp [caught, h]
    · rw [hres]
      exact ⟨rfl, rfl, fun _ _ _ _ hcall => absurd hcall List.not_mem_nil⟩

theorem atomic_equal (h : FromStr val = .ok v) (heq : (v == var.m_val) = true) :
    Atomic FromStr var val (var.fromString FromStr val) ↔ v ≠ var.m_val := by
  have hthrows : ¬ Throws FromStr var val := by
    rintro (⟨e, he⟩ | ⟨v', hv', hne, -⟩)
    · cases h.symm.trans he
    · cases h.symm.trans hv'
      cases heq.symm.trans hne
  have hres := fromString_equal h heq
  constructor
  · intro hatomic hv
    refine hatomic.differs h ?_
    rw [hres, hv]
  · intro hne
    refine ⟨?_, fun hfailed => absurd hfailed hthrows, fun v hv hnot entry hentry => told_fromString hv hnot hentry⟩
    rw [hres]
    simpa [h] using hne

theorem not_atomic_stored (h : FromStr val = .ok v) (heq : (v == var.m_val) = false)
    (hnone : ∀ entry ∈ var.m_cbs.entries, entry.2 var.m_val v = none) :
    ¬ Atomic FromStr var val (var.fromString FromStr val) := by
  intro hatomic
  refine hatomic.differs h ?_
  rw [fromString_stored h heq hnone]

theorem atomic_refused (h : FromStr val = .ok v) (heq : (v == var.m_val) = false)
    (hentries : var.m_cbs.entries = pre ++ (key, cb) :: rest) (hpre : ∀ entry ∈ pre, entry.2 var.m_val v = none)
    (hcb : cb var.m_val v = some e) :
    Atomic FromStr var val (var.fromString FromStr val) ↔ v ≠ var.m_val ∧ pre = [] ∧ e = .exception := by
  have hthrows : Throws FromStr var val :=
    .inr ⟨v, h, heq, (key, cb), by rw [hentries]; simp, by simp [hcb]⟩
  have hres := fromString_refused h heq hentries hpre hcb
  constructor
  · intro hatomic
    have hne : v ≠ var.m_val := by
      intro hv
      refine hatomic.differs h ?_
      rw [hres, hv]
    obtain ⟨hrt, -, hbelief⟩ := hatomic.failed hthrows
    rw [hres] at hrt hbelief
    refine ⟨hne, ?_, caught_eq_false.mp hrt⟩
    cases pre with
    | nil => rfl
    | cons entry pre =>
        -- the first listener has taken the value
        refine absurd (hbelief entry (by rw [hentries]; simp) var.m_val v (by simp) ?_) hne
        exact hpre entry List.mem_cons_self
  · rintro ⟨hne, rfl, rfl⟩
    rw [hres]
    refine ⟨?_, fun _ => ⟨rfl, rfl, fun entry hentry old v' hcall hreturns => ?_⟩, fun _ _ hnot => absurd hthrows hnot⟩
    · simpa [caught, h] using hne
    · -- only the one that threw has been called
      simp only [List.nil_append, List.map_cons, List.map_nil, List.mem_singleton, Prod.mk.injEq] at hcall
      obtain ⟨hkey, rfl, rfl⟩ := hcall
      have hself : entry = (key, cb) := by
        rw [hentries, List.nil_append] at hentry
        have hordered := var.m_cbs.ordered
        rw [hentries, List.nil_append] at hordered
        rcases List.mem_cons.mp hentry with hself | hrest
        · exact hself
        · exact absurd hkey.symm (UInt64.ne_of_lt ((List.pairwise_cons.mp hordered).1 entry hrest))
      subst hself
      cases hreturns.symm.trans hcb

/-- A string leaves nothing half done exactly when its conversion throws a `std::exception`, or it converts to another
value than the stored one and the first listener throws one when it is told (a `==` that takes different values for
equal stores nothing, and tells nobody). -/
theorem fromString_iff (FromStr : String → Except Thrown T) (var : Var T) (val : String) :
    Atomic FromStr var val (var.fromString FromStr val) ↔ FromStr val = .error .exception ∨
      ∃ v, FromStr val = .ok v ∧ v ≠ var.m_val ∧ ((v == var.m_val) = true ∨ FirstRefuses var v) := by
  cases h : FromStr val with
  | error e =>
      rw [atomic_error h]
      simp
  | ok v =>
      have hright : ((Except.ok v : Except Thrown T) = .error .exception ∨ ∃ v', .ok v = Except.ok (ε := Thrown) v' ∧
          v' ≠ var.m_val ∧ ((v' == var.m_val) = true ∨ FirstRefuses var v')) ↔
          v ≠ var.m_val ∧ ((v == var.m_val) = true ∨ FirstRefuses var v) := by simp
      rw [hright]
      cases heq : v == var.m_val with
      | true =>
          rw [atomic_equal h heq]
          simp
      | false =>
          by_cases hnone : ∀ entry ∈ var.m_cbs.entries, entry.2 var.m_val v = none
          · refine iff_of_false (not_atomic_stored h heq hnone) ?_
            rintro ⟨-, hno | ⟨key, cb, rest, hentries, hcb⟩⟩
            · cases hno
            · have hreturns := hnone (key, cb) (by rw [hentries]; exact List.mem_cons_self)
              cases hreturns.symm.trans hcb
          · obtain ⟨pre, key, cb, rest, e, hentries, hpre, hcb⟩ := exists_first_throws hnone
            rw [atomic_refused h heq hentries hpre hcb]
            constructor
            · rintro ⟨hne, rfl, rfl⟩
              exact ⟨hne, .inr ⟨key, cb, rest, hentries, hcb⟩⟩
            · rintro ⟨hne, hno | ⟨key', cb', rest', hentries', hcb'⟩⟩
              · cases hno
              · cases pre with
                | nil =>
                    cases hentries.symm.trans hentries'
                    cases hcb.symm.trans hcb'
                    exact ⟨hne, rfl, rfl⟩
                | cons entry pre =>
                    cases hentries.symm.trans hentries'
                    cases (hpre (key', cb') List.mem_cons_self).symm.trans hcb'

end

/-- The conversion of `"1"`; no other string is a number. -/
def one (val : String) : Except Thrown Nat := if val = "1" then .ok 1 else .error .exception

/-- A listener that takes every value, and one behind it that takes none. -/
def disagreeing : Cbs Nat :=
  let (s_fun_id, m_cbs) := Cbs.clearListener.addListener 0 fun _ _ => none
  (m_cbs.addListener s_fun_id fun _ _ => some .exception).2

/-- Without listeners 1 is stored and reported as a failure; with the two the first is left with 1. -/
theorem not_atomic_one : ¬ Atomic one ⟨0, .clearListener⟩ "1" (Var.fromString one ⟨0, .clearListener⟩ "1") ∧
    ¬ Atomic one ⟨0, disagreeing⟩ "1" (Var.fromString one ⟨0, disagreeing⟩ "1") := by
  constructor
  · exact not_atomic_stored rfl rfl fun _ h => absurd h List.not_mem_nil
  · have hpre : ∀ entry ∈ [((1 : UInt64), fun (_ _ : Nat) => (none : Option Thrown))], entry.2 0 1 = none := by
      intro entry h
      rw [List.mem_singleton.mp h]
    have hentries : disagreeing.entries =
        [(1, fun _ _ => none)] ++ ((2 : UInt64), fun (_ _ : Nat) => some Thrown.exception) :: [] := rfl
    intro hatomic
    cases ((atomic_refused (by rfl) (by rfl) hentries hpre rfl).mp hatomic).2.1

end Mingfwq.ConfigVar
