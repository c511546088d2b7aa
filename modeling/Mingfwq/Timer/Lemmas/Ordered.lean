import Mingfwq.Timer.Model

/-!
# The set stays sorted, and a timer is in it as long as it has a callback
-/

namespace Mingfwq

open Lib

namespace Timer

variable {a b c : Timer}

theorem Comparator_irrefl (a : Timer) : Comparator (some a) (some a) = false := by
  simp [Comparator]

theorem Comparator_iff : Comparator (some a) (some b) ↔
    a.m_next < b.m_next ∨ a.m_next = b.m_next ∧ a.address < b.address := by
  simp only [Comparator, gt_iff_lt, UInt64.lt_iff_toNat_lt, ← UInt64.toNat_inj]
  split
  · simp [*]
  · split
    · simp; omega
    · simp; omega

theorem Comparator_trans (hab : Comparator (some a) (some b)) (hbc : Comparator (some b) (some c)) :
    Comparator (some a) (some c) := by
  rw [Comparator_iff] at *
  simp only [UInt64.lt_iff_toNat_lt, ← UInt64.toNat_inj] at *
  omega

theorem Comparator_total (h : a.address ≠ b.address) :
    Comparator (some a) (some b) ∨ Comparator (some b) (some a) := by
  simp only [Comparator_iff, UInt64.lt_iff_toNat_lt, ← UInt64.toNat_inj]
  omega

end Timer

namespace TimerManager

variable {m m' : TimerManager} {i j : Nat} {t : Timer} {out : List Nat}

theorem less_irrefl (i : Nat) : m.less i i = false := Timer.Comparator_irrefl _

theorem less_trans (i j k : Nat) (hij : m.less i j) (hjk : m.less j k) : m.less i k :=
  Timer.Comparator_trans hij hjk

/-! ## Fields -/

@[simp] theorem m_timers_setTimer : (m.setTimer i t).m_timers = m.m_timers := rfl

@[simp] theorem created_setTimer : (m.setTimer i t).created = m.created := rfl

theorem timer_setTimer : (m.setTimer i t).timer j = if j = i then t else m.timer j := by
  simp [setTimer, Function.update_apply]

@[simp] theorem timer_setTimer_self : (m.setTimer i t).timer i = t := by
  simp [timer_setTimer]

@[simp] theorem timer_insert : (m.insert i).2.timer = m.timer := rfl

@[simp] theorem created_insert : (m.insert i).2.created = m.created := rfl

@[simp] theorem timer_addTimerLocked : (m.addTimerLocked i).2.timer = m.timer := by
  simp only [addTimerLocked]
  split <;> rfl

@[simp] theorem created_addTimerLocked : (m.addTimerLocked i).2.created = m.created := by
  simp only [addTimerLocked]
  split <;> rfl

@[simp] theorem m_timers_addTimerLocked : (m.addTimerLocked i).2.m_timers = (m.insert i).2.m_timers := by
  simp only [addTimerLocked]
  split <;> rfl

theorem sorted_setTimer {l : List Nat} (h : OrderedSet.Sorted m.less l) (hi : i ∉ l) :
    OrderedSet.Sorted (m.setTimer i t).less l := by
  apply List.Pairwise.imp_of_mem _ h
  intro j k hj hk hjk
  have hji : j ≠ i := fun heq => hi (heq ▸ hj)
  have hki : k ≠ i := fun heq => hi (heq ▸ hk)
  simpa [less, timer_setTimer, hji, hki] using hjk

/-! ## The invariant, in the course of an operation -/

/-- A timer that is held or has a callback. -/
def InUse (m : TimerManager) (i : Nat) : Prop := (m.timer i).held ∨ (m.timer i).m_cb.isSome

/-- The timers of `out` have been taken out of the set to be changed; those that have a callback are in the set or in
`out`. -/
structure OrderedBut (out : List Nat) (m : TimerManager) : Prop where
  sorted : OrderedSet.Sorted m.less m.m_timers
  nodup : (out ++ m.m_timers).Nodup
  stored : ∀ i, i ∈ out ++ m.m_timers ↔ (m.timer i).m_cb.isSome
  created : ∀ i, m.InUse i → i < m.created
  distinct : ∀ i j, m.InUse i → m.InUse j → (m.timer i).address = (m.timer j).address → i = j

/-- Between two operations. -/
abbrev Ordered : TimerManager → Prop := OrderedBut []

theorem Ordered.new : Ordered .new where
  sorted := .nil
  nodup := .nil
  stored := by simp [TimerManager.new]
  created := by simp [TimerManager.new, InUse]
  distinct := by simp [TimerManager.new, InUse]

theorem Ordered.mem_iff (h : Ordered m) : i ∈ m.m_timers ↔ (m.timer i).m_cb.isSome := h.stored i

theorem OrderedBut.total (h : OrderedBut out m) (hi : (m.timer i).m_cb.isSome) (hj : (m.timer j).m_cb.isSome)
    (hij : i ≠ j) : m.less i j ∨ m.less j i := by
  apply Timer.Comparator_total
  exact fun heq => hij (h.distinct i j (.inr hi) (.inr hj) heq)

/-- What the set keeps when other timers are freed or hold less. -/
theorem OrderedBut.of_timers (h : OrderedBut out m) {l out' : List Nat} (hl : l.Sublist m.m_timers)
    (hnodup : (out' ++ l).Nodup) (hmem : ∀ i, i ∈ out' ++ l ↔ i ∈ out ++ m.m_timers) :
    OrderedBut out' { m with m_timers := l } where
  sorted := h.sorted.sublist hl
  nodup := hnodup
  stored := fun i => (hmem i).trans (h.stored i)
  created := h.created
  distinct := h.distinct

theorem Ordered.erase (h : Ordered m) (hi : i ∈ m.m_timers) :
    OrderedBut [i] { m with m_timers := m.m_timers.erase i } := by
  have hperm : ([i] ++ m.m_timers.erase i).Perm m.m_timers := (List.perm_cons_erase hi).symm
  apply OrderedBut.of_timers h List.erase_sublist (hperm.nodup_iff.mpr h.nodup)
  exact fun j => hperm.mem_iff

theorem Ordered.drop (h : Ordered m) (k : Nat) :
    OrderedBut (m.m_timers.take k) { m with m_timers := m.m_timers.drop k } := by
  apply OrderedBut.of_timers h (List.drop_sublist k _)
  · rw [List.take_append_drop]
    exact h.nodup
  · intro i
    rw [List.take_append_drop]
    rfl

/-- A timer outside of the set gets another deadline or another period. -/
theorem OrderedBut.setTimer (h : OrderedBut (i :: out) m) (haddress : t.address = (m.timer i).address)
    (hheld : t.held = (m.timer i).held) (hcb : t.m_cb = (m.timer i).m_cb) :
    OrderedBut (i :: out) (m.setTimer i t) := by
  have hi : i ∉ m.m_timers := fun hi =>
    (List.nodup_cons.mp h.nodup).1 (List.mem_append_right _ hi)
  have hsame : ∀ j, ((m.setTimer i t).timer j).address = (m.timer j).address ∧
      ((m.setTimer i t).timer j).held = (m.timer j).held ∧
      ((m.setTimer i t).timer j).m_cb = (m.timer j).m_cb := by
    intro j
    rw [timer_setTimer]
    split
    · next heq => exact heq ▸ ⟨haddress, hheld, hcb⟩
    · exact ⟨rfl, rfl, rfl⟩
  have huse : ∀ j, (m.setTimer i t).InUse j ↔ m.InUse j := by
    intro j
    rw [InUse, InUse, (hsame j).2.1, (hsame j).2.2]
  refine ⟨sorted_setTimer h.sorted hi, h.nodup, ?_, ?_, ?_⟩
  · intro j
    rw [(hsame j).2.2]
    exact h.stored j
  · intro j hj
    exact h.created j ((huse j).mp hj)
  · intro j k hj hk heq
    rw [(hsame j).1, (hsame k).1] at heq
    exact h.distinct j k ((huse j).mp hj) ((huse k).mp hk) heq

theorem OrderedBut.clear (h : OrderedBut (i :: out) m) :
    OrderedBut out (m.setTimer i { m.timer i with m_cb := none }) := by
  obtain ⟨hi, hnodup⟩ := List.nodup_cons.mp h.nodup
  have hi' : i ∉ m.m_timers := fun hi' => hi (List.mem_append_right _ hi')
  have huse : ∀ j, (m.setTimer i { m.timer i with m_cb := none }).InUse j → m.InUse j := by
    intro j hj
    simp only [InUse, timer_setTimer] at *
    split at hj
    · next heq => simpa [heq] using Or.inl hj
    · exact hj
  have haddress : ∀ j, ((m.setTimer i { m.timer i with m_cb := none }).timer j).address = (m.timer j).address := by
    intro j
    rw [timer_setTimer]
    split
    · next heq => rw [heq]
    · rfl
  refine ⟨sorted_setTimer h.sorted hi', hnodup, ?_, ?_, ?_⟩
  · intro j
    rw [timer_setTimer]
    split
    · next heq =>
        subst heq
        simpa using hi
    · next hne =>
        rw [← h.stored j]
        simp [hne]
  · exact fun j hj => h.created j (huse j hj)
  · intro j k hj hk heq
    rw [haddress, haddress] at heq
    exact h.distinct j k (huse j hj) (huse k hk) heq

theorem OrderedBut.insert (h : OrderedBut (i :: out) m) : OrderedBut out (m.insert i).2 := by
  obtain ⟨hi, hnodup⟩ := List.nodup_cons.mp h.nodup
  have hcb : (m.timer i).m_cb.isSome := (h.stored i).mp List.mem_cons_self
  have htotal : ∀ j ∈ m.m_timers, m.less j i ∨ m.less i j := by
    intro j hj
    have hjcb := (h.stored j).mp (List.mem_cons_of_mem _ (List.mem_append_right _ hj))
    refine h.total hjcb hcb fun heq => hi (List.mem_append_right _ (heq ▸ hj))
  have hsorted := OrderedSet.insert_sorted less_trans htotal h.sorted
  have hmem : ∀ j, j ∈ (OrderedSet.insert m.less m.m_timers i).2 ↔ j = i ∨ j ∈ m.m_timers := fun j =>
    OrderedSet.mem_insert htotal
  refine ⟨hsorted, ?_, ?_, h.created, h.distinct⟩
  · obtain ⟨hout, -, hcross⟩ := List.nodup_append.mp hnodup
    have hself : (OrderedSet.insert m.less m.m_timers i).2.Nodup := by
      apply List.Pairwise.imp _ hsorted
      rintro a b hab rfl
      rw [less_irrefl] at hab
      cases hab
    refine List.nodup_append.mpr ⟨hout, hself, ?_⟩
    rintro j hj k hk rfl
    rcases (hmem j).mp hk with rfl | hk
    · exact hi (List.mem_append_left _ hj)
    · exact hcross j hj j hk rfl
  · intro j
    have hstored := h.stored j
    rw [List.cons_append, List.mem_cons, List.mem_append] at hstored
    simp only [TimerManager.insert, List.mem_append, hmem]
    rw [← hstored]
    exact or_left_comm

end TimerManager

end Mingfwq
