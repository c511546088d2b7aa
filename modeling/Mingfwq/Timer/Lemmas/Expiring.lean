import Mathlib.Data.List.Nodup
import Mingfwq.Timer.Lemmas.Ordered

/-!
# What `listExpiredCb` takes out of a set and puts back

The set is assumed to be sorted by a comparator that tells its timers apart, and nothing else.
-/

namespace Mingfwq

open Lib

/-- A timer after its turn in the loop. -/
def Timer.afterExpiry (t : Timer) (now : UInt64) : Timer :=
  if t.m_recurring then { t with m_next := now + t.m_ms } else { t with m_cb := none }

namespace TimerManager

variable {m m' : TimerManager} {i j : Nat} {t : Timer} {now : UInt64} {out : List Nat}

/-- The timers of `out` have been taken out of the set; none of all these has the address of another. -/
structure Expiring (out : List Nat) (m : TimerManager) : Prop where
  sorted : OrderedSet.Sorted m.less m.m_timers
  distinct : ((out ++ m.m_timers).map fun i => (m.timer i).address).Nodup

/-- The invariant of `std::set`: the timers are sorted by deadline and address, each with an address of its own. -/
abbrev InOrder : TimerManager → Prop := Expiring []

theorem OrderedBut.expiring (h : OrderedBut out m) : Expiring out m where
  sorted := h.sorted
  distinct := by
    apply h.nodup.map_on
    intro i hi j hj heq
    exact h.distinct i j (.inr ((h.stored i).mp hi)) (.inr ((h.stored j).mp hj)) heq

theorem Expiring.nodup (h : Expiring out m) : (out ++ m.m_timers).Nodup := h.distinct.of_map

theorem InOrder.nodup (h : InOrder m) : m.m_timers.Nodup := Expiring.nodup h

theorem Expiring.not_mem (h : Expiring (i :: out) m) : i ∉ m.m_timers := fun hi =>
  (List.nodup_cons.mp h.nodup).1 (List.mem_append_right _ hi)

theorem InOrder.drop (h : InOrder m) (k : Nat) :
    Expiring (m.m_timers.take k) { m with m_timers := m.m_timers.drop k } where
  sorted := h.sorted.sublist (List.drop_sublist k _)
  distinct := by
    rw [List.take_append_drop]
    exact h.distinct

theorem address_setTimer (h : t.address = (m.timer i).address) (j : Nat) :
    ((m.setTimer i t).timer j).address = (m.timer j).address := by
  rw [timer_setTimer]
  split
  · next heq => rw [heq, h]
  · rfl

theorem Expiring.setTimer (h : Expiring (i :: out) m) (haddress : t.address = (m.timer i).address) :
    Expiring (i :: out) (m.setTimer i t) where
  sorted := sorted_setTimer h.sorted h.not_mem
  distinct := by
    simp only [m_timers_setTimer, address_setTimer haddress]
    exact h.distinct

theorem Expiring.total (h : Expiring (i :: out) m) : ∀ j ∈ m.m_timers, m.less j i ∨ m.less i j := by
  intro j hj
  apply Timer.Comparator_total
  intro heq
  have hdistinct := h.distinct
  rw [List.cons_append, List.map_cons, List.nodup_cons] at hdistinct
  exact hdistinct.1 (List.mem_map.mpr ⟨j, List.mem_append_right _ hj, heq⟩)

theorem Expiring.insert (h : Expiring (i :: out) m) : Expiring out (m.insert i).2 where
  sorted := OrderedSet.insert_sorted less_trans h.total h.sorted
  distinct := by
    have hperm : (out ++ (m.insert i).2.m_timers).Perm (i :: out ++ m.m_timers) :=
      ((OrderedSet.insert_perm h.total).append_left out).trans List.perm_middle
    exact (hperm.map _).nodup_iff.mpr h.distinct

theorem Expiring.forget (h : Expiring (i :: out) m) : Expiring out m where
  sorted := h.sorted
  distinct := (List.nodup_cons.mp h.distinct).2

/-- One turn of the loop. -/
theorem Expiring.expire (h : Expiring (i :: out) m) (now : UInt64) : ∃ m', m.expire now i = .ok m' ∧ Expiring out m' ∧
    m'.timer = Function.update m.timer i ((m.timer i).afterExpiry now) ∧
    ∀ j, j ∈ m'.m_timers ↔ j ∈ m.m_timers ∨ j = i ∧ (m.timer i).m_recurring := by
  have hi := h.not_mem
  by_cases hrecurring : (m.timer i).m_recurring
  · let t := { m.timer i with m_next := now + (m.timer i).m_ms }
    have hset : Expiring (i :: out) (m.setTimer i t) := h.setTimer rfl
    refine ⟨((m.setTimer i t).insert i).2, ?_, hset.insert, ?_, ?_⟩
    · rw [TimerManager.expire, if_pos hrecurring, setNext, if_neg hi]
      rfl
    · rw [Timer.afterExpiry, if_pos hrecurring]
      rfl
    · intro j
      have hmem := OrderedSet.mem_insert hset.total (e := j)
      simpa [TimerManager.insert, or_comm, hrecurring] using hmem
  · let t := { m.timer i with m_cb := none }
    have hset : Expiring (i :: out) (m.setTimer i t) := h.setTimer rfl
    refine ⟨m.setTimer i t, ?_, hset.forget, ?_, by simp [hrecurring]⟩
    · rw [TimerManager.expire, if_neg hrecurring]
    · rw [Timer.afterExpiry, if_neg hrecurring]
      rfl

/-- The whole loop. -/
theorem Expiring.expireAll (h : Expiring out m) (now : UInt64) :
    ∃ m', m.expireAll now out = .ok (out.map fun i => (m.timer i).m_cb, m') ∧ InOrder m' ∧
      (∀ j, m'.timer j = if j ∈ out then (m.timer j).afterExpiry now else m.timer j) ∧
      ∀ j, j ∈ m'.m_timers ↔ j ∈ m.m_timers ∨ j ∈ out ∧ (m.timer j).m_recurring := by
  induction out generalizing m with
  | nil => exact ⟨m, rfl, h, by simp, by simp⟩
  | cons i out ih =>
      obtain ⟨m₁, hexpire, h₁, htimer₁, hmem₁⟩ := h.expire now
      obtain ⟨m₂, hrest, h₂, htimer₂, hmem₂⟩ := ih h₁
      have hi : i ∉ out := fun hi => (List.nodup_cons.mp h.nodup).1 (List.mem_append_left _ hi)
      have hout : ∀ j ∈ out, m₁.timer j = m.timer j := by
        intro j hj
        rw [htimer₁, Function.update_of_ne (ne_of_mem_of_not_mem hj hi)]
      refine ⟨m₂, ?_, h₂, ?_, ?_⟩
      · have hcbs : out.map (fun j => (m₁.timer j).m_cb) = out.map fun j => (m.timer j).m_cb :=
          List.map_congr_left fun j hj => congrArg _ (hout j hj)
        simp [TimerManager.expireAll, hexpire, hrest, hcbs, bind, Except.bind]
      · intro j
        rw [htimer₂, htimer₁]
        by_cases hji : j = i
        · subst hji
          simp [hi]
        · simp [hji]
      · intro j
        rw [hmem₂, hmem₁, List.mem_cons]
        by_cases hji : j = i
        · subst hji
          simp [hi]
        · simp [hji, htimer₁]

/-! ## Which timers have expired -/

theorem InOrder.next_le (h : InOrder m) : m.m_timers.Pairwise fun i j => (m.timer i).m_next ≤ (m.timer j).m_next := by
  apply h.sorted.imp
  intro i j hless
  rcases Timer.Comparator_iff.mp hless with hlt | ⟨heq, -⟩
  · exact UInt64.le_of_lt hlt
  · exact UInt64.le_of_eq heq

/-- The range is cut in two steps: the timers before the probe, then those that expire at `now`. -/
theorem expired_split (address : Nat) (now : UInt64) {before tied : Nat → Bool}
    (hbefore : before = fun i => Timer.Comparator (some (m.timer i)) (some (.ofNext address now)))
    (htied : tied = fun i => (m.timer i).m_next == now) :
    m.expired address now = m.m_timers.takeWhile before ++ (m.m_timers.dropWhile before).takeWhile tied := by
  have hbound : OrderedSet.lowerBound (fun lhs rhs => Timer.Comparator (some lhs) (some rhs)) (m.m_timers.map m.timer)
      (.ofNext address now) = m.m_timers.findIdx fun i => !before i := by
    rw [OrderedSet.lowerBound, List.findIdx_map, hbefore]
    rfl
  have htake : m.m_timers.take (m.m_timers.findIdx fun i => !before i) = m.m_timers.takeWhile before :=
    List.takeWhile_eq_take_findIdx_not.symm
  have hdrop : m.m_timers.drop (m.m_timers.findIdx fun i => !before i) = m.m_timers.dropWhile before :=
    List.dropWhile_eq_drop_findIdx_not.symm
  rw [expired, expiredEnd, hbound, ← htied, List.take_add, htake, hdrop]
  exact congrArg _ (List.prefix_iff_eq_take.mp (List.takeWhile_prefix _)).symm

/-- Whatever the address of the probe is, the range ends where the deadlines are past `now`. -/
theorem InOrder.expired_eq (h : InOrder m) (address : Nat) (now : UInt64) :
    m.expired address now = m.m_timers.filter fun i => (m.timer i).m_next ≤ now := by
  let before : Nat → Bool := fun i => Timer.Comparator (some (m.timer i)) (some (.ofNext address now))
  let tied : Nat → Bool := fun i => (m.timer i).m_next == now
  let rest := m.m_timers.dropWhile before
  have hbefore : ∀ i, before i → (m.timer i).m_next ≤ now := by
    intro i hi
    rcases Timer.Comparator_iff.mp hi with hlt | ⟨heq, -⟩
    · exact UInt64.le_of_lt hlt
    · exact UInt64.le_of_eq heq
  have htied : ∀ i, tied i → (m.timer i).m_next ≤ now := fun i hi => UInt64.le_of_eq (eq_of_beq hi)
  have hrest : ∀ i ∈ rest, now ≤ (m.timer i).m_next := by
    intro i hi
    have hnot : before i = false :=
      OrderedSet.not_of_mem_dropWhile (h.sorted.imp fun hij hj => Timer.Comparator_trans hij hj) i hi
    rw [← UInt64.not_lt]
    intro hlt
    have : before i := Timer.Comparator_iff.mpr (.inl hlt)
    rw [hnot] at this
    cases this
  have hlate : ∀ i ∈ rest.dropWhile tied, ¬ (m.timer i).m_next ≤ now := by
    intro i hi hle
    have hpairwise : rest.Pairwise fun i j => tied j → tied i := by
      apply (h.next_le.sublist (List.dropWhile_sublist _)).imp_of_mem
      intro i j hi _ hij hj
      exact beq_iff_eq.mpr (UInt64.le_antisymm (UInt64.le_trans hij (htied j hj)) (hrest i hi))
    have hnot := OrderedSet.not_of_mem_dropWhile hpairwise i hi
    have heq := UInt64.le_antisymm hle (hrest i (List.dropWhile_subset _ hi))
    exact Bool.false_ne_true (hnot.symm.trans (beq_iff_eq.mpr heq))
  have hsplit : m.m_timers = m.m_timers.takeWhile before ++ rest.takeWhile tied ++ rest.dropWhile tied := by
    rw [List.append_assoc, List.takeWhile_append_dropWhile, List.takeWhile_append_dropWhile]
  have hearly : ∀ i ∈ m.m_timers.takeWhile before ++ rest.takeWhile tied, (m.timer i).m_next ≤ now := by
    intro i hi
    rcases List.mem_append.mp hi with hi | hi
    · exact hbefore i (List.mem_takeWhile_imp hi)
    · exact htied i (List.mem_takeWhile_imp hi)
  rw [expired_split address now rfl rfl]
  conv_rhs => rw [hsplit, List.filter_append]
  rw [List.filter_eq_self.mpr fun i hi => decide_eq_true (hearly i hi),
    List.filter_eq_nil_iff.mpr fun i hi => by simpa using hlate i hi, List.append_nil]

/-- `listExpiredCb` on a set that is sorted. -/
theorem InOrder.listExpiredCb (h : InOrder m) (address : Nat) (now : UInt64) :
    ∃ m', m.listExpiredCb address now = .ok ((m.expired address now).map fun i => (m.timer i).m_cb, m') ∧ InOrder m' ∧
      (∀ j, m'.timer j = if j ∈ m.expired address now then (m.timer j).afterExpiry now else m.timer j) ∧
      ∀ j, j ∈ m'.m_timers ↔ j ∈ m.m_timers ∧ (now < (m.timer j).m_next ∨ (m.timer j).m_recurring) := by
  have hexpired : ∀ j, j ∈ m.expired address now ↔ j ∈ m.m_timers ∧ (m.timer j).m_next ≤ now := by
    intro j
    rw [h.expired_eq, List.mem_filter, decide_eq_true_eq]
  have hsplit : m.expired address now ++ m.m_timers.drop (m.expiredEnd address now) = m.m_timers :=
    List.take_append_drop _ _
  have hrest : ∀ j, j ∈ m.m_timers.drop (m.expiredEnd address now) ↔ j ∈ m.m_timers ∧ now < (m.timer j).m_next := by
    intro j
    obtain ⟨-, -, hcross⟩ := List.nodup_append.mp (hsplit ▸ h.nodup)
    rw [← UInt64.not_le]
    constructor
    · intro hj
      have hmem := List.drop_subset _ _ hj
      exact ⟨hmem, fun hle => hcross j ((hexpired j).mpr ⟨hmem, hle⟩) j hj rfl⟩
    · rintro ⟨hmem, hlate⟩
      rw [← hsplit] at hmem
      exact (List.mem_append.mp hmem).resolve_left fun hj => hlate ((hexpired j).mp hj).2
  obtain ⟨m', hall, hinorder, htimer, hmem⟩ := Expiring.expireAll (h.drop (m.expiredEnd address now)) now
  refine ⟨m', ?_, hinorder, htimer, ?_⟩
  · rw [TimerManager.listExpiredCb]
    split
    · next hempty =>
        have hnil : m.m_timers = [] := List.isEmpty_iff.mp hempty
        rw [hnil, List.drop_nil, List.take_nil, TimerManager.expireAll] at hall
        rw [expired, hnil, List.take_nil]
        cases hall
        cases m
        cases hnil
        rfl
    · exact hall
  · intro j
    rw [hmem j, hrest j]
    have := hexpired j
    rw [expired] at this
    rw [this, and_assoc, ← and_or_left]
    refine and_congr_right fun _ => ?_
    rw [← UInt64.not_le, or_iff_not_imp_left, or_iff_not_imp_left, not_not]
    exact ⟨fun hj hle => (hj hle).2, fun hj hle => ⟨hle, hj hle⟩⟩

end TimerManager

end Mingfwq
