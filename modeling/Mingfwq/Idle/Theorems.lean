import Mingfwq.Idle.Lemmas.Told

/-!
# Notifications that go to a worker with something else to do

One flag says for all workers that somebody has been told. Whoever was told may take a task before it looks at the
timers again.
-/

namespace Mingfwq.Idle

open Lib TimerManager

variable {s s' : Idle} {a : Action} {k : Pc} {d w i : Nat} {now : UInt64} {m : TimerManager}

/-- No step leaves a deadline to nobody. An insertion that is not announced, because `m_tickled` is set, is of a timer
that somebody sees to; a worker that takes a task or sleeps again does not leave the earliest deadline behind. -/
def Relays (s : Idle) : Action → Prop
  | .addTimer address ms cb recurring now =>
      let t := Timer.new address ms (some cb) recurring now
      s.timers.m_tickled → (∀ j ∈ s.timers.m_timers, Timer.Comparator (some t) (some (s.timers.timer j))) →
        (∃ k ∈ s.workers, k.isBlocked) → s.SeenTo t.m_next.toNat
  | .reset i ms from_now now =>
      let t := (s.timers.timer i).restarted ms from_now now
      i ∈ s.timers.m_timers → ¬ (ms = (s.timers.timer i).m_ms ∧ from_now = false) → s.timers.m_tickled →
        (∀ j ∈ s.timers.m_timers, j ≠ i → Timer.Comparator (some t) (some (s.timers.timer j))) →
          (∃ k ∈ s.workers, k.isBlocked) → s.SeenTo t.m_next.toNat
  | .task w =>
      ∀ next, s.timers.m_timers.head? = some next → s.workers[w]? = some (.run true) →
        (∃ k ∈ s.workers, k.isBlocked) → s.SeenToBut w (s.deadline next)
  | .getNextTimer w now stop =>
      let next_timeout := (s.timers.getNextTimer now).1
      ∀ next, s.timers.m_timers.head? = some next →
        (toInt (clamp next_timeout) < 0 ∨ next_timeout = ~~~0 ∧ stop ∧ ∃ k ∈ s.workers, k.isBlocked) →
          s.SeenToBut w (s.deadline next)
  | .interrupted w now =>
      ∀ next, s.timers.m_timers.head? = some next → ∀ next_timeout wake,
        s.workers[w]? = some (.blocked next_timeout wake) →
          (waits now (clamp next_timeout)).sleepsPast (s.deadline next) → s.SeenToBut w (s.deadline next)
  | _ => True

/-- The idle workers are counted. -/
def Counted (s : Idle) : Prop := s.m_idleThreadCount = s.workers.countP Pc.isIdle

/-- The set is in order, the idle workers are counted and the sleeping ones are told. -/
structure Watched (s : Idle) : Prop where
  ordered : Ordered s.timers
  count : Counted s
  told : s.Told

theorem Watched.init (n : Nat) : Watched (init n) where
  ordered := .new
  count := by
    refine (List.countP_eq_zero.mpr ?_).symm
    intro k hk
    rw [List.eq_of_mem_replicate hk]
    decide
  told := by simp [Told, Idle.init, TimerManager.new]

/-! ## Insertions -/

theorem tickle_workers : s.tickle.workers = s.workers ∧ s.tickle.timers = s.timers ∧
    s.tickle.m_idleThreadCount = s.m_idleThreadCount := by
  rw [tickle]
  split <;> exact ⟨rfl, rfl, rfl⟩

theorem inserted_fields {at_front : Bool} : (s.inserted at_front m).workers = s.workers ∧
    (s.inserted at_front m).timers = m ∧ (s.inserted at_front m).m_idleThreadCount = s.m_idleThreadCount := by
  rw [inserted]
  split
  · exact tickle_workers
  · exact ⟨rfl, rfl, rfl⟩

/-- While a worker sleeps, `tickle` writes its byte. -/
theorem Watched.hasIdleThreads (h : Watched s) (hk : ∃ k ∈ s.workers, k.isBlocked) : s.hasIdleThreads := by
  obtain ⟨k, hk, hb⟩ := hk
  have hidle : k.isIdle := by
    cases k <;> first | rfl | cases hb
  have hpos : 0 < s.workers.countP Pc.isIdle := List.countP_pos_iff.mpr ⟨k, hk, hidle⟩
  rw [Idle.hasIdleThreads, h.count]
  exact decide_eq_true hpos

theorem Watched.inserted_pipe (h : Watched s) (hk : ∃ k ∈ s.workers, k.isBlocked) {at_front : Bool} :
    (s.inserted at_front m).m_tickleFds = if at_front then s.m_tickleFds + 1 else s.m_tickleFds := by
  have hidle := h.hasIdleThreads hk
  cases at_front with
  | false => rfl
  | true =>
      rw [inserted, if_pos rfl, onTimerInsertedAtFront, tickle, if_pos]
      · rfl
      · exact hidle

theorem addTimerLocked_fst : (m.addTimerLocked i).1 = ((m.insert i).1 && !m.m_tickled) := rfl

/-- The insertion of a timer that is outside of the set, into a set that no other step has made earlier. -/
theorem Watched.told_inserted (h : Watched s) (hm : OrderedBut [i] m) (htickled : m.m_tickled = s.timers.m_tickled)
    (hlater : ∀ next, m.m_timers.head? = some next → ∃ first, s.timers.m_timers.head? = some first ∧
      s.deadline first ≤ (m.timer next).m_next.toNat) :
    (s.inserted (m.addTimerLocked i).1 (m.addTimerLocked i).2).Told ↔
      (s.timers.m_tickled → (∀ j ∈ m.m_timers, m.less i j) → (∃ k ∈ s.workers, k.isBlocked) →
        s.SeenTo (m.timer i).m_next.toNat) := by
  have hhead := hm.head?_insert
  rw [← hm.insert_front, ← htickled]
  obtain ⟨hworkers, htimers, -⟩ := @inserted_fields s (m.addTimerLocked i).2 (m.addTimerLocked i).1
  rw [told_iff, hworkers, htimers, m_timers_addTimerLocked, hhead]
  simp only [deadline, htimers, timer_addTimerLocked]
  constructor
  · intro htold hset hfront hblocked
    have hseen := htold i (if_pos hfront) hblocked
    rwa [SeenTo, hworkers, h.inserted_pipe hblocked, addTimerLocked_fst, hset, Bool.not_true, Bool.and_false] at hseen
  · intro hseen next hnext hblocked
    rw [SeenTo, hworkers, h.inserted_pipe hblocked, addTimerLocked_fst]
    cases hfront : (m.insert i).1 with
    | false =>
        rw [hfront] at hnext
        obtain ⟨first, hfirst, hle⟩ := hlater next hnext
        exact (told_iff.mp h.told first hfirst hblocked).mono hle
    | true =>
        rw [hfront] at hnext
        obtain rfl : i = next := Option.some.inj hnext
        cases hset : m.m_tickled with
        | true => exact hseen hset hfront hblocked
        | false => exact .inl (Nat.succ_pos _)

theorem Watched.told_addTimer {address : Nat} {ms : UInt64} {cb : Callback} {recurring : Bool} (h : Watched s)
    (hfresh : ¬ ∃ i < s.timers.created, s.timers.Live i ∧ (s.timers.timer i).address = address)
    (hs : step s (.addTimer address ms cb recurring now) = .next s') :
    s'.Told ↔ Relays s (.addTimer address ms cb recurring now) := by
  simp only [step, if_neg hfresh, Outcome.next.injEq] at hs
  subst hs
  have hne : ∀ j ∈ s.timers.m_timers, j ≠ s.timers.created := fun j hj =>
    Nat.ne_of_lt (h.ordered.created j (.inr (h.ordered.mem_iff.mp hj)))
  have htold := h.told_inserted (h.ordered.newTimer hfresh ms cb recurring now) rfl ?_
  · refine htold.trans ?_
    simp only [timer_setTimer_self, m_timers_setTimer, Relays]
    refine imp_congr_right fun _ => imp_congr_left (forall₂_congr fun j hj => ?_)
    simp [less, timer_setTimer, hne j hj]
  · intro next hnext
    refine ⟨next, hnext, Nat.le_of_eq ?_⟩
    rw [timer_setTimer, if_neg (hne next (List.mem_of_mem_head? hnext))]
    rfl

theorem Watched.told_reset {ms : UInt64} {from_now : Bool} (h : Watched s)
    (hs : step s (.reset i ms from_now now) = .next s') : s'.Told ↔ Relays s (.reset i ms from_now now) := by
  simp only [step] at hs
  split at hs
  · have hreset := h.ordered.reset_eq i ms from_now now
    by_cases hi : i ∈ s.timers.m_timers ∧ ¬ (ms = (s.timers.timer i).m_ms ∧ from_now = false)
    · rw [if_pos hi] at hreset
      simp only [hreset, Outcome.next.injEq] at hs
      subst hs
      have hmem : ∀ j, j ∈ s.timers.m_timers.erase i ↔ j ≠ i ∧ j ∈ s.timers.m_timers := fun j => by
        have hnodup : s.timers.m_timers.Nodup := h.ordered.nodup
        exact hnodup.mem_erase_iff
      have htold := h.told_inserted (h.ordered.restarted hi.1 ms from_now now) rfl ?_
      · refine htold.trans ?_
        simp only [timer_setTimer_self, m_timers_setTimer, Relays, hi.1, hi.2, not_false_eq_true, true_implies]
        refine imp_congr_right fun _ => imp_congr_left ?_
        simp only [without, hmem, and_imp]
        refine forall_congr' fun j => ?_
        constructor
        · intro hless hj hji
          simpa [less, timer_setTimer, hji] using hless hji hj
        · intro hless hji hj
          simpa [less, timer_setTimer, hji] using hless hj hji
      · intro next hnext
        have hnext' := (hmem next).mp (List.mem_of_mem_head? hnext)
        obtain ⟨first, hfirst⟩ : ∃ first, s.timers.m_timers.head? = some first := by
          exact ⟨_, List.head?_eq_some_head (List.ne_nil_of_mem hnext'.2)⟩
        refine ⟨first, hfirst, ?_⟩
        rw [timer_setTimer, if_neg hnext'.1]
        exact h.ordered.head_le hfirst hnext'.2
    · rw [if_neg hi] at hreset
      simp only [hreset, Outcome.next.injEq] at hs
      subst hs
      simp only [Relays]
      constructor
      · exact fun _ hi' hne => absurd ⟨hi', hne⟩ hi
      · exact fun _ => h.told
  · cases hs

/-! ## The order of the set and the count of the idle workers -/

/-- A worker moves, and the count with it. -/
theorem Counted.setPc (h : Counted s) (hw : s.workers[w]? = some k) (k' : Pc) (m : TimerManager) {n : Nat}
    (hn : n = s.m_idleThreadCount - (if k.isIdle then 1 else 0) + (if k'.isIdle then 1 else 0)) :
    Counted { s.setPc w k' with timers := m, m_idleThreadCount := n } := by
  obtain ⟨hlt, hk⟩ := List.getElem?_eq_some_iff.mp hw
  simp only [Counted, Idle.setPc]
  rw [List.countP_set hlt, hk, ← h, hn]

theorem Counted.pos (h : Counted s) (hw : s.workers[w]? = some k) (hk : k.isIdle) :
    s.m_idleThreadCount - 1 + 1 = s.m_idleThreadCount := by
  have hpos : 0 < s.workers.countP Pc.isIdle := List.countP_pos_iff.mpr ⟨k, List.mem_of_getElem? hw, hk⟩
  exact Nat.sub_add_cancel (h ▸ hpos)

theorem Counted.inserted (h : Counted s) {at_front : Bool} : Counted (s.inserted at_front m) := by
  obtain ⟨hworkers, -, hcount⟩ := @inserted_fields s m at_front
  rw [Counted, hworkers, hcount]
  exact h

theorem Counted.step (h : Counted s) (hs : step s a = .next s') : Counted s' := by
  cases a with
  | addTimer address ms cb recurring now =>
      simp only [Idle.step] at hs
      split at hs <;> cases hs
      exact h.inserted
  | reset i ms from_now now =>
      simp only [Idle.step] at hs
      split at hs
      · split at hs <;> cases hs
        exact h.inserted
      · cases hs
  | stopping now =>
      cases hs
      exact h
  | tickle =>
      cases hs
      obtain ⟨hworkers, -, hcount⟩ := @tickle_workers s
      rw [Counted, hworkers, hcount]
      exact h
  | task w =>
      simp only [Idle.step] at hs
      split at hs <;> cases hs
      next hw => exact h.setPc hw (.run false) s.timers rfl
  | idle w =>
      simp only [Idle.step] at hs
      split at hs <;> cases hs
      next woken hw => exact h.setPc hw (.enter woken) s.timers rfl
  | getNextTimer w now stop =>
      simp only [Idle.step] at hs
      split at hs
      · next hw =>
          split at hs
          · cases hs
            exact h.setPc hw .exited _ rfl
          · simp only [epoll_wait_eq, Outcome.next.injEq] at hs
            subst hs
            refine h.setPc hw (waits now _) _ ?_
            rw [waits_isIdle]
            exact (h.pos hw rfl).symm
      · cases hs
  | interrupted w now =>
      simp only [Idle.step] at hs
      split at hs
      · next hw =>
          simp only [epoll_wait_eq, Outcome.next.injEq] at hs
          subst hs
          refine h.setPc hw (waits now _) s.timers ?_
          rw [waits_isIdle]
          exact (h.pos hw rfl).symm
      · cases hs
  | wake w =>
      simp only [Idle.step] at hs
      split at hs <;> cases hs
      next hw => exact h.setPc hw .returned s.timers (h.pos hw rfl).symm
  | listExpiredCb w address now =>
      simp only [Idle.step] at hs
      split at hs
      · next hw =>
          split at hs <;> cases hs
          exact h.setPc hw .collected _ (h.pos hw rfl).symm
      · cases hs
  | drain w =>
      simp only [Idle.step] at hs
      split at hs <;> cases hs
      exact h
  | swapOut w =>
      simp only [Idle.step] at hs
      split at hs <;> cases hs
      next hw => exact h.setPc hw (.run true) s.timers rfl

theorem ordered_step (h : Ordered s.timers) (hs : step s a = .next s') : Ordered s'.timers := by
  cases a with
  | addTimer address ms cb recurring now =>
      simp only [step] at hs
      split at hs <;> cases hs
      next hfresh =>
        rw [inserted_fields.2.1]
        exact h.addTimer hfresh
  | reset i ms from_now now =>
      simp only [step] at hs
      split at hs
      · split at hs <;> cases hs
        next hreset =>
          rw [inserted_fields.2.1]
          exact h.reset hreset
      · cases hs
  | stopping now =>
      cases hs
      exact h.getNextTimer
  | tickle =>
      cases hs
      rw [tickle_workers.2.1]
      exact h
  | getNextTimer w now stop =>
      simp only [step] at hs
      split at hs
      · split at hs
        · cases hs
          exact h.getNextTimer
        · simp only [epoll_wait_eq, Outcome.next.injEq] at hs
          subst hs
          exact h.getNextTimer
      · cases hs
  | interrupted w now =>
      simp only [step, epoll_wait_eq] at hs
      split at hs <;> cases hs
      exact h
  | listExpiredCb w address now =>
      obtain ⟨cbs, m', hlist, hm', -⟩ := h.listExpiredCb address now
      simp only [step, hlist] at hs
      split at hs <;> cases hs
      exact hm'
  | task | idle | wake | drain | swapOut =>
      simp only [step] at hs
      split at hs <;> cases hs
      exact h

theorem step_returns (h : Ordered s.timers) (hnext : step s a ≠ .blocked) : ∃ s', step s a = .next s' := by
  cases hs : step s a with
  | next s' => exact ⟨s', rfl⟩
  | blocked => exact absurd hs hnext
  | abort e =>
      cases a with
      | reset i ms from_now now =>
          simp only [step, h.reset_eq i ms from_now now] at hs
          split at hs
          · split at hs
            · next heq => split at heq <;> cases heq
            · cases hs
          · cases hs
      | listExpiredCb w address now =>
          obtain ⟨cbs, m', hlist, -⟩ := h.listExpiredCb address now
          simp only [step, hlist] at hs
          split at hs <;> cases hs
      | getNextTimer w now stop =>
          simp only [step] at hs
          split at hs
          · split at hs <;> cases hs
          · cases hs
      | stopping | tickle => cases hs
      | addTimer | task | idle | interrupted | wake | drain | swapOut =>
          simp only [step] at hs
          split at hs <;> cases hs

/-! ## Workers -/

theorem Watched.told_task (h : Watched s) (hs : step s (.task w) = .next s') : s'.Told ↔ Relays s (.task w) := by
  simp only [step] at hs
  split at hs
  · next woken hw =>
      cases hs
      cases woken with
      | false =>
          simp only [Relays, hw, Option.some.injEq, Pc.run.injEq, Bool.false_eq_true, false_implies, implies_true,
            iff_true]
          exact h.told.setPc hw (.run false) s.m_idleThreadCount rfl fun _ => id
      | true =>
          refine Iff.trans (told_setPc hw (.run false) s.m_idleThreadCount rfl rfl) ?_
          have hnot : ∀ d, ¬ (Pc.run false).SeesTo d := by simp [Pc.SeesTo, Pc.woken, Pc.isBlocked]
          have hblocked : (Pc.run false).isBlocked = false := rfl
          simp only [Relays, hw, true_implies, exists_blocked_iff hw rfl, hnot, hblocked, Bool.false_eq_true, false_or]
  · cases hs

theorem told_getNextTimer {stop : Bool} (hs : step s (.getNextTimer w now stop) = .next s') :
    s'.Told ↔ Relays s (.getNextTimer w now stop) := by
  simp only [step] at hs
  split at hs
  · next woken hw =>
      have hset : (s.timers.getNextTimer now).2.m_timers = s.timers.m_timers := by rw [getNextTimer_manager]
      have htimer : (s.timers.getNextTimer now).2.timer = s.timers.timer := by rw [getNextTimer_manager]
      split at hs
      · next hstop =>
          cases hs
          have hmax : ¬ toInt (clamp (~~~0)) < 0 := by decide
          refine Iff.trans (told_setPc hw .exited (s.m_idleThreadCount - 1) hset htimer) ?_
          have hnot : ∀ d, ¬ Pc.exited.SeesTo d := by simp [Pc.SeesTo, Pc.woken, Pc.isBlocked]
          have hblocked : Pc.exited.isBlocked = false := rfl
          simp only [Relays, hstop, hmax, exists_blocked_iff hw rfl, hnot, hblocked, Bool.false_eq_true, false_or,
            true_and]
      · next hstop =>
          simp only [epoll_wait_eq, Outcome.next.injEq] at hs
          subst hs
          have htold := told_setPc hw (waits now (clamp (s.timers.getNextTimer now).1)) s.m_idleThreadCount hset htimer
          refine Iff.trans htold ?_
          simp only [Relays]
          refine forall₂_congr fun next hnext => ?_
          by_cases hneg : toInt (clamp (s.timers.getNextTimer now).1) < 0
          · obtain ⟨hblocked, hpast⟩ := @waits_endless (s.deadline next) now _ hneg
            have hnot : ¬ (waits now (clamp (s.timers.getNextTimer now).1)).SeesTo (s.deadline next) := by
              rw [waits_seesTo]
              exact not_not.mpr hpast
            simp only [hblocked, hnot, hneg, true_or, true_implies, false_or]
          · have hsees := waits_getNextTimer hnext (Int.not_lt.mp hneg)
            constructor
            · rintro - (hneg' | ⟨hmax, hstop', -⟩)
              · exact absurd hneg' hneg
              · exact absurd ⟨hmax, hstop'⟩ hstop
            · exact fun _ _ => .inl hsees
  · cases hs

theorem told_interrupted (hs : step s (.interrupted w now) = .next s') :
    s'.Told ↔ Relays s (.interrupted w now) := by
  simp only [step] at hs
  split at hs
  · next next_timeout wake hw =>
      simp only [epoll_wait_eq, Outcome.next.injEq] at hs
      subst hs
      refine Iff.trans (told_setPc hw (waits now (clamp next_timeout)) s.m_idleThreadCount rfl rfl) ?_
      simp only [Relays]
      refine forall₂_congr fun next hnext => ?_
      rw [waits_seesTo]
      constructor
      · rintro htold t wake' hw' hpast
        cases hw.symm.trans hw'
        have hblocked : (waits now (clamp next_timeout)).isBlocked := by
          rw [waits] at hpast ⊢
          split at hpast
          · cases hpast
          · next hne => rw [if_neg hne]; rfl
        exact (htold (.inl hblocked)).resolve_left (not_not.mpr hpast)
      · intro hrelay _
        by_cases hpast : (waits now (clamp next_timeout)).sleepsPast (s.deadline next)
        · exact .inr (hrelay next_timeout wake hw hpast)
        · exact .inl hpast
  · cases hs

theorem mem_setPc (hw : s.workers[w]? = some k) (k' : Pc) : k' ∈ (s.setPc w k').workers :=
  List.mem_set (List.getElem?_eq_some_iff.mp hw).1 k'

theorem Watched.told_stopping (h : Watched s) (hs : step s (.stopping now) = .next s') : s'.Told := by
  cases hs
  have hmanager : (s.timers.getNextTimer now).2 = { s.timers with m_tickled := false } := getNextTimer_manager
  intro next hnext
  rw [hmanager] at hnext
  simpa [deadline, hmanager] using h.told next hnext

theorem Watched.told_tickle (h : Watched s) (hs : step s .tickle = .next s') : s'.Told := by
  cases hs
  rw [tickle]
  split
  · exact fun _ _ _ _ => .inl (Nat.succ_pos _)
  · exact h.told

theorem Watched.told_idle (h : Watched s) (hs : step s (.idle w) = .next s') : s'.Told := by
  simp only [step] at hs
  split at hs
  · next woken hw =>
      cases hs
      exact h.told.setPc hw (.enter woken) _ rfl fun _ hsees => hsees.imp id fun hb => nomatch hb.1
  · cases hs

/-- Between its wake-up and the end of idle a worker is woken. -/
theorem told_loop (hs : step s a = .next s')
    (ha : (∃ w, a = .wake w) ∨ (∃ w address now, a = .listExpiredCb w address now) ∨ (∃ w, a = .drain w) ∨
      ∃ w, a = .swapOut w) : s'.Told := by
  rcases ha with ⟨w, rfl⟩ | ⟨w, address, now, rfl⟩ | ⟨w, rfl⟩ | ⟨w, rfl⟩ <;> simp only [step] at hs <;> split at hs
  · next hw =>
      cases hs
      exact told_of_woken (mem_setPc hw .returned) rfl
  · cases hs
  · next hw =>
      split at hs
      · cases hs
      · cases hs
        exact told_of_woken (mem_setPc hw .collected) rfl
  · cases hs
  · next hw =>
      cases hs
      exact told_of_woken (List.mem_of_getElem? hw) rfl
  · cases hs
  · next hw =>
      cases hs
      exact told_of_woken (mem_setPc hw (.run true)) rfl
  · cases hs

/-- A step leaves every deadline to somebody exactly when it relays. -/
theorem Watched.step_iff (h : Watched s) (hnext : step s a ≠ .blocked) :
    (∀ s', step s a = .next s' → s'.Told) ↔ Relays s a := by
  obtain ⟨s', hs⟩ := step_returns h.ordered hnext
  have hiff : s'.Told ↔ Relays s a := by
    cases a with
    | addTimer address ms cb recurring now =>
        refine h.told_addTimer (fun hused => hnext ?_) hs
        exact if_pos hused
    | reset i ms from_now now => exact h.told_reset hs
    | task w => exact h.told_task hs
    | getNextTimer w now stop => exact told_getNextTimer hs
    | interrupted w now => exact told_interrupted hs
    | stopping now => exact iff_of_true (h.told_stopping hs) trivial
    | tickle => exact iff_of_true (h.told_tickle hs) trivial
    | idle w => exact iff_of_true (h.told_idle hs) trivial
    | wake w => exact iff_of_true (told_loop hs (.inl ⟨w, rfl⟩)) trivial
    | listExpiredCb w address now => exact iff_of_true (told_loop hs (.inr (.inl ⟨w, address, now, rfl⟩))) trivial
    | drain w => exact iff_of_true (told_loop hs (.inr (.inr (.inl ⟨w, rfl⟩)))) trivial
    | swapOut w => exact iff_of_true (told_loop hs (.inr (.inr (.inr ⟨w, rfl⟩)))) trivial
  rw [← hiff]
  constructor
  · exact fun h => h s' hs
  · intro htold s₁ hs₁
    cases hs.symm.trans hs₁
    exact htold

theorem Watched.step (h : Watched s) (ha : Relays s a) (hs : step s a = .next s') : Watched s' where
  ordered := ordered_step h.ordered hs
  count := h.count.step hs
  told := (h.step_iff (by simp [hs])).mpr ha s' hs

/-- Two workers sleep without a timer. A timer of one second is announced, and so is a task; the worker that is woken
takes the task. A timer of ten milliseconds comes. -/
def tellsTheBusy : List Action :=
  [.idle 0, .getNextTimer 0 0 false, .idle 1, .getNextTimer 1 0 false, .addTimer 16 1000 0 false 10, .tickle,
   .wake 1, .listExpiredCb 1 48 10, .drain 1, .swapOut 1, .task 1, .addTimer 32 10 1 false 20]

/-- The second timer is not announced, and the other worker sleeps on past both. -/
theorem tellsTheBusy_untold : ¬ ∀ n s, (system n).Reachable s → s.Told := by
  intro h
  have hend : ((system 2).exec (system 2).init tellsTheBusy).view
      (fun s => (s.timers.m_timers, s.timers.m_timers.map s.deadline, s.m_tickleFds, s.workers)) =
      some ([1, 0], [30, 1010], 0, [.blocked 3000 (some 3000), .run false]) := by decide +kernel
  obtain ⟨s, hreach, hend⟩ := Lib.System.reachable_of_view hend
  simp only [Prod.mk.injEq] at hend
  obtain ⟨hset, hdeadline, hpipe, hworkers⟩ := hend
  simp only [hset, List.map_cons, List.map_nil, List.cons.injEq, and_true] at hdeadline
  have htold := h 2 s hreach 1 (by simp [hset])
  simp [hworkers, hpipe, Pc.isBlocked, Pc.sleepsPast, Pc.woken, hdeadline.1] at htold

/-- In every state of a run the sleeping workers are told of the earliest deadline, exactly when no step of the run
leaves a deadline to nobody. -/
theorem run_told_iff (n : Nat) (as : List Action) :
    (∀ q ∈ (system n).trace (system n).init as, ∀ s', Idle.step q.1 q.2 = .next s' → s'.Told) ↔
      ∀ q ∈ (system n).trace (system n).init as, Relays q.1 q.2 := by
  have hgood : ∀ s a, Watched s → (system n).step s a ≠ .blocked →
      ((∀ s', Idle.step s a = .next s' → s'.Told) ↔ Relays s a) := fun _ _ hs hnext => hs.step_iff hnext
  have hstep : ∀ s a s', Watched s → Relays s a → (system n).step s a = .next s' → Watched s' :=
    fun _ _ _ hs ha hs' => hs.step ha hs'
  exact Lib.System.trace_iff hgood hstep (Watched.init n) as

end Mingfwq.Idle
