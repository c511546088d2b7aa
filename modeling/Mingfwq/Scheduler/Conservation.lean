import Mathlib.Data.List.Perm.Basic
import Mingfwq.Scheduler.Queue

/-!
# Entries are taken once, in order

What is in the queue is what has been pushed, in that order, without what has been removed.
-/

namespace Mingfwq.Scheduler

open Lib

/-- Pushed earlier: by an earlier call, or earlier in the same call. -/
def Entry.Before (e e' : Entry) : Prop := e.call < e'.call ∨ e.call = e'.call ∧ e.place < e'.place

theorem Entry.Before.ne {e e' : Entry} (h : e.Before e') : e ≠ e' := by
  rintro rfl
  rcases h with hlt | ⟨-, hlt⟩
  · exact Nat.lt_irrefl _ hlt
  · exact Nat.lt_irrefl _ hlt

/-- Pinned to another thread than `w`. -/
def Entry.Elsewhere (w : Nat) (e : Entry) : Prop := e.thread ≠ none ∧ e.thread ≠ some w

/-- The scan had a reason to go past the entry. -/
def Passed.Skipped (w : Nat) (p : Passed) : Prop := p.entry.Elsewhere w ∨ p.state = some .EXEC

namespace Queue

variable {s s' : Queue} {a : Action} {w : Nat}

/-- The queue is in the order of the pushes, and the entries of one call have no others between them. -/
structure InOrder (s : Queue) : Prop where
  sorted : s.pushed.Pairwise Entry.Before
  sublist : s.m_fibers.Sublist s.pushed
  contiguous : ∀ e e' e'', [e, e', e''].Sublist s.m_fibers → e.call = e''.call → e'.call = e.call

/-- The worker that scans the queue, and what it has gone past. -/
def scan (s : Queue) : Option (Nat × List Passed) :=
  match s.m_mutex with
  | some (.run w passed _ _) => some (w, passed)
  | _ => none

/-- The end of a scan of worker `w`, which has taken `ft`: the first entry it had no reason to go past. -/
structure Takes (s s' : Queue) (w : Nat) (ft : Option Entry) : Prop where
  removed : s'.removed = s.removed ++ ft.toList.map (w, ·)
  mine : ∀ e ∈ ft, ¬ e.Elsewhere w ∧ s.getState e.task ≠ some .EXEC
  split : ∃ (passed : List Passed) (rest : List Entry), s.scan = some (w, passed) ∧
    s.m_fibers = passed.map Passed.entry ++ ft.toList ++ rest ∧
      s'.m_fibers = passed.map Passed.entry ++ rest ∧
      (∀ p ∈ passed, p.Skipped w) ∧ (ft = none → rest = []) ∧
      ((∃ p ∈ passed, p.entry.Elsewhere w) ∨ rest ≠ [] → s'.worker w = .tickle ft)

/-- The number that the next argument of the call has which holds the lock. -/
def place (s : Queue) : Nat :=
  match s.m_mutex with
  | some (.schedule _ _ place _) => place
  | _ => 0

/-- What holds in every run. -/
structure Kept (s : Queue) : Prop where
  once : (s.m_fibers ++ s.removed.map Prod.snd).Perm s.pushed
  sorted : s.pushed.Pairwise Entry.Before
  sublist : s.m_fibers.Sublist s.pushed
  below : ∀ e ∈ s.pushed, e.call < s.calls ∨ e.call = s.calls ∧ e.place < s.place
  scan : ∀ w passed rest tickle_me, s.m_mutex = some (.run w passed rest tickle_me) →
    s.m_fibers = passed.map Passed.entry ++ rest ∧ (∀ p ∈ passed, p.Skipped w) ∧
      ((∃ p ∈ passed, p.entry.Elsewhere w) → tickle_me = true)

theorem kept_init : Kept init := by
  refine ⟨.nil, .nil, .slnil, ?_, ?_⟩
  · intro e he
    cases he
  · intro w passed rest tickle_me h
    cases h

theorem Kept.same (h : Kept s) {holder : Option Holder}
    (hsame : s' = { s with m_mutex := holder, m_state := s'.m_state, worker := s'.worker, tickled := s'.tickled })
    (hplace : s.place ≤ s'.place)
    (hscan : ∀ w passed rest tickle_me, holder = some (.run w passed rest tickle_me) →
      s.m_fibers = passed.map Passed.entry ++ rest ∧ (∀ p ∈ passed, p.Skipped w) ∧
        ((∃ p ∈ passed, p.entry.Elsewhere w) → tickle_me = true)) : Kept s' := by
  rw [hsame] at hplace ⊢
  refine ⟨h.once, h.sorted, h.sublist, fun e he => ?_, hscan⟩
  rcases h.below e he with hlt | ⟨heq, hlt⟩
  · exact .inl hlt
  · exact .inr ⟨heq, Nat.lt_of_lt_of_le hlt hplace⟩

/-- One more entry at the end of the queue. -/
theorem Kept.append (h : Kept s) (e : Entry) (hcall : e.call = s.calls) (hplace : e.place = s.place) :
    ((s.m_fibers ++ [e]) ++ s.removed.map Prod.snd).Perm (s.pushed ++ [e]) ∧ (s.pushed ++ [e]).Pairwise Entry.Before ∧
      (s.m_fibers ++ [e]).Sublist (s.pushed ++ [e]) := by
  refine ⟨?_, ?_, h.sublist.append (.refl _)⟩
  · rw [List.append_assoc]
    refine (List.perm_append_comm.append_left s.m_fibers).trans ?_
    rw [← List.append_assoc]
    exact h.once.append_right [e]
  · rw [List.pairwise_append]
    refine ⟨h.sorted, List.pairwise_singleton _ e, fun x hx y hy => ?_⟩
    obtain rfl := List.mem_singleton.mp hy
    rw [Entry.Before, hcall, hplace]
    exact h.below x hx

theorem Kept.push (h : Kept s) {rest : List (Option FiberOrCb)} {thread : Option Nat} {place : Nat} {need_ticke : Bool}
    (hmutex : s.m_mutex = some (.schedule rest thread place need_ticke)) :
    Kept (s.push rest thread place need_ticke) := by
  have hplace : s.place = place := by rw [Queue.place, hmutex]
  cases rest with
  | nil =>
      refine ⟨h.once, h.sorted, h.sublist, fun e he => .inl ?_, nofun⟩
      show e.call < s.calls + 1
      rcases h.below e he with hlt | ⟨heq, -⟩ <;> omega
  | cons fc rest =>
      cases fc with
      | none =>
          refine ⟨h.once, h.sorted, h.sublist, fun e he => ?_, nofun⟩
          show e.call < s.calls ∨ e.call = s.calls ∧ e.place < place + 1
          rcases h.below e he with hlt | ⟨heq, hlt⟩ <;> omega
      | some task =>
          obtain ⟨honce, hsorted, hsublist⟩ := h.append ⟨⟨task, thread⟩, s.calls, place⟩ rfl hplace.symm
          refine ⟨honce, hsorted, hsublist, fun e he => ?_, nofun⟩
          show e.call < s.calls ∨ e.call = s.calls ∧ e.place < place + 1
          rcases List.mem_append.mp he with he | he
          · rcases h.below e he with hlt | ⟨heq, hlt⟩ <;> omega
          · obtain rfl := List.mem_singleton.mp he
            exact .inr ⟨rfl, Nat.lt_succ_self place⟩

/-- A look at an entry goes past it, or takes it and ends the scan. -/
theorem look_cases {passed : List Passed} {rest : List Entry} {tickle_me : Bool}
    (hfibers : s.m_fibers = passed.map Passed.entry ++ rest) :
    (∃ it rest' tickle_me', rest = it :: rest' ∧ (it.Elsewhere w ∨ s.getState it.task = some .EXEC) ∧
      (tickle_me ∨ it.Elsewhere w → tickle_me' = true) ∧
      s.look w passed rest tickle_me = { s with
        m_mutex := some (.run w (passed ++ [⟨it, s.getState it.task⟩]) rest' tickle_me') }) ∨
    ∃ ft rest' tickle_me', rest = ft.toList ++ rest' ∧ (ft = none → rest' = []) ∧
      (∀ e ∈ ft, ¬ e.Elsewhere w ∧ s.getState e.task ≠ some .EXEC) ∧
      (tickle_me ∨ rest' ≠ [] → tickle_me' = true) ∧
      s.look w passed rest tickle_me = { s with
        m_fibers := passed.map Passed.entry ++ rest'
        removed := s.removed ++ ft.toList.map (w, ·) }.unlock w ft tickle_me' := by
  cases rest with
  | nil =>
      refine .inr ⟨none, [], tickle_me, rfl, fun _ => rfl, nofun, ?_, ?_⟩
      · exact fun h => h.resolve_right (not_not_intro rfl)
      · rw [look, ← hfibers, Option.toList_none, List.map_nil, List.append_nil]
  | cons it rest =>
      by_cases helse : it.thread ≠ none ∧ it.thread ≠ some w
      · exact .inl ⟨it, rest, true, rfl, .inl helse, fun _ => rfl, by rw [look, if_pos helse]⟩
      by_cases hexec : s.getState it.task = some .EXEC
      · refine .inl ⟨it, rest, tickle_me, rfl, .inr hexec, ?_, ?_⟩
        · exact fun h => h.resolve_right helse
        · rw [look, if_neg helse, if_pos hexec]
      · refine .inr ⟨some it, rest, tickle_me || !rest.isEmpty, rfl, nofun, ?_, ?_, ?_⟩
        · rintro e ⟨⟩
          exact ⟨helse, hexec⟩
        · simp
        · rw [look, if_neg helse, if_neg hexec]
          rfl

/-- The look that ends a scan. -/
theorem Kept.takes (h : Kept s) {passed : List Passed} {rest rest' : List Entry} {tickle_me tickle_me' : Bool}
    {ft : Option Entry} (hmutex : s.m_mutex = some (.run w passed rest tickle_me)) (hrest : rest = ft.toList ++ rest')
    (hnone : ft = none → rest' = []) (hmine : ∀ e ∈ ft, ¬ e.Elsewhere w ∧ s.getState e.task ≠ some .EXEC)
    (htickle : tickle_me ∨ rest' ≠ [] → tickle_me' = true) :
    Takes s ({ s with
      m_fibers := passed.map Passed.entry ++ rest'
      removed := s.removed ++ ft.toList.map (w, ·) }.unlock w ft tickle_me') w ft := by
  obtain ⟨hfibers, hskipped, helsewhere⟩ := h.scan w passed rest tickle_me hmutex
  rw [hrest, ← List.append_assoc] at hfibers
  refine ⟨rfl, hmine, passed, rest', by rw [Queue.scan, hmutex], hfibers, rfl, hskipped, hnone, fun hany => ?_⟩
  rw [htickle (hany.imp_left helsewhere)]
  exact Function.update_self ..

theorem Kept.takes_kept (h : Kept s) {ft : Option Entry} (ht : Takes s s' w ft) :
    (s'.m_fibers ++ s'.removed.map Prod.snd).Perm s.pushed ∧ s'.m_fibers.Sublist s.pushed := by
  obtain ⟨passed, rest, -, hfibers, hfibers', -⟩ := ht.split
  have hmap : (ft.toList.map (w, ·)).map Prod.snd = ft.toList := by
    rw [List.map_map]
    exact List.map_id _
  have honce := h.once
  have hsublist := h.sublist
  rw [hfibers] at honce hsublist
  rw [ht.removed, List.map_append, hmap, hfibers']
  constructor
  · -- the entry moves from the queue to the end of the removed ones
    refine List.Perm.trans ?_ honce
    simp only [List.append_assoc]
    refine List.Perm.append_left _ ?_
    rw [← List.append_assoc rest]
    exact List.perm_append_comm
  · refine List.Sublist.trans ?_ hsublist
    rw [List.append_assoc]
    exact (List.sublist_append_right _ _).append_left _

theorem Kept.step (h : Kept s) (hs : Queue.step s a = .next s') : Kept s' := by
  cases a with
  | schedule fc thread =>
      simp only [Queue.step] at hs
      split at hs
      · next hfree =>
          cases hs
          exact h.same rfl (by simp [Queue.place, hfree]) nofun
      · cases hs
  | scheduleAll fcs =>
      simp only [Queue.step] at hs
      split at hs
      · next hfree =>
          cases hs
          exact h.same rfl (by simp [Queue.place, hfree]) nofun
      · cases hs
  | push =>
      simp only [Queue.step] at hs
      split at hs
      · next hmutex =>
          cases hs
          exact h.push hmutex
      · cases hs
  | lock w =>
      simp only [Queue.step] at hs
      split at hs
      · next hfree =>
          cases hs
          refine h.same rfl (by simp [Queue.place, hfree.1]) ?_
          rintro w passed rest tickle_me ⟨⟩
          exact ⟨rfl, nofun, nofun⟩
      · cases hs
  | look =>
      simp only [Queue.step] at hs
      split at hs
      · next w passed rest tickle_me hmutex =>
          obtain ⟨hfibers, hskipped, helsewhere⟩ := h.scan w passed rest tickle_me hmutex
          have hplace : s.place = 0 := by rw [Queue.place, hmutex]
          rcases look_cases hfibers with ⟨p, rest', tickle_me', hrest, hp, htrue, hlook⟩ |
            ⟨ft, rest', tickle_me', hrest, hnone, hmine, htrue, hlook⟩
          · obtain rfl := hlook.symm.trans (Outcome.next.inj hs)
            refine h.same rfl (hplace ▸ Nat.zero_le _) ?_
            rintro w passed rest tickle_me ⟨⟩
            refine ⟨?_, ?_, ?_⟩
            · rw [hfibers, hrest, List.map_append, List.append_assoc]
              rfl
            · exact List.forall_mem_append.mpr ⟨hskipped, List.forall_mem_singleton.mpr hp⟩
            · rintro ⟨q, hq, helse⟩
              apply htrue
              rcases List.mem_append.mp hq with hq | hq
              · exact .inl (helsewhere ⟨q, hq, helse⟩)
              · obtain rfl := List.mem_singleton.mp hq
                exact .inr helse
          · obtain rfl := hlook.symm.trans (Outcome.next.inj hs)
            have ht := h.takes hmutex hrest hnone hmine htrue
            obtain ⟨honce, hsublist⟩ := h.takes_kept ht
            refine ⟨honce, h.sorted, hsublist, fun e he => ?_, nofun⟩
            rcases h.below e he with hlt | ⟨-, hlt⟩
            · exact .inl hlt
            · rw [hplace] at hlt
              cases hlt
      · cases hs
  | tickle w =>
      simp only [Queue.step] at hs
      split at hs
      · cases hs
        exact h.same rfl (Nat.le_refl _) h.scan
      · cases hs
  | execute w =>
      simp only [Queue.step] at hs
      split at hs
      · cases hs
        exact h.same rfl (Nat.le_refl _) h.scan
      · cases hs
  | setState f state =>
      cases hs
      exact h.same rfl (Nat.le_refl _) h.scan

theorem kept_of_reachable (h : system.Reachable s) : Kept s :=
  h.invariant kept_init fun _ _ _ hkept _ hs => hkept.step hs

/-- Only a worker in its loop holds the lock. -/
def Holding (s : Queue) : Prop :=
  ∀ w passed rest tickle_me, s.m_mutex = some (.run w passed rest tickle_me) → s.worker w = .loop

theorem Holding.update (h : Holding s) {w : Nat} {stage : Stage} (hw : s.worker w ≠ .loop) (v : Nat)
    {passed : List Passed} {rest : List Entry} {tickle_me : Bool}
    (hmutex : s.m_mutex = some (.run v passed rest tickle_me)) :
    Function.update s.worker w stage v = .loop := by
  have hv := h v passed rest tickle_me hmutex
  have hne : v ≠ w := by
    rintro rfl
    exact hw hv
  rw [Function.update_of_ne hne]
  exact hv

theorem Holding.step (hkept : Kept s) (h : Holding s) (hs : Queue.step s a = .next s') : Holding s' := by
  cases a with
  | push =>
      simp only [Queue.step] at hs
      split at hs
      · next rest thread place need_ticke hmutex =>
          obtain rfl := Outcome.next.inj hs
          cases rest with
          | nil => exact nofun
          | cons fc rest => exact nofun
      · cases hs
  | lock w =>
      simp only [Queue.step] at hs
      split at hs
      · next hfree =>
          cases hs
          rintro v passed rest tickle_me ⟨⟩
          exact hfree.2
      · cases hs
  | look =>
      simp only [Queue.step] at hs
      split at hs
      · next w passed rest tickle_me hmutex =>
          rcases look_cases (hkept.scan w passed rest tickle_me hmutex).1 with ⟨p, rest', tickle_me', -, -, -, hlook⟩ |
            ⟨ft, rest', tickle_me', -, -, -, -, hlook⟩
          · obtain rfl := hlook.symm.trans (Outcome.next.inj hs)
            rintro v passed rest tickle_me ⟨⟩
            exact h w _ _ _ hmutex
          · obtain rfl := hlook.symm.trans (Outcome.next.inj hs)
            exact nofun
      · cases hs
  | tickle w =>
      simp only [Queue.step] at hs
      split at hs
      · next ft hstage =>
          cases hs
          exact fun v passed rest tickle_me hmutex => h.update (by rw [hstage]; exact nofun) v hmutex
      · cases hs
  | execute w =>
      simp only [Queue.step] at hs
      split at hs
      · next ft hstage =>
          cases hs
          exact fun v passed rest tickle_me hmutex => h.update (by rw [hstage]; exact nofun) v hmutex
      · cases hs
  | setState f state =>
      cases hs
      exact h
  | _ =>
      simp only [Queue.step] at hs
      split at hs
      · cases hs
        exact nofun
      · cases hs

end Queue

end Mingfwq.Scheduler
