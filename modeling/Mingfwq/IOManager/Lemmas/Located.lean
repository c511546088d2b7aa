import Mingfwq.IOManager.Model

/-!
# Where the contexts stand in the table

A section writes its context back under the same descriptor, and only contextResize changes `m_FdContexts`.
-/

namespace Mingfwq

open Lib

namespace FdContext

variable {c : FdContext} {e : Event} {r r' : Section}

@[simp] theorem fd_setContext (c : FdContext) (e : Event) (x : EventContext) : (c.setContext e x).fd = c.fd := by
  cases e <;> rfl

theorem triggerEvent_fd (h : c.triggerEvent e = .ok r) : r.ctx.fd = c.fd := by
  simp only [triggerEvent] at h
  split at h
  · split at h
    · cases h
    · cases h
      exact fd_setContext _ _ _
  · cases h

theorem sectionTriggerEvent_fd (h : r.triggerEvent e = .ok r') : r'.ctx.fd = r.ctx.fd := by
  simp only [Section.triggerEvent, bind, Except.bind] at h
  split at h
  · cases h
  · next t ht =>
      have hfd := triggerEvent_fd ht
      cases h
      exact hfd

theorem triggerIf_fd {mask : Events} (h : r.triggerIf mask e = .ok r') : r'.ctx.fd = r.ctx.fd := by
  rw [Section.triggerIf] at h
  split at h
  · exact sectionTriggerEvent_fd h
  · cases h
    rfl

theorem addEvent_fd {cb : Option Nat} {who : Caller} {waiter : Nat} {rt : Bool}
    (h : c.addEvent e cb who waiter rt = .ok (some r)) : r.ctx.fd = c.fd := by
  simp only [addEvent] at h
  split at h
  · cases h
  split at h
  · cases h
  split at h
  · cases h
  split at h
  · cases h
  · cases h
    exact fd_setContext _ _ _

theorem delEvent_fd {rt : Bool} (h : c.delEvent e rt = some r) : r.ctx.fd = c.fd := by
  rw [delEvent] at h
  split at h
  · cases h
  · cases h
    exact fd_setContext _ _ _

theorem cancelEvent_fd {rt : Bool} (h : c.cancelEvent e rt = .ok (some r)) : r.ctx.fd = c.fd := by
  rw [cancelEvent] at h
  split at h
  · cases h
  · cases ht : c.triggerEvent e with
    | error f =>
        rw [ht] at h
        cases h
    | ok t =>
        rw [ht] at h
        cases h
        exact triggerEvent_fd ht

theorem cancelAll_fd {rt : Bool} (h : c.cancelAll rt = .ok (some r)) : r.ctx.fd = c.fd := by
  rw [cancelAll] at h
  split at h
  · cases h
  · simp only [bind, Except.bind] at h
    split at h
    · cases h
    · next r₁ h₁ =>
        split at h
        · cases h
        · next r₂ h₂ =>
            split at h
            · cases h
              rw [triggerIf_fd h₂, triggerIf_fd h₁]
            · cases h

theorem dispatch_fd {event : EpollEvents} {rt2 : Bool} (h : c.dispatch event rt2 = .ok r) : r.ctx.fd = c.fd := by
  rw [dispatch] at h
  split at h
  · cases h
    rfl
  · simp only [bind, Except.bind] at h
    split at h
    · cases h
    · next r₁ h₁ => rw [triggerIf_fd h, triggerIf_fd h₁]

/-! ## Sections access no table -/

theorem triggerEvent_ne_outOfRange : c.triggerEvent e ≠ .error .outOfRange := by
  simp only [triggerEvent]
  split
  · split <;> simp
  · simp

theorem triggerIf_ne_outOfRange {mask : Events} : r.triggerIf mask e ≠ .error .outOfRange := by
  rw [Section.triggerIf]
  split
  · simp only [Section.triggerEvent, bind, Except.bind]
    split
    · next f hf =>
        intro h
        cases h
        exact triggerEvent_ne_outOfRange hf
    · simp
  · simp

theorem addEvent_ne_outOfRange {cb : Option Nat} {who : Caller} {waiter : Nat} {rt : Bool} :
    c.addEvent e cb who waiter rt ≠ .error .outOfRange := by
  simp only [addEvent]
  split
  · simp
  split
  · simp
  split
  · simp
  split <;> simp

theorem cancelEvent_ne_outOfRange {rt : Bool} : c.cancelEvent e rt ≠ .error .outOfRange := by
  rw [cancelEvent]
  split
  · simp
  · intro h
    cases ht : c.triggerEvent e with
    | error f =>
        rw [ht] at h
        cases h
        exact triggerEvent_ne_outOfRange ht
    | ok t =>
        rw [ht] at h
        cases h

theorem cancelAll_ne_outOfRange {rt : Bool} : c.cancelAll rt ≠ .error .outOfRange := by
  rw [cancelAll]
  split
  · simp
  · simp only [bind, Except.bind]
    split
    · next f hf =>
        intro h
        cases h
        exact triggerIf_ne_outOfRange hf
    · split
      · next f hf =>
          intro h
          cases h
          exact triggerIf_ne_outOfRange hf
      · split <;> simp

theorem dispatch_ne_outOfRange {event : EpollEvents} {rt2 : Bool} : c.dispatch event rt2 ≠ .error .outOfRange := by
  rw [dispatch]
  split
  · simp
  · simp only [bind, Except.bind]
    split
    · next f hf =>
        intro h
        cases h
        exact triggerIf_ne_outOfRange hf
    · exact triggerIf_ne_outOfRange

end FdContext

namespace IOManager

variable {m m' : IOManager} {a : Action} {t : Nat}

/-! ## What a step does to the table -/

/-- A step of any operation but the resize: the table stays, one context may be written back, and a thread that is
about to resize has found no context. -/
structure Keeps (m m' : IOManager) : Prop where
  table : m'.m_FdContexts = m.m_FdContexts
  contexts : m'.contexts = m.contexts ∨
    ∃ i c c', m.contexts[i]? = some c ∧ c'.fd = c.fd ∧ m'.contexts = m.contexts.set i c'
  resizing : ∀ t fd event cb, m'.pc t = .addEventResize fd event cb →
    m.pc t = .addEventResize fd event cb ∨ m.m_FdContexts.length ≤ fd

theorem Keeps.setPc {pc : Pc} (h : ∀ fd event cb, pc = .addEventResize fd event cb → m.m_FdContexts.length ≤ fd) :
    Keeps m (m.setPc t pc) where
  table := rfl
  contexts := .inl rfl
  resizing := by
    intro t' fd event cb hpc
    simp only [IOManager.setPc, Function.update_apply] at hpc
    split at hpc
    · exact .inr (h fd event cb hpc)
    · exact .inl hpc

/-- A section that is written back, by a thread that does not go on to resize. -/
theorem Keeps.commit {i : Nat} {c : FdContext} {r : Section} {pc : Pc} (hc : m.contexts[i]? = some c)
    (hr : r.ctx.fd = c.fd) (hpc : ∀ fd event cb, pc ≠ .addEventResize fd event cb) :
    Keeps m ((m.commit i r).setPc t pc) where
  table := rfl
  contexts := .inr ⟨i, c, r.ctx, hc, hr, rfl⟩
  resizing := by
    intro t' fd event cb hpc'
    simp only [IOManager.setPc, IOManager.commit, Function.update_apply] at hpc'
    split at hpc'
    · exact absurd hpc' (hpc fd event cb)
    · exact .inl hpc'

theorem leave_keeps {i : Nat} {c : FdContext} {pc : Pc} {o : Except EventFault (Option Section)}
    (hc : m.contexts[i]? = some c) (hpc : ∀ fd event cb, pc ≠ .addEventResize fd event cb)
    (ho : ∀ r, o = .ok (some r) → r.ctx.fd = c.fd) (hs : m.leave t pc i o = .next m') : Keeps m m' := by
  cases o with
  | error f => cases hs
  | ok o =>
      cases o with
      | none =>
          cases hs
          exact .setPc fun fd event cb h => absurd h (hpc fd event cb)
      | some r =>
          cases hs
          exact .commit hc (ho r rfl) hpc

theorem lookup_keeps {fd : Nat} {pc : Nat → Pc} (hpc : ∀ i fd event cb, pc i ≠ .addEventResize fd event cb)
    (hs : m.lookup t fd pc = .next m') : Keeps m m' := by
  rw [lookup] at hs
  split at hs
  · cases hs
    exact ⟨rfl, .inl rfl, fun _ _ _ _ h => .inl h⟩
  · next i _ =>
      cases hs
      exact .setPc fun fd event cb h => absurd h (hpc i fd event cb)

theorem step_keeps (ha : ∀ t, a ≠ .contextResize t) (hs : step m a = .next m') : Keeps m m' := by
  cases a with
  | contextResize t => exact absurd rfl (ha t)
  | addEvent t fd event cb =>
      cases hpc : m.pc t <;> simp only [step, hpc, reduceCtorEq] at hs
      split at hs
      · cases hs
        exact .setPc fun _ _ _ h => by cases h
      · next hnone =>
          cases hs
          refine .setPc fun _ _ _ h => ?_
          cases h
          exact List.getElem?_eq_none_iff.mp hnone
  | addEventLocked t who rt =>
      cases hpc : m.pc t <;> simp only [step, hpc, reduceCtorEq] at hs
      split at hs
      · cases hs
      · next c hc =>
          split at hs
          · cases hs
          · cases hs
            exact .setPc fun _ _ _ h => by cases h
          · next r hr =>
              cases hs
              have hk := @Keeps.commit m t _ c r .out hc (FdContext.addEvent_fd hr) (fun _ _ _ h => by cases h)
              exact ⟨hk.table, hk.contexts, hk.resizing⟩
  | delEvent t fd event | cancelEvent t fd event | cancelAll t fd =>
      cases hpc : m.pc t <;> simp only [step, hpc, reduceCtorEq] at hs
      exact lookup_keeps (fun _ _ _ _ h => by cases h) hs
  | delEventLocked t rt =>
      cases hpc : m.pc t <;> simp only [step, hpc, reduceCtorEq] at hs
      split at hs
      · cases hs
      · next c hc =>
          refine leave_keeps hc (fun _ _ _ h => by cases h) (fun r hr => ?_) hs
          simp only [Except.ok.injEq] at hr
          exact FdContext.delEvent_fd hr
  | cancelEventLocked t rt =>
      cases hpc : m.pc t <;> simp only [step, hpc, reduceCtorEq] at hs
      split at hs
      · cases hs
      · next c hc =>
          exact leave_keeps hc (fun _ _ _ h => by cases h) (fun r hr => FdContext.cancelEvent_fd hr) hs
  | cancelAllLocked t rt =>
      cases hpc : m.pc t <;> simp only [step, hpc, reduceCtorEq] at hs
      split at hs
      · cases hs
      · next c hc =>
          exact leave_keeps hc (fun _ _ _ h => by cases h) (fun r hr => FdContext.cancelAll_fd hr) hs
  | epoll_wait t events =>
      cases hpc : m.pc t <;> simp only [step, hpc, reduceCtorEq] at hs
      split at hs
      · cases hs
        exact .setPc fun _ _ _ h => by cases h
      · cases hs
  | dispatch t rt2 =>
      cases hpc : m.pc t with
      | idle events =>
          cases events with
          | nil =>
              simp only [step, hpc] at hs
              cases hs
              exact .setPc fun _ _ _ h => by cases h
          | cons q events =>
              simp only [step, hpc] at hs
              split at hs
              · cases hs
              · next c hc =>
                  refine leave_keeps hc (fun _ _ _ h => by cases h) (fun r hr => ?_) hs
                  cases hd : c.dispatch q.2 rt2 with
                  | error f =>
                      rw [hd] at hr
                      cases hr
                  | ok r' =>
                      rw [hd] at hr
                      cases hr
                      exact FdContext.dispatch_fd hd
      | _ => simp only [step, hpc, reduceCtorEq] at hs

theorem leave_inRange {i : Nat} {pc : Pc} {o : Except EventFault (Option Section)} (ho : o ≠ .error .outOfRange) :
    m.leave t pc i o ≠ .abort .outOfRange := by
  cases o with
  | error f =>
      intro h
      cases h
      exact ho rfl
  | ok o => cases o <;> exact fun h => nomatch h

theorem lookup_inRange {fd : Nat} {pc : Nat → Pc} : m.lookup t fd pc ≠ .abort .outOfRange := by
  rw [lookup]
  split <;> exact fun h => nomatch h

theorem step_inRange (ha : ∀ t, a ≠ .contextResize t) : step m a ≠ .abort .outOfRange := by
  cases a with
  | contextResize t => exact absurd rfl (ha t)
  | addEvent t fd event cb =>
      cases hpc : m.pc t <;> simp only [step, hpc, ne_eq, reduceCtorEq, not_false_eq_true]
      split <;> exact fun h => nomatch h
  | addEventLocked t who rt =>
      cases hpc : m.pc t <;> simp only [step, hpc, ne_eq, reduceCtorEq, not_false_eq_true]
      split
      · exact fun h => nomatch h
      · split
        · next f hf =>
            intro h
            cases h
            exact FdContext.addEvent_ne_outOfRange hf
        · exact fun h => nomatch h
        · exact fun h => nomatch h
  | delEvent t fd event | cancelEvent t fd event | cancelAll t fd =>
      cases hpc : m.pc t <;> simp only [step, hpc, ne_eq, reduceCtorEq, not_false_eq_true]
      exact lookup_inRange
  | delEventLocked t rt =>
      cases hpc : m.pc t <;> simp only [step, hpc, ne_eq, reduceCtorEq, not_false_eq_true]
      split
      · exact fun h => nomatch h
      · exact leave_inRange (by simp)
  | cancelEventLocked t rt =>
      cases hpc : m.pc t <;> simp only [step, hpc, ne_eq, reduceCtorEq, not_false_eq_true]
      split
      · exact fun h => nomatch h
      · exact leave_inRange FdContext.cancelEvent_ne_outOfRange
  | cancelAllLocked t rt =>
      cases hpc : m.pc t <;> simp only [step, hpc, ne_eq, reduceCtorEq, not_false_eq_true]
      split
      · exact fun h => nomatch h
      · exact leave_inRange FdContext.cancelAll_ne_outOfRange
  | epoll_wait t events =>
      cases hpc : m.pc t <;> simp only [step, hpc, ne_eq, reduceCtorEq, not_false_eq_true]
      split <;> exact fun h => nomatch h
  | dispatch t rt2 =>
      cases hpc : m.pc t with
      | idle events =>
          cases events with
          | nil =>
              simp only [step, hpc]
              exact fun h => nomatch h
          | cons q events =>
              simp only [step, hpc]
              split
              · exact fun h => nomatch h
              · next c _ =>
                  refine leave_inRange fun h => ?_
                  cases hd : c.dispatch q.2 rt2 with
                  | error f =>
                      rw [hd] at h
                      cases h
                      exact FdContext.dispatch_ne_outOfRange hd
                  | ok r =>
                      rw [hd] at h
                      cases h
      | _ => simp only [step, hpc, ne_eq, reduceCtorEq, not_false_eq_true]

/-! ## The contexts -/

/-- Every context stands in the table under its descriptor, and a thread resizes only for a descriptor past the first
contexts. -/
structure Located (m : IOManager) : Prop where
  length : 32 ≤ m.m_FdContexts.length
  found : ∀ (i : Nat) (c : FdContext), m.contexts[i]? = some c → m.m_FdContexts[c.fd]? = some i
  resizing : ∀ t fd event cb, m.pc t = .addEventResize fd event cb → 32 ≤ fd

theorem Located.keeps (h : Located m) (hk : Keeps m m') : Located m' := by
  refine ⟨hk.table ▸ h.length, ?_, ?_⟩
  · intro i c hc
    rw [hk.table]
    rcases hk.contexts with heq | ⟨j, d, d', hd, hfd, heq⟩
    · exact h.found i c (heq ▸ hc)
    · rw [heq] at hc
      by_cases hij : j = i
      · subst hij
        rw [List.getElem?_set_self (List.getElem?_eq_some_iff.mp hd).1] at hc
        cases hc
        rw [hfd]
        exact h.found j d hd
      · rw [List.getElem?_set_ne hij] at hc
        exact h.found i c hc
  · intro t fd event cb hpc
    rcases hk.resizing t fd event cb hpc with hpc | hle
    · exact h.resizing t fd event cb hpc
    · exact Nat.le_trans h.length hle

/-- A table that grows keeps its entries. -/
theorem contextResize_table {size : Nat} (hle : m.m_FdContexts.length ≤ size) :
    (m.contextResize size).m_FdContexts =
      m.m_FdContexts ++ List.range' m.contexts.length (size - m.m_FdContexts.length) := by
  simp only [contextResize, List.take_of_length_le hle]

theorem contextResize_found {size : Nat} (hle : m.m_FdContexts.length ≤ size)
    (hfound : ∀ (i : Nat) (c : FdContext), m.contexts[i]? = some c → m.m_FdContexts[c.fd]? = some i) {i : Nat}
    {c : FdContext}
    (hc : (m.contextResize size).contexts[i]? = some c) : (m.contextResize size).m_FdContexts[c.fd]? = some i := by
  rw [contextResize_table hle]
  simp only [contextResize, List.take_of_length_le hle] at hc
  by_cases hi : i < m.contexts.length
  · rw [List.getElem?_append_left hi] at hc
    have hold := hfound i c hc
    rw [List.getElem?_append_left (List.getElem?_eq_some_iff.mp hold).1, hold]
  · rw [List.getElem?_append_right (by omega), List.getElem?_map] at hc
    obtain ⟨fd, hfd, rfl⟩ := Option.map_eq_some_iff.mp hc
    obtain ⟨hlt, rfl⟩ := List.getElem?_eq_some_iff.mp hfd
    rw [List.length_range'] at hlt
    have hi' : m.contexts.length + (i - m.contexts.length) = i := by omega
    rw [List.getElem_range', Nat.one_mul, List.getElem?_append_right (Nat.le_add_right _ _), Nat.add_sub_cancel_left,
      List.getElem?_range' hlt, Nat.one_mul, hi']

theorem init_located : Located init where
  length := by simp [init, contextResize]
  found := fun _ _ hc => contextResize_found (Nat.zero_le 32) (by simp) hc
  resizing := by simp [init, contextResize]

end IOManager

end Mingfwq
