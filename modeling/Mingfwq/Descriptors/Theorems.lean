import Mingfwq.Descriptors.Model
import Mingfwq.FdManager.Lemmas.Slots

/-!
# Descriptors that are used again

With the hooks enabled, close leaves both tables alone.
-/

namespace Mingfwq.Hook.Process

open Lib

variable {p p' : Process} {a : Action} {fd : Nat}

/-- A context as the constructor leaves it. -/
def Initial (ctx : FdCtx) : Prop :=
  ctx.m_recvTimeout = -1 ∧ ctx.m_sendTimeout = -1 ∧ ctx.m_userNonblock = false

/-- After close no context and no registered event of the descriptor is left. -/
def Cleared (p : Process) (fd : Nat) (iom : Bool) : Prop :=
  p.manager.lookup fd false = .ok (.found none) ∧ (iom = true → (p.contexts fd).events = .NONE)

/-- After close everything of the descriptor is gone, and after socket and accept its context is a new one. -/
def Renewed (p : Process) (a : Action) : Prop :=
  ∀ p', step true p a = .next p' →
    match a with
    | .close fd iom _ => Cleared p' fd iom
    | .socket (some fd) | .accept _ (some fd) => ∃ ctx, p'.getCtx fd = some ctx ∧ Initial ctx
    | _ => True

/-- A descriptor that is closed has neither a context nor a registered event. -/
def Unused (p : Process) : Action → Prop
  | .close fd iom _ => Cleared p fd iom
  | _ => True

/-- Only open descriptors have a context. -/
structure Held (p : Process) : Prop where
  length : 2 ≤ p.manager.m_datas.length
  created : ∀ (fd ctx : Nat), p.manager.slot fd = some ctx → ctx < p.manager.ctxs.length
  opened : ∀ (fd ctx : Nat), p.manager.slot fd = some ctx → (p.opened fd).isSome

theorem init_held : Held init where
  length := by decide
  created := by
    intro fd ctx h
    rw [init, FdManager.slot_new] at h
    cases h
  opened := by
    intro fd ctx h
    rw [init, FdManager.slot_new] at h
    cases h

theorem Held.modifyCtx (h : Held p) (f : FdCtx → FdCtx) : Held (p.modifyCtx fd f) := by
  rw [Process.modifyCtx]
  split
  · exact h
  · refine ⟨h.length, fun fd' ctx' hc => ?_, h.opened⟩
    rw [List.length_modify]
    exact h.created fd' ctx' hc

theorem Held.opens (h : Held p) {isSocket : Bool} (ho : p.opens isSocket fd = some p') :
    Held p' ∧ p'.manager = p.manager ∧ p.manager.slot fd = none := by
  rw [Process.opens] at ho
  split at ho
  · cases ho
  · next hclosed =>
      cases ho
      refine ⟨⟨h.length, h.created, fun fd' ctx hc => ?_⟩, rfl, ?_⟩
      · simp only [Function.update_apply]
        split
        · rfl
        · exact h.opened fd' ctx hc
      · by_contra hne
        obtain ⟨ctx, hc⟩ := Option.ne_none_iff_exists'.mp hne
        exact hclosed (h.opened fd ctx hc)

theorem Held.returns (h : Held p) {result : Option Nat} (hs : p.returns true result = .next p') :
    Held p' ∧ ∀ fd, result = some fd → ∃ ctx, p'.getCtx fd = some ctx ∧ Initial ctx := by
  cases result with
  | none =>
      cases hs
      exact ⟨h, by simp⟩
  | some fd =>
      rw [Process.returns] at hs
      split at hs
      · cases hs
      · next p₁ ho =>
          have hopen : (p₁.opened fd).isSome := by
            rw [Process.opens] at ho
            split at ho
            · cases ho
            · cases ho
              simp
          obtain ⟨h₁, hm, hslot⟩ := h.opens ho
          rw [← hm] at hslot
          have hfd : (0 : Int) ≤ fd := Int.natCast_nonneg fd
          rw [if_pos rfl, getCreate, FdManager.get_eq hfd, hslot, Option.isSome_none, if_neg Bool.false_ne_true] at hs
          cases hs
          refine ⟨⟨?_, ?_, ?_⟩, ?_⟩
          · exact Nat.le_trans h₁.length FdManager.length_create
          · intro fd' ctx hc
            rw [FdManager.slot_create h₁.length hfd] at hc
            simp only [FdManager.create, List.length_append, List.length_singleton]
            split at hc
            · cases hc
              exact Nat.lt_succ_self _
            · exact Nat.lt_succ_of_lt (h₁.created fd' ctx hc)
          · intro fd' ctx hc
            rw [FdManager.slot_create h₁.length hfd] at hc
            split at hc
            · next heq => rw [show fd' = fd by omega, hopen]
            · exact h₁.opened fd' ctx hc
          · intro fd' hfd'
            cases hfd'
            refine ⟨.new fd (p₁.opened fd), ?_, rfl, rfl, rfl⟩
            rw [getCtx, FdManager.slot_create h₁.length hfd, if_pos rfl]
            simp [FdManager.create]

theorem Held.commit (h : Held p) {o : Except EventFault (Option Section)} (hs : p.commit fd o = .next p') :
    Held p' := by
  cases o with
  | error e => cases hs
  | ok o => cases o <;> (cases hs; exact ⟨h.length, h.created, h.opened⟩)

theorem cleared_iff {iom : Bool} :
    Cleared p fd iom ↔ p.manager.slot fd = none ∧ (iom = true → (p.contexts fd).events = .NONE) := by
  simp only [Cleared, FdManager.lookup_eq (Int.natCast_nonneg fd), Except.ok.injEq, FdManager.Lookup.found.injEq]

theorem Held.step (h : Held p) (ha : Unused p a) (hs : step true p a = .next p') : Held p' := by
  cases a with
  | socket result | accept s result => exact (h.returns hs).1
  | «open» fd isSocket =>
      rw [Process.step] at hs
      split at hs
      · cases hs
      · next p₁ ho =>
          cases hs
          exact (h.opens ho).1
  | setsockopt fd optname v =>
      cases optname with
      | none =>
          cases hs
          exact h
      | some type =>
          cases hs
          exact h.modifyCtx _
  | fcntl fd cmd =>
      cases cmd with
      | F_SETFL arg =>
          simp only [Process.step, fcntl] at hs
          split at hs
          · cases hs
            exact h
          · split at hs
            · cases hs
              exact h
            · cases hs
              exact h.modifyCtx _
      | F_DUPFD result =>
          cases result with
          | none =>
              cases hs
              exact h
          | some result =>
              simp only [Process.step, fcntl] at hs
              split at hs
              · cases hs
              · next p₁ ho =>
                  cases hs
                  exact (h.opens ho).1
      | other =>
          cases hs
          exact h
  | addEvent fd event cb who waiter rt =>
      rw [Process.step] at hs
      split at hs
      · cases hs
      · exact h.commit hs
  | dispatch fd event rt2 => exact h.commit hs
  | close fd iom rt =>
      cases hs
      obtain ⟨hslot, -⟩ := cleared_iff.mp ha
      refine ⟨h.length, h.created, fun fd' ctx hc => ?_⟩
      simp only [close_f, Function.update_apply]
      rw [if_neg]
      · exact h.opened fd' ctx hc
      · rintro rfl
        rw [show p.manager.slot fd' = some ctx from hc] at hslot
        cases hslot

/-- close clears the tables exactly when there is nothing in them to be cleared. -/
theorem step_renewed_iff (h : Held p) (a : Action) : Renewed p a ↔ Unused p a := by
  cases a with
  | close fd iom rt =>
      constructor
      · intro hr
        exact hr (p.close_f fd) rfl
      · intro hu p' hs
        cases hs
        exact hu
  | socket result | accept s result =>
      refine iff_of_true (fun p' hs => ?_) trivial
      cases result with
      | none => trivial
      | some fd =>
          have hret : p.returns true (some fd) = .next p' := hs
          exact (h.returns hret).2 fd rfl
  | _ => exact iff_of_true (fun _ _ => trivial) trivial

/-! ## Waiters -/

/-- A thread without an IOManager has none whose events close could cancel. -/
def Action.Current (a : Action) : Prop := ∀ fd rt, a ≠ .close fd false rt

/-- No event is registered for a descriptor that socket or accept has returned. -/
def Unwatched (p : Process) (a : Action) : Prop :=
  ∀ p', step true p a = .next p' →
    match a with
    | .socket (some fd) | .accept _ (some fd) => (p'.contexts fd).events = .NONE
    | _ => True

/-- Only open descriptors have registered events. -/
def Silent (p : Process) : Prop := ∀ fd, p.opened fd = none → (p.contexts fd).events = .NONE

theorem Silent.of_opened (h : Silent p) (hcontexts : p'.contexts = p.contexts)
    (hopened : ∀ fd, p'.opened fd = none → p.opened fd = none) : Silent p' := by
  intro fd hfd
  rw [hcontexts]
  exact h fd (hopened fd hfd)

theorem opens_spec {isSocket : Bool} (ho : p.opens isSocket fd = some p') :
    p'.contexts = p.contexts ∧ p.opened fd = none ∧ ∀ fd', p'.opened fd' = none → p.opened fd' = none := by
  rw [opens] at ho
  split at ho
  · cases ho
  · next hclosed =>
      cases ho
      refine ⟨rfl, Option.not_isSome_iff_eq_none.mp hclosed, fun fd' hfd' => ?_⟩
      simp only [Function.update_apply] at hfd'
      split at hfd'
      · cases hfd'
      · exact hfd'

theorem contexts_modifyCtx {f : FdCtx → FdCtx} : (p.modifyCtx fd f).contexts = p.contexts := by
  rw [modifyCtx]
  split <;> rfl

theorem opened_modifyCtx {f : FdCtx → FdCtx} : (p.modifyCtx fd f).opened = p.opened := by
  rw [modifyCtx]
  split <;> rfl

theorem Silent.modifyCtx (h : Silent p) (f : FdCtx → FdCtx) : Silent (p.modifyCtx fd f) :=
  h.of_opened contexts_modifyCtx fun fd' hfd' => by rwa [opened_modifyCtx] at hfd'

/-- What is not open before is not watched after. -/
theorem Silent.returns (h : Silent p) {auto_create : Bool} {result : Option Nat}
    (hs : p.returns auto_create result = .next p') :
    Silent p' ∧ ∀ fd, result = some fd → (p'.contexts fd).events = .NONE := by
  cases result with
  | none =>
      cases hs
      exact ⟨h, by simp⟩
  | some fd =>
      rw [Process.returns] at hs
      split at hs
      · cases hs
      · next p₁ ho =>
          obtain ⟨hcontexts, hclosed, hopened⟩ := opens_spec ho
          have hsame : p'.contexts = p₁.contexts ∧ p'.opened = p₁.opened := by
            split at hs
            · rw [getCreate] at hs
              split at hs <;> cases hs
              exact ⟨rfl, rfl⟩
            · cases hs
              exact ⟨rfl, rfl⟩
          have hall := hsame.1.trans hcontexts
          refine ⟨h.of_opened hall fun fd' hfd' => hopened fd' (hsame.2 ▸ hfd'), ?_⟩
          rintro _ ⟨⟩
          rw [hall]
          exact h fd hclosed

theorem Silent.commit (h : Silent p) {o : Except EventFault (Option Section)} (hs : p.commit fd o = .next p')
    (hnone : p.opened fd = none → ∀ r, o = .ok (some r) → r.ctx.events = .NONE) : Silent p' := by
  cases o with
  | error e => cases hs
  | ok o =>
      cases o with
      | none =>
          cases hs
          exact h
      | some r =>
          cases hs
          intro fd' hfd'
          simp only [Function.update_apply]
          split
          · next heq =>
              subst heq
              exact hnone hfd' r rfl
          · exact h fd' hfd'

theorem Silent.step (h : Silent p) (ha : Unused p a) (hcurrent : a.Current) (hs : step true p a = .next p') :
    Silent p' := by
  cases a with
  | socket result | accept s result => exact (h.returns hs).1
  | «open» fd isSocket =>
      rw [Process.step] at hs
      split at hs
      · cases hs
      · next p₁ ho =>
          cases hs
          exact h.of_opened (opens_spec ho).1 (opens_spec ho).2.2
  | setsockopt fd optname v =>
      cases optname with
      | none =>
          cases hs
          exact h
      | some type =>
          cases hs
          exact h.modifyCtx _
  | fcntl fd cmd =>
      cases cmd with
      | F_SETFL arg =>
          simp only [Process.step, fcntl] at hs
          split at hs
          · cases hs
            exact h
          · split at hs
            · cases hs
              exact h
            · cases hs
              exact h.modifyCtx _
      | F_DUPFD result =>
          cases result with
          | none =>
              cases hs
              exact h
          | some result =>
              simp only [Process.step, fcntl] at hs
              split at hs
              · cases hs
              · next p₁ ho =>
                  cases hs
                  exact h.of_opened (opens_spec ho).1 (opens_spec ho).2.2
      | other =>
          cases hs
          exact h
  | addEvent fd event cb who waiter rt =>
      rw [Process.step] at hs
      split at hs
      · cases hs
      · next hopen =>
          refine h.commit hs fun hclosed r hadd => ?_
          -- epoll_ctl fails, and nothing is registered
          obtain rfl : rt = false := by simpa [hclosed] using hopen
          rw [FdContext.addEvent] at hadd
          split at hadd <;> cases hadd
  | dispatch fd event rt2 =>
      refine h.commit hs fun hclosed r hdispatch => ?_
      have hidle : (p.contexts fd).events.and (FdContext.realEvents event) = .NONE := by rw [h fd hclosed]; rfl
      rw [FdContext.dispatch, if_pos (by simp [hidle])] at hdispatch
      cases hdispatch
      exact h fd hclosed
  | close fd iom rt =>
      cases hs
      have hiom : iom = true := by
        by_contra hfalse
        exact hcurrent fd rt (by rw [Bool.eq_false_iff.mpr hfalse])
      have hnone := (cleared_iff.mp ha).2 hiom
      intro fd' hfd'
      by_cases heq : fd' = fd
      · subst heq
        exact hnone
      · simp only [close_f, Function.update_of_ne heq] at hfd'
        exact h fd' hfd'

/-- A socket gets a receive timeout and is closed. -/
def closed : List Action :=
  [.socket (some 5), .setsockopt 5 (some .SO_RCVTIMEO) 1000, .close 5 true true]

/-- The next socket gets its number, and with it the timeout. -/
theorem closed_inherited : ¬ ∀ p, (system true).Reachable p → ∀ a, Renewed p a := by
  intro h
  have hctx : ((system true).exec (system true).init closed).view
      (fun p => (step true p (.socket (some 5))).view fun p' => p'.getCtx 5) =
      some (some (some { FdCtx.new 5 (some true) with m_recvTimeout := 1000 })) := by decide
  obtain ⟨p, hreach, hctx⟩ := System.reachable_of_view hctx
  obtain ⟨p', hs, hctx⟩ := Outcome.view_eq_some hctx
  obtain ⟨ctx, hget, hrecv, -⟩ := h p hreach (.socket (some 5)) p' hs
  rw [hctx] at hget
  cases hget
  exact absurd hrecv (by decide)

theorem Silent.unwatched (h : Silent p) : Unwatched p a := by
  intro p' hs
  cases a with
  | socket result | accept s result =>
      cases result with
      | none => trivial
      | some fd =>
          have hret : p.returns true (some fd) = .next p' := hs
          exact (h.returns hret).2 fd rfl
  | _ => trivial

/-- In a run of calls with the hooks enabled, every close clears the tables of its descriptor and every new descriptor
gets a new context, exactly when the run closes only descriptors that have neither a context nor, in the current
IOManager, a registered event. If also each close has a current IOManager, a new descriptor has no registered event. -/
theorem run_renewed_iff (as : List Action) :
    ((∀ q ∈ (system true).trace (system true).init as, Renewed q.1 q.2) ↔
      ∀ q ∈ (system true).trace (system true).init as, Unused q.1 q.2) ∧
    ((∀ q ∈ (system true).trace (system true).init as, Unused q.1 q.2 ∧ q.2.Current) →
      ∀ q ∈ (system true).trace (system true).init as, Unwatched q.1 q.2) := by
  have hgood : ∀ p a, Held p → (Renewed p a ↔ Unused p a) := fun _ a hp => step_renewed_iff hp a
  have hstep : ∀ p a p', Held p → Unused p a → (system true).step p a = .next p' → Held p' :=
    fun _ _ _ hp ha hs => hp.step ha hs
  refine ⟨System.trace_iff (fun s a hs _ => hgood s a hs) hstep init_held as, fun hok q hq => ?_⟩
  have hreach : (system true).Reach (fun p a => Unused p a ∧ a.Current) q.1 := System.Reach.of_mem_trace .init hok q hq
  have hinit : Silent (system true).init := fun _ _ => rfl
  have hsilent : Silent q.1 := hreach.invariant hinit fun _ _ _ hp ha hs => hp.step ha.1 ha.2 hs
  exact hsilent.unwatched

end Mingfwq.Hook.Process
