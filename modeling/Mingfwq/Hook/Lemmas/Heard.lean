import Mingfwq.Hook.Lemmas.Waiting

/-!
# What a callback in time achieves

A callback that calls cancelEvent after the fiber's addEvent takes the registration away, so the fiber is not
left waiting for it.
-/

namespace Mingfwq.Hook

open Lib FdContext

variable {call : Call} {fd iom fiber : Nat} {s s' : Hook}

/-- The fiber waits for its event although its timeout has fired and no callback is left to wake it. -/
structure Lost (call : Call) (s : Hook) : Prop where
  parked : s.pc = .parked
  registered : s.fd_ctx.events.has call.event = true
  cancelled : s.cancelled = true
  finished : .cancelEvent ∉ s.timers

/-- The fiber has not tested `cancelled` since it last could be set, or returned: it is not on its way to
addEvent. -/
def Pc.waits : Pc → Bool
  | .io | .addTimer | .addEvent => false
  | _ => true

/-- A callback that calls cancelEvent does not come too early: the fiber is past its addEvent, and epoll_ctl
does not fail on its registration. -/
def InTime (call : Call) (s : Hook) : Action → Prop
  | .cancelEvent _ rt => s.pc.waits = true ∧ (s.fd_ctx.events.has call.event = true → rt = true)
  | _ => True

/-- Once `cancelled` is set and its callback is over, the fiber is past its addEvent and not registered. -/
def Heard (call : Call) (s : Hook) : Prop :=
  s.cancelled = true → .cancelEvent ∉ s.timers → s.pc.waits = true ∧ s.fd_ctx.events.has call.event = false

theorem Heard.not_lost (h : Heard call s) : ¬Lost call s := by
  intro hl
  have hno := (h hl.cancelled hl.finished).2
  rw [hl.registered] at hno
  cases hno

theorem Heard.move (h : Heard call s) (hc : s'.cancelled = s.cancelled)
    (hmem : .cancelEvent ∈ s.timers → .cancelEvent ∈ s'.timers)
    (hreg : s'.fd_ctx.events.has call.event = true → s.fd_ctx.events.has call.event = true)
    (hw : s.pc.waits = true → s'.pc.waits = true) : Heard call s' := by
  intro hcan hover
  obtain ⟨hwaits, hno⟩ := h (hc ▸ hcan) fun hm => hover (hmem hm)
  refine ⟨hw hwaits, ?_⟩
  by_contra hyes
  rw [hreg (by simpa using hyes)] at hno
  cases hno

theorem mem_setTimer {i : Nat} {t t' : TimerPc} (hi : s.timers[i]? = some t) (ht : t ≠ .cancelEvent)
    (hm : .cancelEvent ∈ s.timers) : .cancelEvent ∈ (s.setTimer i t').timers := by
  have hset := count_set hi t' .cancelEvent
  have hpos := List.count_pos_iff.mpr hm
  rw [beq_eq_false_iff_ne.mpr ht, Bool.toNat_false] at hset
  exact List.count_pos_iff.mp (by simp only [setTimer]; omega)

theorem Heard.setTimer (h : Heard call s) {i : Nat} {t t' : TimerPc} (hi : s.timers[i]? = some t)
    (ht : t ≠ .cancelEvent) : Heard call (s.setTimer i t') :=
  h.move rfl (mem_setTimer hi ht) id id

theorem Heard.cancelTimer (h : Heard call s) : Heard call s.cancelTimer := by
  simp only [Hook.cancelTimer]
  split
  · next hi => exact h.setTimer hi (by rintro ⟨⟩)
  · exact h

/-- After the cancelEvent of a callback in time the event is not registered. -/
theorem cancelEvent_unregisters {c : FdContext} {e : Event} {rt : Bool} {o : Option Section} (h : c.Ok)
    (hrt : c.events.has e = true → rt = true) (ho : c.cancelEvent e rt = .ok o) :
    ((o.map Section.ctx).getD c).events.has e = false := by
  unfold FdContext.cancelEvent at ho
  cases he : c.events.has e with
  | false =>
      simp only [he, Bool.not_false, Bool.true_or, ↓reduceIte, Except.ok.injEq] at ho
      rw [← ho]
      exact he
  | true =>
      simp only [he, hrt he, Bool.not_true, Bool.or_self, Bool.false_eq_true, ↓reduceIte] at ho
      cases hr : c.triggerEvent e with
      | error f => simp [hr, Except.map] at ho
      | ok r =>
          simp only [hr, Except.map, Except.ok.injEq] at ho
          rw [← ho, Option.map_some, Option.getD_some, (triggerEvent_releases h hr).2.2, Events.has_andNot]
          simp

theorem Heard.step (h : Heard call s) (hok : s.Ok) {a : Action} (ha : InTime call s a)
    (hs : (system call fd iom fiber).step s a = .next s') : Heard call s' := by
  simp only [system] at hs
  cases a with
  | io again =>
      simp only [Hook.step] at hs
      split at hs <;> cases hs
      next hpc => exact h.move rfl id id (by simp [hpc, Pc.waits])
  | addTimer =>
      simp only [Hook.step] at hs
      split at hs <;> cases hs
      next hpc => exact h.move rfl (List.mem_append_left _) id (by simp [hpc, Pc.waits])
  | addEvent rt =>
      simp only [Hook.step] at hs
      split at hs
      · next hpc =>
        -- cancelled may be set here only with its callback still to call cancelEvent
        have hfly : s.cancelled = true → .cancelEvent ∈ s.timers := by
          intro hc
          by_contra hover
          simpa [hpc, Pc.waits] using (h hc hover).1
        split at hs <;> cases hs
        · exact fun hc hover => absurd (hfly hc) hover
        · exact fun hc hover => absurd (hfly hc) hover
      · cases hs
  | YieldToHold =>
      simp only [Hook.step] at hs
      split at hs <;> cases hs
      exact h.move rfl id id fun _ => rfl
  | swapIn =>
      simp only [Hook.step] at hs
      split at hs <;> cases hs
      exact h.move rfl id id fun _ => rfl
  | timerCancel =>
      simp only [Hook.step] at hs
      split at hs
      · cases hs
        exact h.cancelTimer.move rfl id id fun _ => rfl
      · split at hs <;> cases hs
        exact h.cancelTimer.move rfl id id fun _ => rfl
  | test =>
      simp only [Hook.step] at hs
      split at hs <;> cases hs
      intro hc hover
      obtain ⟨-, hno⟩ := h hc hover
      have hcan : s.cancelled = true := hc
      refine ⟨?_, hno⟩
      simp [hcan, Pc.waits]
  | listExpiredCb i =>
      simp only [Hook.step] at hs
      split at hs <;> cases hs
      next hi => exact h.setTimer hi (by rintro ⟨⟩)
  | callback i =>
      simp only [Hook.step] at hs
      split at hs
      · next hi =>
        split at hs <;> cases hs
        · exact h.setTimer hi (by rintro ⟨⟩)
        · intro _ hover
          obtain ⟨hlt, -⟩ := List.getElem?_eq_some_iff.mp hi
          exact absurd (List.mem_set hlt _) hover
      · cases hs
  | cancelEvent i rt =>
      obtain ⟨hwaits, hrt⟩ := ha
      simp only [Hook.step] at hs
      split at hs
      · cases ho : s.fd_ctx.cancelEvent call.event rt with
        | error f => simp [ho] at hs
        | ok o =>
            have hno := cancelEvent_unregisters hok.ctx hrt ho
            simp only [ho] at hs
            cases o with
            | none =>
                cases hs
                exact fun _ _ => ⟨hwaits, hno⟩
            | some r =>
                cases hs
                exact fun _ _ => ⟨hwaits, hno⟩
      · cases hs
  | dispatch event rt2 =>
      simp only [Hook.step] at hs
      rcases dispatch_cases hok.ctx event rt2 with ⟨-, hr⟩ | ⟨-, r, hr, hrel⟩
      · simp [hr] at hs
      · simp only [hr] at hs
        cases hs
        exact h.move rfl id (hrel.events call.event) id

theorem reach_heard (h : (system call fd iom fiber).Reach (InTime call) s) : Heard call s := by
  have hinv : s.Ok ∧ Heard call s := by
    induction h with
    | init => exact ⟨init_ok fd, fun hc => by cases hc⟩
    | step _ ha hs ih => exact ⟨ih.1.step hs, ih.2.step ih.1 ha hs⟩
  exact hinv.2

end Mingfwq.Hook
