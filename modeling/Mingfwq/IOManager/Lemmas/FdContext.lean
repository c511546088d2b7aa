import Mingfwq.IOManager.FdContext

/-!
# What one section does to its context

A context is consistent when each bit of `events` says whether the event context of that bit is armed. Every
section keeps that, moves the counter by the number of bits it sets or clears, and accounts for every waiter
it takes out of the context.
-/

namespace Mingfwq

/-- The event context of a registered event: a scheduler, and exactly one of fiber and callback. -/
structure EventContext.Armed (x : EventContext) : Prop where
  scheduler : x.scheduler.isSome
  task : x.fiber.isSome ≠ x.cb.isSome
  waiter : x.waiter.isSome

namespace FdContext

/-- Each event context is armed iff its bit is set, and empty otherwise. -/
def Ok (c : FdContext) : Prop :=
  ∀ e, if c.events.has e then (c.getContext e).Armed else c.getContext e = {}

/-- The registrations waiting in the context. -/
def waiters (c : FdContext) : List Nat := c.read.waiter.toList ++ c.write.waiter.toList

theorem Ok.armed {c : FdContext} {e : Event} (h : c.Ok) (he : c.events.has e = true) :
    (c.getContext e).Armed := by
  simpa [he] using h e

theorem Ok.empty {c : FdContext} {e : Event} (h : c.Ok) (he : c.events.has e = false) :
    c.getContext e = {} := by
  simpa [he] using h e

theorem ok_fresh (fd : Nat) : ({ fd := fd } : FdContext).Ok := by
  intro e
  cases e <;> simp [Events.has, Events.NONE, getContext]

end FdContext

namespace Events

theorem eq_none_iff {s : Events} : s = NONE ↔ ∀ e, s.has e = false := by
  constructor
  · rintro rfl e
    cases e <;> rfl
  · intro h
    have hr := h .READ
    have hw := h .WRITE
    cases s
    simp_all [has, NONE]

theorem has_or {s : Events} {e e' : Event} : (s.or e).has e' = (s.has e' || e == e') := by
  cases e <;> cases e' <;> simp [has, or]

theorem has_andNot {s : Events} {e e' : Event} : (s.andNot e).has e' = (s.has e' && e != e') := by
  cases e <;> cases e' <;> simp [has, andNot]

theorem count_or {s : Events} {e : Event} (h : s.has e = false) : (s.or e).count = s.count + 1 := by
  cases e <;> simp_all [has, or, count]
  omega

theorem count_andNot {s : Events} {e : Event} (h : s.has e = true) :
    (s.andNot e).count = s.count - 1 := by
  cases e
  · simp_all only [has, andNot, count, Bool.toNat_true, Bool.toNat_false]
    omega
  · simp_all [has, andNot, count]

end Events

namespace FdContext

@[simp] theorem getContext_setContext_self (c : FdContext) (e : Event) (x : EventContext) :
    (c.setContext e x).getContext e = x := by
  cases e <;> rfl

theorem getContext_setContext_ne (c : FdContext) {e e' : Event} (h : e ≠ e') (x : EventContext) :
    (c.setContext e x).getContext e' = c.getContext e' := by
  cases e <;> cases e' <;> first | rfl | exact absurd rfl h

@[simp] theorem events_setContext (c : FdContext) (e : Event) (x : EventContext) :
    (c.setContext e x).events = c.events := by
  cases e <;> rfl

@[simp] theorem getContext_events (c : FdContext) (e : Event) (s : Events) :
    ({ c with events := s }).getContext e = c.getContext e := by
  cases e <;> rfl

/-- Clear the bit of `e` and empty its event context. -/
theorem Ok.disarm {c : FdContext} (h : c.Ok) (e : Event) :
    (({ c with events := c.events.andNot e }).setContext e {}).Ok := by
  intro e'
  by_cases he : e = e'
  · subst he
    simp [Events.has_andNot]
  · simpa [Events.has_andNot, he, getContext_setContext_ne] using h e'

/-- Set the bit of `e` and arm its event context. -/
theorem Ok.arm {c : FdContext} {x : EventContext} (h : c.Ok) (e : Event) (hx : x.Armed) :
    (({ c with events := c.events.or e }).setContext e x).Ok := by
  intro e'
  by_cases he : e = e'
  · subst he
    simpa [Events.has_or] using hx
  · simpa [Events.has_or, he, getContext_setContext_ne] using h e'

theorem count_waiters_setContext (c : FdContext) (e : Event) (x : EventContext) (s : Events) (w : Nat) :
    (({ c with events := s }).setContext e x).waiters.count w + (c.getContext e).waiter.toList.count w =
      x.waiter.toList.count w + c.waiters.count w := by
  cases e <;> simp only [waiters, setContext, getContext, List.count_append] <;> omega

/-- What a section that registers nothing guarantees. -/
structure Releases (c : FdContext) (r : Section) : Prop where
  ok : r.ctx.Ok
  pending : r.pending = r.ctx.events.count - c.events.count
  waiters : ∀ w, r.ctx.waiters.count w + r.scheduled.count w + r.dropped.count w = c.waiters.count w
  events : ∀ e, r.ctx.events.has e = true → c.events.has e = true

theorem Releases.refl {c : FdContext} (h : c.Ok) : c.Releases { ctx := c } where
  ok := h
  pending := by simp
  waiters := by simp
  events := fun _ => id

/-! ## triggerEvent -/

/-- On a consistent context triggerEvent fails exactly when the event is not registered. -/
theorem triggerEvent_eq {c : FdContext} {e : Event} (h : c.Ok) :
    c.triggerEvent e =
      if c.events.has e then
        .ok { ctx := ({ c with events := c.events.andNot e }).setContext e {}
              scheduled := (c.getContext e).waiter.toList
              pending := -1 }
      else .error .triggerEvent := by
  unfold triggerEvent
  cases he : c.events.has e with
  | false => simp
  | true =>
      obtain ⟨hs, ht, -⟩ := h.armed he
      obtain ⟨s, hs⟩ := Option.isSome_iff_exists.mp hs
      simp only [hs, ↓reduceIte]
      -- exactly one of the two tasks is there, so swapping it out empties the context
      cases hcb : (c.getContext e).cb <;> cases hf : (c.getContext e).fiber <;> simp_all

theorem triggerEvent_releases {c : FdContext} {e : Event} {r : Section} (h : c.Ok)
    (hr : c.triggerEvent e = .ok r) :
    c.Releases r ∧ c.events.has e = true ∧ r.ctx.events = c.events.andNot e := by
  rw [triggerEvent_eq h] at hr
  split at hr
  · rename_i he
    simp only [Except.ok.injEq] at hr
    subst hr
    refine ⟨⟨h.disarm e, ?_, ?_, fun e' he' => ?_⟩, he, by simp⟩
    · simp only [events_setContext, Events.count_andNot he]
      omega
    · intro w
      simpa using count_waiters_setContext c e {} (c.events.andNot e) w
    · rw [events_setContext, Events.has_andNot, Bool.and_eq_true] at he'
      exact he'.1
  · cases hr

theorem Releases.triggerEvent {c : FdContext} {e : Event} {r r' : Section} (h : c.Releases r)
    (hr : r.triggerEvent e = .ok r') :
    c.Releases r' ∧ r.ctx.events.has e = true ∧ r'.ctx.events = r.ctx.events.andNot e := by
  simp only [Section.triggerEvent, bind, Except.bind] at hr
  cases ht : r.ctx.triggerEvent e with
  | error _ => simp [ht] at hr
  | ok t =>
      simp only [ht, Except.ok.injEq] at hr
      subst hr
      obtain ⟨ht, he, hev⟩ := triggerEvent_releases h.ok ht
      refine ⟨⟨ht.ok, ?_, ?_, fun e' he' => h.events e' (ht.events e' he')⟩, he, hev⟩
      · simp only [h.pending, ht.pending]
        omega
      · intro w
        have h₁ := h.waiters w
        have h₂ := ht.waiters w
        simp only [List.count_append]
        omega

/-- A guarded triggerEvent succeeds when the event it asks for is registered, and fails otherwise. -/
theorem Releases.triggerIf {c : FdContext} {r : Section} (h : c.Releases r) (mask : Events) (e : Event) :
    (mask.has e = true ∧ r.ctx.events.has e = false ∧ r.triggerIf mask e = .error .triggerEvent) ∨
    ((mask.has e = true → r.ctx.events.has e = true) ∧ ∃ r', r.triggerIf mask e = .ok r' ∧ c.Releases r' ∧
      r'.ctx.events = if mask.has e then r.ctx.events.andNot e else r.ctx.events) := by
  unfold Section.triggerIf
  cases hm : mask.has e with
  | false => exact .inr ⟨by simp, r, by simp, h, by simp⟩
  | true =>
      cases he : r.ctx.events.has e with
      | false =>
          exact .inl ⟨rfl, rfl, by simp [Section.triggerEvent, bind, Except.bind, triggerEvent_eq h.ok, he]⟩
      | true =>
          obtain ⟨r', hr'⟩ : ∃ r', r.triggerEvent e = .ok r' := by
            simp [Section.triggerEvent, bind, Except.bind, triggerEvent_eq h.ok, he]
          obtain ⟨hrel, -, hev⟩ := h.triggerEvent hr'
          exact .inr ⟨by simp, r', by simpa using hr', hrel, by simpa using hev⟩

/-! ## The sections -/

/-- What a successful addEvent guarantees; the new context is consistent iff the caller has a scheduler. -/
structure Registers (c : FdContext) (e : Event) (who : Caller) (n : Nat) (r : Section) : Prop where
  ok : who.scheduler.isSome ↔ r.ctx.Ok
  pending : r.pending = r.ctx.events.count - c.events.count
  waiters : ∀ w, r.ctx.waiters.count w = c.waiters.count w + if n = w then 1 else 0
  scheduled : r.scheduled = []
  dropped : r.dropped = []
  events : r.ctx.events = c.events.or e

/-- addEvent finds the event unregistered, epoll_ctl returns 0 and the fiber to park is running. -/
def AddSucceeds (c : FdContext) (e : Event) (cb : Option Nat) (who : Caller) (rt : Bool) : Prop :=
  c.events.has e = false ∧ rt = true ∧ (cb.isSome ∨ who.state = .EXEC)

theorem addEvent_cases {c : FdContext} (h : c.Ok) (e : Event) (cb : Option Nat) (who : Caller) (n : Nat)
    (rt : Bool) :
    (c.AddSucceeds e cb who rt ∧ ∃ r, c.addEvent e cb who n rt = .ok (some r) ∧ c.Registers e who n r) ∨
    (¬ c.AddSucceeds e cb who rt ∧ (c.addEvent e cb who n rt = .ok none ∨
      ∃ f, f ≠ .triggerEvent ∧ c.addEvent e cb who n rt = .error f)) := by
  unfold addEvent AddSucceeds
  cases he : c.events.has e with
  | true => exact .inr ⟨by simp, .inr ⟨.addEvent, by simp, by simp⟩⟩
  | false =>
      cases rt with
      | false => exact .inr ⟨by simp, .inl (by simp)⟩
      | true =>
          simp only [h.empty he, Bool.false_eq_true, ↓reduceIte, Bool.not_true, Option.isSome_none, Bool.or_self,
            true_and]
          by_cases htask : cb.isSome ∨ who.state = .EXEC
          · have hnot : (cb.isNone && decide (who.state ≠ .EXEC)) = false := by
              rcases htask with hcb | hex
              · simp [Option.isNone_eq_false_iff.mpr hcb]
              · simp [hex]
            simp only [hnot, Bool.false_eq_true, ↓reduceIte]
            refine .inl ⟨htask, _, rfl, ⟨fun hs => h.arm e ⟨hs, ?_, rfl⟩, fun hok => ?_⟩, ?_, ?_, rfl, rfl, by simp⟩
            · cases cb <;> simp [Caller.eventContext]
            · simpa [Caller.eventContext] using (hok.armed (e := e) (by simp [Events.has_or])).scheduler
            · simp only [events_setContext, Events.count_or he]
              omega
            · intro w
              have hw := count_waiters_setContext c e (who.eventContext cb n) (c.events.or e) w
              simp only [h.empty he, Option.toList_none, List.count_nil, Nat.add_zero] at hw
              rw [hw, Nat.add_comm]
              simp [Caller.eventContext, List.count_singleton]
          · have hcond : (cb.isNone && decide (who.state ≠ .EXEC)) = true := by
              obtain ⟨hcb, hex⟩ := not_or.mp htask
              simp [hex, Option.not_isSome_iff_eq_none.mp hcb]
            exact .inr ⟨htask, .inr ⟨.fiberState, by simp, by simp only [hcond, ↓reduceIte]⟩⟩

/-- A fiber that runs under a scheduler and finds its event unregistered can wait for it. -/
theorem addEvent_succeeds {c : FdContext} {e : Event} {who : Caller} (h : c.Ok) (he : c.events.has e = false)
    (hs : who.scheduler.isSome) (hx : who.state = .EXEC) (n : Nat) :
    ∃ r, c.addEvent e none who n true = .ok (some r) ∧ r.ctx.Ok ∧ r.ctx.events = c.events.or e := by
  have hwho : AddSucceeds c e none who true := ⟨he, rfl, .inr hx⟩
  rcases addEvent_cases h e none who n true with ⟨-, r, hr, hreg⟩ | ⟨hno, -⟩
  · exact ⟨r, hr, hreg.ok.mp hs, hreg.events⟩
  · exact absurd hwho hno

theorem delEvent_releases {c : FdContext} {e : Event} {rt : Bool} {r : Section} (h : c.Ok)
    (hr : c.delEvent e rt = some r) : c.Releases r := by
  unfold delEvent at hr
  split at hr
  · cases hr
  rename_i he
  have he : c.events.has e = true := by
    cases hc : c.events.has e <;> simp_all
  simp only [Option.some.injEq] at hr
  subst hr
  refine ⟨h.disarm e, ?_, ?_, fun e' he' => ?_⟩
  · simp only [events_setContext, Events.count_andNot he]
    omega
  · intro w
    simpa using count_waiters_setContext c e {} (c.events.andNot e) w
  · rw [events_setContext, Events.has_andNot, Bool.and_eq_true] at he'
    exact he'.1

theorem cancelEvent_ok {c : FdContext} (h : c.Ok) (e : Event) (rt : Bool) :
    ∃ o, c.cancelEvent e rt = .ok o ∧ ∀ r, o = some r → c.Releases r := by
  unfold cancelEvent
  split
  · exact ⟨none, rfl, by simp⟩
  · rename_i he
    have he : c.events.has e = true := by
      cases hc : c.events.has e <;> simp_all
    obtain ⟨r, hr⟩ : ∃ r, c.triggerEvent e = .ok r := by simp [triggerEvent_eq h, he]
    exact ⟨some r, by simp [hr, Except.map], by rintro r' ⟨⟩; exact (triggerEvent_releases h hr).1⟩

theorem cancelAll_ok {c : FdContext} (h : c.Ok) (rt : Bool) :
    ∃ o, c.cancelAll rt = .ok o ∧ ∀ r, o = some r → c.Releases r := by
  unfold cancelAll
  split
  · exact ⟨none, rfl, by simp⟩
  rcases (Releases.refl h).triggerIf c.events .READ with ⟨hm, he, -⟩ | ⟨-, r₁, hr₁, h₁, hev₁⟩
  · exact absurd (hm.symm.trans he) (by simp)
  rcases h₁.triggerIf r₁.ctx.events .WRITE with ⟨hm, he, -⟩ | ⟨-, r₂, hr₂, h₂, hev₂⟩
  · exact absurd (hm.symm.trans he) (by simp)
  have hnone : r₂.ctx.events = .NONE := by
    rw [Events.eq_none_iff]
    intro e
    rw [hev₂, hev₁]
    cases e <;> split <;> split <;> simp_all [Events.has_andNot]
  exact ⟨some r₂, by simp [bind, Except.bind, hr₁, hr₂, hnone], by rintro r ⟨⟩; exact h₂⟩

/-! ## The dispatch of idle() -/

/-- The reported event, widened for errors and hang-ups, names no event of the context, or epoll_ctl fails,
or it names only registered events. -/
def DispatchOk (c : FdContext) (event : EpollEvents) (rt2 : Bool) : Prop :=
  c.events.and (realEvents event) = .NONE ∨ rt2 = false ∨
    ∀ e, (realEvents event).has e = true → c.events.has e = true

/-- On a consistent context the dispatch dies exactly on a report that names an event nobody registered next
to one that somebody did. -/
theorem dispatch_cases {c : FdContext} (h : c.Ok) (event : EpollEvents) (rt2 : Bool) :
    (¬ c.DispatchOk event rt2 ∧ c.dispatch event rt2 = .error .triggerEvent) ∨
    (c.DispatchOk event rt2 ∧ ∃ r, c.dispatch event rt2 = .ok r ∧ c.Releases r) := by
  unfold dispatch
  by_cases hskip : c.events.and (realEvents event) = .NONE ∨ rt2 = false
  · have hcond : (decide (c.events.and (realEvents event) = .NONE) || !rt2) = true := by simpa using hskip
    exact .inr ⟨hskip.imp_right .inl, { ctx := c }, by rw [if_pos hcond], .refl h⟩
  obtain ⟨hnone, hrt⟩ := not_or.mp hskip
  have hrt : rt2 = true := by simpa using hrt
  subst hrt
  simp only [hnone, decide_false, Bool.not_true, Bool.or_self, Bool.false_eq_true, ↓reduceIte, bind, Except.bind,
    DispatchOk, false_or, reduceCtorEq]
  rcases (Releases.refl h).triggerIf (realEvents event) .READ with
    ⟨hm, he, hr₁⟩ | ⟨hread, r₁, hr₁, h₁, hev₁⟩
  · exact .inl ⟨fun hall => by simp [hall _ hm] at he, by simp [hr₁]⟩
  -- the READ trigger leaves the WRITE bit alone
  have hkeep : r₁.ctx.events.has .WRITE = c.events.has .WRITE := by
    rw [hev₁]
    split <;> simp [Events.has_andNot]
  rcases h₁.triggerIf (realEvents event) .WRITE with ⟨hm, he, hr₂⟩ | ⟨hwrite, r₂, hr₂, h₂, -⟩
  · exact .inl ⟨fun hall => by simp [hkeep, hall _ hm] at he, by simp [hr₁, hr₂]⟩
  · refine .inr ⟨?_, r₂, by simp [hr₁, hr₂], h₂⟩
    rintro (_ | _) hm
    · exact hread hm
    · exact hkeep ▸ hwrite hm

end FdContext

end Mingfwq
