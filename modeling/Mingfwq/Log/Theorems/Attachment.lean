import Mingfwq.Log.Attachment

/-!
# The formatters of attached appenders

An appender without a formatter of its own has a copy of its logger's. Two calls lose sight of it: setFormatter on the
appender, which leaves it without one, and addAppender, which takes an old copy for a formatter of the appender's own.
-/

namespace Mingfwq.Attachment

open Lib

variable {s s' : State} {l a : Nat} {act : Action} {val : Option LogFormatter}

/-- The bookkeeping of the objects, which no call upsets. -/
structure Kept (s : State) : Prop where
  owned : ∀ l a, a ∈ (s.loggers l).m_appenders ↔ s.owner a = some l
  flag : ∀ a, (s.appenders a).m_hasFormatter = (s.own a).isSome
  own : ∀ a f, s.own a = some f → (s.appenders a).m_formatter = some f

/-- Every attached appender has a formatter: its own, or else its logger's. -/
def Attached (s : State) : Prop :=
  ∀ l, ∀ a ∈ (s.loggers l).m_appenders, (s.appenders a).m_formatter.isSome ∧
    (s.appenders a).m_formatter = (s.own a).or (s.loggers l).m_formatter

/-- A formatter that an appender has from a logger does not stay with it. -/
def Dropped (s : State) : Prop := ∀ a, s.owner a = none → s.own a = none → (s.appenders a).m_formatter = none

/-- What has to hold in the state after a call. -/
def After (good : State → Prop) (s : State) (act : Action) : Prop := ∀ s', step s act = .next s' → good s'

/-- No null formatter is set where an appender depends on it, and a formatter from another logger, or from an earlier
time, is not brought along. -/
def Careful (s : State) : Action → Prop
  | .addAppender l a => s.own a = none → (s.loggers l).m_formatter ≠ none ∧
      ((s.appenders a).m_formatter = none ∨ (s.appenders a).m_formatter = (s.loggers l).m_formatter)
  | .setFormatter l none => ∀ a ∈ (s.loggers l).m_appenders, s.own a ≠ none
  | .setAppenderFormatter a none => s.owner a = none
  | _ => True

/-- Only appenders with a formatter of their own are detached. -/
def Detaches (s : State) : Action → Prop
  | .delAppender l a => a ∈ (s.loggers l).m_appenders → a ∉ (s.loggers l).m_appenders.erase a → s.own a ≠ none
  | .clearAppender l => ∀ a ∈ (s.loggers l).m_appenders, s.own a ≠ none
  | _ => True

theorem Kept.mem_unique {l' : Nat} (h : Kept s) (hl : a ∈ (s.loggers l).m_appenders)
    (hl' : a ∈ (s.loggers l').m_appenders) : l' = l :=
  Option.some.inj (((h.owned l' a).mp hl').symm.trans ((h.owned l a).mp hl))

/-! ## addAppender -/

section AddAppender

theorem addAppender_loggers (l' : Nat) : ((s.addAppender l a).loggers l').m_appenders =
    if l' = l then (s.loggers l).m_appenders ++ [a] else (s.loggers l').m_appenders := by
  by_cases h : l' = l
  · subst h
    simp [State.addAppender, State.setLogger]
  · simp [State.addAppender, State.setLogger, h]

theorem addAppender_formatter (l' : Nat) :
    ((s.addAppender l a).loggers l').m_formatter = (s.loggers l').m_formatter := by
  by_cases h : l' = l
  · subst h
    simp [State.addAppender, State.setLogger]
  · simp [State.addAppender, State.setLogger, h]

theorem addAppender_appender (b : Nat) : ((s.addAppender l a).appenders b).m_hasFormatter =
      (s.appenders b).m_hasFormatter ∧ ((s.addAppender l a).appenders b).m_formatter =
      if b = a then (s.appenders a).m_formatter.or (s.loggers l).m_formatter else (s.appenders b).m_formatter := by
  by_cases h : b = a
  · subst h
    cases hf : (s.appenders b).m_formatter <;> simp [State.addAppender, LogAppender.getFormatter, hf]
  · simp [State.addAppender, h]

theorem Kept.addAppender (h : Kept s) (howner : s.owner a = none ∨ s.owner a = some l) : Kept (s.addAppender l a) where
  owned := fun l' b => by
    rw [addAppender_loggers]
    by_cases hb : b = a
    · subst hb
      by_cases hl : l' = l
      · subst hl
        simp [State.addAppender]
      · have hnot : b ∉ (s.loggers l').m_appenders := by
          rw [h.owned]
          rcases howner with hn | hn <;> simp [hn, Ne.symm hl]
        simp [State.addAppender, hl, hnot, Ne.symm hl]
    · have hown := h.owned l' b
      by_cases hl : l' = l
      · subst hl
        simp [State.addAppender, hb, hown]
      · simp [State.addAppender, hb, hl, hown]
  flag := fun b => (addAppender_appender b).1.trans (h.flag b)
  own := fun b f hf => by
    have hb : (s.appenders b).m_formatter = some f := h.own b f hf
    rw [(addAppender_appender b).2]
    split
    · next heq => rw [← heq, hb, Option.some_or]
    · exact hb

theorem attached_addAppender (h : Kept s) (hattached : Attached s)
    (howner : s.owner a = none ∨ s.owner a = some l) : Attached (s.addAppender l a) ↔ Careful s (.addAppender l a) := by
  have hown : (s.addAppender l a).own = s.own := rfl
  constructor
  · intro hafter hnone
    obtain ⟨hsome, heq⟩ := hafter l a (by rw [addAppender_loggers, if_pos rfl]; simp)
    rw [(addAppender_appender a).2, if_pos rfl, addAppender_formatter, hown, hnone, Option.none_or] at heq
    rw [(addAppender_appender a).2, if_pos rfl, heq] at hsome
    refine ⟨Option.isSome_iff_ne_none.mp hsome, ?_⟩
    cases hf : (s.appenders a).m_formatter with
    | none => exact .inl rfl
    | some f =>
        rw [hf, Option.some_or] at heq
        exact .inr heq
  · intro hcareful l' b hb
    rw [(addAppender_appender b).2, addAppender_formatter, hown]
    by_cases hba : b = a
    · subst hba
      have hl : l' = l := by
        by_contra hl
        rw [addAppender_loggers, if_neg hl, h.owned] at hb
        rcases howner with hn | hn
        · rw [hn] at hb
          cases hb
        · exact hl (Option.some.inj (hb.symm.trans hn))
      subst hl
      rw [if_pos rfl]
      cases hb_own : s.own b with
      | some f =>
          rw [h.own b f hb_own]
          exact ⟨rfl, rfl⟩
      | none =>
          obtain ⟨hsome, hf⟩ := hcareful hb_own
          have hor : (s.appenders b).m_formatter.or (s.loggers l').m_formatter = (s.loggers l').m_formatter := by
            rcases hf with hf | hf
            · rw [hf, Option.none_or]
            · rw [hf, Option.or_self]
          rw [hor, Option.none_or]
          exact ⟨Option.isSome_iff_ne_none.mpr hsome, rfl⟩
    · rw [if_neg hba]
      rw [addAppender_loggers] at hb
      split at hb
      · next hl =>
          subst hl
          exact hattached l' b (by simpa [hba] using hb)
      · exact hattached l' b hb

theorem Dropped.addAppender (h : Dropped s) : Dropped (s.addAppender l a) := by
  intro b howner hown
  have hb : b ≠ a := by
    rintro rfl
    simp [State.addAppender] at howner
  rw [(addAppender_appender b).2, if_neg hb]
  refine h b ?_ hown
  simpa [State.addAppender, hb] using howner

end AddAppender

/-! ## delAppender and clearAppender -/

section KeepAppenders

variable {as : List Nat}

theorem keepAppenders_loggers (l' : Nat) : ((s.keepAppenders l as).loggers l').m_appenders =
    if l' = l then as else (s.loggers l').m_appenders := by
  by_cases h : l' = l
  · subst h
    simp [State.keepAppenders, State.setLogger]
  · simp [State.keepAppenders, State.setLogger, h]

theorem keepAppenders_formatter (l' : Nat) :
    ((s.keepAppenders l as).loggers l').m_formatter = (s.loggers l').m_formatter := by
  by_cases h : l' = l
  · subst h
    simp [State.keepAppenders, State.setLogger]
  · simp [State.keepAppenders, State.setLogger, h]

theorem Kept.keepAppenders (h : Kept s) (has : as ⊆ (s.loggers l).m_appenders) : Kept (s.keepAppenders l as) where
  owned := fun l' b => by
    rw [keepAppenders_loggers]
    simp only [State.keepAppenders]
    by_cases hl : l' = l
    · subst hl
      rw [if_pos rfl]
      by_cases hb : b ∈ as
      · simp [hb, (h.owned l' b).mp (has hb)]
      · by_cases hold : b ∈ (s.loggers l').m_appenders
        · simp [hb, hold]
        · have hown := (h.owned l' b).not.mp hold
          simp [hb, hold, hown]
    · rw [if_neg hl, h.owned]
      split
      · next hgone =>
          have hown := (h.owned l b).mp hgone.1
          simp [hown, Ne.symm hl]
      · rfl
  flag := h.flag
  own := h.own

theorem attached_keepAppenders (hattached : Attached s) (has : as ⊆ (s.loggers l).m_appenders) :
    Attached (s.keepAppenders l as) := by
  intro l' b hb
  rw [keepAppenders_formatter]
  rw [keepAppenders_loggers] at hb
  split at hb
  · next hl =>
      subst hl
      exact hattached l' b (has hb)
  · exact hattached l' b hb

theorem dropped_keepAppenders (hattached : Attached s) (hdropped : Dropped s) :
    Dropped (s.keepAppenders l as) ↔ ∀ a ∈ (s.loggers l).m_appenders, a ∉ as → s.own a ≠ none := by
  constructor
  · intro hafter b hb hgone hown
    have howner : (s.keepAppenders l as).owner b = none := by simp [State.keepAppenders, hb, hgone]
    have hsome := (hattached l b hb).1
    have hnone : (s.appenders b).m_formatter = none := hafter b howner hown
    rw [hnone] at hsome
    cases hsome
  · intro hown b howner hnone
    by_cases hgone : b ∈ (s.loggers l).m_appenders ∧ b ∉ as
    · exact absurd hnone (hown b hgone.1 hgone.2)
    · have hold : s.owner b = none := by
        simpa only [State.keepAppenders, if_neg hgone] using howner
      exact hdropped b hold hnone

end KeepAppenders

/-! ## setFormatter -/

section SetFormatter

theorem setFormatter_appenders (l' : Nat) :
    ((s.setFormatter l val).loggers l').m_appenders = (s.loggers l').m_appenders := by
  by_cases h : l' = l
  · subst h
    simp [State.setFormatter, State.setLogger]
  · simp [State.setFormatter, State.setLogger, h]

theorem setFormatter_formatter (l' : Nat) : ((s.setFormatter l val).loggers l').m_formatter =
    if l' = l then val else (s.loggers l').m_formatter := by
  by_cases h : l' = l
  · subst h
    simp [State.setFormatter, State.setLogger]
  · simp [State.setFormatter, State.setLogger, h]

theorem Kept.setFormatter_appender (h : Kept s) (b : Nat) : ((s.setFormatter l val).appenders b).m_formatter =
    if b ∈ (s.loggers l).m_appenders ∧ s.own b = none then val else (s.appenders b).m_formatter := by
  have hflag : ¬(s.appenders b).m_hasFormatter ↔ s.own b = none := by
    rw [h.flag]
    cases s.own b <;> simp
  simp only [State.setFormatter, hflag]
  split <;> rfl

theorem setFormatter_hasFormatter (b : Nat) :
    ((s.setFormatter l val).appenders b).m_hasFormatter = (s.appenders b).m_hasFormatter := by
  simp only [State.setFormatter]
  split <;> rfl

theorem Kept.setFormatter (h : Kept s) : Kept (s.setFormatter l val) where
  owned := fun l' b => by
    rw [setFormatter_appenders]
    exact h.owned l' b
  flag := fun b => (setFormatter_hasFormatter b).trans (h.flag b)
  own := fun b f hf => by
    have hown : s.own b = some f := hf
    rw [h.setFormatter_appender, if_neg (by simp [hown])]
    exact h.own b f hown

theorem attached_setFormatter (h : Kept s) (hattached : Attached s) :
    Attached (s.setFormatter l val) ↔ (val = none → ∀ a ∈ (s.loggers l).m_appenders, s.own a ≠ none) := by
  constructor
  · rintro hafter rfl b hb hown
    have hsome := (hafter l b (by rwa [setFormatter_appenders])).1
    rw [h.setFormatter_appender, if_pos ⟨hb, hown⟩] at hsome
    cases hsome
  · intro hval l' b hb
    rw [setFormatter_appenders] at hb
    rw [h.setFormatter_appender, setFormatter_formatter]
    have hbefore := hattached l' b hb
    show _ ∧ _ = (s.own b).or _
    cases hown : s.own b with
    | some f =>
        rw [if_neg (by simp), h.own b f hown]
        exact ⟨rfl, rfl⟩
    | none =>
        by_cases hl : l' = l
        · subst hl
          rw [if_pos ⟨hb, rfl⟩, if_pos rfl]
          refine ⟨Option.isSome_iff_ne_none.mpr fun hnone => hval hnone b hb hown, rfl⟩
        · rw [if_neg fun hmem => hl (h.mem_unique hmem.1 hb), if_neg hl]
          rw [hown] at hbefore
          exact hbefore

theorem Dropped.setFormatter (h : Kept s) (hdropped : Dropped s) : Dropped (s.setFormatter l val) := by
  intro b howner hown
  have hb : b ∉ (s.loggers l).m_appenders := by
    rw [h.owned, show s.owner b = none from howner]
    exact nofun
  rw [h.setFormatter_appender, if_neg fun hmem => hb hmem.1]
  exact hdropped b howner hown

end SetFormatter

/-! ## setFormatter of an appender -/

section SetAppenderFormatter

theorem setAppenderFormatter_formatter (b : Nat) : ((s.setAppenderFormatter a val).appenders b).m_formatter =
    if b = a then val else (s.appenders b).m_formatter := by
  by_cases h : b = a
  · subst h
    simp [State.setAppenderFormatter, LogAppender.setFormatter]
  · simp [State.setAppenderFormatter, h]

theorem setAppenderFormatter_own (b : Nat) :
    (s.setAppenderFormatter a val).own b = if b = a then val else s.own b := by
  by_cases h : b = a
  · subst h
    simp [State.setAppenderFormatter]
  · simp [State.setAppenderFormatter, h]

theorem Kept.setAppenderFormatter (h : Kept s) : Kept (s.setAppenderFormatter a val) where
  owned := h.owned
  flag := fun b => by
    by_cases hb : b = a
    · subst hb
      simp [State.setAppenderFormatter, LogAppender.setFormatter]
    · simpa [State.setAppenderFormatter, hb] using h.flag b
  own := fun b f hf => by
    rw [setAppenderFormatter_own] at hf
    rw [setAppenderFormatter_formatter]
    split
    · next hb => rwa [if_pos hb] at hf
    · next hb =>
        rw [if_neg hb] at hf
        exact h.own b f hf

theorem attached_setAppenderFormatter (h : Kept s) (hattached : Attached s) :
    Attached (s.setAppenderFormatter a val) ↔ (val = none → s.owner a = none) := by
  constructor
  · rintro hafter rfl
    by_contra hn
    obtain ⟨l, hl⟩ := Option.ne_none_iff_exists'.mp hn
    have hsome := (hafter l a ((h.owned l a).mpr hl)).1
    rw [setAppenderFormatter_formatter, if_pos rfl] at hsome
    cases hsome
  · intro hval l b hb
    rw [setAppenderFormatter_formatter, setAppenderFormatter_own]
    by_cases hba : b = a
    · subst hba
      rw [if_pos rfl, if_pos rfl]
      cases val with
      | some f => exact ⟨rfl, rfl⟩
      | none =>
          have howner := (h.owned l b).mp hb
          rw [hval rfl] at howner
          cases howner
    · rw [if_neg hba, if_neg hba]
      exact hattached l b hb

theorem Dropped.setAppenderFormatter (hdropped : Dropped s) : Dropped (s.setAppenderFormatter a val) := by
  intro b howner hown
  rw [setAppenderFormatter_own] at hown
  rw [setAppenderFormatter_formatter]
  split
  · next hb => rwa [if_pos hb] at hown
  · next hb =>
      rw [if_neg hb] at hown
      exact hdropped b howner hown

end SetAppenderFormatter

/-! ## Runs -/

theorem delAppender_subset : (s.loggers l).m_appenders.erase a ⊆ (s.loggers l).m_appenders := List.erase_subset

theorem Kept.step (h : Kept s) (hs : step s act = .next s') : Kept s' := by
  cases act with
  | addAppender l a =>
      simp only [Attachment.step] at hs
      split at hs
      · next howner =>
          cases hs
          exact h.addAppender howner
      · cases hs
  | delAppender l a =>
      cases hs
      exact h.keepAppenders delAppender_subset
  | clearAppender l =>
      cases hs
      exact h.keepAppenders (List.nil_subset _)
  | setFormatter l val =>
      cases hs
      exact h.setFormatter
  | setPattern l val =>
      simp only [Attachment.step, State.setPattern, Outcome.next.injEq] at hs
      split at hs
      · exact hs ▸ h
      · exact hs ▸ h.setFormatter
  | setAppenderFormatter a val =>
      cases hs
      exact h.setAppenderFormatter

theorem attached_iff (h : Kept s) (hattached : Attached s) (hs : step s act = .next s') :
    Attached s' ↔ Careful s act := by
  cases act with
  | addAppender l a =>
      simp only [Attachment.step] at hs
      split at hs
      · next howner =>
          cases hs
          exact attached_addAppender h hattached howner
      · cases hs
  | delAppender l a =>
      cases hs
      exact iff_of_true (attached_keepAppenders hattached delAppender_subset) trivial
  | clearAppender l =>
      cases hs
      exact iff_of_true (attached_keepAppenders hattached (List.nil_subset _)) trivial
  | setFormatter l val =>
      cases hs
      cases val with
      | none =>
          have hiff : Attached (s.setFormatter l none) ↔ _ := attached_setFormatter h hattached
          simpa [Careful] using hiff
      | some f => exact iff_of_true ((attached_setFormatter h hattached).mpr nofun) trivial
  | setPattern l val =>
      simp only [Attachment.step, State.setPattern, Outcome.next.injEq] at hs
      split at hs
      · exact iff_of_true (hs ▸ hattached) trivial
      · exact iff_of_true (hs ▸ (attached_setFormatter h hattached).mpr nofun) trivial
  | setAppenderFormatter a val =>
      cases hs
      cases val with
      | none =>
          have hiff : Attached (s.setAppenderFormatter a none) ↔ _ := attached_setAppenderFormatter h hattached
          simpa [Careful] using hiff
      | some f => exact iff_of_true ((attached_setAppenderFormatter h hattached).mpr nofun) trivial

theorem dropped_iff (h : Kept s) (hattached : Attached s) (hdropped : Dropped s) (hs : step s act = .next s') :
    Dropped s' ↔ Detaches s act := by
  cases act with
  | addAppender l a =>
      simp only [Attachment.step] at hs
      split at hs
      · cases hs
        exact iff_of_true hdropped.addAppender trivial
      · cases hs
  | delAppender l a =>
      cases hs
      rw [State.delAppender, dropped_keepAppenders hattached hdropped, Detaches]
      constructor
      · intro hown hmem hgone
        exact hown a hmem hgone
      · intro hown b hb hgone
        have hba : b = a := by
          by_contra hne
          exact hgone ((List.mem_erase_of_ne hne).mpr hb)
        subst hba
        exact hown hb hgone
  | clearAppender l =>
      cases hs
      rw [State.clearAppender, dropped_keepAppenders hattached hdropped, Detaches]
      simp
  | setFormatter l val =>
      cases hs
      exact iff_of_true (hdropped.setFormatter h) trivial
  | setPattern l val =>
      simp only [Attachment.step, State.setPattern, Outcome.next.injEq] at hs
      split at hs
      · exact iff_of_true (hs ▸ hdropped) trivial
      · exact iff_of_true (hs ▸ hdropped.setFormatter h) trivial
  | setAppenderFormatter a val =>
      cases hs
      exact iff_of_true hdropped.setAppenderFormatter trivial

section Init

variable (class_ : Nat → LogAppenderClass) (name : Nat → String) (root : Nat → Option Nat)

theorem kept_init : Kept (.init class_ name root) where
  owned := fun _ _ => by simp [State.init]
  flag := fun _ => rfl
  own := nofun

theorem attached_init : Attached (.init class_ name root) := by
  intro l a ha
  cases ha

theorem dropped_init : Dropped (.init class_ name root) := fun _ _ _ => rfl

theorem after_iff {good : State → Prop} (hs : step s act = .next s') : After good s act ↔ good s' := by
  constructor
  · intro h
    exact h s' hs
  · intro h s'' hs'
    cases hs.symm.trans hs'
    exact h

theorem next_of_ne_blocked (hs : step s act ≠ .blocked) : ∃ s', step s act = .next s' := by
  cases h : step s act with
  | blocked => exact absurd h hs
  | abort e => cases e
  | next s' => exact ⟨s', rfl⟩

/-- The formatters of attached appenders are right after every call exactly if all calls are careful; and none is left
on a detached appender exactly if, besides, only appenders with their own are detached. -/
theorem attached_run_iff (as : List Action) :
    ((∀ q ∈ (system class_ name root).trace (.init class_ name root) as, After Attached q.1 q.2) ↔
      ∀ q ∈ (system class_ name root).trace (.init class_ name root) as, Careful q.1 q.2) ∧
    ((∀ q ∈ (system class_ name root).trace (.init class_ name root) as,
        After (fun s => Attached s ∧ Dropped s) q.1 q.2) ↔
      ∀ q ∈ (system class_ name root).trace (.init class_ name root) as, Careful q.1 q.2 ∧ Detaches q.1 q.2) := by
  have hattached : ∀ s act, Kept s ∧ Attached s → (system class_ name root).step s act ≠ .blocked →
      (After Attached s act ↔ Careful s act) := by
    intro s act h hs
    obtain ⟨s', hs⟩ := next_of_ne_blocked hs
    rw [after_iff hs, attached_iff h.1 h.2 hs]
  have hdropped : ∀ s act, Kept s ∧ Attached s ∧ Dropped s → (system class_ name root).step s act ≠ .blocked →
      (After (fun s => Attached s ∧ Dropped s) s act ↔ Careful s act ∧ Detaches s act) := by
    intro s act h hs
    obtain ⟨s', hs⟩ := next_of_ne_blocked hs
    rw [after_iff hs, attached_iff h.1 h.2.1 hs, dropped_iff h.1 h.2.1 h.2.2 hs]
  constructor
  · refine System.trace_iff hattached (fun s act s' h hok hs => ?_)
      ⟨kept_init class_ name root, attached_init class_ name root⟩ as
    exact ⟨h.1.step hs, (attached_iff h.1 h.2 hs).mpr hok⟩
  · refine System.trace_iff hdropped (fun s act s' h hok hs => ?_)
      ⟨kept_init class_ name root, attached_init class_ name root, dropped_init class_ name root⟩ as
    exact ⟨h.1.step hs, (attached_iff h.1 h.2.1 hs).mpr hok.1, (dropped_iff h.1 h.2.1 h.2.2 hs).mpr hok.2⟩

end Init

/-- An attached appender whose formatter is taken away has none, not its logger's. -/
theorem not_attached_reset : ¬ ∀ (class_ : Nat → LogAppenderClass) (name : Nat → String) (root : Nat → Option Nat)
    (as : List Action), ∀ q ∈ (system class_ name root).trace (.init class_ name root) as, After Attached q.1 q.2 := by
  intro h
  have hafter := h (fun _ => .StdoutLogAppender) (fun _ => "root") (fun _ => none)
    [.addAppender 0 0, .setAppenderFormatter 0 none]
    (State.addAppender (.init (fun _ => .StdoutLogAppender) (fun _ => "root") fun _ => none) 0 0,
      .setAppenderFormatter 0 none)
    (.tail _ (.head _)) _ rfl
  have hsome := (hafter 0 0 (by decide)).1
  rw [setAppenderFormatter_formatter, if_pos rfl] at hsome
  cases hsome

/-! ## The objects by value -/

theorem view_addAppender (ha : a ∉ (s.loggers l).m_appenders) :
    (s.addAppender l a).view l = (s.view l).addAppender (s.appenders a) := by
  have hmap : (s.loggers l).m_appenders.map (s.addAppender l a).appenders =
      (s.loggers l).m_appenders.map s.appenders := by
    refine List.map_congr_left fun b hb => ?_
    have hne : b ≠ a := fun heq => ha (heq ▸ hb)
    simp [State.addAppender, hne]
  simp only [State.view, Logger.addAppender, addAppender_loggers, if_pos, List.map_append, hmap, List.map_singleton]
  simp [State.addAppender, State.setLogger]

theorem view_setFormatter : (s.setFormatter l val).view l = (s.view l).setFormatterPtr val := by
  have hmap : (s.loggers l).m_appenders.map (s.setFormatter l val).appenders =
      ((s.loggers l).m_appenders.map s.appenders).map fun i =>
        if i.m_hasFormatter then i else { i with m_formatter := val } := by
    rw [List.map_map]
    refine List.map_congr_left fun b hb => ?_
    cases hflag : (s.appenders b).m_hasFormatter <;> simp [State.setFormatter, hb, hflag]
  simp only [State.view, Logger.setFormatterPtr, setFormatter_appenders, hmap]
  simp [State.setFormatter, State.setLogger]

theorem view_clearAppender : (s.clearAppender l).view l = (s.view l).clearAppender := by
  simp [State.view, State.clearAppender, State.keepAppenders, State.setLogger, Logger.clearAppender]

theorem Attached.logAppenders (h : Attached s) (l : Nat) (level : LogLevel) : (s.logAppenders l level).isSome := by
  rw [State.logAppenders]
  split
  · have hall : ∀ i ∈ (s.loggers l).m_appenders.map s.appenders, i.m_formatter.isSome := by
      intro i hi
      obtain ⟨b, hb, rfl⟩ := List.mem_map.mp hi
      exact (h l b hb).1
    generalize (s.loggers l).m_appenders.map s.appenders = l at hall
    induction l with
    | nil => rfl
    | cons i l ih =>
        have hrest := ih fun j hj => hall j (List.mem_cons_of_mem _ hj)
        rw [List.filter_cons]
        split
        · obtain ⟨f, hf⟩ := Option.isSome_iff_exists.mp (hall i List.mem_cons_self)
          obtain ⟨fs, hfs⟩ := Option.isSome_iff_exists.mp hrest
          simp [hf, hfs]
        · exact hrest
  · rfl

theorem Attached.log (h : Attached s) (l : Nat) (level : LogLevel) : (s.log l level).isSome := by
  rw [State.log]
  split
  · split
    · exact h.logAppenders _ level
    · rfl
  · exact h.logAppenders l level

end Mingfwq.Attachment
