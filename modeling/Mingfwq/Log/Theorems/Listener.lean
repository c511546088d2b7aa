import Mingfwq.Log.LogDefine

/-!
# What the listener does to the loggers

A definition that is the same in both sets leaves a null logger behind.
-/

namespace Mingfwq.LogIniter

open Lib

variable {old_value new_value : LogDefines} {manager manager' : LoggerManager} {logger logger' : Logger} {i : LogDefine}
  {name : String} {defines : List LogDefine}

/-! ## What is wanted -/

/-- The pattern of the formatter that an appender has of its own. -/
def ownFormatter (ap : LogAppender) : String :=
  if ap.m_hasFormatter then ap.m_formatter.elim "" LogFormatter.getPattern else ""

/-- The class and the level of an appender are those of the definition. -/
def Plain (a : LogAppenderDefine) (ap : LogAppender) : Prop :=
  (a.type = 1 ∧ ap.class_ = .FileLogAppender a.file ∨ a.type = 2 ∧ ap.class_ = .StdoutLogAppender) ∧
    ap.m_level = a.level

def Matches (a : LogAppenderDefine) (ap : LogAppender) : Prop := Plain a ap ∧ ownFormatter ap = a.formatter

/-- The loggers after a change of the configuration. -/
structure Applied (old_value new_value : LogDefines) (manager manager' : LoggerManager) : Prop where
  defined : ∀ i ∈ new_value.list, i ∉ old_value.list → ∃ logger, manager'.m_loggers.lookup i.name = some logger ∧
    logger.m_level = i.level ∧ List.Forall₂ Matches i.appenders logger.m_appenders
  removed : ∀ i ∈ old_value.list, (∀ j ∈ new_value.list, j.name ≠ i.name) →
    ∃ logger, manager'.m_loggers.lookup i.name = some logger ∧ logger.m_level = .cast 100 ∧ logger.m_appenders = []
  unchanged : ∀ name, (∀ i, i.name = name → (i ∈ old_value.list ↔ i ∈ new_value.list)) →
    manager'.m_loggers.lookup name = manager.m_loggers.lookup name

/-- The definition of an appender that is one of the two, with a formatter that is one. -/
def Usable (a : LogAppenderDefine) : Prop :=
  (a.type = 1 ∨ a.type = 2) ∧ (a.formatter = "" ∨ (LogFormatter.new a.formatter).isError = false)

/-! ## Appenders -/

/-- What becomes of the definition of an appender. -/
def Made (a : LogAppenderDefine) (ap : LogAppender) : Prop :=
  Plain a ap ∧
    ownFormatter ap = if a.formatter = "" ∨ (LogFormatter.new a.formatter).isError = true then "" else a.formatter

theorem Made.matches_iff {a : LogAppenderDefine} {ap : LogAppender} (h : Made a ap) : Matches a ap ↔ Usable a := by
  obtain ⟨hplain, hown⟩ := h
  have htype : a.type = 1 ∨ a.type = 2 := hplain.1.imp And.left And.left
  simp only [Matches, Usable, hplain, htype, true_and, hown]
  by_cases hempty : a.formatter = ""
  · simp [hempty]
  · cases herror : (LogFormatter.new a.formatter).isError with
    | true => simp [hempty, Ne.symm hempty]
    | false => simp [hempty]

/-- A new appender that is set up by a definition. -/
theorem setUp_new (class_ : LogAppenderClass) (a : LogAppenderDefine) :
    (setUp (.new class_) a).class_ = class_ ∧ (setUp (.new class_) a).m_level = a.level ∧
      ownFormatter (setUp (.new class_) a) =
        (if a.formatter = "" ∨ (LogFormatter.new a.formatter).isError = true then "" else a.formatter) ∧
      (setUp (.new class_) a).m_formatter.isSome = (setUp (.new class_) a).m_hasFormatter := by
  by_cases hempty : a.formatter = ""
  · simp [setUp, hempty, ownFormatter, LogAppender.new, LogAppender.setLevel]
  · cases herror : (LogFormatter.new a.formatter).isError with
    | true => simp [setUp, hempty, herror, ownFormatter, LogAppender.new, LogAppender.setLevel]
    | false =>
        have hpattern : (LogFormatter.new a.formatter).getPattern = a.formatter := rfl
        simp [setUp, hempty, herror, ownFormatter, LogAppender.new, LogAppender.setLevel, LogAppender.setFormatter,
          hpattern]

theorem newAppender_made {a : LogAppenderDefine} {ap : LogAppender} (h : newAppender a = some ap) (logger : Logger) :
    ∃ ap', (logger.addAppender (setUp ap a)).m_appenders = logger.m_appenders ++ [ap'] ∧ Made a ap' := by
  obtain ⟨class_, rfl, hclass⟩ : ∃ class_, ap = .new class_ ∧
      (a.type = 1 ∧ class_ = .FileLogAppender a.file ∨ a.type = 2 ∧ class_ = .StdoutLogAppender) := by
    rw [newAppender] at h
    split at h
    · next h1 =>
        cases h
        exact ⟨_, rfl, .inl ⟨h1, rfl⟩⟩
    · split at h
      · next h2 =>
          cases h
          exact ⟨_, rfl, .inr ⟨h2, rfl⟩⟩
      · cases h
  obtain ⟨hc, hlevel, hown, hsome⟩ := setUp_new class_ a
  refine ⟨_, rfl, ?_⟩
  split
  · next hnone =>
      -- the formatter it gets from the logger is not its own
      have hhas : (setUp (.new class_) a).m_hasFormatter = false := by
        rw [← hsome]
        simpa [LogAppender.getFormatter] using hnone
      refine ⟨⟨by simpa only [hc] using hclass, hlevel⟩, ?_⟩
      rw [← hown]
      simp [ownFormatter, hhas]
  · exact ⟨⟨by rwa [hc], hlevel⟩, hown⟩

theorem addAppenders_ok {appenders : List LogAppenderDefine} (h : addAppenders logger appenders = .ok logger') :
    logger'.m_level = logger.m_level ∧
      ∃ aps, logger'.m_appenders = logger.m_appenders ++ aps ∧ List.Forall₂ Made appenders aps := by
  induction appenders generalizing logger with
  | nil =>
      cases h
      exact ⟨rfl, [], (List.append_nil _).symm, .nil⟩
  | cons a appenders ih =>
      simp only [addAppenders] at h
      split at h
      · cases h
      · next ap hnew =>
          obtain ⟨ap', hadded, hmade⟩ := newAppender_made hnew logger
          obtain ⟨hlevel, aps, happenders, hall⟩ := ih h
          refine ⟨hlevel, ap' :: aps, ?_, .cons hmade hall⟩
          rw [happenders, hadded, List.append_assoc, List.singleton_append]

theorem addAppenders_exists {appenders : List LogAppenderDefine} (h : ∀ a ∈ appenders, a.type = 1 ∨ a.type = 2)
    (logger : Logger) : ∃ logger', addAppenders logger appenders = .ok logger' := by
  induction appenders generalizing logger with
  | nil => exact ⟨logger, rfl⟩
  | cons a appenders ih =>
      obtain ⟨ap, hap⟩ : ∃ ap, newAppender a = some ap := by
        rcases h a List.mem_cons_self with h1 | h2
        · exact ⟨.new (.FileLogAppender a.file), by simp [newAppender, h1]⟩
        · exact ⟨.new .StdoutLogAppender, by simp [newAppender, h2]⟩
      simp only [addAppenders, hap]
      exact ih (fun b hb => h b (List.mem_cons_of_mem _ hb)) _

/-! ## Loggers -/

theorem map_ok_inv {α β : Type} {x : Except Fault α} {f : α → β} {b : β} (h : x.map f = .ok b) :
    ∃ a, x = .ok a ∧ f a = b := by
  cases x with
  | error fault => cases h
  | ok a => exact ⟨a, rfl, Except.ok.inj h⟩

theorem getLogger_lookup_ne (manager : LoggerManager) {name name' : String} (h : name' ≠ name) :
    (manager.getLogger name).2.m_loggers.lookup name' = manager.m_loggers.lookup name' := by
  rw [LoggerManager.getLogger]
  split
  · rfl
  · exact AList.lookup_insert_ne h

/-- What a round of the first loop does to the logger it is about. -/
def configured (manager : LoggerManager) (i : LogDefine) : Logger :=
  let logger := (manager.getLogger i.name).1.setLevel i.level
  (if i.formatter.isEmpty then logger else logger.setFormatter i.formatter).clearAppender

theorem configured_fields (manager : LoggerManager) (i : LogDefine) :
    (configured manager i).m_level = i.level ∧ (configured manager i).m_appenders = [] := by
  refine ⟨?_, rfl⟩
  simp only [configured, Logger.clearAppender, Logger.setFormatter]
  split
  · rfl
  · split <;> rfl

/-- A definition that is new or different is applied; one that is the same is not survived. -/
theorem define_eq (old_value : LogDefines) (manager : LoggerManager) (i : LogDefine) :
    define old_value manager i =
      if i ∈ old_value.list then .error .nullLogger
      else (addAppenders (configured manager i) i.appenders).map ((manager.getLogger i.name).2.set i.name) := by
  by_cases hmem : i ∈ old_value.list
  · have hfind := LogDefines.find_eq_some.mpr ⟨hmem, rfl⟩
    simp [define, hfind, hmem]
  · cases hfind : old_value.find i with
    | none => simp [define, hfind, hmem, configured]
    | some it =>
        have hne : i ≠ it := fun heq => hmem (heq ▸ (LogDefines.find_eq_some.mp hfind).1)
        simp [define, hfind, hmem, hne, configured]

/-- The definition is applied to the logger. -/
def Defined (i : LogDefine) (logger : Logger) : Prop :=
  logger.m_level = i.level ∧ List.Forall₂ Made i.appenders logger.m_appenders

theorem define_ok (h : define old_value manager i = .ok manager') :
    i ∉ old_value.list ∧ (∃ logger, manager'.m_loggers.lookup i.name = some logger ∧ Defined i logger) ∧
      ∀ name, name ≠ i.name → manager'.m_loggers.lookup name = manager.m_loggers.lookup name := by
  rw [define_eq] at h
  split at h
  · cases h
  · next hmem =>
      obtain ⟨logger, hadd, rfl⟩ := map_ok_inv h
      obtain ⟨hlevel, aps, happenders, hmade⟩ := addAppenders_ok hadd
      obtain ⟨hlevel₀, hempty⟩ := configured_fields manager i
      rw [hempty, List.nil_append] at happenders
      refine ⟨hmem, ⟨logger, AList.lookup_insert _, hlevel.trans hlevel₀, happenders ▸ hmade⟩, fun name hne => ?_⟩
      exact (AList.lookup_insert_ne hne).trans (getLogger_lookup_ne manager hne)

theorem define_exists (hmem : i ∉ old_value.list) (h : ∀ a ∈ i.appenders, a.type = 1 ∨ a.type = 2)
    (manager : LoggerManager) : ∃ manager', define old_value manager i = .ok manager' := by
  obtain ⟨logger, hlogger⟩ := addAppenders_exists h (configured manager i)
  refine ⟨(manager.getLogger i.name).2.set i.name logger, ?_⟩
  rw [define_eq, if_neg hmem, hlogger]
  rfl

/-! ## The first loop -/

theorem defineAll_unchanged (h : defineAll old_value manager defines = .ok manager')
    (hname : ∀ i ∈ defines, i.name ≠ name) :
    manager'.m_loggers.lookup name = manager.m_loggers.lookup name := by
  induction defines generalizing manager with
  | nil =>
      cases h
      rfl
  | cons i defines ih =>
      simp only [defineAll] at h
      split at h
      · cases h
      · next manager₁ hdefine =>
          have hrest := ih h fun j hj => hname j (List.mem_cons_of_mem _ hj)
          exact hrest.trans ((define_ok hdefine).2.2 name (hname i List.mem_cons_self).symm)

/-- Every definition is applied, and a later one is about another logger. -/
theorem defineAll_ok (h : defineAll old_value manager defines = .ok manager')
    (hnames : defines.Pairwise fun i j => i.name ≠ j.name) : ∀ i ∈ defines,
      i ∉ old_value.list ∧ ∃ logger, manager'.m_loggers.lookup i.name = some logger ∧ Defined i logger := by
  induction defines generalizing manager with
  | nil => simp
  | cons i defines ih =>
      obtain ⟨hi, hrest⟩ := List.pairwise_cons.mp hnames
      simp only [defineAll] at h
      split at h
      · cases h
      · next manager₁ hdefine =>
          obtain ⟨hmem, ⟨logger, hlookup, hdefined⟩, -⟩ := define_ok hdefine
          rw [List.forall_mem_cons]
          refine ⟨⟨hmem, logger, ?_, hdefined⟩, ih h hrest⟩
          rw [defineAll_unchanged h fun j hj => (hi j hj).symm, hlookup]

theorem defineAll_exists (hmem : ∀ i ∈ defines, i ∉ old_value.list)
    (h : ∀ i ∈ defines, ∀ a ∈ i.appenders, a.type = 1 ∨ a.type = 2) (manager : LoggerManager) :
    ∃ manager', defineAll old_value manager defines = .ok manager' := by
  induction defines generalizing manager with
  | nil => exact ⟨manager, rfl⟩
  | cons i defines ih =>
      obtain ⟨manager₁, hdefine⟩ := define_exists (hmem i List.mem_cons_self) (h i List.mem_cons_self) manager
      simp only [defineAll, hdefine]
      exact ih (fun j hj => hmem j (List.mem_cons_of_mem _ hj)) (fun j hj => h j (List.mem_cons_of_mem _ hj)) manager₁

/-! ## The second loop -/

/-- A logger that is removed. -/
def Removed (logger : Logger) : Prop := logger.m_level = .cast 100 ∧ logger.m_appenders = []

theorem remove_kept (h : i.name = name → ∃ j ∈ new_value.list, j.name = name) (manager : LoggerManager) :
    (remove new_value manager i).m_loggers.lookup name = manager.m_loggers.lookup name := by
  simp only [remove]
  split
  · next hfind =>
      have hne : name ≠ i.name := by
        intro heq
        obtain ⟨j, hj, hjname⟩ := h heq.symm
        exact LogDefines.find_eq_none.mp hfind j hj (hjname.trans heq)
      exact (AList.lookup_insert_ne hne).trans (getLogger_lookup_ne manager hne)
  · rfl

theorem remove_removed (h : ∀ j ∈ new_value.list, j.name ≠ i.name) (manager : LoggerManager) :
    ∃ logger, (remove new_value manager i).m_loggers.lookup i.name = some logger ∧ Removed logger := by
  have hfind := LogDefines.find_eq_none.mpr h
  exact ⟨_, by simp only [remove, hfind]; exact AList.lookup_insert _, rfl, rfl⟩

theorem removeAll_kept (h : ∀ i ∈ defines, i.name = name → ∃ j ∈ new_value.list, j.name = name)
    (manager : LoggerManager) :
    (defines.foldl (remove new_value) manager).m_loggers.lookup name = manager.m_loggers.lookup name := by
  induction defines generalizing manager with
  | nil => rfl
  | cons i defines ih =>
      rw [List.foldl_cons, ih fun j hj => h j (List.mem_cons_of_mem _ hj)]
      exact remove_kept (h i List.mem_cons_self) manager

theorem removeAll_removed (hnames : defines.Pairwise fun i j => i.name ≠ j.name) (manager : LoggerManager) :
    ∀ i ∈ defines, (∀ j ∈ new_value.list, j.name ≠ i.name) → ∃ logger,
      (defines.foldl (remove new_value) manager).m_loggers.lookup i.name = some logger ∧ Removed logger := by
  induction defines generalizing manager with
  | nil => simp
  | cons i defines ih =>
      obtain ⟨hi, hrest⟩ := List.pairwise_cons.mp hnames
      rw [List.forall_mem_cons]
      refine ⟨fun hgone => ?_, ih hrest _⟩
      obtain ⟨logger, hlookup, hremoved⟩ := remove_removed hgone manager
      refine ⟨logger, ?_, hremoved⟩
      rw [List.foldl_cons, removeAll_kept fun j hj heq => absurd heq.symm (hi j hj), hlookup]

/-! ## The listener -/

theorem names_ne (set : LogDefines) : set.list.Pairwise fun i j => i.name ≠ j.name :=
  set.sorted.imp fun h => (LogDefine.less_iff.mp h).ne

/-- What the listener does where it gets through. -/
theorem listener_ok (h : listener old_value new_value manager = .ok manager') :
    (∀ i ∈ new_value.list, i ∉ old_value.list ∧
      ∃ logger, manager'.m_loggers.lookup i.name = some logger ∧ Defined i logger) ∧
    (∀ i ∈ old_value.list, (∀ j ∈ new_value.list, j.name ≠ i.name) →
      ∃ logger, manager'.m_loggers.lookup i.name = some logger ∧ Removed logger) ∧
    ∀ name, (∀ i ∈ new_value.list, i.name ≠ name) → (∀ i ∈ old_value.list, i.name ≠ name) →
      manager'.m_loggers.lookup name = manager.m_loggers.lookup name := by
  obtain ⟨manager₁, hdefine, rfl⟩ := map_ok_inv h
  refine ⟨fun i hi => ?_, removeAll_removed (names_ne old_value) manager₁, fun name hnew hold => ?_⟩
  · obtain ⟨hmem, logger, hlookup, hdefined⟩ := defineAll_ok hdefine (names_ne new_value) i hi
    exact ⟨hmem, logger, (removeAll_kept (fun _ _ _ => ⟨i, hi, rfl⟩) manager₁).trans hlookup, hdefined⟩
  · rw [removeAll_kept (fun j hj heq => absurd heq (hold j hj)), defineAll_unchanged hdefine hnew]

theorem listener_exists (hmem : ∀ i ∈ new_value.list, i ∉ old_value.list)
    (h : ∀ i ∈ new_value.list, ∀ a ∈ i.appenders, a.type = 1 ∨ a.type = 2) (manager : LoggerManager) :
    ∃ manager', listener old_value new_value manager = .ok manager' := by
  obtain ⟨manager₁, hdefine⟩ := defineAll_exists hmem h manager
  exact ⟨_, by rw [listener, hdefine]; rfl⟩

theorem forall_usable {appenders : List LogAppenderDefine} {aps : List LogAppender}
    (h : List.Forall₂ Made appenders aps) : List.Forall₂ Matches appenders aps ↔ ∀ a ∈ appenders, Usable a := by
  induction h with
  | nil => simp
  | cons hmade _ ih => simp [hmade.matches_iff, ih]

/-- A configuration with the loggers `app` and `system`, and one that changes the level of `system`. -/
def appAndSystem (level : LogLevel) : LogDefines where
  list := [⟨"app", .INFO, "", []⟩, ⟨"system", level, "", []⟩]
  sorted := by
    have hlt : "app" < "system" := by decide +kernel
    rw [OrderedSet.Sorted, List.pairwise_pair]
    exact LogDefine.less_iff.mpr hlt

/-- The change meets a null logger at `app`. -/
theorem unchanged_crashes : ¬ ∀ (old_value new_value : LogDefines) (manager : LoggerManager), old_value ≠ new_value →
    ∃ manager', listener old_value new_value manager = .ok manager' ∧ Applied old_value new_value manager manager' := by
  intro h
  have hne : appAndSystem .DEBUG ≠ appAndSystem .ERROR := by
    intro heq
    exact absurd (congrArg LogDefines.list heq) (by decide)
  obtain ⟨manager', hok, -⟩ := h _ _ .new hne
  obtain ⟨hall, -⟩ := listener_ok hok
  exact (hall ⟨"app", .INFO, "", []⟩ List.mem_cons_self).1 List.mem_cons_self

/-- The listener gets through and leaves every logger as the definitions say exactly when no definition is the same in
both sets, and every appender that is defined is of one of the two types with a formatter that is one. -/
theorem listener_iff (old_value new_value : LogDefines) (manager : LoggerManager) :
    (∃ manager', listener old_value new_value manager = .ok manager' ∧
      Applied old_value new_value manager manager') ↔
      (∀ i ∈ new_value.list, i ∉ old_value.list) ∧ ∀ i ∈ new_value.list, ∀ a ∈ i.appenders, Usable a := by
  constructor
  · rintro ⟨manager', hok, happlied⟩
    obtain ⟨hdefined, -, -⟩ := listener_ok hok
    refine ⟨fun i hi => (hdefined i hi).1, fun i hi => ?_⟩
    obtain ⟨hmem, logger, hlookup, -, hmade⟩ := hdefined i hi
    obtain ⟨logger', hlookup', -, hmatches⟩ := happlied.defined i hi hmem
    cases hlookup.symm.trans hlookup'
    exact (forall_usable hmade).mp hmatches
  · rintro ⟨hmem, husable⟩
    obtain ⟨manager', hok⟩ := listener_exists hmem (fun i hi a ha => (husable i hi a ha).1) manager
    obtain ⟨hdefined, hremoved, hkept⟩ := listener_ok hok
    refine ⟨manager', hok, fun i hi _ => ?_, hremoved, fun name hname => ?_⟩
    · obtain ⟨-, logger, hlookup, hlevel, hmade⟩ := hdefined i hi
      exact ⟨logger, hlookup, hlevel, (forall_usable hmade).mpr (husable i hi)⟩
    · refine hkept name (fun i hi heq => ?_) (fun i hi heq => ?_)
      · exact hmem i hi ((hname i heq).mpr hi)
      · exact hmem i ((hname i heq).mp hi) hi

end Mingfwq.LogIniter
