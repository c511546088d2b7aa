import Mathlib.Data.String.Basic
import Mingfwq.Lib.OrderedSet
import Mingfwq.Log.Logger

/-!
# The configuration of the loggers (log.cpp)
-/

namespace Mingfwq

open Lib

/-- The type 1 is File, 2 is Stdout. -/
structure LogAppenderDefine where
  type : Int
  level : LogLevel
  formatter : String
  file : String
  deriving DecidableEq, Repr

structure LogDefine where
  name : String
  level : LogLevel
  formatter : String
  appenders : List LogAppenderDefine
  deriving DecidableEq, Repr

namespace LogDefine

/-- `operator<`. -/
def less (a b : LogDefine) : Bool := a.name < b.name

theorem less_iff {a b : LogDefine} : a.less b = true ↔ a.name < b.name := decide_eq_true_iff

theorem less_eq_false {a b : LogDefine} : a.less b = false ↔ b.name ≤ a.name := by
  rw [less, decide_eq_false_iff_not, not_lt]

theorem less_weak (a b c : LogDefine) (hab : a.less b = true) (hcb : c.less b = false) : a.less c = true := by
  rw [less_iff] at hab ⊢
  exact lt_of_lt_of_le hab (less_eq_false.mp hcb)

theorem less_trans (a b c : LogDefine) (hab : a.less b = true) (hbc : b.less c = true) : a.less c = true := by
  rw [less_iff] at hab hbc ⊢
  exact hab.trans hbc

end LogDefine

/-- `std::set<LogDefine>`. -/
structure LogDefines where
  list : List LogDefine
  sorted : OrderedSet.Sorted LogDefine.less list

namespace LogDefines

/-- `find`; none is the end. -/
def find (set : LogDefines) (i : LogDefine) : Option LogDefine := set.list[OrderedSet.find LogDefine.less set.list i]?

/-- `find` finds the definition with the name. -/
theorem find_eq_some {set : LogDefines} {i it : LogDefine} :
    set.find i = some it ↔ it ∈ set.list ∧ it.name = i.name := by
  rw [find, OrderedSet.getElem?_find LogDefine.less_weak set.sorted, LogDefine.less_eq_false, LogDefine.less_eq_false,
    and_congr_right_iff]
  exact fun _ => ⟨fun ⟨h₁, h₂⟩ => le_antisymm h₂ h₁, fun h => ⟨h.ge, h.le⟩⟩

theorem find_eq_none {set : LogDefines} {i : LogDefine} : set.find i = none ↔ ∀ it ∈ set.list, it.name ≠ i.name := by
  rw [Option.eq_none_iff_forall_ne_some]
  simp only [ne_eq, find_eq_some, not_and]

def empty : LogDefines := ⟨[], .nil⟩

/-- A definition whose name is there is not inserted. -/
def insert (set : LogDefines) (i : LogDefine) : LogDefines where
  list := (OrderedSet.insert LogDefine.less set.list i).2
  sorted := by
    by_cases h : ∃ e ∈ set.list, e.name = i.name
    · obtain ⟨e, hmem, hname⟩ := h
      rw [OrderedSet.insert_of_equivalent LogDefine.less_weak set.sorted hmem (LogDefine.less_eq_false.mpr hname.ge)
        (LogDefine.less_eq_false.mpr hname.le)]
      exact set.sorted
    · refine OrderedSet.insert_sorted LogDefine.less_trans (fun e he => ?_) set.sorted
      rw [LogDefine.less_iff, LogDefine.less_iff]
      exact lt_or_gt_of_ne fun hname => h ⟨e, he, hname⟩

end LogDefines

namespace LogIniter

inductive Fault where
  | nullLogger
  | nullAppender
  deriving DecidableEq, Repr

/-- `ap`, which is null where the type is none of the two. -/
def newAppender (a : LogAppenderDefine) : Option LogAppender :=
  if a.type = 1 then some (.new (.FileLogAppender a.file))
  else if a.type = 2 then some (.new .StdoutLogAppender)
  else none

/-- The level and the formatter of a definition. -/
def setUp (ap : LogAppender) (a : LogAppenderDefine) : LogAppender :=
  let ap := ap.setLevel a.level
  if a.formatter.isEmpty then ap
  else
    let fmt := LogFormatter.new a.formatter
    if fmt.isError then ap else ap.setFormatter (some fmt)

def addAppenders (logger : Logger) : List LogAppenderDefine → Except Fault Logger
  | [] => .ok logger
  | a :: appenders =>
      match newAppender a with
      | none => .error .nullAppender
      | some ap => addAppenders (logger.addAppender (setUp ap a)) appenders

/-- A round of the first loop. -/
def define (old_value : LogDefines) (manager : LoggerManager) (i : LogDefine) : Except Fault LoggerManager :=
  let (logger, manager) : Option Logger × LoggerManager :=
    match old_value.find i with
    | none => (manager.getLogger i.name).map some id
    | some it => if i ≠ it then (manager.getLogger i.name).map some id else (none, manager)
  match logger with
  | none => .error .nullLogger
  | some logger =>
      let logger := logger.setLevel i.level
      let logger := if i.formatter.isEmpty then logger else logger.setFormatter i.formatter
      (addAppenders logger.clearAppender i.appenders).map (manager.set i.name)

def defineAll (old_value : LogDefines) (manager : LoggerManager) : List LogDefine → Except Fault LoggerManager
  | [] => .ok manager
  | i :: defines =>
      match define old_value manager i with
      | .error fault => .error fault
      | .ok manager => defineAll old_value manager defines

/-- A round of the second loop. -/
def remove (new_value : LogDefines) (manager : LoggerManager) (i : LogDefine) : LoggerManager :=
  match new_value.find i with
  | none =>
      let (logger, manager) := manager.getLogger i.name
      manager.set i.name (logger.setLevel (.cast 100)).clearAppender
  | some _ => manager

/-- The listener of the variable `logs`. -/
def listener (old_value new_value : LogDefines) (manager : LoggerManager) : Except Fault LoggerManager :=
  (defineAll old_value manager new_value.list).map fun manager => old_value.list.foldl (remove new_value) manager

end LogIniter

end Mingfwq
