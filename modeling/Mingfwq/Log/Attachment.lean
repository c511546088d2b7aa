import Mathlib.Logic.Function.Basic
import Mingfwq.Lib.System
import Mingfwq.Log.Logger

/-!
# Appenders and the loggers they are attached to (log.cpp)

A `LogAppender::ptr` is the address of an appender, which the caller can keep: here the appenders stand at their
addresses and a logger has the addresses of its own. An object that no call has touched is as its constructor leaves it.
-/

namespace Mingfwq

open Lib

namespace LogLevel

def toInt : LogLevel → Int
  | .UNKNOW => 0
  | .DEBUG => 1
  | .INFO => 2
  | .WARN => 3
  | .ERROR => 4
  | .FATAL => 5
  | .cast value => value

end LogLevel

namespace Attachment

/-- A `Logger` with pointers to its appenders and to the root logger, which the manager gives it; the root itself has
none. -/
structure LoggerPtrs where
  m_name : String
  m_level : LogLevel
  m_appenders : List Nat
  m_formatter : Option LogFormatter
  m_root : Option Nat
  deriving DecidableEq, Repr

/-- `owner` and `own` are not in the source: the logger an appender is attached to, and the formatter that was last set
on the appender itself. -/
structure State where
  appenders : Nat → LogAppender
  loggers : Nat → LoggerPtrs
  owner : Nat → Option Nat
  own : Nat → Option LogFormatter

inductive Action where
  | addAppender (l a : Nat)
  | delAppender (l a : Nat)
  | clearAppender (l : Nat)
  | setFormatter (l : Nat) (val : Option LogFormatter)
  | setPattern (l : Nat) (val : String)
  | setAppenderFormatter (a : Nat) (val : Option LogFormatter)

namespace State

/-- Each appender is of its class, each logger has its name and its root. -/
def init (class_ : Nat → LogAppenderClass) (name : Nat → String) (root : Nat → Option Nat) : State where
  appenders := fun a => .new (class_ a)
  loggers := fun l => ⟨name l, (Logger.new (name l)).m_level, [], (Logger.new (name l)).m_formatter, root l⟩
  owner := fun _ => none
  own := fun _ => none

/-- The logger with its appenders as they are now. -/
def view (s : State) (l : Nat) : Logger where
  m_name := (s.loggers l).m_name
  m_level := (s.loggers l).m_level
  m_appenders := (s.loggers l).m_appenders.map s.appenders
  m_formatter := (s.loggers l).m_formatter

def setLogger (s : State) (l : Nat) (logger : LoggerPtrs) : State :=
  { s with loggers := Function.update s.loggers l logger }

def addAppender (s : State) (l a : Nat) : State :=
  let logger := s.loggers l
  let appender := s.appenders a
  { s.setLogger l { logger with m_appenders := logger.m_appenders ++ [a] } with
    appenders := Function.update s.appenders a
      (if appender.getFormatter.isNone then { appender with m_formatter := logger.m_formatter } else appender)
    owner := Function.update s.owner a (some l) }

/-- What is left of the appenders of a logger. -/
def keepAppenders (s : State) (l : Nat) (as : List Nat) : State :=
  { s.setLogger l { s.loggers l with m_appenders := as } with
    owner := fun a => if a ∈ (s.loggers l).m_appenders ∧ a ∉ as then none else s.owner a }

def delAppender (s : State) (l a : Nat) : State := s.keepAppenders l ((s.loggers l).m_appenders.erase a)

def clearAppender (s : State) (l : Nat) : State := s.keepAppenders l []

/-- The appenders that have no formatter of their own follow. -/
def setFormatter (s : State) (l : Nat) (val : Option LogFormatter) : State :=
  { s.setLogger l { s.loggers l with m_formatter := val } with
    appenders := fun a =>
      if a ∈ (s.loggers l).m_appenders ∧ ¬(s.appenders a).m_hasFormatter then { s.appenders a with m_formatter := val }
      else s.appenders a }

def setPattern (s : State) (l : Nat) (val : String) : State :=
  let new_val := LogFormatter.new val
  if new_val.isError then s else s.setFormatter l (some new_val)

def setAppenderFormatter (s : State) (a : Nat) (val : Option LogFormatter) : State :=
  { s with
    appenders := Function.update s.appenders a ((s.appenders a).setFormatter val)
    own := Function.update s.own a val }

/-- The formatters of the appenders of a logger that take the level, if it takes it itself; none where a null pointer is
followed. -/
def logAppenders (s : State) (l : Nat) (level : LogLevel) : Option (List LogFormatter) :=
  if level.toInt ≥ (s.loggers l).m_level.toInt then
    (((s.loggers l).m_appenders.map s.appenders).filter fun i => level.toInt ≥ i.m_level.toInt).mapM
      LogAppender.m_formatter
  else some []

/-- The formatters that Logger::log formats an event with. A logger without appenders hands the event to the root. -/
def log (s : State) (l : Nat) (level : LogLevel) : Option (List LogFormatter) :=
  if level.toInt ≥ (s.loggers l).m_level.toInt ∧ (s.loggers l).m_appenders = [] then
    match (s.loggers l).m_root with
    | some root => s.logAppenders root level
    | none => some []
  else s.logAppenders l level

end State

/-- An appender is not attached to a second logger. -/
def step (s : State) : Action → Outcome Empty State
  | .addAppender l a => if s.owner a = none ∨ s.owner a = some l then .next (s.addAppender l a) else .blocked
  | .delAppender l a => .next (s.delAppender l a)
  | .clearAppender l => .next (s.clearAppender l)
  | .setFormatter l val => .next (s.setFormatter l val)
  | .setPattern l val => .next (s.setPattern l val)
  | .setAppenderFormatter a val => .next (s.setAppenderFormatter a val)

def system (class_ : Nat → LogAppenderClass) (name : Nat → String) (root : Nat → Option Nat) :
    System State Action Empty where
  init := .init class_ name root
  step := step

end Attachment

end Mingfwq
