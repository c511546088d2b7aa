import Mathlib.Data.List.AList
import Mingfwq.Log.Formatter

/-!
# Loggers (log.h, log.cpp)

An appender belongs to one logger, and a name to one logger. The streams of the appenders are left out.
-/

namespace Mingfwq

/-- `cast` is a value that is not one of the enumerators. -/
inductive LogLevel where
  | UNKNOW
  | DEBUG
  | INFO
  | WARN
  | ERROR
  | FATAL
  | cast (value : Int)
  deriving DecidableEq, Repr

namespace LogLevel

def ToString : LogLevel → String
  | .DEBUG => "DEBUG"
  | .INFO => "INFO"
  | .WARN => "WARN"
  | .ERROR => "ERROR"
  | .FATAL => "FATAL"
  | _ => "UNKOWN"

def FromString (str : String) : LogLevel :=
  if str = "debug" then .DEBUG
  else if str = "info" then .INFO
  else if str = "warn" then .WARN
  else if str = "error" then .ERROR
  else if str = "fatal" then .FATAL
  else if str = "DEBUG" then .DEBUG
  else if str = "INFO" then .INFO
  else if str = "WARN" then .WARN
  else if str = "ERROR" then .ERROR
  else if str = "FATAL" then .FATAL
  else .UNKNOW

/-- One of the enumerators. -/
def IsKnown : LogLevel → Prop
  | .cast _ => False
  | _ => True

end LogLevel

/-- The two classes of appenders. -/
inductive LogAppenderClass where
  | FileLogAppender (m_filename : String)
  | StdoutLogAppender
  deriving DecidableEq, Repr

structure LogAppender where
  class_ : LogAppenderClass
  m_level : LogLevel
  m_hasFormatter : Bool
  m_formatter : Option LogFormatter
  deriving DecidableEq, Repr

namespace LogAppender

def new (class_ : LogAppenderClass) : LogAppender where
  class_ := class_
  m_level := .DEBUG
  m_hasFormatter := false
  m_formatter := none

def setLevel (ap : LogAppender) (val : LogLevel) : LogAppender := { ap with m_level := val }

def setFormatter (ap : LogAppender) (val : Option LogFormatter) : LogAppender :=
  { ap with
    m_formatter := val
    m_hasFormatter := val.isSome }

def getFormatter (ap : LogAppender) : Option LogFormatter := ap.m_formatter

end LogAppender

structure Logger where
  m_name : String
  m_level : LogLevel
  m_appenders : List LogAppender
  m_formatter : Option LogFormatter
  deriving DecidableEq, Repr

namespace Logger

def new (name : String) : Logger where
  m_name := name
  m_level := .DEBUG
  m_appenders := []
  m_formatter := some (.new "%d{%Y-%m-%d %H:%M:%S}%T%t%T%N%T%F%T[%p]%T[%c]%T%f:%l%T%m%n")

def setLevel (logger : Logger) (val : LogLevel) : Logger := { logger with m_level := val }

/-- The appenders that have no formatter of their own follow. -/
def setFormatterPtr (logger : Logger) (val : Option LogFormatter) : Logger :=
  { logger with
    m_formatter := val
    m_appenders := logger.m_appenders.map fun i => if i.m_hasFormatter then i else { i with m_formatter := val } }

def setFormatter (logger : Logger) (val : String) : Logger :=
  let new_val := LogFormatter.new val
  if new_val.isError then logger else logger.setFormatterPtr (some new_val)

def addAppender (logger : Logger) (appender : LogAppender) : Logger :=
  let appender := if appender.getFormatter.isNone then { appender with m_formatter := logger.m_formatter } else appender
  { logger with m_appenders := logger.m_appenders ++ [appender] }

def clearAppender (logger : Logger) : Logger := { logger with m_appenders := [] }

end Logger

structure LoggerManager where
  m_loggers : AList fun _ : String => Logger

namespace LoggerManager

/-- The root logger, with which the manager begins. -/
def new : LoggerManager where
  m_loggers := AList.singleton "root" ((Logger.new "root").addAppender (.new .StdoutLogAppender))

def getLogger (manager : LoggerManager) (name : String) : Logger × LoggerManager :=
  match manager.m_loggers.lookup name with
  | some logger => (logger, manager)
  | none => (.new name, ⟨manager.m_loggers.insert name (.new name)⟩)

/-- What the methods of a logger do to the one the manager has. -/
def set (manager : LoggerManager) (name : String) (logger : Logger) : LoggerManager :=
  ⟨manager.m_loggers.insert name logger⟩

end LoggerManager

end Mingfwq
