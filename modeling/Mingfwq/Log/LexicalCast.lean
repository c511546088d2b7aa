import Mingfwq.Log.LogDefine
import Mingfwq.Yaml.Node

/-!
# The configuration of the loggers as a document (log.cpp)

`load` is `YAML::Load`, and `emit` prints a node.
-/

namespace Mingfwq.LogDefines

open Yaml Operations

section

variable {ν : Type} [Operations ν]

/-! ## Reading -/

/-- A field that is a string, or what there is without it. -/
def field (n : ν) (key default : String) : Except Exception String := do
  match ← get? n key with
  | some value => asString value
  | none => pure default

/-- None where an appender is left out. -/
def readAppender (a : ν) : Except Exception (Option LogAppenderDefine) := do
  match ← get? a "type" with
  | none => pure none
  | some type =>
      let type ← asString type
      if type = "FileLogAppender" then
        match ← get? a "file" with
        | none => pure none
        | some file =>
            let file ← asString file
            let formatter ← field a "formatter" ""
            pure (some ⟨1, .UNKNOW, formatter, file⟩)
      else if type = "StdoutLogAppender" then pure (some ⟨2, .UNKNOW, "", ""⟩)
      else pure none

def readAppenders : List ν → Except Exception (List LogAppenderDefine)
  | [] => pure []
  | a :: rest => do
      let lad ← readAppender a
      let appenders ← readAppenders rest
      pure (lad.toList ++ appenders)

/-- None where a logger is left out. -/
def readDefine (n : ν) : Except Exception (Option LogDefine) := do
  match ← get? n "name" with
  | none => pure none
  | some name =>
      let name ← asString name
      let level ← field n "level" ""
      let formatter ← field n "formatter" ""
      match ← get? n "appenders" with
      | none => pure (some ⟨name, LogLevel.FromString level, formatter, []⟩)
      | some nodes =>
          let appenders ← readAppenders (elements nodes)
          pure (some ⟨name, LogLevel.FromString level, formatter, appenders⟩)

def readDefines (vec : LogDefines) : List ν → Except Exception LogDefines
  | [] => pure vec
  | n :: rest => do
      match ← readDefine n with
      | none => readDefines vec rest
      | some ld => readDefines (vec.insert ld) rest

/-- `LexicalCast<std::string, std::set<LogDefine>>`. -/
def fromString (load : String → ν) (v : String) : Except Exception LogDefines :=
  readDefines .empty (elements (load v))

/-! ## Writing -/

def appenderNode (a : LogAppenderDefine) : ν :=
  let na : ν := null
  let na :=
    if a.type = 1 then set (set na "type" (scalar "FileLogAppender")) "file" (scalar a.file)
    else if a.type = 1 then set na "type" (scalar "StdoutLogAppender")
    else na
  let na := if a.level ≠ .UNKNOW then set na "level" (scalar (LogLevel.ToString a.level)) else na
  if !a.formatter.isEmpty then set na "formatter" (scalar a.formatter) else na

/-- `n["appender"].push_back(na)` -/
def pushAppender (n : ν) (a : LogAppenderDefine) : ν :=
  set n "appender" (push_back (child n "appender") (appenderNode a))

def defineNode (i : LogDefine) : ν :=
  let n : ν := set null "name" (scalar i.name)
  let n := if i.level ≠ .UNKNOW then set n "level" (scalar (LogLevel.ToString i.level)) else n
  let n := if i.formatter.isEmpty then set n "formatter" (scalar i.formatter) else n
  i.appenders.foldl pushAppender n

def toNode (v : LogDefines) : ν := v.list.foldl (fun node i => push_back node (defineNode i)) null

/-- `LexicalCast<std::set<LogDefine>, std::string>`. -/
def toString (emit : ν → String) (v : LogDefines) : String := emit v.toNode

end

end Mingfwq.LogDefines
