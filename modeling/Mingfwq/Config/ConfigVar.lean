import Mathlib.Logic.Function.Basic
import Mathlib.Data.List.Basic
import Mingfwq.Lib.System

/-!
# A configuration variable and its writers (config.h)

`setValue` passes the new value to the listeners under the read lock and stores it under the write lock, and holds
no lock in between.
-/

namespace Mingfwq

open Lib

/-- `m_cbs` by its keys; they are in order. -/
structure ConfigVar (T : Type) where
  m_val : T
  m_cbs : List UInt64
  deriving DecidableEq, Repr

namespace ConfigVar

variable {T : Type} [DecidableEq T]

def getValue (var : ConfigVar T) : T := var.m_val

/-- The calls of every listener, by its key, the last call first: the old value and the new one. -/
abbrev Calls (T : Type) := UInt64 → List (T × T)

/-- `for(auto& i : m_cbs) i.second(m_val, v)` -/
def notify (var : ConfigVar T) (v : T) (calls : Calls T) : Calls T :=
  var.m_cbs.foldl (fun calls key => Function.update calls key ((var.m_val, v) :: calls key)) calls

/-- The section of setValue under the read lock; none where it returns. -/
def setValueNotify (var : ConfigVar T) (v : T) (calls : Calls T) : Option (Calls T) :=
  if v = var.m_val then none else some (var.notify v calls)

/-- The section under the write lock. -/
def setValueAssign (var : ConfigVar T) (v : T) : ConfigVar T := { var with m_val := v }

/-! ## Any number of threads -/

/-- Where a thread is: between the two sections of `setValue(v)`. -/
inductive Pc (T : Type) where
  | out
  | assign (v : T)
  deriving DecidableEq, Repr

/-- The variable and its threads. `changed` is not in the source: some call has changed the value. -/
structure State (T : Type) where
  var : ConfigVar T
  calls : Calls T
  pc : Nat → Pc T
  changed : Bool

inductive Action (T : Type) where
  | notify (t : Nat) (v : T)
  | assign (t : Nat)
  deriving DecidableEq, Repr

def State.init (var : ConfigVar T) : State T where
  var := var
  calls := fun _ => []
  pc := fun _ => .out
  changed := false

def step (s : State T) : Action T → Outcome Empty (State T)
  | .notify t v =>
      match s.pc t with
      | .out =>
          match s.var.setValueNotify v s.calls with
          | none => .next s
          | some calls => .next { s with calls, pc := Function.update s.pc t (.assign v) }
      | .assign _ => .blocked
  | .assign t =>
      match s.pc t with
      | .assign v =>
          .next { s with
            var := s.var.setValueAssign v
            pc := Function.update s.pc t .out
            changed := s.changed || s.var.m_val ≠ v }
      | .out => .blocked

def system (var : ConfigVar T) : System (State T) (Action T) Empty where
  init := .init var
  step := step

end ConfigVar

end Mingfwq
