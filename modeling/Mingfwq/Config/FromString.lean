import Mingfwq.Config.ConfigVar

/-!
# A value from a string (config.h)

The conversion and every listener can throw, and only what derives from `std::exception` is caught.
-/

namespace Mingfwq.ConfigVar

variable {T : Type}

/-- What is thrown: a `std::exception`, or anything else. -/
inductive Thrown where
  | exception
  | other
  deriving DecidableEq, Repr

/-- A listener, by what it throws when it is passed the old value and the new one. -/
abbrev on_change_cb (T : Type) := T → T → Option Thrown

/-- `m_cbs`, a map: its entries are in the order of their keys. -/
structure Cbs (T : Type) where
  entries : List (UInt64 × on_change_cb T)
  ordered : entries.Pairwise (·.1 < ·.1)

namespace Cbs

def clearListener : Cbs T := ⟨[], .nil⟩

def delListener (m_cbs : Cbs T) (key : UInt64) : Cbs T where
  entries := m_cbs.entries.filter (·.1 ≠ key)
  ordered := m_cbs.ordered.filter _

def getListener (m_cbs : Cbs T) (key : UInt64) : Option (on_change_cb T) := m_cbs.entries.lookup key

/-- `m_cbs[key] = cb` -/
def assign (m_cbs : Cbs T) (key : UInt64) (cb : on_change_cb T) : Cbs T where
  entries := m_cbs.entries.filter (·.1 < key) ++ (key, cb) :: m_cbs.entries.filter (key < ·.1)
  ordered := by
    refine List.pairwise_append.mpr ⟨m_cbs.ordered.filter _, List.pairwise_cons.mpr ⟨?_, m_cbs.ordered.filter _⟩, ?_⟩
    · intro entry h
      simpa using (List.mem_filter.mp h).2
    · intro entry h entry' h'
      have hlt : entry.1 < key := by simpa using (List.mem_filter.mp h).2
      rcases List.mem_cons.mp h' with rfl | h'
      · exact hlt
      · exact UInt64.lt_trans hlt (by simpa using (List.mem_filter.mp h').2)

/-- The key, which is `s_fun_id` afterwards. -/
def addListener (m_cbs : Cbs T) (s_fun_id : UInt64) (cb : on_change_cb T) : UInt64 × Cbs T :=
  (s_fun_id + 1, m_cbs.assign (s_fun_id + 1) cb)

end Cbs

/-- A variable with its listeners. -/
structure Var (T : Type) where
  m_val : T
  m_cbs : Cbs T

/-- The calls of the listeners, by their keys: the old value and the new one. -/
abbrev CallList (T : Type) := List (UInt64 × T × T)

/-- `for(auto& i : m_cbs) i.second(m_val, v)`, with what ends the loop early. -/
def callLoop (m_val v : T) : List (UInt64 × on_change_cb T) → CallList T × Option Thrown
  | [] => ([], none)
  | (key, cb) :: rest =>
      match cb m_val v with
      | some e => ([(key, m_val, v)], some e)
      | none =>
          let (calls, e) := callLoop m_val v rest
          ((key, m_val, v) :: calls, e)

section

variable [BEq T]

/-- The value afterwards, the calls, and what is thrown. -/
def Var.setValue (var : Var T) (v : T) : T × CallList T × Option Thrown :=
  if v == var.m_val then (var.m_val, [], none)
  else
    match callLoop var.m_val v var.m_cbs.entries with
    | (calls, some e) => (var.m_val, calls, some e)
    | (calls, none) => (v, calls, none)

/-- `catch(std::exception& e)` and the return behind it. -/
def caught : Thrown → Except Thrown Bool
  | .exception => .ok false
  | .other => .error .other

/-- What comes of a call: what is returned or thrown, the value afterwards, and the calls. -/
structure Result (T : Type) where
  rt : Except Thrown Bool
  m_val : T
  calls : CallList T

def Var.fromString (FromStr : String → Except Thrown T) (var : Var T) (val : String) : Result T :=
  match FromStr val with
  | .error e => ⟨caught e, var.m_val, []⟩
  | .ok v =>
      match var.setValue v with
      | (m_val, calls, some e) => ⟨caught e, m_val, calls⟩
      | (m_val, calls, none) => ⟨.ok false, m_val, calls⟩

end

end Mingfwq.ConfigVar
