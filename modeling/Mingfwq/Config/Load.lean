import Mingfwq.Yaml.Node

/-!
# Loading the variables (config.h, config.cpp)

A call of fromString is the name of the variable with the text it is passed.
-/

namespace Mingfwq.Config

open Yaml

/-- `std::string::find_first_not_of`; none is npos. -/
def find_first_not_of (s alphabet : String) : Option Nat :=
  s.toList.findIdx? (!alphabet.toList.contains ·)

def tolower (s : String) : String := s.map Char.toLower

/-- The names of the variables; Lookup lets no other in. -/
structure ConfigVarMap where
  names : List String
  accepted : ∀ name ∈ names, find_first_not_of name "abcdefghijklmnopqrstuvwxyz._012345678" = none

namespace ConfigVarMap

def empty : ConfigVarMap where
  names := []
  accepted := fun _ h => absurd h List.not_mem_nil

/-- Lookup with a default value throws where the name is invalid. -/
def Lookup (datas : ConfigVarMap) (name : String) : Except String ConfigVarMap :=
  if name ∈ datas.names then .ok datas
  else if h : find_first_not_of name "abcdefghijklmnopqrstuvwxyz._012345678" = none then
    .ok ⟨name :: datas.names, List.forall_mem_cons.mpr ⟨h, datas.accepted⟩⟩
  else .error name

end ConfigVarMap

/-- The name of the member `key` of what is called `pre`. -/
def member (pre key : String) : String := if pre.isEmpty then key else pre ++ "." ++ key

mutual

def ListAllMember (pre : String) : Node → List (String × Node)
  | .map entries =>
      if find_first_not_of pre "abcdefghijklmnopqrstuvwxyz._0123456789" ≠ none then []
      else (pre, .map entries) :: ListAllEntries pre entries
  | node =>
      if find_first_not_of pre "abcdefghijklmnopqrstuvwxyz._0123456789" ≠ none then [] else [(pre, node)]
termination_by structural node => node

def ListAllEntries (pre : String) : List (String × Node) → List (String × Node)
  | [] => []
  | entry :: entries => ListAllEntry pre entry ++ ListAllEntries pre entries
termination_by structural entries => entries

def ListAllEntry (pre : String) : String × Node → List (String × Node)
  | (key, node) => ListAllMember (member pre key) node
termination_by structural entry => entry

end

/-- What fromString is passed; `emit` is the text a node is printed as. -/
def text (emit : Node → String) (node : Node) : String := node.scalar?.getD (emit node)

/-- The calls of fromString, in the order in which they are made. -/
def LoadFromYaml (emit : Node → String) (datas : ConfigVarMap) (root : Node) : List (String × String) :=
  (ListAllMember "" root).filterMap fun (pre, node) =>
    if pre.isEmpty then none
    else
      let key := tolower pre
      if key ∈ datas.names then some (key, text emit node) else none

/-! ## What is to be loaded -/

mutual

/-- All nodes with their paths, from top to bottom. -/
def members (pre : String) : Node → List (String × Node)
  | .map entries => (pre, .map entries) :: entriesMembers pre entries
  | node => [(pre, node)]
termination_by structural node => node

def entriesMembers (pre : String) : List (String × Node) → List (String × Node)
  | [] => []
  | entry :: entries => entryMembers pre entry ++ entriesMembers pre entries
termination_by structural entries => entries

def entryMembers (pre : String) : String × Node → List (String × Node)
  | (key, node) => members (member pre key) node
termination_by structural entry => entry

end

/-- One call for each node whose path, in lower case, is the name of a variable. -/
def wanted (emit : Node → String) (datas : ConfigVarMap) (root : Node) : List (String × String) :=
  (members "" root).filterMap fun (path, node) =>
    if tolower path ∈ datas.names then some (tolower path, text emit node) else none

end Mingfwq.Config
