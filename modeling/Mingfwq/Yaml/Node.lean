import Mathlib.Data.List.Basic

/-!
# YAML documents

What the repository calls of yaml-cpp, with the laws it relies on, and the tree that `YAML::Load` returns. A map keeps
its entries in the order of the document, and its keys are scalars.
-/

namespace Mingfwq.Yaml

inductive NodeType where
  | Undefined
  | Null
  | Scalar
  | Sequence
  | Map
  deriving DecidableEq, Repr

inductive Exception where
  | BadSubscript
  | BadConversion
  deriving DecidableEq, Repr

/-- A `YAML::Node`, by what is called of it. -/
class Operations (ν : Type) where
  /-- `YAML::Node()` -/
  null : ν
  scalar : String → ν
  type : ν → NodeType
  /-- `node[key]` without an assignment; none is an undefined node. -/
  get? : ν → String → Except Exception (Option ν)
  /-- `node.as<std::string>()` -/
  asString : ν → Except Exception String
  size : ν → Nat
  /-- `node[i]` -/
  item : ν → Nat → ν
  /-- `node[key] = value` -/
  set : ν → String → ν → ν
  /-- `node[key]` that is assigned to or pushed to: a new node where there is none. -/
  child : ν → String → ν
  push_back : ν → ν → ν

open Operations in
/-- An assignment to a key of a map or a new node, and a push to a sequence or a new node, are read back. -/
class Lawful (ν : Type) [Operations ν] : Prop where
  type_null : type (null : ν) = .Null
  get?_null (key : String) : get? (null : ν) key = .ok none
  size_null : size (null : ν) = 0
  asString_scalar (text : String) : asString (scalar text : ν) = .ok text
  type_set {node : ν} (h : type node = .Null ∨ type node = .Map) (key : String) (value : ν) :
    type (set node key value) = .Map
  get?_set {node : ν} (h : type node = .Null ∨ type node = .Map) (key : String) (value : ν) (key' : String) :
    get? (set node key value) key' = if key' = key then .ok (some value) else get? node key'
  type_push_back {node : ν} (h : type node = .Null ∨ type node = .Sequence) (value : ν) :
    type (push_back node value) = .Sequence
  size_push_back {node : ν} (h : type node = .Null ∨ type node = .Sequence) (value : ν) :
    size (push_back node value) = size node + 1
  item_push_back {node : ν} (h : type node = .Null ∨ type node = .Sequence) (value : ν) {i : Nat}
    (hi : i ≤ size node) : item (push_back node value) i = if i = size node then value else item node i

section

variable {ν : Type} [Operations ν]

/-- `node[0]` and so on, up to `node.size()`. -/
def elements (node : ν) : List ν := (List.range (Operations.size node)).map (Operations.item node)

variable [Lawful ν]

theorem elements_null : elements (Operations.null : ν) = [] := by
  rw [elements, Lawful.size_null]
  rfl

theorem elements_push_back {node : ν} (h : Operations.type node = .Null ∨ Operations.type node = .Sequence)
    (value : ν) : elements (Operations.push_back node value) = elements node ++ [value] := by
  rw [elements, elements, Lawful.size_push_back h, List.range_succ, List.map_append, List.map_singleton,
    Lawful.item_push_back h value (Nat.le_refl _), if_pos rfl]
  congr 1
  refine List.map_congr_left fun i hi => ?_
  have hlt := List.mem_range.mp hi
  rw [Lawful.item_push_back h value (Nat.le_of_lt hlt), if_neg (Nat.ne_of_lt hlt)]

end

/-! ## The tree -/

inductive Node where
  | null
  | scalar (text : String)
  | sequence (items : List Node)
  | map (entries : List (String × Node))
  deriving Repr

namespace Node

/-- `Node::IsScalar` and `Node::Scalar`. -/
def scalar? : Node → Option String
  | .scalar text => some text
  | _ => none

/-- The entry of a map under a key. -/
def lookup (entries : List (String × Node)) (key : String) : Option Node :=
  (entries.find? fun entry => entry.1 = key).map Prod.snd

protected def type : Node → NodeType
  | .null => .Null
  | .scalar _ => .Scalar
  | .sequence _ => .Sequence
  | .map _ => .Map

def get? (node : Node) (key : String) : Except Exception (Option Node) :=
  match node with
  | .map entries => .ok (lookup entries key)
  | .scalar _ => .error .BadSubscript
  | _ => .ok none

def asString : Node → Except Exception String
  | .scalar text => .ok text
  | .null => .ok "null"
  | _ => .error .BadConversion

def size : Node → Nat
  | .sequence items => items.length
  | .map entries => entries.length
  | _ => 0

/-- In a map a number is a key; an undefined node is a null one. -/
def item (node : Node) (i : Nat) : Node :=
  match node with
  | .sequence items => items.getD i .null
  | .map entries => ((entries.find? fun entry => entry.1.toNat? = some i).map Prod.snd).getD .null
  | _ => .null

def set (node : Node) (key : String) (value : Node) : Node :=
  match node with
  | .map entries =>
      if (lookup entries key).isSome then
        .map (entries.map fun entry => if entry.1 = key then (key, value) else entry)
      else .map (entries ++ [(key, value)])
  | _ => .map [(key, value)]

def child (node : Node) (key : String) : Node :=
  match node with
  | .map entries => (lookup entries key).getD .null
  | _ => .null

def push_back (node value : Node) : Node :=
  match node with
  | .sequence items => .sequence (items ++ [value])
  | _ => .sequence [value]

instance : Operations Node where
  null := .null
  scalar := .scalar
  type := Node.type
  get? := get?
  asString := asString
  size := size
  item := item
  set := set
  child := child
  push_back := push_back

theorem lookup_replace {entries : List (String × Node)} {key : String} (h : (lookup entries key).isSome) (value : Node)
    (key' : String) :
    lookup (entries.map fun entry => if entry.1 = key then (key, value) else entry) key' =
      if key' = key then some value else lookup entries key' := by
  have hkey : ((fun entry : String × Node => decide (entry.1 = key')) ∘ fun entry =>
      if entry.1 = key then (key, value) else entry) = fun entry => decide (entry.1 = key') := by
    funext entry
    by_cases hentry : entry.1 = key <;> simp [hentry]
  rw [lookup, List.find?_map, hkey, Option.map_map]
  split
  · next heq =>
      subst heq
      rw [lookup, Option.isSome_map] at h
      obtain ⟨entry, hfind⟩ := Option.isSome_iff_exists.mp h
      have hentry := List.find?_some hfind
      simp only [decide_eq_true_eq] at hentry
      simp [hfind, hentry]
  · next hne =>
      rw [lookup]
      cases hfind : entries.find? fun entry => decide (entry.1 = key') with
      | none => rfl
      | some entry =>
          have hentry := List.find?_some hfind
          simp only [decide_eq_true_eq] at hentry
          simp [hentry, hne]

theorem lookup_append {entries : List (String × Node)} {key : String} (h : lookup entries key = none) (value : Node)
    (key' : String) :
    lookup (entries ++ [(key, value)]) key' = if key' = key then some value else lookup entries key' := by
  rw [lookup, List.find?_append]
  split
  · next heq =>
      subst heq
      have hnone : (entries.find? fun entry => decide (entry.1 = key')) = none := by simpa [lookup] using h
      simp [hnone]
  · next hne => simp [lookup, Ne.symm hne]

theorem get?_set (entries : List (String × Node)) (key : String) (value : Node) (key' : String) :
    ((Node.map entries).set key value).get? key' =
      if key' = key then .ok (some value) else .ok (lookup entries key') := by
  rw [set]
  split
  · next h =>
      rw [get?, lookup_replace h]
      split <;> rfl
  · next h =>
      rw [get?, lookup_append (by simpa using h)]
      split <;> rfl

theorem type_set (entries : List (String × Node)) (key : String) (value : Node) :
    ((Node.map entries).set key value).type = .Map := by
  rw [set]
  split <;> rfl

instance : Lawful Node where
  type_null := rfl
  get?_null _ := rfl
  size_null := rfl
  asString_scalar _ := rfl
  type_set {node} h key value := by
    cases node with
    | null => rfl
    | map entries => exact type_set entries key value
    | scalar text => simp [Operations.type, Node.type] at h
    | sequence items => simp [Operations.type, Node.type] at h
  get?_set {node} h key value key' := by
    cases node with
    | null => exact get?_set [] key value key'
    | map entries => exact get?_set entries key value key'
    | scalar text => simp [Operations.type, Node.type] at h
    | sequence items => simp [Operations.type, Node.type] at h
  type_push_back {node} _ _ := by cases node <;> rfl
  size_push_back {node} h value := by
    cases node with
    | null => rfl
    | sequence items => exact List.length_append
    | scalar text => simp [Operations.type, Node.type] at h
    | map entries => simp [Operations.type, Node.type] at h
  item_push_back {node} h value i hi := by
    cases node with
    | null =>
        cases Nat.le_zero.mp hi
        rfl
    | sequence items =>
        change (items ++ [value]).getD i .null = if i = items.length then value else items.getD i .null
        split
        · next heq => simp [heq]
        · next hne => simp [List.getElem?_append_left (Nat.lt_of_le_of_ne hi hne)]
    | scalar text => simp [Operations.type, Node.type] at h
    | map entries => simp [Operations.type, Node.type] at h

mutual

/-- The document with all keys in lower case. -/
def lowerKeys : Node → Node
  | .null => .null
  | .scalar text => .scalar text
  | .sequence items => .sequence (lowerItems items)
  | .map entries => .map (lowerEntries entries)
termination_by structural node => node

def lowerItems : List Node → List Node
  | [] => []
  | node :: items => node.lowerKeys :: lowerItems items
termination_by structural items => items

def lowerEntries : List (String × Node) → List (String × Node)
  | [] => []
  | entry :: entries => lowerEntry entry :: lowerEntries entries
termination_by structural entries => entries

def lowerEntry : String × Node → String × Node
  | (key, node) => (key.map Char.toLower, node.lowerKeys)
termination_by structural entry => entry

end

end Node

end Mingfwq.Yaml
