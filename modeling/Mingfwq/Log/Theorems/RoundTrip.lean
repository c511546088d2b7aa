import Mingfwq.Log.LexicalCast

/-!
# Writing a configuration and reading it back

The formatter is written where there is none, and the appenders stand under a key that is not read.
-/

namespace Mingfwq.LogDefines

open Lib Yaml Operations

section

variable {ν : Type} [Operations ν] [Lawful ν] {n : ν} {key : String} {r : Option ν} {i : LogDefine}

/-! ## One definition -/

theorem type_setIf (hn : type n = .Map) (c : Prop) [Decidable c] (key : String) (value : ν) :
    type (if c then set n key value else n) = .Map := by
  split
  · exact Lawful.type_set (.inr hn) key value
  · exact hn

theorem get?_setIf (hn : type n = .Map) (c : Prop) [Decidable c] (key : String) (value : ν) (key' : String) :
    get? (if c then set n key value else n) key' = if c ∧ key' = key then .ok (some value) else get? n key' := by
  by_cases hc : c
  · rw [if_pos hc, Lawful.get?_set (.inr hn)]
    simp [hc]
  · rw [if_neg hc, if_neg fun h => hc h.1]

theorem get?_appenders (hn : type n = .Map) (hkey : key ≠ "appender") (appenders : List LogAppenderDefine) :
    get? (appenders.foldl pushAppender n) key = get? n key := by
  induction appenders generalizing n with
  | nil => rfl
  | cons a appenders ih =>
      have hpushed : type (pushAppender n a) = .Map := Lawful.type_set (.inr hn) _ _
      rw [List.foldl_cons, ih hpushed, pushAppender, Lawful.get?_set (.inr hn), if_neg hkey]

/-- What is found in a written definition under a key that is read. -/
theorem get?_defineNode (i : LogDefine) (hkey : key ≠ "appender") : get? (defineNode i : ν) key =
    if i.formatter.isEmpty ∧ key = "formatter" then .ok (some (scalar i.formatter))
    else if i.level ≠ .UNKNOW ∧ key = "level" then .ok (some (scalar (LogLevel.ToString i.level)))
    else if key = "name" then .ok (some (scalar i.name))
    else .ok none := by
  have hnull : type (null : ν) = .Null ∨ type (null : ν) = .Map := .inl Lawful.type_null
  have hname : type (set (null : ν) "name" (scalar i.name)) = .Map := Lawful.type_set hnull _ _
  have hlevel := type_setIf hname (i.level ≠ .UNKNOW) "level" (scalar (LogLevel.ToString i.level))
  have hformatter := type_setIf hlevel (i.formatter.isEmpty = true) "formatter" (scalar i.formatter)
  rw [defineNode, get?_appenders hformatter hkey, get?_setIf hlevel, get?_setIf hname, Lawful.get?_set hnull,
    Lawful.get?_null]

theorem FromString_ToString {level : LogLevel} (h : level.IsKnown) :
    LogLevel.FromString (if level ≠ .UNKNOW then LogLevel.ToString level else "") = level := by
  cases level with
  | cast value => exact h.elim
  | _ => decide

/-- What is read of what is written. -/
def kept (i : LogDefine) : LogDefine := { i with formatter := "", appenders := [] }

theorem field_some {text default : String} (h : get? n key = .ok (some (scalar text))) :
    field n key default = .ok text := by
  rw [field, h]
  exact Lawful.asString_scalar text

omit [Lawful ν] in
theorem field_none {default : String} (h : get? n key = .ok none) : field n key default = .ok default := by
  rw [field, h]
  rfl

theorem readDefine_defineNode (h : i.level.IsKnown) : readDefine (defineNode i : ν) = .ok (some (kept i)) := by
  have hname : get? (defineNode i : ν) "name" = .ok (some (scalar i.name)) := by
    rw [get?_defineNode i (by decide)]
    simp
  have hlevel : field (defineNode i : ν) "level" "" =
      .ok (if i.level ≠ .UNKNOW then LogLevel.ToString i.level else "") := by
    split
    · next hknown =>
        apply field_some
        rw [get?_defineNode i (by decide)]
        simp [hknown]
    · next hunknown =>
        apply field_none
        rw [get?_defineNode i (by decide)]
        simp [hunknown]
  have hformatter : field (defineNode i : ν) "formatter" "" = .ok "" := by
    by_cases hempty : i.formatter.isEmpty
    · apply field_some
      rw [get?_defineNode i (by decide), if_pos ⟨hempty, rfl⟩, String.isEmpty_iff.mp hempty]
    · apply field_none
      rw [get?_defineNode i (by decide)]
      simp [hempty]
  have happenders : get? (defineNode i : ν) "appenders" = .ok none := by
    rw [get?_defineNode i (by decide)]
    simp
  have hread : readDefine (defineNode i : ν) = .ok (some ⟨i.name,
      LogLevel.FromString (if i.level ≠ .UNKNOW then LogLevel.ToString i.level else ""), "", []⟩) := by
    simp only [readDefine, hname, hlevel, hformatter, happenders, Bind.bind, Except.bind, Lawful.asString_scalar]
    rfl
  rw [hread, FromString_ToString h]
  rfl

/-! ## The set -/

theorem elements_foldl (hn : type n = .Null ∨ type n = .Sequence) (l : List LogDefine) :
    elements (l.foldl (fun node i => push_back node (defineNode i)) n) = elements n ++ l.map defineNode := by
  induction l generalizing n with
  | nil => simp
  | cons i l ih =>
      rw [List.foldl_cons, ih (.inr (Lawful.type_push_back hn _)), elements_push_back hn, List.append_assoc,
        List.singleton_append, List.map_cons]

theorem elements_toNode (v : LogDefines) : elements (v.toNode : ν) = v.list.map defineNode := by
  rw [toNode, elements_foldl (.inl Lawful.type_null), elements_null, List.nil_append]

/-- Definitions that come in order are read one behind the other. -/
theorem readDefines_map {l : List LogDefine} (hlevel : ∀ i ∈ l, i.level.IsKnown)
    (hsorted : OrderedSet.Sorted LogDefine.less l) (vec : LogDefines)
    (hvec : ∀ e ∈ vec.list, ∀ i ∈ l, e.less i = true) :
    ∃ w, readDefines vec (l.map (defineNode : LogDefine → ν)) = .ok w ∧ w.list = vec.list ++ l.map kept := by
  induction l generalizing vec with
  | nil => exact ⟨vec, rfl, (List.append_nil _).symm⟩
  | cons i l ih =>
      obtain ⟨hi, hrest⟩ := List.pairwise_cons.mp hsorted
      obtain ⟨hilevel, hlevels⟩ := List.forall_mem_cons.mp hlevel
      have hinsert : (vec.insert (kept i)).list = vec.list ++ [kept i] :=
        OrderedSet.insert_back fun e he => hvec e he i List.mem_cons_self
      obtain ⟨w, hread, hlist⟩ := ih hlevels hrest (vec.insert (kept i)) (fun e he j hj => by
        rw [hinsert, List.mem_append, List.mem_singleton] at he
        rcases he with he | rfl
        · exact hvec e he j (List.mem_cons_of_mem _ hj)
        · exact hi j hj)
      refine ⟨w, ?_, ?_⟩
      · rw [List.map_cons, readDefines, readDefine_defineNode hilevel]
        exact hread
      · rw [hlist, hinsert, List.append_assoc, List.singleton_append, List.map_cons]

end

theorem eq_of_list {v w : LogDefines} (h : v.list = w.list) : v = w := by
  cases v
  cases w
  congr

/-- One logger, with a formatter or without. -/
def systemOnly (formatter : String) : LogDefines where
  list := [⟨"system", .DEBUG, formatter, []⟩]
  sorted := List.pairwise_singleton ..

/-- What is printed for a logger, and how it is read. -/
def emitted (document : String) (_ : Node) : String := document

def loaded (document : String) (node : Node) (text : String) : Node := if text = document then node else .null

/-- A logger with a formatter is read without it. -/
theorem formatter_lost : ¬ ∀ (load : String → Node) (emit : Node → String) (v : LogDefines),
    load (emit v.toNode) = v.toNode →
    (∀ i ∈ v.list, i.name ≠ "" ∧ i.level.IsKnown ∧ ∀ a ∈ i.appenders,
      a.level.IsKnown ∧ (a.type = 1 ∧ a.file ≠ "" ∨ a.type = 2)) → fromString load (v.toString emit) = .ok v := by
  intro h
  have hread := h (loaded "- name: system\n  level: DEBUG" (systemOnly "%d%T%m%n").toNode)
    (emitted "- name: system\n  level: DEBUG") (systemOnly "%d%T%m%n") rfl (by simp [systemOnly, LogLevel.IsKnown])
  have hlist : [(⟨"system", .DEBUG, "", []⟩ : LogDefine)] = [⟨"system", .DEBUG, "%d%T%m%n", []⟩] :=
    congrArg LogDefines.list (Except.ok.inj hread)
  exact absurd hlist (by decide)

/-- A set is read back from the document that is written of it exactly when no logger in it has a formatter or an
appender. -/
theorem fromString_toString_iff {ν : Type} [Operations ν] [Lawful ν] {load : String → ν} {emit : ν → String}
    {v : LogDefines} (hload : load (emit v.toNode) = v.toNode) (hlevel : ∀ i ∈ v.list, i.level.IsKnown) :
    fromString load (v.toString emit) = .ok v ↔ ∀ i ∈ v.list, i.formatter = "" ∧ i.appenders = [] := by
  obtain ⟨w, hread, hlist⟩ : ∃ w, readDefines .empty (v.list.map (defineNode : LogDefine → ν)) = .ok w ∧
      w.list = LogDefines.empty.list ++ v.list.map kept :=
    readDefines_map hlevel v.sorted .empty (fun e he => absurd he List.not_mem_nil)
  have hfrom : fromString load (v.toString emit) = .ok w := by
    rw [fromString, toString, hload, elements_toNode, hread]
  have hsame : w = v ↔ v.list.map kept = v.list := by
    rw [← show w.list = v.list.map kept from hlist]
    exact ⟨congrArg list, eq_of_list⟩
  rw [hfrom, Except.ok.injEq, hsame, ← List.map_id v.list, List.map_map, List.map_inj_left]
  simp only [List.map_id]
  refine forall₂_congr fun i _ => ?_
  obtain ⟨name, level, formatter, appenders⟩ := i
  simp only [kept, Function.comp, id, LogDefine.mk.injEq, true_and]
  exact and_congr eq_comm eq_comm

/-- A logger with a level is read back. -/
theorem fromString_toString_system :
    fromString (loaded "- name: system\n  level: DEBUG\n  formatter: \"\"" (systemOnly "").toNode)
      ((systemOnly "").toString (emitted "- name: system\n  level: DEBUG\n  formatter: \"\"")) =
        .ok (systemOnly "") :=
  (fromString_toString_iff rfl (by simp [systemOnly, LogLevel.IsKnown])).mpr (by simp [systemOnly])

end Mingfwq.LogDefines
