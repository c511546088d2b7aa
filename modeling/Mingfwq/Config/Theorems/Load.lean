import Mingfwq.Config.Load

/-!
# Which variables a document reaches

A name with an upper-case letter is thrown away, with all that is below it, before it would be made lower case.
-/

namespace Mingfwq.Config

open Yaml

variable {emit : Node → String} {datas : ConfigVarMap}

/-! ## Lists of calls -/

section FilterMap

variable {α β : Type} {f g : α → Option β} {l : List α}

theorem length_filterMap_le (h : ∀ a ∈ l, g a = none ∨ g a = f a) :
    (l.filterMap g).length ≤ (l.filterMap f).length := by
  induction l with
  | nil => simp
  | cons a l ih =>
      have hrest := ih fun b hb => h b (List.mem_cons_of_mem _ hb)
      rcases h a List.mem_cons_self with hg | hg
      · rw [List.filterMap_cons_none hg, List.filterMap_cons]
        split
        · exact hrest
        · simp only [List.length_cons]
          omega
      · rw [List.filterMap_cons, List.filterMap_cons, hg]
        split
        · exact hrest
        · simpa using hrest

theorem filterMap_eq_iff (h : ∀ a ∈ l, g a = none ∨ g a = f a) :
    l.filterMap g = l.filterMap f ↔ ∀ a ∈ l, g a = f a := by
  induction l with
  | nil => simp
  | cons a l ih =>
      have hrest : ∀ b ∈ l, g b = none ∨ g b = f b := fun b hb => h b (List.mem_cons_of_mem _ hb)
      rw [List.forall_mem_cons, ← ih hrest]
      by_cases hg : g a = f a
      · simp only [hg, true_and]
        rw [List.filterMap_cons, List.filterMap_cons, hg]
        split
        · rfl
        · simp
      · obtain ⟨b, hb⟩ : ∃ b, f a = some b := by
          refine Option.ne_none_iff_exists'.mp fun hf => hg ?_
          exact ((h a List.mem_cons_self).resolve_right hg).trans hf.symm
        have hnone := (h a List.mem_cons_self).resolve_right hg
        simp only [hg, false_and, iff_false]
        intro heq
        rw [List.filterMap_cons_none hnone, List.filterMap_cons_some hb] at heq
        have hle := length_filterMap_le hrest
        rw [heq, List.length_cons] at hle
        omega

theorem filterMap_eq_iff_of_isSome (h : ∀ a ∈ l, (g a).isSome = (f a).isSome) :
    l.filterMap g = l.filterMap f ↔ ∀ a ∈ l, g a = f a := by
  induction l with
  | nil => simp
  | cons a l ih =>
      have ha := h a List.mem_cons_self
      rw [List.forall_mem_cons, ← ih fun b hb => h b (List.mem_cons_of_mem _ hb), List.filterMap_cons,
        List.filterMap_cons]
      cases hf : f a with
      | none =>
          rw [hf] at ha
          simp [Option.not_isSome_iff_eq_none.mp (by simpa using ha)]
      | some b =>
          rw [hf] at ha
          obtain ⟨c, hc⟩ := Option.isSome_iff_exists.mp ha
          simp [hc]

end FilterMap

/-! ## Names -/

theorem find_first_not_of_eq_none {s alphabet : String} :
    find_first_not_of s alphabet = none ↔ ∀ c ∈ s.toList, c ∈ alphabet.toList := by
  simp [find_first_not_of]

/-- ListAllMember goes on with this name. -/
def listed (name : String) : Bool := find_first_not_of name "abcdefghijklmnopqrstuvwxyz._0123456789" = none

theorem listed_eq_true {name : String} :
    listed name = true ↔ ∀ c ∈ name.toList, c ∈ "abcdefghijklmnopqrstuvwxyz._0123456789".toList := by
  rw [listed, decide_eq_true_eq, find_first_not_of_eq_none]

theorem isEmpty_tolower (s : String) : (tolower s).isEmpty = s.isEmpty := by
  rw [Bool.eq_iff_iff, String.isEmpty_iff, String.isEmpty_iff, tolower, String.map_eq_empty]

theorem tolower_empty : tolower "" = "" := String.map_eq_empty.mpr rfl

theorem toLower_toLower (c : Char) : c.toLower.toLower = c.toLower := by
  by_cases hupper : c.val ≥ 'A'.val ∧ c.val ≤ 'Z'.val
  · have hval : c.toLower.val = c.val + ('a'.val - 'A'.val) := congrArg Char.val (dif_pos hupper)
    refine dif_neg fun hagain => ?_
    simp only [hval, UInt32.le_iff_toNat_le, UInt32.toNat_add, ge_iff_le] at hupper hagain
    have hA : 'A'.val.toNat = 65 := rfl
    have hZ : 'Z'.val.toNat = 90 := rfl
    have hd : ('a'.val - 'A'.val).toNat = 32 := rfl
    omega
  · have hsame : c.toLower = c := dif_neg hupper
    rw [hsame, hsame]

theorem tolower_tolower (s : String) : tolower (tolower s) = tolower s := by
  apply String.toList_injective
  simp only [tolower, String.toList_map, List.map_map]
  exact List.map_congr_left fun c _ => toLower_toLower c

theorem tolower_member (pre key : String) : tolower (member pre key) = member (tolower pre) (tolower key) := by
  rw [member, member, isEmpty_tolower]
  split
  · rfl
  · apply String.toList_injective
    simp only [tolower, String.toList_map, String.toList_append, List.map_append]
    rfl

theorem listed_iff {name : String} (h : tolower name ∈ datas.names) : listed name = true ↔ tolower name = name := by
  have hsmall : ∀ c ∈ "abcdefghijklmnopqrstuvwxyz._0123456789".toList, c.toLower = c := by simp
  have hmore : ∀ c ∈ "abcdefghijklmnopqrstuvwxyz._012345678".toList,
      c ∈ "abcdefghijklmnopqrstuvwxyz._0123456789".toList := by simp
  rw [listed_eq_true]
  constructor
  · intro hlisted
    apply String.toList_injective
    calc (tolower name).toList = name.toList.map Char.toLower := String.toList_map
      _ = name.toList.map id := List.map_congr_left fun c hc => hsmall c (hlisted c hc)
      _ = name.toList := List.map_id _
  · intro heq c hc
    have haccepted := find_first_not_of_eq_none.mp (datas.accepted _ h)
    rw [heq] at haccepted
    exact hmore c (haccepted c hc)

theorem listed_of_member {pre key : String} (h : listed (member pre key) = true) : listed pre = true := by
  rw [listed_eq_true] at h ⊢
  intro c hc
  rw [member] at h
  split at h
  · next hempty =>
      rw [String.isEmpty_iff.mp hempty] at hc
      simp at hc
  · exact h c (by simp [String.toList_append, hc])

/-! ## Members -/

mutual

theorem listed_of_members {pre : String} :
    (node : Node) → ∀ m ∈ members pre node, listed m.1 = true → listed pre = true
  | .null, m, hm, h => by
      simp only [members, List.mem_singleton] at hm
      rwa [hm] at h
  | .scalar _, m, hm, h => by
      simp only [members, List.mem_singleton] at hm
      rwa [hm] at h
  | .sequence _, m, hm, h => by
      simp only [members, List.mem_singleton] at hm
      rwa [hm] at h
  | .map entries, m, hm, h => by
      simp only [members, List.mem_cons] at hm
      rcases hm with rfl | hm
      · exact h
      · exact listed_of_entries entries m hm h

theorem listed_of_entries {pre : String} :
    (entries : List (String × Node)) → ∀ m ∈ entriesMembers pre entries, listed m.1 = true → listed pre = true
  | [], m, hm, _ => by simp [entriesMembers] at hm
  | entry :: entries, m, hm, h => by
      simp only [entriesMembers, List.mem_append] at hm
      rcases hm with hm | hm
      · exact listed_of_entry entry m hm h
      · exact listed_of_entries entries m hm h

theorem listed_of_entry {pre : String} :
    (entry : String × Node) → ∀ m ∈ entryMembers pre entry, listed m.1 = true → listed pre = true
  | (_, node), m, hm, h => listed_of_member (listed_of_members node m (by simpa only [entryMembers] using hm) h)

end

theorem filter_members_nil {pre : String} {l : List (String × Node)} (hpre : listed pre = false)
    (h : ∀ m ∈ l, listed m.1 = true → listed pre = true) : l.filter (fun m => listed m.1) = [] := by
  rw [List.filter_eq_nil_iff]
  intro m hm hlisted
  exact absurd (h m hm hlisted) (by simp [hpre])

mutual

/-- ListAllMember finds the members with a listed name. -/
theorem ListAllMember_eq (pre : String) :
    (node : Node) → ListAllMember pre node = (members pre node).filter fun m => listed m.1
  | .null => by cases h : listed pre <;> simp_all [ListAllMember, members, listed]
  | .scalar _ => by cases h : listed pre <;> simp_all [ListAllMember, members, listed]
  | .sequence _ => by cases h : listed pre <;> simp_all [ListAllMember, members, listed]
  | .map entries => by
      cases h : listed pre with
      | true =>
          rw [ListAllMember, ListAllEntries_eq, members, List.filter_cons, if_pos h,
            if_neg (by simpa [listed] using h)]
      | false =>
          rw [filter_members_nil h (listed_of_members (.map entries)), ListAllMember,
            if_pos (by simpa [listed] using h)]

theorem ListAllEntries_eq (pre : String) : (entries : List (String × Node)) →
    ListAllEntries pre entries = (entriesMembers pre entries).filter fun m => listed m.1
  | [] => by simp [ListAllEntries, entriesMembers]
  | entry :: entries => by
      rw [ListAllEntries, entriesMembers, List.filter_append, ListAllEntry_eq, ListAllEntries_eq]

theorem ListAllEntry_eq (pre : String) : (entry : String × Node) →
    ListAllEntry pre entry = (entryMembers pre entry).filter fun m => listed m.1
  | (key, node) => by rw [ListAllEntry, entryMembers, ListAllMember_eq]

end

mutual

/-- The members of the document in lower case are those of the document. -/
theorem members_lowerKeys (pre : String) : (node : Node) →
    members (tolower pre) node.lowerKeys = (members pre node).map fun m => (tolower m.1, m.2.lowerKeys)
  | .null => by simp [members, Node.lowerKeys]
  | .scalar _ => by simp [members, Node.lowerKeys]
  | .sequence _ => by simp [members, Node.lowerKeys]
  | .map entries => by simp [members, Node.lowerKeys, entriesMembers_lowerKeys pre entries]

theorem entriesMembers_lowerKeys (pre : String) : (entries : List (String × Node)) →
    entriesMembers (tolower pre) (Node.lowerEntries entries) =
      (entriesMembers pre entries).map fun m => (tolower m.1, m.2.lowerKeys)
  | [] => by simp [entriesMembers, Node.lowerEntries]
  | entry :: entries => by
      rw [Node.lowerEntries, entriesMembers, entriesMembers, List.map_append, entryMembers_lowerKeys pre entry,
        entriesMembers_lowerKeys pre entries]

theorem entryMembers_lowerKeys (pre : String) : (entry : String × Node) →
    entryMembers (tolower pre) (Node.lowerEntry entry) =
      (entryMembers pre entry).map fun m => (tolower m.1, m.2.lowerKeys)
  | (key, node) => by
      have hkey : key.map Char.toLower = tolower key := rfl
      rw [Node.lowerEntry, entryMembers, entryMembers, hkey, ← tolower_member, members_lowerKeys]

end

/-! ## Loading -/

/-- The call that is wanted for a member. -/
def call (emit : Node → String) (datas : ConfigVarMap) (m : String × Node) : Option (String × String) :=
  if tolower m.1 ∈ datas.names then some (tolower m.1, text emit m.2) else none

/-- The call that is made. -/
def made (emit : Node → String) (datas : ConfigVarMap) (m : String × Node) : Option (String × String) :=
  if m.1 ≠ "" ∧ tolower m.1 = m.1 then call emit datas m else none

theorem LoadFromYaml_eq (emit : Node → String) (datas : ConfigVarMap) (root : Node) :
    LoadFromYaml emit datas root = (members "" root).filterMap (made emit datas) := by
  rw [LoadFromYaml, ListAllMember_eq, List.filterMap_filter]
  congr 1
  funext m
  by_cases hname : tolower m.1 ∈ datas.names
  · have hlisted := listed_iff hname
    by_cases hempty : m.1 = ""
    · simp [made, hempty]
    · by_cases heq : tolower m.1 = m.1
      · simp [made, call, hempty, heq, hlisted.mpr heq]
      · have hnot : listed m.1 = false := by
          rw [Bool.eq_false_iff]
          exact fun h => heq (hlisted.mp h)
        simp [made, hnot, heq]
  · simp [made, call, hname]

/-- The document in lower case, seen from the members of the document. -/
theorem LoadFromYaml_lowerKeys (emit : Node → String) (datas : ConfigVarMap) (root : Node) :
    LoadFromYaml emit datas root.lowerKeys = (members "" root).filterMap fun m =>
      if m.1 ≠ "" then call emit datas (m.1, m.2.lowerKeys) else none := by
  have hmembers : members "" root.lowerKeys = (members "" root).map fun m => (tolower m.1, m.2.lowerKeys) := by
    rw [← members_lowerKeys, tolower_empty]
  rw [LoadFromYaml_eq, hmembers, List.filterMap_map]
  congr 1
  funext m
  have hempty : tolower m.1 = "" ↔ m.1 = "" := String.map_eq_empty
  simp [made, call, tolower_tolower, hempty]

/-- A variable, and a document that writes its name with a capital letter. -/
def port : ConfigVarMap := ⟨["system.port"], by decide +kernel⟩

def capital : Node := .map [("System", .map [("port", .scalar "8020")])]

theorem capital_lost : ¬ ∀ (emit : Node → String) (datas : ConfigVarMap) (root : Node),
    LoadFromYaml emit datas root = wanted emit datas root ∧
      LoadFromYaml emit datas root.lowerKeys = LoadFromYaml emit datas root := by
  intro h
  exact absurd (h (fun _ => "") port capital).1 (by decide +kernel)

/-- For every document and all variables, LoadFromYaml passes fromString each node whose path is in lower case the name
of a variable, in the order of the document, and does with the document in lower case what it does with the document,
exactly when every such path is non-empty and in lower case already, and every such node reads the same with its keys in
lower case. -/
theorem LoadFromYaml_iff (emit : Node → String) (datas : ConfigVarMap) (root : Node) :
    (LoadFromYaml emit datas root = wanted emit datas root ∧
      LoadFromYaml emit datas root.lowerKeys = LoadFromYaml emit datas root) ↔
      ∀ m ∈ members "" root, tolower m.1 ∈ datas.names →
        m.1 ≠ "" ∧ tolower m.1 = m.1 ∧ text emit m.2.lowerKeys = text emit m.2 := by
  have hmade : LoadFromYaml emit datas root = wanted emit datas root ↔
      ∀ m ∈ members "" root, tolower m.1 ∈ datas.names → m.1 ≠ "" ∧ tolower m.1 = m.1 := by
    have hwanted : wanted emit datas root = (members "" root).filterMap (call emit datas) := rfl
    rw [LoadFromYaml_eq, hwanted, filterMap_eq_iff fun m _ => ?_]
    · refine forall₂_congr fun m _ => ?_
      by_cases hname : tolower m.1 ∈ datas.names
      · simp [made, call, hname]
      · simp [made, call, hname]
    · rw [made]
      split
      · exact .inr rfl
      · exact .inl rfl
  have hlower (h : ∀ m ∈ members "" root, tolower m.1 ∈ datas.names → m.1 ≠ "" ∧ tolower m.1 = m.1) :
      LoadFromYaml emit datas root.lowerKeys = LoadFromYaml emit datas root ↔
        ∀ m ∈ members "" root, tolower m.1 ∈ datas.names → text emit m.2.lowerKeys = text emit m.2 := by
    rw [LoadFromYaml_lowerKeys, LoadFromYaml_eq, filterMap_eq_iff_of_isSome fun m hm => ?_]
    · refine forall₂_congr fun m hm => ?_
      by_cases hname : tolower m.1 ∈ datas.names
      · obtain ⟨hne, heq⟩ := h m hm hname
        rw [heq] at hname
        simp [made, call, hne, heq, hname]
      · simp [made, call, hname]
    · by_cases hname : tolower m.1 ∈ datas.names
      · obtain ⟨hne, heq⟩ := h m hm hname
        rw [heq] at hname
        simp [made, call, hne, heq, hname]
      · simp [made, call, hname]
  rw [hmade]
  constructor
  · rintro ⟨hpaths, hsame⟩ m hm hname
    obtain ⟨hne, heq⟩ := hpaths m hm hname
    exact ⟨hne, heq, (hlower hpaths).mp hsame m hm hname⟩
  · intro h
    have hpaths : ∀ m ∈ members "" root, tolower m.1 ∈ datas.names → m.1 ≠ "" ∧ tolower m.1 = m.1 :=
      fun m hm hname => ⟨(h m hm hname).1, (h m hm hname).2.1⟩
    exact ⟨hpaths, (hlower hpaths).mpr fun m hm hname => (h m hm hname).2.2⟩

end Mingfwq.Config
