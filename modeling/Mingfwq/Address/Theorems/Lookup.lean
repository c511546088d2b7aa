import Mingfwq.Address.Lookup
import Mingfwq.Lib.Joined

/-!
# Which node and service are looked up

The search for a colon leaves its result in `service` when there is a second one, though `node` is the whole host then.
-/

namespace Mingfwq.Address

open Lib

variable {host pre post n s x rest : List UInt8} {c : UInt8} {start len : Nat}

/-! ## Searching -/

theorem idxOf?_first (h : c ∉ pre) : (pre ++ c :: post).idxOf? c = some pre.length := by
  induction pre with
  | nil => simp [List.idxOf?_cons]
  | cons d pre ih =>
      rw [List.mem_cons, not_or] at h
      rw [List.cons_append, List.idxOf?_cons, if_neg (by simpa using Ne.symm h.1), ih h.2]
      rfl

theorem memchr_host (hlen : start + len ≤ host.length) :
    memchr (host ++ [0]) start c len = some ((((host.drop start).take len).idxOf? c).map (start + ·)) := by
  have hdrop : ((host ++ [0]).drop start).take len = (host.drop start).take len := by
    rw [List.drop_append_of_le_length (by omega), List.take_append_of_le_length (by rw [List.length_drop]; omega)]
  rw [memchr, if_pos (by rw [List.length_append]; omega), hdrop]

theorem drop_length_succ : (pre ++ c :: post).drop (pre.length + 1) = post := by
  rw [List.drop_append, List.drop_of_length_le (Nat.le_succ _), List.nil_append, Nat.add_sub_cancel_left]
  rfl

/-! ## The two phases -/

theorem lookupBrackets_closed (h : 93 ∉ x) :
    lookupBrackets (91 :: (x ++ 93 :: rest)) =
      some (x, if rest.head? = some 58 then some (x.length + 3) else none) := by
  have hlen : 1 + ((91 :: (x ++ 93 :: rest)).length - 1) = (91 :: (x ++ 93 :: rest)).length := by
    rw [List.length_cons]
    omega
  have hclose : memchr ((91 :: (x ++ 93 :: rest)) ++ [0]) 1 93 ((91 :: (x ++ 93 :: rest)).length - 1) =
      some (some (1 + x.length)) := by
    rw [memchr_host (Nat.le_of_eq hlen), List.length_cons, Nat.add_sub_cancel, List.drop_succ_cons, List.drop_zero,
      List.take_length, idxOf?_first h]
    rfl
  have hbehind : ((91 :: (x ++ 93 :: rest)) ++ [0])[1 + x.length + 1]? = some (rest.head?.getD 0) := by
    have hshape : (91 :: (x ++ 93 :: rest)) ++ [0] = ((91 :: x) ++ [93]) ++ (rest ++ [0]) := by simp
    have hlength : 1 + x.length + 1 = ((91 :: x) ++ [93]).length := by simp; omega
    rw [hshape, hlength, List.getElem?_append_right (Nat.le_refl _), Nat.sub_self]
    cases rest <;> rfl
  have hnode : substr (91 :: (x ++ 93 :: rest)) 1 (1 + x.length - 1) = x := by
    rw [substr, Nat.add_sub_cancel_left, List.drop_succ_cons, List.drop_zero, List.take_left]
  have hcolon : rest.head?.getD 0 = 58 ↔ rest.head? = some 58 := by
    cases rest <;> simp
  rw [lookupBrackets, List.head?_cons, if_pos rfl, hclose, Option.bind_some]
  have hlength : 1 + x.length + 2 = x.length + 3 := by omega
  simp only [hbehind, Option.map_some, hnode, hcolon, hlength]

theorem lookupBrackets_open (h : host.head? = some 91 → 93 ∉ host.tail) : lookupBrackets host = some ([], none) := by
  rw [lookupBrackets]
  split
  · next hopen =>
      obtain ⟨t, rfl⟩ : ∃ t, host = 91 :: t := by
        cases host with
        | nil => cases hopen
        | cons c t =>
            cases hopen
            exact ⟨t, rfl⟩
      have hnone : memchr ((91 :: t) ++ [0]) 1 93 ((91 :: t).length - 1) = some none := by
        have hmiss : 93 ∉ t := h rfl
        rw [memchr_host (by rw [List.length_cons]; omega), List.length_cons, Nat.add_sub_cancel, List.drop_succ_cons,
          List.drop_zero, List.take_length, List.idxOf?_eq_none_iff.mpr hmiss]
        rfl
      rw [hnone, Option.bind_some]
  · rfl

theorem lookupService_none {service : Option Nat} (h : 58 ∉ host) :
    lookupService host [] service = some ([], none) := by
  have hnone : memchr (host ++ [0]) 0 58 host.length = some none := by
    rw [memchr_host (by omega), List.drop_zero, List.take_length, List.idxOf?_eq_none_iff.mpr h]
    rfl
  rw [lookupService, if_pos rfl, hnone, Option.bind_some]

theorem lookupService_some {service : Option Nat} (hn : 58 ∉ n) :
    lookupService (n ++ 58 :: s) [] service =
      if 58 ∈ s then some ([], some n.length) else some (n, some (n.length + 1)) := by
  have hfirst : memchr ((n ++ 58 :: s) ++ [0]) 0 58 (n ++ 58 :: s).length = some (some n.length) := by
    rw [memchr_host (by omega), List.drop_zero, List.take_length, idxOf?_first hn, Option.map_some, Nat.zero_add]
  have hlen : (n ++ 58 :: s).length - n.length - 1 = s.length := by
    rw [List.length_append, List.length_cons]
    omega
  have hsecond : memchr ((n ++ 58 :: s) ++ [0]) (n.length + 1) 58 ((n ++ 58 :: s).length - n.length - 1) =
      some ((s.idxOf? 58).map (n.length + 1 + ·)) := by
    rw [memchr_host (by rw [hlen, List.length_append, List.length_cons]; omega), drop_length_succ, hlen,
      List.take_length]
  rw [lookupService, if_pos rfl, hfirst, Option.bind_some]
  simp only [hsecond]
  split
  · next hmem =>
      obtain ⟨a, b, rfl, ha⟩ := List.eq_append_cons_of_mem hmem
      rw [idxOf?_first ha]
      rfl
  · next hmem =>
      rw [List.idxOf?_eq_none_iff.mpr hmem, Option.map_none, Option.map_some]
      simp only [substr, List.drop_zero, List.take_left]

/-! ## The pair -/

/-- Where a node is found in brackets, the service is what stands behind a colon directly behind them. -/
theorem lookupArgs_closed (h : 93 ∉ x) (hx : x ≠ []) :
    lookupArgs (91 :: (x ++ 93 :: rest)) =
      some (x, if rest.head? = some 58 then some rest.tail else none) := by
  rw [lookupArgs, lookupBrackets_closed h, Option.bind_some]
  simp only [lookupService, if_neg hx, Option.bind_some]
  cases rest with
  | nil => rfl
  | cons c rest =>
      by_cases hc : c = 58
      · subst hc
        have hshape : 91 :: (x ++ 93 :: 58 :: rest) = ((91 :: x) ++ [93]) ++ 58 :: rest := by simp
        have hlength : x.length + 3 = ((91 :: x) ++ [93]).length + 1 := by simp
        rw [List.head?_cons, if_pos rfl, if_pos rfl]
        simp only
        rw [if_pos (by simp), hshape, hlength, drop_length_succ]
        rfl
      · have hhead : ¬(c :: rest).head? = some 58 := by simpa using hc
        rw [if_neg hhead, if_neg hhead]

theorem lookupArgs_noColon {service : Option Nat} (hb : lookupBrackets host = some ([], service)) (h : 58 ∉ host) :
    lookupArgs host = some (host, none) := by
  rw [lookupArgs, hb, Option.bind_some]
  simp only [lookupService_none h, Option.bind_some, if_true]

theorem lookupArgs_colon {service : Option Nat} (hb : lookupBrackets (n ++ 58 :: s) = some ([], service))
    (hn : 58 ∉ n) :
    lookupArgs (n ++ 58 :: s) =
      if 58 ∈ s then some (n ++ 58 :: s, some (58 :: s))
      else some (if n = [] then n ++ 58 :: s else n, some s) := by
  rw [lookupArgs, hb, Option.bind_some]
  simp only [lookupService_some hn]
  split
  · rw [Option.bind_some]
    simp only [if_true]
    rw [if_pos (by simp), List.drop_left]
  · rw [Option.bind_some]
    simp only
    rw [if_pos (by simp), drop_length_succ]

/-- With two or more colons the service is left at the first one. This is also how a host with a single bracket is read,
such as `::1]` or `[::1`, of which nothing is asked below. -/
theorem lookupArgs_literal (hopen : host.head? = some 91 → 93 ∉ host.tail) (hcount : 2 ≤ host.count 58) :
    ∃ n s, host = n ++ 58 :: s ∧ 58 ∉ n ∧ lookupArgs host = some (host, some (58 :: s)) := by
  obtain ⟨n, s, rfl, hn⟩ := List.eq_append_cons_of_mem (List.count_pos_iff.mp (by omega : 0 < host.count 58))
  have hs : 58 ∈ s := by
    rw [List.count_append, List.count_eq_zero.mpr hn, List.count_cons_self] at hcount
    exact List.count_pos_iff.mp (by omega)
  exact ⟨n, s, rfl, hn, by rw [lookupArgs_colon (lookupBrackets_open hopen) hn, if_pos hs]⟩

theorem brackets_cases (host : List UInt8) :
    (∃ x rest, 93 ∉ x ∧ host = 91 :: (x ++ 93 :: rest)) ∨ lookupBrackets host = some ([], none) := by
  by_cases h : host.head? = some 91 ∧ 93 ∈ host.tail
  · obtain ⟨x, rest, htail, hx⟩ := List.eq_append_cons_of_mem h.2
    refine .inl ⟨x, rest, hx, ?_⟩
    cases host with
    | nil => cases h.1
    | cons c host =>
        cases h.1
        rw [← htail, List.tail_cons]
  · exact .inr (lookupBrackets_open fun hopen hclose => h ⟨hopen, hclose⟩)

theorem exists_lookupArgs (host : List UInt8) : ∃ node service, lookupArgs host = some (node, service) := by
  have hopen : ∀ {service}, lookupBrackets host = some ([], service) →
      ∃ node service, lookupArgs host = some (node, service) := by
    intro service hb
    by_cases hcolon : 58 ∈ host
    · obtain ⟨n, s, rfl, hn⟩ := List.eq_append_cons_of_mem hcolon
      rw [lookupArgs_colon hb hn]
      split
      · exact ⟨_, _, rfl⟩
      · exact ⟨_, _, rfl⟩
    · exact ⟨_, _, lookupArgs_noColon hb hcolon⟩
  rcases brackets_cases host with ⟨x, rest, hx, rfl⟩ | hb
  · by_cases hempty : x = []
    · subst hempty
      exact hopen (lookupBrackets_closed hx)
    · exact ⟨_, _, lookupArgs_closed hx hempty⟩
  · exact hopen hb

theorem node_ne_nil {node : List UInt8} {service : Option (List UInt8)} (h : lookupArgs host = some (node, service))
    (hne : host ≠ []) : node ≠ [] := by
  obtain ⟨⟨node₁, service₁⟩, -, h⟩ := Option.bind_eq_some_iff.mp h
  obtain ⟨⟨node₂, service₂⟩, -, h⟩ := Option.bind_eq_some_iff.mp h
  have hnode : (if node₂ = [] then host else node₂) = node := by
    cases service₂ with
    | none =>
        cases h
        rfl
    | some p =>
        simp only at h
        split at h
        · cases h
          rfl
        · cases h
  rw [← hnode]
  split
  · exact hne
  · assumption

/-- A host in brackets, with or without a service; the first closing bracket ends it. -/
def Bracketed (host : List UInt8) : Prop :=
  ∃ x rest, 93 ∉ x ∧ host = 91 :: (x ++ 93 :: rest) ∧ (rest = [] ∨ rest.head? = some 58)

/-- What is to be looked up for a host: `[x]`, `[x]:s`, a name, `n:s`, or an IPv6 address without brackets. A host in
brackets is not read as `n:s`. -/
inductive Asked : List UInt8 → List UInt8 → Option (List UInt8) → Prop
  | bracket (x : List UInt8) : 93 ∉ x → Asked (91 :: (x ++ [93])) x none
  | bracketService (x s : List UInt8) : 93 ∉ x → Asked (91 :: (x ++ 93 :: 58 :: s)) x (some s)
  | name (host : List UInt8) : 91 ∉ host → 93 ∉ host → 58 ∉ host → Asked host host none
  | nameService (n s : List UInt8) : n ≠ [] → 58 ∉ n → 58 ∉ s → ¬ Bracketed (n ++ 58 :: s) →
      Asked (n ++ 58 :: s) n (some s)
  | literal (host : List UInt8) : 91 ∉ host → 93 ∉ host → 2 ≤ host.count 58 → Asked host host none

/-- The pair is read without an access outside, and it is the one that is asked for. -/
def Parses (host : List UInt8) : Prop :=
  (∃ node service, lookupArgs host = some (node, service)) ∧
    ∀ node service, Asked host node service → lookupArgs host = some (node, service)

/-- The kinds of hosts that are misread: an IPv6 address without brackets, empty brackets, and one colon beside brackets
that something else follows. -/
structure Readable (host : List UInt8) : Prop where
  literal : ¬ (91 ∉ host ∧ 93 ∉ host ∧ 2 ≤ host.count 58)
  empty : ¬ ∃ rest, host = 91 :: 93 :: rest ∧ (rest = [] ∨ rest.head? = some 58)
  behind : ¬ ∃ x rest, x ≠ [] ∧ 93 ∉ x ∧ host = 91 :: (x ++ 93 :: rest) ∧ rest ≠ [] ∧ rest.head? ≠ some 58 ∧
    host.count 58 = 1

theorem lookupBrackets_name (h : 93 ∉ host) : lookupBrackets host = some ([], none) :=
  lookupBrackets_open fun _ hclose => h (List.mem_of_mem_tail hclose)

theorem not_bracketed (hx : 93 ∉ x) (hrest : rest ≠ []) (hhead : rest.head? ≠ some 58) :
    ¬ Bracketed (91 :: (x ++ 93 :: rest)) := by
  rintro ⟨x', rest', hx', hhost, hends⟩
  obtain ⟨rfl, rfl⟩ := first_unique hx hx' (List.cons.inj hhost).2
  exact hends.elim hrest hhead

theorem readable_of_parses (h : Parses host) : Readable host where
  literal := by
    rintro ⟨hopen, hclose, hcount⟩
    have hasked := h.2 host none (.literal host hopen hclose hcount)
    obtain ⟨n, s, -, -, hargs⟩ := lookupArgs_literal (fun _ hmem => hclose (List.mem_of_mem_tail hmem)) hcount
    cases hargs.symm.trans hasked
  empty := by
    rintro ⟨rest, rfl, rfl | hhead⟩
    · exact node_ne_nil (h.2 [] none (.bracket [] List.not_mem_nil)) (List.cons_ne_nil _ _) rfl
    · obtain ⟨s, rfl⟩ : ∃ s, rest = 58 :: s := by
        cases rest with
        | nil => cases hhead
        | cons c s =>
            cases hhead
            exact ⟨s, rfl⟩
      exact node_ne_nil (h.2 [] (some s) (.bracketService [] s List.not_mem_nil)) (List.cons_ne_nil _ _) rfl
  behind := by
    rintro ⟨x, rest, hne, hx, rfl, hrest, hhead, hcount⟩
    have hmem : 58 ∈ 91 :: (x ++ 93 :: rest) := List.count_pos_iff.mp (by omega)
    obtain ⟨n, s, hsplit, hn⟩ := List.eq_append_cons_of_mem hmem
    have hs : 58 ∉ s := by
      rw [hsplit, List.count_append, List.count_eq_zero.mpr hn, List.count_cons_self] at hcount
      exact List.count_eq_zero.mp (by omega)
    have hnil : n ≠ [] := by
      rintro rfl
      cases (List.cons.inj hsplit).1
    have hbracketed : ¬ Bracketed (n ++ 58 :: s) := hsplit ▸ not_bracketed hx hrest hhead
    have hasked := h.2 n (some s) (hsplit ▸ .nameService n s hnil hn hs hbracketed)
    rw [lookupArgs_closed hx hne, if_neg hhead] at hasked
    cases hasked

theorem parses_of_readable (h : Readable host) : Parses host := by
  refine ⟨exists_lookupArgs host, fun node service hasked => ?_⟩
  cases hasked with
  | bracket x hx =>
      have hne : node ≠ [] := by
        rintro rfl
        exact h.empty ⟨[], rfl, .inl rfl⟩
      exact lookupArgs_closed hx hne
  | bracketService x s hx =>
      have hne : node ≠ [] := by
        rintro rfl
        exact h.empty ⟨58 :: s, rfl, .inr rfl⟩
      exact lookupArgs_closed hx hne
  | name _ hopen hclose hcolon => exact lookupArgs_noColon (lookupBrackets_name hclose) hcolon
  | nameService n s hne hn hs hbracketed =>
      have hnone : ∃ service, lookupBrackets (node ++ 58 :: s) = some ([], service) := by
        rcases brackets_cases (node ++ 58 :: s) with ⟨x, rest, hx, hhost⟩ | hb
        · by_cases hempty : x = []
          · subst hempty
            exact ⟨_, hhost ▸ lookupBrackets_closed hx⟩
          · have hcount : (node ++ 58 :: s).count 58 = 1 := by
              rw [List.count_append, List.count_eq_zero.mpr hn, List.count_cons_self, List.count_eq_zero.mpr hs]
            refine absurd ⟨x, rest, hempty, hx, hhost, ?_, ?_, hcount⟩ h.behind
            · exact fun hrest => hbracketed ⟨x, rest, hx, hhost, .inl hrest⟩
            · exact fun hhead => hbracketed ⟨x, rest, hx, hhost, .inr hhead⟩
        · exact ⟨_, hb⟩
      obtain ⟨service, hb⟩ := hnone
      rw [lookupArgs_colon hb hn, if_neg hs, if_neg hne]
  | literal _ hopen hclose hcount => exact absurd ⟨hopen, hclose, hcount⟩ h.literal

/-- A host is looked up as it is asked for exactly if it is of none of the three kinds. -/
theorem parses_iff (host : List UInt8) : Parses host ↔ Readable host :=
  ⟨readable_of_parses, parses_of_readable⟩

/-- `::1` is looked up with the service `::1`. -/
theorem not_parses_loopback : ¬ ∀ host, Parses host := by
  intro h
  have hasked := (h [58, 58, 49]).2 _ _ (.literal [58, 58, 49] (by decide) (by decide) (by decide))
  have hargs : lookupArgs [58, 58, 49] = some ([58, 58, 49], some [58, 58, 49]) := by rfl
  cases hargs.symm.trans hasked

end Mingfwq.Address
