import Mingfwq.Http.Grammar
import Mingfwq.Http.HttpParser

/-!
# The path in a request line

The automaton reads a path as a URI reference: what it takes for a scheme is not reported as part of the path, and
what it takes for an authority has to be one.
-/

namespace Mingfwq.Http

open Lib HttpParser

variable {r : Bool} {q t p n d : Nat} {c : UInt8} {s : Bytes} {cl : CharClass} {acts : List Action} {ok : Bool}

/-! ## Where a byte leads -/

/-- The edges of a state in both tables. -/
def request_edges (uri_relaxed : Bool) (cs : Nat) : List (Edge Action) :=
  (http_parser_table.lookup cs).getD [] ++ if uri_relaxed then (http_parser_more_delims.lookup cs).getD [] else []

theorem http_parser_next_eq : http_parser_next r q c =
    (request_edges r q).find? fun e => e.lo ≤ c.toNat && c.toNat ≤ e.hi := by
  have hnext : ∀ t : Table Action, t.next q c =
      ((t.lookup q).getD []).find? fun e => e.lo ≤ c.toNat && c.toNat ≤ e.hi := by
    intro t
    rw [Table.next]
    cases t.lookup q <;> rfl
  rw [http_parser_next, request_edges, List.find?_append, hnext, hnext, Option.or_eq_orElse]
  cases r <;> rfl

theorem request_goto (h : covers (request_edges r q) cl (fun e => e.acts == acts && e.target == t) = true)
    (hc : cl.has c = true) : goto (http_parser_next r) q c = some (acts, t) := by
  obtain ⟨e, he, hP⟩ := find?_of_covers h hc
  simp only [Bool.and_eq_true, beq_iff_eq] at hP
  rw [goto, http_parser_next_eq, he, Option.map_some, hP.1, hP.2]

theorem request_goto_none (h : misses (request_edges r q) cl = true) (hc : cl.has c = true) :
    goto (http_parser_next r) q c = none := by
  rw [goto, http_parser_next_eq, find?_of_misses h hc]
  rfl

/-- Around a percent-encoded byte, from `q` to `t`. -/
def percent_edges (uri_relaxed : Bool) (q u u' t : Nat) : Bool :=
  covers (request_edges uri_relaxed q) [(37, 37)] (fun e => e.acts == [] && e.target == u) &&
    covers (request_edges uri_relaxed u) .xdigit (fun e => e.acts == [] && e.target == u') &&
      covers (request_edges uri_relaxed u') .xdigit fun e => e.acts == [] && e.target == t

theorem request_reads {u u' : Nat}
    (hplain : covers (request_edges r q) cl (fun e => e.acts == [] && e.target == q) = true)
    (hpercent : percent_edges r q u u' q = true) : Reads (goto (http_parser_next r)) cl q u u' := by
  simp only [percent_edges, Bool.and_eq_true] at hpercent
  exact ⟨fun _ hc => request_goto hplain hc, request_goto hpercent.1.1 rfl, fun _ hc => request_goto hpercent.1.2 hc,
    fun _ hc => request_goto hpercent.2 hc⟩

theorem reads_path : Reads (goto (http_parser_next r)) (path_char r) 26 27 28 := by
  cases r <;> exact request_reads (by rfl) (by rfl)

/-! ## Up to the end of the path -/

/-- What stands behind a path. -/
def path_delims : CharClass := [(32, 32), (35, 35), (63, 63)]

/-- The states where a path can end. -/
def path_ends : List Nat := [19, 26, 33, 34, 35, 38, 42, 43, 46, 173]

/-- The automaton reads the rest of a path from state `q`; unless `ok` holds, it fails at its end at the latest. -/
def Leads (r : Bool) (q : Nat) (s : Bytes) (ok : Bool) : Prop :=
  if ok then ∃ t ∈ path_ends, walk (goto (http_parser_next r)) s q = some t
  else ∀ buffer n d ys p k, path_delims.has d = true →
    (scan (http_parser_next r) Action.breaks (HttpParser.run HttpRequestParser.callbacks buffer n) p (s ++ d :: ys) q
      k).Failed

theorem Leads.done (h : q ∈ path_ends) : Leads r q [] true := ⟨q, h, rfl⟩

theorem Leads.cons (h : goto (http_parser_next r) q c = some ([], t)) (hs : Leads r t s ok) :
    Leads r q (c :: s) ok := by
  cases ok with
  | true =>
      obtain ⟨t', ht', hwalk⟩ := hs
      exact ⟨t', ht', by rw [walk_cons h, hwalk]⟩
  | false =>
      intro buffer n d ys p k hd
      exact scan_goto_failed h rfl fun p k => hs buffer n d ys p k hd

theorem Leads.none (h : goto (http_parser_next r) q c = none) : Leads r q (c :: s) false := by
  intro buffer n d ys p k hd
  rw [List.cons_append, scan_goto_none h]
  trivial

/-- A percent-encoded byte. -/
theorem Leads.coded {a b : UInt8} (u u' : Nat) (h : percent_edges r q u u' t = true)
    (ha : CharClass.xdigit.has a = true) (hb : CharClass.xdigit.has b = true) (hs : Leads r t s ok) :
    Leads r q (37 :: a :: b :: s) ok := by
  simp only [percent_edges, Bool.and_eq_true] at h
  exact .cons (request_goto h.1.1 rfl) (.cons (request_goto h.1.2 ha) (.cons (request_goto h.2 hb) hs))

theorem leads_path (h : Coded (path_char r) s) : Leads r 26 s true :=
  ⟨26, by decide, reads_path.walk h⟩

/-! The characters of a path, by what they mean in an authority. -/

theorem has_singleton {m : Nat} : CharClass.has [(m, m)] c = true ↔ c.toNat = m := by
  simp only [CharClass.has, List.any_cons, List.any_nil, Bool.or_false, Bool.and_eq_true, decide_eq_true_eq]
  omega

theorem path_char_cases (h : (path_char r).has c = true) : c = 47 ∨ c = 58 ∨ c = 64 ∨ (reg_char r).has c = true := by
  have hbyte : ∀ {m : UInt8}, c.toNat = m.toNat → c = m := UInt8.toNat_inj.mp
  have hlist : ([(58, 58), (64, 64)] : CharClass) = [(58, 58)] ++ [(64, 64)] := rfl
  rw [path_char, pchar, hlist] at h
  simp only [CharClass.has_append, Bool.or_eq_true, has_singleton] at h
  rcases h with (h | h | h) | h
  · exact .inr (.inr (.inr h))
  · exact .inr (.inl (hbyte h))
  · exact .inr (.inr (.inl (hbyte h)))
  · exact .inl (hbyte h)

/-- The characters of `reg_name` other than digits. -/
def reg_rest (uri_relaxed : Bool) : CharClass :=
  CharClass.alpha ++ [(45, 45), (46, 46), (95, 95), (126, 126)] ++ CharClass.sub_delims ++ more_delims uri_relaxed

theorem reg_char_cases (h : (reg_char r).has c = true) :
    CharClass.digit.has c = true ∨ CharClass.digit.has c = false ∧ (reg_rest r).has c = true := by
  rw [reg_char, CharClass.unreserved] at h
  simp only [reg_rest, CharClass.has_append, Bool.or_eq_true] at h ⊢
  cases hdigit : CharClass.digit.has c with
  | true => exact .inl rfl
  | false =>
      rw [hdigit] at h
      exact .inr ⟨rfl, by simpa using h⟩

theorem reg_char_ne (h : (reg_char r).has c = true) : c ≠ 47 ∧ c ≠ 58 ∧ c ≠ 64 := by
  refine ⟨?_, ?_, ?_⟩ <;> rintro rfl <;> cases r <;> cases h

theorem xdigit_ne (h : CharClass.xdigit.has c = true) : c ≠ 47 ∧ c ≠ 58 ∧ c ≠ 64 := by
  refine ⟨?_, ?_, ?_⟩ <;> rintro rfl <;> cases h

@[simp] theorem segment_nil : segment [] = [] := rfl

@[simp] theorem segment_slash : segment (47 :: s) = [] := rfl

theorem segment_cons (h : c ≠ 47) : segment (c :: s) = c :: segment s :=
  List.takeWhile_cons_of_pos (by simpa using h)

theorem contains_cons_ne {b : UInt8} (h : c ≠ b) : (c :: s).contains b = s.contains b := by
  rw [List.contains_cons, beq_eq_false_iff_ne.mpr (Ne.symm h), Bool.false_or]

@[simp] theorem host_port_nil : host_port [] = true := rfl

theorem host_port_cons (hcolon : c ≠ 58) (hat : c ≠ 64) : host_port (c :: s) = host_port s := by
  rw [host_port, contains_cons_ne hat, List.dropWhile_cons_of_pos (by simpa using hcolon), ← host_port]

theorem host_port_colon : host_port (58 :: s) = s.all CharClass.digit.has := by
  rw [host_port, List.dropWhile_cons_of_neg (by decide), List.tail_cons, contains_cons_ne (by decide)]
  cases h : s.all CharClass.digit.has with
  | false => rw [Bool.and_false]
  | true =>
      have hnot : s.contains 64 = false := by
        rw [← Bool.not_eq_true, List.contains_iff_mem]
        exact fun hmem => absurd (List.all_eq_true.mp h _ hmem) (by decide)
      rw [hnot]
      rfl

/-- What stands behind the first colon, either a port or the rest of a `userinfo`. -/
def behind_colon (s : Bytes) : Bool :=
  if s.contains 64 then host_port (s.dropWhile (· != 64)).tail else s.all CharClass.digit.has

theorem authority_cons (hcolon : c ≠ 58) (hat : c ≠ 64) : authority (c :: s) = authority s := by
  rw [authority, contains_cons_ne hat, List.dropWhile_cons_of_pos (by simpa using hat), authority]
  split
  · rfl
  · exact host_port_cons hcolon hat

theorem authority_at : authority (64 :: s) = host_port s := rfl

theorem authority_colon : authority (58 :: s) = behind_colon s := by
  rw [authority, contains_cons_ne (by decide), List.dropWhile_cons_of_pos (by decide), behind_colon]
  split
  · rfl
  · exact host_port_colon

theorem behind_colon_at : behind_colon (64 :: s) = host_port s := rfl

theorem behind_colon_digit (h : CharClass.digit.has c = true) : behind_colon (c :: s) = behind_colon s := by
  have hat : c ≠ 64 := by
    rintro rfl
    cases h
  rw [behind_colon, contains_cons_ne hat, List.dropWhile_cons_of_pos (by simpa using hat), List.all_cons, h,
    Bool.true_and, behind_colon]

theorem behind_colon_other (h : CharClass.digit.has c = false) (hat : c ≠ 64) :
    behind_colon (c :: s) = (s.contains 64 && host_port (s.dropWhile (· != 64)).tail) := by
  rw [behind_colon, contains_cons_ne hat, List.dropWhile_cons_of_pos (by simpa using hat), List.all_cons, h]
  cases s.contains 64 <;> rfl

/-! The states of an authority. -/

theorem leads_port (h : Coded (path_char r) s) : Leads r 46 s ((segment s).all CharClass.digit.has) := by
  induction h with
  | nil => exact .done (by decide)
  | plain hc hs ih =>
      rcases path_char_cases hc with rfl | rfl | rfl | hc
      · exact .cons (by cases r <;> rfl) (leads_path hs)
      · exact .none (by cases r <;> rfl)
      · exact .none (by cases r <;> rfl)
      · rw [segment_cons (reg_char_ne hc).1, List.all_cons]
        rcases reg_char_cases hc with hdigit | ⟨hdigit, hrest⟩
        · rw [hdigit, Bool.true_and]
          exact .cons (request_goto (by cases r <;> rfl) hdigit) ih
        · rw [hdigit, Bool.false_and]
          exact .none (request_goto_none (by cases r <;> rfl) hrest)
  | coded ha hb hs ih =>
      rw [segment_cons (by decide)]
      exact .none (by cases r <;> rfl)

/-- The states before and in a host that no `@` can follow. -/
theorem leads_host (hq : q = 42 ∨ q = 43) (h : Coded (path_char r) s) : Leads r q s (host_port (segment s)) := by
  induction h generalizing q with
  | nil => exact .done (by rcases hq with rfl | rfl <;> decide)
  | plain hc hs ih =>
      rcases path_char_cases hc with rfl | rfl | rfl | hc
      · exact .cons (by rcases hq with rfl | rfl <;> cases r <;> rfl) (leads_path hs)
      · rw [segment_cons (by decide), host_port_colon]
        exact .cons (by rcases hq with rfl | rfl <;> cases r <;> rfl) (leads_port hs)
      · exact .none (by rcases hq with rfl | rfl <;> cases r <;> rfl)
      · obtain ⟨hslash, hcolon, hat⟩ := reg_char_ne hc
        rw [segment_cons hslash, host_port_cons hcolon hat]
        exact .cons (request_goto (by rcases hq with rfl | rfl <;> cases r <;> rfl) hc) (ih (.inr rfl))
  | coded ha hb hs ih =>
      obtain ⟨haslash, hacolon, haat⟩ := xdigit_ne ha
      obtain ⟨hbslash, hbcolon, hbat⟩ := xdigit_ne hb
      rw [segment_cons (by decide), segment_cons haslash, segment_cons hbslash, host_port_cons (by decide) (by decide),
        host_port_cons hacolon haat, host_port_cons hbcolon hbat]
      exact .coded 44 45 (by rcases hq with rfl | rfl <;> cases r <;> rfl) ha hb (ih (.inr rfl))

/-- The state of a `userinfo` that can no longer be a host: an `@` has to follow. -/
theorem leads_userinfo (h : Coded (path_char r) s) :
    Leads r 39 s ((segment s).contains 64 && host_port ((segment s).dropWhile (· != 64)).tail) := by
  induction h with
  | nil =>
      intro buffer n d ys p k hd
      rw [List.nil_append, scan_goto_none (request_goto_none (by cases r <;> rfl) hd)]
      trivial
  | @plain c s hc hs ih =>
      have hother : c ≠ 64 → c ≠ 47 → goto (http_parser_next r) 39 c = some ([], 39) →
          Leads r 39 (c :: s) ((segment (c :: s)).contains 64 &&
            host_port ((segment (c :: s)).dropWhile (· != 64)).tail) := by
        intro hat hslash hgoto
        rw [segment_cons hslash, contains_cons_ne hat, List.dropWhile_cons_of_pos (by simpa using hat)]
        exact .cons hgoto ih
      rcases path_char_cases hc with rfl | rfl | rfl | hc
      · exact .none (by cases r <;> rfl)
      · exact hother (by decide) (by decide) (by cases r <;> rfl)
      · exact .cons (by cases r <;> rfl) (leads_host (.inl rfl) hs)
      · obtain ⟨hslash, -, hat⟩ := reg_char_ne hc
        exact hother hat hslash (request_goto (by cases r <;> rfl) hc)
  | coded ha hb hs ih =>
      obtain ⟨haslash, -, haat⟩ := xdigit_ne ha
      obtain ⟨hbslash, -, hbat⟩ := xdigit_ne hb
      rw [segment_cons (by decide), segment_cons haslash, segment_cons hbslash, contains_cons_ne (by decide),
        contains_cons_ne haat, contains_cons_ne hbat, List.dropWhile_cons_of_pos (by decide),
        List.dropWhile_cons_of_pos (by simpa using haat), List.dropWhile_cons_of_pos (by simpa using hbat)]
      exact .coded 40 41 (by cases r <;> rfl) ha hb ih

/-- The state of digits behind a colon, a port or the rest of a `userinfo`. -/
theorem leads_behind_colon (h : Coded (path_char r) s) : Leads r 38 s (behind_colon (segment s)) := by
  induction h with
  | nil => exact .done (by decide)
  | @plain c s hc hs ih =>
      have hother : c ≠ 64 → c ≠ 47 → CharClass.digit.has c = false → goto (http_parser_next r) 38 c = some ([], 39) →
          Leads r 38 (c :: s) (behind_colon (segment (c :: s))) := by
        intro hat hslash hdigit hgoto
        rw [segment_cons hslash, behind_colon_other hdigit hat]
        exact .cons hgoto (leads_userinfo hs)
      rcases path_char_cases hc with rfl | rfl | rfl | hc
      · exact .cons (by cases r <;> rfl) (leads_path hs)
      · exact hother (by decide) (by decide) (by decide) (by cases r <;> rfl)
      · rw [segment_cons (by decide), behind_colon_at]
        exact .cons (by cases r <;> rfl) (leads_host (.inl rfl) hs)
      · obtain ⟨hslash, -, hat⟩ := reg_char_ne hc
        rcases reg_char_cases hc with hdigit | ⟨hdigit, hrest⟩
        · rw [segment_cons hslash, behind_colon_digit hdigit]
          exact .cons (request_goto (by cases r <;> rfl) hdigit) ih
        · exact hother hat hslash hdigit (request_goto (by cases r <;> rfl) hrest)
  | @coded a b s ha hb hs ih =>
      obtain ⟨haslash, -, haat⟩ := xdigit_ne ha
      obtain ⟨hbslash, -, hbat⟩ := xdigit_ne hb
      rw [segment_cons (by decide), segment_cons haslash, segment_cons hbslash,
        behind_colon_other (by decide) (by decide), contains_cons_ne haat, contains_cons_ne hbat,
        List.dropWhile_cons_of_pos (by simpa using haat), List.dropWhile_cons_of_pos (by simpa using hbat)]
      exact .coded 40 41 (by cases r <;> rfl) ha hb (leads_userinfo hs)

/-- The states before and in what may be a host or a `userinfo`. -/
theorem leads_authority (hq : q = 34 ∨ q = 35) (h : Coded (path_char r) s) : Leads r q s (authority (segment s)) := by
  induction h generalizing q with
  | nil => exact .done (by rcases hq with rfl | rfl <;> decide)
  | plain hc hs ih =>
      rcases path_char_cases hc with rfl | rfl | rfl | hc
      · exact .cons (by rcases hq with rfl | rfl <;> cases r <;> rfl) (leads_path hs)
      · rw [segment_cons (by decide), authority_colon]
        exact .cons (by rcases hq with rfl | rfl <;> cases r <;> rfl) (leads_behind_colon hs)
      · rw [segment_cons (by decide), authority_at]
        exact .cons (by rcases hq with rfl | rfl <;> cases r <;> rfl) (leads_host (.inl rfl) hs)
      · obtain ⟨hslash, hcolon, hat⟩ := reg_char_ne hc
        rw [segment_cons hslash, authority_cons hcolon hat]
        exact .cons (request_goto (by rcases hq with rfl | rfl <;> cases r <;> rfl) hc) (ih (.inr rfl))
  | coded ha hb hs ih =>
      obtain ⟨haslash, hacolon, haat⟩ := xdigit_ne ha
      obtain ⟨hbslash, hbcolon, hbat⟩ := xdigit_ne hb
      rw [segment_cons (by decide), segment_cons haslash, segment_cons hbslash, authority_cons (by decide) (by decide),
        authority_cons hacolon haat, authority_cons hbcolon hbat]
      exact .coded 36 37 (by rcases hq with rfl | rfl <;> cases r <;> rfl) ha hb (ih (.inr rfl))

/-! The states of a path without an authority. -/

theorem leads_noscheme (h : Coded (path_char r) s) : Leads r 19 s (!(segment s).contains 58) := by
  induction h with
  | nil => exact .done (by decide)
  | plain hc hs ih =>
      rcases path_char_cases hc with rfl | rfl | rfl | hc
      · exact .cons (by cases r <;> rfl) (leads_path hs)
      · exact .none (by cases r <;> rfl)
      · exact .cons (by cases r <;> rfl) ih
      · obtain ⟨hslash, hcolon, -⟩ := reg_char_ne hc
        rw [segment_cons hslash, contains_cons_ne hcolon]
        exact .cons (request_goto (by cases r <;> rfl) hc) ih
  | coded ha hb hs ih =>
      obtain ⟨haslash, hacolon, -⟩ := xdigit_ne ha
      obtain ⟨hbslash, hbcolon, -⟩ := xdigit_ne hb
      rw [segment_cons (by decide), segment_cons haslash, segment_cons hbslash, contains_cons_ne (by decide),
        contains_cons_ne hacolon, contains_cons_ne hbcolon]
      exact .coded 24 25 (by cases r <;> rfl) ha hb ih

theorem leads_absolute (h : Coded (path_char r) s) : Leads r 33 s (relative_part (47 :: s)) := by
  have hother : ∀ {c s}, c ≠ 47 → relative_part (47 :: c :: s) = true := by
    intro c s hslash
    rw [relative_part, if_neg (by simpa using hslash)]
    rfl
  cases h with
  | nil => exact .done (by decide)
  | plain hc hs =>
      rcases path_char_cases hc with rfl | rfl | rfl | hc
      · exact .cons (by cases r <;> rfl) (leads_authority (.inl rfl) hs)
      · rw [hother (by decide)]
        exact .cons (by cases r <;> rfl) (leads_path hs)
      · rw [hother (by decide)]
        exact .cons (by cases r <;> rfl) (leads_path hs)
      · rw [hother (reg_char_ne hc).1]
        exact .cons (request_goto (by cases r <;> rfl) hc) (leads_path hs)
  | coded ha hb hs =>
      rw [hother (by decide)]
      exact .coded 27 28 (by cases r <;> rfl) ha hb (leads_path hs)

/-- The characters of `scheme`. -/
def scheme_char : CharClass := CharClass.alpha ++ CharClass.digit ++ [(43, 43), (45, 45), (46, 46)]

/-- The characters of `reg_name` that are not in a scheme. -/
def scheme_rest (uri_relaxed : Bool) : CharClass :=
  [(95, 95), (126, 126), (33, 33), (36, 36), (38, 42), (44, 44), (59, 59), (61, 61)] ++ more_delims uri_relaxed

theorem scheme_char_cases (h : (reg_char r).has c = true) :
    scheme_char.has c = true ∨ (scheme_rest r).has c = true := by
  have hall : (reg_char false).has c = true → scheme_char.has c = true ∨ (scheme_rest false).has c = true :=
    forall_byte (P := fun c => (reg_char false).has c = true → scheme_char.has c = true ∨
      (scheme_rest false).has c = true) (by decide +kernel) c
  rw [reg_char, CharClass.has_append, Bool.or_eq_true] at h
  rw [scheme_rest, CharClass.has_append, Bool.or_eq_true]
  rcases h with h | h
  · have hbase := hall (by rw [reg_char, CharClass.has_append, h, Bool.true_or])
    rw [scheme_rest, CharClass.has_append, Bool.or_eq_true] at hbase
    exact hbase.imp id fun h => h.imp id nofun
  · exact .inr (.inr h)

/-- The state of what may be a scheme. -/
theorem leads_scheme (h : Coded (path_char r) s) :
    Leads r 173 s (!(segment s).contains 58) ∨
      ∃ u v, s = u ++ 58 :: v ∧ Coded (path_char r) v ∧ (segment s).contains 58 = true ∧
        walk (goto (http_parser_next r)) (u ++ [58]) 173 = some 174 := by
  induction h with
  | nil => exact .inl (.done (by decide))
  | @plain c s hc hs ih =>
      rcases path_char_cases hc with rfl | rfl | rfl | hc
      · exact .inl (.cons (by cases r <;> rfl) (leads_path hs))
      · exact .inr ⟨[], s, rfl, hs, by rw [segment_cons (by decide)]; rfl, by cases r <;> rfl⟩
      · exact .inl (.cons (by cases r <;> rfl) (leads_noscheme hs))
      · obtain ⟨hslash, hcolon, -⟩ := reg_char_ne hc
        rw [segment_cons hslash, contains_cons_ne hcolon]
        rcases scheme_char_cases hc with hscheme | hrest
        · have hgoto : goto (http_parser_next r) 173 c = some ([], 173) :=
            request_goto (by cases r <;> rfl) hscheme
          rcases ih with hleads | ⟨u, v, rfl, hv, hcontains, hwalk⟩
          · exact .inl (.cons hgoto hleads)
          · exact .inr ⟨c :: u, v, rfl, hv, hcontains, by rw [List.cons_append, walk_cons hgoto, hwalk]⟩
        · exact .inl (.cons (request_goto (by cases r <;> rfl) hrest) (leads_noscheme hs))
  | coded ha hb hs ih =>
      obtain ⟨haslash, hacolon, -⟩ := xdigit_ne ha
      obtain ⟨hbslash, hbcolon, -⟩ := xdigit_ne hb
      rw [segment_cons (by decide), segment_cons haslash, segment_cons hbslash, contains_cons_ne (by decide),
        contains_cons_ne hacolon, contains_cons_ne hbcolon]
      exact .inl (.coded 24 25 (by cases r <;> rfl) ha hb (leads_noscheme hs))

/-! ## The whole path -/

section Run

variable {buffer ys path : Bytes} {m : HttpParser} {k : Parsed HttpRequest}

/-- The run of a request parser. -/
abbrev request_scan (uri_relaxed : Bool) (buffer : Bytes) (n p : Nat) (xs : Bytes) (cs : Nat)
    (k : HttpParser × Parsed HttpRequest) : Run (HttpParser × Parsed HttpRequest) :=
  scan (http_parser_next uri_relaxed) Action.breaks (HttpParser.run HttpRequestParser.callbacks buffer n) p xs cs k

theorem path_delims_cases {d : UInt8} (h : path_delims.has d = true) : d = 32 ∨ d = 35 ∨ d = 63 := by
  have hbyte : ∀ {m : UInt8}, d.toNat = m.toNat → d = m := UInt8.toNat_inj.mp
  have hlist : path_delims = [(32, 32)] ++ [(35, 35)] ++ [(63, 63)] := rfl
  rw [hlist] at h
  simp only [CharClass.has_append, Bool.or_eq_true, has_singleton] at h
  rcases h with (h | h) | h
  · exact .inl (hbyte h)
  · exact .inr (.inl (hbyte h))
  · exact .inr (.inr (hbyte h))

/-- The end of a path is the same in all its states. -/
theorem Leads.scan {d : UInt8} (h : Leads r q s true) (hd : path_delims.has d = true)
    {k : HttpParser × Parsed HttpRequest} :
    request_scan r buffer n p (s ++ d :: ys) q k = request_scan r buffer n (p + s.length) (d :: ys) 26 k := by
  obtain ⟨t, ht, hwalk⟩ := h
  have hgoto : goto (http_parser_next r) t d = goto (http_parser_next r) 26 d := by
    have hall : ∀ t ∈ path_ends, ∀ d ∈ [(32 : UInt8), 35, 63], ∀ r,
        goto (http_parser_next r) t d = goto (http_parser_next r) 26 d := by decide +kernel
    exact hall t ht d (by simpa using path_delims_cases hd) r
  rw [request_scan, scan_walk hwalk, scan_goto_congr hgoto]

/-- The states before a path: in front, and behind what was taken for a scheme. -/
theorem scan_pathStart {d : UInt8} (hq : q = 3 ∨ q = 174) (hd : path_delims.has d = true) :
    request_scan r buffer n p (d :: ys) q (m, k) =
      request_scan r buffer n p (d :: ys) 26 ({ m with mark := p }, k) := by
  have hall : ∀ q ∈ [3, 174], ∀ d ∈ [(32 : UInt8), 35, 63], ∀ r, goto (http_parser_next r) q d =
      (goto (http_parser_next r) 26 d).map fun (acts, t) => (.mark :: acts, t) := by decide +kernel
  have hgoto := hall q (by simpa using hq) d (by simpa using path_delims_cases hd) r
  cases h : goto (http_parser_next r) 26 d with
  | none =>
      have hsome : ∀ d ∈ [(32 : UInt8), 35, 63], ∀ r, goto (http_parser_next r) 26 d ≠ none := by decide +kernel
      exact absurd h (hsome d (by simpa using path_delims_cases hd) r)
  | some edge =>
      obtain ⟨acts, t⟩ := edge
      rw [h] at hgoto
      exact scan_goto_cons hgoto h rfl rfl

/-- How the run from a state before a path ends: it fails, or it has marked where the path begins that it reports. -/
inductive PathRun (r : Bool) (buffer : Bytes) (n p : Nat) (path : Bytes) (d : UInt8) (ys : Bytes) (q : Nat)
    (m : HttpParser) (k : Parsed HttpRequest) (kept : Bool) : Prop
  | marked : kept = true → request_scan r buffer n p (path ++ d :: ys) q (m, k) =
      request_scan r buffer n (p + path.length) (d :: ys) 26 ({ m with mark := p }, k) → PathRun ..
  | failed : kept = false → (request_scan r buffer n p (path ++ d :: ys) q (m, k)).Failed → PathRun ..
  | cut (j : Nat) : kept = false → 0 < j → j ≤ path.length → request_scan r buffer n p (path ++ d :: ys) q (m, k) =
      request_scan r buffer n (p + path.length) (d :: ys) 26 ({ m with mark := p + j }, k) → PathRun ..

theorem PathRun.of_leads {d : UInt8} (hd : path_delims.has d = true)
    (hgoto : goto (http_parser_next r) q c = some ([.mark], t)) (hs : Leads r t s ok) :
    PathRun r buffer n p (c :: s) d ys q m k ok := by
  cases ok with
  | true =>
      refine .marked rfl ?_
      rw [List.length_cons, Nat.add_comm s.length, ← Nat.add_assoc]
      exact (scan_goto_live hgoto rfl rfl).trans (Leads.scan hs hd)
  | false => exact .failed rfl (scan_goto_failed hgoto rfl fun p k => hs buffer n d ys p k hd)

theorem pathRun_hier {d : UInt8} (hd : path_delims.has d = true) (h : Coded (path_char r) s) :
    ∃ kept, PathRun r buffer n p s d ys 174 m k kept := by
  cases h with
  | nil => exact ⟨true, .marked rfl (scan_pathStart (.inr rfl) hd)⟩
  | plain hc hs =>
      rcases path_char_cases hc with rfl | rfl | rfl | hc
      · exact ⟨_, .of_leads hd (by cases r <;> rfl) (leads_absolute hs)⟩
      · exact ⟨_, .of_leads hd (by cases r <;> rfl) (leads_path hs)⟩
      · exact ⟨_, .of_leads hd (by cases r <;> rfl) (leads_path hs)⟩
      · exact ⟨_, .of_leads hd (request_goto (by cases r <;> rfl) hc) (leads_path hs)⟩
  | coded ha hb hs =>
      refine ⟨true, .of_leads (t := 27) hd (by cases r <;> rfl) ?_⟩
      exact .cons (t := 28) (request_goto (by cases r <;> rfl) ha)
        (.cons (request_goto (by cases r <;> rfl) hb) (leads_path hs))

theorem relative_part_cons (hslash : c ≠ 47) (hcolon : c ≠ 58) :
    relative_part (c :: s) = !(segment s).contains 58 := by
  have htake : (c :: s).take 2 ≠ [47, 47] := by
    intro h
    rw [List.take_succ_cons] at h
    exact hslash (List.cons.inj h).1
  have hhead : ((c :: s).head? == some 47) = false := by simpa using hslash
  rw [relative_part, if_neg htake, hhead, Bool.false_or, segment_cons hslash, contains_cons_ne hcolon]

theorem pathRun {d : UInt8} (hd : path_delims.has d = true) (h : Coded (path_char r) path) :
    PathRun r buffer n p path d ys 3 m k (relative_part path) := by
  cases h with
  | nil => exact .marked rfl (scan_pathStart (.inl rfl) hd)
  | @plain c s hc hs =>
      rcases path_char_cases hc with rfl | rfl | rfl | hc
      · exact .of_leads hd (by cases r <;> rfl) (leads_absolute hs)
      · have hgoto : goto (http_parser_next r) 3 58 = none := by cases r <;> rfl
        refine .failed rfl ?_
        rw [List.cons_append, request_scan, scan_goto_none hgoto]
        trivial
      · rw [relative_part_cons (by decide) (by decide)]
        exact .of_leads hd (by cases r <;> rfl) (leads_noscheme hs)
      · obtain ⟨hslash, hcolon, -⟩ := reg_char_ne hc
        rw [relative_part_cons hslash hcolon]
        by_cases halpha : CharClass.alpha.has c = true
        · have hgoto : goto (http_parser_next r) 3 c = some ([.mark], 173) :=
            request_goto (by cases r <;> rfl) halpha
          rcases leads_scheme hs with hleads | ⟨u, v, rfl, hv, hcontains, hwalk⟩
          · exact .of_leads hd hgoto hleads
          · rw [hcontains]
            -- the colon makes a scheme of what stands before it, and the path is marked again behind it
            have hscheme : request_scan r buffer n p (c :: (u ++ 58 :: v) ++ d :: ys) 3 (m, k) =
                request_scan r buffer n (p + (u.length + 2)) (v ++ d :: ys) 174 ({ m with mark := p }, k) := by
              have hsplit : c :: (u ++ 58 :: v) ++ d :: ys = c :: ((u ++ [58]) ++ (v ++ d :: ys)) := by simp
              rw [hsplit]
              refine (scan_goto_live hgoto rfl rfl).trans ((scan_walk hwalk).trans ?_)
              rw [List.length_append, List.length_singleton, Nat.add_assoc p, Nat.add_comm 1, Nat.add_assoc u.length]
            have hlength : (c :: (u ++ 58 :: v)).length = u.length + 2 + v.length := by
              simp only [List.length_cons, List.length_append]
              omega
            have hhier : ∃ kept, PathRun r buffer n (p + (u.length + 2)) v d ys 174 { m with mark := p } k kept :=
              pathRun_hier hd hv
            obtain ⟨kept, hrun⟩ := hhier
            cases hrun with
            | marked hkept hrun =>
                refine .cut (u.length + 2) rfl (Nat.succ_pos _) (by omega) ?_
                rw [hscheme, hrun, hlength, Nat.add_assoc p]
            | failed hkept hrun =>
                refine .failed rfl ?_
                rw [hscheme]
                exact hrun
            | cut j hkept hpos hj hrun =>
                refine .cut (u.length + 2 + j) rfl (by omega) (by omega) ?_
                rw [hscheme, hrun, hlength, Nat.add_assoc p, Nat.add_assoc p]
        · have hother : (CharClass.digit ++ [(45, 45), (46, 46), (95, 95), (126, 126)] ++ CharClass.sub_delims ++
              more_delims r).has c = true := by
            rw [reg_char, CharClass.unreserved] at hc
            simp only [CharClass.has_append, Bool.or_eq_true] at hc ⊢
            simpa [halpha] using hc
          exact .of_leads hd (request_goto (by cases r <;> rfl) hother) (leads_noscheme hs)
  | @coded a b s ha hb hs =>
      have hab : (segment (a :: b :: s)).contains 58 = (segment s).contains 58 := by
        rw [segment_cons (xdigit_ne ha).1, segment_cons (xdigit_ne hb).1, contains_cons_ne (xdigit_ne ha).2.1,
          contains_cons_ne (xdigit_ne hb).2.1]
      rw [relative_part_cons (by decide) (by decide), hab]
      refine .of_leads (t := 24) hd (by cases r <;> rfl) ?_
      exact .cons (t := 25) (request_goto (by cases r <;> rfl) ha)
        (.cons (request_goto (by cases r <;> rfl) hb) (leads_noscheme hs))

end Run

end Mingfwq.Http
