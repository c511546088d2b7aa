import Mingfwq.Uri.Lemmas.Tail

/-!
# The scheme

A scheme and the first segment of a relative path are read in the same states; only the colon tells them apart.
-/

namespace Mingfwq.Uri

open Lib

open Http (ascii)

variable {pre xs ys scheme rest : Bytes} {c : UInt8} {q n p : Nat} {parser parser' : Parser} {uri uri' : Uri}
  {acts : List Action} {mark : Option Nat} {a : Action}

/-! ## With a scheme -/

theorem createFrom_scheme (h : IsScheme scheme) :
    Create (scheme ++ 58 :: rest) = createFrom (scheme ++ [58]) rest 509 ⟨none, new.setScheme scheme⟩ := by
  obtain ⟨c, ys, rfl, hc, hys⟩ := h
  have hw : ∀ zs, (∀ d ∈ zs, scheme_char.has d = true) → Within uri_parser_next [(508, 508)] zs 508 508 := by
    intro zs hzs
    induction zs with
    | nil => exact .nil
    | cons d zs ih =>
        obtain ⟨hd, hzs⟩ := List.forall_mem_cons.mp hzs
        exact .cons (Table.goto_of_leads scheme_next hd) (States.has_singleton.mpr rfl) (ih hzs)
  rw [Create_eq, List.cons_append]
  refine (createFrom_marked (.inl rfl) (Table.goto_of_leads scheme_first hc) (hw ys hys)).trans ?_
  refine createFrom_cons scheme_colon ?_
  rw [runActs_singleton, run]
  exact congrArg (Option.map _) (@marked_append [] _ _)

theorem createFrom_slashes :
    createFrom pre (47 :: 47 :: xs) 509 parser = createFrom (pre ++ [47, 47]) xs 511 parser := by
  rw [createFrom_cons slash_first rfl, createFrom_cons slash_second rfl, List.append_assoc]
  rfl

/-! ## Without a scheme -/

theorem run_m_scheme (ha : a ≠ .save_scheme) (h : run xs a p parser = some parser') :
    parser'.uri.m_scheme = parser.uri.m_scheme := by
  obtain ⟨mark, uri⟩ := parser
  cases a with
  | save_scheme => exact absurd rfl ha
  | marku | markh => cases h; rfl
  | save_port | save_userinfo | save_host =>
      simp only [run] at h
      split at h
      · obtain ⟨v, -, rfl⟩ := Option.map_eq_some_iff.mp h
        rfl
      · cases h
        rfl
  | save_path | save_query | save_fragment =>
      obtain ⟨v, -, rfl⟩ := Option.map_eq_some_iff.mp h
      rfl

theorem runActs_m_scheme (hacts : acts.contains .save_scheme = false)
    (h : runActs (run xs) acts p parser = some parser') :
    parser'.uri.m_scheme = parser.uri.m_scheme := by
  induction acts generalizing parser with
  | nil => cases h; rfl
  | cons a acts ih =>
      rw [List.contains_cons, Bool.or_eq_false_iff, beq_eq_false_iff_ne] at hacts
      rw [runActs, List.foldlM_cons] at h
      obtain ⟨parser₁, hr, h⟩ := Option.bind_eq_some_iff.mp h
      rw [ih hacts.2 h, run_m_scheme (Ne.symm hacts.1) hr]

theorem eofActions_scheme (q : Nat) : (eofActions q).contains .save_scheme = false := by
  rw [eofActions]
  split
  · next heq =>
      have hall := List.all_eq_true.mp scheme_eof _ (List.mem_of_find?_eq_some heq)
      simpa using hall
  · rfl

theorem accepted_m_scheme (hq : otherStates.has q = true) (h : createFrom pre xs q parser = some (some uri)) :
    uri.m_scheme = parser.uri.m_scheme := by
  induction xs generalizing pre q parser with
  | nil =>
      obtain ⟨-, parser', hr, rfl⟩ := accepted_nil h
      exact runActs_m_scheme (eofActions_scheme q) hr
  | cons c xs ih =>
      obtain ⟨acts, n, parser', hgoto, hr, h⟩ := accepted_cons h
      obtain ⟨e, he, -, -, rfl, rfl⟩ := Table.exists_edge hgoto
      have hedge := Table.of_forEdges scheme_edges hq he
      rw [Bool.and_eq_true, Bool.not_eq_true'] at hedge
      rw [ih hedge.2 h, runActs_m_scheme hedge.1 hr]

/-- No colon comes before the other delimiters. -/
def NoScheme (xs : Bytes) : Prop := xs.find? scheme_end.has ≠ some 58

theorem noScheme_cons (hc : c ≠ 58) (h : authority_end.has c = true ∨ NoScheme xs) : NoScheme (c :: xs) := by
  rw [NoScheme, List.find?_cons]
  split
  · exact fun heq => hc (Option.some.inj heq)
  · next hend =>
      refine h.resolve_left fun hauthority => ?_
      have hscheme : scheme_end.has c = true := by
        rw [scheme_end, CharClass.has, List.any_cons, Bool.or_eq_true]
        exact .inr hauthority
      cases hend.symm.trans hscheme

theorem ne_colon {e : Edge Action} (h : misses [e] [(58, 58)] = true) (hlo : e.lo ≤ c.toNat) (hhi : c.toNat ≤ e.hi) :
    c ≠ 58 := by
  rintro rfl
  cases e.has_of_misses h hlo hhi

theorem accepted_segment (hq : segmentStates.has q = true) (h : createFrom pre xs q parser = some (some uri)) :
    NoScheme xs := by
  induction xs generalizing pre q parser with
  | nil => exact nofun
  | cons c xs ih =>
      obtain ⟨acts, n, parser', hgoto, -, h⟩ := accepted_cons h
      obtain ⟨e, he, hlo, hhi, -, rfl⟩ := Table.exists_edge hgoto
      have hedge := Table.of_forEdges segment_edges hq he
      rw [Bool.and_eq_true, Bool.or_eq_true] at hedge
      refine noScheme_cons (ne_colon hedge.1 hlo hhi) ?_
      rcases hedge.2 with htarget | hclass
      · exact .inr (ih htarget h)
      · exact .inl (e.has_of_inClass hclass hlo hhi)

/-! ## What is accepted -/

/-- A byte goes on in a scheme or ends it, or there is none. -/
inductive Front (uri : Uri) (q : Nat) (xs : Bytes) (c : UInt8) : Prop
  | next : goto uri_parser_next q c = some (if q = 451 then [.marku] else [], 508) →
      CharClass.has (if q = 451 then .alpha else scheme_char) c = true → Front uri q xs c
  | colon : c = 58 → q = 508 → Front uri q xs c
  | relative : uri.m_scheme = [] → NoScheme (c :: xs) → Front uri q xs c

theorem accepted_front (hq : q ∈ [451, 508]) (h : createFrom pre (c :: xs) q ⟨mark, new⟩ = some (some uri)) :
    Front uri q xs c := by
  obtain ⟨acts, n, parser, hgoto, hr, h⟩ := accepted_cons h
  obtain ⟨e, he, hlo, hhi, rfl, rfl⟩ := Table.exists_edge hgoto
  have hedge := List.all_eq_true.mp (List.all_eq_true.mp start_edges q hq) e he
  simp only [Bool.or_eq_true, Bool.and_eq_true, beq_iff_eq, List.isEmpty_iff] at hedge
  rcases hedge with (⟨⟨htarget, hacts⟩, hclass⟩ | rfl) | ⟨⟨⟨hacts, hmisses⟩, hother⟩, htarget⟩
  · rw [htarget, hacts] at hgoto
    exact .next hgoto (e.has_of_inClass hclass hlo hhi)
  · obtain rfl : c = 58 := byte_eq hlo hhi
    refine .colon rfl ?_
    simp only [List.mem_cons, List.not_mem_nil, or_false] at hq
    refine hq.resolve_left ?_
    rintro rfl
    cases hgoto.symm.trans no_scheme_colon
  · rw [hacts] at hr
    cases hr
    refine .relative (accepted_m_scheme hother h) (noScheme_cons (ne_colon hmisses hlo hhi) ?_)
    rcases htarget with htarget | hclass
    · exact .inr (accepted_segment htarget h)
    · exact .inl (e.has_of_inClass hclass hlo hhi)

/-- What is accepted has a scheme in front of the first colon, or no scheme, and then no colon to begin with. -/
inductive Begins (uri : Uri) (xs : Bytes) : Prop
  | scheme {scheme rest : Bytes} : xs = scheme ++ 58 :: rest → IsScheme scheme →
      createFrom (scheme ++ [58]) rest 509 ⟨none, new.setScheme scheme⟩ = some (some uri) → Begins uri xs
  | relative : uri.m_scheme = [] → NoScheme xs → Begins uri xs

theorem delim_of_scheme (h : scheme_char.has c = true) : scheme_end.has c = false := by
  revert h
  exact forall_byte (P := fun c => scheme_char.has c = true → scheme_end.has c = false) (by decide +kernel) c

theorem noScheme_next (hc : scheme_end.has c = false) (h : NoScheme xs) : NoScheme (c :: xs) := by
  rwa [NoScheme, List.find?_cons, hc]

theorem accepted_scheme (hscheme : IsScheme scheme) (h : createFrom scheme xs 508 ⟨some 0, new⟩ = some (some uri)) :
    (∃ ys rest, xs = ys ++ 58 :: rest ∧ (∀ d ∈ ys, scheme_char.has d = true)) ∨ uri.m_scheme = [] ∧ NoScheme xs := by
  induction xs generalizing scheme with
  | nil =>
      obtain ⟨-, parser', hr, rfl⟩ := accepted_nil h
      exact .inr ⟨runActs_m_scheme (eofActions_scheme 508) hr, nofun⟩
  | cons c xs ih =>
      rcases accepted_front (q := 508) (by simp) h with ⟨hgoto, hc⟩ | ⟨rfl, -⟩ | ⟨hnone, hxs⟩
      · obtain ⟨parser', hr, h⟩ := accepted_goto h hgoto
        cases hr
        obtain ⟨a, as, rfl, ha, has⟩ := hscheme
        have hnext : IsScheme (a :: as ++ [c]) :=
          ⟨a, as ++ [c], rfl, ha, List.forall_mem_append.mpr ⟨has, List.forall_mem_singleton.mpr hc⟩⟩
        rcases ih hnext h with ⟨ys, rest, rfl, hys⟩ | ⟨hnone, hxs⟩
        · exact .inl ⟨c :: ys, rest, rfl, List.forall_mem_cons.mpr ⟨hc, hys⟩⟩
        · exact .inr ⟨hnone, noScheme_next (delim_of_scheme hc) hxs⟩
      · exact .inl ⟨[], xs, rfl, fun d hd => nomatch hd⟩
      · exact .inr ⟨hnone, hxs⟩

theorem accepted_begins (h : Create xs = some (some uri)) : Begins uri xs := by
  have hstart := h
  rw [Create_eq] at hstart
  cases xs with
  | nil =>
      obtain ⟨-, parser', hr, rfl⟩ := accepted_nil hstart
      exact .relative (runActs_m_scheme (eofActions_scheme _) hr) nofun
  | cons c xs =>
      rcases accepted_front (q := 451) (by simp) hstart with ⟨hgoto, hc⟩ | ⟨-, hq⟩ | ⟨hnone, hxs⟩
      · obtain ⟨parser', hr, hstart⟩ := accepted_goto hstart hgoto
        cases hr
        have hfirst : IsScheme [c] := ⟨c, [], rfl, hc, fun d hd => nomatch hd⟩
        rcases accepted_scheme hfirst hstart with ⟨ys, rest, rfl, hys⟩ | ⟨hnone, hxs⟩
        · have hscheme : IsScheme (c :: ys) := ⟨c, ys, rfl, hc, hys⟩
          rw [← List.cons_append, createFrom_scheme hscheme] at h
          exact .scheme rfl hscheme h
        · have hchar : scheme_char.has c = true := by
            rw [scheme_char, CharClass.has_append, CharClass.has_append, Bool.or_assoc]
            exact Bool.or_eq_true_iff.mpr (.inl hc)
          exact .relative hnone (noScheme_next (delim_of_scheme hchar) hxs)
      · cases hq
      · exact .relative hnone hxs

/-! ## Behind the scheme, without an authority -/

/-- A path behind the scheme is read, and nothing is kept of it. -/
theorem accepted_rest (hq : q = 509 ∨ q = 510) (hxs : xs.head? ≠ some 47)
    (h : createFrom pre xs q parser = some (some uri)) :
    ∃ path query fragment, xs = path ++ tail query fragment ∧ Coded path_char path ∧
      (∀ f ∈ query, Coded query_char f) ∧ (∀ f ∈ fragment, Coded query_char f) ∧
        uri = (parser.uri.withQuery query).withFragment fragment := by
  have hending : Ending q [] := by
    rcases hq with rfl | rfl
    · exact rest_ending.2.1
    · exact rest_ending.2.2
  have hempty (hhead : ∀ c ∈ xs.head?, c = 63 ∨ c = 35) :
      ∃ path query fragment, xs = path ++ tail query fragment ∧ Coded path_char path ∧
        (∀ f ∈ query, Coded query_char f) ∧ (∀ f ∈ fragment, Coded query_char f) ∧
          uri = (parser.uri.withQuery query).withFragment fragment := by
    obtain ⟨query, fragment, parser', rfl, hquery, hfragment, hr, rfl⟩ := hending.accepted h hhead
    cases hr
    exact ⟨[], query, fragment, rfl, .nil, hquery, hfragment, rfl⟩
  cases xs with
  | nil => exact hempty fun c hc => nomatch hc
  | cons c xs =>
      obtain ⟨acts, n, parser', hgoto, hr, haccept⟩ := accepted_cons h
      have hstate : States.has [(509, 510)] q = true := by rcases hq with rfl | rfl <;> rfl
      rcases Table.next_of_region (c := c) rest_start hstate with hno | ⟨s, hs, hgoto'⟩ | ⟨e, he, hnext, hlo, hhi⟩
      · cases hgoto.symm.trans (Option.map_eq_none_iff.mpr hno)
      · cases hgoto.symm.trans hgoto'
        cases hr
        obtain ⟨ys, zs, n, rfl, hw, hn, haccept, hends⟩ :=
          accepted_words rest_only rest_region (by decide) (by decide) (by decide) hs haccept
        have hpath : Coded path_char (c :: ys) := by
          rcases hq with rfl | rfl
          · exact rest_only.coded_marked rest_onlyMarks.1 hgoto hs hw hn
          · exact rest_only.coded_marked rest_onlyMarks.2 hgoto hs hw hn
        obtain rfl := States.has_singleton.mp hn
        have hhead : ∀ d ∈ zs.head?, d = 63 ∨ d = 35 := by
          intro d hd
          rcases hends with rfl | ⟨d', rest, rfl, e, he, hlo, hhi, -⟩
          · cases hd
          · obtain rfl := Option.some.inj hd
            rcases List.mem_cons.mp he with rfl | he
            · exact .inr (byte_eq hlo hhi)
            · obtain rfl := List.mem_singleton.mp he
              exact .inl (byte_eq hlo hhi)
        obtain ⟨query, fragment, parser₁, rfl, hquery, hfragment, hr, rfl⟩ := rest_ending.1.accepted haccept hhead
        cases hr
        exact ⟨c :: ys, query, fragment, rfl, hpath, hquery, hfragment, rfl⟩
      · refine hempty fun d hd => ?_
        obtain rfl := Option.some.inj hd
        simp only [List.mem_cons, List.not_mem_nil, or_false] at he
        rcases he with rfl | rfl | rfl | rfl
        · exact .inr (byte_eq hlo hhi)
        · exact absurd (congrArg some (byte_eq (m := 47) hlo hhi)) hxs
        · exact absurd (congrArg some (byte_eq (m := 47) hlo hhi)) hxs
        · exact .inl (byte_eq hlo hhi)

/-- Behind the scheme an authority comes, or a path that does not begin like one. -/
theorem accepted_behind_scheme (h : createFrom pre xs 509 parser = some (some uri)) :
    (∃ rest, xs = 47 :: 47 :: rest ∧ createFrom (pre ++ [47, 47]) rest 511 parser = some (some uri)) ∨
      ∃ path query fragment, xs = path ++ tail query fragment ∧ Coded path_char path ∧ ¬ [47, 47] <+: xs ∧
        (∀ f ∈ query, Coded query_char f) ∧ (∀ f ∈ fragment, Coded query_char f) ∧
          uri = (parser.uri.withQuery query).withFragment fragment := by
  by_cases hslash : xs.head? = some 47
  · obtain ⟨xs, rfl⟩ : ∃ ys, xs = 47 :: ys := ⟨xs.tail, (List.cons_head?_tail hslash).symm⟩
    by_cases hsecond : xs.head? = some 47
    · obtain ⟨xs, rfl⟩ : ∃ ys, xs = 47 :: ys := ⟨xs.tail, (List.cons_head?_tail hsecond).symm⟩
      rw [createFrom_slashes] at h
      exact .inl ⟨xs, rfl, h⟩
    · rw [createFrom_cons slash_first rfl] at h
      obtain ⟨path, query, fragment, rfl, hpath, hquery, hfragment, huri⟩ := accepted_rest (.inr rfl) hsecond h
      refine .inr ⟨47 :: path, query, fragment, rfl, .plain (by decide) hpath, ?_, hquery, hfragment, huri⟩
      rintro ⟨ys, hys⟩
      exact hsecond (congrArg List.head? (List.cons.inj hys).2.symm)
  · obtain ⟨path, query, fragment, rfl, hpath, hquery, hfragment, huri⟩ := accepted_rest (.inl rfl) hslash h
    refine .inr ⟨path, query, fragment, rfl, hpath, ?_, hquery, hfragment, huri⟩
    rintro ⟨ys, hys⟩
    exact hslash (congrArg List.head? hys.symm)

end Mingfwq.Uri
