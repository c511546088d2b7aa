import Mingfwq.Uri.Lemmas.Regions

/-!
# The end of a URI

A run of Create that has come to a state behind the bytes `pre`, and the query and the fragment, which are read alike
behind every kind of reference.
-/

namespace Mingfwq.Uri

open Lib

variable {pre xs ys zs path : Bytes} {c : UInt8} {q n : Nat} {parser parser' : Parser} {uri uri' : Uri}
  {acts : List Action}  {mark : Option Nat} {Q : States} {exits : List (Edge Action)} {query fragment : Option Bytes}

/-! ## Where a run goes on -/

/-- What comes of the bytes `xs` behind the bytes `pre`, in state `cs`. -/
def createFrom (pre xs : Bytes) (cs : Nat) (parser : Parser) : Option (Option Uri) :=
  finish (pre ++ xs) (scan uri_parser_next (fun _ => false) (run (pre ++ xs)) pre.length xs cs parser)

theorem Create_eq (uristr : Bytes) : Create uristr = createFrom [] uristr uri_parser_start ⟨none, new⟩ := rfl

theorem createFrom_cons (h : goto uri_parser_next q c = some (acts, n))
    (hr : runActs (run (pre ++ c :: xs)) acts pre.length parser = some parser') :
    createFrom pre (c :: xs) q parser = createFrom (pre ++ [c]) xs n parser' := by
  have happ : pre ++ [c] ++ xs = pre ++ c :: xs := by rw [List.append_assoc, List.singleton_append]
  have hany : acts.any (fun _ => false) = false := by simp
  rw [createFrom, scan_goto_live h hr hany, createFrom, happ, List.length_append, List.length_singleton]

theorem createFrom_walk (h : walk (goto uri_parser_next) ys q = some n) :
    createFrom pre (ys ++ xs) q parser = createFrom (pre ++ ys) xs n parser := by
  rw [createFrom, scan_walk h, createFrom, List.append_assoc, List.length_append]

theorem createFrom_stuck (h : goto uri_parser_next q c = none) : createFrom pre (c :: xs) q parser = some none := by
  rw [createFrom, scan_goto_none h]
  rfl

theorem createFrom_fault (h : goto uri_parser_next q c = some (acts, n))
    (hr : runActs (run (pre ++ c :: xs)) acts pre.length parser = none) : createFrom pre (c :: xs) q parser = none := by
  obtain ⟨e, he, heq⟩ := Option.map_eq_some_iff.mp h
  obtain ⟨rfl, rfl⟩ := Prod.mk.inj heq
  rw [createFrom, scan_cons_fault he hr]
  rfl

theorem createFrom_nil : createFrom pre [] q parser =
    (runActs (run pre) (eofActions q) pre.length parser).map fun parser =>
      if uri_parser_first_final ≤ q then some parser.uri else none := by
  rw [createFrom, List.append_nil]
  rfl

/-- A run that goes on is not null, and nothing throws. -/
theorem accepted_cons (h : createFrom pre (c :: xs) q parser = some (some uri)) :
    ∃ acts n parser', goto uri_parser_next q c = some (acts, n) ∧
      runActs (run (pre ++ c :: xs)) acts pre.length parser = some parser' ∧
        createFrom (pre ++ [c]) xs n parser' = some (some uri) := by
  cases hgoto : goto uri_parser_next q c with
  | none =>
      rw [createFrom_stuck hgoto] at h
      cases h
  | some edge =>
      obtain ⟨acts, n⟩ := edge
      cases hr : runActs (run (pre ++ c :: xs)) acts pre.length parser with
      | none =>
          rw [createFrom_fault hgoto hr] at h
          cases h
      | some parser' =>
          rw [createFrom_cons hgoto hr] at h
          exact ⟨acts, n, parser', rfl, hr, h⟩

theorem accepted_goto (h : createFrom pre (c :: xs) q parser = some (some uri))
    (hgoto : goto uri_parser_next q c = some (acts, n)) :
    ∃ parser', runActs (run (pre ++ c :: xs)) acts pre.length parser = some parser' ∧
      createFrom (pre ++ [c]) xs n parser' = some (some uri) := by
  obtain ⟨acts', n', parser', hgoto', hr, h⟩ := accepted_cons h
  cases hgoto.symm.trans hgoto'
  exact ⟨parser', hr, h⟩

theorem accepted_nil (h : createFrom pre [] q parser = some (some uri)) :
    uri_parser_first_final ≤ q ∧
      ∃ parser', runActs (run pre) (eofActions q) pre.length parser = some parser' ∧ parser'.uri = uri := by
  rw [createFrom_nil, Option.map_eq_some_iff] at h
  obtain ⟨parser', hr, h⟩ := h
  split at h
  · next hfinal => exact ⟨hfinal, parser', hr, Option.some.inj h⟩
  · cases h

/-- A run through a region that is accepted ends with the input or leaves it by an exit. -/
theorem accepted_region (hregion : uri_parser_table.region Q [] Q exits = true) (hq : Q.has q = true)
    (h : createFrom pre xs q parser = some (some uri)) :
    ∃ ys zs n, xs = ys ++ zs ∧ Within uri_parser_next Q ys q n ∧ Q.has n = true ∧
      createFrom (pre ++ ys) zs n parser = some (some uri) ∧
        (zs = [] ∨ ∃ c rest, zs = c :: rest ∧ ∃ e ∈ exits, e.lo ≤ c.toNat ∧ c.toNat ≤ e.hi ∧
          goto uri_parser_next n c = some (e.acts, e.target)) := by
  obtain ⟨ys, zs, n, rfl, hwithin, hn, hends⟩ := Table.exists_within hregion hq xs
  rw [createFrom_walk hwithin.walk] at h
  refine ⟨ys, zs, n, rfl, hwithin, hn, h, ?_⟩
  cases hends with
  | nil => exact .inl rfl
  | stuck hnone =>
      rw [createFrom_stuck (Option.map_eq_none_iff.mpr hnone)] at h
      cases h
  | exit he hnext hlo hhi => exact .inr ⟨_, _, rfl, _, he, hlo, hhi, congrArg (Option.map _) hnext⟩

theorem byte_eq {m : UInt8} (hlo : m.toNat ≤ c.toNat) (hhi : c.toNat ≤ m.toNat) : c = m :=
  UInt8.toNat_inj.mp (Nat.le_antisymm hhi hlo)

theorem has_self {lo hi : Nat} (hlo : lo ≤ c.toNat) (hhi : c.toNat ≤ hi) : CharClass.has [(lo, hi)] c = true := by
  simp only [CharClass.has, List.any_cons, List.any_nil, Bool.or_false, Bool.and_eq_true, decide_eq_true_eq]
  exact ⟨hlo, hhi⟩

@[simp] theorem marked_append : marked (pre ++ xs ++ ys) (some pre.length) (pre ++ xs).length = some xs := by
  rw [marked, Option.map_some, List.append_assoc, List.drop_left, List.length_append, Nat.add_sub_cancel_left,
    List.take_left]

@[simp] theorem marked_end : marked (pre ++ xs) (some pre.length) (pre ++ xs).length = some xs := by
  have h := @marked_append pre xs []
  rwa [List.append_nil] at h

@[simp] theorem marked_nil : marked xs (some n) n = some [] := by
  rw [marked, Option.map_some, Nat.sub_self, List.take_zero]

/-! ## Words -/

section Words

variable {cl : CharClass} {P : States} {s u u' : Nat}

/-- A mark is set at the first byte, and the run goes on within a region. -/
theorem createFrom_marked {a : Action} (ha : a = .marku ∨ a = .markh)
    (hgoto : goto uri_parser_next q c = some ([a], s)) (hw : Within uri_parser_next Q ys s n) :
    createFrom pre (c :: (ys ++ zs)) q ⟨mark, uri⟩ = createFrom (pre ++ c :: ys) zs n ⟨some pre.length, uri⟩ := by
  have hr : runActs (run (pre ++ c :: (ys ++ zs))) [a] pre.length ⟨mark, uri⟩ = some ⟨some pre.length, uri⟩ := by
    rcases ha with rfl | rfl <;> rfl
  rw [createFrom_cons hgoto hr, createFrom_walk hw.walk, List.append_assoc, List.singleton_append]

theorem accepted_words (honly : OnlyWords uri_parser_table cl P u u')
    (hregion : uri_parser_table.region (P.withPercent u u') [] (P.withPercent u u') exits = true)
    (hexits : ∀ e ∈ exits, (P.withPercent u u').has e.target ≠ true) (hu : u < uri_parser_first_final)
    (hu' : u' < uri_parser_first_final) (hs : (P.withPercent u u').has s = true)
    (h : createFrom pre xs s parser = some (some uri)) :
    ∃ ys zs n, xs = ys ++ zs ∧ Within uri_parser_next (P.withPercent u u') ys s n ∧ P.has n = true ∧
      createFrom (pre ++ ys) zs n parser = some (some uri) ∧
        (zs = [] ∨ ∃ c rest, zs = c :: rest ∧ ∃ e ∈ exits, e.lo ≤ c.toNat ∧ c.toNat ≤ e.hi ∧
          goto uri_parser_next n c = some (e.acts, e.target)) := by
  obtain ⟨ys, zs, n, rfl, hw, hn, h, hends⟩ := accepted_region hregion hs h
  refine ⟨ys, zs, n, rfl, hw, ?_, h, hends⟩
  rcases hends with rfl | ⟨c, rest, rfl, e, he, -, -, hgoto⟩
  · have hfinal := (accepted_nil h).1
    rcases States.has_withPercent.mp hn with rfl | rfl | hn
    · exact absurd hfinal (Nat.not_le.mpr hu)
    · exact absurd hfinal (Nat.not_le.mpr hu')
    · exact hn
  · exact honly.has_of_exit hn hgoto (hexits e he)

end Words

/-! ## Fragments -/

theorem createFrom_fragment (h : Coded query_char xs) :
    createFrom pre xs 453 ⟨mark, uri⟩ = some (some (uri.setFragment xs)) := by
  have heof : eofActions 453 = [.marku, .save_fragment] := by rfl
  have heof' : eofActions 454 = [.save_fragment] := by rfl
  by_cases hne : xs = []
  · subst hne
    simp [createFrom_nil, heof, runActs, run, uri_parser_first_final]
  · obtain ⟨c, ys, s, n, rfl, hgoto, -, hw, hn⟩ := fragment_words.marked fragment_marks h hne
    obtain rfl := States.has_singleton.mp hn
    have hrun := @createFrom_marked pre ys [] c 453 454 uri mark _ s .marku (.inl rfl) hgoto hw
    rw [List.append_nil] at hrun
    rw [hrun, createFrom_nil, heof', runActs_singleton, run, marked_end]
    rfl

theorem accepted_fragment (h : createFrom pre xs 453 ⟨mark, uri⟩ = some (some uri')) :
    Coded query_char xs := by
  cases xs with
  | nil => exact .nil
  | cons c xs =>
      obtain ⟨acts, n, parser', hgoto, -, h⟩ := accepted_cons h
      rcases Table.next_of_region (c := c) fragment_start (States.has_singleton.mpr rfl) with
        hnone | ⟨s, hs, hgoto'⟩ | ⟨e, he, -⟩
      · cases hgoto.symm.trans (Option.map_eq_none_iff.mpr hnone)
      · cases hgoto.symm.trans hgoto'
        obtain ⟨ys, zs, n, rfl, hw, hn, -, rfl | ⟨-, -, -, e, he, -⟩⟩ :=
          accepted_words fragment_only fragment_region (by simp) (by decide) (by decide) hs h
        · rw [List.append_nil]
          exact fragment_only.coded_marked fragment_onlyMarks hgoto' hs hw hn
        · exact absurd he List.not_mem_nil
      · exact absurd he List.not_mem_nil

/-! ## Queries -/

def withQuery (uri : Uri) (query : Option Bytes) : Uri := query.elim uri uri.setQuery

def withFragment (uri : Uri) (fragment : Option Bytes) : Uri := fragment.elim uri uri.setFragment

/-- `[ "#" fragment ]` -/
def fragmentText (fragment : Option Bytes) : Bytes := fragment.elim [] (35 :: ·)

/-- A fragment, or the end. -/
theorem createFrom_fragmentText (heof : uri_parser_first_final ≤ q) (hacts : eofActions q = acts)
    (hgoto : goto uri_parser_next q 35 = some (acts, 453))
    (hr : runActs (run (pre ++ fragmentText fragment)) acts pre.length parser = some parser')
    (h : ∀ f ∈ fragment, Coded query_char f) :
    createFrom pre (fragmentText fragment) q parser = some (some (parser'.uri.withFragment fragment)) := by
  cases fragment with
  | none =>
      rw [fragmentText, Option.elim_none, List.append_nil] at hr
      rw [fragmentText, Option.elim_none, createFrom_nil, hacts, hr, Option.map_some, if_pos heof]
      rfl
  | some f =>
      rw [fragmentText, Option.elim_some, createFrom_cons hgoto hr, createFrom_fragment (h f rfl)]
      rfl

theorem createFrom_query (h : Coded query_char xs) (hf : ∀ f ∈ fragment, Coded query_char f) :
    createFrom pre (xs ++ fragmentText fragment) 456 ⟨mark, uri⟩ =
      some (some ((uri.setQuery xs).withFragment fragment)) := by
  by_cases hne : xs = []
  · subst hne
    have hr : runActs (run (pre ++ fragmentText fragment)) [.marku, .save_query] pre.length ⟨mark, uri⟩ =
        some ⟨none, uri.setQuery []⟩ := by
      rw [runActs, List.foldlM_cons]
      simp [run]
    exact createFrom_fragmentText (by decide) (by rfl) (by rfl) hr hf
  · obtain ⟨c, ys, s, n, rfl, hgoto, -, hw, hn⟩ := query_words.marked query_marks h hne
    obtain rfl := States.has_singleton.mp hn
    rw [List.cons_append, createFrom_marked (.inl rfl) hgoto hw]
    have hr : runActs (run (pre ++ c :: ys ++ fragmentText fragment)) [.save_query] (pre ++ c :: ys).length
        ⟨some pre.length, uri⟩ = some ⟨none, uri.setQuery (c :: ys)⟩ := by
      rw [runActs_singleton, run, marked_append]
      rfl
    exact createFrom_fragmentText (by decide) (by rfl) (by rfl) hr hf

theorem accepted_query (h : createFrom pre xs 456 ⟨mark, uri⟩ = some (some uri')) :
    ∃ ys fragment, xs = ys ++ fragmentText fragment ∧ Coded query_char ys ∧ ∀ f ∈ fragment, Coded query_char f := by
  have hnone : ∀ f ∈ (none : Option Bytes), Coded query_char f := fun f hf => nomatch hf
  cases xs with
  | nil => exact ⟨[], none, rfl, .nil, hnone⟩
  | cons c xs =>
      obtain ⟨acts, n, ⟨mark', uri₁⟩, hgoto, -, h⟩ := accepted_cons h
      rcases Table.next_of_region (c := c) query_start (States.has_singleton.mpr rfl) with
        hno | ⟨s, hs, hgoto'⟩ | ⟨e, he, hnext, hlo, hhi⟩
      · cases hgoto.symm.trans (Option.map_eq_none_iff.mpr hno)
      · cases hgoto.symm.trans hgoto'
        obtain ⟨ys, zs, n, rfl, hw, hn, h, hends⟩ :=
          accepted_words query_only query_region (by decide) (by decide) (by decide) hs h
        have hcoded := query_only.coded_marked query_onlyMarks hgoto' hs hw hn
        rcases hends with rfl | ⟨d, rest, rfl, e, he, hlo, hhi, hexit⟩
        · exact ⟨c :: ys, none, rfl, hcoded, hnone⟩
        · obtain rfl := List.mem_singleton.mp he
          obtain rfl : d = 35 := byte_eq hlo hhi
          obtain ⟨⟨mark₂, uri₂⟩, -, h⟩ := accepted_goto h hexit
          refine ⟨c :: ys, some rest, rfl, hcoded, fun f hf => ?_⟩
          obtain rfl := Option.some.inj hf
          exact accepted_fragment h
      · obtain rfl := List.mem_singleton.mp he
        obtain rfl : c = 35 := byte_eq hlo hhi
        cases hgoto.symm.trans (congrArg (Option.map _) hnext)
        refine ⟨[], some xs, rfl, .nil, fun f hf => ?_⟩
        obtain rfl := Option.some.inj hf
        exact accepted_fragment h

theorem Ending.createFrom (h : Ending q acts)
    (hr : runActs (run (pre ++ tail query fragment)) acts pre.length parser = some parser')
    (hquery : ∀ f ∈ query, Coded query_char f) (hfragment : ∀ f ∈ fragment, Coded query_char f) :
    createFrom pre (tail query fragment) q parser =
      some (some ((parser'.uri.withQuery query).withFragment fragment)) := by
  cases query with
  | none => exact createFrom_fragmentText h.final h.eof h.fragment hr hfragment
  | some xs =>
      have htail : tail (some xs) fragment = 63 :: (xs ++ fragmentText fragment) := rfl
      rw [htail] at hr ⊢
      rw [createFrom_cons h.query hr, createFrom_query (hquery xs rfl) hfragment]
      rfl

/-- What is accepted from where a query or a fragment begins, or the end comes, is the text of these. -/
theorem Ending.accepted (h : Ending q acts) (haccept : Uri.createFrom pre xs q parser = some (some uri))
    (hxs : ∀ c ∈ xs.head?, c = 63 ∨ c = 35) :
    ∃ query fragment parser', xs = tail query fragment ∧ (∀ f ∈ query, Coded query_char f) ∧
      (∀ f ∈ fragment, Coded query_char f) ∧
        runActs (run (pre ++ tail query fragment)) acts pre.length parser = some parser' ∧
          uri = (parser'.uri.withQuery query).withFragment fragment := by
  have hform : ∃ query fragment parser', xs = tail query fragment ∧ (∀ f ∈ query, Coded query_char f) ∧
      (∀ f ∈ fragment, Coded query_char f) ∧
        runActs (run (pre ++ tail query fragment)) acts pre.length parser = some parser' := by
    have hnone : ∀ f ∈ (none : Option Bytes), Coded query_char f := fun f hf => nomatch hf
    cases xs with
    | nil =>
        obtain ⟨-, parser', hr, -⟩ := accepted_nil haccept
        rw [h.eof] at hr
        refine ⟨none, none, parser', rfl, hnone, hnone, ?_⟩
        rw [tail, Option.elim_none, Option.elim_none, List.append_nil, List.append_nil]
        exact hr
    | cons c xs =>
        rcases hxs c rfl with rfl | rfl
        · obtain ⟨⟨mark', uri'⟩, hr, haccept⟩ := accepted_goto haccept h.query
          obtain ⟨ys, fragment, rfl, hys, hfragment⟩ := accepted_query haccept
          refine ⟨some ys, fragment, _, rfl, fun f hf => ?_, hfragment, hr⟩
          obtain rfl := Option.some.inj hf
          exact hys
        · obtain ⟨⟨mark', uri'⟩, hr, haccept⟩ := accepted_goto haccept h.fragment
          refine ⟨none, some xs, _, rfl, hnone, fun f hf => ?_, hr⟩
          obtain rfl := Option.some.inj hf
          exact accepted_fragment haccept
  obtain ⟨query, fragment, parser', rfl, hquery, hfragment, hr⟩ := hform
  rw [h.createFrom hr hquery hfragment] at haccept
  exact ⟨query, fragment, parser', rfl, hquery, hfragment, hr, (Option.some.inj (Option.some.inj haccept)).symm⟩

/-! ## Paths -/

/-- A path behind its slash, where the mark stands. -/
theorem createFrom_path (h : Coded path_char xs) (hquery : ∀ f ∈ query, Coded query_char f)
    (hfragment : ∀ f ∈ fragment, Coded query_char f) :
    createFrom (pre ++ [47]) (xs ++ tail query fragment) 513 ⟨some pre.length, uri⟩ =
      some (some (((uri.setPath (47 :: xs)).withQuery query).withFragment fragment)) := by
  obtain ⟨n, hn, hw⟩ := path_words.within h (States.has_singleton.mpr rfl)
  obtain rfl := States.has_singleton.mp hn
  rw [createFrom_walk hw.walk]
  have hr : runActs (run (pre ++ [47] ++ xs ++ tail query fragment)) [.save_path] (pre ++ [47] ++ xs).length
      ⟨some pre.length, uri⟩ = some ⟨none, uri.setPath (47 :: xs)⟩ := by
    rw [List.append_assoc pre, List.singleton_append, runActs_singleton, run, marked_append]
    rfl
  exact path_ending.createFrom hr hquery hfragment

/-- A path without a mark throws at its end. -/
theorem accepted_path (h : createFrom pre xs 513 ⟨mark, uri⟩ = some (some uri')) :
    mark ≠ none ∧ ∃ path query fragment, xs = path ++ tail query fragment ∧ Coded path_char path ∧
      (∀ f ∈ query, Coded query_char f) ∧ ∀ f ∈ fragment, Coded query_char f := by
  have hstart : (States.withPercent [(513, 513)] 243 244).has 513 = true := by rfl
  obtain ⟨path, zs, n, rfl, hw, hn, h, hends⟩ :=
    accepted_words path_only path_region (by decide) (by decide) (by decide) hstart h
  have hpath := path_only.coded hw (States.has_singleton.mpr rfl) hn
  obtain rfl := States.has_singleton.mp hn
  have hhead : ∀ c ∈ zs.head?, c = 63 ∨ c = 35 := by
    intro c hc
    rcases hends with rfl | ⟨d, rest, rfl, e, he, hlo, hhi, -⟩
    · cases hc
    · obtain rfl := Option.some.inj hc
      rcases List.mem_cons.mp he with rfl | he
      · exact .inr (byte_eq hlo hhi)
      · obtain rfl := List.mem_singleton.mp he
        exact .inl (byte_eq hlo hhi)
  obtain ⟨query, fragment, parser', rfl, hquery, hfragment, hr, -⟩ := path_ending.accepted h hhead
  refine ⟨?_, path, query, fragment, rfl, hpath, hquery, hfragment⟩
  rintro rfl
  cases hr

end Mingfwq.Uri
