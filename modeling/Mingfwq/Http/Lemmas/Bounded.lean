import Mingfwq.Lib.Consumed
import Mingfwq.Http.Lemmas.Agree

/-!
# What a run over a request reads

A run whose registers are in range reads nothing behind its bytes, so what stands there makes no difference. A call
starts with all registers 0 but `query_start`.
-/

namespace Mingfwq.Http

open Lib

variable {bytes : Bytes} {n p cs : Nat} {u : Bool}

/-- Where the query begins: one that ends before that has no length. -/
def HttpParser.queryTrack : HttpParser.Action → Nat → Nat → Option Nat
  | .start_query, p, _ => some p
  | .query_string, p, query_start => if query_start ≤ p then some query_start else none
  | _, _, query_start => some query_start

/-- The registers a state still needs, but for the query. -/
def HttpParser.pendingHead (cs : Nat) : List HttpParser.Register :=
  (HttpParser.pending cs).filter (· ≠ .query_start)

/-- In the query, an edge ends it or does nothing. -/
def HttpParser.edgeQuery (cs : Nat) (e : Edge HttpParser.Action) : Bool :=
  .query_start ∉ pending cs ∨ e.acts = [] ∨ e.acts.head? = some .query_string

theorem http_parser_edge_query {c : UInt8} {e : Edge HttpParser.Action} (h : http_parser_next u cs c = some e) :
    .query_start ∉ HttpParser.pending cs ∨ e.acts = [] ∨ e.acts.head? = some .query_string := by
  have hedge := (http_parser_forall_next (P := fun cs e => HttpParser.edgeQuery cs e = true) (by decide +kernel)
    (by decide +kernel) h).1
  exact of_decide_eq_true hedge

/-- The parser after an action does not depend on the buffer. -/
theorem HttpParser.run_parser {cb : HttpParser.Callbacks (Parsed HttpRequest)} {buffer buffer' : Bytes} {n' : Nat}
    {a : HttpParser.Action} {k k₁ k₁' : HttpParser × Parsed HttpRequest}
    (h : HttpParser.run cb buffer n a p k = some k₁)
    (h' : HttpParser.run cb buffer' n' a p k = some k₁') : k₁.1 = k₁'.1 := by
  obtain ⟨parser, d⟩ := k
  cases a with
  | mark | start_value | start_field | write_field | start_query | xml | json =>
      cases h
      cases h'
      rfl
  | done =>
      simp only [run] at h h'
      split at h
      · next hsent =>
          rw [if_pos hsent] at h'
          cases h
          cases h'
          rfl
      · next hsent =>
          rw [if_neg hsent] at h'
          obtain ⟨_, -, rfl⟩ := Option.map_eq_some_iff.mp h
          obtain ⟨_, -, rfl⟩ := Option.map_eq_some_iff.mp h'
          rfl
  | write_value | request_method | request_uri | fragment | query_string | http_version | request_path =>
      obtain ⟨_, -, rfl⟩ := Option.map_eq_some_iff.mp h
      obtain ⟨_, -, rfl⟩ := Option.map_eq_some_iff.mp h'
      rfl

/-- The track follows the register. -/
theorem HttpParser.run_queryTrack {cb : HttpParser.Callbacks (Parsed HttpRequest)} {buffer : Bytes}
    {a : HttpParser.Action} {q : Nat} {k k' : HttpParser × Parsed HttpRequest}
    (h : HttpParser.run cb buffer n a p k = some k') (ht : queryTrack a p k.1.query_start = some q) :
    q = k'.1.query_start := by
  obtain ⟨parser, d⟩ := k
  cases a with
  | start_query =>
      cases h
      cases ht
      rfl
  | query_string =>
      obtain ⟨_, -, rfl⟩ := Option.map_eq_some_iff.mp h
      rw [queryTrack] at ht
      split at ht
      · cases ht
        rfl
      · cases ht
  | mark | start_value | start_field | write_field | xml | json =>
      cases h
      cases ht
      rfl
  | done =>
      cases ht
      simp only [run] at h
      split at h
      · cases h
        rfl
      · obtain ⟨_, -, rfl⟩ := Option.map_eq_some_iff.mp h
        rfl
  | write_value | request_method | request_uri | fragment | http_version | request_path =>
      obtain ⟨_, -, rfl⟩ := Option.map_eq_some_iff.mp h
      cases ht
      rfl

theorem HttpParser.runActs_queryTrack {cb : HttpParser.Callbacks (Parsed HttpRequest)} {buffer : Bytes}
    {acts : List HttpParser.Action} {q : Nat} {k k' : HttpParser × Parsed HttpRequest}
    (h : runActs (HttpParser.run cb buffer n) acts p k = some k')
    (ht : runActs queryTrack acts p k.1.query_start = some q) : q = k'.1.query_start := by
  induction acts generalizing k with
  | nil =>
      cases h
      cases ht
      rfl
  | cons a acts ih =>
      rw [runActs, List.foldlM_cons] at h ht
      obtain ⟨k₁, hk₁, h⟩ := Option.bind_eq_some_iff.mp h
      obtain ⟨q₁, hq₁, ht⟩ := Option.bind_eq_some_iff.mp ht
      rw [run_queryTrack hk₁ hq₁] at ht
      exact ih h ht

/-- A query that ends before it begins is longer than any string. -/
theorem HttpParser.run_queryTrack_some {buffer : Bytes} (hbuffer : buffer.length < 2 ^ 64) {a : HttpParser.Action}
    {k k' : HttpParser × Parsed HttpRequest} (hq : k.1.query_start < 2 ^ 64) (hp : p < 2 ^ 64)
    (h : HttpParser.run HttpRequestParser.callbacks buffer n a p k = some k') :
    queryTrack a p k.1.query_start = some k'.1.query_start ∧ k'.1.query_start < 2 ^ 64 := by
  have hsome : ∃ q, queryTrack a p k.1.query_start = some q ∧ q < 2 ^ 64 := by
    cases a with
    | start_query => exact ⟨p, rfl, hp⟩
    | query_string =>
        obtain ⟨parser, d⟩ := k
        obtain ⟨_, hd, rfl⟩ := Option.map_eq_some_iff.mp h
        obtain ⟨s, hs, -⟩ := Option.map_eq_some_iff.mp hd
        refine ⟨parser.query_start, if_pos ?_, hq⟩
        by_contra hlt
        rw [stdString, LEN, if_neg hlt] at hs
        split at hs
        · next hle =>
            rw [List.length_drop] at hle
            simp only at hq
            omega
        · cases hs
    | mark | start_value | start_field | write_field | xml | json | done | write_value | request_method | request_uri
      | fragment | http_version | request_path => exact ⟨_, rfl, hq⟩
  obtain ⟨q, hq', hlt⟩ := hsome
  obtain rfl := run_queryTrack h hq'
  exact ⟨hq', hlt⟩

/-- What keeps a run from reading behind its bytes. -/
structure HttpParser.Bounded (u : Bool) (bytes : Bytes) (cs p : Nat) (k : HttpParser × Parsed HttpRequest) : Prop where
  registers : Agree 0 p (pendingHead cs) k k
  query : scan (http_parser_next u) Action.breaks queryTrack p (bytes.drop p) cs k.1.query_start ≠ .fault

theorem pendingHead_of_not_mem (h : .query_start ∉ HttpParser.pending cs) :
    HttpParser.pendingHead cs = HttpParser.pending cs := by
  refine List.filter_eq_self.mpr fun r hr => ?_
  rw [decide_eq_true_eq]
  rintro rfl
  exact h hr

theorem pendingHead_subset : HttpParser.pendingHead cs ⊆ HttpParser.pending cs := List.filter_subset_self _

theorem shifted_append (bytes rest : Bytes) : Shifted bytes (bytes ++ rest) 0 bytes.length := by
  refine ⟨?_, Nat.le_refl _, ?_⟩
  · rw [List.drop_zero, List.take_length, List.take_left]
  · rw [List.length_append]
    omega

/-- One edge, with all registers in range that it needs. -/
theorem http_parser_edge_bounded (rest : Bytes) {c : UInt8} {e : Edge HttpParser.Action}
    {k : HttpParser × Parsed HttpRequest} {q : Nat}
    (hget : bytes[p]? = some c) (h : Agree 0 p (HttpParser.pending cs) k k) (he : http_parser_next u cs c = some e)
    (hq : runActs HttpParser.queryTrack e.acts p k.1.query_start = some q) :
    ∃ k', runActs (HttpParser.run HttpRequestParser.callbacks bytes bytes.length) e.acts p k = some k' ∧
      runActs (HttpParser.run HttpRequestParser.callbacks (bytes ++ rest) bytes.length) e.acts p k = some k' ∧
      q = k'.1.query_start ∧
      (e.acts.any HttpParser.Action.breaks = false → Agree 0 (p + 1) (HttpParser.pendingHead e.target) k' k') := by
  obtain ⟨own, hown, htarget⟩ := http_parser_edge_sets he
  have hwatch : runActs HttpParser.registerUse.watch e.acts p (HttpParser.pending cs) = some own := hown
  obtain ⟨hlt, -⟩ := List.getElem?_eq_some_iff.mp hget
  have hact (a : HttpParser.Action) (ha : a ∈ e.acts) (own own' : List HttpParser.Register)
      (k k' : HttpParser × Parsed HttpRequest) (hk : k = k' ∧ Agree 0 p own k k')
      (hw : HttpParser.registerUse.watch a p own = some own') :
      ∃ k₁ k₁', HttpParser.run HttpRequestParser.callbacks bytes bytes.length a p k = some k₁ ∧
        HttpParser.run HttpRequestParser.callbacks (bytes ++ rest) bytes.length a p k' = some k₁' ∧
        (k₁ = k₁' ∧ Agree 0 p own' k₁ k₁') := by
    obtain ⟨rfl, hagree⟩ := hk
    have hboth : Agree.Both 0 p own' (HttpParser.run HttpRequestParser.callbacks bytes bytes.length a p k)
        (HttpParser.run HttpRequestParser.callbacks (bytes ++ rest) bytes.length a (0 + p) k) :=
      hagree.run (shifted_append bytes rest) hlt (fun hm => http_parser_method_blank he (hm ▸ ha) ▸ hget) hw
    rw [Nat.zero_add] at hboth
    obtain ⟨k₁, k₁', hr, hr', hagree'⟩ := hboth
    exact ⟨k₁, k₁', hr, hr', Prod.ext (HttpParser.run_parser hr hr') hagree'.parsed_eq, hagree'⟩
  obtain ⟨k₁, k₁', hr, hr', rfl, hagree⟩ := runActs_sim hact ⟨rfl, h⟩ hwatch
  exact ⟨k₁, hr, hr', HttpParser.runActs_queryTrack hr hq, fun hb =>
    (hagree.mono fun r hr => htarget hb (pendingHead_subset hr)).next⟩

theorem HttpParser.Bounded.step (rest : Bytes) {c : UInt8} {e : Edge HttpParser.Action}
    {k : HttpParser × Parsed HttpRequest}
    (h : HttpParser.Bounded u bytes cs p k) (hget : bytes[p]? = some c) (he : http_parser_next u cs c = some e) :
    ∃ k', runActs (HttpParser.run HttpRequestParser.callbacks bytes bytes.length) e.acts p k = some k' ∧
      runActs (HttpParser.run HttpRequestParser.callbacks (bytes ++ rest) bytes.length) e.acts p k = some k' ∧
      (e.acts.any HttpParser.Action.breaks = false → HttpParser.Bounded u bytes e.target (p + 1) k') := by
  obtain ⟨hlt, hc⟩ := List.getElem?_eq_some_iff.mp hget
  have hquery := h.query
  rw [List.drop_eq_getElem_cons hlt, hc] at hquery
  obtain ⟨q, hq, hrest⟩ := track_cons he hquery
  rcases http_parser_edge_query he with hnone | hnil | hhead
  · obtain ⟨k', hr, hr', rfl, htarget⟩ := http_parser_edge_bounded rest hget
      (pendingHead_of_not_mem hnone ▸ h.registers) he hq
    exact ⟨k', hr, hr', fun hb => ⟨htarget hb, hrest hb⟩⟩
  · obtain ⟨own, hown, htarget⟩ := http_parser_edge_sets he
    rw [hnil] at hq hown ⊢
    cases hq
    cases hown
    refine ⟨k, rfl, rfl, fun hb => ⟨(h.registers.mono fun r hr => ?_).next, hrest (by rw [hnil]; rfl)⟩⟩
    obtain ⟨hmem, hne⟩ := List.mem_filter.mp hr
    exact List.mem_filter.mpr ⟨htarget (by rw [hnil]; rfl) hmem, hne⟩
  · obtain ⟨acts, hacts⟩ : ∃ acts, e.acts = .query_string :: acts := by
      cases hlist : e.acts with
      | nil =>
          rw [hlist] at hhead
          cases hhead
      | cons a acts =>
          rw [hlist] at hhead
          cases hhead
          exact ⟨acts, rfl⟩
    have hle : k.1.query_start ≤ p := by
      by_contra hlt
      rw [hacts, runActs, List.foldlM_cons, HttpParser.queryTrack, if_neg hlt] at hq
      cases hq
    have hfull : Agree 0 p (HttpParser.pending cs) k k := by
      have hmem {r : HttpParser.Register} (hr : r ∈ HttpParser.pending cs) (hne : r ≠ .query_start) :
          r ∈ HttpParser.pendingHead cs := List.mem_filter.mpr ⟨hr, decide_eq_true hne⟩
      exact ⟨rfl, fun hr => h.registers.mark (hmem hr (by decide)),
        fun hr => h.registers.field_start (hmem hr (by decide)),
        fun hr => h.registers.field_len (hmem hr (by decide)), fun _ => ⟨hle, (Nat.zero_add _).symm⟩⟩
    obtain ⟨k', hr, hr', rfl, htarget⟩ := http_parser_edge_bounded rest hget hfull he hq
    exact ⟨k', hr, hr', fun hb => ⟨htarget hb, hrest hb⟩⟩

/-- A call from the front of the buffer reads only its bytes. -/
theorem http_parser_exec_bounded (rest : Bytes) {parser : HttpParser} {d : Parsed HttpRequest}
    (h : scan (http_parser_next parser.uri_relaxed) HttpParser.Action.breaks HttpParser.queryTrack 0 bytes parser.cs
      parser.query_start ≠ .fault) :
    http_parser_exec HttpRequestParser.callbacks parser d (bytes ++ rest) bytes.length 0 =
      http_parser_exec HttpRequestParser.callbacks parser d bytes bytes.length 0 ∧
    http_parser_exec HttpRequestParser.callbacks parser d bytes bytes.length 0 ≠ .fault := by
  rw [http_parser_exec, http_parser_exec, List.take_left, List.take_length, List.drop_zero]
  have hstart : HttpParser.Bounded parser.uri_relaxed bytes parser.cs 0
      ({ parser with nread := 0, mark := 0, field_len := 0, field_start := 0 }, d) := by
    refine ⟨⟨rfl, fun _ => ⟨Nat.le_refl 0, rfl⟩, fun _ => ⟨Nat.le_refl 0, rfl⟩, fun _ => ⟨Nat.le_refl 0, rfl⟩,
      fun hr => ?_⟩, h⟩
    exact absurd rfl (of_decide_eq_true (List.mem_filter.mp hr).2)
  have hcongr := scan_congr (fun cs c e p k hget hk he => hk.step rest hget he)
    (List.drop_zero).symm hstart
  exact ⟨hcongr.1.symm, hcongr.2⟩

/-- A run that reads only its bytes has its query begin before it ends. -/
theorem http_parser_exec_query {parser : HttpParser} {d : Parsed HttpRequest} (hbytes : bytes.length < 2 ^ 64)
    (hquery : parser.query_start < 2 ^ 64)
    (h : http_parser_exec HttpRequestParser.callbacks parser d bytes bytes.length 0 ≠ .fault) :
    scan (http_parser_next parser.uri_relaxed) HttpParser.Action.breaks HttpParser.queryTrack 0 bytes parser.cs
      parser.query_start ≠ .fault := by
  rw [http_parser_exec, List.take_length, List.drop_zero] at h
  refine scan_track (R := fun q k => q = k.1.query_start ∧ q < 2 ^ 64) ?_ (Nat.zero_add _) ⟨rfl, hquery⟩ h
  rintro a p q k k' hp ⟨rfl, hq⟩ hr
  obtain ⟨htrack, hlt⟩ := HttpParser.run_queryTrack_some hbytes hq (by omega) hr
  exact ⟨_, htrack, rfl, hlt⟩

/-- `done` puts the body behind the byte, or at the mark. -/
theorem HttpParser.run_done {cb : HttpParser.Callbacks (Parsed HttpRequest)} {buffer : Bytes}
    {k k' : HttpParser × Parsed HttpRequest} (hmark : k.1.mark ≤ p)
    (h : HttpParser.run cb buffer n .done p k = some k') : k'.1.body_start ≤ p + 1 := by
  obtain ⟨parser, d⟩ := k
  simp only [run] at h
  split at h
  · cases h
    exact Nat.le_succ_of_le hmark
  · obtain ⟨_, -, rfl⟩ := Option.map_eq_some_iff.mp h
    exact Nat.le_refl _

theorem HttpParser.runActs_done {cb : HttpParser.Callbacks (Parsed HttpRequest)} {buffer : Bytes} {start : HttpParser}
    {acts : List HttpParser.Action} {k k' : HttpParser × Parsed HttpRequest} (hk : InRange start (p + 1) k.1)
    (hdone : .done ∈ acts ∨ k.1.body_start ≤ p + 1)
    (h : runActs (HttpParser.run cb buffer n) acts p k = some k') : k'.1.body_start ≤ p + 1 := by
  induction acts generalizing k with
  | nil =>
      cases h
      exact hdone.resolve_left List.not_mem_nil
  | cons a acts ih =>
      rw [runActs, List.foldlM_cons] at h
      obtain ⟨k₁, hk₁, h⟩ := Option.bind_eq_some_iff.mp h
      refine ih (run_inRange hk hk₁) ?_ h
      by_cases ha : a = .done
      · subst ha
        exact .inr (run_done hk.mark hk₁)
      · rw [run_body_start ha hk₁]
        exact hdone.imp_left fun hmem => (List.mem_cons.mp hmem).resolve_left (Ne.symm ha)

theorem HttpParser.breaks_done {acts : List HttpParser.Action} :
    acts.any HttpParser.Action.breaks = true ↔ .done ∈ acts := by
  rw [List.any_eq_true]
  constructor
  · rintro ⟨a, ha, hb⟩
    cases a with
    | done => exact ha
    | mark | start_value | start_field | write_field | start_query | xml | json | write_value | request_method
      | request_uri | fragment | query_string | http_version | request_path => cases hb
  · exact fun hmem => ⟨_, hmem, rfl⟩

/-- Only a head that ends in this call has a body in its buffer. -/
theorem http_parser_exec_breaksOff {parser parser' : HttpParser} {d d' : Parsed HttpRequest}
    (h : (http_parser_exec HttpRequestParser.callbacks parser d bytes bytes.length 0).result bytes.length
      http_parser_error = some (p, cs, parser', d')) :
    if breaksOff (http_parser_next parser.uri_relaxed) HttpParser.Action.breaks bytes parser.cs then
      parser'.body_start ≤ p
    else parser'.body_start = parser.body_start := by
  rw [http_parser_exec, List.take_length, List.drop_zero] at h
  have hend := result_breaksOff (J := fun p k => k.1.body_start ≤ p)
    (I := fun p k => HttpParser.InRange parser p k.1 ∧ k.1.body_start = parser.body_start) ?_ ?_ (Nat.zero_add _)
    ⟨⟨rfl, rfl, rfl, Nat.zero_le _, Nat.zero_le _, Nat.zero_le _, .inr rfl⟩, rfl⟩ h
  · split
    · next hb =>
        rw [if_pos hb] at hend
        exact hend
    · next hb =>
        rw [if_neg hb] at hend
        exact hend.2
  · rintro cs c e p k k' ⟨hk, hbody⟩ - hb hr
    have hrange := runActs_inv (I := fun k => HttpParser.InRange parser (p + 1) k.1)
      (fun a _ k k' hk hr => HttpParser.run_inRange hk hr) hk.next hr
    refine ⟨hrange, runActs_inv (I := fun k => k.1.body_start = parser.body_start) (fun a ha k k' hk hr => ?_) hbody hr⟩
    rw [HttpParser.run_body_start ?_ hr, hk]
    rintro rfl
    rw [HttpParser.breaks_done.mpr ha] at hb
    cases hb
  · rintro cs c e p k k' ⟨hk, -⟩ - hb hr
    exact HttpParser.runActs_done hk.next (.inl (HttpParser.breaks_done.mp hb)) hr

end Mingfwq.Http
