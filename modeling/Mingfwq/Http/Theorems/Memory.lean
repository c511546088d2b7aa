import Mingfwq.Http.Lemmas.Agree
import Mingfwq.Http.Lemmas.RequestHead
import Mingfwq.Lib.Extension

/-!
# The memory of a new request parser

http_parser_init leaves `query_start` and `uri_relaxed` as it finds them. The first is set before it is read; the second
chooses the table.
-/

namespace Mingfwq.Http

open Lib

variable {δ : Type} {buffer : Bytes} {n p : Nat}

/-! ## Parsers that differ in these fields -/

/-- The same but for `uri_relaxed`, and for `query_start` unless it is needed. -/
structure HttpParser.Same (needed : Prop) (k k' : HttpParser × δ) : Prop where
  parser : k'.1 = { k.1 with query_start := k'.1.query_start, uri_relaxed := k'.1.uri_relaxed }
  data : k'.2 = k.2
  query_start : needed → k'.1.query_start = k.1.query_start

theorem HttpParser.Same.of_imp {needed needed' : Prop} {k k' : HttpParser × δ} (h : Same needed k k')
    (himp : needed' → needed) : Same needed' k k' :=
  ⟨h.parser, h.data, fun hn => h.query_start (himp hn)⟩

theorem HttpParser.run_same {cb : HttpParser.Callbacks δ} {a : HttpParser.Action}
    {own own' : List HttpParser.Register} {k k' : HttpParser × δ} (h : Same (.query_start ∈ own) k k')
    (hw : HttpParser.registerUse.watch a p own = some own') :
    Option.Rel (Same (.query_start ∈ own')) (HttpParser.run cb buffer n a p k) (HttpParser.run cb buffer n a p k') := by
  obtain ⟨parser, d⟩ := k
  obtain ⟨parser', d'⟩ := k'
  obtain ⟨hparser, rfl, hquery⟩ := h
  obtain ⟨hreads, rfl⟩ := Agree.watch_own hw
  simp only at hparser hquery
  generalize parser'.query_start = q at hparser hquery
  generalize parser'.uri_relaxed = u at hparser
  subst hparser
  have hold : a ≠ .start_query → .query_start ∈ HttpParser.registerUse.sets a ++
      own.filter (· ∉ HttpParser.registerUse.drops a) → q = parser.query_start := by
    intro ha hmem
    refine hquery ?_
    rcases List.mem_append.mp hmem with hmem | hmem
    · cases a <;> simp [HttpParser.registerUse] at hmem ha
    · exact (List.mem_filter.mp hmem).1
  have hcallback (o : Option δ) (ha : a ≠ .start_query) :
      Option.Rel (Same (.query_start ∈ HttpParser.registerUse.sets a ++
          own.filter (· ∉ HttpParser.registerUse.drops a)))
        (o.map (parser, ·)) (o.map ({ parser with query_start := q, uri_relaxed := u }, ·)) := by
    cases o with
    | none => exact .none
    | some e => exact .some ⟨rfl, rfl, hold ha⟩
  cases a with
  | start_query => exact .some ⟨rfl, rfl, fun _ => rfl⟩
  | mark | start_value | start_field | write_field | xml | json => exact .some ⟨rfl, rfl, hold (by simp)⟩
  | query_string =>
      obtain rfl : q = parser.query_start := hquery (hreads _ (List.mem_singleton.mpr rfl))
      exact hcallback _ (by simp)
  | done =>
      simp only [HttpParser.run]
      split
      · exact .some ⟨rfl, rfl, hold (by simp)⟩
      · cases cb.header_done d' (buffer.drop (p + 1)) (n - p - 1) with
        | none => exact .none
        | some e => exact .some ⟨rfl, rfl, hold (by simp)⟩
  | write_value | request_method | request_uri | fragment | http_version | request_path => exact hcallback _ (by simp)

/-- The actions of an edge read `query_start` only where it is needed, and leave it where it is. -/
theorem http_parser_edge_same {uri_relaxed : Bool} {cb : HttpParser.Callbacks δ} {cs : Nat} {c : UInt8}
    {e : Edge HttpParser.Action} {k k' : HttpParser × δ}
    (h : HttpParser.Same (.query_start ∈ HttpParser.pending cs) k k')
    (he : http_parser_next uri_relaxed cs c = some e) :
    Option.Rel (HttpParser.Same (.query_start ∈ HttpParser.pending e.target))
      (runActs (HttpParser.run cb buffer n) e.acts p k) (runActs (HttpParser.run cb buffer n) e.acts p k') := by
  obtain ⟨own, hown, htarget⟩ := http_parser_edge_sets he
  have hwatch : runActs HttpParser.registerUse.watch e.acts p (HttpParser.pending cs) = some own := hown
  have hrel := runActs_rel (R := fun own => HttpParser.Same (.query_start ∈ own))
    (fun a d d' k k' hk hd => @HttpParser.run_same δ buffer n p cb a d d' k k' hk hd) h hwatch
  have hneeded : .query_start ∈ HttpParser.pending e.target → .query_start ∈ own := by
    intro hmem
    cases hb : e.acts.any HttpParser.Action.breaks with
    | false => exact htarget hb hmem
    | true =>
        have hfinal := http_parser_edge_target he
        rw [hb, if_pos rfl] at hfinal
        have hstates : e.target ≠ 30 ∧ e.target ≠ 31 ∧ e.target ≠ 32 := by
          simp only [http_parser_first_final] at hfinal
          omega
        simp [HttpParser.pending, hstates] at hmem
  generalize runActs (HttpParser.run cb buffer n) e.acts p k = o at hrel ⊢
  generalize runActs (HttpParser.run cb buffer n) e.acts p k' = o' at hrel ⊢
  cases hrel with
  | none => exact .none
  | some hk => exact .some (hk.of_imp hneeded)

theorem http_parser_next_extends {u u' : Bool} (hu : u = true → u' = true) (cs : Nat) (c : UInt8)
    (e : Edge HttpParser.Action) (h : http_parser_next u cs c = some e) : http_parser_next u' cs c = some e := by
  rw [http_parser_next] at h ⊢
  cases ht : http_parser_table.next cs c with
  | some f =>
      rw [ht] at h
      exact h
  | none =>
      rw [ht] at h
      cases u with
      | true =>
          rw [hu rfl]
          exact h
      | false => cases h

/-! ## Header fields -/

/-- The states from the first header field on, and the error. -/
def inFields (cs : Nat) : Prop := cs ∈ [http_parser_error, 13, 14, 15, 16, 17, 18, 348, 349]

instance (cs : Nat) : Decidable (inFields cs) := inferInstanceAs (Decidable (cs ∈ _))

/-- No edge leads out of the header fields, and the request line is not done. -/
theorem http_parser_edge_fields {u : Bool} {cs : Nat} {c : UInt8} {e : Edge HttpParser.Action}
    (h : http_parser_next u cs c = some e) :
    (inFields cs → inFields e.target) ∧ (.done ∈ e.acts → inFields e.target) :=
  (http_parser_forall_next (P := fun cs e => (inFields cs → inFields e.target) ∧ (.done ∈ e.acts → inFields e.target))
    (by decide +kernel) (by decide +kernel) h).1

/-- The table without `uri_relaxed` has all edges of the header fields. -/
theorem http_parser_next_fields {u u' : Bool} {cs : Nat} (h : inFields cs) (c : UInt8) :
    http_parser_next u cs c = http_parser_next u' cs c := by
  have hmore (u : Bool) : (if u then http_parser_more_delims.next cs c else none) = none := by
    cases he : (if u then http_parser_more_delims.next cs c else none) with
    | none => rfl
    | some e =>
        cases u with
        | false => cases he
        | true =>
            exact absurd h (Table.forall_next (P := fun cs _ => ¬inFields cs) (by decide +kernel) he).1
  rw [http_parser_next, http_parser_next, hmore, hmore]

/-- No action sets the state or `uri_relaxed`. -/
theorem HttpParser.run_fixed {cb : HttpParser.Callbacks δ} {a : HttpParser.Action} {k k' : HttpParser × δ}
    (h : HttpParser.run cb buffer n a p k = some k') :
    k'.1.cs = k.1.cs ∧ k'.1.uri_relaxed = k.1.uri_relaxed := by
  obtain ⟨parser, d⟩ := k
  cases a with
  | done =>
      simp only [run] at h
      split at h
      · cases h
        exact ⟨rfl, rfl⟩
      · obtain ⟨_, -, rfl⟩ := Option.map_eq_some_iff.mp h
        exact ⟨rfl, rfl⟩
  | mark | start_value | start_field | write_field | start_query | xml | json =>
      cases h
      exact ⟨rfl, rfl⟩
  | write_value | request_method | request_uri | fragment | query_string | http_version | request_path =>
      obtain ⟨_, -, rfl⟩ := Option.map_eq_some_iff.mp h
      exact ⟨rfl, rfl⟩

/-! ## A call -/

namespace HttpRequestParser

structure Call where
  data : Bytes
  len : Nat
  off : Nat
  deriving DecidableEq, Repr

def call (parser : HttpRequestParser) (c : Call) : Except Stop (Nat × Bytes × HttpRequestParser) :=
  parser.execute c.data c.len c.off

def Call.bytes (c : Call) : Bytes := (c.data.take c.len).drop c.off

structure Same (parser parser' : HttpRequestParser) : Prop where
  same : HttpParser.Same (.query_start ∈ HttpParser.pending parser.mParser.cs) (parser.mParser, parser.toParsed)
    (parser'.mParser, parser'.toParsed)

/-- A body is behind the header fields. -/
def BodyBehind (parser : HttpRequestParser) : Prop := parser.mParser.body_start = 0 ∨ inFields parser.mParser.cs

end HttpRequestParser

/-- The checks at the end of http_parser_execute, and the parser then. -/
def HttpParser.close (len off : Nat) (r : Nat × Nat × HttpParser × δ) : Except Stop (Nat × HttpParser × δ) :=
  let parser := { r.2.2.1 with
    cs := if r.2.2.1.cs = http_parser_error then r.2.2.1.cs else r.2.1
    nread := r.2.2.1.nread + (r.1 - off) }
  if parser.nread ≤ len ∧ parser.body_start ≤ len ∧ parser.mark < len ∧ parser.field_len ≤ len ∧
      parser.field_start < len then
    .ok (parser.nread, parser, r.2.2.2)
  else .error .assertion

def HttpParser.closeRun (len off : Nat) : Option (Nat × Nat × HttpParser × δ) → Except Stop (Nat × HttpParser × δ)
  | none => .error .lengthError
  | some r => close len off r

theorem http_parser_execute_run {cb : HttpParser.Callbacks δ} {parser : HttpParser} {data : δ} {len off : Nat}
    (hlen : len ≠ 0) (hoff : ¬(len < off ∨ ¬sameDistance len off)) :
    http_parser_execute cb parser data buffer len off = HttpParser.closeRun len off
      ((http_parser_exec cb parser data buffer len off).result len http_parser_error) := by
  rw [http_parser_execute, if_neg hlen, if_neg hoff]
  cases (http_parser_exec cb parser data buffer len off).result len http_parser_error with
  | none => rfl
  | some r => rfl

theorem HttpParser.close_same {needed : Prop} {len off cs : Nat} {k k' : HttpParser × δ} (h : Same needed k k') :
    (∃ e, close len off (p, cs, k) = .error e ∧ close len off (p, cs, k') = .error e) ∨
      ∃ q q', close len off (p, cs, k) = .ok (q.1.nread, q) ∧ close len off (p, cs, k') = .ok (q.1.nread, q') ∧
        q.1.cs = (if k.1.cs = http_parser_error then k.1.cs else cs) ∧ q.1.uri_relaxed = k.1.uri_relaxed ∧
          q'.1.uri_relaxed = k'.1.uri_relaxed ∧ q.1.body_start = k.1.body_start ∧ Same needed q q' := by
  obtain ⟨parser, d⟩ := k
  obtain ⟨parser', d'⟩ := k'
  obtain ⟨hparser, rfl, hquery⟩ := h
  simp only at hparser hquery
  generalize parser'.query_start = q at hparser hquery
  generalize parser'.uri_relaxed = u at hparser
  subst hparser
  simp only [close]
  split
  · refine .inr ⟨({ parser with
      cs := if parser.cs = http_parser_error then parser.cs else cs
      nread := parser.nread + (p - off) }, d'), ({ parser with
      cs := if parser.cs = http_parser_error then parser.cs else cs
      nread := parser.nread + (p - off)
      query_start := q
      uri_relaxed := u }, d'), rfl, rfl, rfl, rfl, rfl, rfl, ?_⟩
    exact ⟨rfl, rfl, hquery⟩
  · exact .inl ⟨_, rfl, rfl⟩

namespace HttpRequestParser

variable {parser parser' : HttpRequestParser} {c : Call} {u u' : Bool}

theorem call_eq (c : Call) (parser : HttpRequestParser) : parser.call c = (do
    let (offset, mParser, parsed) ← http_parser_execute callbacks parser.mParser parser.toParsed c.data c.len c.off
    let data ← memmove c.data (c.off + offset) (c.len + c.off - offset)
    .ok (offset, data, ⟨parsed, mParser⟩)) := rfl

/-- The parser after a call. -/
structure Follows (parser : HttpRequestParser) (q : HttpParser × Parsed HttpRequest) : Prop where
  uri_relaxed : q.1.uri_relaxed = parser.mParser.uri_relaxed
  body : parser.BodyBehind → BodyBehind ⟨q.2, q.1⟩

/-- Two calls of http_parser_execute with the same outcome. -/
def SameResult (parser parser' : HttpRequestParser) (o o' : Except Stop (Nat × HttpParser × Parsed HttpRequest)) :
    Prop :=
  (∃ e, o = .error e ∧ o' = .error e) ∨ ∃ n q q', o = .ok (n, q) ∧ o' = .ok (n, q') ∧
    HttpParser.Same (.query_start ∈ HttpParser.pending q.1.cs) q q' ∧ parser.Follows q ∧
      q'.1.uri_relaxed = parser'.mParser.uri_relaxed

theorem SameResult.call (h : SameResult parser parser'
    (http_parser_execute callbacks parser.mParser parser.toParsed c.data c.len c.off)
    (http_parser_execute callbacks parser'.mParser parser'.toParsed c.data c.len c.off)) :
    (∃ e, parser.call c = .error e ∧ parser'.call c = .error e) ∨
      ∃ n data q q', parser.call c = .ok (n, data, q) ∧ parser'.call c = .ok (n, data, q') ∧ q.Same q' ∧
        parser.Follows (q.mParser, q.toParsed) ∧ q'.mParser.uri_relaxed = parser'.mParser.uri_relaxed := by
  rw [call_eq, call_eq]
  rcases h with ⟨e, ho, ho'⟩ | ⟨n, q, q', ho, ho', hsame, hfollows, hrelaxed⟩
  · rw [ho, ho']
    exact .inl ⟨e, rfl, rfl⟩
  · rw [ho, ho']
    simp only [bind, Except.bind]
    cases memmove c.data (c.off + n) (c.len + c.off - n) with
    | error e => exact .inl ⟨e, rfl, rfl⟩
    | ok data => exact .inr ⟨n, data, _, _, rfl, rfl, ⟨hsame⟩, hfollows, hrelaxed⟩

/-- What holds of the parser at the end of a run. -/
def Ended (parser : HttpRequestParser) (cs : Nat) (k : HttpParser × Parsed HttpRequest) : Prop :=
  k.1.cs = parser.mParser.cs ∧ k.1.uri_relaxed = parser.mParser.uri_relaxed ∧
    (parser.BodyBehind → k.1.body_start = 0 ∨ inFields cs)

/-- Two runs with the same end, when the checks are made. -/
theorem sameResult_close {len off cs : Nat} {k k' : HttpParser × Parsed HttpRequest}
    (h : HttpParser.Same (.query_start ∈ HttpParser.pending cs) k k') (hk : parser.Ended cs k)
    (hk' : parser'.Ended cs k') :
    SameResult parser parser' (HttpParser.close len off (p, cs, k)) (HttpParser.close len off (p, cs, k')) := by
  have hneeded : .query_start ∈ HttpParser.pending (if k.1.cs = http_parser_error then k.1.cs else cs) →
      .query_start ∈ HttpParser.pending cs := by
    split
    · next hcs =>
        rw [hcs]
        intro hmem
        exact absurd hmem (by decide)
    · exact id
  rcases HttpParser.close_same (h.of_imp hneeded) with ⟨e, ho, ho'⟩ | ⟨q, q', ho, ho', hcs, hu, hu', hbody, hsame⟩
  · exact .inl ⟨e, ho, ho'⟩
  · refine .inr ⟨_, q, q', ho, ho', by rwa [hcs], ⟨hu.trans hk.2.1, fun hbehind => ?_⟩, hu'.trans hk'.2.1⟩
    show q.1.body_start = 0 ∨ inFields q.1.cs
    rw [hcs, hbody]
    split
    · next herror =>
        rw [herror]
        exact .inr (by decide)
    · exact hk.2.2 hbehind

theorem sameResult_ends {len off : Nat} {r r' : Run (HttpParser × Parsed HttpRequest)}
    (hends : r.Ends (fun cs => HttpParser.Same (.query_start ∈ HttpParser.pending cs)) r')
    (hk : ∀ p cs k, r.result len http_parser_error = some (p, cs, k) → parser.Ended cs k)
    (hk' : ∀ p cs k, r'.result len http_parser_error = some (p, cs, k) → parser'.Ended cs k) :
    SameResult parser parser' (HttpParser.closeRun len off (r.result len http_parser_error))
      (HttpParser.closeRun len off (r'.result len http_parser_error)) := by
  cases hends with
  | fault => exact .inl ⟨_, rfl, rfl⟩
  | live h => exact sameResult_close h (hk _ _ _ rfl) (hk' _ _ _ rfl)
  | stop h => exact sameResult_close h (hk _ _ _ rfl) (hk' _ _ _ rfl)
  | err h =>
      refine sameResult_close (h.of_imp fun hmem => ?_) (hk _ _ _ rfl) (hk' _ _ _ rfl)
      exact absurd hmem (by decide)

theorem exec_ended {len off cs : Nat} {k : HttpParser × Parsed HttpRequest}
    (h : (http_parser_exec callbacks parser.mParser parser.toParsed buffer len off).result len http_parser_error =
      some (p, cs, k)) : parser.Ended cs k := by
  refine scan_state_inv (I := parser.Ended) ?_ ?_ ?_ h
  · rintro cs c e p k k' ⟨hcs, hu, hbody⟩ he hk
    obtain ⟨hcs', hu'⟩ := runActs_inv (I := fun k' => k'.1.cs = k.1.cs ∧ k'.1.uri_relaxed = k.1.uri_relaxed)
      (fun a _ k₁ k₂ h₁ h₂ => by rwa [(HttpParser.run_fixed h₂).1, (HttpParser.run_fixed h₂).2]) ⟨rfl, rfl⟩ hk
    refine ⟨hcs'.trans hcs, hu'.trans hu, fun hbehind => ?_⟩
    obtain ⟨hfields, hdone⟩ := http_parser_edge_fields he
    by_cases hd : .done ∈ e.acts
    · exact .inr (hdone hd)
    · rcases hbody hbehind with hzero | hin
      · refine .inl (runActs_inv (I := fun k' => k'.1.body_start = 0) (fun a ha k₁ k₂ h₁ h₂ => ?_) hzero hk)
        rwa [HttpParser.run_body_start (fun heq => hd (heq ▸ ha)) h₂]
      · exact .inr (hfields hin)
  · rintro cs k ⟨hcs, hu, -⟩
    exact ⟨hcs, hu, fun _ => .inr (by decide)⟩
  · exact ⟨rfl, rfl, fun hbehind => hbehind⟩

/-- The automaton of the parser stops at a byte that only the table with `uri_relaxed` leads on from. -/
def Call.meetsDelim (c : Call) (parser : HttpRequestParser) : Bool :=
  meets (http_parser_next false) (http_parser_next true) HttpParser.Action.breaks c.bytes parser.mParser.cs

/-- What is asked of a pair of parsers that have been fed alike. -/
structure Pair (parser parser' : HttpRequestParser) : Prop where
  same : parser.Same parser'
  body : parser.BodyBehind

theorem Pair.cs (h : Pair parser parser') : parser'.mParser.cs = parser.mParser.cs := by
  have hparser : parser'.mParser = { parser.mParser with
      query_start := parser'.mParser.query_start, uri_relaxed := parser'.mParser.uri_relaxed } := h.same.same.parser
  rw [hparser]

theorem Pair.body' (h : Pair parser parser') : parser'.mParser.body_start = parser.mParser.body_start := by
  have hparser : parser'.mParser = { parser.mParser with
      query_start := parser'.mParser.query_start, uri_relaxed := parser'.mParser.uri_relaxed } := h.same.same.parser
  rw [hparser]

/-- The runs of two such parsers over the same bytes. -/
theorem Pair.exec_extend (h : Pair parser parser')
    (hext : parser.mParser.uri_relaxed = true → parser'.mParser.uri_relaxed = true) :
    (meets (http_parser_next parser.mParser.uri_relaxed) (http_parser_next parser'.mParser.uri_relaxed)
        HttpParser.Action.breaks c.bytes parser.mParser.cs = false →
      (http_parser_exec callbacks parser.mParser parser.toParsed c.data c.len c.off).Ends
        (fun cs => HttpParser.Same (.query_start ∈ HttpParser.pending cs))
        (http_parser_exec callbacks parser'.mParser parser'.toParsed c.data c.len c.off)) ∧
    (meets (http_parser_next parser.mParser.uri_relaxed) (http_parser_next parser'.mParser.uri_relaxed)
        HttpParser.Action.breaks c.bytes parser.mParser.cs = true →
      (http_parser_exec callbacks parser.mParser parser.toParsed c.data c.len c.off).Passed
        (c.off + c.bytes.length) http_parser_error
        (http_parser_exec callbacks parser'.mParser parser'.toParsed c.data c.len c.off)) := by
  have hstart : HttpParser.Same (.query_start ∈ HttpParser.pending parser.mParser.cs)
      ({ parser.mParser with nread := 0, mark := 0, field_len := 0, field_start := 0 }, parser.toParsed)
      ({ parser'.mParser with nread := 0, mark := 0, field_len := 0, field_start := 0 }, parser'.toParsed) := by
    obtain ⟨hparser, hdata, hquery⟩ := h.same.same
    simp only at hparser hdata hquery
    generalize parser'.mParser = m at hparser hquery ⊢
    generalize m.query_start = q at hparser hquery
    generalize m.uri_relaxed = u at hparser
    subst hparser
    exact ⟨rfl, hdata, hquery⟩
  have hexec' (cs : Nat) (hcs : parser'.mParser.cs = cs) :
      http_parser_exec callbacks parser'.mParser parser'.toParsed c.data c.len c.off =
        scan (http_parser_next parser'.mParser.uri_relaxed) HttpParser.Action.breaks
          (HttpParser.run callbacks c.data c.len) c.off c.bytes cs
          ({ parser'.mParser with nread := 0, mark := 0, field_len := 0, field_start := 0 }, parser'.toParsed) := by
    subst hcs
    rfl
  rw [hexec' _ h.cs]
  exact scan_extend (http_parser_next_extends hext) (fun _ _ _ _ _ _ hk he => http_parser_edge_same hk he) hstart

/-- Two parsers after the same call, when the flag has not been in the way. -/
theorem Pair.call_same (h : Pair parser parser')
    (hflag : parser'.mParser.uri_relaxed = parser.mParser.uri_relaxed ∨
      parser.mParser.uri_relaxed = false ∧ c.meetsDelim parser = false) :
    (∃ e, parser.call c = .error e ∧ parser'.call c = .error e) ∨
      ∃ n data q q', parser.call c = .ok (n, data, q) ∧ parser'.call c = .ok (n, data, q') ∧ Pair q q' ∧
        q.mParser.uri_relaxed = parser.mParser.uri_relaxed ∧
          q'.mParser.uri_relaxed = parser'.mParser.uri_relaxed := by
  have hmeets : meets (http_parser_next parser.mParser.uri_relaxed) (http_parser_next parser'.mParser.uri_relaxed)
      HttpParser.Action.breaks c.bytes parser.mParser.cs = false := by
    rcases hflag with hflag | ⟨hstrict, hdelim⟩
    · rw [hflag]
      exact meets_self _ _
    · rw [hstrict]
      cases parser'.mParser.uri_relaxed with
      | false => exact meets_self _ _
      | true => exact hdelim
  have hext : parser.mParser.uri_relaxed = true → parser'.mParser.uri_relaxed = true := by
    intro hu
    rcases hflag with hflag | ⟨hstrict, -⟩
    · rw [hflag, hu]
    · rw [hstrict] at hu
      cases hu
  have hresult : SameResult parser parser'
      (http_parser_execute callbacks parser.mParser parser.toParsed c.data c.len c.off)
      (http_parser_execute callbacks parser'.mParser parser'.toParsed c.data c.len c.off) := by
    by_cases hlen : c.len = 0
    · rw [http_parser_execute, http_parser_execute, if_pos hlen, if_pos hlen]
      exact .inr ⟨0, _, _, rfl, rfl, h.same.same, ⟨rfl, id⟩, rfl⟩
    · by_cases hoff : c.len < c.off ∨ ¬sameDistance c.len c.off
      · rw [http_parser_execute, http_parser_execute, if_neg hlen, if_neg hlen, if_pos hoff, if_pos hoff]
        exact .inl ⟨_, rfl, rfl⟩
      · rw [http_parser_execute_run hlen hoff, http_parser_execute_run hlen hoff]
        refine sameResult_ends ?_ (fun _ _ _ => exec_ended) (fun _ _ _ => exec_ended)
        exact (h.exec_extend hext).1 hmeets
  rcases hresult.call with herror | ⟨n, data, q, q', hq, hq', hsame, hfollows, hrelaxed⟩
  · exact .inl herror
  · exact .inr ⟨n, data, q, q', hq, hq', ⟨hsame, hfollows.body h.body⟩, hfollows.uri_relaxed, hrelaxed⟩

/-- A call, by where its run ends, of a parser that has no body yet. -/
theorem call_of_result {cs : Nat} {k : HttpParser × Parsed HttpRequest} (hlen : c.len ≠ 0)
    (hoff : ¬(c.len < c.off ∨ ¬sameDistance c.len c.off)) (hfits : c.len + 2 * c.off ≤ c.data.length)
    (hbody : parser.mParser.body_start = 0) (hcs : parser.mParser.cs ≠ http_parser_error)
    (h : (http_parser_exec callbacks parser.mParser parser.toParsed c.data c.len c.off).result c.len
      http_parser_error = some (p, cs, k)) :
    c.off ≤ p ∧ ∃ data q, parser.call c = .ok (p - c.off, data, q) := by
  rw [not_or, not_not, Nat.not_lt] at hoff
  obtain ⟨m, d⟩ := k
  obtain ⟨hpo, hpl, -⟩ := http_parser_exec_inRange hoff.1 (by omega) h
  refine ⟨hpo, ?_⟩
  rw [call_eq, http_parser_execute_checked (Nat.pos_of_ne_zero hlen) hoff.2 hoff.1 (by omega) (by omega) hcs h]
  simp only [bind, Except.bind]
  rw [memmove, if_pos (by omega)]
  exact ⟨_, _, rfl⟩

theorem meetsDelim_fields (h : inFields parser.mParser.cs) : c.meetsDelim parser = false :=
  meets_closed (fun _ b hcs => http_parser_next_fields hcs b)
    (fun _ _ _ hcs he => (http_parser_edge_fields he).1 hcs) h

/-- Where the flag is in the way, the strict parser rejects the byte; the other goes on, if it returns. -/
theorem Pair.call_apart (h : Pair parser parser') (hu : parser.mParser.uri_relaxed = false)
    (hu' : parser'.mParser.uri_relaxed = true) (hmeets : c.meetsDelim parser = true) :
    (∃ e e', parser.call c = .error e ∧ parser'.call c = .error e') ∨
      ∃ n data q, parser.call c = .ok (n, data, q) ∧
        ∀ n' data' q', parser'.call c = .ok (n', data', q') → n < n' := by
  have hfields : ¬inFields parser.mParser.cs := by
    intro hin
    rw [meetsDelim_fields hin] at hmeets
    cases hmeets
  have hbody : parser.mParser.body_start = 0 := h.body.resolve_right hfields
  have hcs : parser.mParser.cs ≠ http_parser_error := by
    intro hcs
    rw [hcs] at hfields
    exact hfields (by decide)
  have hlen : c.len ≠ 0 := by
    intro hlen
    have hbytes : c.bytes = [] := by rw [Call.bytes, hlen, List.take_zero, List.drop_nil]
    rw [Call.meetsDelim, hbytes] at hmeets
    cases hmeets
  by_cases hfits : c.len + 2 * c.off ≤ c.data.length
  · by_cases hoff : c.len < c.off ∨ ¬sameDistance c.len c.off
    · refine .inl ⟨.assertion, .assertion, ?_, ?_⟩
      · rw [call_eq, http_parser_execute, if_neg hlen, if_pos hoff]
        rfl
      · rw [call_eq, http_parser_execute, if_neg hlen, if_pos hoff]
        rfl
    · have hpassed := (h.exec_extend (c := c) (by simp [hu])).2 (by rw [hu, hu']; exact hmeets)
      have hend : c.off + c.bytes.length = c.len := by
        rw [Call.bytes, List.length_drop, List.length_take]
        omega
      rw [hend] at hpassed
      rcases hpassed with ⟨p, k, hrun, hfurther⟩ | ⟨hrun, hrun'⟩
      · have hres : (http_parser_exec callbacks parser.mParser parser.toParsed c.data c.len c.off).result c.len
            http_parser_error = some (p, http_parser_error, k) := by
          rw [hrun]
          rfl
        obtain ⟨hle, data, q, hcall⟩ := call_of_result hlen hoff hfits hbody hcs hres
        refine .inr ⟨_, data, q, hcall, fun n' data' q' hcall' => ?_⟩
        cases hres : (http_parser_exec callbacks parser'.mParser parser'.toParsed c.data c.len c.off).result c.len
            http_parser_error with
        | none =>
            rw [call_eq, http_parser_execute_run hlen hoff, hres] at hcall'
            cases hcall'
        | some r =>
            obtain ⟨p', cs', k'⟩ := r
            have hlt := hfurther p' cs' k' hres
            obtain ⟨hle', data₁, q₁, hcall₁⟩ := call_of_result hlen hoff hfits (by rw [h.body', hbody])
              (by rw [h.cs]; exact hcs) hres
            rw [hcall₁] at hcall'
            cases hcall'
            omega
      · refine .inl ⟨.lengthError, .lengthError, ?_, ?_⟩
        · rw [call_eq, http_parser_execute_run hlen hoff, hrun]
          rfl
        · rw [call_eq, http_parser_execute_run hlen hoff, hrun']
          rfl
  · have herror (parser : HttpRequestParser) : ∃ e, parser.call c = .error e := by
      cases hcall : parser.call c with
      | error e => exact ⟨e, rfl⟩
      | ok r => exact absurd (execute_fits hcall) hfits
    obtain ⟨e, he⟩ := herror parser
    obtain ⟨e', he'⟩ := herror parser'
    exact .inl ⟨e, e', he, he'⟩

/-! ## Any sequence of calls -/

/-- What a caller has of a call that returns. -/
structure Seen where
  parsed : Nat
  data : Bytes
  hasError : Bool
  isFinished : Int
  m_data : HttpRequest
  deriving DecidableEq, Repr

/-- The calls up to the first that does not return. -/
def observe (parser : HttpRequestParser) : List Call → List (Option Seen)
  | [] => []
  | c :: rest =>
      match parser.call c with
      | .error _ => [none]
      | .ok (parsed, data, q) => some ⟨parsed, data, q.hasError, q.isFinished, q.m_data⟩ :: observe q rest

/-- Accepted or rejected, and the request; none where a call does not return. -/
def outcome (parser : HttpRequestParser) : List Call → Option (Bool × Int × HttpRequest)
  | [] => some (parser.hasError, parser.isFinished, parser.m_data)
  | c :: rest =>
      match parser.call c with
      | .error _ => none
      | .ok (_, _, q) => outcome q rest

/-- In one of the calls, which returns, the automaton stops at a byte that `uri_relaxed` would have let pass. -/
def meetsFlag (parser : HttpRequestParser) : List Call → Bool
  | [] => false
  | c :: rest =>
      match parser.call c with
      | .error _ => false
      | .ok (_, _, q) => c.meetsDelim parser || meetsFlag q rest

theorem Pair.seen (h : Pair parser parser') :
    parser'.hasError = parser.hasError ∧ parser'.isFinished = parser.isFinished ∧ parser'.m_data = parser.m_data := by
  have hdata : parser'.toParsed = parser.toParsed := h.same.same.data
  simp only [hasError, isFinished, http_parser_finish, http_parser_has_error, http_parser_is_finished, h.cs, hdata]
  exact ⟨trivial, rfl, trivial⟩

/-- With the same flag there is no difference. -/
theorem Pair.observe_same (calls : List Call) (h : Pair parser parser')
    (hflag : parser'.mParser.uri_relaxed = parser.mParser.uri_relaxed) :
    parser.observe calls = parser'.observe calls ∧ parser.outcome calls = parser'.outcome calls := by
  induction calls generalizing parser parser' with
  | nil =>
      obtain ⟨herr, hfin, hdata⟩ := h.seen
      rw [outcome, outcome, herr, hfin, hdata]
      exact ⟨rfl, rfl⟩
  | cons c rest ih =>
      rcases h.call_same (c := c) (.inl hflag) with ⟨e, hc, hc'⟩ | ⟨n, data, q, q', hc, hc', hq, hu, hu'⟩
      · rw [observe, observe, outcome, outcome, hc, hc']
        exact ⟨rfl, rfl⟩
      · obtain ⟨herr, hfin, hdata⟩ := hq.seen
        obtain ⟨hobserve, houtcome⟩ := ih hq (by rw [hu, hu', hflag])
        rw [observe, observe, outcome, outcome, hc, hc']
        simp only [herr, hfin, hdata, hobserve, houtcome, and_self]

/-- The flag shows in just the calls that meet it. -/
theorem Pair.observe_apart (calls : List Call) (h : Pair parser parser')
    (hu : parser.mParser.uri_relaxed = false) (hu' : parser'.mParser.uri_relaxed = true) :
    parser.observe calls = parser'.observe calls ↔ parser.meetsFlag calls = false := by
  induction calls generalizing parser parser' with
  | nil => exact ⟨fun _ => rfl, fun _ => rfl⟩
  | cons c rest ih =>
      rw [observe, observe, meetsFlag]
      cases hdelim : c.meetsDelim parser with
      | true =>
          rcases h.call_apart hu hu' hdelim with ⟨e, e', hc, hc'⟩ | ⟨n, data, q, hc, hfurther⟩
          · rw [hc, hc']
            exact ⟨fun _ => rfl, fun _ => rfl⟩
          · rw [hc]
            refine ⟨fun heq => ?_, nofun⟩
            cases hc' : parser'.call c with
            | error e =>
                rw [hc'] at heq
                cases heq
            | ok r =>
                obtain ⟨n', data', q'⟩ := r
                have hlt := hfurther n' data' q' hc'
                rw [hc'] at heq
                simp only [List.cons.injEq, Option.some.injEq, Seen.mk.injEq] at heq
                omega
      | false =>
          rcases h.call_same (.inr ⟨hu, hdelim⟩) with ⟨e, hc, hc'⟩ | ⟨n, data, q, q', hc, hc', hq, hqu, hqu'⟩
          · rw [hc, hc']
            exact ⟨fun _ => rfl, fun _ => rfl⟩
          · obtain ⟨herr, hfin, hdata⟩ := hq.seen
            rw [hc, hc']
            simp only [herr, hfin, hdata, List.cons.injEq, true_and, Bool.false_or]
            exact ih hq (hqu.trans hu) (hqu'.trans hu')

theorem new_pair (memory memory' : HttpParser) : Pair (new memory) (new memory') := by
  have hstart : .query_start ∉ HttpParser.pending http_parser_start := by decide
  exact ⟨⟨⟨rfl, rfl, fun hmem => absurd hmem hstart⟩⟩, .inl rfl⟩

/-- A request with a brace in its path, in one call. -/
def braceCalls : List Call := [⟨ascii "GET /\x7b HTTP/1.1\r\n\r\n", 19, 0⟩]

theorem braceCalls_apart :
    (new (clearMemory false)).outcome braceCalls ≠ (new (clearMemory true)).outcome braceCalls := by
  decide +kernel

theorem outcome_clear (memory : HttpParser) (calls : List Call) :
    (new memory).outcome calls = (new (clearMemory memory.uri_relaxed)).outcome calls :=
  ((new_pair memory (clearMemory memory.uri_relaxed)).observe_same calls rfl).2

theorem not_outcome_brace :
    ¬∀ (calls : List Call) (memory memory' : HttpParser),
      (new memory).outcome calls = (new memory').outcome calls := by
  intro h
  exact braceCalls_apart (h braceCalls (clearMemory false) (clearMemory true))

/-- Two parsers are alike in all they do if the memory they were made in has the same `uri_relaxed`. In other memory
they differ after just the calls that meet the flag. -/
theorem outcome_iff (memory memory' : HttpParser) :
    ((∀ calls : List Call, (new memory).outcome calls = (new memory').outcome calls) ↔
      memory.uri_relaxed = memory'.uri_relaxed) ∧
    ∀ calls : List Call, (new memory).observe calls = (new memory').observe calls ↔
      (memory.uri_relaxed = memory'.uri_relaxed ∨
        (new { memory with uri_relaxed := false }).meetsFlag calls = false) := by
  refine ⟨⟨fun h => ?_, fun hflag calls => ?_⟩, fun calls => ?_⟩
  · have hclear := h braceCalls
    rw [outcome_clear memory, outcome_clear memory'] at hclear
    cases hu : memory.uri_relaxed <;> cases hu' : memory'.uri_relaxed
    · rfl
    · rw [hu, hu'] at hclear
      exact absurd hclear braceCalls_apart
    · rw [hu, hu'] at hclear
      exact absurd hclear.symm braceCalls_apart
    · rfl
  · exact ((new_pair memory memory').observe_same calls hflag.symm).2
  · have hstrict := (new_pair { memory with uri_relaxed := false } memory').observe_apart calls rfl
    have hstrict' := (new_pair { memory with uri_relaxed := false } memory).observe_apart calls rfl
    cases hu : memory.uri_relaxed <;> cases hu' : memory'.uri_relaxed
    · refine ⟨fun _ => .inl rfl, fun _ => ((new_pair memory memory').observe_same calls ?_).1⟩
      exact hu'.trans hu.symm
    · have hsame := ((new_pair memory { memory with uri_relaxed := false }).observe_same calls hu.symm).1
      rw [hsame, hstrict hu']
      exact ⟨.inr, fun h => h.resolve_left nofun⟩
    · have hsame := ((new_pair memory' { memory with uri_relaxed := false }).observe_same calls hu'.symm).1
      rw [hsame, eq_comm, hstrict' hu]
      exact ⟨.inr, fun h => h.resolve_left nofun⟩
    · refine ⟨fun _ => .inl rfl, fun _ => ((new_pair memory memory').observe_same calls ?_).1⟩
      exact hu'.trans hu.symm

end HttpRequestParser

end Mingfwq.Http
