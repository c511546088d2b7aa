import Mingfwq.Http.HttpConnection
import Mingfwq.Stream.Lemmas.Reading

/-!
# The registers of the parsers

Every register is an offset behind the byte the automaton stands on, so the checks at the end of a call hold.
-/

namespace Mingfwq.Http

open Lib

variable {δ : Type} {buffer : Bytes} {len off n p cs : Nat} {data data' : δ}

theorem LEN_of_le {reg p : Nat} (h : reg ≤ p) : LEN reg p = p - reg := if_pos h

/-! ## http11_parser.rl -/

/-- What holds of the registers with the automaton before position `p`, in a call that `start` has entered. -/
structure HttpParser.InRange (start : HttpParser) (p : Nat) (parser : HttpParser) : Prop where
  cs : parser.cs = start.cs
  uri_relaxed : parser.uri_relaxed = start.uri_relaxed
  nread : parser.nread = 0
  mark : parser.mark ≤ p - 1
  field_start : parser.field_start ≤ p - 1
  field_len : parser.field_len ≤ p
  body_start : parser.body_start ≤ p ∨ parser.body_start = start.body_start

theorem HttpParser.InRange.next {start parser : HttpParser} (h : InRange start p parser) :
    InRange start (p + 1) parser := by
  obtain ⟨hcs, hrel, hnread, hmark, hstart, hlen, hbody⟩ := h
  exact ⟨hcs, hrel, hnread, by omega, by omega, by omega, hbody.imp_left Nat.le_succ_of_le⟩

/-- An action at `p` keeps the registers before `p + 1`. -/
theorem HttpParser.run_inRange {cb : HttpParser.Callbacks δ} {start : HttpParser} {a : HttpParser.Action}
    {k k' : HttpParser × δ} (h : InRange start (p + 1) k.1) (hr : HttpParser.run cb buffer n a p k = some k') :
    InRange start (p + 1) k'.1 := by
  obtain ⟨parser, data⟩ := k
  obtain ⟨hcs, hrel, hnread, hmark, hstart, hlen, hbody⟩ := h
  simp only [Nat.add_sub_cancel] at hmark hstart
  cases a with
  | mark | start_value =>
      cases hr
      exact ⟨hcs, hrel, hnread, Nat.le_refl p, hstart, hlen, hbody⟩
  | start_field =>
      cases hr
      exact ⟨hcs, hrel, hnread, hmark, Nat.le_refl p, hlen, hbody⟩
  | write_field =>
      cases hr
      refine ⟨hcs, hrel, hnread, hmark, hstart, ?_, hbody⟩
      simp only [LEN_of_le hstart]
      omega
  | start_query | xml | json =>
      cases hr
      exact ⟨hcs, hrel, hnread, hmark, hstart, hlen, hbody⟩
  | done =>
      simp only [run] at hr
      split at hr
      · cases hr
        exact ⟨hcs, hrel, hnread, hmark, hstart, hlen, .inl (Nat.le_succ_of_le hmark)⟩
      · obtain ⟨_, -, rfl⟩ := Option.map_eq_some_iff.mp hr
        exact ⟨hcs, hrel, hnread, hmark, hstart, hlen, .inl (Nat.le_refl _)⟩
  | write_value | request_method | request_uri | fragment | query_string | http_version | request_path =>
      obtain ⟨_, -, rfl⟩ := Option.map_eq_some_iff.mp hr
      exact ⟨hcs, hrel, hnread, hmark, hstart, hlen, hbody⟩

theorem http_parser_exec_inRange {cb : HttpParser.Callbacks δ} {parser parser' : HttpParser} (hoff : off ≤ len)
    (hbuffer : len ≤ buffer.length)
    (h : (http_parser_exec cb parser data buffer len off).result len http_parser_error =
      some (p, cs, parser', data')) :
    off ≤ p ∧ p ≤ len ∧ HttpParser.InRange parser p parser' := by
  refine scan_inv (I := fun p k => HttpParser.InRange parser p k.1) ?_ ?_ ?_ h
  · intro p k acts k' _ hk hr
    exact runActs_inv (I := fun k => HttpParser.InRange parser (p + 1) k.1)
      (fun a _ k k' hk hr => HttpParser.run_inRange hk hr) hk.next hr
  · simp only [List.length_drop, List.length_take]
    omega
  · exact ⟨rfl, rfl, rfl, Nat.zero_le _, Nat.zero_le _, Nat.zero_le _, .inr rfl⟩

theorem sameDistance_of_lt (hlt : len < 2 ^ 31) (hoff : off ≤ len) : sameDistance len off = true := by
  rw [sameDistance, toInt32_of_lt hlt, toInt32_of_lt (Nat.lt_of_le_of_lt hoff hlt)]
  exact beq_self_eq_true _

theorem sameDistance_lt (h : sameDistance len off = true) : len < off + 2 ^ 32 := by
  have hlen : toInt32 len < 2 ^ 31 := Int.bmod_lt (by decide)
  have hoff : -2 ^ 31 ≤ toInt32 off := Int.le_bmod (by decide)
  have heq : (len : Int) - off = toInt32 len - toInt32 off := eq_of_beq h
  omega

/-- The checked distance is that of two `int`s. -/
theorem sameDistance_long (h : 2 ^ 31 ≤ len) : sameDistance len 0 = false := by
  have hlt : toInt32 len < 2 ^ 31 := Int.bmod_lt (by decide)
  have hzero : toInt32 0 = 0 := rfl
  rw [sameDistance, Int.natCast_zero, hzero, beq_eq_false_iff_ne]
  omega

/-- A call, by where its run ends, if its body is in the buffer: the other checks hold. -/
theorem http_parser_execute_result {cb : HttpParser.Callbacks δ} {parser parser' : HttpParser} (hlen : 0 < len)
    (hdistance : sameDistance len off = true) (hoff : off ≤ len) (hbuffer : len ≤ buffer.length)
    (h : (http_parser_exec cb parser data buffer len off).result len http_parser_error =
      some (p, cs, parser', data'))
    (hbody : parser'.body_start ≤ len) :
    http_parser_execute cb parser data buffer len off = .ok (p - off,
      { parser' with cs := if parser.cs = http_parser_error then parser.cs else cs, nread := p - off }, data') := by
  obtain ⟨hpo, hpl, hrange⟩ := http_parser_exec_inRange hoff hbuffer h
  have hmark := hrange.mark
  have hstart := hrange.field_start
  have hflen := hrange.field_len
  rw [http_parser_execute, if_neg (Nat.ne_of_gt hlen),
    if_neg (by rw [not_or]; exact ⟨Nat.not_lt.mpr hoff, not_not.mpr hdistance⟩), h]
  simp only [hrange.cs, hrange.nread, Nat.zero_add]
  rw [if_pos ⟨by omega, by omega, by omega, by omega, by omega⟩]

/-- What a call that returns has passed. -/
theorem http_parser_execute_ok {cb : HttpParser.Callbacks δ} {parser : HttpParser} {r : Nat × HttpParser × δ}
    (hlen : len ≠ 0) (h : http_parser_execute cb parser data buffer len off = .ok r) :
    off ≤ len ∧ sameDistance len off = true ∧ ∃ p cs parser' data',
      (http_parser_exec cb parser data buffer len off).result len http_parser_error = some (p, cs, parser', data') ∧
        parser'.body_start ≤ len := by
  rw [http_parser_execute, if_neg hlen] at h
  split at h
  · cases h
  · next hoff =>
      rw [not_or, not_not, Nat.not_lt] at hoff
      refine ⟨hoff.1, hoff.2, ?_⟩
      split at h
      · cases h
      · next p cs parser' data' hresult =>
          refine ⟨p, cs, parser', data', hresult, ?_⟩
          by_contra hbody
          have hchecks : ¬(parser'.nread + (p - off) ≤ len ∧ parser'.body_start ≤ len ∧ parser'.mark < len ∧
              parser'.field_len ≤ len ∧ parser'.field_start < len) := fun hchecks => hbody hchecks.2.1
          dsimp only at h
          rw [if_neg hchecks] at h
          cases h

/-- A call of a parser without a body yet: all checks hold. -/
theorem http_parser_execute_checked {cb : HttpParser.Callbacks δ} {parser parser' : HttpParser} (hlen : 0 < len)
    (hdistance : sameDistance len off = true) (hoff : off ≤ len) (hbuffer : len ≤ buffer.length)
    (hbody : parser.body_start ≤ off) (hcs : parser.cs ≠ http_parser_error)
    (h : (http_parser_exec cb parser data buffer len off).result len http_parser_error =
      some (p, cs, parser', data')) :
    http_parser_execute cb parser data buffer len off =
      .ok (p - off, { parser' with cs, nread := p - off }, data') := by
  obtain ⟨hpo, hpl, hrange⟩ := http_parser_exec_inRange hoff hbuffer h
  have hbody' := hrange.body_start
  rw [http_parser_execute_result hlen hdistance hoff hbuffer h (by omega), if_neg hcs]

theorem http_parser_execute_eq {cb : HttpParser.Callbacks δ} {parser parser' : HttpParser} (hlen : 0 < len)
    (hlt : len < 2 ^ 31) (hoff : off ≤ len) (hbuffer : len ≤ buffer.length) (hbody : parser.body_start ≤ off)
    (hcs : parser.cs ≠ http_parser_error)
    (h : (http_parser_exec cb parser data buffer len off).result len http_parser_error =
      some (p, cs, parser', data')) :
    http_parser_execute cb parser data buffer len off =
      .ok (p - off, { parser' with cs, nread := p - off }, data') :=
  http_parser_execute_checked hlen (sameDistance_of_lt hlt hoff) hoff hbuffer hbody hcs h

/-- Only `done` sets `body_start`. -/
theorem HttpParser.run_body_start {cb : HttpParser.Callbacks δ} {a : HttpParser.Action} {k k' : HttpParser × δ}
    (ha : a ≠ .done) (h : HttpParser.run cb buffer n a p k = some k') : k'.1.body_start = k.1.body_start := by
  obtain ⟨parser, d⟩ := k
  cases a with
  | done => exact absurd rfl ha
  | mark | start_value | start_field | write_field | start_query | xml | json =>
      cases h
      rfl
  | write_value | request_method | request_uri | fragment | query_string | http_version | request_path =>
      obtain ⟨_, -, rfl⟩ := Option.map_eq_some_iff.mp h
      rfl

/-- A run that is not broken off leaves `body_start` alone. -/
theorem http_parser_exec_body_start {cb : HttpParser.Callbacks δ} {parser parser' : HttpParser}
    (h : http_parser_exec cb parser data buffer len off = .live cs (parser', data')) :
    parser'.body_start = parser.body_start := by
  refine scan_live_inv (I := fun k => k.1.body_start = parser.body_start) ?_ ?_ h
  · intro a p k k' hb hk hr
    rw [HttpParser.run_body_start (by rintro rfl; cases hb) hr, hk]
  · rfl

/-! ## httpclient_parser.rl -/

/-- What holds of the registers with the automaton before position `p`, in the first call. -/
structure HttpClientParser.InRange (p : Nat) (parser : HttpClientParser) : Prop where
  nread : parser.nread = 0
  mark : parser.mark ≤ p - 1
  field_start : parser.field_start ≤ p - 1
  field_len : parser.field_len ≤ p
  body_start : parser.body_start ≤ p

theorem HttpClientParser.InRange.next {parser : HttpClientParser} (h : InRange p parser) :
    InRange (p + 1) parser := by
  obtain ⟨hnread, hmark, hstart, hlen, hbody⟩ := h
  exact ⟨hnread, by omega, by omega, by omega, by omega⟩

/-- An action at `p` keeps the registers before `p + 1`. -/
theorem HttpClientParser.run_inRange {cb : HttpClientParser.Callbacks δ} {a : HttpClientParser.Action}
    {k k' : HttpClientParser × δ} (h : InRange (p + 1) k.1)
    (hr : HttpClientParser.run cb buffer n a p k = some k') : InRange (p + 1) k'.1 := by
  obtain ⟨parser, data⟩ := k
  obtain ⟨hnread, hmark, hstart, hlen, hbody⟩ := h
  simp only [Nat.add_sub_cancel] at hmark hstart
  cases a with
  | mark | start_value =>
      cases hr
      exact ⟨hnread, Nat.le_refl p, hstart, hlen, hbody⟩
  | start_field =>
      cases hr
      exact ⟨hnread, hmark, Nat.le_refl p, hlen, hbody⟩
  | write_field =>
      cases hr
      refine ⟨hnread, hmark, hstart, ?_, hbody⟩
      simp only [LEN_of_le hstart]
      omega
  | write_content_len | write_connection_close | trans_chunked =>
      cases hr
      exact ⟨hnread, hmark, hstart, hlen, hbody⟩
  | done =>
      obtain ⟨_, -, rfl⟩ := Option.map_eq_some_iff.mp hr
      exact ⟨hnread, hmark, hstart, hlen, Nat.le_refl _⟩
  | write_value | reason_phrase | status_code | http_version | chunk_size =>
      obtain ⟨_, -, rfl⟩ := Option.map_eq_some_iff.mp hr
      exact ⟨hnread, hmark, hstart, hlen, hbody⟩

theorem httpclient_parser_init_inRange (parser : HttpClientParser) :
    HttpClientParser.InRange p (httpclient_parser_init parser) :=
  ⟨rfl, Nat.zero_le _, Nat.zero_le _, Nat.zero_le _, Nat.zero_le _⟩

theorem httpclient_parser_exec_inRange {cb : HttpClientParser.Callbacks δ} {parser parser' : HttpClientParser}
    (hoff : off ≤ len) (hbuffer : len ≤ buffer.length) (hparser : HttpClientParser.InRange off parser)
    (h : (httpclient_parser_exec cb parser data buffer len off).result len httpclient_parser_error =
      some (p, cs, parser', data')) :
    off ≤ p ∧ p ≤ len ∧ HttpClientParser.InRange p parser' := by
  refine scan_inv (I := fun p k => HttpClientParser.InRange p k.1) ?_ ?_ ?_ h
  · intro p k acts k' _ hk hr
    exact runActs_inv (I := fun k => HttpClientParser.InRange (p + 1) k.1)
      (fun a _ k k' hk hr => HttpClientParser.run_inRange hk hr) hk.next hr
  · simp only [List.length_drop, List.length_take]
    omega
  · exact hparser

/-- A call, by where its run ends: all checks hold. -/
theorem httpclient_parser_execute_eq {cb : HttpClientParser.Callbacks δ} {parser parser' : HttpClientParser}
    (hlen : 0 < len) (hdistance : sameDistance len off = true) (hoff : off ≤ len) (hend : buffer[len]? = some 0)
    (hparser : HttpClientParser.InRange off parser)
    (h : (httpclient_parser_exec cb parser data buffer len off).result len httpclient_parser_error =
      some (p, cs, parser', data')) :
    httpclient_parser_execute cb parser data buffer len off =
      .ok (toInt32 (p - off : Nat), { parser' with cs, nread := p - off }, data') := by
  obtain ⟨hbuffer, -⟩ := List.getElem?_eq_some_iff.mp hend
  obtain ⟨hpo, hpl, hrange⟩ := httpclient_parser_exec_inRange hoff (Nat.le_of_lt hbuffer) hparser h
  have hmark := hrange.mark
  have hstart := hrange.field_start
  have hflen := hrange.field_len
  have hbody' := hrange.body_start
  rw [httpclient_parser_execute, if_neg (by
    rw [not_or, not_or]
    exact ⟨Nat.not_lt.mpr hoff, not_not.mpr hend, not_not.mpr hdistance⟩), h]
  simp only [hrange.nread, Nat.zero_add]
  rw [if_pos ⟨by omega, by omega⟩, if_pos ⟨by omega, by omega, by omega⟩]

theorem HttpClientParser.InRange.le {parser : HttpClientParser} (h : InRange 0 parser) : InRange off parser := by
  obtain ⟨hnread, hmark, hstart, hlen, hbody⟩ := h
  exact ⟨hnread, by omega, by omega, by omega, by omega⟩

/-- No action counts the bytes. -/
theorem HttpClientParser.run_nread {cb : HttpClientParser.Callbacks δ} {a : HttpClientParser.Action}
    {k k' : HttpClientParser × δ} (h : HttpClientParser.run cb buffer n a p k = some k') :
    k'.1.nread = k.1.nread := by
  obtain ⟨parser, d⟩ := k
  cases a with
  | mark | start_value | start_field | write_field | write_content_len | write_connection_close | trans_chunked =>
      cases h
      rfl
  | done | write_value | reason_phrase | status_code | http_version | chunk_size =>
      obtain ⟨_, -, rfl⟩ := Option.map_eq_some_iff.mp h
      rfl

/-- What a call that returns has passed, and what it returns. -/
theorem httpclient_parser_execute_ok {cb : HttpClientParser.Callbacks δ} {parser m : HttpClientParser} {offset : Int}
    (h : httpclient_parser_execute cb parser data buffer len off = .ok (offset, m, data')) :
    off ≤ len ∧ buffer[len]? = some 0 ∧ sameDistance len off = true ∧ ∃ p cs parser',
      (httpclient_parser_exec cb parser data buffer len off).result len httpclient_parser_error =
        some (p, cs, parser', data') ∧ m = { parser' with cs, nread := parser.nread + (p - off) } ∧
      parser.nread + (p - off) ≤ len ∧
      (offset = -1 ∨ 0 < len ∧ offset = toInt32 (parser.nread + (p - off) : Nat)) := by
  rw [httpclient_parser_execute] at h
  split at h
  · cases h
  · next hoff =>
      rw [not_or, not_or, not_not, not_not, Nat.not_lt] at hoff
      obtain ⟨hbuffer, -⟩ := List.getElem?_eq_some_iff.mp hoff.2.1
      refine ⟨hoff.1, hoff.2.1, hoff.2.2, ?_⟩
      split at h
      · cases h
      · next p cs parser' data₁ hresult =>
          have hnread : parser'.nread = parser.nread := by
            refine (scan_inv (I := fun _ k => k.1.nread = parser.nread) ?_ ?_ rfl hresult).2.2
            · intro p k acts k' _ hk hr
              exact runActs_inv (I := fun k => k.1.nread = parser.nread)
                (fun a _ k k' hk hr => (HttpClientParser.run_nread hr).trans hk) hk hr
            · simp only [List.length_drop, List.length_take]
              omega
          simp only [hnread] at h
          split at h
          · next hle =>
              split at h
              · next hchecks =>
                  obtain ⟨hoffset, hm⟩ := Prod.mk.inj (Except.ok.inj h)
                  obtain ⟨rfl, rfl⟩ := Prod.mk.inj hm
                  exact ⟨p, cs, parser', hresult, rfl, hle.1, .inr ⟨by omega, hoffset.symm⟩⟩
              · cases h
                exact ⟨p, cs, parser', hresult, rfl, hle.1, .inl rfl⟩
          · cases h

end Mingfwq.Http
