import Mingfwq.Http.Lemmas.Bounded
import Mingfwq.Http.Lemmas.BoundedResponse
import Mingfwq.Http.Lemmas.RequestHead

/-!
# What a call of execute is to do

It returns how many bytes it has taken, puts the others at the front of the buffer, and reads no byte behind those it is
given: whatever stands there, the call comes to the same.
-/

namespace Mingfwq.Http

open Lib

theorem memmove_prefix {data bytes : Bytes} {source : Nat} (hsource : source ≤ data.length)
    (h : bytes <+: data.drop source) : ∃ data', memmove data source bytes.length = .ok data' ∧ bytes <+: data' := by
  have htake : (data.drop source).take bytes.length = bytes := (List.prefix_iff_eq_take.mp h).symm
  have hle := h.length_le
  rw [List.length_drop] at hle
  rw [memmove_ok (by omega), htake]
  refine ⟨_, rfl, ?_⟩
  rw [overwrite_eq (by omega), List.take_zero, List.nil_append]
  exact List.prefix_append _ _

namespace HttpRequestParser

/-- The bytes that the automaton takes of those from `off` on. -/
def taken (parser : HttpRequestParser) (bytes : Bytes) (off : Nat) : Nat :=
  consumed (http_parser_next parser.mParser.uri_relaxed) HttpParser.Action.breaks (bytes.drop off) parser.mParser.cs

/-- The call does what it is to do, with `bytes` in the buffer. -/
def Delivers (parser : HttpRequestParser) (bytes : Bytes) (off : Nat) : Prop :=
  ∃ parser', ∀ rest, ∃ data, parser.execute (bytes ++ rest) bytes.length off =
    .ok (parser.taken bytes off, data, parser') ∧ bytes.drop (off + parser.taken bytes off) <+: data

/-- The call is from the front of the buffer, a body from an earlier call is no further on than the end of this
buffer, and a query from an earlier call does not end before the offset at which it began. -/
def Meets (parser : HttpRequestParser) (bytes : Bytes) (off : Nat) : Prop :=
  off = 0 ∧ (bytes = [] ∨ bytes.length < 2 ^ 31 ∧
    (parser.mParser.body_start ≤ bytes.length ∨
      breaksOff (http_parser_next parser.mParser.uri_relaxed) HttpParser.Action.breaks bytes parser.mParser.cs = true) ∧
    scan (http_parser_next parser.mParser.uri_relaxed) HttpParser.Action.breaks HttpParser.queryTrack 0 bytes
      parser.mParser.cs parser.mParser.query_start ≠ .fault)

variable {parser : HttpRequestParser} {bytes : Bytes} {off : Nat}

theorem delivers_nil : parser.Delivers [] 0 := by
  refine ⟨parser, fun rest => ⟨rest, ?_, List.nil_prefix⟩⟩
  rw [execute, http_parser_execute, if_pos List.length_nil, ok_bind]
  simp only [List.length_nil, Nat.add_zero, List.nil_append]
  rw [memmove_ok (Nat.zero_le _), List.take_zero, overwrite_nil (Nat.zero_le _), ok_bind]
  rfl

theorem Meets.delivers (h : parser.Meets bytes off) : parser.Delivers bytes off := by
  obtain ⟨rfl, hmeets⟩ := h
  by_cases hnil : bytes = []
  · subst hnil
    exact delivers_nil
  · obtain ⟨hlt, hbody, hquery⟩ := hmeets.resolve_left hnil
    have hpos : 0 < bytes.length := List.length_pos_of_ne_nil hnil
    cases hresult : (http_parser_exec callbacks parser.mParser parser.toParsed bytes bytes.length 0).result bytes.length
        http_parser_error with
    | none => exact absurd (Run.result_eq_none hresult) (http_parser_exec_bounded [] hquery).2
    | some r =>
        obtain ⟨p, cs, m, d⟩ := r
        have hp : p = parser.taken bytes 0 := by
          have hrun := hresult
          rw [http_parser_exec, List.take_length, List.drop_zero] at hrun
          rw [taken, List.drop_zero, result_consumed (Nat.zero_add _) hrun, Nat.zero_add]
        have hle : p ≤ bytes.length := by
          rw [hp, taken, List.drop_zero]
          exact consumed_le _ _
        have hbody' : m.body_start ≤ bytes.length := by
          have hend := http_parser_exec_breaksOff hresult
          split at hend
          · exact Nat.le_trans hend hle
          · next hb => exact hend ▸ hbody.resolve_right hb
        refine ⟨⟨d, { m with
          cs := if parser.mParser.cs = http_parser_error then parser.mParser.cs else cs
          nread := p }⟩, fun rest => ?_⟩
        have hbuffer : bytes.length ≤ (bytes ++ rest).length := by
          rw [List.length_append]
          omega
        have hrun := hresult
        rw [← (http_parser_exec_bounded rest hquery).1] at hrun
        have hdrop : bytes.drop p <+: (bytes ++ rest).drop (0 + p) := by
          rw [Nat.zero_add, List.drop_append_of_le_length hle]
          exact List.prefix_append _ _
        obtain ⟨data, hmove, hprefix⟩ := memmove_prefix (by omega) hdrop
        have hcount : bytes.length + 0 - p = (bytes.drop p).length := by
          rw [List.length_drop, Nat.add_zero]
        refine ⟨data, ?_, ?_⟩
        · rw [execute, http_parser_execute_result hpos (sameDistance_of_lt hlt (Nat.zero_le _)) (Nat.zero_le _) hbuffer
            hrun hbody', ok_bind, Nat.sub_zero]
          dsimp only
          rw [hcount, hmove, ok_bind, ← hp]
        · rwa [← hp, Nat.zero_add]

theorem Delivers.meets (hquery : parser.mParser.query_start < 2 ^ 64) (h : parser.Delivers bytes off) :
    parser.Meets bytes off := by
  obtain ⟨parser', h⟩ := h
  obtain ⟨data, hexec, -⟩ := h []
  rw [List.append_nil] at hexec
  have hfits := execute_fits hexec
  obtain rfl : off = 0 := by omega
  refine ⟨rfl, ?_⟩
  by_cases hlen : bytes.length = 0
  · exact .inl (List.eq_nil_of_length_eq_zero hlen)
  · rw [execute] at hexec
    obtain ⟨⟨n, m, d⟩, hparse, -⟩ := bind_eq_ok.mp hexec
    obtain ⟨-, hdistance, p, cs, m', d', hresult, hbody⟩ := http_parser_execute_ok hlen hparse
    have hlt : bytes.length < 2 ^ 31 := by
      by_contra hlong
      rw [sameDistance_long (Nat.not_lt.mp hlong)] at hdistance
      cases hdistance
    refine .inr ⟨hlt, ?_, ?_⟩
    · have hend := http_parser_exec_breaksOff hresult
      split at hend
      · next hb => exact .inr hb
      · exact .inl (hend ▸ hbody)
    · refine http_parser_exec_query (d := parser.toParsed) (by omega) hquery ?_
      intro hfault
      rw [hfault] at hresult
      cases hresult

end HttpRequestParser

namespace HttpResponseParser

/-- The automaton's state and registers with which a call begins. -/
def started (parser : HttpResponseParser) (chunck : Bool) : HttpClientParser :=
  if chunck then httpclient_parser_init parser.mParser else parser.mParser

/-- The bytes that the automaton takes of those from `off` on. -/
def taken (parser : HttpResponseParser) (bytes : Bytes) (chunck : Bool) (off : Nat) : Nat :=
  consumed httpclient_parser_next HttpClientParser.Action.breaks (bytes.drop off) (parser.started chunck).cs

/-- The call does what it is to do, with `bytes` and a zero in the buffer. -/
def Delivers (parser : HttpResponseParser) (bytes : Bytes) (chunck : Bool) (off : Nat) : Prop :=
  ∃ parser', ∀ rest, ∃ data, parser.execute (bytes ++ 0 :: rest) bytes.length chunck off =
    .ok (parser.taken bytes chunck off, data, parser') ∧ bytes.drop (off + parser.taken bytes chunck off) <+: data

/-- The call begins afresh or after calls that took nothing, takes less than 2^31 bytes, and has no name read behind the
zero. -/
structure Meets (parser : HttpResponseParser) (bytes : Bytes) (chunck : Bool) (off : Nat) : Prop where
  nread : (parser.started chunck).nread = 0
  ne_nil : bytes ≠ []
  distance : sameDistance bytes.length off = true
  taken_lt : parser.taken bytes chunck off < 2 ^ 31
  names : scan httpclient_parser_next HttpClientParser.Action.breaks (HttpClientParser.nameTrack bytes.length) off
    (bytes.drop off) (parser.started chunck).cs (parser.started chunck).name ≠ .fault

/-- The parsers that calls lead to, whatever their arguments. -/
inductive Reached : HttpResponseParser → Prop
  | new (memory : HttpClientParser) : Reached (.new memory)
  | execute {parser parser' : HttpResponseParser} {data data' : Bytes} {len off n : Nat} {chunck : Bool} :
      Reached parser → parser.execute data len chunck off = .ok (n, data', parser') → Reached parser'

variable {parser parser' : HttpResponseParser} {bytes : Bytes} {chunck : Bool} {off : Nat}

/-- What a call that returns has done. -/
theorem execute_ok {data data' : Bytes} {len n : Nat}
    (h : parser.execute data len chunck off = .ok (n, data', parser')) :
    off ≤ len ∧ data[len]? = some 0 ∧ sameDistance len off = true ∧ ∃ p cs m d offset,
      (httpclient_parser_exec callbacks (parser.started chunck) parser.toParsed data len off).result len
        httpclient_parser_error = some (p, cs, m, d) ∧
      parser'.mParser = { m with cs, nread := (parser.started chunck).nread + (p - off) } ∧
      (parser.started chunck).nread + (p - off) ≤ len ∧ n = (offset % 2 ^ 64).toNat ∧
      (offset = -1 ∨ 0 < len ∧ offset = toInt32 ((parser.started chunck).nread + (p - off) : Nat)) := by
  rw [execute] at h
  obtain ⟨⟨offset, m', d⟩, hparse, h⟩ := bind_eq_ok.mp h
  obtain ⟨hoff, hend, hdistance, p, cs, m, hresult, rfl, hle, hoffset⟩ := httpclient_parser_execute_ok hparse
  refine ⟨hoff, hend, hdistance, p, cs, m, d, offset, hresult, ?_⟩
  dsimp only at h
  split at h
  · cases h
  · obtain ⟨data₁, -, h⟩ := bind_eq_ok.mp h
    obtain ⟨hn, h⟩ := Prod.mk.inj (Except.ok.inj h)
    obtain ⟨-, rfl⟩ := Prod.mk.inj h
    exact ⟨rfl, hle, hn.symm, hoffset⟩

theorem Reached.inRange (h : Reached parser) (hnread : parser.mParser.nread = 0) :
    HttpClientParser.InRange 0 parser.mParser := by
  induction h with
  | new memory => exact httpclient_parser_init_inRange memory
  | @execute parser parser' data data' len off n chunck _ hexec ih =>
      obtain ⟨hoff, hend, -, p, cs, m, d, offset, hresult, hparser', -⟩ := execute_ok hexec
      obtain ⟨hdata, -⟩ := List.getElem?_eq_some_iff.mp hend
      rw [hparser'] at hnread ⊢
      have hzero : (parser.started chunck).nread + (p - off) = 0 := hnread
      have hstarted : HttpClientParser.InRange 0 (parser.started chunck) := by
        cases chunck with
        | true => exact httpclient_parser_init_inRange parser.mParser
        | false => exact ih (Nat.add_eq_zero_iff.mp hzero).1
      have hbytes : off + ((data.take len).drop off).length = len := by
        rw [List.length_drop, List.length_take]
        omega
      have hconsumed := result_consumed hbytes hresult
      obtain rfl : p = off := by omega
      obtain ⟨rfl, -⟩ := Prod.mk.inj (result_start hbytes hresult)
      obtain ⟨-, hmark, hfield, hlen, hbody⟩ := hstarted
      exact ⟨hnread, hmark, hfield, hlen, hbody⟩

theorem Reached.started_inRange (h : Reached parser) (hnread : (parser.started chunck).nread = 0) :
    HttpClientParser.InRange 0 (parser.started chunck) := by
  cases chunck with
  | true => exact httpclient_parser_init_inRange parser.mParser
  | false => exact h.inRange hnread

theorem Meets.delivers (hreached : Reached parser) (hoff : off ≤ bytes.length) (h : parser.Meets bytes chunck off) :
    parser.Delivers bytes chunck off := by
  have hrange : HttpClientParser.InRange off (parser.started chunck) := (hreached.started_inRange h.nread).le
  have hpos : 0 < bytes.length := List.length_pos_of_ne_nil h.ne_nil
  cases hresult : (httpclient_parser_exec callbacks (parser.started chunck) parser.toParsed (bytes ++ [0]) bytes.length
      off).result bytes.length httpclient_parser_error with
  | none => exact absurd (Run.result_eq_none hresult) (httpclient_parser_exec_bounded [] hrange h.names).2
  | some r =>
      obtain ⟨p, cs, m, d⟩ := r
      have hp : p = off + parser.taken bytes chunck off := by
        have hrun := hresult
        rw [httpclient_parser_exec, List.take_left] at hrun
        refine result_consumed ?_ hrun
        rw [List.length_drop]
        omega
      have hle : p ≤ bytes.length := by
        have htaken : parser.taken bytes chunck off ≤ (bytes.drop off).length := consumed_le _ _
        rw [List.length_drop] at htaken
        omega
      have htaken : p - off = parser.taken bytes chunck off := by omega
      refine ⟨⟨d, { m with cs, nread := p - off }⟩, fun rest => ?_⟩
      have hend : (bytes ++ 0 :: rest)[bytes.length]? = some 0 := by
        rw [List.getElem?_append_right (Nat.le_refl _), Nat.sub_self]
        rfl
      have hrun := hresult
      rw [← (httpclient_parser_exec_bounded rest hrange h.names).1] at hrun
      have hdrop : bytes.drop p <+: (bytes ++ 0 :: rest).drop p := by
        rw [List.drop_append_of_le_length hle]
        exact List.prefix_append _ _
      have hlength : p ≤ (bytes ++ 0 :: rest).length := by
        rw [List.length_append]
        omega
      obtain ⟨data, hmove, hprefix⟩ := memmove_prefix hlength hdrop
      have hsource : ((off : Int) + (p - off : Nat)).toNat = p := by omega
      have hcount : (((bytes.length : Int) - off - (p - off : Nat)) % 2 ^ 64).toNat = (bytes.drop p).length := by
        have hdistance := sameDistance_lt h.distance
        rw [List.length_drop]
        omega
      have hparsed : (((p - off : Nat) : Int) % 2 ^ 64).toNat = p - off := by
        have hlt := h.taken_lt
        omega
      refine ⟨data, ?_, hp ▸ hprefix⟩
      rw [execute, ← started, httpclient_parser_execute_eq hpos h.distance hoff hend hrange hrun,
        toInt32_of_lt (by rw [htaken]; exact h.taken_lt), ok_bind]
      dsimp only
      rw [if_neg (by omega), hsource, hcount, hmove, ok_bind, hparsed, htaken]

theorem Delivers.meets (hlt : bytes.length < 2 ^ 32) (h : parser.Delivers bytes chunck off) :
    parser.Meets bytes chunck off := by
  obtain ⟨parser', h⟩ := h
  obtain ⟨data, hexec, -⟩ := h []
  obtain ⟨hoff, hend, hdistance, p, cs, m, d, offset, hresult, hparser', hle, htaken, hoffset⟩ := execute_ok hexec
  have hbytes : off + (bytes.drop off).length = bytes.length := by
    rw [List.length_drop]
    omega
  have hp : p = off + parser.taken bytes chunck off := by
    have hrun := hresult
    rw [httpclient_parser_exec, List.take_left] at hrun
    exact result_consumed hbytes hrun
  have hconsumed : parser.taken bytes chunck off ≤ (bytes.drop off).length := consumed_le _ _
  generalize hnread : (parser.started chunck).nread = nread at hle hoffset
  obtain ⟨hpos, hzero, hsmall⟩ : 0 < bytes.length ∧ nread = 0 ∧ parser.taken bytes chunck off < 2 ^ 31 := by
    rcases hoffset with hminus | ⟨hpos, hcount⟩
    · rw [hminus] at htaken
      omega
    · refine ⟨hpos, ?_⟩
      by_cases hint : nread + (p - off) < 2 ^ 31
      · rw [hcount, toInt32_of_lt hint] at htaken
        omega
      · rw [hcount, toInt32_long (by omega) (by omega)] at htaken
        omega
  refine ⟨hnread.trans hzero, List.ne_nil_of_length_pos hpos, hdistance, hsmall, ?_⟩
  refine httpclient_parser_exec_names (d := parser.toParsed) fun hfault => ?_
  rw [hfault] at hresult
  cases hresult

end HttpResponseParser

/-- A request is parsed as it is to be from the front of a buffer only. The calls for a response do so while nothing has
been counted, and not for empty or very long input or names read where another one has begun. -/
theorem execute_delivers_iff (parser : HttpRequestParser) (parser' : HttpResponseParser) (bytes : Bytes)
    (chunck : Bool) (off : Nat) :
    (parser.mParser.query_start < 2 ^ 64 → (parser.Delivers bytes off ↔ parser.Meets bytes off)) ∧
    (parser'.Reached → off ≤ bytes.length →
      (parser'.Meets bytes chunck off → parser'.Delivers bytes chunck off) ∧
        (bytes.length < 2 ^ 32 → parser'.Delivers bytes chunck off → parser'.Meets bytes chunck off)) := by
  constructor
  · intro hquery
    exact ⟨fun h => h.meets hquery, fun h => h.delivers⟩
  · intro hreached hoff
    exact ⟨fun h => h.delivers hreached hoff, fun hlt h => h.meets hlt⟩

theorem execute_delivers_front :
    (HttpRequestParser.new (clearMemory false)).Delivers (ascii "GET / HTTP/1.1\r\n\r\nbody") 0 ∧
    (HttpResponseParser.new clearClientMemory).Delivers
      (ascii ".HTTP/1.1 200 OK\r\nServer: x\r\n\r\nbody") false 1 := by
  refine ⟨((execute_delivers_iff _ (.new clearClientMemory) _ false _).1 (by decide)).mpr
      ⟨rfl, .inr ⟨by decide, .inl (by decide), by decide +kernel⟩⟩,
    ((execute_delivers_iff (.new (clearMemory false)) _ _ _ _).2 (.new _) (by decide)).1 ?_⟩
  exact ⟨rfl, by decide, by decide +kernel, by decide +kernel, by decide +kernel⟩

/-- The response that is fed in two halves. -/
def halfResponse : Except Stop (Nat × Bytes × HttpResponseParser) :=
  (HttpResponseParser.new clearClientMemory).execute (ascii "HTTP" ++ [0]) 4 false 0

theorem not_delivers :
    (¬∀ (memory : HttpParser) (bytes : Bytes) (off : Nat), off ≤ bytes.length →
      (HttpRequestParser.new memory).Delivers bytes off) ∧
    ¬∀ (parser : HttpResponseParser) (bytes : Bytes) (chunck : Bool) (off : Nat), parser.Reached → off ≤ bytes.length →
      parser.Delivers bytes chunck off := by
  constructor <;> intro h
  · obtain ⟨parser', hdelivers⟩ := h (clearMemory false) (ascii " GET / HTTP/1.1\r\n\r\n") 1 (by decide)
    obtain ⟨data, hexec, -⟩ := hdelivers []
    have hfits := HttpRequestParser.execute_fits hexec
    rw [List.append_nil] at hfits
    omega
  · have hnread : (match halfResponse with | .ok r => r.2.2.mParser.nread | .error _ => 0) = 4 := by rfl
    cases hhalf : halfResponse with
    | error e =>
        rw [hhalf] at hnread
        cases hnread
    | ok r =>
        obtain ⟨n, data, parser⟩ := r
        rw [hhalf] at hnread
        have hmeets := (h parser (ascii "/1.1") false 0 (.execute (.new _) hhalf) (Nat.zero_le _)).meets (by decide)
        have hzero : parser.mParser.nread = 0 := hmeets.nread
        rw [show parser.mParser.nread = 4 from hnread] at hzero
        cases hzero

end Mingfwq.Http
