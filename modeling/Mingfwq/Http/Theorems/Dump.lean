import Mathlib.Algebra.Ring.Nat
import Mingfwq.Http.Lemmas.RequestHead
import Mingfwq.Http.Lemmas.RequestFields
import Mingfwq.Http.Lemmas.Decimal
import Mingfwq.Http.Lemmas.HeaderMap

/-!
# A request that is printed and read back

What dump() prints, the parser reads, but for two slips of the printer: behind a body it prints a line end that
belongs to nothing, and M-SEARCH is no name the grammar has. A path that is no `relative_part` is not read as a path.
-/

namespace Mingfwq.Http

open Lib HttpRequestParser

/-! ## What is printed -/

namespace HttpRequest

variable {request : HttpRequest} {uri_relaxed : Bool}

/-- The lines between the first one and the empty one. -/
def fields (request : HttpRequest) : List (Bytes × Bytes) :=
  (ascii "connection", 32 :: ascii (if request.m_close then "close" else "keep-alive")) ::
    (request.m_headers.filter (fun e => strcasecmp e.1 (ascii "connection") ≠ .eq) ++
      if request.m_body.isEmpty then []
      else [(ascii "content-length", 32 :: ascii (toString request.m_body.length))])

/-- What stands behind the empty line. -/
def trailer (request : HttpRequest) : Bytes :=
  if request.m_body.isEmpty then [] else request.m_body ++ [13, 10]

/-- The bytes from the version on. -/
def head_rest (request : HttpRequest) : Bytes :=
  version_text request.m_version ++ 13 :: 10 :: (request.fields.flatMap field_line ++ 13 :: 10 :: request.trailer)

theorem flatMap_filter {α β : Type} {p : α → Prop} [DecidablePred p] {f : α → List β} (l : List α) :
    (l.flatMap fun a => if p a then [] else f a) = (l.filter fun a => ¬p a).flatMap f := by
  induction l with
  | nil => rfl
  | cons a l ih =>
      rw [List.flatMap_cons, ih]
      by_cases h : p a
      · rw [if_pos h, List.nil_append, List.filter_cons_of_neg (by simpa using h)]
      · rw [if_neg h, List.filter_cons_of_pos (by simpa using h), List.flatMap_cons]

theorem dump_eq (request : HttpRequest) :
    request.dump = HttpMethodToString request.m_method ++ 32 :: (request.m_path ++
      (query_part request.m_query ++ (fragment_part request.m_fragment ++ 32 :: request.head_rest))) := by
  have hblank : ascii " " = [32] := rfl
  have hhttp : ascii " HTTP/" = 32 :: ascii "HTTP/" := rfl
  have hcrlf : ascii "\r\n" = [13, 10] := rfl
  have hcrlf₂ : ascii "\r\n\r\n" = [13, 10, 13, 10] := rfl
  have hcolon : ascii ":" = [58] := rfl
  have hconnection : ascii "connection: " = ascii "connection" ++ [58, 32] := rfl
  have hlength : ascii "content-length: " = ascii "content-length" ++ [58, 32] := rfl
  have hheaders : (request.m_headers.flatMap fun e => if strcasecmp e.1 (ascii "connection") = .eq then []
      else e.1 ++ ascii ":" ++ e.2 ++ ascii "\r\n") =
      (request.m_headers.filter fun e => strcasecmp e.1 (ascii "connection") ≠ .eq).flatMap field_line := by
    have hline : (fun e : Bytes × Bytes => e.1 ++ ascii ":" ++ e.2 ++ ascii "\r\n") = field_line := by
      funext e
      simp only [field_line, hcolon, hcrlf, List.append_assoc, List.cons_append, List.nil_append]
    rw [flatMap_filter, hline]
  rw [dump, hheaders, head_rest, fields, trailer, query_part, fragment_part, version_text]
  cases request.m_body.isEmpty <;> simp only [hblank, hhttp, hcrlf, hcrlf₂, hconnection, hlength, field_line,
    List.flatMap_cons, List.flatMap_append, List.flatMap_nil, List.append_assoc, List.cons_append, List.nil_append,
    List.append_nil, if_true, Bool.false_eq_true, if_false]

/-! ## Requests whose members can be printed -/

/-- Every member is a word of the grammar it is printed for. -/
structure Printable (uri_relaxed : Bool) (request : HttpRequest) : Prop where
  method : request.m_method ≠ .INVALID_METHOD
  version : request.m_version = 0x10 ∨ request.m_version = 0x11
  path : Coded (path_char uri_relaxed) request.m_path
  query : Coded (query_char uri_relaxed) request.m_query
  fragment : Coded (query_char uri_relaxed) request.m_fragment
  ordered : request.m_headers.Ordered
  headers : ∀ e ∈ request.m_headers, FieldOk e
  no_blank : ∀ e ∈ request.m_headers, e.2.head? ≠ some 32
  no_connection : ∀ e ∈ request.m_headers, strcasecmp e.1 (ascii "connection") ≠ .eq
  no_content_length : ∀ e ∈ request.m_headers, strcasecmp e.1 (ascii "content-length") ≠ .eq

/-- The headers of the request with those that are printed besides. -/
def emitted (request : HttpRequest) : MapType :=
  let headers := request.m_headers.set (ascii "connection") (ascii (if request.m_close then "close" else "keep-alive"))
  if request.m_body.isEmpty then headers
  else headers.set (ascii "content-length") (ascii (toString request.m_body.length))

theorem Printable.fields_ok (h : request.Printable uri_relaxed) : ∀ field ∈ request.fields, FieldOk field := by
  intro field hfield
  rcases List.mem_cons.mp hfield with rfl | hfield
  · have hname : ∀ c ∈ ascii "connection", token.has c = true := forall_mem_of_all (by decide)
    refine ⟨by simp [ascii], hname, ?_⟩
    cases request.m_close <;> exact forall_mem_of_all (by decide)
  · rcases List.mem_append.mp hfield with hfield | hfield
    · exact h.headers field (List.mem_of_mem_filter hfield)
    · split at hfield
      · cases hfield
      · rw [List.mem_singleton] at hfield
        subst hfield
        have hname : ∀ c ∈ ascii "content-length", token.has c = true := forall_mem_of_all (by decide)
        refine ⟨by simp [ascii], hname, ?_⟩
        intro c hc
        rcases List.mem_cons.mp hc with rfl | hc
        · rfl
        · exact forall_byte (P := fun c => CharClass.digit.has c = true → value_char.has c = true) (by decide +kernel)
            c (digits_char hc)

theorem field_value_of_head {value : Bytes} (h : value.head? ≠ some 32) : field_value value = value := by
  cases value with
  | nil => rfl
  | cons c value => exact List.dropWhile_cons_of_neg (by simpa using h)

theorem field_value_blank {value : Bytes} (h : value.head? ≠ some 32) : field_value (32 :: value) = value :=
  field_value_of_head h

theorem Printable.headers_of (h : request.Printable uri_relaxed) : headers_of [] request.fields = request.emitted := by
  have hfilter : (request.m_headers.filter fun e => strcasecmp e.1 (ascii "connection") ≠ .eq) = request.m_headers :=
    List.filter_eq_self.mpr fun e he => by simpa using h.no_connection e he
  have hclose : (ascii (if request.m_close then "close" else "keep-alive")).head? ≠ some 32 := by
    cases request.m_close <;> decide
  have hlength : (ascii (toString request.m_body.length)).head? ≠ some 32 := by
    intro hhead
    have hdigit := digits_char (List.mem_of_mem_head? hhead)
    cases hdigit
  have hmap : request.m_headers.foldl (fun headers field => headers.set field.1 (field_value field.2))
      (MapType.set [] (ascii "connection") (ascii (if request.m_close then "close" else "keep-alive"))) =
        request.m_headers.set (ascii "connection") (ascii (if request.m_close then "close" else "keep-alive")) := by
    have hcongr := List.foldl_ext (fun (headers : MapType) field => headers.set field.1 (field_value field.2))
      (fun headers field => headers.set field.1 field.2)
      (MapType.set [] (ascii "connection") (ascii (if request.m_close then "close" else "keep-alive")))
      (l := request.m_headers) fun headers e he => by rw [field_value_of_head (h.no_blank e he)]
    rw [hcongr]
    refine MapType.foldl_set (l := []) h.ordered fun e he heq => h.no_connection e he ?_
    rw [strcasecmp_swap, heq]
    rfl
  rw [Http.headers_of, fields, hfilter, List.foldl_cons, List.foldl_append, field_value_blank hclose, hmap, emitted]
  cases request.m_body.isEmpty with
  | true => rfl
  | false =>
      simp only [Bool.false_eq_true, if_false]
      rw [List.foldl_cons, List.foldl_nil, field_value_blank hlength]

/-! ## The run over the printed bytes -/

/-- What is filled when `path` is taken for the path. -/
def readAs (request : HttpRequest) (path : Bytes) : Parsed HttpRequest where
  m_data := { HttpRequest.new with
    m_method := request.m_method
    m_version := request.m_version
    m_path := path
    m_query := request.m_query
    m_fragment := request.m_fragment
    m_headers := request.emitted }
  m_error := 0

section Run

variable {buffer path : Bytes} {n p : Nat} {m mParser : HttpParser} {r : Bool}

/-- What stands behind the path. -/
def path_rest (request : HttpRequest) : Bytes :=
  query_part request.m_query ++ (fragment_part request.m_fragment ++ 32 :: request.head_rest)

theorem path_rest_cons (request : HttpRequest) : ∃ d ys, path_delims.has d = true ∧ request.path_rest = d :: ys := by
  rw [path_rest, query_part, fragment_part]
  cases request.m_query with
  | cons c query => exact ⟨63, _, rfl, rfl⟩
  | nil =>
      cases request.m_fragment with
      | cons c fragment => exact ⟨35, _, rfl, rfl⟩
      | nil => exact ⟨32, _, rfl, rfl⟩

/-- From the version to the end of the head. -/
theorem Printable.scan_head_rest {k : Parsed HttpRequest} (h : request.Printable r) (hxml : m.xml_sent = false)
    (hjson : m.json_sent = false) (hempty : k.m_data.m_headers = []) (hbuffer : buffer.drop p = request.head_rest) :
    ∃ e m', e + request.trailer.length = p + request.head_rest.length ∧
      request_scan r buffer n p request.head_rest 4 (m, k) = .stop e 348 (m', { k with m_data := { k.m_data with
        m_version := request.m_version, m_headers := request.emitted } }) := by
  have hlength : (version_text request.m_version).length = 8 := by
    rcases h.version with hv | hv <;> rw [hv] <;> rfl
  have hfields : buffer.drop (p + 10) = request.fields.flatMap field_line ++ 13 :: 10 :: request.trailer := by
    have hline : (version_text request.m_version ++ [13, 10]).length = 10 := by rw [List.length_append, hlength]; rfl
    rw [← hline]
    refine drop_append ?_
    rw [hbuffer, head_rest, List.append_assoc]
    rfl
  obtain ⟨kv, hkv⟩ : ∃ kv, kv = { k with m_data := { k.m_data with m_version := request.m_version } } := ⟨_, rfl⟩
  obtain ⟨m₁, hkind, hscan⟩ := scan_fields (r := r) (n := n) (m := { m with mark := p }) (k := kv) h.fields_ok hfields
  obtain ⟨kf, hkf⟩ : ∃ kf, kf = { kv with
      m_data := { kv.m_data with m_headers := Http.headers_of kv.m_data.m_headers request.fields } } := ⟨_, rfl⟩
  rw [← hkf] at hscan
  obtain ⟨m', hend⟩ : ∃ m', request_scan r buffer n (p + 10 + (request.fields.flatMap field_line).length)
      (13 :: 10 :: request.trailer) 13 (m₁, kf) =
        .stop (p + 10 + (request.fields.flatMap field_line).length + 2) 348 (m', kf) :=
    scan_end (hkind.1.trans hxml) (hkind.2.trans hjson)
  refine ⟨p + 10 + (request.fields.flatMap field_line).length + 2, m', ?_, ?_⟩
  · rw [head_rest]
    simp only [List.length_append, List.length_cons, hlength]
    omega
  · rw [head_rest] at hbuffer ⊢
    rw [scan_version h.version hbuffer, ← hkv]
    refine hscan.trans (hend.trans ?_)
    rw [hkf, hkv]
    dsimp only
    rw [hempty, h.headers_of]

/-- From the end of the path to the end of the head. -/
theorem Printable.scan_rest (h : request.Printable r) (hxml : m.xml_sent = false) (hjson : m.json_sent = false)
    (hp : p = m.mark + path.length) (hbuffer : buffer.drop m.mark = path ++ request.path_rest) :
    ∃ e m', e + request.trailer.length = p + request.path_rest.length ∧
      request_scan r buffer n p request.path_rest 26
        (m, ⟨{ HttpRequest.new with m_method := request.m_method }, 0⟩) = .stop e 348 (m', request.readAs path) := by
  have hsplit : request.path_rest = (query_part request.m_query ++ (fragment_part request.m_fragment ++ [32])) ++
      request.head_rest := by
    simp only [path_rest, List.append_assoc, List.cons_append, List.nil_append]
  have hdrop : buffer.drop p = (query_part request.m_query ++ (fragment_part request.m_fragment ++ [32])) ++
      request.head_rest := by
    rw [hp, drop_append hbuffer, hsplit]
  obtain ⟨m₁, hkind, hscan⟩ := scan_query (r := r) (n := n) (m := m)
    (k := ⟨{ HttpRequest.new with m_method := request.m_method }, 0⟩) h.query h.fragment rfl rfl hp hbuffer
  obtain ⟨e, m', he, hrest⟩ := h.scan_head_rest (n := n) (m := m₁)
    (k := ⟨{ HttpRequest.new with
      m_method := request.m_method, m_path := path, m_query := request.m_query, m_fragment := request.m_fragment }, 0⟩)
    (hkind.1.trans hxml) (hkind.2.trans hjson) rfl (drop_append hdrop)
  refine ⟨e, m', ?_, hscan.trans hrest⟩
  rw [he, hsplit, Nat.add_assoc, ← List.length_append]

/-- How the run over the printed bytes ends: with the path or what is left of one, or it fails. -/
inductive DumpRun (request : HttpRequest) (mParser : HttpParser) : Prop
  | read (j e : Nat) (m' : HttpParser) : (relative_part request.m_path = true → j = 0) →
      (relative_part request.m_path = false → 0 < j ∧ j ≤ request.m_path.length) →
      e + request.trailer.length = request.dump.length →
      (HttpRequestParser.new mParser).exec request.dump request.dump.length =
        .stop e 348 (m', request.readAs (request.m_path.drop j)) → DumpRun ..
  | failed (run : Run (HttpParser × Parsed HttpRequest)) : relative_part request.m_path = false →
      (HttpRequestParser.new mParser).exec request.dump request.dump.length = run → run.Failed → DumpRun ..

theorem dump_path (request : HttpRequest) :
    request.dump.drop ((HttpMethodToString request.m_method).length + 1) = request.m_path ++ request.path_rest := by
  have hdump : request.dump = HttpMethodToString request.m_method ++ 32 :: (request.m_path ++ request.path_rest) :=
    request.dump_eq
  rw [hdump, ← List.drop_drop, List.drop_left]
  rfl

theorem exec_new (data : Bytes) : (HttpRequestParser.new mParser).exec data data.length =
    request_scan mParser.uri_relaxed data data.length 0 data 1
      ({ http_parser_init mParser with nread := 0, mark := 0, field_len := 0, field_start := 0 }, ⟨.new, 0⟩) := by
  rw [exec, http_parser_exec, List.take_length, List.drop_zero]
  rfl

/-- The run up to the path. -/
theorem exec_method {method : HttpMethod} {data rest : Bytes} (hmethod : method ≠ .INVALID_METHOD)
    (hdash : method ≠ .MSEARCH) (hdata : data = HttpMethodToString method ++ 32 :: rest) :
    ∃ m, m.xml_sent = false ∧ m.json_sent = false ∧ (HttpRequestParser.new mParser).exec data data.length =
      request_scan mParser.uri_relaxed data data.length ((HttpMethodToString method).length + 1) rest 3
        (m, ⟨{ HttpRequest.new with m_method := method }, 0⟩) := by
  have hscan : request_scan mParser.uri_relaxed data data.length 0 (HttpMethodToString method ++ 32 :: rest) 1
      ({ http_parser_init mParser with nread := 0, mark := 0, field_len := 0, field_start := 0 }, ⟨.new, 0⟩) = _ :=
    scan_method hmethod hdash hdata
  rw [← hdata, Nat.zero_add, ← exec_new] at hscan
  refine ⟨_, ?_, ?_, hscan⟩
  · rfl
  · rfl

theorem Printable.dumpRun (h : request.Printable mParser.uri_relaxed) (hdash : request.m_method ≠ .MSEARCH) :
    DumpRun request mParser := by
  obtain ⟨m, hxml, hjson, hexec⟩ := @exec_method mParser _ _ (request.m_path ++ request.path_rest) h.method hdash
    request.dump_eq
  have hlength : (HttpMethodToString request.m_method).length + 1 + request.m_path.length + request.path_rest.length =
      request.dump.length := by
    rw [dump_eq, path_rest]
    simp only [List.length_append, List.length_cons]
    omega
  -- the run behind a path that is marked at its byte `j`
  have hbehind : ∀ j ≤ request.m_path.length, ∃ e m', e + request.trailer.length = request.dump.length ∧
      request_scan mParser.uri_relaxed request.dump request.dump.length
        ((HttpMethodToString request.m_method).length + 1 + request.m_path.length) request.path_rest 26
        ({ m with mark := (HttpMethodToString request.m_method).length + 1 + j },
          ⟨{ HttpRequest.new with m_method := request.m_method }, 0⟩) =
        .stop e 348 (m', request.readAs (request.m_path.drop j)) := by
    intro j hj
    have hdrop : request.dump.drop ((HttpMethodToString request.m_method).length + 1 + j) =
        request.m_path.drop j ++ request.path_rest := by
      rw [← List.drop_drop, dump_path, List.drop_append_of_le_length hj]
    rw [← hlength]
    exact h.scan_rest hxml hjson (by rw [List.length_drop]; dsimp only; omega) hdrop
  obtain ⟨d, ys, hd, hrest⟩ := request.path_rest_cons
  rw [hrest] at hexec hbehind
  have hpath : PathRun mParser.uri_relaxed request.dump request.dump.length
      ((HttpMethodToString request.m_method).length + 1) request.m_path d ys 3 m
      ⟨{ HttpRequest.new with m_method := request.m_method }, 0⟩ (relative_part request.m_path) := pathRun hd h.path
  cases hpath with
  | marked hkept hrun =>
      obtain ⟨e, m', he, hstop⟩ := hbehind 0 (Nat.zero_le _)
      refine .read 0 e m' (fun _ => rfl) (fun hcut => ?_) he (hexec.trans (hrun.trans hstop))
      rw [hkept] at hcut
      cases hcut
  | failed hkept hrun =>
      exact .failed _ hkept hexec hrun
  | cut j hkept hpos hj hrun =>
      obtain ⟨e, m', he, hstop⟩ := hbehind j hj
      refine .read j e m' (fun hread => ?_) (fun _ => ⟨hpos, hj⟩) he (hexec.trans (hrun.trans hstop))
      rw [hkept] at hread
      cases hread

end Run

/-! ## Reading the request back -/

/-- The parser gets the bytes of dump(): it finishes without an error, it has read the request with the headers that
are printed besides, and what is left in the buffer is the body. -/
def ReadBack (mParser : HttpParser) (request : HttpRequest) : Prop :=
  ∃ n data parser, (HttpRequestParser.new mParser).execute request.dump request.dump.length 0 = .ok (n, data, parser) ∧
    parser.isFinished = 1 ∧ parser.hasError = false ∧
    parser.m_data.m_method = request.m_method ∧ parser.m_data.m_version = request.m_version ∧
    parser.m_data.m_path = request.m_path ∧ parser.m_data.m_query = request.m_query ∧
    parser.m_data.m_fragment = request.m_fragment ∧ parser.m_data.m_headers = request.emitted ∧
    data.take (request.dump.length - n) = request.m_body

/-- The size of what is printed for a request without a body. -/
def head_size (request : HttpRequest) : Nat :=
  (HttpMethodToString request.m_method).length + request.m_path.length + (query_part request.m_query).length +
    (fragment_part request.m_fragment).length + (request.m_headers.map fun e => e.1.length + e.2.length + 3).sum +
    if request.m_close then 33 else 38

section ReadBack

variable {mParser : HttpParser} {path : Bytes} {e : Nat} {m : HttpParser}

theorem dump_pos (request : HttpRequest) : 0 < request.dump.length := by
  rw [dump_eq, List.length_append, List.length_cons]
  omega

theorem drop_trailer (he : e + request.trailer.length = request.dump.length) :
    request.dump.drop e = request.trailer := by
  obtain ⟨head, hhead⟩ : ∃ head, request.dump = head ++ request.trailer := by
    rw [dump_eq, head_rest]
    exact ⟨HttpMethodToString request.m_method ++ 32 :: (request.m_path ++ (query_part request.m_query ++
      (fragment_part request.m_fragment ++ 32 :: (version_text request.m_version ++ 13 :: 10 ::
        (request.fields.flatMap field_line ++ [13, 10]))))), by
      simp only [List.append_assoc, List.cons_append, List.nil_append]⟩
  rw [hhead, List.length_append] at he
  rw [hhead, Nat.add_right_cancel he, List.drop_left]

theorem trailer_eq_body : request.trailer = request.m_body ↔ request.m_body = [] := by
  rw [trailer]
  constructor
  · intro h
    split at h
    · exact h.symm
    · have hlength := congrArg List.length h
      rw [List.length_append] at hlength
      simp at hlength
  · intro h
    rw [h]
    rfl

/-- A run that ends behind the head. -/
theorem readBack_of_stop (hlt : request.dump.length < 2 ^ 31) (he : e + request.trailer.length = request.dump.length)
    (h : (HttpRequestParser.new mParser).exec request.dump request.dump.length = .stop e 348 (m, request.readAs path)) :
    request.ReadBack mParser ↔ path = request.m_path ∧ request.m_body = [] := by
  have hexec := execute_eq (ready_new mParser) request.dump_pos hlt (Nat.le_refl _)
    (show (exec _ _ _).result _ _ = some (e, 348, m, request.readAs path) by rw [h]; rfl)
  have htake : (overwrite request.dump 0 ((request.dump.drop e).take (request.dump.length - e))).take
      (request.dump.length - e) = request.trailer := by
    have hself : (request.dump.drop e).take (request.dump.length - e) = request.dump.drop e := by
      rw [← List.length_drop, List.take_length]
    rw [hself, ← List.length_drop, take_overwrite_zero (by rw [List.length_drop]; omega), drop_trailer he]
  rw [ReadBack]
  generalize request.dump = text at hexec htake ⊢
  constructor
  · rintro ⟨n, data, parser, hok, -, -, -, -, hpath, -, -, -, hleft⟩
    rw [hexec] at hok
    cases hok
    exact ⟨hpath, trailer_eq_body.mp (htake.symm.trans hleft)⟩
  · rintro ⟨rfl, hbody⟩
    refine ⟨e, _, _, hexec, leave_isFinished (by decide), leave_hasError.mpr ⟨rfl, by decide⟩, rfl, rfl, rfl, rfl, rfl,
      rfl, htake.trans (trailer_eq_body.mpr hbody)⟩

theorem not_readBack_of_failed {run : Run (HttpParser × Parsed HttpRequest)}
    (hrun : (HttpRequestParser.new mParser).exec request.dump request.dump.length = run) (h : run.Failed) :
    ¬request.ReadBack mParser := by
  have hpos := request.dump_pos
  rw [ReadBack]
  generalize request.dump = text at hrun hpos ⊢
  rintro ⟨n, data, parser, hok, -, herror, -⟩
  by_cases hlt : text.length < 2 ^ 31
  · cases run with
    | fault =>
        rw [execute_fault hpos hlt hrun] at hok
        cases hok
    | err p k =>
        have hexec := execute_eq (ready_new mParser) hpos hlt (Nat.le_refl _)
          (show (exec _ _ _).result _ _ = some (p, http_parser_error, k.1, k.2) by rw [hrun]; rfl)
        rw [hexec] at hok
        cases hok
        exact (leave_hasError.mp herror).2 rfl
    | live cs k => exact h
    | stop p cs k => exact h
  · rw [execute_long (Nat.not_lt.mp hlt)] at hok
    cases hok

theorem not_readBack_of_long (h : 2 ^ 31 ≤ request.dump.length) : ¬request.ReadBack mParser := by
  rw [ReadBack]
  generalize request.dump = text at h ⊢
  rintro ⟨n, data, parser, hok, -⟩
  rw [execute_long h] at hok
  cases hok

theorem failed_msearch (h : request.m_method = .MSEARCH) : ∃ run,
    (HttpRequestParser.new mParser).exec request.dump request.dump.length = run ∧ run.Failed := by
  have hname : HttpMethodToString .MSEARCH = [77, 45, 83, 69, 65, 82, 67, 72] := by rfl
  have hdump := request.dump_eq
  rw [h, hname] at hdump
  have hmark : goto (http_parser_next mParser.uri_relaxed) 1 77 = some ([.mark], 2) := by
    cases mParser.uri_relaxed <;> rfl
  have hdash : goto (http_parser_next mParser.uri_relaxed) 2 45 = none := by
    cases mParser.uri_relaxed <;> rfl
  refine ⟨_, exec_new request.dump, ?_⟩
  rw [hdump]
  simp only [List.cons_append]
  refine scan_goto_failed hmark rfl fun p k => ?_
  rw [scan_goto_none hdash]
  trivial

theorem Printable.length_dump (h : request.Printable uri_relaxed) (hbody : request.m_body = []) :
    request.dump.length = request.head_size := by
  have hversion : (version_text request.m_version).length = 8 := by
    rcases h.version with hv | hv <;> rw [hv] <;> rfl
  have hfilter : (request.m_headers.filter fun e => strcasecmp e.1 (ascii "connection") ≠ .eq) = request.m_headers :=
    List.filter_eq_self.mpr fun e he => by simpa using h.no_connection e he
  have hsum : (request.m_headers.flatMap field_line).length =
      (request.m_headers.map fun e => e.1.length + e.2.length + 3).sum := by
    rw [List.length_flatMap]
    refine congrArg List.sum (List.map_congr_left fun e _ => ?_)
    simp only [field_line, List.length_append, List.length_cons, List.length_nil]
    omega
  have hclose : (ascii (if request.m_close then "close" else "keep-alive")).length =
      if request.m_close then 5 else 10 := by
    cases request.m_close <;> rfl
  have hconnection : (ascii "connection").length = 10 := rfl
  rw [dump_eq, head_rest, fields, trailer, hfilter, hbody, head_size]
  simp only [List.isEmpty_nil, if_true, List.append_nil, List.flatMap_cons, List.length_append, List.length_cons,
    List.length_nil, hsum, hversion, field_line, hconnection, hclose]
  split <;> omega

theorem readBack_iff (h : request.Printable mParser.uri_relaxed) :
    request.ReadBack mParser ↔ request.m_method ≠ .MSEARCH ∧ relative_part request.m_path = true ∧
      request.m_body = [] ∧ request.head_size < 2 ^ 31 := by
  by_cases hdash : request.m_method = .MSEARCH
  · obtain ⟨run, hrun, hfailed⟩ := failed_msearch hdash
    exact iff_of_false (not_readBack_of_failed hrun hfailed) fun hall => hall.1 hdash
  by_cases hlt : request.dump.length < 2 ^ 31
  · have hsize : request.m_body = [] → request.head_size < 2 ^ 31 := by
      intro hbody
      rw [← h.length_dump hbody]
      exact hlt
    cases h.dumpRun hdash with
    | failed run hkept hrun hfailed =>
        refine iff_of_false (not_readBack_of_failed hrun hfailed) fun hall => ?_
        rw [hkept] at hall
        exact Bool.false_ne_true hall.2.1
    | read j e m' hkept hcut he hrun =>
        rw [readBack_of_stop hlt he hrun]
        cases hpath : relative_part request.m_path with
        | true =>
            rw [hkept hpath, List.drop_zero]
            exact ⟨fun hall => ⟨hdash, rfl, hall.2, hsize hall.2⟩, fun hall => ⟨rfl, hall.2.2.1⟩⟩
        | false =>
            refine iff_of_false (fun hall => ?_) fun hall => Bool.false_ne_true hall.2.1
            have hlength := congrArg List.length hall.1
            rw [List.length_drop] at hlength
            have := hcut hpath
            omega
  · refine iff_of_false (not_readBack_of_long (Nat.not_lt.mp hlt)) fun hall => hlt ?_
    rw [h.length_dump hall.2.2.1]
    exact hall.2.2.2

/-- `GET /a?q=1#top` with a header. -/
def get_page : HttpRequest where
  m_method := .GET
  m_version := 0x11
  m_close := false
  m_path := ascii "/a"
  m_query := ascii "q=1"
  m_fragment := ascii "top"
  m_body := []
  m_headers := [(ascii "host", ascii "example")]

/-- `POST /a` with a body of two bytes. -/
def post_body : HttpRequest := { get_page with m_method := .POST, m_body := ascii "hi" }

theorem printable_get_page : get_page.Printable false where
  method := by decide
  version := .inr rfl
  path := Coded.of_all (forall_mem_of_all (by decide))
  query := Coded.of_all (forall_mem_of_all (by decide))
  fragment := Coded.of_all (forall_mem_of_all (by decide))
  ordered := List.pairwise_singleton _ _
  headers := by
    intro e he
    rw [List.mem_singleton.mp he]
    exact ⟨by decide, forall_mem_of_all (by decide), forall_mem_of_all (by decide)⟩
  no_blank := by decide
  no_connection := by decide
  no_content_length := by decide

theorem readBack_get_page : get_page.ReadBack (clearMemory false) :=
  (readBack_iff printable_get_page).mpr ⟨by decide, by decide, rfl, by decide⟩

theorem printable_post_body : post_body.Printable false :=
  { printable_get_page with method := by decide }

/-- Behind the two bytes of the body a line end is left. -/
theorem not_readBack_post_body :
    ¬ ∀ (mParser : HttpParser) (request : HttpRequest), request.Printable mParser.uri_relaxed →
      request.ReadBack mParser := by
  intro h
  have hread := h (clearMemory false) post_body printable_post_body
  have hprintable : post_body.Printable (clearMemory false).uri_relaxed := printable_post_body
  cases hprintable.dumpRun (by decide) with
  | failed run hkept hrun hfailed => exact not_readBack_of_failed hrun hfailed hread
  | read j e m' hkept hcut he hrun =>
      have hlt : post_body.dump.length < 2 ^ 31 := by decide
      have hbody := ((readBack_of_stop hlt he hrun).mp hread).2
      cases hbody

end ReadBack

end HttpRequest

end Mingfwq.Http
