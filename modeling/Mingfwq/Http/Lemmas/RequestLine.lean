import Mingfwq.Http.Lemmas.Agree
import Mingfwq.Http.Lemmas.RequestPath

/-!
# The pieces of a head, as the automaton reads them

Each piece leads from one state to the next and hands its bytes to a callback.
-/

namespace Mingfwq.Http

open Lib HttpParser

variable {r : Bool} {n p mark : Nat} {buffer xs rest ys : Bytes} {m : HttpParser} {k : Parsed HttpRequest}

theorem drop_append (h : buffer.drop p = xs ++ ys) : buffer.drop (p + xs.length) = ys := by
  rw [← List.drop_drop, h, List.drop_left]

theorem stdString_mark (h : buffer.drop mark = xs ++ rest) (hp : p = mark + xs.length) :
    stdString (buffer.drop mark) (LEN mark p) = some xs := by
  have hlen : LEN mark p = xs.length := by
    rw [LEN_of_le (by omega)]
    omega
  rw [hlen, stdString, if_pos (by rw [h, List.length_append]; omega), h, List.take_left]

/-! ## The method -/

/-- The automaton reads the name and takes it for a method at the blank behind it. -/
def method_runs (uri_relaxed : Bool) (name : Bytes) : Bool :=
  name.head?.any (fun c => goto (http_parser_next uri_relaxed) 1 c == some ([.mark], 2)) &&
    (walk (goto (http_parser_next uri_relaxed)) name.tail 2).any fun q =>
      goto (http_parser_next uri_relaxed) q 32 == some ([.request_method], 3)

theorem mem_method_map {method : HttpMethod} (h : method ≠ .INVALID_METHOD) :
    ∃ name, (method, name) ∈ HTTP_METHOD_MAP ∧ HttpMethodToString method = ascii name := by
  have hsome : (HTTP_METHOD_MAP.lookup method).isSome = true := by
    cases method <;> first | exact absurd rfl h | rfl
  obtain ⟨name, hname⟩ := Option.isSome_iff_exists.mp hsome
  obtain ⟨l₁, l₂, hmap, -⟩ := List.lookup_eq_some_iff.mp hname
  exact ⟨name, by rw [hmap]; simp, by rw [HttpMethodToString, hname, Option.getD_some]⟩

theorem CharsToHttpMethod_map : ∀ m ∈ HTTP_METHOD_MAP, CharsToHttpMethod (ascii m.2 ++ [32]) = m.1 := by
  decide +kernel

theorem CharsToHttpMethod_name {method : HttpMethod} (h : method ≠ .INVALID_METHOD) (x : Bytes) :
    CharsToHttpMethod (HttpMethodToString method ++ 32 :: x) = method := by
  obtain ⟨name, hmem, hname⟩ := mem_method_map h
  have hm := CharsToHttpMethod_map (method, name) hmem
  dsimp only at hm
  rw [hname, CharsToHttpMethod_blank, hm]

theorem method_runs_map : ∀ m ∈ HTTP_METHOD_MAP, m.1 ≠ .MSEARCH → ∀ r, method_runs r (ascii m.2) = true := by
  decide +kernel

theorem scan_method {method : HttpMethod} (h : method ≠ .INVALID_METHOD) (hdash : method ≠ .MSEARCH)
    (hbuffer : buffer.drop p = HttpMethodToString method ++ 32 :: rest) :
    request_scan r buffer n p (HttpMethodToString method ++ 32 :: ys) 1 (m, k) =
      request_scan r buffer n (p + (HttpMethodToString method).length + 1) ys 3
        ({ m with mark := p }, { k with m_data := { k.m_data with m_method := method } }) := by
  obtain ⟨name, hmem, hname⟩ := mem_method_map h
  have hruns := method_runs_map (method, name) hmem hdash r
  rw [← hname] at hruns
  have hmethod : HttpParser.run HttpRequestParser.callbacks buffer n .request_method
      (p + (HttpMethodToString method).length) ({ m with mark := p }, k) =
        some ({ m with mark := p }, { k with m_data := { k.m_data with m_method := method } }) := by
    simp only [HttpParser.run, HttpRequestParser.callbacks, on_request_method, hbuffer, CharsToHttpMethod_name h,
      if_neg h, Option.map_some]
  generalize HttpMethodToString method = bytes at hruns hmethod ⊢
  cases bytes with
  | nil => cases hruns
  | cons c bytes =>
      simp only [method_runs, List.head?_cons, Option.any_some, List.tail_cons, Bool.and_eq_true, beq_iff_eq,
        Option.any_eq_true] at hruns
      obtain ⟨hfirst, q, hwalk, hblank⟩ := hruns
      have hmark : runActs (HttpParser.run HttpRequestParser.callbacks buffer n) [.mark] p (m, k) =
          some ({ m with mark := p }, k) := rfl
      refine (scan_goto_live hfirst hmark rfl).trans ((scan_walk hwalk).trans ?_)
      rw [List.length_cons, Nat.add_comm bytes.length, ← Nat.add_assoc] at hmethod
      refine (scan_goto_live hblank (by rw [runActs, List.foldlM_cons, hmethod]; rfl) rfl).trans ?_
      rw [List.length_cons, Nat.add_comm bytes.length, ← Nat.add_assoc]

/-! ## The path, the query and the fragment -/

section Target

variable {path query fragment : Bytes}

theorem reads_query : Reads (goto (http_parser_next r)) (query_char r) 30 31 32 := by
  cases r <;> exact request_reads (by rfl) (by rfl)

theorem reads_fragment : Reads (goto (http_parser_next r)) (query_char r) 21 22 23 := by
  cases r <;> exact request_reads (by rfl) (by rfl)

theorem run_request_path (hpath : buffer.drop m.mark = path ++ rest) (hp : p = m.mark + path.length) :
    HttpParser.run HttpRequestParser.callbacks buffer n .request_path p (m, k) =
      some (m, { k with m_data := { k.m_data with m_path := path } }) := by
  simp only [HttpParser.run, HttpRequestParser.callbacks, on_request_path, Parsed.setString, stdString_mark hpath hp,
    Option.map_some]

theorem run_query_string (hquery : buffer.drop m.query_start = query ++ rest) (hp : p = m.query_start + query.length) :
    HttpParser.run HttpRequestParser.callbacks buffer n .query_string p (m, k) =
      some (m, { k with m_data := { k.m_data with m_query := query } }) := by
  simp only [HttpParser.run, HttpRequestParser.callbacks, on_request_query, Parsed.setString, stdString_mark hquery hp,
    Option.map_some]

theorem run_fragment (hfragment : buffer.drop m.mark = fragment ++ rest) (hp : p = m.mark + fragment.length) :
    HttpParser.run HttpRequestParser.callbacks buffer n .fragment p (m, k) =
      some (m, { k with m_data := { k.m_data with m_fragment := fragment } }) := by
  simp only [HttpParser.run, HttpRequestParser.callbacks, on_request_fragment, Parsed.setString,
    stdString_mark hfragment hp, Option.map_some]

/-- The registers that say that the request is none of HTTP. -/
def SameKind (m m' : HttpParser) : Prop := m'.xml_sent = m.xml_sent ∧ m'.json_sent = m.json_sent

/-- The fragment with its `#`, and the blank behind it. -/
def fragment_part (fragment : Bytes) : Bytes := (if fragment.isEmpty then [] else ascii "#") ++ fragment

/-- The query with its `?`. -/
def query_part (query : Bytes) : Bytes := (if query.isEmpty then [] else ascii "?") ++ query

/-- From a state where the fragment or a blank comes next. -/
theorem scan_fragment {q : Nat} {acts : List Action} {k' : Parsed HttpRequest} (hf : Coded (query_char r) fragment)
    (hempty : k'.m_data.m_fragment = []) (hblank : goto (http_parser_next r) q 32 = some (acts, 4))
    (hhash : goto (http_parser_next r) q 35 = some (acts, 20)) (hbreaks : acts.any Action.breaks = false)
    (hacts : runActs (HttpParser.run HttpRequestParser.callbacks buffer n) acts p (m, k) = some (m, k'))
    (hbuffer : buffer.drop p = fragment_part fragment ++ 32 :: ys) :
    ∃ m', SameKind m m' ∧ request_scan r buffer n p (fragment_part fragment ++ 32 :: ys) q (m, k) =
      request_scan r buffer n (p + (fragment_part fragment).length + 1) ys 4
        (m', { k' with m_data := { k'.m_data with m_fragment := fragment } }) := by
  by_cases hnil : fragment = []
  · subst hnil
    refine ⟨m, ⟨rfl, rfl⟩, ?_⟩
    have hk : { k' with m_data := { k'.m_data with m_fragment := [] } } = k' := by rw [← hempty]
    rw [hk]
    exact scan_goto_live hblank hacts hbreaks
  · have hpart : fragment_part fragment = 35 :: fragment := by
      rw [fragment_part, if_neg (by simpa using hnil)]
      rfl
    rw [hpart] at hbuffer ⊢
    have hdrop : buffer.drop (p + 1) = fragment ++ 32 :: ys := by
      rw [← List.drop_drop, hbuffer]
      rfl
    refine ⟨{ m with mark := p + 1 }, ⟨rfl, rfl⟩, ?_⟩
    refine (scan_goto_live hhash hacts hbreaks).trans ?_
    refine (reads_fragment.scan_marked (q := 20) (a := .mark) (fun c hc => request_goto (by cases r <;> rfl) hc)
      (by cases r <;> rfl) rfl rfl hf hnil).trans ?_
    have hend : goto (http_parser_next r) 21 32 = some ([.fragment], 4) := by cases r <;> rfl
    refine (scan_goto_live hend ((runActs_singleton ..).trans (run_fragment hdrop rfl)) rfl).trans ?_
    rw [List.length_cons, Nat.add_comm fragment.length, ← Nat.add_assoc]

/-- From the end of the path: the query and the fragment, each if it is not empty. -/
theorem scan_query (hq : Coded (query_char r) query) (hf : Coded (query_char r) fragment)
    (hquery : k.m_data.m_query = []) (hfragment : k.m_data.m_fragment = []) (hp : p = m.mark + path.length)
    (hbuffer : buffer.drop m.mark = path ++ (query_part query ++ (fragment_part fragment ++ 32 :: ys))) :
    ∃ m', SameKind m m' ∧
      request_scan r buffer n p (query_part query ++ (fragment_part fragment ++ 32 :: ys)) 26 (m, k) =
        request_scan r buffer n (p + (query_part query ++ (fragment_part fragment ++ [32])).length) ys 4
          (m', { k with m_data := { k.m_data with m_path := path, m_query := query, m_fragment := fragment } }) := by
  have hdrop : buffer.drop p = query_part query ++ (fragment_part fragment ++ 32 :: ys) := by
    rw [hp]
    exact drop_append hbuffer
  obtain ⟨kp, hkp⟩ : ∃ kp, kp = { k with m_data := { k.m_data with m_path := path } } := ⟨_, rfl⟩
  have hpath : HttpParser.run HttpRequestParser.callbacks buffer n .request_path p (m, k) = some (m, kp) :=
    hkp ▸ run_request_path hbuffer hp
  have hfragment' : kp.m_data.m_fragment = [] := hkp ▸ hfragment
  by_cases hnil : query = []
  · subst hnil
    rw [query_part, List.isEmpty_nil, if_pos rfl, List.nil_append, List.nil_append] at hdrop ⊢
    have hacts : runActs (HttpParser.run HttpRequestParser.callbacks buffer n) [.request_path, .request_uri] p (m, k) =
        some (m, kp) := by
      rw [runActs, List.foldlM_cons, hpath]
      rfl
    obtain ⟨m', hkind, hscan⟩ := scan_fragment (r := r) (q := 26) hf hfragment' (by cases r <;> rfl)
      (by cases r <;> rfl) rfl hacts hdrop
    refine ⟨m', hkind, hscan.trans ?_⟩
    have hk : { kp with m_data := { kp.m_data with m_fragment := fragment } } =
        { k with m_data := { k.m_data with m_path := path, m_query := [], m_fragment := fragment } } := by
      rw [hkp, ← hquery]
    rw [hk, List.nil_append, List.length_append, List.length_singleton, ← Nat.add_assoc]
  · have hpart : query_part query = 63 :: query := by
      rw [query_part, if_neg (by simpa using hnil)]
      rfl
    rw [hpart] at hdrop ⊢
    have hstart : buffer.drop (p + 1) = query ++ (fragment_part fragment ++ 32 :: ys) := by
      rw [← List.drop_drop, hdrop]
      rfl
    have hmark : goto (http_parser_next r) 26 63 = some ([.request_path], 29) := by cases r <;> rfl
    obtain ⟨kq, hkq⟩ : ∃ kq, kq = { kp with m_data := { kp.m_data with m_query := query } } := ⟨_, rfl⟩
    have hacts : runActs (HttpParser.run HttpRequestParser.callbacks buffer n) [.query_string, .request_uri]
        (p + 1 + query.length) ({ m with query_start := p + 1 }, kp) =
          some ({ m with query_start := p + 1 }, kq) := by
      rw [runActs, List.foldlM_cons, run_query_string (m := { m with query_start := p + 1 }) hstart rfl, hkq]
      rfl
    obtain ⟨m', hkind, hscan⟩ := scan_fragment (r := r) (q := 30) hf (hkq ▸ hfragment')
      (by cases r <;> rfl) (by cases r <;> rfl) rfl hacts (drop_append hstart)
    refine ⟨m', hkind, ?_⟩
    refine (scan_goto_live hmark ((runActs_singleton ..).trans hpath) rfl).trans ?_
    refine (reads_query.scan_marked (q := 29) (a := .start_query)
      (fun c hc => request_goto (by cases r <;> rfl) hc) (by cases r <;> rfl) rfl rfl hq
      hnil).trans (hscan.trans ?_)
    have hlength : p + 1 + query.length + (fragment_part fragment).length + 1 =
        p + (63 :: query ++ (fragment_part fragment ++ [32])).length := by
      simp only [List.length_append, List.length_cons, List.length_nil]
      omega
    rw [hlength, hkq, hkp]

end Target

end Mingfwq.Http
