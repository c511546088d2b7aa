import Mingfwq.Lib.Automaton
import Mingfwq.Http.HttpParser

/-!
# What the callbacks leave alone
-/

namespace Mingfwq.Http

open Lib

section Parsed

variable {α β : Type} {f : α → β} {parsed parsed' : Parsed α} {at_ value : Bytes} {length vlen : Nat}

theorem Parsed.setString_keeps {set : Bytes → α → α} (h : Parsed.setString set parsed at_ length = some parsed')
    (hset : ∀ s x, f (set s x) = f x) : f parsed'.m_data = f parsed.m_data := by
  obtain ⟨s, -, rfl⟩ := Option.map_eq_some_iff.mp h
  exact hset s _

theorem Parsed.setVersion_keeps {set : UInt8 → α → α} (h : Parsed.setVersion set parsed at_ length = some parsed')
    (hset : ∀ v x, f (set v x) = f x) : f parsed'.m_data = f parsed.m_data := by
  rw [setVersion] at h
  split at h
  · cases h
    exact hset _ _
  · split at h
    · cases h
      exact hset _ _
    · obtain ⟨s, -, rfl⟩ := Option.map_eq_some_iff.mp h
      exact hset _ _

theorem Parsed.setHeader_keeps {set : Bytes → Bytes → α → α}
    (h : Parsed.setHeader set parsed at_ length value vlen = some parsed')
    (hset : ∀ key val x, f (set key val x) = f x) : f parsed'.m_data = f parsed.m_data := by
  rw [setHeader] at h
  split at h
  · cases h
    rfl
  · obtain ⟨key, -, h⟩ := Option.bind_eq_some_iff.mp h
    obtain ⟨val, -, h⟩ := Option.bind_eq_some_iff.mp h
    cases h
    exact hset _ _ _

/-! An error stays. -/

theorem Parsed.setString_error {set : Bytes → α → α} (h : Parsed.setString set parsed at_ length = some parsed')
    (herror : parsed.m_error ≠ 0) : parsed'.m_error ≠ 0 := by
  obtain ⟨s, -, rfl⟩ := Option.map_eq_some_iff.mp h
  exact herror

theorem Parsed.setVersion_error {set : UInt8 → α → α} (h : Parsed.setVersion set parsed at_ length = some parsed')
    (herror : parsed.m_error ≠ 0) : parsed'.m_error ≠ 0 := by
  rw [setVersion] at h
  split at h
  · cases h
    exact herror
  · split at h
    · cases h
      exact herror
    · obtain ⟨s, -, rfl⟩ := Option.map_eq_some_iff.mp h
      exact Nat.succ_ne_zero 1000

theorem Parsed.setHeader_error {set : Bytes → Bytes → α → α}
    (h : Parsed.setHeader set parsed at_ length value vlen = some parsed') (herror : parsed.m_error ≠ 0) :
    parsed'.m_error ≠ 0 := by
  rw [setHeader] at h
  split at h
  · cases h
    exact herror
  · obtain ⟨key, -, h⟩ := Option.bind_eq_some_iff.mp h
    obtain ⟨val, -, h⟩ := Option.bind_eq_some_iff.mp h
    cases h
    exact herror

end Parsed

variable {buffer : Bytes} {n p : Nat}

theorem HttpRequestParser.run_body {a : HttpParser.Action} {k k' : HttpParser × Parsed HttpRequest}
    (h : HttpParser.run callbacks buffer n a p k = some k') : k'.2.m_data.m_body = k.2.m_data.m_body := by
  obtain ⟨parser, parsed⟩ := k
  cases a with
  | mark | start_value | start_field | write_field | start_query | xml | json =>
      cases h
      rfl
  | request_uri =>
      cases h
      rfl
  | done =>
      simp only [HttpParser.run] at h
      split at h
      · cases h
        rfl
      · cases h
        rfl
  | request_method =>
      obtain ⟨d, hd, rfl⟩ := Option.map_eq_some_iff.mp h
      simp only [callbacks, on_request_method] at hd
      split at hd
      · obtain ⟨s, -, rfl⟩ := Option.map_eq_some_iff.mp hd
        rfl
      · cases hd
        rfl
  | fragment | query_string | request_path =>
      obtain ⟨d, hd, rfl⟩ := Option.map_eq_some_iff.mp h
      dsimp only [callbacks] at hd
      exact Parsed.setString_keeps (f := HttpRequest.m_body) hd fun _ _ => rfl
  | http_version =>
      obtain ⟨d, hd, rfl⟩ := Option.map_eq_some_iff.mp h
      dsimp only [callbacks] at hd
      exact Parsed.setVersion_keeps (f := HttpRequest.m_body) hd fun _ _ => rfl
  | write_value =>
      obtain ⟨d, hd, rfl⟩ := Option.map_eq_some_iff.mp h
      dsimp only [callbacks] at hd
      exact Parsed.setHeader_keeps (f := HttpRequest.m_body) hd fun _ _ _ => rfl

theorem HttpRequestParser.run_error {a : HttpParser.Action} {k k' : HttpParser × Parsed HttpRequest}
    (h : HttpParser.run callbacks buffer n a p k = some k') (herror : k.2.m_error ≠ 0) : k'.2.m_error ≠ 0 := by
  obtain ⟨parser, parsed⟩ := k
  cases a with
  | mark | start_value | start_field | write_field | start_query | xml | json | request_uri =>
      cases h
      exact herror
  | done =>
      simp only [HttpParser.run] at h
      split at h
      · cases h
        exact herror
      · cases h
        exact herror
  | request_method =>
      obtain ⟨d, hd, rfl⟩ := Option.map_eq_some_iff.mp h
      simp only [callbacks, on_request_method] at hd
      split at hd
      · obtain ⟨s, -, rfl⟩ := Option.map_eq_some_iff.mp hd
        exact Nat.succ_ne_zero 999
      · cases hd
        exact herror
  | fragment | query_string | request_path =>
      obtain ⟨d, hd, rfl⟩ := Option.map_eq_some_iff.mp h
      dsimp only [callbacks] at hd
      exact Parsed.setString_error hd herror
  | http_version =>
      obtain ⟨d, hd, rfl⟩ := Option.map_eq_some_iff.mp h
      dsimp only [callbacks] at hd
      exact Parsed.setVersion_error hd herror
  | write_value =>
      obtain ⟨d, hd, rfl⟩ := Option.map_eq_some_iff.mp h
      dsimp only [callbacks] at hd
      exact Parsed.setHeader_error hd herror

theorem HttpResponseParser.run_body {a : HttpClientParser.Action} {k k' : HttpClientParser × Parsed HttpResponse}
    (h : HttpClientParser.run callbacks buffer n a p k = some k') : k'.2.m_data.m_body = k.2.m_data.m_body := by
  obtain ⟨parser, parsed⟩ := k
  cases a with
  | mark | start_value | start_field | write_field | write_content_len | write_connection_close | trans_chunked =>
      cases h
      rfl
  | done | status_code =>
      cases h
      rfl
  | chunk_size =>
      obtain ⟨d, hd, rfl⟩ := Option.map_eq_some_iff.mp h
      split at hd
      · cases hd
        rfl
      · cases hd
        rfl
  | reason_phrase =>
      obtain ⟨d, hd, rfl⟩ := Option.map_eq_some_iff.mp h
      dsimp only [callbacks] at hd
      exact Parsed.setString_keeps (f := HttpResponse.m_body) hd fun _ _ => rfl
  | http_version =>
      obtain ⟨d, hd, rfl⟩ := Option.map_eq_some_iff.mp h
      dsimp only [callbacks] at hd
      exact Parsed.setVersion_keeps (f := HttpResponse.m_body) hd fun _ _ => rfl
  | write_value =>
      obtain ⟨d, hd, rfl⟩ := Option.map_eq_some_iff.mp h
      dsimp only [callbacks] at hd
      exact Parsed.setHeader_keeps (f := HttpResponse.m_body) hd fun _ _ _ => rfl

/-- The runs leave the body of the message alone. -/
theorem http_parser_exec_body {parser parser' : HttpParser} {parsed parsed' : Parsed HttpRequest}
    {len off cs : Nat} (hoff : off ≤ len) (hbuffer : len ≤ buffer.length)
    (h : (http_parser_exec HttpRequestParser.callbacks parser parsed buffer len off).result len http_parser_error =
      some (p, cs, parser', parsed')) : parsed'.m_data.m_body = parsed.m_data.m_body := by
  refine (scan_inv (I := fun _ k => k.2.m_data.m_body = parsed.m_data.m_body) ?_ ?_ rfl h).2.2
  · intro p k acts k' _ hk hr
    exact runActs_inv (I := fun k => k.2.m_data.m_body = parsed.m_data.m_body)
      (fun a _ k k' hk hr => (HttpRequestParser.run_body hr).trans hk) hk hr
  · simp only [List.length_drop, List.length_take]
    omega

theorem httpclient_parser_exec_body {parser parser' : HttpClientParser} {parsed parsed' : Parsed HttpResponse}
    {len off cs : Nat} (hoff : off ≤ len) (hbuffer : len ≤ buffer.length)
    (h : (httpclient_parser_exec HttpResponseParser.callbacks parser parsed buffer len off).result len
      httpclient_parser_error = some (p, cs, parser', parsed')) : parsed'.m_data.m_body = parsed.m_data.m_body := by
  refine (scan_inv (I := fun _ k => k.2.m_data.m_body = parsed.m_data.m_body) ?_ ?_ rfl h).2.2
  · intro p k acts k' _ hk hr
    exact runActs_inv (I := fun k => k.2.m_data.m_body = parsed.m_data.m_body)
      (fun a _ k k' hk hr => (HttpResponseParser.run_body hr).trans hk) hk hr
  · simp only [List.length_drop, List.length_take]
    omega

end Mingfwq.Http
