import Mathlib.Data.List.Induction
import Mingfwq.Http.DoRequest
import Mingfwq.Http.Lemmas.HeaderMap

/-!
# The headers of a client's request

`has_host` is set by every header that has a value, and Connection is read from the wrong side of the pair.
-/

namespace Mingfwq.Http

variable {req : HttpRequest} {headers : List (Bytes × Bytes)} {e : Bytes × Bytes} {k v fallback : Bytes} {b : Bool}

abbrev IsConnection (e : Bytes × Bytes) : Prop := strcasecmp e.1 (ascii "connection") = .eq

abbrev IsHost (e : Bytes × Bytes) : Prop := strcasecmp e.1 (ascii "host") = .eq

/-- A header that the request has to carry: not Connection, and not a host without a value. -/
def Counts (e : Bytes × Bytes) : Prop := ¬IsConnection e ∧ ¬(IsHost e ∧ e.2 = [])

/-- The request carries the caller's headers, and one host header: the caller's if it has a value,
or else `fallback`. -/
structure Carries (headers : List (Bytes × Bytes)) (fallback : Bytes) (req : HttpRequest) : Prop where
  carried : ∀ e ∈ headers, Counts e → req.m_headers.find e.1 = some e.2
  host : req.m_headers.countP (fun e => IsHost e) = 1
  fallback : (∀ e ∈ headers, IsHost e → e.2 = []) → req.m_headers.find (ascii "host") = some fallback

/-- The request says keep-alive if and only if the caller's Connection header does. -/
def KeepsAlive (headers : List (Bytes × Bytes)) (req : HttpRequest) : Prop :=
  req.m_close = false ↔ ∃ e ∈ headers, IsConnection e ∧ strcasecmp e.2 (ascii "keep-alive") = .eq

/-- The value of the last header with this name; Connection does not count. -/
def lastValue (headers : List (Bytes × Bytes)) (k : Bytes) : Option Bytes :=
  MapType.find (headers.filter fun e => ¬IsConnection e).reverse k

/-- There is a header with a value, and no host header behind it. -/
def Flagged (headers : List (Bytes × Bytes)) : Prop :=
  ∃ l e r, headers = l ++ e :: r ∧ ¬IsConnection e ∧ e.2 ≠ [] ∧ ∀ f ∈ r, ¬IsHost f

/-- Headers of one name have one value. The last host header has a value, or no header with a value is behind it and an
earlier host is the same as the fallback, or there is nothing to fall back to but an empty host. -/
structure Plain (headers : List (Bytes × Bytes)) (fallback : Bytes) : Prop where
  same : ∀ e ∈ headers, ∀ f ∈ headers, Counts e → Counts f → strcasecmp e.1 f.1 = .eq → e.2 = f.2
  host : (∃ v, lastValue headers (ascii "host") = some v ∧ v ≠ []) ∨
    (¬Flagged headers ∧ ∀ e ∈ headers, IsHost e → e.2 ≠ [] → e.2 = fallback) ∨
    (fallback = [] ∧ (∃ e ∈ headers, IsHost e) ∧ ∀ e ∈ headers, IsHost e → e.2 = [])

theorem IsConnection.not_isHost (h : IsConnection e) : ¬IsHost e := by
  intro hhost
  rw [IsHost, strcasecmp_congr h] at hhost
  exact absurd hhost (by decide)

/-! ## The values at the end of a list of headers -/

theorem lastValue_append : lastValue (headers ++ [e]) k =
    if ¬IsConnection e ∧ strcasecmp k e.1 = .eq then some e.2 else lastValue headers k := by
  rw [lastValue, List.filter_append]
  by_cases h : IsConnection e
  · rw [List.filter_cons_of_neg (by simpa using h), List.filter_nil, List.append_nil, if_neg fun hk => hk.1 h]
    rfl
  · rw [List.filter_cons_of_pos (by simpa using h), List.filter_nil, List.reverse_append, List.reverse_singleton,
      List.singleton_append, MapType.find_cons]
    simp only [h, not_false_eq_true, true_and]
    rfl

theorem flagged_append : Flagged (headers ++ [e]) ↔ ¬IsConnection e ∧ e.2 ≠ [] ∨ ¬IsHost e ∧ Flagged headers := by
  constructor
  · rintro ⟨l, d, r, heq, hconnection, hvalue, hbehind⟩
    rcases List.eq_nil_or_concat r with rfl | ⟨r, f, rfl⟩
    · obtain ⟨-, heq⟩ := List.append_inj' heq rfl
      obtain rfl : e = d := by simpa using heq
      exact .inl ⟨hconnection, hvalue⟩
    · rw [List.concat_eq_append, ← List.cons_append, ← List.append_assoc] at heq
      obtain ⟨hheaders, heq⟩ := List.append_inj' heq rfl
      obtain rfl : e = f := by simpa using heq
      exact .inr ⟨hbehind e (by simp), l, d, r, hheaders, hconnection, hvalue, fun f hf => hbehind f (by simp [hf])⟩
  · rintro (⟨hconnection, hvalue⟩ | ⟨hhost, l, d, r, rfl, hconnection, hvalue, hbehind⟩)
    · exact ⟨headers, e, [], rfl, hconnection, hvalue, by simp⟩
    · refine ⟨l, d, r ++ [e], by simp, hconnection, hvalue, fun f hf => ?_⟩
      rcases List.mem_append.mp hf with hf | hf
      · exact hbehind f hf
      · exact List.mem_singleton.mp hf ▸ hhost

theorem exists_of_lastValue (h : lastValue headers k = some v) :
    ∃ e ∈ headers, ¬IsConnection e ∧ strcasecmp k e.1 = .eq ∧ e.2 = v := by
  rw [lastValue, MapType.find, Option.map_eq_some_iff] at h
  obtain ⟨e, hfind, hv⟩ := h
  have hmem : e ∈ headers.filter fun e => ¬IsConnection e := List.mem_reverse.mp (List.mem_of_find?_eq_some hfind)
  have hname := List.find?_some hfind
  rw [List.mem_filter] at hmem
  exact ⟨e, hmem.1, by simpa using hmem.2, by simpa using hname, hv⟩

theorem lastValue_isSome (hmem : e ∈ headers) (h : ¬IsConnection e) (hk : strcasecmp k e.1 = .eq) :
    ∃ v, lastValue headers k = some v := by
  rw [← Option.isSome_iff_exists, lastValue, MapType.find, Option.isSome_map, List.find?_isSome]
  exact ⟨e, List.mem_reverse.mpr (List.mem_filter.mpr ⟨hmem, by simpa using h⟩), by simpa using hk⟩

theorem flagged_of_lastValue (h : lastValue headers (ascii "host") = some v) (hv : v ≠ []) : Flagged headers := by
  induction headers using List.reverseRecOn with
  | nil => cases h
  | append_singleton headers e ih =>
      rw [flagged_append]
      rw [lastValue_append] at h
      split at h
      · next he =>
          obtain rfl := Option.some.inj h
          exact .inl ⟨he.1, hv⟩
      · next he =>
          refine .inr ⟨fun hhost => he ⟨fun hconnection => hconnection.not_isHost hhost, ?_⟩, ih h⟩
          exact strcasecmp_comm.mp hhost

/-! ## The loop -/

theorem addHeader_connection (h : IsConnection e) : addHeader (req, b) e = (req, b) := by
  have hkey : strcasecmp e.1 (ascii "keep-alive") ≠ .eq := by
    rw [strcasecmp_congr h]
    decide
  rw [addHeader, if_pos h, if_neg hkey]

theorem addHeader_other (h : ¬IsConnection e) : addHeader (req, b) e =
    (req.setHeader e.1 e.2, if !b || strcasecmp e.1 (ascii "host") = .eq then !e.2.isEmpty else b) := by
  rw [addHeader, if_neg h]

theorem has_host_iff : (headers.foldl addHeader (req, false)).2 = true ↔ Flagged headers := by
  induction headers using List.reverseRecOn with
  | nil => simp [Flagged]
  | append_singleton headers e ih =>
      rw [List.foldl_append, flagged_append, ← ih]
      obtain ⟨req', b⟩ := headers.foldl addHeader (req, false)
      by_cases hconnection : IsConnection e
      · have hhost := hconnection.not_isHost
        simp [addHeader_connection hconnection, hconnection, hhost]
      · by_cases hhost : IsHost e
        · simp [addHeader_other hconnection, hconnection, hhost]
        · cases b <;> simp [addHeader_other hconnection, hconnection, hhost]

theorem find_foldl_addHeader (h : req.m_headers = []) :
    (headers.foldl addHeader (req, b)).1.m_headers.find k = lastValue headers k := by
  induction headers using List.reverseRecOn with
  | nil =>
      rw [List.foldl_nil, h]
      rfl
  | append_singleton headers e ih =>
      rw [List.foldl_append, lastValue_append, ← ih]
      obtain ⟨req', b'⟩ := headers.foldl addHeader (req, b)
      by_cases hconnection : IsConnection e
      · simp [addHeader_connection hconnection, hconnection]
      · simp [addHeader_other hconnection, hconnection, HttpRequest.setHeader, MapType.find_set]

theorem foldl_addHeader_ordered (h : req.m_headers.Ordered) :
    (headers.foldl addHeader (req, b)).1.m_headers.Ordered := by
  induction headers generalizing req b with
  | nil => exact h
  | cons e headers ih =>
      by_cases hconnection : IsConnection e
      · rw [List.foldl_cons, addHeader_connection hconnection]
        exact ih h
      · rw [List.foldl_cons, addHeader_other hconnection]
        exact ih h.set

theorem foldl_addHeader_close : (headers.foldl addHeader (req, b)).1.m_close = req.m_close := by
  induction headers generalizing req b with
  | nil => rfl
  | cons e headers ih =>
      by_cases hconnection : IsConnection e
      · rw [List.foldl_cons, addHeader_connection hconnection, ih]
      · rw [List.foldl_cons, addHeader_other hconnection, ih]
        rfl

/-! ## The request -/

/-- What both copies build: the caller's headers, and the fallback where the flag is down. -/
structure Built (headers : List (Bytes × Bytes)) (fallback : Bytes) (req : HttpRequest) : Prop where
  ordered : req.m_headers.Ordered
  host : ¬Flagged headers → ∀ k, strcasecmp k (ascii "host") = .eq → req.m_headers.find k = some fallback
  found : ∀ k, Flagged headers ∨ strcasecmp k (ascii "host") ≠ .eq → req.m_headers.find k = lastValue headers k

theorem counts_of_host (h : IsHost e) (hvalue : e.2 ≠ []) : Counts e :=
  ⟨fun hconnection => hconnection.not_isHost h, fun hempty => hvalue hempty.2⟩

theorem Carries.same (h : Carries headers fallback req) :
    ∀ e ∈ headers, ∀ f ∈ headers, Counts e → Counts f → strcasecmp e.1 f.1 = .eq → e.2 = f.2 := by
  intro e he f hf hce hcf hname
  have heq : some e.2 = some f.2 := by
    rw [← h.carried e he hce, ← h.carried f hf hcf, MapType.find_congr hname]
  exact Option.some.inj heq

theorem Built.plain (hbuilt : Built headers fallback req) (h : Carries headers fallback req) :
    Plain headers fallback := by
  refine ⟨h.same, ?_⟩
  have hcarried : ∀ e ∈ headers, IsHost e → e.2 ≠ [] → req.m_headers.find (ascii "host") = some e.2 := by
    intro e he hhost hvalue
    rw [← h.carried e he (counts_of_host hhost hvalue), MapType.find_congr hhost]
  by_cases hflagged : Flagged headers
  · have hone := h.host
    rw [hbuilt.ordered.countP_eq] at hone
    obtain ⟨v, hv⟩ : ∃ v, req.m_headers.find (ascii "host") = some v :=
      Option.isSome_iff_exists.mp (by simpa using hone)
    have hlast : lastValue headers (ascii "host") = some v := (hbuilt.found _ (.inl hflagged)).symm.trans hv
    by_cases hempty : v = []
    · subst hempty
      have hhosts : ∀ e ∈ headers, IsHost e → e.2 = [] := by
        intro e he hhost
        by_contra hvalue
        have heq := hcarried e he hhost hvalue
        rw [hv] at heq
        exact hvalue (Option.some.inj heq).symm
      have hfallback := h.fallback hhosts
      rw [hv] at hfallback
      obtain ⟨e, he, -, hname, -⟩ := exists_of_lastValue hlast
      exact .inr (.inr ⟨(Option.some.inj hfallback).symm, ⟨e, he, strcasecmp_comm.mp hname⟩, hhosts⟩)
    · exact .inl ⟨v, hlast, hempty⟩
  · refine .inr (.inl ⟨hflagged, fun e he hhost hvalue => ?_⟩)
    have heq := hcarried e he hhost hvalue
    rw [hbuilt.host hflagged _ (strcasecmp_eq_iff.mpr rfl)] at heq
    exact (Option.some.inj heq).symm

/-- Where the flag is up there is a host header, and it has a value unless the fallback has none either. -/
theorem Plain.lastHost (h : Plain headers fallback) (hflagged : Flagged headers) :
    ∃ v, lastValue headers (ascii "host") = some v ∧
      (v = [] → fallback = [] ∧ ∀ e ∈ headers, IsHost e → e.2 = []) := by
  rcases h.host with ⟨v, hv, hne⟩ | ⟨hnot, -⟩ | ⟨hempty, ⟨e, he, hhost⟩, hhosts⟩
  · exact ⟨v, hv, fun hv => absurd hv hne⟩
  · exact absurd hflagged hnot
  · obtain ⟨v, hv⟩ := lastValue_isSome he (fun hconnection => hconnection.not_isHost hhost) (strcasecmp_comm.mp hhost)
    exact ⟨v, hv, fun _ => ⟨hempty, hhosts⟩⟩

theorem Plain.lastValue_eq (h : Plain headers fallback) (hother : Flagged headers ∨ ¬IsHost e) (he : e ∈ headers)
    (hcounts : Counts e) : lastValue headers e.1 = some e.2 := by
  obtain ⟨v, hv⟩ := lastValue_isSome he hcounts.1 (strcasecmp_eq_iff.mpr rfl)
  obtain ⟨f, hf, hconnection, hname, rfl⟩ := exists_of_lastValue hv
  by_cases hcf : Counts f
  · rw [hv, h.same e he f hf hcounts hcf hname]
  · obtain ⟨hhost_f, hempty⟩ : IsHost f ∧ f.2 = [] := not_not.mp fun hn => hcf ⟨hconnection, hn⟩
    have hhost : IsHost e := (strcasecmp_congr hname _).trans hhost_f
    have hflagged := hother.resolve_right (not_not.mpr hhost)
    obtain ⟨w, hw, hfallback⟩ := h.lastHost hflagged
    have heq : lastValue headers e.1 = lastValue headers (ascii "host") := MapType.find_congr hhost
    rw [hv, hw, hempty] at heq
    have hvalue := (hfallback (Option.some.inj heq).symm).2 e he hhost
    exact absurd ⟨hhost, hvalue⟩ hcounts.2

theorem Built.carries (hbuilt : Built headers fallback req) (h : Plain headers fallback) :
    Carries headers fallback req := by
  have hself : strcasecmp (ascii "host") (ascii "host") = .eq := strcasecmp_eq_iff.mpr rfl
  by_cases hflagged : Flagged headers
  · obtain ⟨v, hv, hfallback⟩ := h.lastHost hflagged
    have hhost : req.m_headers.find (ascii "host") = some v := (hbuilt.found _ (.inl hflagged)).trans hv
    refine ⟨fun e he hcounts => ?_, ?_, fun hhosts => ?_⟩
    · rw [hbuilt.found _ (.inl hflagged)]
      exact h.lastValue_eq (.inl hflagged) he hcounts
    · rw [hbuilt.ordered.countP_eq, hhost]
      rfl
    · obtain ⟨e, he, -, hname, rfl⟩ := exists_of_lastValue hv
      have hempty := hhosts e he (strcasecmp_comm.mp hname)
      rw [hhost, hempty, (hfallback hempty).1]
  · refine ⟨fun e he hcounts => ?_, ?_, fun _ => hbuilt.host hflagged _ hself⟩
    · by_cases hhost : IsHost e
      · have hvalue : e.2 ≠ [] := fun hempty => hcounts.2 ⟨hhost, hempty⟩
        rw [hbuilt.host hflagged _ hhost]
        rcases h.host with ⟨v, hv, hne⟩ | ⟨-, hsame⟩ | ⟨-, -, hhosts⟩
        · exact absurd (flagged_of_lastValue hv hne) hflagged
        · rw [hsame e he hhost hvalue]
        · exact absurd (hhosts e he hhost) hvalue
      · rw [hbuilt.found _ (.inr hhost)]
        exact h.lastValue_eq (.inr hhost) he hcounts
    · rw [hbuilt.ordered.countP_eq, hbuilt.host hflagged _ hself]
      rfl

/-- `name` is how the fallback is spelled. -/
theorem built_foldl {name : Bytes} (hreq : req.m_headers = []) (hname : strcasecmp name (ascii "host") = .eq)
    {built : HttpRequest} (h : built.m_headers = if (headers.foldl addHeader (req, false)).2 then
        (headers.foldl addHeader (req, false)).1.m_headers
      else (headers.foldl addHeader (req, false)).1.m_headers.set name fallback) : Built headers fallback built := by
  have hordered : (headers.foldl addHeader (req, false)).1.m_headers.Ordered :=
    foldl_addHeader_ordered (by rw [hreq]; exact List.Pairwise.nil)
  by_cases hflagged : Flagged headers
  · rw [if_pos (has_host_iff.mpr hflagged)] at h
    refine ⟨h ▸ hordered, fun hnot => absurd hflagged hnot, fun k _ => ?_⟩
    rw [h, find_foldl_addHeader hreq]
  · rw [if_neg fun hb => hflagged (has_host_iff.mp hb)] at h
    refine ⟨h ▸ hordered.set, fun _ k hk => ?_, fun k hk => ?_⟩
    · rw [h, MapType.find_set, if_pos]
      rw [strcasecmp_congr hk]
      exact strcasecmp_comm.mp hname
    · have hother : strcasecmp k name ≠ .eq := fun heq =>
        hk.resolve_left hflagged ((strcasecmp_congr heq _).trans hname)
      rw [h, MapType.find_set, if_neg hother, find_foldl_addHeader hreq]

theorem DoRequest_built (method : HttpMethod) (uri : Uri) (headers : List (Bytes × Bytes)) (body : Bytes) :
    Built headers uri.getHost (HttpConnection.DoRequest method uri headers body) := by
  have hreq : ((((HttpRequest.new.setPath uri.getPath).setQuery uri.getQuery).setFragment
      uri.getFragment).setMethod method).m_headers = [] := rfl
  have hname : strcasecmp (ascii "Host") (ascii "host") = .eq := by decide
  refine built_foldl hreq hname ?_
  rw [HttpConnection.DoRequest]
  obtain ⟨req, b⟩ := headers.foldl addHeader _
  cases b <;> rfl

theorem DoRequest_close (method : HttpMethod) (uri : Uri) (headers : List (Bytes × Bytes)) (body : Bytes) :
    (HttpConnection.DoRequest method uri headers body).m_close = true := by
  have hclose := @foldl_addHeader_close ((((HttpRequest.new.setPath uri.getPath).setQuery uri.getQuery).setFragment
    uri.getFragment).setMethod method) headers false
  rw [HttpConnection.DoRequest]
  generalize headers.foldl addHeader _ = acc at hclose ⊢
  obtain ⟨req, b⟩ := acc
  cases b <;> exact hclose

/-- Where the pool's requests go to. -/
def vhostOrHost (m_host m_vhost : Bytes) : Bytes := if m_vhost.isEmpty then m_host else m_vhost

theorem doRequest_built (m_host m_vhost : Bytes) (method : HttpMethod) (url : Bytes) (headers : List (Bytes × Bytes))
    (body : Bytes) : Built headers (vhostOrHost m_host m_vhost)
      (HttpConnectionPool.doRequest m_host m_vhost method url headers body) := by
  have hreq : (((HttpRequest.new.setPath url).setMethod method).setClose false).m_headers = [] := rfl
  have hname : strcasecmp (ascii "host") (ascii "host") = .eq := by decide
  refine built_foldl hreq hname ?_
  rw [HttpConnectionPool.doRequest, vhostOrHost]
  obtain ⟨req, b⟩ := headers.foldl addHeader _
  cases b <;> cases m_vhost.isEmpty <;> rfl

theorem Built.carries_iff (hbuilt : Built headers fallback req) :
    Carries headers fallback req ↔ Plain headers fallback := ⟨hbuilt.plain, hbuilt.carries⟩

/-- The two copies build the request they should exactly for headers that do not bring the flag up in place of a host,
and DoRequest only where nothing asks for keep-alive. -/
theorem requests_iff (method : HttpMethod) (uri : Uri) (m_host m_vhost url : Bytes) (headers : List (Bytes × Bytes))
    (body : Bytes) :
    (Carries headers uri.getHost (HttpConnection.DoRequest method uri headers body) ∧
        KeepsAlive headers (HttpConnection.DoRequest method uri headers body) ↔
      Plain headers uri.getHost ∧
        ∀ e ∈ headers, IsConnection e → strcasecmp e.2 (ascii "keep-alive") ≠ .eq) ∧
    (Carries headers (vhostOrHost m_host m_vhost)
        (HttpConnectionPool.doRequest m_host m_vhost method url headers body) ↔
      Plain headers (vhostOrHost m_host m_vhost)) := by
  refine ⟨and_congr (DoRequest_built method uri headers body).carries_iff ?_,
    (doRequest_built m_host m_vhost method url headers body).carries_iff⟩
  rw [KeepsAlive, DoRequest_close]
  simp

/-- A header with a value passes for the host. -/
theorem not_carries_accept : ¬ ∀ (method : HttpMethod) (uri : Uri) (headers : List (Bytes × Bytes)) (body : Bytes),
    headers.Pairwise (fun e f => e.1 < f.1) →
      Carries headers uri.getHost (HttpConnection.DoRequest method uri headers body) := by
  intro h
  have hcarries := h .GET ⟨ascii "a", [], [], []⟩ [(ascii "Accept", ascii "*/*")] [] (List.pairwise_singleton _ _)
  exact absurd hcarries.host (by decide)

end Mingfwq.Http
