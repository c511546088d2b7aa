import Mingfwq.Http.HttpParser

/-!
# The states of the automata

Facts that are checked edge by edge.
-/

namespace Mingfwq.Http

open Lib

variable {cs : Nat} {c : UInt8} {uri_relaxed : Bool}

/-! ## http11_parser.rl -/

theorem http_parser_forall_next {P : Nat → Edge HttpParser.Action → Prop} {e : Edge HttpParser.Action}
    (htable : ∀ row ∈ http_parser_table, ∀ e ∈ row.2, P row.1 e)
    (hmore : ∀ row ∈ http_parser_more_delims, ∀ e ∈ row.2, P row.1 e)
    (h : http_parser_next uri_relaxed cs c = some e) : P cs e ∧ e.lo ≤ c.toNat ∧ c.toNat ≤ e.hi := by
  rw [http_parser_next] at h
  cases ht : http_parser_table.next cs c with
  | some e' =>
      rw [ht] at h
      cases h
      exact Table.forall_next htable ht
  | none =>
      rw [ht] at h
      cases uri_relaxed with
      | true => exact Table.forall_next hmore h
      | false => cases h

/-- An edge that breaks off leads to a final state, any other to a state that is neither final nor the error. -/
theorem http_parser_edge_target {e : Edge HttpParser.Action} (h : http_parser_next uri_relaxed cs c = some e) :
    if e.acts.any HttpParser.Action.breaks then http_parser_first_final ≤ e.target
    else http_parser_error < e.target ∧ e.target < http_parser_first_final :=
  (http_parser_forall_next (P := fun _ e => if e.acts.any HttpParser.Action.breaks then
    http_parser_first_final ≤ e.target else http_parser_error < e.target ∧ e.target < http_parser_first_final)
    (by decide +kernel) (by decide +kernel) h).1

theorem http_parser_method_blank {e : Edge HttpParser.Action} (h : http_parser_next uri_relaxed cs c = some e)
    (hm : .request_method ∈ e.acts) : c = 32 := by
  obtain ⟨hP, hlo, hhi⟩ := http_parser_forall_next
    (P := fun _ e => .request_method ∈ e.acts → e.lo = 32 ∧ e.hi = 32) (by decide +kernel) (by decide +kernel) h
  obtain ⟨hlo32, hhi32⟩ := hP hm
  have hc : c.toNat = 32 := by omega
  exact UInt8.toNat_inj.mp hc

/-! ## httpclient_parser.rl -/

theorem httpclient_parser_edge_target {e : Edge HttpClientParser.Action} (h : httpclient_parser_next cs c = some e) :
    if e.acts.any HttpClientParser.Action.breaks then httpclient_parser_first_final ≤ e.target
    else httpclient_parser_error < e.target ∧ e.target < httpclient_parser_first_final :=
  (Table.forall_next (P := fun _ e => if e.acts.any HttpClientParser.Action.breaks then
    httpclient_parser_first_final ≤ e.target
    else httpclient_parser_error < e.target ∧ e.target < httpclient_parser_first_final) (by decide +kernel) h).1

end Mingfwq.Http
