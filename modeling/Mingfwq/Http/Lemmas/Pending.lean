import Mingfwq.Lib.Registers
import Mingfwq.Http.Lemmas.States

/-!
# Which registers a request still needs

A register that an edge sets is read by a later one. No register is pending at the start.
-/

namespace Mingfwq.Http

open Lib

/-- The registers of `http_parser` that are offsets into the buffer or the distance of two. -/
inductive HttpParser.Register where
  | mark
  | field_start
  | field_len
  | query_start
  deriving DecidableEq, Repr

/-- What the actions read for a callback that uses it, and set. A new name makes the length of the last one useless. -/
def HttpParser.registerUse : RegisterUse HttpParser.Action HttpParser.Register where
  reads
    | .write_field => [.field_start]
    | .write_value => [.field_start, .field_len, .mark]
    | .request_method | .fragment | .http_version | .request_path => [.mark]
    | .query_string => [.query_start]
    | _ => []
  sets
    | .mark | .start_value => [.mark]
    | .start_field => [.field_start]
    | .write_field => [.field_len]
    | .start_query => [.query_start]
    | _ => []
  drops
    | .start_field => [.field_len]
    | _ => []

/-- The registers that some way on from a state reads before it sets them. -/
def HttpParser.pending (cs : Nat) : List HttpParser.Register :=
  (if [(2, 2), (5, 12), (16, 16), (19, 19), (21, 28), (33, 173), (175, 195), (198, 198), (202, 347)].any
      fun r => r.1.ble cs && cs.ble r.2 then [.mark] else []) ++
    (if [14, 15, 16, 18, 348].any cs.beq then [.field_start] else []) ++
    (if [15, 16].any cs.beq then [.field_len] else []) ++
    (if [30, 31, 32].any cs.beq then [.query_start] else [])

/-- The check of one edge. -/
def HttpParser.edgeSets (cs : Nat) (e : Edge HttpParser.Action) : Bool :=
  match runActs registerUse.watch e.acts 0 (pending cs) with
  | none => false
  | some own => e.acts.any Action.breaks || (pending e.target).all (· ∈ own)

theorem http_parser_edge_sets {uri_relaxed : Bool} {cs : Nat} {c : UInt8} {e : Edge HttpParser.Action}
    (h : http_parser_next uri_relaxed cs c = some e) :
    ∃ own, runActs HttpParser.registerUse.watch e.acts 0 (HttpParser.pending cs) = some own ∧
      (e.acts.any HttpParser.Action.breaks = false → HttpParser.pending e.target ⊆ own) := by
  have hsets : HttpParser.edgeSets cs e = true :=
    (http_parser_forall_next (P := fun cs e => HttpParser.edgeSets cs e = true) (by decide +kernel)
      (by decide +kernel) h).1
  rw [HttpParser.edgeSets] at hsets
  split at hsets
  · cases hsets
  · next own hown =>
      refine ⟨own, hown, fun hb r hr => ?_⟩
      rw [hb, Bool.false_or, List.all_eq_true] at hsets
      exact of_decide_eq_true (hsets r hr)

/-- From the start, nothing is read that has not been set. -/
theorem http_parser_watch_start {uri_relaxed : Bool} {p : Nat} {bytes : Bytes} {own : List HttpParser.Register} :
    scan (http_parser_next uri_relaxed) HttpParser.Action.breaks HttpParser.registerUse.watch p bytes
      http_parser_start own ≠ .fault := by
  have hedge : ∀ cs c e, http_parser_next uri_relaxed cs c = some e →
      ∃ own, runActs HttpParser.registerUse.watch e.acts 0 (HttpParser.pending cs) = some own ∧
        (e.acts.any HttpParser.Action.breaks = false → HttpParser.pending e.target ⊆ own) :=
    fun _ _ _ h => http_parser_edge_sets h
  have hstart : HttpParser.pending http_parser_start ⊆ own := by
    have hnil : HttpParser.pending http_parser_start = [] := by decide
    rw [hnil]
    exact List.nil_subset own
  exact RegisterUse.scan_watch_ne_fault hedge hstart

end Mingfwq.Http
