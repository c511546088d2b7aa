import Mingfwq.Stream.Lemmas.Reading
import Mingfwq.Http.Lemmas.Callbacks
import Mingfwq.Http.Lemmas.Registers
import Mingfwq.Http.Lemmas.States

/-!
# The head of a request

What one round of the loop of recvRequest does, by what the run of the automaton over the bytes read comes to.
-/

namespace Mingfwq.Http

open Lib

namespace HttpRequestParser

/-- The run over the first `len` bytes of the buffer. -/
def exec (parser : HttpRequestParser) (data : Bytes) (len : Nat) : Run (HttpParser × Parsed HttpRequest) :=
  http_parser_exec callbacks parser.mParser parser.toParsed data len 0

/-- A parser in the middle of a head. -/
structure Ready (parser : HttpRequestParser) : Prop where
  cs_pos : http_parser_error < parser.mParser.cs
  cs_lt : parser.mParser.cs < http_parser_first_final
  body_start : parser.mParser.body_start = 0

/-- The parser after a run that ends at position `p` in state `cs`. -/
def leave (parser : HttpParser) (parsed : Parsed HttpRequest) (cs p : Nat) : HttpRequestParser :=
  { parsed with mParser := { parser with cs, nread := p } }

theorem ready_new (mParser : HttpParser) : Ready (.new mParser) :=
  ⟨Nat.zero_lt_one, (by decide : http_parser_start < http_parser_first_final), rfl⟩

variable {parser : HttpRequestParser} {data : Bytes} {len cs p : Nat} {m : HttpParser} {d : Parsed HttpRequest}

theorem exec_le (hdata : len ≤ data.length)
    (h : (parser.exec data len).result len http_parser_error = some (p, cs, m, d)) : p ≤ len :=
  (http_parser_exec_inRange (Nat.zero_le len) hdata h).2.1

/-- The distance moved is that from `off` to the end, and `off` more. -/
theorem execute_fits {off : Nat} {r : Nat × Bytes × HttpRequestParser}
    (h : parser.execute data len off = .ok r) : len + 2 * off ≤ data.length := by
  rw [execute] at h
  obtain ⟨⟨n, m, d⟩, -, h⟩ := bind_eq_ok.mp h
  obtain ⟨data', hmove, -⟩ := bind_eq_ok.mp h
  rw [memmove] at hmove
  split at hmove
  · omega
  · cases hmove

theorem execute_eq (hready : parser.Ready) (hlen : 0 < len) (hlt : len < 2 ^ 31) (hdata : len ≤ data.length)
    (h : (parser.exec data len).result len http_parser_error = some (p, cs, m, d)) :
    parser.execute data len 0 = .ok (p, overwrite data 0 ((data.drop p).take (len - p)), leave m d cs p) := by
  have hp := exec_le hdata h
  rw [execute, http_parser_execute_eq hlen hlt (Nat.zero_le len) hdata (Nat.le_of_eq hready.body_start)
    (Nat.ne_of_gt hready.cs_pos) h]
  simp only [Nat.sub_zero, Nat.add_zero, Nat.zero_add, ok_bind]
  rw [memmove_ok (by omega)]
  rfl

theorem execute_fault (hlen : 0 < len) (hlt : len < 2 ^ 31) (h : parser.exec data len = .fault) :
    parser.execute data len 0 = .error .lengthError := by
  have hdistance := sameDistance_of_lt hlt (Nat.zero_le len)
  rw [exec] at h
  rw [execute, http_parser_execute, if_neg (Nat.ne_of_gt hlen),
    if_neg (by rw [not_or]; exact ⟨Nat.not_lt.mpr (Nat.zero_le len), not_not.mpr hdistance⟩), h]
  rfl

/-- A text that an `int` cannot count. -/
theorem execute_long (hlen : 2 ^ 31 ≤ len) : parser.execute data len 0 = .error .assertion := by
  have hpos : len ≠ 0 := by omega
  have hdistance : sameDistance len 0 ≠ true := by
    rw [sameDistance_long hlen]
    exact Bool.false_ne_true
  rw [execute, http_parser_execute, if_neg hpos, if_pos (.inr hdistance)]
  rfl

theorem live_ready (hready : parser.Ready) (h : parser.exec data len = .live cs (m, d)) :
    Ready (leave m d cs len) := by
  have hstate : http_parser_error < cs ∧ cs < http_parser_first_final := by
    refine scan_live_state (Q := fun cs => http_parser_error < cs ∧ cs < http_parser_first_final) ?_ ?_ h
    · intro cs c e he hb _
      have htarget := http_parser_edge_target he
      rw [hb, if_neg Bool.false_ne_true] at htarget
      exact htarget
    · exact ⟨hready.cs_pos, hready.cs_lt⟩
  exact ⟨hstate.1, hstate.2, (http_parser_exec_body_start h).trans hready.body_start⟩

theorem stop_final (h : parser.exec data len = .stop p cs (m, d)) : 0 < p ∧ http_parser_first_final ≤ cs := by
  obtain ⟨hp, cs₀, c, e, he, hb, rfl⟩ := scan_stop_edge h
  have htarget := http_parser_edge_target he
  rw [if_pos hb] at htarget
  exact ⟨hp, htarget⟩

theorem leave_hasError :
    (leave m d cs p).hasError = false ↔ d.m_error = 0 ∧ cs ≠ http_parser_error := by
  simp only [hasError, leave, http_parser_has_error, Bool.or_eq_false_iff, beq_eq_false_iff_ne, bne_eq_false_iff_eq]

theorem leave_isFinished (h : http_parser_first_final ≤ cs) : (leave m d cs p).isFinished = 1 := by
  have hcs : cs ≠ http_parser_error := Nat.ne_of_gt (Nat.lt_of_lt_of_le (by decide) h)
  have hfinal : http_parser_is_finished (leave m d cs p).mParser = true := decide_eq_true h
  rw [isFinished, http_parser_finish, if_neg (by simpa [http_parser_has_error, leave] using hcs), if_pos hfinal]

theorem ready_isFinished (h : parser.Ready) : parser.isFinished = 0 := by
  have hcs : parser.mParser.cs ≠ http_parser_error := Nat.ne_of_gt h.cs_pos
  have hfinal : http_parser_is_finished parser.mParser = false := decide_eq_false (Nat.not_le.mpr h.cs_lt)
  rw [isFinished, http_parser_finish, if_neg (by simpa [http_parser_has_error] using hcs),
    if_neg (by rw [hfinal]; exact Bool.false_ne_true)]

/-- A parser that a run leaves without an error and unfinished has read all its input. -/
theorem leave_running (h : (parser.exec data len).result len http_parser_error = some (p, cs, m, d))
    (herror : (leave m d cs p).hasError = false) (hfinished : (leave m d cs p).isFinished = 0) :
    p = len ∧ parser.exec data len = .live cs (m, d) := by
  have hcs := (leave_hasError.mp herror).2
  cases hrun : parser.exec data len with
  | live cs' k =>
      rw [hrun] at h
      cases h
      exact ⟨rfl, rfl⟩
  | err p' k =>
      rw [hrun] at h
      cases h
      exact absurd rfl hcs
  | stop p' cs' k =>
      rw [hrun] at h
      cases h
      rw [leave_isFinished (stop_final hrun).2] at hfinished
      cases hfinished
  | fault =>
      rw [hrun] at h
      cases h

end HttpRequestParser

namespace HttpSession

open HttpRequestParser

variable {buff_size : BufferSize} {fuel cs p : Nat} {parser : HttpRequestParser} {data bytes : Bytes}
  {peer left : Peer} {m : HttpParser} {d : Parsed HttpRequest}

theorem recvHead_closed {s : Stop} (hrec : peer.receive buff_size = .error s) :
    recvHead buff_size (fuel + 1) parser data 0 peer = .error s := by
  rw [recvHead, Nat.sub_zero, hrec]
  rfl

theorem recvHead_fault (hrec : peer.receive buff_size = .ok (bytes, left))
    (h : parser.exec (overwrite data 0 bytes) bytes.length = .fault) :
    recvHead buff_size (fuel + 1) parser data 0 peer = .error .lengthError := by
  have hr := Peer.receive_spec hrec
  have hpos : 0 < bytes.length := List.length_pos_of_ne_nil hr.ne_nil
  rw [recvHead, Nat.sub_zero, hrec]
  simp only [ok_bind, execute_fault hpos (Nat.lt_of_le_of_lt hr.length_le buff_size.2) h]
  rfl

/-- A round whose run ends at `p` in state `cs`. -/
theorem recvHead_result (hrec : peer.receive buff_size = .ok (bytes, left)) (hready : parser.Ready)
    (hdata : data.length = buff_size)
    (h : (parser.exec (overwrite data 0 bytes) bytes.length).result bytes.length http_parser_error =
      some (p, cs, m, d)) :
    recvHead buff_size (fuel + 1) parser data 0 peer =
      if (leave m d cs p).hasError then .error .closed
      else
        let data := overwrite data 0 bytes
        let data := overwrite data 0 ((data.drop p).take (bytes.length - p))
        if bytes.length - p = buff_size then .error .closed
        else if (leave m d cs p).isFinished ≠ 0 then .ok (leave m d cs p, data, bytes.length - p, left)
        else recvHead buff_size fuel (leave m d cs p) data (bytes.length - p) left := by
  have hr := Peer.receive_spec hrec
  have hpos : 0 < bytes.length := List.length_pos_of_ne_nil hr.ne_nil
  have hle : bytes.length ≤ data.length := by rw [hdata]; exact hr.length_le
  have hle' : bytes.length ≤ (overwrite data 0 bytes).length := by
    rw [length_overwrite (by omega)]
    exact hle
  rw [recvHead, Nat.sub_zero, hrec]
  simp only [ok_bind, execute_eq hready hpos (Nat.lt_of_le_of_lt hr.length_le buff_size.2) hle' h]

/-- The bytes that a round leaves in the buffer. -/
theorem take_moved {n : Nat} (hp : p ≤ n) (hn : n = bytes.length) (hdata : n ≤ data.length) :
    (overwrite (overwrite data 0 bytes) 0 (((overwrite data 0 bytes).drop p).take (n - p))).take (n - p) =
      bytes.drop p := by
  subst hn
  have hlen : (overwrite data 0 bytes).length = data.length := length_overwrite (by omega)
  have hmoved : ((overwrite data 0 bytes).drop p).take (bytes.length - p) = bytes.drop p := by
    rw [← List.drop_take, take_overwrite_zero hdata]
  rw [hmoved, ← List.length_drop, take_overwrite_zero (by rw [List.length_drop, hlen]; omega)]

/-- What the head loop leaves: some bytes are read, the others are in the buffer or still to arrive. -/
structure HeadRead (buff_size : BufferSize) (parser : HttpRequestParser) (peer : Peer)
    (parser' : HttpRequestParser) (data : Bytes) (offset : Nat) (left : Peer) : Prop where
  bytes_eq : ∃ head, peer.bytes = head ++ (data.take offset ++ left.bytes)
  length_eq : data.length = buff_size
  offset_le : offset ≤ buff_size
  successful : peer.Successful → left.Successful
  body_eq : parser'.m_data.m_body = parser.m_data.m_body

theorem recvHead_headRead {parser' : HttpRequestParser} {data' : Bytes} {offset : Nat} {left : Peer}
    (hready : parser.Ready) (hdata : data.length = buff_size)
    (h : recvHead buff_size fuel parser data 0 peer = .ok (parser', data', offset, left)) :
    HeadRead buff_size parser peer parser' data' offset left := by
  induction fuel generalizing parser data peer with
  | zero => cases h
  | succ fuel ih =>
      cases hrec : peer.receive buff_size with
      | error s => rw [recvHead_closed hrec] at h; cases h
      | ok r =>
          obtain ⟨bytes, rest⟩ := r
          have hr := Peer.receive_spec hrec
          have hle : bytes.length ≤ data.length := hdata ▸ hr.length_le
          have hlen : (overwrite data 0 bytes).length = data.length := length_overwrite (by omega)
          cases hres : (parser.exec (overwrite data 0 bytes) bytes.length).result bytes.length
              http_parser_error with
          | none =>
              rw [recvHead_fault hrec (Run.result_eq_none hres)] at h
              cases h
          | some r =>
              obtain ⟨p, cs, m, d⟩ := r
              have hp := exec_le (by rw [hlen]; exact hle) hres
              have hbody := http_parser_exec_body (Nat.zero_le _) (by rw [hlen]; exact hle) hres
              have hmoved := take_moved hp rfl hle
              have hlen' : (overwrite (overwrite data 0 bytes) 0
                  (((overwrite data 0 bytes).drop p).take (bytes.length - p))).length = buff_size := by
                rw [length_overwrite, hlen, hdata]
                simp only [List.length_take, List.length_drop, hlen]
                omega
              rw [recvHead_result hrec hready hdata hres] at h
              simp only at h
              split at h
              · cases h
              · next herror =>
                  split at h
                  · cases h
                  · split at h
                    · next hfinished =>
                        cases h
                        refine ⟨⟨bytes.take p, ?_⟩, hlen', by have := hr.length_le; omega, hr.successful, hbody⟩
                        rw [hmoved, hr.bytes_eq, ← List.append_assoc, List.take_append_drop]
                    · next hfinished =>
                        rw [Bool.not_eq_true] at herror
                        obtain ⟨rfl, hlive⟩ := leave_running hres herror (not_not.mp hfinished)
                        rw [Nat.sub_self] at h hlen'
                        have hread := ih (live_ready hready hlive) hlen' h
                        obtain ⟨head, hhead⟩ := hread.bytes_eq
                        refine ⟨⟨bytes ++ head, ?_⟩, hread.length_eq, hread.offset_le,
                          fun hs => hread.successful (hr.successful hs), hread.body_eq.trans hbody⟩
                        rw [hr.bytes_eq, hhead, List.append_assoc]

end HttpSession

end Mingfwq.Http
