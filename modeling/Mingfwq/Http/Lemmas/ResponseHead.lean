import Mingfwq.Stream.Lemmas.Reading
import Mingfwq.Http.HttpConnection
import Mingfwq.Http.Lemmas.Callbacks
import Mingfwq.Http.Lemmas.Registers
import Mingfwq.Http.Lemmas.States

/-!
# The head of a response

What one round of the loop of recvResponse does, by what the run of the automaton over the bytes in the buffer
comes to. The automaton starts afresh in every round.
-/

namespace Mingfwq.Http

open Lib

namespace HttpResponseParser

/-- The run over the first `len` bytes of the buffer, from the start. -/
def exec (parser : HttpResponseParser) (data : Bytes) (len : Nat) :
    Run (HttpClientParser × Parsed HttpResponse) :=
  httpclient_parser_exec callbacks (httpclient_parser_init parser.mParser) parser.toParsed data len 0

/-- The parser after a run that ends at position `p` in state `cs`. -/
def leave (parser : HttpClientParser) (parsed : Parsed HttpResponse) (cs p : Nat) : HttpResponseParser :=
  { parsed with mParser := { parser with cs, nread := p } }

variable {parser : HttpResponseParser} {data : Bytes} {len cs p : Nat} {m : HttpClientParser}
  {d : Parsed HttpResponse}

theorem execute_eq (hlen : 0 < len) (hlt : len < 2 ^ 31) (hend : data[len]? = some 0)
    (h : (parser.exec data len).result len httpclient_parser_error = some (p, cs, m, d)) :
    p ≤ len ∧ parser.execute data len true 0 =
      .ok (p, overwrite data 0 ((data.drop p).take (len - p)), leave m d cs p) := by
  obtain ⟨hdata, -⟩ := List.getElem?_eq_some_iff.mp hend
  have hinit := httpclient_parser_init_inRange (p := 0) parser.mParser
  obtain ⟨-, hp, -⟩ := httpclient_parser_exec_inRange (Nat.zero_le len) (Nat.le_of_lt hdata) hinit h
  refine ⟨hp, ?_⟩
  have hdistance : (((len : Int) - 0 - p) % 2 ^ 64).toNat = len - p := by omega
  have hparsed : ((p : Int) % 2 ^ 64).toNat = p := by omega
  have hsource : (0 + (p : Int)).toNat = p := by omega
  rw [execute, if_pos rfl, httpclient_parser_execute_eq hlen (sameDistance_of_lt hlt (Nat.zero_le len))
    (Nat.zero_le len) hend hinit h, Nat.sub_zero, toInt32_of_lt (Nat.lt_of_le_of_lt hp hlt), ok_bind]
  simp only [hsource, hparsed, Int.natCast_zero, hdistance]
  rw [if_neg (by omega), memmove_ok (by omega)]
  rfl

theorem execute_fault (hlt : len < 2 ^ 31) (hend : data[len]? = some 0) (h : parser.exec data len = .fault) :
    parser.execute data len true 0 = .error .lengthError := by
  have hdistance := sameDistance_of_lt hlt (Nat.zero_le len)
  rw [exec] at h
  rw [execute, if_pos rfl, httpclient_parser_execute, if_neg (by
    rw [not_or, not_or]
    exact ⟨Nat.not_lt.mpr (Nat.zero_le len), not_not.mpr hend, not_not.mpr hdistance⟩), h]
  rfl

theorem leave_hasError :
    (leave m d cs p).hasError = false ↔ d.m_error = 0 ∧ cs ≠ httpclient_parser_error := by
  simp only [hasError, leave, httpclient_parser_has_error, Bool.or_eq_false_iff, beq_eq_false_iff_ne,
    bne_eq_false_iff_eq]

theorem leave_isFinished (hcs : cs ≠ httpclient_parser_error) :
    (leave m d cs p).isFinished ≠ 0 ↔ cs = httpclient_parser_first_final := by
  rw [isFinished, httpclient_parser_finish,
    if_neg (by simpa [httpclient_parser_has_error, leave] using hcs)]
  by_cases h : cs = httpclient_parser_first_final
  · rw [if_pos (by simpa [httpclient_parser_is_finished, leave] using h)]
    exact iff_of_true (by decide) h
  · rw [if_neg (by simpa [httpclient_parser_is_finished, leave] using h)]
    exact iff_of_false (by decide) h

theorem live_state (h : parser.exec data len = .live cs (m, d)) :
    httpclient_parser_error < cs ∧ cs < httpclient_parser_first_final := by
  refine scan_live_state (Q := fun cs => httpclient_parser_error < cs ∧ cs < httpclient_parser_first_final) ?_ ?_ h
  · intro cs c e he hb _
    have htarget := httpclient_parser_edge_target he
    rw [hb, if_neg Bool.false_ne_true] at htarget
    exact htarget
  · exact (by decide : httpclient_parser_error < httpclient_parser_start ∧
      httpclient_parser_start < httpclient_parser_first_final)

end HttpResponseParser

namespace HttpConnection

open HttpResponseParser

variable {buff_size : BufferSize} {fuel cs p offset : Nat} {parser : HttpResponseParser} {data bytes : Bytes}
  {peer left : Peer} {m : HttpClientParser} {d : Parsed HttpResponse}

/-- The buffer with the bytes read and the zero behind them. -/
def received (data : Bytes) (offset : Nat) (bytes : Bytes) : Bytes :=
  overwrite (overwrite data offset bytes) (offset + bytes.length) [0]

theorem length_received (h : offset + bytes.length < data.length) :
    (received data offset bytes).length = data.length := by
  have hlen : (overwrite data offset bytes).length = data.length := length_overwrite (by omega)
  rw [received, length_overwrite (by rw [hlen, List.length_singleton]; omega), hlen]

theorem take_received (h : offset + bytes.length < data.length) :
    (received data offset bytes).take (offset + bytes.length) = data.take offset ++ bytes := by
  have hlen : (overwrite data offset bytes).length = data.length := length_overwrite (by omega)
  rw [received, take_overwrite_le (by rw [hlen, List.length_singleton]; omega) (Nat.le_refl _),
    take_overwrite (by omega)]

theorem received_end (h : offset + bytes.length < data.length) :
    (received data offset bytes)[offset + bytes.length]? = some 0 := by
  have hlen : (overwrite data offset bytes).length = data.length := length_overwrite (by omega)
  rw [received, overwrite_eq (by rw [hlen, List.length_singleton]; omega), List.append_assoc,
    List.getElem?_append_right (by rw [List.length_take]; omega)]
  simp [hlen, Nat.min_eq_left (Nat.le_of_lt h)]

theorem recvHead_closed {s : Stop} (hrec : peer.receive (buff_size - offset) = .error s) :
    recvHead buff_size (fuel + 1) parser data offset peer = .error s := by
  rw [recvHead, hrec]
  rfl

theorem recvHead_fault (hrec : peer.receive (buff_size - offset) = .ok (bytes, left)) (hoffset : offset ≤ buff_size)
    (hdata : data.length = buff_size + 1)
    (h : parser.exec (received data offset bytes) (offset + bytes.length) = .fault) :
    recvHead buff_size (fuel + 1) parser data offset peer = .error .lengthError := by
  have hle := (Peer.receive_spec hrec).length_le
  have hend := received_end (show offset + bytes.length < data.length by omega)
  have hlt : offset + bytes.length < 2 ^ 31 := by have := buff_size.2; omega
  rw [recvHead, hrec]
  simp only [ok_bind]
  rw [← received, execute_fault hlt hend h]
  rfl

/-- A round whose run ends at `p` in state `cs`. -/
theorem recvHead_result (hrec : peer.receive (buff_size - offset) = .ok (bytes, left)) (hoffset : offset ≤ buff_size)
    (hdata : data.length = buff_size + 1)
    (h : (parser.exec (received data offset bytes) (offset + bytes.length)).result (offset + bytes.length)
      httpclient_parser_error = some (p, cs, m, d)) :
    recvHead buff_size (fuel + 1) parser data offset peer =
      if (leave m d cs p).hasError then .error .closed
      else
        let len := offset + bytes.length
        let data := received data offset bytes
        let data := overwrite data 0 ((data.drop p).take (len - p))
        if len - p = buff_size then .error .closed
        else if (leave m d cs p).isFinished ≠ 0 then .ok (leave m d cs p, data, len - p, left)
        else recvHead buff_size fuel (leave m d cs p) data (len - p) left := by
  have hr := Peer.receive_spec hrec
  have hpos : 0 < bytes.length := List.length_pos_of_ne_nil hr.ne_nil
  have hle := hr.length_le
  have hend := received_end (show offset + bytes.length < data.length by omega)
  have hlt : offset + bytes.length < 2 ^ 31 := by have := buff_size.2; omega
  rw [recvHead, hrec]
  simp only [ok_bind]
  rw [← received, (execute_eq (by omega) hlt hend h).2]
  rfl

theorem take_moved {n : Nat} (hn : n ≤ data.length) (hp : p ≤ n) :
    (overwrite data 0 ((data.drop p).take (n - p))).take (n - p) = (data.take n).drop p := by
  have hlen : ((data.drop p).take (n - p)).length = n - p := by
    simp only [List.length_take, List.length_drop]
    omega
  have htake : (overwrite data 0 ((data.drop p).take (n - p))).take ((data.drop p).take (n - p)).length =
      (data.drop p).take (n - p) := take_overwrite_zero (by omega)
  rw [hlen] at htake
  rw [htake, List.drop_take]

/-- What the head loop leaves: some bytes are read, the others are in the buffer or still to arrive. -/
structure HeadRead (buff_size : BufferSize) (parser : HttpResponseParser) (stream : Bytes) (peer : Peer)
    (parser' : HttpResponseParser) (data : Bytes) (offset : Nat) (left : Peer) : Prop where
  bytes_eq : ∃ head, stream = head ++ (data.take offset ++ left.bytes)
  length_eq : data.length = buff_size + 1
  offset_le : offset ≤ buff_size
  size_lt : left.size < peer.size
  successful : peer.Successful → left.Successful
  body_eq : parser'.m_data.m_body = parser.m_data.m_body

theorem recvHead_headRead {parser' : HttpResponseParser} {data' : Bytes} {offset' : Nat}
    (hoffset : offset ≤ buff_size) (hdata : data.length = buff_size + 1)
    (h : recvHead buff_size fuel parser data offset peer = .ok (parser', data', offset', left)) :
    HeadRead buff_size parser (data.take offset ++ peer.bytes) peer parser' data' offset' left := by
  induction fuel generalizing parser data offset peer with
  | zero => cases h
  | succ fuel ih =>
      cases hrec : peer.receive (buff_size - offset) with
      | error s => rw [recvHead_closed hrec] at h; cases h
      | ok r =>
          obtain ⟨bytes, rest⟩ := r
          have hr := Peer.receive_spec hrec
          have hfit : offset + bytes.length < data.length := by have := hr.length_le; omega
          have hlen := length_received hfit
          have htake := take_received hfit
          cases hres : (parser.exec (received data offset bytes) (offset + bytes.length)).result
              (offset + bytes.length) httpclient_parser_error with
          | none =>
              rw [recvHead_fault hrec hoffset hdata (Run.result_eq_none hres)] at h
              cases h
          | some r =>
              obtain ⟨p, cs, m, d⟩ := r
              have hlt : offset + bytes.length < 2 ^ 31 := by have := buff_size.2; omega
              have hpos : 0 < bytes.length := List.length_pos_of_ne_nil hr.ne_nil
              have hp := (execute_eq (by omega) hlt (received_end hfit) hres).1
              have hbody := httpclient_parser_exec_body (Nat.zero_le _) (by omega) hres
              have hmoved := take_moved (show offset + bytes.length ≤ (received data offset bytes).length by omega) hp
              have hlen' : (overwrite (received data offset bytes) 0
                  (((received data offset bytes).drop p).take (offset + bytes.length - p))).length =
                    buff_size + 1 := by
                rw [length_overwrite, hlen, hdata]
                simp only [List.length_take, List.length_drop, hlen]
                omega
              have hsplit : data.take offset ++ peer.bytes =
                  (data.take offset ++ bytes).take p ++
                    ((received data offset bytes).take (offset + bytes.length)).drop p ++ rest.bytes := by
                rw [htake, List.take_append_drop, hr.bytes_eq, List.append_assoc]
              rw [recvHead_result hrec hoffset hdata hres] at h
              simp only at h
              split at h
              · cases h
              · split at h
                · cases h
                · split at h
                  · cases h
                    refine ⟨⟨(data.take offset ++ bytes).take p, ?_⟩, hlen', by omega, hr.size_lt, hr.successful,
                      hbody⟩
                    rw [hmoved, hsplit, List.append_assoc]
                  · have hread := ih (show offset + bytes.length - p ≤ buff_size by omega) hlen' h
                    obtain ⟨head, hhead⟩ := hread.bytes_eq
                    refine ⟨⟨(data.take offset ++ bytes).take p ++ head, ?_⟩, hread.length_eq, hread.offset_le,
                      by have := hread.size_lt; have := hr.size_lt; omega,
                      fun hs => hread.successful (hr.successful hs), hread.body_eq.trans hbody⟩
                    rw [hsplit, List.append_assoc, ← hmoved, hhead, List.append_assoc]

end HttpConnection

end Mingfwq.Http
