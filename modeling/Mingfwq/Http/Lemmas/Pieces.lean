import Mingfwq.Http.Lemmas.Restart

/-!
# A response head in pieces

The loop of recvResponse over the pieces of a head, in each of which the automaton starts afresh.
-/

namespace Mingfwq.Http

open Lib HttpClientParser HttpResponseParser

namespace HttpConnection

variable {buff_size : BufferSize} {fuel b offset : Nat} {parser : HttpResponseParser} {data piece : Bytes}
  {pieces : List Bytes} {peer rest : Peer} {r : HttpResponseParser × Bytes × Nat × Peer}

/-- The first `n` bytes of the buffer, when `bytes` have been read. -/
theorem exec_received (parser : HttpResponseParser) {bytes : Bytes} (hfit : offset + bytes.length < data.length) :
    parser.exec (received data offset bytes) (offset + bytes.length) =
      scan httpclient_parser_next Action.breaks
        (HttpClientParser.run callbacks (received data offset bytes) (offset + bytes.length)) 0
        (data.take offset ++ bytes) httpclient_parser_start
          (httpclient_parser_init parser.mParser, parser.toParsed) := by
  rw [HttpResponseParser.exec, httpclient_parser_exec, take_received hfit, List.drop_zero]
  rfl

/-- A run that fails ends the loop without a head. -/
theorem recvHead_failed {bytes : Bytes} {left : Peer} (hrec : peer.receive (buff_size - offset) = .ok (bytes, left))
    (hoffset : offset ≤ buff_size) (hdata : data.length = buff_size + 1)
    (h : (parser.exec (received data offset bytes) (offset + bytes.length)).Failed) :
    recvHead buff_size (fuel + 1) parser data offset peer ≠ .ok r := by
  cases hexec : parser.exec (received data offset bytes) (offset + bytes.length) with
  | live cs k | stop p cs k =>
      rw [hexec] at h
      exact h.elim
  | fault =>
      rw [recvHead_fault hrec hoffset hdata hexec]
      rintro ⟨⟩
  | err p k =>
      obtain ⟨m, d⟩ := k
      have hres : (parser.exec (received data offset bytes) (offset + bytes.length)).result (offset + bytes.length)
          httpclient_parser_error = some (p, httpclient_parser_error, m, d) := by
        rw [hexec]
        rfl
      have herror : (leave m d httpclient_parser_error p).hasError = true := by
        rw [← Bool.not_eq_false, leave_hasError]
        exact fun h => h.2 rfl
      rw [recvHead_result hrec hoffset hdata hres, herror, if_pos rfl]
      rintro ⟨⟩

/-- A run over all bytes of the buffer empties it, and the loop goes on. -/
theorem recvHead_next (fuel : Nat) {bytes : Bytes} {left : Peer} {cs : Nat} {m : HttpClientParser}
    {d : Parsed HttpResponse} (hrec : peer.receive (buff_size - offset) = .ok (bytes, left))
    (hoffset : offset ≤ buff_size) (hdata : data.length = buff_size + 1)
    (h : parser.exec (received data offset bytes) (offset + bytes.length) = .live cs (m, d)) (hd : d.m_error = 0) :
    ∃ data' : Bytes, data'.length = buff_size + 1 ∧
      recvHead buff_size (fuel + 1) parser data offset peer =
        recvHead buff_size fuel (leave m d cs (offset + bytes.length)) data' 0 left := by
  have hr := Peer.receive_spec hrec
  have hfit : offset + bytes.length < data.length := by have := hr.length_le; omega
  have hpos : 0 < bytes.length := List.length_pos_of_ne_nil hr.ne_nil
  have hres : (parser.exec (received data offset bytes) (offset + bytes.length)).result (offset + bytes.length)
      httpclient_parser_error = some (offset + bytes.length, cs, m, d) := by
    rw [h]
    rfl
  obtain ⟨hlo, hhi⟩ := live_state h
  have hcs : cs ≠ httpclient_parser_error := Nat.ne_of_gt hlo
  have hlive : (leave m d cs (offset + bytes.length)).hasError = false := leave_hasError.mpr ⟨hd, hcs⟩
  rw [recvHead_result hrec hoffset hdata hres, hlive, if_neg Bool.false_ne_true]
  simp only [Nat.sub_self]
  rw [if_neg (by have := hr.length_le; omega), if_neg (mt (leave_isFinished hcs).mp (Nat.ne_of_lt hhi))]
  refine ⟨_, ?_, rfl⟩
  rw [List.take_zero, overwrite_nil (Nat.zero_le _), length_received hfit, hdata]

/-- What such a loop ends with. -/
theorem recvHead_live {bytes : Bytes} {left : Peer} {cs : Nat} {k : HttpClientParser × Parsed HttpResponse}
    (hrec : peer.receive (buff_size - offset) = .ok (bytes, left))
    (hoffset : offset ≤ buff_size) (hdata : data.length = buff_size + 1)
    (h : parser.exec (received data offset bytes) (offset + bytes.length) = .live cs k)
    (hok : recvHead buff_size (fuel + 1) parser data offset peer = .ok r) :
    ∃ (parser' : HttpResponseParser) (data' : Bytes), data'.length = buff_size + 1 ∧
      recvHead buff_size fuel parser' data' 0 left = .ok r := by
  obtain ⟨m, d⟩ := k
  by_cases hd : d.m_error = 0
  · obtain ⟨data', hdata', heq⟩ := recvHead_next fuel hrec hoffset hdata h hd
    exact ⟨_, data', hdata', heq.symm.trans hok⟩
  · have hres : (parser.exec (received data offset bytes) (offset + bytes.length)).result (offset + bytes.length)
        httpclient_parser_error = some (offset + bytes.length, cs, m, d) := by
      rw [h]
      rfl
    have herror : (leave m d cs (offset + bytes.length)).hasError = true := by
      rw [← Bool.not_eq_false, leave_hasError]
      exact fun h => hd h.1
    rw [recvHead_result hrec hoffset hdata hres, herror, if_pos rfl] at hok
    cases hok

/-- Inside a head, a loop that is astray finds no head. -/
theorem recvHead_astray {held : Bytes} (hastray : astray httpclient_parser_start b = true)
    (hacc : httpclient_parser_accepts (held ++ pieces.flatten) b = true)
    (hne : ∀ piece ∈ pieces, piece ≠ []) (hfit : (held ++ pieces.flatten).length ≤ buff_size)
    (hdata : data.length = buff_size + 1) (hheld : data.take held.length = held) :
    recvHead buff_size fuel parser data held.length (pieces.map .data ++ rest) ≠ .ok r := by
  induction pieces generalizing held b fuel parser data with
  | nil =>
      rw [List.flatten_nil, List.append_nil] at hfit
      cases fuel with
      | zero => rintro ⟨⟩
      | succ fuel =>
          cases hrec : Peer.receive rest (buff_size - held.length) with
          | error s =>
              rw [List.map_nil, List.nil_append, recvHead_closed hrec]
              rintro ⟨⟩
          | ok q =>
              obtain ⟨bytes, left⟩ := q
              have hle := (Peer.receive_spec hrec).length_le
              -- the run does not get over the bytes of the head that are in the buffer
              apply recvHead_failed hrec (by omega) hdata
              rw [exec_received _ (by omega), hheld]
              apply scan_append_failed
              rcases astray_scan hastray hacc with hfailed | ⟨a', k', b', -, -, hnil⟩
              · exact hfailed
              · cases hnil
  | cons piece pieces ih =>
      cases fuel with
      | zero => rintro ⟨⟩
      | succ fuel =>
          rw [List.flatten_cons, ← List.append_assoc] at hacc hfit
          simp only [List.length_append] at hfit
          have hpiece := hne piece List.mem_cons_self
          have hrec : Peer.receive (.data piece :: (pieces.map .data ++ rest)) (buff_size - held.length) =
              .ok (piece, pieces.map .data ++ rest) := Peer.receive_data hpiece (by omega)
          have hexec := exec_received parser (show held.length + piece.length < data.length by omega)
          rw [hheld] at hexec
          rcases astray_scan hastray hacc with hfailed | ⟨a', k', b', hlive, hastray', hacc'⟩
          · apply recvHead_failed hrec (by omega) hdata
            rw [hexec]
            exact hfailed
          · intro hok
            obtain ⟨parser', data', hdata', hok'⟩ := recvHead_live hrec (by omega) hdata (hexec.trans hlive) hok
            exact ih (astray_restart hastray')
                (show httpclient_parser_accepts ([] ++ pieces.flatten) b' = true from hacc')
                  (fun p hp => hne p (List.mem_cons_of_mem _ hp))
              (by rw [List.nil_append]; omega) hdata' rfl hok'

/-- The loop has taken the end of a line for the size of a chunk, and the rest of the head is still ahead. -/
structure Strayed (buff_size : BufferSize) (pieces : List Bytes) (rest : Peer)
    (r : HttpResponseParser × Bytes × Nat × Peer) (held : Bytes) (b : Nat) : Prop where
  lineStart : lineStart b = true
  accepted : httpclient_parser_accepts (held ++ pieces.flatten) b = true
  chunked : r.1.mParser.chunked = true
  length_eq : r.2.1.length = buff_size + 1
  held_eq : r.2.1.take held.length = held
  offset_eq : r.2.2.1 = held.length
  left_eq : r.2.2.2 = pieces.map .data ++ rest

/-- A round ends the loop with the last piece, or astray, or the loop goes on inside the head. -/
theorem recvHead_round (hbeside : (parser.exec (received data 0 piece) (0 + piece.length)).Beside
      httpclient_parser_next Action.breaks httpclient_parser_first_final Alongside EndsAlongside 0 piece pieces.flatten)
    (hpiece : piece ≠ []) (hne : ∀ piece ∈ pieces, piece ≠ []) (hfit : piece.length ≤ buff_size)
    (hdata : data.length = buff_size + 1)
    (hok : recvHead buff_size (fuel + 1) parser data 0 (.data piece :: (pieces.map .data ++ rest)) = .ok r) :
    (pieces = [] ∧ httpclient_parser_accepts piece httpclient_parser_start = true) ∨
      (∃ held b, Strayed buff_size pieces rest r held b ∧ held.length ≤ piece.length) ∨
      ∃ b parser' data', (∀ k : HttpClientParser × Parsed HttpResponse, Alongside httpclient_parser_start b k) ∧
        httpclient_parser_accepts pieces.flatten b = true ∧ List.length data' = buff_size.1 + 1 ∧
        recvHead buff_size fuel parser' data' 0 (pieces.map .data ++ rest) = .ok r := by
  have hrec : Peer.receive (.data piece :: (pieces.map .data ++ rest)) (buff_size - 0) =
      .ok (piece, pieces.map .data ++ rest) := Peer.receive_data hpiece hfit
  have hlt : 0 + piece.length < data.length := by omega
  have hexec := exec_received parser hlt
  cases hrun : parser.exec (received data 0 piece) (0 + piece.length) with
  | err p k | fault =>
      apply absurd hok
      apply recvHead_failed hrec (Nat.zero_le _) hdata
      rw [hrun]
      trivial
  | live a k =>
      rw [hrun] at hbeside
      obtain ⟨b, halong, hacc⟩ := hbeside
      obtain ⟨parser', data', hdata', hok'⟩ := recvHead_live hrec (Nat.zero_le _) hdata hrun hok
      exact .inr (.inr ⟨b, parser', data', halong.restart, hacc, hdata', hok'⟩)
  | stop p cs k =>
      obtain ⟨m, d⟩ := k
      rw [hrun] at hbeside
      obtain ⟨both, b, n, hends, rfl, hn, hrest⟩ := hbeside
      have hres : (parser.exec (received data 0 piece) (0 + piece.length)).result (0 + piece.length)
          httpclient_parser_error = some (0 + n, cs, m, d) := by
        rw [hrun]
        rfl
      have hfinal : cs = httpclient_parser_first_final := by
        cases both with
        | true => exact hends.trans hrest.2
        | false => exact hends.1
      subst hfinal
      rw [hexec, List.take_zero, List.nil_append] at hrun
      rw [recvHead_result hrec (Nat.zero_le _) hdata hres] at hok
      split at hok
      · cases hok
      · simp only at hok
        split at hok
        · cases hok
        · rw [if_pos ((leave_isFinished (by decide)).mpr rfl)] at hok
          cases hok
          cases both with
          | true =>
              obtain ⟨hdrop, hnil⟩ := List.append_eq_nil_iff.mp hrest.1
              have hall : n = piece.length := by
                have := List.drop_eq_nil_iff.mp hdrop
                omega
              refine .inl ⟨?_, scan_accepts (hall ▸ hrun)⟩
              cases pieces with
              | nil => rfl
              | cons p pieces =>
                  rw [List.flatten_cons] at hnil
                  exact absurd (List.append_eq_nil_iff.mp hnil).1 (hne p List.mem_cons_self)
          | false =>
              obtain ⟨-, hline, hchunked⟩ := hends
              have hlength : (piece.drop n).length = 0 + piece.length - (0 + n) := by
                rw [List.length_drop]
                omega
              have hlen := length_received hlt
              refine .inr (.inl ⟨piece.drop n, b, ⟨hline, hrest, hchunked, ?_, ?_, hlength.symm, rfl⟩, ?_⟩)
              · simp only
                rw [length_overwrite, hlen, hdata]
                simp only [List.length_take, List.length_drop, hlen]
                omega
              · simp only
                rw [hlength, take_moved (by omega) (by omega), take_received hlt, List.take_zero, List.nil_append,
                  Nat.zero_add]
              · rw [List.length_drop]
                omega

/-- The loop over the pieces that follow the first. -/
theorem recvHead_pieces (halong : ∀ k : HttpClientParser × Parsed HttpResponse, Alongside httpclient_parser_start b k)
    (hacc : httpclient_parser_accepts pieces.flatten b = true) (hne : ∀ piece ∈ pieces, piece ≠ [])
    (hfit : pieces.flatten.length ≤ buff_size) (hdata : data.length = buff_size + 1)
    (hok : recvHead buff_size fuel parser data 0 (pieces.map .data ++ rest) = .ok r) :
    (∃ last, pieces.getLast? = some last ∧ httpclient_parser_accepts last httpclient_parser_start = true) ∨
      ∃ pieces' held b, Strayed buff_size pieces' rest r held b ∧ (∀ piece ∈ pieces', piece ≠ []) ∧
        (held ++ pieces'.flatten).length ≤ buff_size := by
  induction pieces generalizing b fuel parser data with
  | nil => cases hacc
  | cons piece pieces ih =>
      cases fuel with
      | zero => cases hok
      | succ fuel =>
          have hne' : ∀ piece ∈ pieces, piece ≠ [] := fun p hp => hne p (List.mem_cons_of_mem _ hp)
          rw [List.flatten_cons] at hacc hfit
          rw [List.length_append] at hfit
          have hbeside : (parser.exec (received data 0 piece) (0 + piece.length)).Beside httpclient_parser_next
              Action.breaks httpclient_parser_first_final Alongside EndsAlongside 0 piece pieces.flatten := by
            rw [exec_received _ (by omega)]
            exact (halong _).scan hacc
          rcases recvHead_round hbeside (hne piece List.mem_cons_self) hne' (by omega) hdata hok with
            ⟨rfl, hlast⟩ | ⟨held, b', hstrayed, hheld⟩ | ⟨b', parser', data', halong', hacc', hdata', hok'⟩
          · exact .inl ⟨piece, rfl, hlast⟩
          · exact .inr ⟨pieces, held, b', hstrayed, hne', by rw [List.length_append]; omega⟩
          · rcases ih halong' hacc' hne' (by omega) hdata' hok' with ⟨last, hlast, haccepts⟩ | hstrayed
            · refine .inl ⟨last, ?_, haccepts⟩
              rw [List.getLast?_cons, hlast, Option.getD_some]
            · exact .inr hstrayed

/-- After a size that is none, the loop that reads the chunks finds no chunk. -/
theorem recvChunks_strayed {held : Bytes} (h : Strayed buff_size pieces rest r held b)
    (hne : ∀ piece ∈ pieces, piece ≠ []) (hfit : (held ++ pieces.flatten).length ≤ buff_size) {body : Bytes}
    {r' : HttpResponseParser × Bytes × Peer} : recvChunks buff_size fuel r.1 body r.2.1 r.2.2.1 r.2.2.2 ≠ .ok r' := by
  cases fuel with
  | zero => rintro ⟨⟩
  | succ fuel =>
      have hastray : astray httpclient_parser_start b = true := by
        simp only [astray, h.lineStart, Bool.and_true, Bool.or_eq_true]
        exact .inl rfl
      rw [h.offset_eq, h.left_eq, recvChunks]
      intro hok
      obtain ⟨r₁, hhead, -⟩ := bind_eq_ok.mp hok
      exact recvHead_astray hastray h.accepted hne hfit h.length_eq h.held_eq hhead

end HttpConnection

end Mingfwq.Http
