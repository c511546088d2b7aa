import Mingfwq.Http.Lemmas.Segments
import Mingfwq.Http.Theorems.ContentLength

/-!
# A request whose head arrives in pieces
-/

namespace Mingfwq.Http

open Lib HttpRequestParser

namespace HttpSession

variable {buff_size : BufferSize} {memory : Memory HttpParser} {lexical_cast : LexicalCast}

theorem recvBody_empty {length : Int} {data : Bytes} {peer : Peer} :
    recvBody length data 0 peer = recvBody length [] 0 peer := by
  simp only [recvBody, bodyFromBuffer, Nat.zero_le, ge_iff_le, if_true, List.take_zero]

/-- What recvRequest does when the head has been read to its end. -/
theorem recvRequest_headEnd {parsed : Parsed HttpRequest} {peer rest : Peer}
    (h : HeadEnd parsed rest
      (recvHead buff_size (peer.size + 1) (.new memory.mParser) (memory.newChars buff_size) 0 peer)) :
    recvRequest buff_size memory lexical_cast peer =
      if parsed.m_error ≠ 0 then .error .closed
      else
        let length := getAs lexical_cast parsed.m_data.m_headers (ascii "content-length") 0
        (recvBody (toInt64 length.toNat) [] 0 rest).bind fun (body, left) =>
          match body with
          | some body => .ok ({ parsed.m_data with m_body := body }, left)
          | none => .ok (parsed.m_data, left) := by
  rw [HeadEnd] at h
  rw [recvRequest]
  split at h
  · next herror => rw [h, if_pos herror, error_bind]
  · next hok =>
      obtain ⟨parser, data, hhead, rfl⟩ := h
      rw [hhead, if_neg hok, ok_bind]
      simp only [@recvBody_empty _ data, HttpRequestParser.getContentLength]
      rfl

/-- A well-formed head that arrives in pieces gives the same request as in one read, and leaves the same still to
arrive, when in no piece the automaton reads a register that it has not set in it. -/
theorem recvRequest_segments {head : Bytes} {segs : List Bytes} {rest : Peer}
    (haccepts : http_parser_accepts memory.mParser.uri_relaxed head) (hfit : head.length ≤ buff_size)
    (hsegs : segs.flatten = head) (hne : ∀ s ∈ segs, s ≠ [])
    (hown : ownReads memory.mParser.uri_relaxed http_parser_start segs) :
    recvRequest buff_size memory lexical_cast (segs.map .data ++ rest) =
      recvRequest buff_size memory lexical_cast (.data head :: rest) := by
  obtain ⟨cs, hpath⟩ := haccepts
  have hpos : head ≠ [] := by
    rintro rfl
    cases hpath
  have hdata : (memory.newChars buff_size).length = buff_size := by simp [Memory.newChars]
  have hw : ∀ segs : List Bytes, segs.flatten = head → Whole ([] ++ segs.flatten) head := by
    rintro segs rfl
    exact ⟨List.take_length, Nat.le_refl _⟩
  have hone : ownReads memory.mParser.uri_relaxed http_parser_start [head] := by
    rw [ownReads]
    split
    · rfl
    · next hfault => exact absurd hfault http_parser_watch_start
    · rfl
  have hend : ∀ segs : List Bytes, segs.flatten = head → (∀ s ∈ segs, s ≠ []) →
      ownReads memory.mParser.uri_relaxed http_parser_start segs →
      ∃ k', scan (http_parser_next memory.mParser.uri_relaxed) HttpParser.Action.breaks
          (HttpParser.run callbacks head head.length) 0 head http_parser_start
            ((HttpRequestParser.new memory.mParser).mParser, (HttpRequestParser.new memory.mParser).toParsed) =
          .stop head.length cs k' ∧
        HeadEnd k'.2 rest (recvHead buff_size (Peer.size (segs.map .data ++ rest) + 1) (.new memory.mParser)
          (memory.newChars buff_size) 0 (segs.map .data ++ rest)) := by
    intro segs hsegs hne hown
    have hfuel : segs.length ≤ Peer.size (segs.map .data ++ rest) + 1 := by
      rw [Peer.size_data_append]
      omega
    have hparsed : (HttpRequestParser.new memory.mParser).toParsed =
        ((HttpRequestParser.new memory.mParser).mParser, (HttpRequestParser.new memory.mParser).toParsed).2 := rfl
    obtain ⟨k', hrun, hhead⟩ := recvHead_segments (hw segs hsegs) hne (by rw [hsegs]; exact hfit) hfuel hdata
      (ready_new memory.mParser) hparsed hown (by rw [hsegs]; exact hpath)
    rw [hsegs] at hrun
    exact ⟨k', hrun, hhead⟩
  obtain ⟨k, hrun, hpieces⟩ := hend segs hsegs hne hown
  obtain ⟨k', hrun', hwhole⟩ := hend [head] (List.flatten_singleton) (by simp [hpos]) hone
  rw [hrun] at hrun'
  cases hrun'
  rw [recvRequest_headEnd hpieces]
  exact (recvRequest_headEnd hwhole).symm

end HttpSession

/-! ## Heads in two pieces -/

/-- A head cut between its lines. -/
theorem recvRequest_segments_lines :
    HttpSession.recvRequest defaultBufferSize zeroMemory decimal
        [.data (ascii "POST / HTTP/1.1\r\n"), .data (ascii "Content-Length: 3\r\n\r\n"), .data (ascii "abc")] =
      HttpSession.recvRequest defaultBufferSize zeroMemory decimal [.data postHead, .data (ascii "abc")] :=
  @HttpSession.recvRequest_segments defaultBufferSize zeroMemory decimal postHead
    [ascii "POST / HTTP/1.1\r\n", ascii "Content-Length: 3\r\n\r\n"] [.data (ascii "abc")]
    ⟨http_parser_first_final, by decide +kernel⟩ (by decide) (by decide) (by decide) (by decide +kernel)

/-- A head cut inside the path, which then is what stands behind the cut. -/
theorem recvRequest_segments_path :
    http_parser_accepts false (ascii "GET /a/b HTTP/1.1\r\n\r\n") ∧
    (HttpSession.recvRequest defaultBufferSize zeroMemory decimal
      [.data (ascii "GET /a/b HTTP/1.1\r\n\r\n")]).map (fun r => r.1.m_path) = .ok (ascii "/a/b") ∧
    (HttpSession.recvRequest defaultBufferSize zeroMemory decimal
      [.data (ascii "GET /a"), .data (ascii "/b HTTP/1.1\r\n\r\n")]).map (fun r => r.1.m_path) = .ok (ascii "/b") :=
  ⟨⟨http_parser_first_final, by decide +kernel⟩, by decide +kernel, by decide +kernel⟩

end Mingfwq.Http
