import Mingfwq.Http.Lemmas.Pieces
import Mingfwq.Http.Theorems.ContentLength

/-!
# A response whose head arrives in pieces
-/

namespace Mingfwq.Http

open Lib HttpClientParser

namespace HttpConnection

variable {buff_size : BufferSize} {memory : Memory HttpClientParser} {lexical_cast : LexicalCast}
  {pieces : List Bytes} {rest : Peer}

/-- The automaton takes `head` for the head of a response, to its last byte. -/
structure WellFormedHead (head : Bytes) : Prop where
  first : head.head? = some 72
  accepted : httpclient_parser_accepts head httpclient_parser_start = true

/-- The pieces give a response with the same head. -/
def GetsHead (buff_size : BufferSize) (memory : Memory HttpClientParser) (lexical_cast : LexicalCast)
    (peer : Peer) (response : HttpResponse) : Prop :=
  ∃ response' left, recvResponse buff_size memory lexical_cast peer = .ok (response', left) ∧
    response'.m_status = response.m_status ∧ response'.m_reason = response.m_reason ∧
    response'.m_version = response.m_version ∧ response'.m_headers = response.m_headers

/-- A response comes of several pieces only if the last of them is a head by itself. -/
theorem recvResponse_last (hhead : WellFormedHead pieces.flatten) (hne : ∀ piece ∈ pieces, piece ≠ [])
    (hfit : pieces.flatten.length ≤ buff_size) {response : HttpResponse} {left : Peer}
    (hok : recvResponse buff_size memory lexical_cast (pieces.map .data ++ rest) = .ok (response, left)) :
    pieces.length = 1 ∨
      ∃ last, pieces.getLast? = some last ∧ httpclient_parser_accepts last httpclient_parser_start = true := by
  obtain ⟨hfirst, hacc⟩ := hhead
  cases pieces with
  | nil => cases hfirst
  | cons piece pieces =>
      have hpiece := hne piece List.mem_cons_self
      have hne' : ∀ piece ∈ pieces, piece ≠ [] := fun p hp => hne p (List.mem_cons_of_mem _ hp)
      rw [List.flatten_cons] at hfirst hacc hfit
      rw [List.length_append] at hfit
      have hdata : (memory.newChars (buff_size + 1)).length = buff_size + 1 := by simp [Memory.newChars]
      have hfirst' : piece.head? = some 72 := by
        cases piece with
        | nil => exact absurd rfl hpiece
        | cons c piece => exact hfirst
      rw [recvResponse] at hok
      obtain ⟨r, hhead, hok⟩ := bind_eq_ok.mp hok
      have hbeside : ((HttpResponseParser.new memory.mParser).exec
          (received (memory.newChars (buff_size + 1)) 0 piece) (0 + piece.length)).Beside httpclient_parser_next
            Action.breaks httpclient_parser_first_final Alongside EndsAlongside 0 piece pieces.flatten := by
        rw [exec_received _ (by omega)]
        exact scan_first hfirst' hacc
      have hends : (∃ last, (piece :: pieces).getLast? = some last ∧
            httpclient_parser_accepts last httpclient_parser_start = true) ∨
          ∃ pieces' held b, Strayed buff_size pieces' rest r held b ∧ (∀ piece ∈ pieces', piece ≠ []) ∧
            (held ++ pieces'.flatten).length ≤ buff_size := by
        rcases recvHead_round hbeside hpiece hne' (by omega) hdata hhead with
          ⟨rfl, hlast⟩ | ⟨held, b, hstrayed, hheld⟩ | ⟨b, parser', data', halong, hacc', hdata', hhead'⟩
        · exact .inl ⟨piece, rfl, hlast⟩
        · exact .inr ⟨pieces, held, b, hstrayed, hne', by rw [List.length_append]; omega⟩
        · rcases recvHead_pieces halong hacc' hne' (by omega) hdata' hhead' with ⟨last, hlast, haccepts⟩ | hstrayed
          · refine .inl ⟨last, ?_, haccepts⟩
            rw [List.getLast?_cons, hlast, Option.getD_some]
          · exact .inr hstrayed
      rcases hends with hlast | ⟨pieces', held, b, hstrayed, hne', hfit'⟩
      · exact .inr hlast
      · -- the flag of chunks is set, but the bytes ahead are those of a head
        simp only [hstrayed.chunked, if_true] at hok
        obtain ⟨r', hchunks, -⟩ := bind_eq_ok.mp hok
        exact absurd hchunks (recvChunks_strayed hstrayed hne' hfit')

/-- A well-formed head that arrives in one read gives the response it gives in one read; one that arrives in pieces
does so only if the last piece is a head by itself. -/
theorem recvResponse_pieces (hhead : WellFormedHead pieces.flatten) (hne : ∀ piece ∈ pieces, piece ≠ [])
    (hfit : pieces.flatten.length ≤ buff_size) {response : HttpResponse} {left : Peer}
    (hone : recvResponse buff_size memory lexical_cast (.data pieces.flatten :: rest) = .ok (response, left)) :
    (pieces.length = 1 → GetsHead buff_size memory lexical_cast (pieces.map .data ++ rest) response) ∧
      (GetsHead buff_size memory lexical_cast (pieces.map .data ++ rest) response →
        pieces.length = 1 ∨
          ∃ last, pieces.getLast? = some last ∧
            httpclient_parser_accepts last httpclient_parser_start = true) := by
  constructor
  · intro hlen
    obtain ⟨piece, rfl⟩ := List.length_eq_one_iff.mp hlen
    rw [List.flatten_singleton] at hone
    exact ⟨response, left, hone, rfl, rfl, rfl, rfl⟩
  · rintro ⟨response', left', hok, -⟩
    exact recvResponse_last hhead hne hfit hok

end HttpConnection

/-! ## A head cut between its lines -/

def serverHead : List Bytes := [ascii "HTTP/1.1 200 OK\r\n", ascii "Server: x\r\n\r\n"]

theorem serverHead_wellFormed : HttpConnection.WellFormedHead serverHead.flatten :=
  ⟨by rfl, by rfl⟩

/-- In one read it gives a response. -/
theorem serverHead_one : ∃ response left,
    HttpConnection.recvResponse defaultBufferSize zeroClientMemory decimal [.data serverHead.flatten] =
      .ok (response, left) := by
  have heval : (HttpConnection.recvResponse defaultBufferSize zeroClientMemory decimal
      [.data serverHead.flatten]).map (fun r => r.1.m_status) = .ok 200 := by decide +kernel
  obtain ⟨⟨response, left⟩, hone⟩ := exists_of_map_eq_ok heval
  exact ⟨response, left, hone⟩

/-- In two reads it gives none. -/
theorem serverHead_lost : ¬ ∀ buff_size memory lexical_cast (pieces : List Bytes) (rest : Peer) response left,
    HttpConnection.WellFormedHead pieces.flatten → (∀ piece ∈ pieces, piece ≠ []) →
    pieces.flatten.length ≤ buff_size.1 →
    HttpConnection.recvResponse buff_size memory lexical_cast (.data pieces.flatten :: rest) = .ok (response, left) →
      HttpConnection.GetsHead buff_size memory lexical_cast (pieces.map .data ++ rest) response := by
  intro h
  obtain ⟨response, left, hone⟩ := serverHead_one
  obtain ⟨response', left', hret, -⟩ := h defaultBufferSize zeroClientMemory decimal serverHead [] response left
    serverHead_wellFormed (by decide) (by decide) hone
  have heval : (HttpConnection.recvResponse defaultBufferSize zeroClientMemory decimal
      (serverHead.map .data ++ [])).map (fun _ => ()) = .error .closed := by decide +kernel
  rw [hret] at heval
  cases heval

/-- In one read and in two. -/
theorem recvResponse_pieces_serverHead : ∃ response,
    HttpConnection.GetsHead defaultBufferSize zeroClientMemory decimal [.data serverHead.flatten] response ∧
    ¬ HttpConnection.GetsHead defaultBufferSize zeroClientMemory decimal (serverHead.map .data) response := by
  obtain ⟨response, left, hone⟩ := serverHead_one
  have hflat : [serverHead.flatten].flatten = serverHead.flatten := List.flatten_singleton
  refine ⟨response, ?_, fun hgets => ?_⟩
  · exact (@HttpConnection.recvResponse_pieces defaultBufferSize zeroClientMemory decimal [serverHead.flatten] []
      (hflat ▸ serverHead_wellFormed) (by decide) (by decide) response left (hflat.symm ▸ hone)).1 rfl
  · rcases (@HttpConnection.recvResponse_pieces defaultBufferSize zeroClientMemory decimal serverHead []
      serverHead_wellFormed (by decide) (by decide) response left hone).2 hgets with hlen | ⟨last, hlast, hacc⟩
    · cases hlen
    · cases hlast
      exact absurd hacc (by decide +kernel)

end Mingfwq.Http
